import MqmGateway.Executor.Steps
import MqmGateway.ModbusThread.Refinement

/-!
# The connection of a loop

What the loop announces about its connection, read off the events of a run,
event by event.
-/

namespace MqmGateway

namespace LoopEvent

/-- A connection is announced as open only once, and commands are sent only
while it is. -/
def link (up : Bool) : LoopEvent → Option Bool
  | .thread (.networkState isUp) => if isUp && up then none else some isUp
  | .thread (.bus (.issued _ _ _)) => if up then some up else none
  | _ => some up

theorem link_bus {up : Bool} {events : List ExecutorEvent}
    (quiet : up = false → ∀ event ∈ events, event.isTraffic = false) :
    ((events.map ThreadEvent.bus).map LoopEvent.thread).foldlM link up =
      some up := by
  induction events with
  | nil => rfl
  | cons event events induction =>
    have first : link up (.thread (.bus event)) = some up := by
      cases event with
      | issued command outcome retriesLeft =>
        cases up with
        | true => rfl
        | false => cases quiet rfl _ List.mem_cons_self
      | _ => rfl
    rw [List.map_cons, List.map_cons, List.foldlM_cons, first]
    exact induction fun down event listed =>
      quiet down event (List.mem_cons_of_mem _ listed)

end LoopEvent

namespace ModbusThread

variable {thread next : ModbusThread} {events : List ThreadEvent}

theorem call_link {call : ExecutorCall}
    (called : thread.call call = some (next, events))
    (adds : ∀ input, call ≠ .executeNext input) :
    (events.map LoopEvent.thread).foldlM LoopEvent.link
      thread.modbusConnected = some next.modbusConnected := by
  rw [(call_flags called).2.1]
  obtain ⟨⟨executor, calls⟩, stepped, same⟩ := Option.map_eq_some_iff.mp called
  cases same
  refine LoopEvent.link_bus fun _ => ?_
  rcases ModbusExecutor.step_execution stepped with ⟨input, executes, _⟩ | quiet
  · exact absurd executes (adds input)
  · exact quiet.2

theorem execute_link {input : ExecuteInput}
    (executed : thread.execute input = some (next, events))
    (connected : thread.modbusConnected = true) :
    (events.map LoopEvent.thread).foldlM LoopEvent.link
      thread.modbusConnected = some next.modbusConnected := by
  obtain ⟨executor, logged, returned, _, rfl, after⟩ :=
    execute_eq_some executed
  obtain ⟨_, _, same⟩ := after.same
  rw [same]
  exact LoopEvent.link_bus fun closed => by simp [connected] at closed

theorem step_link {input : ThreadInput}
    (stepped : thread.step input = some (next, events)) :
    (events.map LoopEvent.thread).foldlM LoopEvent.link
      thread.modbusConnected = some next.modbusConnected := by
  cases input <;> simp only [step, Option.ite_none_left_eq_some,
    Option.ite_none_right_eq_some] at stepped
  case connect now =>
    obtain ⟨_, closed, connected⟩ := stepped
    rw [connect] at connected
    split at connected
    · cases connected
      simp [closed, LoopEvent.link, sendNetworkState]
    · obtain ⟨⟨_, _⟩, called, same⟩ := Option.map_eq_some_iff.mp connected
      cases same
      have rest := call_link called (by simp)
      simpa [closed, LoopEvent.link, sendNetworkState] using rest
  case connectFails =>
    obtain ⟨_, closed, same⟩ := stepped
    cases same
    simp [closed, LoopEvent.link, sendNetworkState]
  case disconnect =>
    obtain ⟨_, _, same⟩ := stepped
    cases same
    simp [LoopEvent.link, sendNetworkState]
  case poll now added => exact call_link stepped.2.2 (by simp)
  case execute call =>
    obtain ⟨_, ready, executed⟩ := stepped
    simp only [Bool.and_eq_true] at ready
    exact execute_link executed ready.1.1
  case dispatch endAnswer now =>
    obtain ⟨_, handled⟩ := stepped
    split at handled
    · cases handled
    · rename_i request requests _
      cases request with
      | mqttNetworkState isUp =>
        cases handled
        rfl
      | _ =>
        have linked := call_link handled (by simp)
        exact linked

end ModbusThread

theorem SupervisedThread.step_link {supervised next : SupervisedThread}
    {input : SupervisedInput} {events : List LoopEvent}
    (stepped : supervised.step input = some (next, events)) :
    events.foldlM LoopEvent.link supervised.thread.modbusConnected =
      some next.thread.modbusConnected := by
  unfold step at stepped
  split at stepped
  · cases stepped
    rfl
  · cases stepped
  · obtain ⟨⟨_, _⟩, moved, same⟩ := Option.map_eq_some_iff.mp stepped
    cases same
    exact ModbusThread.step_link moved
  · split at stepped
    · obtain ⟨⟨_, _⟩, moved, same⟩ := Option.map_eq_some_iff.mp stepped
      cases same
      exact ModbusThread.step_link moved
    · cases stepped
  · cases stepped
    rfl

namespace ThreadLoop

variable {allowed : ThreadLoop → List LoopEvent → RoundInput → Prop}
  {loop : ThreadLoop} {history : List LoopEvent}

/-- The last state that was announced is that of the connection, an open
connection is announced once, and commands are sent only over one. -/
theorem connection_announced {first : ThreadLoop}
    (run : Runs step allowed first loop history) :
    history.foldlM LoopEvent.link first.thread.modbusConnected =
      some loop.thread.modbusConnected :=
  @Runs.foldlM _ _ _ _ _ _ (·.thread.modbusConnected) _
    SupervisedThread.step_link _ _ _ (Logged.Simulates.runs step_refines run)

theorem connection_announced_closed : ∃ loop history,
    Runs step (fun _ _ _ => True) waiting loop history ∧
      loop.closedAfterCommand = true ∧
      history.foldlM LoopEvent.link false = some loop.thread.modbusConnected := by
  obtain ⟨loop, history, run, closed⟩ := closingRounds_run
  exact ⟨loop, history, run, closed, connection_announced run⟩

end ThreadLoop

end MqmGateway
