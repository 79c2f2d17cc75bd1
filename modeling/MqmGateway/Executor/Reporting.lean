import MqmGateway.Executor.Execution

/-!
# What the executor reports about a poll

A successful read is reported only if it passes the test of `pollRegisters`.
The law one would like is that the latest message sent about a poll always
carries the values of its latest successful read.  It holds at a read exactly
when the read is reported or the latest message before it carried values.
-/

namespace MqmGateway

/-- The message that executing `command` sent with this event. -/
def ExecutorEvent.messageAbout (command : RegisterCommand) :
    ExecutorEvent → Option QueueItem
  | .sent source item => if source = command then some item else none
  | _ => none

/-- The messages executing `command` sent, oldest first. -/
def messagesAbout (command : RegisterCommand)
    (history : List ExecutorEvent) : List QueueItem :=
  history.filterMap (·.messageAbout command)

def latestAbout (command : RegisterCommand) (history : List ExecutorEvent) :
    Option QueueItem :=
  (messagesAbout command history).getLast?

@[simp] theorem messagesAbout_append (command : RegisterCommand)
    (history events : List ExecutorEvent) :
    messagesAbout command (history ++ events) =
      messagesAbout command history ++ messagesAbout command events :=
  List.filterMap_append

variable {events : List ExecutorEvent} {command : RegisterCommand}

theorem messagesAbout_quiet (quiet : ∀ event ∈ events, event.isTraffic = false)
    (command : RegisterCommand) : messagesAbout command events = [] := by
  apply List.filterMap_eq_nil_iff.mpr
  intro event logged
  have silent := quiet event logged
  cases event <;> first | rfl | cases silent

theorem messagesAbout_call (command source : RegisterCommand)
    (outcome : CallOutcome) (retriesLeft : Nat) (messages : List QueueItem) :
    messagesAbout command (.issued source outcome retriesLeft ::
        messages.map (ExecutorEvent.sent source)) =
      if source = command then messages else [] := by
  rw [messagesAbout, List.filterMap_cons_none rfl, List.filterMap_map]
  split
  · rename_i same
    subst same
    simp [Function.comp_def, ExecutorEvent.messageAbout]
  · rename_i other
    apply List.filterMap_eq_nil_iff.mpr
    intro message _
    exact if_neg other

theorem latestAbout_of_silent (silent : messagesAbout command events = [])
    (history : List ExecutorEvent) :
    latestAbout command (history ++ events) = latestAbout command history := by
  rw [latestAbout, messagesAbout_append, silent, List.append_nil, latestAbout]

theorem latestAbout_of_last (front : List QueueItem) {item : QueueItem}
    (messages : messagesAbout command events = front ++ [item])
    (history : List ExecutorEvent) :
    latestAbout command (history ++ events) = some item := by
  rw [latestAbout, messagesAbout_append, messages, ← List.append_assoc,
    List.getLast?_concat]

namespace ModbusExecutor

/-- What an execution sends about a poll and how it leaves the values the
poll remembers. -/
inductive AboutPoll (executor : ModbusExecutor) (reg : RegisterPoll)
    (next : ModbusExecutor) (events : List ExecutorEvent) : Prop where
  | silent :
      messagesAbout (.poll reg) events = [] →
      (next.polls reg).lastValues = (executor.polls reg).lastValues →
      AboutPoll executor reg next events
  | values :
      messagesAbout (.poll reg) events = [.registerValues
        (reg.valuesMessage (next.polls reg).lastValues)] →
      AboutPoll executor reg next events
  | failed {front : List QueueItem} {message : ModbusMessageBase} :
      messagesAbout (.poll reg) events =
        front ++ [.registerReadFailed message] →
      (next.polls reg).lastValues = (executor.polls reg).lastValues →
      AboutPoll executor reg next events

variable {executor next : ModbusExecutor} {input : ExecuteInput}
  {events history : List ExecutorEvent}

theorem Execution.aboutPoll
    (execution : Execution executor input next events) (reg : RegisterPoll) :
    AboutPoll executor reg next events := by
  cases execution with
  | quiet polls => exact .silent rfl (by rw [polls])
  | write _ polls =>
    refine .silent ?_ (by rw [polls])
    rw [messagesAbout_call]
    exact if_neg (by simp)
  | @read executed state outcome messages retriesLeft _ result readOk polls =>
    have sent := messagesAbout_call (.poll reg) (.poll executed) outcome
      retriesLeft (messages ++ finalFailure executed state retriesLeft)
    by_cases same : executed = reg
    · subst same
      rw [if_pos rfl] at sent
      have stored : next.polls executed = state := by
        rw [polls, Function.update_self]
      cases result with
      | reported _ _ _ updated _ =>
        rw [finalFailure_of_ok readOk, List.append_nil] at sent
        rw [finalFailure_of_ok readOk, List.append_nil]
        refine .values ?_
        rw [sent, stored, updated]
      | suppressed _ _ _ kept _ =>
        rw [finalFailure_of_ok readOk, List.append_nil] at sent
        rw [finalFailure_of_ok readOk, List.append_nil]
        exact .silent sent (by rw [stored, kept])
      | failed _ kept messagesSent =>
        have unchanged : (next.polls executed).lastValues =
            (executor.polls executed).lastValues := by
          rw [stored, kept]
        by_cases last : finalFailure executed state retriesLeft = []
        · rw [last, List.append_nil] at sent ⊢
          rcases messagesSent with rfl | ⟨_, rfl⟩
          · exact .silent sent unchanged
          · exact .failed (sent.trans (List.nil_append _).symm) unchanged
        · rw [finalFailure] at last
          split at last
          · rename_i final
            rw [finalFailure, if_pos final] at sent ⊢
            exact .failed sent unchanged
          · exact (last rfl).elim
    · rw [if_neg (by simpa using same)] at sent
      refine .silent sent ?_
      rw [polls, Function.update_of_ne (Ne.symm same)]

/-- A latest message that carries values carries those the poll remembers. -/
def LatestRemembered (executor : ModbusExecutor)
    (history : List ExecutorEvent) : Prop :=
  ∀ reg message,
    latestAbout (.poll reg) history = some (.registerValues message) →
    message = reg.valuesMessage (executor.polls reg).lastValues

theorem Execution.latestRemembered
    (execution : Execution executor input next events)
    (remembered : executor.LatestRemembered history) :
    next.LatestRemembered (history ++ events) := by
  intro reg message latest
  cases execution.aboutPoll reg with
  | silent nothing kept =>
    rw [latestAbout_of_silent nothing] at latest
    rw [kept]
    exact remembered reg message latest
  | values reported =>
    rw [latestAbout_of_last [] reported] at latest
    cases latest
    rfl
  | failed reported _ =>
    rw [latestAbout_of_last _ reported] at latest
    cases latest

theorem run_latestRemembered {allowed : ModbusExecutor →
      List ExecutorEvent → ExecutorCall → Prop} {now : Int}
    {created : RegisterPoll → Int}
    (run : Runs step allowed (create now created) executor history) :
    executor.LatestRemembered history := by
  induction run with
  | start =>
    intro reg message latest
    cases latest
  | step _ _ stepped induction =>
    rcases step_execution stepped with
      ⟨input, _, execution⟩ | ⟨polls, quiet⟩
    · exact execution.latestRemembered induction
    · intro reg message latest
      rw [latestAbout_of_silent (messagesAbout_quiet quiet _)] at latest
      rw [polls]
      exact induction reg message latest

/-- After a successful scheduled read the latest message about the poll
carries the values just read if and only if the read is reported, or the
latest message before it carried values. -/
theorem latest_carries_read_iff {now : Int} {created : RegisterPoll → Int}
    {executor next : ModbusExecutor} {history events : List ExecutorEvent}
    {input : ExecuteInput} {returned : Except ModbusException Duration}
    {reg : RegisterPoll} {values : List UInt16} {retriesLeft : Nat}
    (run : Runs step (fun _ _ _ => True) (create now created) executor history)
    (executed : executor.executeNext input = some (next, events, returned))
    (scheduled : reg.commandId = 0)
    (read : .issued (.poll reg) (.ok values) retriesLeft ∈ events) :
    latestAbout (.poll reg) (history ++ events) =
        some (.registerValues (reg.valuesMessage values)) ↔
      reg.Reports (executor.polls reg) executor.initialPoll values ∨
        ∃ message, latestAbout (.poll reg) history =
          some (.registerValues message) := by
  have unforced : reg.isRpc = false := by simp [RegisterPoll.isRpc, scheduled]
  rcases (executeNext_execution executed).of_read read with
    ⟨reports, rfl, _, _⟩ | ⟨quiet, rfl, _, _⟩
  · rw [unforced, Bool.or_false] at reports
    have sent := messagesAbout_call (.poll reg) (.poll reg) (.ok values)
      retriesLeft [.registerValues (reg.valuesMessage values)]
    rw [if_pos rfl] at sent
    exact ⟨fun _ => .inl reports, fun _ => latestAbout_of_last [] sent history⟩
  · rw [unforced, Bool.or_false] at quiet
    rw [latestAbout_of_silent rfl]
    constructor
    · intro latest
      exact .inr ⟨_, latest⟩
    · intro condition
      rcases condition with reports | ⟨message, latest⟩
      · exact (quiet reports).elim
      · have same : (executor.polls reg).lastValues = values := by
          by_contra changed
          exact quiet (.inl changed)
        rw [latest, run_latestRemembered run reg message latest, same]

def onePoll : OrderedMap Int (List RegisterPoll) :=
  { entries := [(1, [delayedPoll 1 0])]
    sorted := by simp }

def callAt (now : Int) (fails : Bool) (value : UInt16) : ExecuteInput :=
  { answer := { fails, contents := fun _ => value }
    delayCheck := now
    readStart := now
    errorCheck := now
    errorTime := now
    finish := now }

theorem latest_carries_unchanged_read : ∃ executor history next events,
      Runs step (fun _ _ _ => True) (create 0 fun _ => 0) executor history ∧
      executor.executeNext (answered 5) = some (next, events, .ok 0) ∧
      events = [.issued (.poll (delayedPoll 1 0)) (.ok [5]) 0] ∧
      latestAbout (.poll (delayedPoll 1 0)) (history ++ events) =
        some (.registerValues ((delayedPoll 1 0).valuesMessage [5])) := by
  have replayed : ∃ last next events, Runs.replay step (fun _ _ _ => True)
      [.addPollList onePoll 0, .executeNext (answered 5),
        .addPollList onePoll 0]
      (create 0 fun _ => 0, []) = some last ∧
      last.1.executeNext (answered 5) = some (next, events, .ok 0) ∧
      events = [.issued (.poll (delayedPoll 1 0)) (.ok [5]) 0] ∧
      ∃ message, latestAbout (.poll (delayedPoll 1 0)) last.2 =
        some (.registerValues message) := by
    refine ⟨_, _, _, rfl, rfl, ?_, _, rfl⟩
    decide
  obtain ⟨last, next, events, replaying, executed, logged, carried⟩ := replayed
  have run := Runs.of_replay .start replaying
  have read : .issued (.poll (delayedPoll 1 0)) (.ok [5]) 0 ∈ events := by
    rw [logged]
    exact List.mem_singleton.mpr rfl
  exact ⟨last.1, last.2, next, events, run, executed, logged,
    (latest_carries_read_iff run executed rfl read).mpr (.inr carried)⟩

/-- Four attempts fail within five minutes, which is reported; the fifth,
after more than five minutes, resets the error count.  The next read finds the
value last reported and is not reported: the latest message says that the read
failed.  The other run starts with a read of zeros outside an initial poll. -/
theorem read_not_reported_after_failure : (∃ executor history next events,
      Runs step (fun _ _ _ => True) (create 0 fun _ => 0) executor history ∧
      executor.executeNext (callAt 480000000000 false 5) =
        some (next, events, .ok 0) ∧
      .issued (.poll (delayedPoll 1 0)) (.ok [5]) 0 ∈ events ∧
      ∃ message, latestAbout (.poll (delayedPoll 1 0)) (history ++ events) =
        some (.registerReadFailed message)) ∧
    ∃ executor history next events,
      Runs step (fun _ _ _ => True) (create 0 fun _ => 0) executor history ∧
      executor.executeNext (answered 0) = some (next, events, .ok 0) ∧
      .issued (.poll (delayedPoll 1 0)) (.ok [0]) 0 ∈ events ∧
      latestAbout (.poll (delayedPoll 1 0)) (history ++ events) = none := by
  have failing : ∃ last next events, Runs.replay step (fun _ _ _ => True)
      [.setupInitialPoll onePoll 0, .executeNext (answered 5),
        .addPollList onePoll 60000000000,
        .executeNext (callAt 60000000000 true 0),
        .addPollList onePoll 120000000000,
        .executeNext (callAt 120000000000 true 0),
        .addPollList onePoll 180000000000,
        .executeNext (callAt 180000000000 true 0),
        .addPollList onePoll 240000000000,
        .executeNext (callAt 240000000000 true 0),
        .addPollList onePoll 420000000000,
        .executeNext (callAt 420000000000 true 0),
        .addPollList onePoll 480000000000]
      (create 0 fun _ => 0, []) = some last ∧
      last.1.executeNext (callAt 480000000000 false 5) =
        some (next, events, .ok 0) ∧
      .issued (.poll (delayedPoll 1 0)) (.ok [5]) 0 ∈ events ∧
      ∃ message, latestAbout (.poll (delayedPoll 1 0)) (last.2 ++ events) =
        some (.registerReadFailed message) := by
    refine ⟨_, _, _, rfl, rfl, ?_, _, rfl⟩
    decide
  have zeros : ∃ last next events, Runs.replay step (fun _ _ _ => True)
      [.addPollList onePoll 0] (create 0 fun _ => 0, []) = some last ∧
      last.1.executeNext (answered 0) = some (next, events, .ok 0) ∧
      .issued (.poll (delayedPoll 1 0)) (.ok [0]) 0 ∈ events ∧
      latestAbout (.poll (delayedPoll 1 0)) (last.2 ++ events) = none := by
    refine ⟨_, _, _, rfl, rfl, ?_, rfl⟩
    decide
  obtain ⟨last, next, events, replaying, unreported⟩ := failing
  obtain ⟨first, second, logged, starting, unsent⟩ := zeros
  exact ⟨⟨last.1, last.2, next, events, Runs.of_replay .start replaying,
    unreported⟩, first.1, first.2, second, logged,
    Runs.of_replay .start starting, unsent⟩

end ModbusExecutor

end MqmGateway
