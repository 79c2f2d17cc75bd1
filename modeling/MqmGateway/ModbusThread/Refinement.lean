import MqmGateway.Library.Simulation
import MqmGateway.ModbusThread.Loop

/-!
# The loop refines the thread

The steps of `ModbusThread` may happen in any order.  A round of the loop is a
run of these steps and of calls of the watchdog, in which a connection is
closed only on the demand of the watchdog.
-/

namespace MqmGateway

inductive SupervisedInput where
  | receive (request : ModbusRequest)
  | thread (input : ThreadInput)
  | watchdog (call : WatchdogCall)

namespace SupervisedThread

def step (supervised : SupervisedThread) :
    SupervisedInput → Option (SupervisedThread × List LoopEvent)
  | .receive request =>
    some ({ supervised with thread := supervised.thread.enqueue request }, [])
  | .thread .disconnect => none
  | .thread input =>
    (supervised.thread.step input).map fun result =>
      ({ supervised with thread := result.1 }, result.2.map .thread)
  | .watchdog (.close asked now) =>
    if supervised.watchdog.isReconnectRequired asked then
      (supervised.thread.step .disconnect).map fun result =>
        ({ thread := result.1, watchdog := supervised.watchdog.reset now },
          .watchdog (.close asked now) :: result.2.map .thread)
    else
      none
  | .watchdog call =>
    some ({ supervised with watchdog := supervised.watchdog.after call },
      [.watchdog call])

theorem runs_thread (supervised : SupervisedThread) {input : ThreadInput}
    {next : ModbusThread} {events : List ThreadEvent}
    (stepped : supervised.thread.step input = some (next, events))
    (kept : input ≠ .disconnect) :
    Runs step (fun _ _ _ => True) supervised
      { supervised with thread := next } (events.map .thread) := by
  have moved : supervised.step (.thread input) =
      some ({ supervised with thread := next }, events.map .thread) := by
    rw [step, stepped]
    · rfl
    · exact kept
  exact Runs.single moved

end SupervisedThread

namespace ModbusThread

variable {thread next : ModbusThread} {events : List ThreadEvent}

theorem call_flags {call : ExecutorCall}
    (called : thread.call call = some (next, events)) :
    next.isRunning = thread.isRunning ∧
      next.modbusConnected = thread.modbusConnected ∧
      next.mqttConnected = thread.mqttConnected := by
  obtain ⟨result, _, same⟩ := Option.map_eq_some_iff.mp called
  cases same
  exact ⟨rfl, rfl, rfl⟩

theorem step_isRunning {input : ThreadInput}
    (stepped : thread.step input = some (next, events))
    (quiet : ∀ call, input ≠ .execute call) :
    next.isRunning = thread.isRunning := by
  rcases (step_cases stepped).traffic with
    ⟨call, _, _, _, executes, _⟩ | ⟨_, _, running⟩
  · exact absurd executes (quiet call)
  · exact running

end ModbusThread

namespace ThreadLoop

abbrev Refines (before : ThreadLoop → Prop) (stage : Stage)
    (after : ThreadLoop → Prop) : Prop :=
  stage.Simulates SupervisedThread.step toSupervisedThread before after

abbrev Running (loop : ThreadLoop) : Prop :=
  loop.thread.isRunning = true

def Online (loop : ThreadLoop) : Prop :=
  loop.Running ∧ loop.thread.modbusConnected = true ∧
    loop.thread.mqttConnected = true

theorem Refines.unlessEnded {stage : Stage}
    (refines : Refines Running stage fun _ => True) :
    Refines (fun _ => True) (unlessEnded stage) fun _ => True := by
  intro loop events next _ done
  rw [ThreadLoop.unlessEnded] at done
  split at done
  · rename_i running
    exact refines _ _ _ running done
  · cases done
    exact ⟨trivial, .start⟩

variable (input : RoundInput)

theorem arrive_refines : Refines Running (arrive input) Running := by
  rintro ⟨⟨thread, watchdog⟩, _, _, _, _, _⟩ events next running done
  cases done
  dsimp only at *
  generalize input.arrivals = arrivals
  induction arrivals generalizing thread with
  | nil => exact ⟨running, .start⟩
  | cons request arrivals induction =>
    obtain ⟨kept, runs⟩ := induction (thread.enqueue request) running
    have received : SupervisedThread.step ⟨thread, watchdog⟩
        (.receive request) =
          some (⟨thread.enqueue request, watchdog⟩, []) := rfl
    exact ⟨kept, (Runs.single received).append runs⟩

theorem connect_refines : Refines Running (connect input) Running := by
  intro loop events next running done
  simp only [connect] at done
  split at done
  · cases done
    exact ⟨running, .start⟩
  · rename_i closed
    split at done
    · obtain ⟨⟨thread, seen⟩, connected, same⟩ :=
        Option.map_eq_some_iff.mp done
      cases same
      have called : loop.toSupervisedThread.step
          (.watchdog (.reset input.connectReset)) = some
            ({ loop.toSupervisedThread with
                watchdog := loop.watchdog.reset input.connectReset },
              [.watchdog (.reset input.connectReset)]) := rfl
      have stepped : loop.thread.step (.connect input.connectPoll) =
          some (thread, seen) := by
        simpa [ModbusThread.step, running, closed] using connected
      exact ⟨(ModbusThread.step_isRunning stepped nofun).trans running,
        (Runs.single called).append
          (SupervisedThread.runs_thread _ stepped nofun)⟩
    · cases done
      have stepped : loop.thread.step .connectFails =
          some (loop.thread.sendNetworkState false, [.networkState false]) := by
        simp [ModbusThread.step, running, closed]
      exact ⟨running, SupervisedThread.runs_thread _ stepped nofun⟩

theorem schedule_refines : Refines Online (schedule input) Online := by
  intro loop events next online done
  obtain ⟨running, connected, mqttConnected⟩ := online
  simp only [schedule] at done
  split at done
  · cases done
    exact ⟨⟨running, connected, mqttConnected⟩, .start⟩
  · rename_i notInitial
    split at done
    · obtain ⟨⟨thread, seen⟩, called, same⟩ :=
        Option.map_eq_some_iff.mp done
      cases same
      obtain ⟨ran, open_, mqtt⟩ := ModbusThread.call_flags called
      rw [ModbusScheduler.pollLoop_registers] at called
      have stepped : loop.thread.step (.poll input.now input.added) =
          some (thread, seen) := by
        simpa [ModbusThread.step, running, connected, mqttConnected,
          notInitial] using called
      exact ⟨⟨ran.trans running, open_.trans connected,
        mqtt.trans mqttConnected⟩,
        SupervisedThread.runs_thread _ stepped nofun⟩
    · cases done
      exact ⟨⟨running, connected, mqttConnected⟩, .start⟩

theorem executeNext_refines :
    Refines (fun loop => loop.Online ∧ loop.thread.executor.allDone = false)
      (executeNext input) fun _ => True := by
  intro loop events next holds done
  obtain ⟨⟨running, connected, mqttConnected⟩, pending⟩ := holds
  simp only [executeNext] at done
  split at done
  · rename_i thread seen _ executed
    cases done
    have stepped : loop.thread.step (.execute input.execute) =
        some (thread, seen) := by
      simpa [ModbusThread.step, running, connected, mqttConnected, pending]
        using executed
    exact ⟨trivial, SupervisedThread.runs_thread _ stepped nofun⟩
  · cases done

theorem inspectSent_refines :
    Refines Running (inspectSent input) fun _ => True := by
  intro loop events next _ done
  rw [inspectSent] at done
  split at done
  · obtain ⟨command, _, same⟩ := Option.map_eq_some_iff.mp done
    cases same
    exact ⟨trivial, @Runs.single _ _ _ _ _ _ (.watchdog (.inspectCommand
      (loop.executedOk command) input.inspection)) _ rfl⟩
  · cases done
    exact ⟨trivial, .start⟩

theorem poll_refines : Refines Online (poll input) fun _ => True := by
  intro loop events next online done
  rw [poll] at done
  split at done
  · cases done
    exact ⟨trivial, .start⟩
  · rename_i pending
    exact (executeNext_refines input).andThen
      (inspectSent_refines input).unlessEnded loop events next
        ⟨online, by simpa using pending⟩ done

theorem work_refines : Refines Running (work input) fun _ => True := by
  intro loop events next running done
  rw [work] at done
  split at done
  · rename_i connected
    split at done
    · rename_i mqttConnected
      exact (schedule_refines input).andThen (poll_refines input) loop events
        next ⟨running, connected, mqttConnected⟩ done
    · cases done
      exact ⟨trivial, .start⟩
  · cases done
    exact ⟨trivial, .start⟩

theorem deduceWatchPeriod_refines :
    Refines Running deduceWatchPeriod Running := by
  intro loop events next running done
  simp only [deduceWatchPeriod] at done
  split at done
  · cases done
    exact ⟨running, @Runs.single _ _ _ _ _ _ (.watchdog (.setWatchPeriod
      (Duration.wrapped
        (ModbusScheduler.getMinPollTime loop.thread.registerMap * 2)))) _ rfl⟩
  · cases done
    exact ⟨running, .start⟩

theorem dispatch_refines (reading : Bool × Int) :
    Refines Running (dispatch reading) Running := by
  intro loop events next running done
  simp only [dispatch] at done
  split at done
  · cases done
  · rename_i request requests queued
    split at done
    · cases done
    · rename_i thread seen handled
      have stepped : loop.thread.step (.dispatch reading.1 reading.2) =
          some (thread, seen) := by
        simpa [ModbusThread.step, running, queued] using handled
      have ran : Running { loop with thread } :=
        (ModbusThread.step_isRunning stepped nofun).trans running
      have moved := loop.toSupervisedThread.runs_thread stepped nofun
      split at done
      · obtain ⟨⟨_, _⟩, deduced, same⟩ := Option.map_eq_some_iff.mp done
        cases same
        obtain ⟨kept, told⟩ := deduceWatchPeriod_refines _ _ _ ran deduced
        exact ⟨kept, moved.append told⟩
      · cases done
        exact ⟨ran, moved⟩

theorem dispatchMessages_refines (readings : List (Bool × Int)) :
    Refines Running (dispatchMessages readings) fun _ => True := by
  induction readings with
  | nil =>
    intro loop events next _ done
    simp only [dispatchMessages] at done
    split at done
    · cases done
      exact ⟨trivial, .start⟩
    · cases done
  | cons reading readings induction =>
    exact (dispatch_refines reading).andThen induction

theorem watch_refines : Refines Running (watch input) fun _ => True := by
  intro loop events next running done
  rw [watch] at done
  split at done
  · rename_i demanded
    obtain ⟨connected, required⟩ := (Bool.and_eq_true _ _).mp demanded
    cases done
    refine ⟨trivial, @Runs.single _ _ _ _ _ _
      (.watchdog (.close input.checkTime input.forcedReset)) _ ?_⟩
    simp [SupervisedThread.step, ModbusThread.step, running, connected,
      required]
  · rw [receive] at done
    split at done
    · cases done
    · exact dispatchMessages_refines _ _ _ _ running done

theorem step_refines :
    Refines (fun _ => True) (fun loop => loop.step input) fun _ => True := by
  intro loop events next _ stepped
  simp only [step] at stepped
  split at stepped
  · rename_i going
    have running : loop.Running := ((Bool.and_eq_true _ _).mp going).2
    exact (arrive_refines input).andThen ((connect_refines input).andThen
      ((work_refines input).andThen (watch_refines input).unlessEnded))
        loop events next running stepped
  · cases stepped

variable {allowed : ThreadLoop → List LoopEvent → RoundInput → Prop}
  {loop : ThreadLoop} {history : List LoopEvent}

/-- Whatever the loop does, the steps of its thread could do in this order. -/
theorem loop_refines_thread {first : ThreadLoop}
    (run : Runs step allowed first loop history) :
    Runs SupervisedThread.step (fun _ _ _ => True) first.toSupervisedThread
      loop.toSupervisedThread history :=
  Logged.Simulates.runs step_refines run

def waiting : ThreadLoop :=
  start (ModbusThread.awaiting [ModbusThread.polledRegister 1000 .onChange])
    (.init {} "" 0) 0

def closingRound (checkTime : Int) (dispatches : List (Bool × Int)) : RoundInput :=
  { arrivals := []
    endWork := false
    connects := true
    connectReset := 0
    connectPoll := 0
    now := 1
    added := 2
    execute := ModbusExecutor.answered 0
    inspection := { now := 3, deviceExists := true }
    checkTime
    forcedReset := checkTime
    dispatches }

/-- The thread connects and dispatches its two messages, reads the register,
schedules nothing and is asked for its watchdog after the watch period. -/
def closingRounds : List RoundInput :=
  [closingRound 4 [(false, 0), (false, 0)], closingRound 4 [],
    closingRound 20000000000 []]

/-- The messages are dispatched, a command has been executed and the
connection is closed. -/
def closedAfterCommand (loop : ThreadLoop) : Bool :=
  !loop.thread.modbusConnected && loop.thread.toModbus.isEmpty &&
    loop.thread.executor.lastCommand.isSome

theorem closingRounds_run : ∃ loop history,
    Runs step (fun _ _ _ => True) waiting loop history ∧
      loop.closedAfterCommand = true :=
  Runs.exists_of_replay closingRounds
    (fun loop _ => closedAfterCommand loop = true) (by decide +kernel)

theorem loop_refines_thread_closed : ∃ loop : ThreadLoop, ∃ history,
    loop.closedAfterCommand = true ∧
    Runs SupervisedThread.step (fun _ _ _ => True) waiting.toSupervisedThread
      loop.toSupervisedThread history := by
  obtain ⟨loop, history, run, closed⟩ := closingRounds_run
  exact ⟨loop, history, closed, loop_refines_thread run⟩

end ThreadLoop

end MqmGateway
