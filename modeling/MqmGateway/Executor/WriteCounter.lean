import MqmGateway.Executor.Steps
import MqmGateway.Executor.WriteOrder

/-!
# The write counter

`mWriteCommandsQueued` is raised when a write is added and lowered when a
write succeeds.  A write that is given up leaves the executor without lowering
it, and the counter stays too high from then on.
-/

namespace MqmGateway

theorem trace_surplus {start store : CommandStore}
    {history : List ExecutorEvent} (trace : Trace Move start history store) :
    store.writesQueued + start.writeCount = start.writesQueued +
      store.writeCount + history.countP (·.abandonsWrite) := by
  induction trace with
  | refl => simp
  | tail _ moved induction =>
    have surplus := moved.surplus
    rw [List.countP_append]
    omega

namespace ModbusExecutor

/-- The number of writes in the waiting slot and in the write queues. -/
def pendingWriteCount (executor : ModbusExecutor) : Nat :=
  executor.pendingCommands.countP (!·.isPoll)

theorem pendingWriteCount_eq (executor : ModbusExecutor) :
    executor.pendingWriteCount = executor.commands.writeCount := by
  rw [pendingWriteCount, pendingCommands, List.countP_append,
    List.countP_flatMap, CommandStore.writeCount, OrderedMap.total]
  congr 2
  apply List.map_congr_left
  intro entry _
  simp [Function.comp_def, RegisterCommand.isPoll]

theorem writeCommandsQueued_eq {allowed : ModbusExecutor →
      List ExecutorEvent → ExecutorCall → Prop}
    {now : Int} {created : RegisterPoll → Int} {executor : ModbusExecutor}
    {history : List ExecutorEvent}
    (run : Runs step allowed (create now created) executor history) :
    executor.writeCommandsQueued = executor.pendingWriteCount +
      history.countP (·.abandonsWrite) := by
  have surplus := trace_surplus (run_trace run)
  have nothing : (create now created).commands.writeCount = 0 := rfl
  have zero : (create now created).commands.writesQueued = 0 := rfl
  have counter : executor.commands.writesQueued =
      executor.writeCommandsQueued := rfl
  rw [pendingWriteCount_eq]
  omega

/-- A write that is due with no retry left is answered by its device. -/
def AnswersLastTry (executor : ModbusExecutor) : ExecutorCall → Prop
  | .executeNext input =>
    match executor.due input.delayCheck with
    | some (.write cmd) =>
      (executor.startCommand (.write cmd)).writeRetryCount = 0 →
        input.answer.fails = false
    | _ => True
  | _ => True

instance (executor : ModbusExecutor) (call : ExecutorCall) :
    Decidable (executor.AnswersLastTry call) := by
  refine call.casesOn ?_ ?_ ?_ ?_ ?_ <;> intros <;>
    dsimp only [AnswersLastTry]
  rotate_right
  · generalize executor.due _ = due
    refine due.casesOn ?_ fun command => command.casesOn ?_ ?_ <;>
      intros <;> infer_instance
  all_goals infer_instance

theorem Taken.retriesLeft {executor ready : ModbusExecutor}
    (taken : Taken executor ready) (command : RegisterCommand) :
    (ready.startCommand command).retriesLeft command =
      (executor.startCommand command).retriesLeft command := by
  obtain ⟨_, _, _, _, same⟩ := taken.eq
  rw [retriesLeft_startCommand, retriesLeft_startCommand, same]
  cases command <;> rfl

theorem fails_of_abandonsWrite {cmd : RegisterWrite} {input : ExecuteInput}
    (failed : (writeRegisters cmd input).1 = .failed) :
    input.answer.fails = true := by
  rw [writeRegisters] at failed
  split at failed
  · cases failed
  · rename_i error
    exact ModbusContext.fails_of_write_error error
  · cases failed
  · cases failed

theorem step_abandonsWrite {executor next : ModbusExecutor}
    {call : ExecutorCall} {events : List ExecutorEvent}
    (answers : executor.AnswersLastTry call)
    (stepped : executor.step call = some (next, events)) :
    ∀ event ∈ events, event.abandonsWrite = false := by
  intro event logged
  rcases step_execution stepped with ⟨input, rfl, execution⟩ | ⟨_, quiet⟩
  · by_contra abandons
    rw [Bool.not_eq_false, ExecutorEvent.abandonsWrite.eq_def] at abandons
    split at abandons
    · rename_i cmd outcome retriesLeft
      obtain ⟨⟨last, events, returned⟩, executed, same⟩ :=
        Option.map_eq_some_iff.mp stepped
      cases same
      rw [AnswersLastTry, due_of_issued executed logged] at answers
      have failed : outcome = .failed ∧ retriesLeft = 0 := by
        cases outcome <;> simp [CallOutcome.finishes, CallOutcome.isOk]
          at abandons ⊢
        exact abandons
      obtain ⟨rfl, rfl⟩ := failed
      have noneLeft : (executor.startCommand
          (.write cmd)).writeRetryCount = 0 := by
        cases executeNext_executed executed with
        | nothing _ | idle _ _ | waits _ _ _ => cases logged
        | sends taking waiting _ _ sending =>
          rcases List.mem_cons.mp logged with here | sent
          · injection here with same _ left
            subst same
            rw [(takeNext_taken taking).retriesLeft] at left
            exact left.symm
          · simp at sent
      cases execution with
      | quiet _ => cases logged
      | read _ _ _ _ => simp at logged
      | write _ _ =>
        rcases List.mem_cons.mp logged with here | sent
        · injection here with same outcome
          cases same
          have fails := fails_of_abandonsWrite outcome.symm
          rw [answers noneLeft] at fails
          cases fails
        · simp at sent
    · cases abandons
  · have noTraffic := quiet event logged
    cases event <;> first | rfl | cases noTraffic

/-- While every last try of a write is answered, the counter is the number of
pending writes. -/
theorem writeCounter_exact {now : Int} {created : RegisterPoll → Int}
    {executor : ModbusExecutor} {history : List ExecutorEvent}
    (run : Runs step (fun executor _ call => executor.AnswersLastTry call)
      (create now created) executor history) :
    executor.writeCommandsQueued = executor.pendingWriteCount := by
  have none : history.countP (·.abandonsWrite) = 0 := by
    induction run with
    | start => rfl
    | step _ answers stepped induction =>
      rw [List.countP_append, induction, Nat.zero_add, List.countP_eq_zero]
      intro event logged
      simp [step_abandonsWrite answers stepped event logged]
  rw [writeCommandsQueued_eq run, none]
  omega

theorem writeCounter_exact_retry : ∃ executor history,
      Runs step (fun executor _ call => executor.AnswersLastTry call)
        (create 0 fun _ => 0) executor history ∧
      (.issued (.write (retriedWrite 1 5)) .failed 1 ∈ history ∧
        executor.pendingWriteCount = 1) ∧
      executor.writeCommandsQueued = executor.pendingWriteCount := by
  obtain ⟨executor, history, run, reached⟩ := Runs.exists_of_replay
    [.addWriteCommand (retriedWrite 1 5) true,
      .addWriteCommand (retriedWrite 2 6) true,
      .executeNext unanswered,
      .executeNext (answered 0)]
    (fun executor history =>
      .issued (.write (retriedWrite 1 5)) .failed 1 ∈ history ∧
        executor.pendingWriteCount = 1)
    (show (Runs.replay step
      (fun executor _ call => executor.AnswersLastTry call) _
        (create 0 fun _ => 0, [])).any _ = true by decide +kernel)
  exact ⟨executor, history, run, reached, writeCounter_exact run⟩

/-- The only write ever added fails on both of its tries: none is pending and
the counter stays at one. -/
theorem counter_off_after_abandoned_write : ∃ executor history,
      Runs step (fun _ _ _ => True) (create 0 fun _ => 0) executor history ∧
      executor.pendingWriteCount = 0 ∧ executor.writeCommandsQueued = 1 :=
  Runs.exists_of_replay
    [.addWriteCommand (retriedWrite 1 5) true,
      .executeNext unanswered,
      .executeNext unanswered]
    (fun executor _ => executor.pendingWriteCount = 0 ∧
      executor.writeCommandsQueued = 1)
    (show (Runs.replay step (fun _ _ _ => True) _
      (create 0 fun _ => 0, [])).any _ = true by decide +kernel)

end ModbusExecutor

end MqmGateway
