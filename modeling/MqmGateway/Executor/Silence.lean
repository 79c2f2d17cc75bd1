import Mathlib.Data.List.Chain
import MqmGateway.Executor.Steps

/-!
# Silence before a command

A command asks for silence on the bus before it, and for another silence
before the first command to its slave.  `executeNext` waits for one of the
two: after a change of slave the second replaces the first if it is set.
-/

namespace MqmGateway

/-- A command that went to the device.  `started` is the last reading of the
clock before it was sent, `finished` the one after it ended. -/
structure SentCommand where
  command : RegisterCommand
  started : Int
  finished : Int
deriving DecidableEq, Repr

/-- The silence that `second` asks for lies between two commands sent one
after the other. -/
def SilenceBetween (first second : SentCommand) : Prop :=
  second.command.settings.delayBeforeCommand ≤
      second.started - first.finished ∧
    (first.command.slaveId ≠ second.command.slaveId →
      second.command.settings.delayBeforeFirstCommand ≤
        second.started - first.finished)

instance (first second : SentCommand) :
    Decidable (SilenceBetween first second) :=
  inferInstanceAs (Decidable (_ ∧ _))

namespace ModbusExecutor

/-- The command that an event of `executeNext` sends.  A write that throws
does not reach the device. -/
def sentCommand (input : ExecuteInput) : ExecutorEvent → Option SentCommand
  | .issued command outcome _ =>
    if outcome = .threw then
      none
    else
      some { command, started := input.delayCheck, finished := input.finish }
  | _ => none

/-- An observer that notes the commands sent and their times. -/
def noteSent (_ : ModbusExecutor × Unit) (call : ExecutorCall)
    (result : ModbusExecutor × List ExecutorEvent) :
    Unit × List SentCommand :=
  match call with
  | .executeNext input => ((), result.2.filterMap (sentCommand input))
  | _ => ((), [])

/-- The clock does not go back behind the end of a command. -/
def ClockForward (history : List SentCommand) : ExecutorCall → Prop
  | .executeNext input => ∀ sent ∈ history, sent.finished ≤ input.delayCheck
  | _ => True

/-- After a change of slave, the silence before the first command is the
longer one, if it is set. -/
def LongerFirstDelay (executor : ModbusExecutor) : ExecutorCall → Prop
  | .executeNext input =>
    ∀ command ∈ executor.due input.delayCheck,
      ∀ last ∈ executor.lastCommand, last.slaveId ≠ command.slaveId →
        command.settings.hasDelayBeforeFirstCommand = true →
        command.settings.delayBeforeCommand ≤
          command.settings.delayBeforeFirstCommand
  | _ => True

instance (history : List SentCommand) (call : ExecutorCall) :
    Decidable (ClockForward history call) := by
  refine call.casesOn ?_ ?_ ?_ ?_ ?_ <;> intros <;> dsimp only [ClockForward] <;>
    infer_instance

instance (executor : ModbusExecutor) (call : ExecutorCall) :
    Decidable (executor.LongerFirstDelay call) := by
  refine call.casesOn ?_ ?_ ?_ ?_ ?_ <;> intros <;> dsimp only [LongerFirstDelay] <;>
    infer_instance

theorem le_of_delay_passed {delay elapsed : Int}
    (due : (if delay ≠ 0 then delay - elapsed else 0) ≤ 0)
    (forward : 0 ≤ elapsed) : delay ≤ elapsed := by
  split at due <;> omega

variable {executor next : ModbusExecutor} {command : RegisterCommand}
  {input : ExecuteInput} {history : List SentCommand}

theorem delay_passed {last : RegisterCommand} {now : Int}
    (due : executor.delayLeft command now ≤ 0)
    (after : executor.lastCommand = some last)
    (forward : executor.lastCommandTime ≤ now) :
    (if command.settings.hasDelayBeforeFirstCommand = true ∧
        command.slaveId ≠ last.slaveId then
      command.settings.delayBeforeFirstCommand
    else
      command.settings.delayBeforeCommand) ≤
        now - executor.lastCommandTime := by
  simp only [delayLeft, after, Option.any_some, Bool.and_eq_true,
    decide_eq_true_eq] at due
  exact le_of_delay_passed due (Int.sub_nonneg_of_le forward)

/-- What the executor remembers of the last command is the last one sent. -/
structure RemembersLast (executor : ModbusExecutor)
    (history : List SentCommand) : Prop where
  command : executor.lastCommand = history.getLast?.map SentCommand.command
  time : ∀ sent ∈ history.getLast?, executor.lastCommandTime = sent.finished

theorem Sending.noted {started sent : ModbusExecutor} {outcome : CallOutcome}
    (sending : Sending started command input sent outcome) :
    (outcome = .threw ∧ sent = started) ∨
      (outcome ≠ .threw ∧ sent.lastCommand = some command ∧
        sent.lastCommandTime = input.finish) := by
  cases sending with
  | threw _ => exact .inl ⟨rfl, rfl⟩
  | retried same _ =>
    rw [same]
    exact .inr ⟨by simp, rfl, rfl⟩
  | finished same finishes _ =>
    rw [same]
    refine .inr ⟨?_, rfl, rfl⟩
    intro threw
    rw [threw] at finishes
    cases finishes

/-- The silence before a command that is due. -/
theorem silence_of_due {ready : ModbusExecutor} {first : SentCommand}
    (remembers : RemembersLast executor history)
    (longer : executor.LongerFirstDelay (.executeNext input))
    (forward : first.finished ≤ input.delayCheck)
    (last : first ∈ history.getLast?)
    (taken : Taken executor ready)
    (elapsed : ready.delayLeft command input.delayCheck ≤ 0)
    (due : executor.due input.delayCheck = some command) :
    SilenceBetween first
      { command, started := input.delayCheck, finished := input.finish } := by
  have same := taken.sameLast
  have time := remembers.time first last
  have after : executor.lastCommand = some first.command := by
    rw [remembers.command, last]
    rfl
  have passed := delay_passed elapsed (same.lastCommand.trans after)
    (by rw [same.lastCommandTime, time]; exact forward)
  rw [same.lastCommandTime, time] at passed
  by_cases change : first.command.slaveId = command.slaveId
  · rw [if_neg (by simp [change])] at passed
    exact ⟨passed, fun different => (different change).elim⟩
  · by_cases set : command.settings.hasDelayBeforeFirstCommand = true
    · rw [if_pos ⟨set, Ne.symm change⟩] at passed
      have order := longer command due first.command after change set
      exact ⟨order.trans passed, fun _ => passed⟩
    · rw [if_neg (by simp [set])] at passed
      have zero : command.settings.delayBeforeFirstCommand = 0 := by
        simpa [RegisterCommandSettings.hasDelayBeforeFirstCommand] using set
      refine ⟨passed, fun _ => ?_⟩
      exact zero.trans_le (Int.sub_nonneg_of_le forward)

/-- What a run with a forward clock keeps while the longer silence comes
first. -/
structure Silent (executor : ModbusExecutor) (history : List SentCommand) :
    Prop where
  remembers : RemembersLast executor history
  spaced : history.IsChain SilenceBetween

theorem Silent.unnoted (silent : Silent executor history)
    (command : next.lastCommand = executor.lastCommand)
    (time : next.lastCommandTime = executor.lastCommandTime) :
    Silent next (history ++ []) := by
  rw [List.append_nil]
  refine ⟨⟨command.trans silent.remembers.command, ?_⟩, silent.spaced⟩
  intro sent last
  exact time.trans (silent.remembers.time sent last)

theorem Silent.noted {sent : SentCommand} (silent : Silent executor history)
    (spaced : ∀ first ∈ history.getLast?, SilenceBetween first sent)
    (command : next.lastCommand = some sent.command)
    (time : next.lastCommandTime = sent.finished) :
    Silent next (history ++ [sent]) := by
  refine ⟨⟨?_, ?_⟩, ?_⟩
  · rw [List.getLast?_concat]
    exact command
  · intro last here
    rw [List.getLast?_concat] at here
    cases here
    exact time
  · refine List.isChain_append.mpr ⟨silent.spaced, .singleton _, ?_⟩
    intro first last second here
    cases here
    exact spaced first last

theorem Executed.silent {events : List ExecutorEvent}
    (executed : Executed executor input next events)
    (silent : Silent executor history)
    (forward : ClockForward history (.executeNext input))
    (longer : executor.LongerFirstDelay (.executeNext input)) :
    Silent next (history ++ events.filterMap (sentCommand input)) := by
  cases executed with
  | nothing _ => exact silent.unnoted rfl rfl
  | idle taking _ =>
    have same := (takeNext_taken taking).sameLast
    exact silent.unnoted same.lastCommand same.lastCommandTime
  | waits taking _ _ =>
    have same := (takeNext_taken taking).sameLast
    exact silent.unnoted same.lastCommand same.lastCommandTime
  | @sends ready sent initialPoll command outcome messages taking _ elapsed due
      sending =>
      have taken := takeNext_taken taking
      have quiet : (messages.map (ExecutorEvent.sent command)).filterMap
          (sentCommand input) = [] := by
        simp [List.filterMap_eq_nil_iff, sentCommand]
      rcases sending.noted with ⟨threw, same⟩ | ⟨reached, last, time⟩
      · obtain ⟨_, _, _, _, started⟩ := ready.startCommand_eq command
        have kept := taken.sameLast
        rw [threw, same, started, List.filterMap_cons, quiet]
        exact silent.unnoted kept.lastCommand kept.lastCommandTime
      · rw [List.filterMap_cons, quiet, sentCommand, if_neg reached]
        refine silent.noted ?_ last time
        intro first lastSent
        have before := forward first (List.mem_of_getLast? lastSent)
        exact silence_of_due silent.remembers longer before lastSent taken
          elapsed due

theorem noteSent_other {watched : ModbusExecutor × Unit}
    {call : ExecutorCall} (other : ∀ input, call ≠ .executeNext input)
    (result : ModbusExecutor × List ExecutorEvent) :
    (noteSent watched call result).2 = [] := by
  cases call with
  | executeNext input => exact (other input rfl).elim
  | _ => rfl

/-- Every command goes out after the silence it asks for, in every run whose
clock does not go back and in which the silence before a first command, where
it is set, is never the shorter one. -/
theorem silence_respected {now : Int} {created : RegisterPoll → Int}
    {watched : ModbusExecutor × Unit} {history : List SentCommand}
    (run : Runs (Runs.observe step noteSent) (fun watched history call =>
        ClockForward history call ∧ watched.1.LongerFirstDelay call)
      (create now created, ()) watched history) :
    history.IsChain SilenceBetween := by
  suffices silent : Silent watched.1 history from silent.spaced
  induction run with
  | start => exact ⟨⟨rfl, by simp⟩, .nil⟩
  | @step _ _ _ noted _ _ permitted observed silent =>
    obtain ⟨events, stepped, seen⟩ := Runs.observe_eq_some observed
    have logged : _ = noted := congrArg Prod.snd seen
    rw [← logged]
    rcases step_sameLast stepped with
      ⟨input, rfl, executed⟩ | ⟨other, same⟩
    · exact executed.silent silent permitted.1 permitted.2
    · rw [noteSent_other other]
      exact silent.unnoted same.lastCommand same.lastCommandTime

/-- A poll that asks for one silence before every command and another one
before the first command to its slave. -/
def changedPoll (delay firstDelay : Duration) : RegisterPoll :=
  { delayedPoll 2 delay with delayBeforeFirstCommand := firstDelay }

def answeredAt (time : Int) : ExecuteInput :=
  { answered 0 with delayCheck := time, finish := time }

def changeOfSlave (delay firstDelay : Duration) (times : List Int) :
    List ExecutorCall :=
  [.addPollList (OrderedMap.empty.set 1 [delayedPoll 1 0]) 0,
    .executeNext (answeredAt 0),
    .addPollList (OrderedMap.empty.set 2 [changedPoll delay firstDelay]) 0] ++
  times.map (.executeNext <| answeredAt ·)

theorem silence_respected_change : ∃ watched history,
      Runs (Runs.observe step noteSent) (fun watched history call =>
          ClockForward history call ∧ watched.1.LongerFirstDelay call)
        (create 0 fun _ => 0, ()) watched history ∧
      history =
        [{ command := .poll (delayedPoll 1 0), started := 0, finished := 0 },
          { command := .poll (changedPoll 3000000 5000000)
            started := 5000000, finished := 5000000 }] ∧
      history.IsChain SilenceBetween := by
  obtain ⟨watched, history, run, reached⟩ := Runs.exists_of_replay
    (changeOfSlave 3000000 5000000 [4000000, 5000000])
    (fun _ history => history =
      [{ command := .poll (delayedPoll 1 0), started := 0, finished := 0 },
        { command := .poll (changedPoll 3000000 5000000)
          started := 5000000, finished := 5000000 }])
    (show (Runs.replay (Runs.observe step noteSent)
      (fun watched history call =>
        ClockForward history call ∧ watched.1.LongerFirstDelay call) _
      ((create 0 fun _ => 0, ()), [])).any _ = true by decide +kernel)
  exact ⟨watched, history, run, reached, silence_respected run⟩

/-- A slave that asks for 20 ms before every command and for 5 ms before its
first one gets its first command after 5 ms. -/
theorem command_sent_before_its_delay : ∃ watched history,
      Runs (Runs.observe step noteSent)
        (fun _ history call => ClockForward history call)
        (create 0 fun _ => 0, ()) watched history ∧
      history =
        [{ command := .poll (delayedPoll 1 0), started := 0, finished := 0 },
          { command := .poll (changedPoll 20000000 5000000)
            started := 5000000, finished := 5000000 }] ∧
      ¬ history.IsChain SilenceBetween :=
  Runs.exists_of_replay
    (changeOfSlave 20000000 5000000 [5000000])
    (fun _ history => history =
      [{ command := .poll (delayedPoll 1 0), started := 0, finished := 0 },
        { command := .poll (changedPoll 20000000 5000000)
          started := 5000000, finished := 5000000 }] ∧
      ¬ history.IsChain SilenceBetween)
    (show (Runs.replay (Runs.observe step noteSent)
      (fun _ history call => ClockForward history call) _
      ((create 0 fun _ => 0, ()), [])).any _ = true by decide +kernel)

end ModbusExecutor

end MqmGateway
