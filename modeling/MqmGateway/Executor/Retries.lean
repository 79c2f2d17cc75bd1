import MqmGateway.Executor.Steps
import MqmGateway.Executor.WriteOrder

/-!
# How often a command is tried

The executor counts retries in counters of its own, which it refreshes when
the command to execute is not the one executed last.  A poll that failed on
every try and is the next command again starts with the counter at zero.
-/

namespace MqmGateway

/-- A command that has left the waiting slot, with the outcomes of its
tries. -/
structure Stay where
  command : RegisterCommand
  attempts : List CallOutcome
deriving DecidableEq, Repr

/-- Tried until the first success, or until the retries were used up. -/
def Stay.TriedEnough (stay : Stay) : Prop :=
  (∃ failures ≤ stay.command.retries, ∃ values,
    stay.attempts = List.replicate failures .failed ++ [.ok values]) ∨
  stay.attempts = List.replicate (stay.command.retries + 1) .failed

namespace ModbusExecutor

def displacedStay : ExecutorEvent → Option Stay
  | .displaced command => some { command, attempts := [] }
  | _ => none

/-- An observer of the waiting slot.  Its state lists the tries of the command
in the slot, its log the commands that left the slot.  A write that takes the
fast path preempts the command, whose tries are then forgotten. -/
def noteAttempts (watched : ModbusExecutor × List CallOutcome)
    (call : ExecutorCall) (result : ModbusExecutor × List ExecutorEvent) :
    List CallOutcome × List Stay :=
  match call with
  | .executeNext _ =>
    match result.2 with
    | .issued command outcome _ :: _ =>
      let attempts := watched.2 ++ [outcome]
      if result.1.waitingCommand = none then
        ([], [{ command, attempts }])
      else
        (attempts, [])
    | _ => (watched.2, [])
  | .addWriteCommand _ _ =>
    (if watched.1.writeCommandsQueued = 0 then [] else watched.2, [])
  | _ => (watched.2, result.2.filterMap displacedStay)

/-- The due command can be sent; and on its first try, if it is also the last
one executed, the retries left from then are all of them. -/
def FreshRetries (watched : ModbusExecutor × List CallOutcome) :
    ExecutorCall → Prop
  | .executeNext input =>
    ∀ command ∈ watched.1.due input.delayCheck,
      command.sendable = true ∧
        (watched.2 = [] → watched.1.lastCommand = some command →
          watched.1.retriesLeft command = command.retries)
  | _ => True

instance (watched : ModbusExecutor × List CallOutcome) (call : ExecutorCall) :
    Decidable (FreshRetries watched call) := by
  refine call.casesOn ?_ ?_ ?_ ?_ ?_ <;> intros <;> dsimp only [FreshRetries] <;>
    infer_instance

/-- Every command that left the slot was tried enough, and the one in the slot
has only failed so far, and not too often. -/
structure RetryBudget (watched : ModbusExecutor × List CallOutcome)
    (history : List Stay) : Prop where
  left : ∀ stay ∈ history, stay.TriedEnough
  trying : ∀ command ∈ watched.1.waitingCommand,
    ∃ failures ≤ command.retries,
      watched.2 = List.replicate failures .failed

/-- The tries of the command in the slot against the counters. -/
structure CountsTries (watched : ModbusExecutor × List CallOutcome) :
    Prop where
  last : ∀ command ∈ watched.1.lastCommand,
    watched.1.maxRetries command = command.retries
  none : watched.1.waitingCommand = none → watched.2 = []
  trying : ∀ command ∈ watched.1.waitingCommand,
    ∃ failures, watched.2 = List.replicate failures .failed ∧
      (failures ≠ 0 → watched.1.lastCommand = some command ∧
        watched.1.retriesLeft command + failures = command.retries)

variable {watched : ModbusExecutor × List CallOutcome} {next : ModbusExecutor}

theorem CountsTries.budget (counts : CountsTries watched) {history : List Stay}
    (left : ∀ stay ∈ history, stay.TriedEnough) :
    RetryBudget watched history := by
  refine ⟨left, ?_⟩
  intro command waiting
  obtain ⟨failures, tries, counter⟩ := counts.trying command waiting
  refine ⟨failures, ?_, tries⟩
  by_cases first : failures = 0
  · omega
  · have := (counter first).2
    omega

theorem CountsTries.filled (counts : CountsTries watched)
    (same : SameLast watched.1 next)
    (kept : watched.1.waitingCommand ≠ .none →
      next.waitingCommand = watched.1.waitingCommand) :
    CountsTries (next, watched.2) := by
  refine ⟨?_, ?_, ?_⟩
  · intro command last
    rw [same.lastCommand] at last
    rw [same.maxRetries]
    exact counts.last command last
  · intro idle
    by_cases before : watched.1.waitingCommand = .none
    · exact counts.none before
    · exact (before (kept before ▸ idle)).elim
  · intro command waiting
    rw [same.lastCommand, same.retriesLeft]
    by_cases before : watched.1.waitingCommand = .none
    · refine ⟨0, counts.none before, ?_⟩
      intro some
      exact (some rfl).elim
    · exact counts.trying command (kept before ▸ waiting)

variable {ready : ModbusExecutor} {attempts : List CallOutcome}
  {command : RegisterCommand} {input : ExecuteInput}
  {events : List ExecutorEvent}

theorem CountsTries.taken (counts : CountsTries watched)
    (taken : Taken watched.1 ready) : CountsTries (ready, watched.2) := by
  apply counts.filled taken.sameLast
  intro busy
  cases taken with
  | kept _ => rfl
  | continued idle _ _ _ => exact (busy idle).elim
  | moved idle _ _ _ _ _ => exact (busy idle).elim

theorem CountsTries.preempted (counts : CountsTries watched)
    (same : SameLast watched.1 next) : CountsTries (next, []) := by
  refine ⟨?_, fun _ => rfl, fun command waiting => ⟨0, rfl, ?_⟩⟩
  · intro command last
    rw [same.lastCommand] at last
    rw [same.maxRetries]
    exact counts.last command last
  · intro some
    exact (some rfl).elim

theorem CountsTries.started (counts : CountsTries (ready, attempts))
    (waiting : ready.waitingCommand = some command)
    (fresh : attempts = [] → ready.lastCommand = some command →
      ready.retriesLeft command = command.retries) :
    (ready.startCommand command).maxRetries command = command.retries ∧
      ∃ failures, attempts = List.replicate failures .failed ∧
        (ready.startCommand command).retriesLeft command + failures =
          command.retries := by
  obtain ⟨failures, tries, counter⟩ := counts.trying command waiting
  dsimp only at tries counter
  rw [maxRetries_startCommand, retriesLeft_startCommand]
  by_cases again : ready.lastCommand = some command
  · rw [if_pos again, if_pos again]
    refine ⟨counts.last command again, failures, tries, ?_⟩
    by_cases first : failures = 0
    · rw [first, List.replicate_zero] at tries
      rw [first, fresh tries again, Nat.add_zero]
    · exact (counter first).2
  · rw [if_neg again, if_neg again]
    have first : failures = 0 := by
      by_contra some
      exact again (counter some).1
    exact ⟨rfl, failures, tries, by omega⟩

/-- What a try does to the counters: the command fails and stays, or it leaves
the slot and was tried enough. -/
theorem Sending.counts {started sent : ModbusExecutor}
    {outcome : CallOutcome} {failures : Nat}
    (sending : Sending started command input sent outcome)
    (waiting : started.waitingCommand = some command)
    (sendable : command.sendable = true)
    (full : started.maxRetries command = command.retries)
    (counter : started.retriesLeft command + failures = command.retries) :
    (sent.waitingCommand = some command ∧
      CountsTries (sent, List.replicate failures .failed ++ [outcome])) ∨
    (sent.waitingCommand = none ∧ CountsTries (sent, []) ∧ Stay.TriedEnough
        { command
          attempts := List.replicate failures .failed ++ [outcome] }) := by
  cases sending with
  | threw refused =>
    rw [sendable] at refused
    cases refused
  | retried same spent =>
    left
    have kept : sent.maxRetries command = started.maxRetries command := by
      rw [same]
      cases command <;> rfl
    have slot : sent.waitingCommand = some command := by
      rw [same]
      exact waiting
    have last : sent.lastCommand = some command := by
      rw [same]
    refine ⟨slot, ?_, ?_, ?_⟩
    · intro executed here
      cases last.symm.trans here
      exact kept.trans full
    · intro idle
      cases slot.symm.trans idle
    · intro executed here
      cases slot.symm.trans here
      refine ⟨failures + 1, List.replicate_succ'.symm, fun _ => ?_⟩
      refine ⟨last, ?_⟩
      change sent.retriesLeft command + (failures + 1) = command.retries
      omega
  | finished same finishes _ =>
    right
    have kept : sent.maxRetries command = started.maxRetries command := by
      rw [same]
      cases command <;> rfl
    have slot : sent.waitingCommand = none := by
      rw [same]
    have last : sent.lastCommand = some command := by
      rw [same]
    refine ⟨slot, ⟨?_, fun _ => rfl, ?_⟩, ?_⟩
    · intro executed here
      cases last.symm.trans here
      exact kept.trans full
    · intro executed here
      cases slot.symm.trans here
    · cases outcome with
      | ok values => exact .inl ⟨failures, by dsimp only; omega, values, rfl⟩
      | failed =>
        have exhausted : started.retriesLeft command = 0 :=
          of_decide_eq_true finishes
        right
        dsimp only
        rw [← counter, exhausted, Nat.zero_add]
        exact List.replicate_succ'.symm
      | threw => cases finishes

theorem CountsTries.congr {executor : ModbusExecutor}
    (counts : CountsTries (executor, attempts))
    (same : SameLast executor next)
    (slot : next.waitingCommand = executor.waitingCommand) :
    CountsTries (next, attempts) :=
  counts.filled same fun _ => slot

/-- `executeNext` keeps the count and lets go only of commands tried enough. -/
theorem Executed.counts (executed : Executed watched.1 input next events)
    (counts : CountsTries watched)
    (fresh : FreshRetries watched (.executeNext input)) :
    CountsTries
        (next, (noteAttempts watched (.executeNext input) (next, events)).1) ∧
      ∀ stay ∈ (noteAttempts watched (.executeNext input) (next, events)).2,
        stay.TriedEnough := by
  cases executed with
  | nothing _ => exact ⟨counts, by simp [noteAttempts]⟩
  | idle taking _ =>
    exact ⟨(counts.taken (takeNext_taken taking)).congr (.of_eq rfl) rfl,
      by simp [noteAttempts]⟩
  | waits taking _ _ =>
    exact ⟨counts.taken (takeNext_taken taking), by simp [noteAttempts]⟩
  | @sends ready sent initialPoll command outcome messages taking waiting _ due
      sending =>
      have taken := takeNext_taken taking
      have same := taken.sameLast
      have permits := fresh command due
      rw [← same.lastCommand, ← same.retriesLeft] at permits
      obtain ⟨full, failures, tries, counter⟩ :=
        (counts.taken taken).started waiting permits.2
      have held : (ready.startCommand command).waitingCommand =
          some command := by
        obtain ⟨_, _, _, _, started⟩ := ready.startCommand_eq command
        rw [started]
        exact waiting
      rcases sending.counts held permits.1 full counter with
        ⟨slot, after⟩ | ⟨slot, after, enough⟩
      · simp only [noteAttempts, slot, tries]
        exact ⟨after.congr (.of_eq rfl) slot.symm, by simp⟩
      · simp only [noteAttempts, slot, tries]
        exact ⟨after.congr (.of_eq rfl) slot.symm, by simpa using enough⟩

/-- A call other than `executeNext` starts no try. -/
theorem SameLast.counts {call : ExecutorCall} (same : SameLast watched.1 next)
    (stepped : watched.1.step call = some (next, events))
    (other : ∀ input, call ≠ .executeNext input)
    (single : watched.1.SingleElection call) (counts : CountsTries watched) :
    CountsTries (next, (noteAttempts watched call (next, events)).1) ∧
      (noteAttempts watched call (next, events)).2 = [] := by
  have kept := step_keepsSlot stepped other
  have undisplaced : events.filterMap displacedStay = [] := by
    rw [List.filterMap_eq_nil_iff]
    intro event logged
    cases event with
    | displaced command =>
      exact (step_not_displaced single stepped command logged).elim
    | _ => rfl
  cases call with
  | setupInitialPoll registers now =>
    exact ⟨counts.filled same (kept (by simp)), undisplaced⟩
  | addPollList registers now =>
    exact ⟨counts.filled same (kept (by simp)), undisplaced⟩
  | addReadCommand reg =>
    exact ⟨counts.filled same (kept (by simp)), undisplaced⟩
  | addWriteCommand cmd endAnswer =>
    rw [noteAttempts]
    refine ⟨?_, rfl⟩
    split
    · exact counts.preempted same
    · rename_i slow
      exact counts.filled same (kept (fun _ _ _ => slow))
  | executeNext input => exact (other input rfl).elim

/-- A command is tried until it succeeds or until all its retries have failed,
in every run in which no election displaces a command and every command that
is executed twice in a row starts the second time with all its retries. -/
theorem retryBudget_respected {now : Int} {created : RegisterPoll → Int}
    {watched : ModbusExecutor × List CallOutcome} {history : List Stay}
    (run : Runs (Runs.observe step noteAttempts) (fun watched _ call =>
        watched.1.SingleElection call ∧ FreshRetries watched call)
      (create now created, []) watched history) :
    RetryBudget watched history := by
  suffices counts : CountsTries watched ∧
      ∀ stay ∈ history, stay.TriedEnough from counts.1.budget counts.2
  induction run with
  | start => exact ⟨⟨by simp [create], fun _ => rfl, by simp [create]⟩, by simp⟩
  | @step before after earlier noted call _ permitted observed induction =>
    obtain ⟨counts, enough⟩ := induction
    obtain ⟨events, stepped, seen⟩ := Runs.observe_eq_some observed
    have attempts : _ = after.2 := congrArg Prod.fst seen
    have logged : _ = noted := congrArg Prod.snd seen
    have reached : CountsTries (after.1, after.2) ∧
        ∀ stay ∈ noted, stay.TriedEnough := by
      rw [← attempts, ← logged]
      rcases step_sameLast stepped with
        ⟨input, rfl, executed⟩ | ⟨other, same⟩
      · exact executed.counts counts permitted.2
      · obtain ⟨kept, nothing⟩ :=
          same.counts stepped other permitted.1 counts
        exact ⟨kept, by simp [nothing]⟩
    refine ⟨reached.1, ?_⟩
    intro stay member
    rcases List.mem_append.mp member with old | new
    · exact enough stay old
    · exact reached.2 stay new

def retriedPoll : RegisterPoll :=
  { delayedPoll 1 0 with maxReadRetryCount := 1 }

def offerRetriedPoll : ExecutorCall :=
  .addPollList { entries := [(1, [retriedPoll])], sorted := by simp } 0

theorem retryBudget_respected_twice : ∃ watched history,
      Runs (Runs.observe step noteAttempts) (fun watched _ call =>
          watched.1.SingleElection call ∧ FreshRetries watched call)
        (create 0 fun _ => 0, []) watched history ∧
      history =
        [{ command := .poll retriedPoll, attempts := [.failed, .ok [7]] },
          { command := .poll retriedPoll, attempts := [.failed, .failed] }] ∧
      RetryBudget watched history := by
  obtain ⟨watched, history, run, reached⟩ := Runs.exists_of_replay
    [offerRetriedPoll, .executeNext unanswered, .executeNext (answered 7),
      offerRetriedPoll, .executeNext unanswered, .executeNext unanswered]
    (fun _ history => history =
      [{ command := .poll retriedPoll, attempts := [.failed, .ok [7]] },
        { command := .poll retriedPoll, attempts := [.failed, .failed] }])
    (show (Runs.replay (Runs.observe step noteAttempts)
      (fun watched _ call =>
        watched.1.SingleElection call ∧ FreshRetries watched call) _
      ((create 0 fun _ => 0, []), [])).any _ = true by decide +kernel)
  exact ⟨watched, history, run, reached, retryBudget_respected run⟩

/-- The poll fails twice; offered again, it is given up after one failure. -/
theorem retry_lost_after_failed_poll : ∃ watched history,
      Runs (Runs.observe step noteAttempts) (fun _ _ _ => True)
        (create 0 fun _ => 0, []) watched history ∧
      { command := .poll retriedPoll, attempts := [.failed] } ∈ history ∧
      ¬ RetryBudget watched history := by
  obtain ⟨watched, history, run, member⟩ := Runs.exists_of_replay
    [offerRetriedPoll, .executeNext unanswered, .executeNext unanswered,
      offerRetriedPoll, .executeNext unanswered]
    (fun _ history =>
      { command := .poll retriedPoll, attempts := [.failed] } ∈ history)
    (show (Runs.replay (Runs.observe step noteAttempts) (fun _ _ _ => True) _
      ((create 0 fun _ => 0, []), [])).any _ = true by decide +kernel)
  refine ⟨watched, history, run, member, ?_⟩
  intro budget
  rcases budget.left _ member with ⟨failures, _, values, succeeded⟩ | failed
  · have last := congrArg List.getLast? succeeded
    rw [List.getLast?_concat] at last
    cases last
  · have count := congrArg List.length failed
    cases count

end ModbusExecutor

end MqmGateway
