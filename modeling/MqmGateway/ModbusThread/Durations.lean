import MqmGateway.ModbusThread.Steps
import MqmGateway.ModbusThread.Waiting

/-!
# Durations of the thread

Time points and durations are signed counts of 64 bits.  The longest duration
also stands for "never", and the loop of the thread computes with it.  A run
here keeps `nextPollTimePoint`, the local variable of that loop, beside the
state of the thread; an addition that overflows wraps around.
-/

namespace MqmGateway

def Duration.InRange (value : Int) : Prop :=
  -9223372036854775808 ≤ value ∧ value ≤ Duration.max

instance (value : Int) : Decidable (Duration.InRange value) :=
  inferInstanceAs (Decidable (_ ∧ _))

/-- What is stored of a result. -/
def Duration.wrapped (value : Int) : Int :=
  value.bmod 18446744073709551616

theorem Duration.wrapped_of_inRange {value : Int}
    (inRange : Duration.InRange value) : Duration.wrapped value = value := by
  simp only [Duration.InRange, Duration.max, Duration.wrapped, Int.bmod] at *
  split <;> omega

theorem Duration.wrapped_add_max {reading : Int} (positive : 0 < reading)
    (inRange : reading ≤ Duration.max) :
    Duration.wrapped (reading + Duration.max) =
      reading - 9223372036854775809 := by
  rw [Duration.max] at inRange ⊢
  rw [Duration.wrapped, Int.bmod, if_neg (by omega)]
  omega

open Duration

def IsInt (value : Int) : Prop :=
  -2147483648 ≤ value ∧ value ≤ 2147483647

def MsgRegisterPollSpecification.IntRefreshes
    (spec : MsgRegisterPollSpecification) : Prop :=
  ∀ poll ∈ spec.registers, IsInt poll.refreshMsec

namespace ModbusScheduler

def getMinPollTime (registerMap : OrderedMap Int (List RegisterPoll)) : Int :=
  registerMap.entries.foldl (fun ret slave =>
    slave.2.foldl (fun ret reg =>
      if reg.refresh < ret then reg.refresh else ret) ret) Duration.max

variable {registerMap : OrderedMap Int (List RegisterPoll)}

theorem foldl_refresh_spec (registers : List RegisterPoll) (start : Int) :
    let found := registers.foldl (fun (ret : Int) reg =>
      if reg.refresh < ret then reg.refresh else ret) start
    found ≤ start ∧ (∀ reg ∈ registers, found ≤ reg.refresh) ∧
      (found = start ∨ ∃ reg ∈ registers, found = reg.refresh) := by
  induction registers generalizing start with
  | nil => exact ⟨le_refl start, List.forall_mem_nil _, .inl rfl⟩
  | cons reg registers induction =>
    have first : (if reg.refresh < start then reg.refresh else start) =
        min start reg.refresh := by
      rw [min_comm, min_def_lt]
    obtain ⟨shorter, others, attained⟩ := induction (min start reg.refresh)
    simp only [List.foldl_cons, first]
    refine ⟨shorter.trans (min_le_left _ _), List.forall_mem_cons.mpr
      ⟨shorter.trans (min_le_right _ _), others⟩, ?_⟩
    rcases attained with kept | ⟨other, listed, same⟩
    · rw [kept]
      rcases le_total start reg.refresh with before | here
      · exact .inl (min_eq_left before)
      · exact .inr ⟨reg, List.mem_cons_self, min_eq_right here⟩
    · exact .inr ⟨other, List.mem_cons_of_mem reg listed, same⟩

theorem getMinPollTime_spec : (∀ reg ∈ allPolls registerMap,
      getMinPollTime registerMap ≤ reg.refresh) ∧
      (getMinPollTime registerMap = Duration.max ∨ ∃ reg ∈ allPolls registerMap,
          getMinPollTime registerMap = reg.refresh) := by
  have flat : getMinPollTime registerMap =
      (allPolls registerMap).foldl (fun (ret : Int) reg =>
        if reg.refresh < ret then reg.refresh else ret) Duration.max := by
    rw [allPolls, List.foldl_flatMap]
    rfl
  rw [flat]
  exact (foldl_refresh_spec (allPolls registerMap) Duration.max).2

theorem getMinPollTime_inRange_iff
    (short : ∀ reg ∈ allPolls registerMap, IsShort reg.refresh) :
    InRange (getMinPollTime registerMap * 2) ↔ allPolls registerMap ≠ [] := by
  obtain ⟨shortest, attained⟩ := @getMinPollTime_spec registerMap
  generalize getMinPollTime registerMap = found at shortest attained ⊢
  simp only [InRange, IsShort, Duration.max] at *
  constructor
  · intro inRange none
    rw [none] at attained
    rcases attained with longest | ⟨reg, listed, _⟩
    · omega
    · cases listed
  · intro filled
    obtain ⟨reg, listed⟩ := List.exists_mem_of_ne_nil _ filled
    have upper := shortest reg listed
    have bounds := short reg listed
    rcases attained with longest | ⟨other, otherListed, same⟩
    · omega
    · have lower := short other otherListed
      omega

section Waiting

variable {polls : RegisterPoll → RegisterPollState} {now : Int}

section

variable (short : ∀ reg ∈ allPolls registerMap, IsShort reg.refresh)

include short

theorem le_pollLoop_wait :
    (-2147483648000000 : Int) ≤ (pollLoop registerMap polls now).2 := by
  have attained := foldl_shorten_attained polls now (allPolls registerMap)
    Duration.max
  rw [pollLoop_duration]
  rcases attained with longest | ⟨reg, listed, _, same⟩
  · rw [longest, Duration.max]
    omega
  · have bounds := short reg listed
    rw [same, timeToPoll]
    simp only [IsShort] at bounds
    split <;> omega

/-- The scheduler is asked at one of the readings up to `now`: the sum of the
reading and the time to wait stays near the readings, unless nothing is
pending. -/
theorem pollLoop_wait_cases (past : ∀ reg, 0 ≤ (polls reg).lastReadStartTime ∧
      (polls reg).lastReadStartTime ≤ now) {reading : Int}
    (current : reading ≤ now) :
    ((∀ reg ∈ allPolls registerMap, skipped polls reg = true) ∧
        (pollLoop registerMap polls reading).2 = Duration.max) ∨
      (∃ reg ∈ allPolls registerMap, skipped polls reg = false) ∧
        reading - 2147483648000000 ≤
          reading + (pollLoop registerMap polls reading).2 ∧
        reading + (pollLoop registerMap polls reading).2 ≤
          now + 2147483647000000 := by
  have shortest := (foldl_shorten_le polls reading (allPolls registerMap)
    Duration.max).2
  have attained := foldl_shorten_attained polls reading (allPolls registerMap)
    Duration.max
  have ahead := @le_pollLoop_wait registerMap polls reading short
  rw [← pollLoop_duration] at shortest attained
  by_cases pending : ∃ reg ∈ allPolls registerMap, skipped polls reg = false
  · refine .inr ⟨pending, by omega, ?_⟩
    obtain ⟨reg, listed, waits⟩ := pending
    have upper := shortest reg listed waits
    have bounds := short reg listed
    have started := past reg
    rw [timeToPoll] at upper
    simp only [IsShort] at bounds
    split at upper <;> omega
  · left
    simp only [not_exists, not_and, Bool.not_eq_false] at pending
    refine ⟨pending, ?_⟩
    rcases attained with longest | ⟨other, otherListed, waits, _⟩
    · exact longest
    · rw [pending other otherListed] at waits
      cases waits

theorem nextPoll_inRange_iff (past : ∀ reg, 0 ≤ (polls reg).lastReadStartTime ∧
      (polls reg).lastReadStartTime ≤ now)
    (booted : 0 ≤ now) (early : now ≤ Duration.max - 2147483648000000) :
    InRange (now + (pollLoop registerMap polls now).2) ↔
      now = 0 ∨ ∃ reg ∈ allPolls registerMap, skipped polls reg = false := by
  rcases pollLoop_wait_cases short past (le_refl now) with
    ⟨none, longest⟩ | ⟨pending, soon⟩
  · rw [longest]
    simp only [InRange, Duration.max] at *
    constructor
    · intro inRange
      exact .inl (by omega)
    · rintro (epoch | ⟨reg, listed, waits⟩)
      · omega
      · rw [none reg listed] at waits
        cases waits
  · refine iff_of_true ?_ (.inr pending)
    simp only [InRange, Duration.max] at *
    omega

end

end Waiting

end ModbusScheduler

namespace ModbusExecutor

theorem pollRegisters_startTime (reg : RegisterPoll)
    (state : RegisterPollState) (forceSend : Bool) (input : ExecuteInput) :
    (pollRegisters reg state forceSend input).1.lastReadStartTime =
      input.readStart := by
  rw [pollRegisters]
  dsimp only
  split
  · split <;> rfl
  · exact (handleRegisterReadError_state reg _ input).2.2

theorem sendPoll_polls (executor : ModbusExecutor) (reg : RegisterPoll)
    (input : ExecuteInput) :
    (executor.sendPoll reg input).1.polls = Function.update executor.polls reg
        (pollRegisters reg (executor.polls reg)
          (executor.initialPoll || reg.isRpc) input).1 := by
  rw [sendPoll]
  dsimp only
  split
  · rfl
  · split
    · rfl
    · split <;> rfl

theorem sendCommand_startTimes (executor : ModbusExecutor)
    (command : RegisterCommand) (input : ExecuteInput)
    (reg : RegisterPoll) :
    ((executor.sendCommand command input).1.polls reg).lastReadStartTime =
        input.readStart ∨
      (executor.sendCommand command input).1.polls reg =
        executor.polls reg := by
  have started := (executor.startCommand_polls command).1
  cases command with
  | poll executed =>
    rw [sendCommand, sendPoll_polls, started]
    by_cases same : reg = executed
    · subst same
      rw [Function.update_self]
      exact .inl (pollRegisters_startTime _ _ _ _)
    · rw [Function.update_of_ne same]
      exact .inr rfl
  | write cmd =>
    rw [sendCommand, (sendWrite_execution _ cmd input).1, started]
    exact .inr rfl

/-- A poll starts when it is read. -/
theorem executeNext_startTimes {executor next : ModbusExecutor}
    {input : ExecuteInput} {events : List ExecutorEvent}
    {returned : Except ModbusException Duration}
    (executed : executor.executeNext input = some (next, events, returned))
    (reg : RegisterPoll) :
    (next.polls reg).lastReadStartTime = input.readStart ∨
      next.polls reg = executor.polls reg := by
  rw [executeNext] at executed
  split at executed
  · cases executed
  · cases executed
    exact .inr rfl
  · rename_i ready taken
    have kept := (takeNext_polls taken).1
    split at executed
    · cases executed
      rw [finishInitialPoll_polls, kept]
      exact .inr rfl
    · rename_i command waiting
      have times := ready.sendCommand_startTimes command input reg
      dsimp only at executed
      split at executed
      · cases executed
        rw [kept]
        exact .inr rfl
      · rw [← kept]
        split at executed
        · rename_i sent same
          cases executed
          rw [same] at times
          exact times
        · rename_i sent outcome logged _ same
          cases executed
          rw [same] at times
          rw [finishInitialPoll_polls]
          exact times

end ModbusExecutor

def ThreadInput.readings : ThreadInput → List Int
  | .connect now | .dispatch _ now => [now]
  | .poll now added => [now, added]
  | .execute input =>
    [input.delayCheck, input.readStart, input.errorCheck, input.errorTime,
      input.finish]
  | .connectFails | .disconnect => []

namespace ModbusThread

theorem inspectCommand_startTimes (thread : ModbusThread) (reg : RegisterPoll) :
    ∃ other, (thread.inspectCommand.executor.polls reg).lastReadStartTime =
      (thread.executor.polls other).lastReadStartTime := by
  rw [inspectCommand]
  split
  · rename_i completed _
    split
    · simp only [ModbusScheduler.notifyRpcRead]
      split
      · exact ⟨completed, rfl⟩
      · exact ⟨reg, rfl⟩
    · exact ⟨reg, rfl⟩
  · exact ⟨reg, rfl⟩

variable {thread next : ModbusThread} {events : List ThreadEvent}

theorem execute_startTimes {input : ExecuteInput}
    (executed : thread.execute input = some (next, events))
    (reg : RegisterPoll) :
    (next.executor.polls reg).lastReadStartTime = input.readStart ∨
      ∃ other, (next.executor.polls reg).lastReadStartTime =
        (thread.executor.polls other).lastReadStartTime := by
  obtain ⟨⟨executor, logged, returned⟩, executing, same⟩ :=
    Option.map_eq_some_iff.mp executed
  cases same
  have called (reg : RegisterPoll) :
      (executor.polls reg).lastReadStartTime = input.readStart ∨
        ∃ other, (executor.polls reg).lastReadStartTime =
          (thread.executor.polls other).lastReadStartTime := by
    rcases ModbusExecutor.executeNext_startTimes executing reg with
      read | kept
    · exact .inl read
    · exact .inr ⟨reg, congrArg _ kept⟩
  cases returned with
  | error exception => exact called reg
  | ok delay =>
    dsimp only
    split
    · obtain ⟨other, same⟩ :=
        (thread.afterCall executor logged).inspectCommand_startTimes reg
      rw [same]
      exact called other
    · exact called reg

theorem step_startTimes {input : ThreadInput}
    (stepped : thread.step input = some (next, events))
    (reg : RegisterPoll) :
    (next.executor.polls reg).lastReadStartTime ∈ input.readings ∨
      ∃ other, (next.executor.polls reg).lastReadStartTime =
        (thread.executor.polls other).lastReadStartTime := by
  rcases (step_cases stepped).traffic with
    ⟨call, _, _, _, rfl, _⟩ | ⟨_, polls, _⟩
  · unfold step at stepped
    split at stepped
    · dsimp only at stepped
      split at stepped
      · rcases execute_startTimes stepped reg with read | kept
        · left
          rw [read]
          simp [ThreadInput.readings]
        · exact .inr kept
      · cases stepped
    · cases stepped
  · exact .inr ⟨reg, by rw [polls]⟩

/-- `nextPollTimePoint`, and whether a poll was pending when it was computed
(or the clock stood at zero). -/
structure NextPoll where
  timePoint : Int
  pending : Bool
deriving DecidableEq

/-- The loop asks the scheduler only when `nextPollTimePoint` has passed. -/
def Reaches (nextPoll : NextPoll) : ThreadInput → Bool
  | .poll now _ => nextPoll.timePoint < now
  | _ => true

def noteNextPoll (watched : ModbusThread × NextPoll) (input : ThreadInput)
    (result : ModbusThread × List ThreadEvent) :
    NextPoll × List ThreadEvent :=
  match input with
  | .poll now _ =>
    let polls := watched.1.executor.polls
    ({ timePoint := Duration.wrapped (now + (ModbusScheduler.pollLoop
        watched.1.registerMap polls now).2)
       pending := now = 0 || (ModbusScheduler.allPolls
        watched.1.registerMap).any (!ModbusScheduler.skipped polls ·) },
      result.2)
  | _ => (watched.2, result.2)

/-- The clock was read between `started` and `now`, as the loop does it. -/
def Clocked (started now : Int) (watched : ModbusThread × NextPoll)
    (_ : List ThreadEvent) (input : ThreadInput) : Prop :=
  (∀ reading ∈ input.readings, started ≤ reading ∧ reading ≤ now) ∧
    Reaches watched.2 input = true

instance (started now : Int) (watched : ModbusThread × NextPoll)
    (history : List ThreadEvent) (input : ThreadInput) :
    Decidable (Clocked started now watched history input) :=
  inferInstanceAs (Decidable (_ ∧ _))

/-- What every run up to `now` keeps. -/
structure Timed (now : Int) (watched : ModbusThread × NextPoll) :
    Prop where
  received : ∀ spec, .pollSpecification spec ∈ watched.1.toModbus →
    spec.IntRefreshes
  short : ∀ reg ∈ ModbusScheduler.allPolls watched.1.registerMap,
    IsShort reg.refresh
  past : ∀ reg, 0 ≤ (watched.1.executor.polls reg).lastReadStartTime ∧
    (watched.1.executor.polls reg).lastReadStartTime ≤ now
  nextPoll :
    if watched.2.pending then
      -2147483648000000 ≤ watched.2.timePoint ∧
        watched.2.timePoint ≤ Duration.max
    else
      watched.2.timePoint < now - 9223372036854775808

theorem isShort_of_specified
    {spec : MsgRegisterPollSpecification} (ints : spec.IntRefreshes)
    {reg : RegisterPoll}
    (listed : reg ∈ ModbusScheduler.allPolls
      (bySlave (thread.specifiedPolls spec))) : IsShort reg.refresh := by
  obtain ⟨entry, stored, member⟩ := List.mem_flatMap.mp listed
  obtain ⟨poll, known, address, rfl⟩ :=
    specifiedPolls_origin (mem_bySlave stored member).1
  obtain ⟨lower, upper⟩ := ints poll known
  change IsShort (poll.refreshMsec * 1000000)
  rw [IsShort]
  omega

namespace Timed

variable {started now : Int} {watched next : ModbusThread × NextPoll}
  {history seen : List ThreadEvent} {input : ThreadInput}

theorem noteNextPoll (timed : Timed now watched) (booted : 0 ≤ started)
    (early : now ≤ Duration.max - 2147483648000000)
    (clocked : Clocked started now watched history input)
    (result : ModbusThread × List ThreadEvent) :
    if (noteNextPoll watched input result).1.pending then
      -2147483648000000 ≤ (noteNextPoll watched input result).1.timePoint ∧
        (noteNextPoll watched input result).1.timePoint ≤ Duration.max
    else
      (noteNextPoll watched input result).1.timePoint <
        now - 9223372036854775808 := by
  cases input with
  | poll reading added =>
    have current := clocked.1 reading List.mem_cons_self
    simp only [ModbusThread.noteNextPoll, Bool.or_eq_true, decide_eq_true_eq,
      List.any_eq_true, Bool.not_eq_true']
    rcases ModbusScheduler.pollLoop_wait_cases timed.short timed.past
      current.2 with ⟨none, longest⟩ | ⟨pending, above, below⟩
    · have skips : ¬∃ reg ∈ ModbusScheduler.allPolls watched.1.registerMap,
          ModbusScheduler.skipped watched.1.executor.polls reg = false := by
        rintro ⟨reg, listed, waits⟩
        rw [none reg listed] at waits
        cases waits
      rw [longest]
      by_cases epoch : reading = 0
      · rw [if_pos (.inl epoch), epoch]
        decide
      · rw [if_neg (not_or.mpr ⟨epoch, skips⟩),
          Duration.wrapped_add_max (by omega) (by omega)]
        omega
    · rw [if_pos (.inr pending), Duration.wrapped_of_inRange]
      · simp only [Duration.max] at *
        omega
      · simp only [InRange, Duration.max] at *
        omega
  | _ => exact timed.nextPoll

theorem step (timed : Timed now watched) (booted : 0 ≤ started)
    (early : now ≤ Duration.max - 2147483648000000)
    (clocked : Clocked started now watched history input)
    (observed : Runs.observe ModbusThread.step ModbusThread.noteNextPoll
      watched input = some (next, seen)) : Timed now next := by
  obtain ⟨events, stepped, noted⟩ := Runs.observe_eq_some observed
  have threadStep := step_cases stepped
  refine ⟨?_, ?_, ?_, ?_⟩
  · intro spec queued
    apply timed.received
    rcases threadStep.toModbus with same | ⟨request, taken⟩
    · rwa [← same]
    · rw [taken]
      exact List.mem_cons_of_mem request queued
  · rcases threadStep.registerMap with same | ⟨spec, taken, made⟩
    · rw [same]
      exact timed.short
    · rw [made]
      intro reg
      refine isShort_of_specified (timed.received spec ?_)
      rw [taken]
      exact List.mem_cons_self
  · intro reg
    rcases step_startTimes stepped reg with read | ⟨other, same⟩
    · have reading := clocked.1 _ read
      omega
    · rw [same]
      exact timed.past other
  · have assigned := timed.noteNextPoll booted early clocked (next.1, events)
    rw [noted] at assigned
    exact assigned

end Timed

/-- A thread before its first message. -/
structure Fresh (thread : ModbusThread) : Prop where
  unscheduled : thread.registerMap = .empty
  unread : ∀ reg, (thread.executor.polls reg).lastReadStartTime = 0
  received : ∀ spec, .pollSpecification spec ∈ thread.toModbus →
    spec.IntRefreshes

theorem run_timed (fresh : thread.Fresh)
    {started now : Int} (booted : 0 ≤ started) (current : started ≤ now)
    (early : now ≤ Duration.max - 2147483648000000)
    {reached : ModbusThread × NextPoll} {history : List ThreadEvent}
    (run : Runs (Runs.observe step noteNextPoll) (Clocked started now)
      (thread, ⟨started, true⟩) reached history) : Timed now reached := by
  induction run with
  | start =>
    refine ⟨fresh.received, ?_, ?_, ?_⟩
    · rw [fresh.unscheduled]
      exact List.forall_mem_nil _
    · intro reg
      rw [fresh.unread]
      omega
    · simp only [Duration.max] at *
      exact ⟨by omega, by omega⟩
  | step _ clocked observed induction =>
    exact induction.step booted early clocked observed

/-- At every time until shortly before the end of the clock: twice the
shortest refresh is a duration exactly if something is polled, the next time
point can be computed exactly if a poll is pending, and the time that is left
until then is a duration exactly if it could. -/
theorem durations_in_range {thread : ModbusThread} (fresh : thread.Fresh)
    {started now : Int} (booted : 0 ≤ started) (current : started ≤ now)
    (early : now ≤ Duration.max - 2147483648000000)
    {reached : ModbusThread} {nextPoll : NextPoll}
    {history : List ThreadEvent}
    (run : Runs (Runs.observe step noteNextPoll) (Clocked started now)
      (thread, ⟨started, true⟩) (reached, nextPoll) history) :
    (InRange (ModbusScheduler.getMinPollTime reached.registerMap * 2) ↔
      ModbusScheduler.allPolls reached.registerMap ≠ []) ∧
    (InRange (now + (ModbusScheduler.pollLoop reached.registerMap
        reached.executor.polls now).2) ↔
      now = 0 ∨ ∃ reg ∈ ModbusScheduler.allPolls reached.registerMap,
        ModbusScheduler.skipped reached.executor.polls reg = false) ∧
    (InRange (nextPoll.timePoint - now) ↔ nextPoll.pending = true) := by
  have timed := run_timed fresh booted current early run
  refine ⟨ModbusScheduler.getMinPollTime_inRange_iff timed.short,
    ModbusScheduler.nextPoll_inRange_iff timed.short timed.past
      (booted.trans current) early, ?_⟩
  have bounds := timed.nextPoll
  simp only [InRange, Duration.max] at *
  split at bounds
  · rename_i pending
    exact iff_of_true (by omega) pending
  · rename_i idle
    exact iff_of_false (by omega) idle

/-- A thread that will receive the specification and the news that the broker
is connected. -/
def awaiting (registers : List MsgRegisterPoll) : ModbusThread :=
  { networkName := "net"
    delayBeforeCommand := none
    delayBeforeFirstCommand := none
    maxReadRetryCount := 0
    maxWriteRetryCount := 0
    slaves := fun _ => none
    executor := .create 0 fun _ => 0
    registerMap := .empty
    isRunning := true
    modbusConnected := false
    mqttConnected := false
    nextAddress := 0
    toModbus :=
      [.pollSpecification { networkName := "net", registers },
        .mqttNetworkState true]
    fromModbus := [] }

def polledRegister (refreshMsec : Int) (publishMode : PublishMode) :
    MsgRegisterPoll :=
  { register := 0
    count := 1
    registerType := .holding
    slaveId := 1
    refreshMsec
    publishMode }

/-- Both messages are dispatched, the network is connected, the initial poll
is made and the scheduler is asked. -/
def firstRound : List ThreadInput :=
  [.dispatch false 0, .dispatch false 0, .connect 1,
    .execute (ModbusExecutor.answered 0), .poll 2 2]

theorem awaiting_fresh {registers : List MsgRegisterPoll}
    (ints : MsgRegisterPollSpecification.IntRefreshes ⟨"net", registers⟩) :
    (awaiting registers).Fresh := by
  refine ⟨rfl, fun _ => rfl, ?_⟩
  intro spec listed
  rcases List.mem_cons.mp listed with same | other
  · cases same
    exact ints
  · cases List.mem_singleton.mp other

theorem durations_in_range_second : ∃ reached nextPoll history,
    Runs (Runs.observe step noteNextPoll) (Clocked 0 2)
      (awaiting [polledRegister 1000 .onChange], ⟨0, true⟩)
      (reached, nextPoll) history ∧
    nextPoll.timePoint = 1000000000 ∧
    InRange (ModbusScheduler.getMinPollTime reached.registerMap * 2) ∧
    InRange (2 + (ModbusScheduler.pollLoop reached.registerMap
      reached.executor.polls 2).2) ∧
    InRange (nextPoll.timePoint - 2) := by
  obtain ⟨⟨reached, nextPoll⟩, history, run, polled, pending, next⟩ :=
    Runs.exists_of_replay firstRound
      (fun (watched : ModbusThread × NextPoll) _ =>
        ModbusScheduler.allPolls watched.1.registerMap ≠ [] ∧
        (∃ reg ∈ ModbusScheduler.allPolls watched.1.registerMap,
          ModbusScheduler.skipped watched.1.executor.polls reg = false) ∧
        watched.2 = ⟨1000000000, true⟩)
      (show (Runs.replay (Runs.observe step noteNextPoll) (Clocked 0 2)
        firstRound ((awaiting [polledRegister 1000 .onChange], ⟨0, true⟩),
          [])).any _ = true by decide +kernel)
  have fresh : (awaiting [polledRegister 1000 .onChange]).Fresh :=
    awaiting_fresh (by simp [MsgRegisterPollSpecification.IntRefreshes,
      IsInt, polledRegister])
  obtain ⟨shortest, sum, left⟩ := durations_in_range fresh (le_refl 0)
    (by decide) (by decide) run
  exact ⟨reached, nextPoll, history, run, congrArg NextPoll.timePoint next,
    shortest.mpr polled, sum.mpr (.inr pending),
    left.mpr (congrArg NextPoll.pending next)⟩

/-- Without a register to poll, and after the only poll was read that is made
once, the longest duration is doubled and added to the time. -/
theorem durations_overflow : (∃ watched history,
      Runs (Runs.observe step noteNextPoll) (Clocked 0 2)
        (awaiting [polledRegister MsgRegisterPoll.INVALID_REFRESH .onChange],
          ⟨0, true⟩) watched history ∧
      watched.1.toModbus = [.mqttNetworkState true] ∧
      ¬InRange (ModbusScheduler.getMinPollTime watched.1.registerMap * 2)) ∧
    ∃ watched history, Runs (Runs.observe step noteNextPoll) (Clocked 0 2)
        (awaiting [polledRegister 1000 .once], ⟨0, true⟩) watched history ∧
      ¬InRange (2 + (ModbusScheduler.pollLoop watched.1.registerMap
        watched.1.executor.polls 2).2) ∧
      ¬InRange (watched.2.timePoint - 2) := by
  constructor
  · exact Runs.exists_of_replay [.dispatch false 0]
      (fun (watched : ModbusThread × NextPoll) _ =>
        watched.1.toModbus = [.mqttNetworkState true] ∧
        ¬InRange (ModbusScheduler.getMinPollTime watched.1.registerMap * 2))
      (by decide +kernel)
  · exact Runs.exists_of_replay firstRound
      (fun (watched : ModbusThread × NextPoll) _ =>
        ¬InRange (2 + (ModbusScheduler.pollLoop watched.1.registerMap
          watched.1.executor.polls 2).2) ∧
        ¬InRange (watched.2.timePoint - 2))
      (by decide +kernel)

end ModbusThread

end MqmGateway
