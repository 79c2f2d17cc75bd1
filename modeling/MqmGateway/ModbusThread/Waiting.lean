import MqmGateway.Executor.Pending
import MqmGateway.ModbusThread

/-!
# How long the scheduler waits

`getRegistersToPoll` goes once through all polls, collects those that are due
and keeps the shortest time after which one of them has to be looked at again.
-/

namespace MqmGateway

/-- Within the nanoseconds that an `int` of milliseconds can be. -/
def Duration.IsShort (value : Int) : Prop :=
  -2147483648000000 ≤ value ∧ value ≤ 2147483647000000

instance (value : Int) : Decidable (Duration.IsShort value) :=
  inferInstanceAs (Decidable (_ ∧ _))

namespace ModbusScheduler

/-- `ONCE` polls are done with after a successful read. -/
def skipped (polls : RegisterPoll → RegisterPollState) (reg : RegisterPoll) :
    Bool :=
  reg.publishMode = .once && (polls reg).lastReadOk

/-- The body of the two loops, with the map and the duration built so far. -/
def visit (polls : RegisterPoll → RegisterPollState) (timePoint : Int)
    (slave : Int) (found : OrderedMap Int (List RegisterPoll) × Duration)
    (reg : RegisterPoll) : OrderedMap Int (List RegisterPoll) × Duration :=
  if skipped polls reg then
    found
  else
    let timePassed := timePoint - (polls reg).lastReadStartTime
    let isDue := decide (timePassed ≥ reg.refresh)
    let ret :=
      if isDue then
        found.1.set slave (found.1.getD slave [] ++ [reg])
      else
        found.1
    let timeToPoll := if isDue then reg.refresh else reg.refresh - timePassed
    (ret, if found.2 > timeToPoll then timeToPoll else found.2)

/-- The loops of `getRegistersToPoll`: the map returned and `outDuration`. -/
def pollLoop (registerMap : OrderedMap Int (List RegisterPoll))
    (polls : RegisterPoll → RegisterPollState) (timePoint : Int) :
    OrderedMap Int (List RegisterPoll) × Duration :=
  registerMap.entries.foldl
    (fun found slave => slave.2.foldl (visit polls timePoint slave.1) found)
    (.empty, Duration.max)

section Collected

variable {polls : RegisterPoll → RegisterPollState} {now : Int}

theorem duePolls_eq_filter (registers : List RegisterPoll) :
    duePolls polls now registers = registers.filter fun reg =>
      !skipped polls reg &&
        now - (polls reg).lastReadStartTime ≥ reg.refresh :=
  rfl

theorem duePolls_cons (reg : RegisterPoll) (registers : List RegisterPoll) :
    duePolls polls now (reg :: registers) =
      duePolls polls now [reg] ++ duePolls polls now registers := by
  rw [duePolls, duePolls, duePolls, ← List.filter_append]
  rfl

/-- One poll goes behind those of its slave if it is due. -/
theorem visit_entries {slave : Int} {front : List (Int × List RegisterPoll)}
    (below : ∀ entry ∈ front, entry.1 < slave) {seen : List RegisterPoll}
    {found : OrderedMap Int (List RegisterPoll) × Duration}
    (collected : found.1.entries =
      front ++ [(slave, seen)].filter fun entry => !entry.2.isEmpty)
    (reg : RegisterPoll) :
    (visit polls now slave found reg).1.entries =
      front ++ [(slave, seen ++ duePolls polls now [reg])].filter
        fun entry => !entry.2.isEmpty := by
  rw [visit]
  split
  · rename_i done
    have none : duePolls polls now [reg] = [] := by
      simp [duePolls_eq_filter, done]
    rw [none, List.append_nil]
    exact collected
  · rename_i pending
    dsimp only
    by_cases isDue : now - (polls reg).lastReadStartTime ≥ reg.refresh
    · have one : duePolls polls now [reg] = [reg] := by
        simp [duePolls_eq_filter, pending, isDue]
      rw [if_pos (by simpa using isDue), one, OrderedMap.set]
      dsimp only
      rw [OrderedMap.getD_append collected below, collected,
        OrderedMap.setEntry_append below]
      cases seen <;> simp [OrderedMap.setEntry]
    · have none : duePolls polls now [reg] = [] := by
        simp [duePolls_eq_filter, isDue]
      rw [if_neg (by simpa using isDue), none, List.append_nil]
      exact collected

theorem foldl_visit_entries {slave : Int}
    {front : List (Int × List RegisterPoll)}
    (below : ∀ entry ∈ front, entry.1 < slave)
    (registers : List RegisterPoll) :
    ∀ {seen : List RegisterPoll}
      {found : OrderedMap Int (List RegisterPoll) × Duration},
      found.1.entries =
        front ++ [(slave, seen)].filter (fun entry => !entry.2.isEmpty) →
      (registers.foldl (visit polls now slave) found).1.entries =
        front ++ [(slave, seen ++ duePolls polls now registers)].filter
          fun entry => !entry.2.isEmpty := by
  induction registers with
  | nil =>
    intro seen found collected
    rw [show duePolls polls now [] = [] from rfl, List.append_nil]
    exact collected
  | cons reg registers induction =>
    intro seen found collected
    rw [duePolls_cons, ← List.append_assoc]
    exact induction (visit_entries below collected reg)

theorem foldl_slaves_entries {slaves : List (Int × List RegisterPoll)}
    (sorted : slaves.Pairwise fun left right => left.1 < right.1) :
    ∀ {found : OrderedMap Int (List RegisterPoll) × Duration},
      (∀ entry ∈ found.1.entries, ∀ slave ∈ slaves, entry.1 < slave.1) →
      (slaves.foldl (fun found slave =>
          slave.2.foldl (visit polls now slave.1) found) found).1.entries =
        found.1.entries ++ (slaves.map fun entry =>
          (entry.1, duePolls polls now entry.2)).filter fun entry =>
            !entry.2.isEmpty := by
  induction slaves with
  | nil =>
    intro found _
    exact (List.append_nil _).symm
  | cons slave slaves induction =>
    intro found below
    obtain ⟨headBelow, restSorted⟩ := List.pairwise_cons.mp sorted
    have here : (slave.2.foldl (visit polls now slave.1) found).1.entries =
        found.1.entries ++ [(slave.1, [] ++ duePolls polls now slave.2)].filter
          fun entry => !entry.2.isEmpty :=
      foldl_visit_entries
        (fun entry listed => below entry listed slave List.mem_cons_self)
        slave.2 (by simp)
    rw [List.foldl_cons, induction restSorted, here, List.nil_append,
      List.append_assoc, ← List.filter_append]
    · rfl
    · intro entry listed later member
      rw [here] at listed
      rcases List.mem_append.mp listed with earlier | new
      · exact below entry earlier later (List.mem_cons_of_mem slave member)
      · cases List.mem_singleton.mp (List.mem_of_mem_filter new)
        exact headBelow later member

theorem pollLoop_registers (registerMap : OrderedMap Int (List RegisterPoll)) :
    (pollLoop registerMap polls now).1 =
      getRegistersToPoll registerMap polls now := by
  apply OrderedMap.eq_of_entries_eq
  rw [pollLoop, foldl_slaves_entries registerMap.sorted]
  · rfl
  · intro entry listed
    exact absurd listed List.not_mem_nil

end Collected

/-- The time after which a poll has to be looked at again. -/
def timeToPoll (polls : RegisterPoll → RegisterPollState) (timePoint : Int)
    (reg : RegisterPoll) : Int :=
  if timePoint - (polls reg).lastReadStartTime ≥ reg.refresh then
    reg.refresh
  else
    reg.refresh - (timePoint - (polls reg).lastReadStartTime)

def allPolls (registerMap : OrderedMap Int (List RegisterPoll)) :
    List RegisterPoll :=
  registerMap.entries.flatMap Prod.snd

section Waited

variable {polls : RegisterPoll → RegisterPollState} {now : Int}

def shorten (polls : RegisterPoll → RegisterPollState) (now : Int)
    (duration : Int) (reg : RegisterPoll) : Int :=
  if skipped polls reg then duration
  else min duration (timeToPoll polls now reg)

theorem visit_duration (slave : Int)
    (found : OrderedMap Int (List RegisterPoll) × Duration)
    (reg : RegisterPoll) :
    (visit polls now slave found reg).2 = shorten polls now found.2 reg := by
  rw [visit, shorten]
  split
  · rfl
  · simp only [decide_eq_true_eq]
    change (if found.2 > timeToPoll polls now reg then _ else _) = _
    split
    · rename_i longer
      exact (min_eq_right (le_of_lt longer)).symm
    · rename_i shorter
      exact (min_eq_left (not_lt.mp shorter)).symm

theorem foldl_visit_duration (slave : Int) (registers : List RegisterPoll)
    (found : OrderedMap Int (List RegisterPoll) × Duration) :
    (registers.foldl (visit polls now slave) found).2 =
      registers.foldl (shorten polls now) found.2 := by
  induction registers generalizing found with
  | nil => rfl
  | cons reg registers induction =>
    rw [List.foldl_cons, induction, visit_duration, List.foldl_cons]

theorem pollLoop_duration (registerMap : OrderedMap Int (List RegisterPoll)) :
    (pollLoop registerMap polls now).2 =
      (allPolls registerMap).foldl (shorten polls now) Duration.max := by
  have slaves : ∀ (entries : List (Int × List RegisterPoll))
      (found : OrderedMap Int (List RegisterPoll) × Duration),
      (entries.foldl (fun found slave =>
          slave.2.foldl (visit polls now slave.1) found) found).2 =
        (entries.flatMap Prod.snd).foldl (shorten polls now) found.2 := by
    intro entries
    induction entries with
    | nil => exact fun found => rfl
    | cons slave entries induction =>
      intro found
      rw [List.foldl_cons, induction, foldl_visit_duration,
        List.flatMap_cons, List.foldl_append]
  exact slaves registerMap.entries (.empty, Duration.max)

theorem foldl_shorten_le (polls : RegisterPoll → RegisterPollState)
    (now : Int) (registers : List RegisterPoll)
    (duration : Int) :
    registers.foldl (shorten polls now) duration ≤ duration ∧
      ∀ reg ∈ registers, skipped polls reg = false →
        registers.foldl (shorten polls now) duration ≤
          timeToPoll polls now reg := by
  induction registers generalizing duration with
  | nil => exact ⟨le_refl duration, List.forall_mem_nil _⟩
  | cons reg registers induction =>
    obtain ⟨shorter, others⟩ := induction (shorten polls now duration reg)
    have step : shorten polls now duration reg ≤ duration := by
      rw [shorten]
      split
      · exact le_refl duration
      · exact min_le_left _ _
    refine ⟨shorter.trans step, List.forall_mem_cons.mpr ⟨?_, others⟩⟩
    intro pending
    refine shorter.trans ?_
    rw [shorten, if_neg (by simp [pending])]
    exact min_le_right _ _

theorem foldl_shorten_attained (polls : RegisterPoll → RegisterPollState)
    (now : Int) (registers : List RegisterPoll)
    (duration : Int) :
    registers.foldl (shorten polls now) duration = duration ∨
      ∃ reg ∈ registers, skipped polls reg = false ∧
        registers.foldl (shorten polls now) duration =
          timeToPoll polls now reg := by
  induction registers generalizing duration with
  | nil => exact .inl rfl
  | cons reg registers induction =>
    rcases induction (shorten polls now duration reg) with
      same | ⟨other, listed, pending, attained⟩
    · rw [List.foldl_cons, same, shorten]
      split
      · exact .inl rfl
      · rename_i pending
        rcases le_total duration (timeToPoll polls now reg) with kept | taken
        · exact .inl (min_eq_left kept)
        · exact .inr ⟨reg, List.mem_cons_self, by simpa using pending,
            min_eq_right taken⟩
    · exact .inr ⟨other, List.mem_cons_of_mem reg listed, pending, attained⟩

end Waited

theorem getRegistersToPoll_getD
    (registerMap : OrderedMap Int (List RegisterPoll))
    (polls : RegisterPoll → RegisterPollState) (now slave : Int) :
    (getRegistersToPoll registerMap polls now).getD slave [] =
      duePolls polls now (registerMap.getD slave []) := by
  by_cases known : slave ∈ (getRegistersToPoll registerMap polls now).keys
  · have listed := OrderedMap.mem_of_mem_keys [] known
    obtain ⟨entry, stored, same⟩ :=
      List.mem_map.mp (List.mem_of_mem_filter listed)
    obtain ⟨rfl, due⟩ := Prod.mk.inj same
    rw [← due, OrderedMap.getD_of_mem stored]
  · rw [OrderedMap.getD_of_not_mem_keys [] known]
    by_contra busy
    apply known
    have stored : slave ∈ registerMap.keys := by
      by_contra absent
      rw [OrderedMap.getD_of_not_mem_keys [] absent] at busy
      exact busy rfl
    refine List.mem_map.mpr ⟨(slave, duePolls polls now
      (registerMap.getD slave [])), List.mem_filter.mpr ⟨?_, ?_⟩, rfl⟩
    · exact List.mem_map.mpr
        ⟨_, OrderedMap.mem_of_mem_keys [] stored, rfl⟩
    · simpa [List.isEmpty_iff] using Ne.symm busy

/-- The scheduler returns what is due and waits until a poll is due next.
Refreshes are read into an `int` of milliseconds, and the clock is not about to
end. -/
theorem pollLoop_deadlines (registerMap : OrderedMap Int (List RegisterPoll))
    (polls : RegisterPoll → RegisterPollState) (now : Int)
    (short : ∀ reg ∈ allPolls registerMap, Duration.IsShort reg.refresh)
    (booted : 0 ≤ now)
    (early : ∀ reg ∈ allPolls registerMap,
      (polls reg).lastReadStartTime ≤ Duration.max - 2147483648000000) :
    (∀ slave, (pollLoop registerMap polls now).1.getD slave [] =
      (registerMap.getD slave []).filter fun reg =>
        !skipped polls reg &&
          now - (polls reg).lastReadStartTime ≥ reg.refresh) ∧
    (∀ reg ∈ allPolls registerMap, skipped polls reg = false →
      now - (polls reg).lastReadStartTime < reg.refresh →
      ∀ later, now ≤ later → later < now + (pollLoop registerMap polls now).2 →
        later - (polls reg).lastReadStartTime < reg.refresh) ∧
    (∀ reg ∈ allPolls registerMap, skipped polls reg = false →
      now - (polls reg).lastReadStartTime ≥ reg.refresh →
      ∀ restarted ≥ now,
        ∀ later < now + (pollLoop registerMap polls now).2,
          later - restarted < reg.refresh) ∧
    ((pollLoop registerMap polls now).2 = Duration.max ↔
      ∀ reg ∈ allPolls registerMap, skipped polls reg = true) ∧
    ((∃ reg ∈ allPolls registerMap, skipped polls reg = false) →
      ∃ reg ∈ allPolls registerMap, skipped polls reg = false ∧
        ∀ later, now + (pollLoop registerMap polls now).2 ≤ later ↔
          later - (if now - (polls reg).lastReadStartTime ≥ reg.refresh then now
            else (polls reg).lastReadStartTime) ≥ reg.refresh) := by
  have finite : ∀ reg ∈ allPolls registerMap,
      timeToPoll polls now reg < Duration.max := by
    intro reg listed
    have bounds := short reg listed
    have started := early reg listed
    rw [timeToPoll]
    simp only [Duration.IsShort, Duration.max] at *
    split <;> omega
  rw [pollLoop_duration]
  have shortest := (foldl_shorten_le polls now (allPolls registerMap)
    Duration.max).2
  have attained := foldl_shorten_attained polls now (allPolls registerMap)
    Duration.max
  generalize (allPolls registerMap).foldl (shorten polls now) Duration.max =
    duration at shortest attained ⊢
  refine ⟨?_, ?_, ?_, ?_, ?_⟩
  · intro slave
    rw [pollLoop_registers, getRegistersToPoll_getD, duePolls_eq_filter]
  · intro reg listed pending early later _ before
    have bound := shortest reg listed pending
    rw [timeToPoll, if_neg (not_le.mpr early)] at bound
    omega
  · intro reg listed pending due restarted after later before
    have bound := shortest reg listed pending
    rw [timeToPoll, if_pos due] at bound
    omega
  · constructor
    · intro longest reg listed
      by_contra pending
      have soon := finite reg listed
      have bound := shortest reg listed (by simpa using pending)
      rw [longest] at bound
      exact absurd soon (not_lt.mpr bound)
    · intro all
      rcases attained with same | ⟨reg, listed, pending, _⟩
      · exact same
      · rw [all reg listed] at pending
        cases pending
  · rintro ⟨some, known, waits⟩
    rcases attained with same | ⟨reg, listed, pending, attained⟩
    · have bound := shortest some known waits
      have soon := finite some known
      omega
    · refine ⟨reg, listed, pending, ?_⟩
      intro later
      rw [attained, timeToPoll]
      split <;> constructor <;> intro <;> omega

def startedAt (start : Int) : RegisterPollState :=
  { lastValues := []
    lastReadOk := false
    lastReadStartTime := start
    lastReadFinishTime := start
    readErrors := 0
    firstErrorTime := 0 }

theorem pollLoop_deadlines_twoSlaves : (pollLoop (ModbusExecutor.twoSlaves 0 0)
        (fun reg => startedAt (if reg.slaveId = 1 then 0 else 500000000))
        1000000000).1.getD 1 [] = [ModbusExecutor.delayedPoll 1 0] ∧
      ∀ later, 1000000000 ≤ later → later < 1500000000 →
        later - 500000000 < (ModbusExecutor.delayedPoll 2 0).refresh := by
  have deadlines := pollLoop_deadlines (ModbusExecutor.twoSlaves 0 0)
    (fun reg => startedAt (if reg.slaveId = 1 then 0 else 500000000))
    1000000000 (by decide) (by decide) (by decide)
  refine ⟨(deadlines.1 1).trans (by decide), ?_⟩
  exact deadlines.2.1 (ModbusExecutor.delayedPoll 2 0) (by decide) (by decide)
    (by decide)

end ModbusScheduler

end MqmGateway
