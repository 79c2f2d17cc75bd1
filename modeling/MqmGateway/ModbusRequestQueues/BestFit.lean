import MqmGateway.Executor.Pending

/-!
# Election by silence period

`findForSilencePeriod` keeps the delay of the best poll seen so far and
compares it with the distance of the next one from the elapsed period.  So a
poll that asks for little silence is not displaced by a nearer one, and a poll
that asks for much is displaced by one that is farther away.
-/

namespace MqmGateway

namespace ModbusRequestsQueues

/-- How far a delay is from the elapsed silence. -/
def distance (period delay : Duration) : Duration :=
  (delay - period).natAbs

/-- The delays that polls ask for, in the order of the polls. -/
def askedDelays (ignoreFirstRead : Bool) (polls : List RegisterPoll) :
    List Duration :=
  (polls.map (applicableDelay · ignoreFirstRead)).filter (· ≠ 0)

def Nearest (period : Duration) (delays : List Duration) (delay : Duration) :
    Prop :=
  ∀ other ∈ delays, distance period delay ≤ distance period other

/-- The search finds a poll with a nearest delay, and the queue is left without
it.  If no poll asks for a delay the answer is the longest duration. -/
def ElectsBestFit (queue : ModbusRequestsQueues) (period : Duration)
    (ignoreFirstRead : Bool) : Prop :=
  (askedDelays ignoreFirstRead queue.pollQueue ≠ [] →
    ∃ before poll after rest,
      queue.pollQueue = before ++ poll :: after ∧
      applicableDelay poll ignoreFirstRead ≠ 0 ∧
      Nearest period (askedDelays ignoreFirstRead queue.pollQueue)
        (applicableDelay poll ignoreFirstRead) ∧
      (queue.findForSilencePeriod period ignoreFirstRead).1 =
        applicableDelay poll ignoreFirstRead ∧
      (queue.findForSilencePeriod period ignoreFirstRead).2.popFirstWithDelay
        period ignoreFirstRead = some (poll, rest) ∧
      rest.pollQueue = before ++ after ∧
      rest.writeQueue = queue.writeQueue) ∧
  (askedDelays ignoreFirstRead queue.pollQueue = [] →
    (queue.findForSilencePeriod period ignoreFirstRead).1 = Duration.max)

/-- A nearest delay fits exactly, or the delays before it are greater than its
distance and those behind it are at least that delay away. -/
def Unmisled (period : Duration) (delays : List Duration) : Prop :=
  delays ≠ [] → ∃ before delay after, delays = before ++ delay :: after ∧
    Nearest period delays delay ∧
    (delay = period ∨
      (∀ earlier ∈ before, distance period delay < earlier) ∧
      ∀ later ∈ after, delay ≤ distance period later)

def Stays (period delay : Duration) (after : List Duration) : Prop :=
  delay = period ∨ ∀ later ∈ after, delay ≤ distance period later

/-- No later delay displaces some nearest one. -/
def Undisplaced (period : Duration) (delays : List Duration) : Prop :=
  delays ≠ [] → ∃ before delay after, delays = before ++ delay :: after ∧
    Nearest period delays delay ∧ Stays period delay after

/-- The scan of `findForSilencePeriod`, without positions. -/
def scanDelays (period : Duration) : List Duration → Duration → Duration
  | [], best => best
  | delay :: rest, best =>
    if distance period delay = 0 then
      delay
    else
      scanDelays period rest
        (if distance period delay < best then delay else best)

section Delays

variable {period best bound delay : Duration}
  {delays before after : List Duration}

theorem distance_nonneg (period delay : Duration) : 0 ≤ distance period delay :=
  Int.natCast_nonneg _

theorem distance_eq_zero : distance period delay = 0 ↔ delay = period := by
  simp [distance, Int.sub_eq_zero]

theorem scanDelays_exact (exact : period ∈ delays) (best : Duration) :
    scanDelays period delays best = period := by
  induction delays generalizing best with
  | nil => cases exact
  | cons first delays induction =>
    rw [scanDelays]
    split
    · rename_i here
      exact distance_eq_zero.mp here
    · rename_i away
      refine induction ((List.mem_cons.mp exact).resolve_left ?_) _
      exact fun same => away (distance_eq_zero.mpr same.symm)

theorem scanDelays_cons {rest : List Duration} (inexact : period ≠ delay) :
    scanDelays period (delay :: rest) best = scanDelays period rest
      (if distance period delay < best then delay else best) :=
  if_neg fun here => inexact (distance_eq_zero.mp here).symm

theorem scanDelays_keeps (inexact : period ∉ delays)
    (far : ∀ delay ∈ delays, best ≤ distance period delay) :
    scanDelays period delays best = best := by
  induction delays with
  | nil => rfl
  | cons first delays induction =>
    obtain ⟨here, later⟩ := List.forall_mem_cons.mp far
    obtain ⟨different, others⟩ := List.ne_and_not_mem_of_not_mem_cons inexact
    rw [scanDelays_cons different, if_neg (not_lt.mpr here)]
    exact induction others later

theorem scanDelays_above (inexact : period ∉ before)
    (above : ∀ delay ∈ before, bound < delay) (high : bound < best)
    (rest : List Duration) : ∃ reached, bound < reached ∧
      scanDelays period (before ++ rest) best =
        scanDelays period rest reached := by
  induction before generalizing best with
  | nil => exact ⟨best, high, rfl⟩
  | cons first before induction =>
    obtain ⟨here, later⟩ := List.forall_mem_cons.mp above
    obtain ⟨different, others⟩ := List.ne_and_not_mem_of_not_mem_cons inexact
    rw [List.cons_append, scanDelays_cons different]
    refine induction others later ?_
    split
    · exact here
    · exact high

theorem scanDelays_wins (inexact : period ∉ before ++ delay :: after)
    (earlier : ∀ other ∈ before, distance period delay < other)
    (later : ∀ other ∈ after, delay ≤ distance period other)
    (high : distance period delay < best) :
    scanDelays period (before ++ delay :: after) best = delay := by
  obtain ⟨front, rest⟩ := not_or.mp (mt List.mem_append.mpr inexact)
  obtain ⟨different, back⟩ := List.ne_and_not_mem_of_not_mem_cons rest
  obtain ⟨reached, above, same⟩ :=
    scanDelays_above front earlier high (delay :: after)
  rw [same, scanDelays_cons different, if_pos above]
  exact scanDelays_keeps back later

theorem nearest_period (delays : List Duration) :
    Nearest period delays period := by
  intro other _
  rw [distance_eq_zero.mpr rfl]
  exact distance_nonneg period other

theorem Nearest.inexact (nearest : Nearest period delays delay)
    (different : delay ≠ period) : period ∉ delays := by
  intro listed
  have closer := nearest period listed
  rw [distance_eq_zero.mpr rfl] at closer
  exact different
    (distance_eq_zero.mp (le_antisymm closer (distance_nonneg period delay)))

theorem Unmisled.nearest (unmisled : Unmisled period delays)
    (bounded : ∀ delay ∈ delays, distance period delay < best)
    (asking : delays ≠ []) :
    Nearest period delays (scanDelays period delays best) := by
  obtain ⟨before, delay, after, rfl, nearest, fit⟩ := unmisled asking
  by_cases exact : delay = period
  · subst exact
    rw [scanDelays_exact (by simp)]
    exact nearest
  · obtain ⟨earlier, later⟩ := fit.resolve_left exact
    rw [scanDelays_wins (nearest.inexact exact) earlier later
      (bounded delay (by simp))]
    exact nearest

/-- Delays that are scanned rightly, also when some are taken from the front,
do not mislead. -/
theorem unmisled_of_suffixes
    (bounded : ∀ delay ∈ delays, distance period delay < best)
    (right : ∀ rest, rest <:+ delays → rest ≠ [] →
      Nearest period rest (scanDelays period rest best)) :
    Unmisled period delays := by
  induction delays with
  | nil => exact fun asking => absurd rfl asking
  | cons first delays induction =>
    intro _
    obtain ⟨boundedFirst, boundedRest⟩ := List.forall_mem_cons.mp bounded
    have unmisled := induction boundedRest fun rest suffix =>
      right rest (suffix.trans (List.suffix_cons first delays))
    have whole := right _ List.suffix_rfl (List.cons_ne_nil first delays)
    by_cases exact : first = period
    · exact ⟨[], first, delays, rfl, exact ▸ nearest_period _, .inl exact⟩
    by_cases alone : delays = []
    · subst alone
      exact ⟨[], first, [], rfl, by simp [Nearest], .inr (by simp)⟩
    obtain ⟨before, delay, after, rfl, nearest, fit⟩ := unmisled alone
    by_cases exactDelay : delay = period
    · exact ⟨first :: before, delay, after, rfl,
        exactDelay ▸ nearest_period _, .inl exactDelay⟩
    obtain ⟨earlier, later⟩ := fit.resolve_left exactDelay
    have inexact : period ∉ first :: (before ++ delay :: after) :=
      List.not_mem_cons_of_ne_of_not_mem (Ne.symm exact)
        (nearest.inexact exactDelay)
    by_cases displaced : distance period delay < first
    · have beats := List.forall_mem_cons.mpr ⟨displaced, earlier⟩
      rw [← List.cons_append] at whole inexact ⊢
      rw [scanDelays_wins inexact beats later
        (boundedRest delay (by simp))] at whole
      exact ⟨first :: before, delay, after, rfl, whole, .inr ⟨beats, later⟩⟩
    · have stays : ∀ other ∈ before ++ delay :: after,
          first ≤ distance period other :=
        fun other member => (not_lt.mp displaced).trans (nearest other member)
      have found := @scanDelays_wins period best first [] _ inexact
        (List.forall_mem_nil _) stays boundedFirst
      rw [List.nil_append] at found
      rw [found] at whole
      exact ⟨[], first, _, rfl, whole, .inr ⟨List.forall_mem_nil _, stays⟩⟩

end Delays

variable {period : Duration} {ignoreFirstRead : Bool}
  {queue : ModbusRequestsQueues}

theorem askedDelays_cons (poll : RegisterPoll) (rest : List RegisterPoll) :
    askedDelays ignoreFirstRead (poll :: rest) =
      if applicableDelay poll ignoreFirstRead = 0 then
        askedDelays ignoreFirstRead rest
      else
        applicableDelay poll ignoreFirstRead ::
          askedDelays ignoreFirstRead rest := by
  by_cases free : applicableDelay poll ignoreFirstRead = 0 <;>
    simp [askedDelays, free]

theorem scanSilence_fst (polls : List RegisterPoll) (index : Nat)
    (best : Duration × Option Nat) :
    (scanSilence period ignoreFirstRead polls index best).1 =
      scanDelays period (askedDelays ignoreFirstRead polls) best.1 := by
  induction polls generalizing index best with
  | nil => rfl
  | cons poll polls induction =>
    rw [scanSilence, askedDelays_cons]
    dsimp only
    split
    · exact induction _ _
    · rw [scanDelays, ← distance]
      split
      · rfl
      · split <;> exact induction _ _

/-- The scan has ended with one of the polls, which no later delay
displaces. -/
def Elected (period : Duration) (ignoreFirstRead : Bool)
    (polls : List RegisterPoll) (index : Nat)
    (found : Duration × Option Nat) : Prop :=
  ∃ before poll after, polls = before ++ poll :: after ∧
    applicableDelay poll ignoreFirstRead ≠ 0 ∧
    found =
      (applicableDelay poll ignoreFirstRead, some (index + before.length)) ∧
    Stays period (applicableDelay poll ignoreFirstRead)
      (askedDelays ignoreFirstRead after)

theorem Elected.cons {polls : List RegisterPoll} {index : Nat}
    {found : Duration × Option Nat}
    (elected : Elected period ignoreFirstRead polls (index + 1) found)
    (first : RegisterPoll) :
    Elected period ignoreFirstRead (first :: polls) index found := by
  obtain ⟨before, poll, after, rfl, asks, rfl, fit⟩ := elected
  refine ⟨first :: before, poll, after, rfl, asks, ?_, fit⟩
  rw [List.length_cons, Nat.add_assoc, Nat.add_comm 1]

theorem scanSilence_cases (polls : List RegisterPoll) (index : Nat)
    (best : Duration × Option Nat) :
    (scanSilence period ignoreFirstRead polls index best = best ∧
      ∀ delay ∈ askedDelays ignoreFirstRead polls,
        best.1 ≤ distance period delay) ∨
    Elected period ignoreFirstRead polls index
      (scanSilence period ignoreFirstRead polls index best) := by
  induction polls generalizing index best with
  | nil => exact .inl ⟨rfl, List.forall_mem_nil _⟩
  | cons first polls induction =>
    rw [scanSilence, askedDelays_cons]
    dsimp only
    rw [← distance]
    split
    · exact (induction (index + 1) best).imp_right (·.cons first)
    · rename_i asks
      split
      · rename_i exact
        exact .inr ⟨[], first, polls, rfl, asks, rfl,
          .inl (distance_eq_zero.mp exact)⟩
      · split
        · right
          rcases induction (index + 1)
            (applicableDelay first ignoreFirstRead, some index) with
            ⟨same, far⟩ | elected
          · exact ⟨[], first, polls, rfl, asks, same, .inr far⟩
          · exact elected.cons first
        · rename_i rejected
          refine (induction (index + 1) best).imp ?_ (·.cons first)
          rintro ⟨same, far⟩
          exact ⟨same, List.forall_mem_cons.mpr ⟨not_lt.mp rejected, far⟩⟩

theorem popFirstWithDelay_of_found {index : Nat} {poll : RegisterPoll}
    (cached : queue.lastPollFound = some index)
    (here : queue.pollQueue[index]? = some poll) (period : Duration)
    (ignoreFirstRead : Bool) :
    queue.popFirstWithDelay period ignoreFirstRead = some (poll,
      { queue with pollQueue := queue.pollQueue.eraseIdx index }) := by
  have found : queue.popFound = some (poll,
      { queue with pollQueue := queue.pollQueue.eraseIdx index }) := by
    simp [popFound, cached, here]
  rw [popFirstWithDelay, found]

section Bounded

variable (bounded : ∀ delay ∈ askedDelays ignoreFirstRead queue.pollQueue,
  distance period delay < Duration.max)

include bounded

theorem elected_of_bounded
    (asking : askedDelays ignoreFirstRead queue.pollQueue ≠ []) :
    Elected period ignoreFirstRead queue.pollQueue 0
      (scanSilence period ignoreFirstRead queue.pollQueue 0
        (Duration.max, none)) := by
  refine (scanSilence_cases _ _ _).resolve_left ?_
  rintro ⟨_, far⟩
  obtain ⟨delay, listed⟩ := List.exists_mem_of_ne_nil _ asking
  exact absurd (bounded delay listed) (not_lt.mpr (far delay listed))

theorem electsBestFit_iff : ElectsBestFit queue period ignoreFirstRead ↔
      (askedDelays ignoreFirstRead queue.pollQueue ≠ [] →
        Nearest period (askedDelays ignoreFirstRead queue.pollQueue)
          (scanDelays period (askedDelays ignoreFirstRead queue.pollQueue)
            Duration.max)) := by
  by_cases asking : askedDelays ignoreFirstRead queue.pollQueue = []
  · refine iff_of_true ⟨fun asks => absurd asking asks, fun _ => ?_⟩
      fun asks => absurd asking asks
    have found := @scanSilence_fst period ignoreFirstRead queue.pollQueue 0
      (Duration.max, none)
    rw [asking] at found
    rw [findForSilencePeriod]
    split <;> exact found
  obtain ⟨before, poll, after, polls, asks, scanned, _⟩ :=
    elected_of_bounded bounded asking
  have searched : queue.findForSilencePeriod period ignoreFirstRead =
      (applicableDelay poll ignoreFirstRead,
        { queue with lastPollFound := some before.length }) := by
    simp [findForSilencePeriod, scanned]
  have popped := @popFirstWithDelay_of_found
    { queue with lastPollFound := some before.length } before.length poll rfl
    (by simp [polls]) period ignoreFirstRead
  rw [← @scanSilence_fst period ignoreFirstRead queue.pollQueue 0
    (Duration.max, none), scanned, ElectsBestFit, searched]
  constructor
  · rintro ⟨elected, _⟩ asks
    obtain ⟨_, _, _, _, _, _, nearest, _, taken, _⟩ := elected asks
    cases popped.symm.trans taken
    exact nearest
  · intro nearest
    refine ⟨fun _ => ⟨before, poll, after, _, polls, asks, nearest asking, rfl,
      popped, ?_, rfl⟩, fun free => absurd free asking⟩
    simp [polls, List.eraseIdx_append_of_length_le]

theorem ElectsBestFit.undisplaced
    (elects : ElectsBestFit queue period ignoreFirstRead) :
    Undisplaced period (askedDelays ignoreFirstRead queue.pollQueue) := by
  intro asking
  have nearest := (electsBestFit_iff bounded).mp elects asking
  obtain ⟨before, poll, after, polls, asks, scanned, fit⟩ :=
    elected_of_bounded bounded asking
  rw [← @scanSilence_fst period ignoreFirstRead queue.pollQueue 0
    (Duration.max, none), scanned] at nearest
  refine ⟨askedDelays ignoreFirstRead before, _, _, ?_, nearest, fit⟩
  simp [polls, askedDelays, asks]

end Bounded

/-- The poll elected for a silence period is the best fit if the delays do not
mislead, and only if a nearest one stays.  It is the best fit whatever polls
have been taken from the front exactly if the delays that are left never
mislead. -/
theorem popFirstWithDelay_bestFit (queue : ModbusRequestsQueues)
    (period : Duration) (ignoreFirstRead : Bool)
    (bounded : ∀ delay ∈ askedDelays ignoreFirstRead queue.pollQueue,
      distance period delay < Duration.max) :
    (Unmisled period (askedDelays ignoreFirstRead queue.pollQueue) →
      ElectsBestFit queue period ignoreFirstRead) ∧
    (ElectsBestFit queue period ignoreFirstRead →
      Undisplaced period (askedDelays ignoreFirstRead queue.pollQueue)) ∧
    ((∀ rest, rest <:+ queue.pollQueue →
        ElectsBestFit { queue with pollQueue := rest } period ignoreFirstRead) ↔
      ∀ rest, rest <:+ queue.pollQueue →
        Unmisled period (askedDelays ignoreFirstRead rest)) := by
  have boundedRest {rest : List RegisterPoll}
      (suffix : rest <:+ queue.pollQueue) :
      ∀ delay ∈ askedDelays ignoreFirstRead rest,
        distance period delay < Duration.max :=
    fun delay listed => bounded delay
      (((suffix.map _).filter _).subset listed)
  refine ⟨fun unmisled => (electsBestFit_iff bounded).mpr
    (unmisled.nearest bounded), ElectsBestFit.undisplaced bounded,
    fun right rest suffix => ?_, fun unmisled rest suffix => ?_⟩
  · refine unmisled_of_suffixes (boundedRest suffix) fun asked ends => ?_
    obtain ⟨delays, shorter, rfl⟩ := List.suffix_filter_iff.mp ends
    obtain ⟨polls, suffixToo, rfl⟩ := List.suffix_map_iff.mp shorter
    have whole := suffixToo.trans suffix
    exact (@electsBestFit_iff _ _ { queue with pollQueue := polls }
      (boundedRest whole)).mp (right polls whole)
  · exact (@electsBestFit_iff _ _ { queue with pollQueue := rest }
      (boundedRest suffix)).mpr
      ((unmisled rest suffix).nearest (boundedRest suffix))

theorem popFirstWithDelay_bestFit_second : ∃ rest : ModbusRequestsQueues,
      (findForSilencePeriod
          { pollQueue := [ModbusExecutor.delayedPoll 1 30000000,
              ModbusExecutor.delayedPoll 2 12000000] }
          10000000 true).2.popFirstWithDelay 10000000 true =
        some (ModbusExecutor.delayedPoll 2 12000000, rest) ∧
      rest.pollQueue = [ModbusExecutor.delayedPoll 1 30000000] ∧
      Nearest 10000000 [30000000, 12000000] 12000000 := by
  obtain ⟨before, poll, after, rest, polls, _, nearest, _, popped, remaining,
      _⟩ := ((popFirstWithDelay_bestFit
    { pollQueue := [ModbusExecutor.delayedPoll 1 30000000,
        ModbusExecutor.delayedPoll 2 12000000] }
    10000000 true (by decide)).1 fun _ => ⟨[30000000], 12000000, [], rfl,
      by unfold Nearest; decide, .inr (by decide)⟩).1 (by decide)
  have same : some (poll, rest) = some (ModbusExecutor.delayedPoll 2 12000000,
      { pollQueue := [ModbusExecutor.delayedPoll 1 30000000]
        lastPollFound := some 1 }) :=
    popped.symm.trans rfl
  cases same
  exact ⟨_, popped, rfl, nearest⟩

/-- After 100 ms a poll that asks for 150 ms is elected over one that asks for
101 ms: its distance of 50 ms is less than the delay of 101 ms. -/
theorem popFirstWithDelay_not_bestFit : ∃ rest : ModbusRequestsQueues,
      (findForSilencePeriod
          { pollQueue := [ModbusExecutor.delayedPoll 1 101000000,
              ModbusExecutor.delayedPoll 2 150000000] }
          100000000 true).2.popFirstWithDelay 100000000 true =
        some (ModbusExecutor.delayedPoll 2 150000000, rest) ∧
      applicableDelay (ModbusExecutor.delayedPoll 1 101000000) true =
        101000000 ∧
      distance 100000000 101000000 < distance 100000000 150000000 :=
  ⟨_, rfl, rfl, by decide⟩

end ModbusRequestsQueues

end MqmGateway
