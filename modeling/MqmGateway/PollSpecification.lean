import Mathlib.Data.Int.ConditionallyCompleteOrder
import Mathlib.Data.Set.Finite.Lemmas
import Mathlib.Data.Set.Finite.List
import Mathlib.Order.Bounds.Image
import Mathlib.Order.ConditionallyCompleteLattice.Basic
import Mathlib.Order.WithBot
import MqmGateway.Library.Absorption
import MqmGateway.ModbusMessages

/-!
# The poll specification is the set of overlap components

For one slave and register type, merging a poll is an absorbing insertion of
its content: the hull of its registers, its refresh with the sentinel at the
bottom, and its publish mode by strength.  The general result on absorbing
insertion then says which ranges the specification ends with.
-/

namespace MqmGateway

namespace PublishMode

/-- `EVERY_POLL` over `ON_CHANGE` over `ONCE`. -/
def strength : PublishMode → Nat
  | once => 0
  | onChange => 1
  | everyPoll => 2

theorem strength_injective : Function.Injective strength := by
  intro left right same
  cases left <;> cases right <;> simp_all [strength]

instance : LinearOrder PublishMode :=
  LinearOrder.lift' strength strength_injective

end PublishMode

namespace MsgRegisterPoll

/-- The slave and register type whose registers a poll reads. -/
def target (poll : MsgRegisterPoll) : Int × RegisterType :=
  (poll.slaveId, poll.registerType)

/-- Refreshes ordered so that merging is the join: the sentinel is least and
a shorter period is larger. -/
def refreshRank (refresh : Int) : WithBot ℤᵒᵈ :=
  if refresh = INVALID_REFRESH then ⊥ else ↑(OrderDual.toDual refresh)

def content (poll : MsgRegisterPoll) : (ℤᵒᵈ × ℤ) × WithBot ℤᵒᵈ × PublishMode :=
  ((OrderDual.toDual poll.firstRegister, poll.lastRegister),
    refreshRank poll.refreshMsec, poll.publishMode)

theorem refreshRank_injective : Function.Injective refreshRank := by
  intro left right same
  unfold refreshRank at same
  split at same <;> split at same <;> simp_all

theorem refreshRank_le_iff {left right : Int}
    (leftValid : left ≠ INVALID_REFRESH)
    (rightValid : right ≠ INVALID_REFRESH) :
    refreshRank left ≤ refreshRank right ↔ right ≤ left := by
  simp [refreshRank, leftValid, rightValid]

theorem refreshRank_mergeRefresh (left right : Int) :
    refreshRank (mergeRefresh left right) =
      refreshRank left ⊔ refreshRank right := by
  by_cases leftInvalid : left = INVALID_REFRESH
  · simp [mergeRefresh, refreshRank, leftInvalid]
  by_cases rightInvalid : right = INVALID_REFRESH
  · simp [mergeRefresh, refreshRank, leftInvalid, rightInvalid]
  by_cases longer : left > right
  · have merged : mergeRefresh left right = right := by
      simp [mergeRefresh, leftInvalid, rightInvalid, longer]
    rw [merged, right_eq_sup, refreshRank_le_iff leftInvalid rightInvalid]
    exact le_of_lt longer
  · have merged : mergeRefresh left right = left := by
      simp [mergeRefresh, leftInvalid, longer]
    rw [merged, left_eq_sup, refreshRank_le_iff rightInvalid leftInvalid]
    exact not_lt.mp longer

theorem mergePublishMode_eq_sup (left right : PublishMode) :
    mergePublishMode left right = left ⊔ right := by
  cases left <;> cases right <;> decide

theorem content_merge (poll other : MsgRegisterPoll) :
    (poll.merge other).content = poll.content ⊔ other.content := by
  have first := ModbusAddressRange.merge_firstRegister
    poll.toModbusAddressRange other.toModbusAddressRange
  have last := ModbusAddressRange.merge_lastRegister
    poll.toModbusAddressRange other.toModbusAddressRange
  simp only [content, merge, first, last, refreshRank_mergeRefresh,
    mergePublishMode_eq_sup]
  rfl

theorem eq_of_target_content {poll other : MsgRegisterPoll}
    (target : poll.target = other.target)
    (content : poll.content = other.content) : poll = other := by
  obtain ⟨⟨register, count, type⟩, slave, refresh, mode⟩ := poll
  obtain ⟨⟨register', count', type'⟩, slave', refresh', mode'⟩ := other
  simp only [MsgRegisterPoll.target, MsgRegisterPoll.content,
    ModbusAddressRange.firstRegister, ModbusAddressRange.lastRegister,
    Prod.mk.injEq, EmbeddingLike.apply_eq_iff_eq] at target content
  obtain ⟨rfl, rfl⟩ := target
  obtain ⟨⟨rfl, last⟩, refreshSame, rfl⟩ := content
  obtain rfl := refreshRank_injective refreshSame
  obtain rfl : count = count' := by omega
  rfl

end MsgRegisterPoll

/-- Register intervals as gluable blocks; a valid block is not empty. -/
def rangeGluing : Gluing ((ℤᵒᵈ × ℤ) × WithBot ℤᵒᵈ × PublishMode) where
  Valid block := OrderDual.ofDual block.1.1 ≤ block.1.2
  Meets left right :=
    OrderDual.ofDual left.1.1 ≤ right.1.2 ∧
      OrderDual.ofDual right.1.1 ≤ left.1.2
  meets_self := by
    intro block valid
    exact ⟨valid, valid⟩
  meets_symm := by
    intro left right meets
    exact ⟨meets.2, meets.1⟩
  valid_sup := by
    intro left right leftValid rightValid
    exact le_trans (le_trans (min_le_left _ _) leftValid) (le_max_left _ _)
  meets_sup := by
    intro left right other leftValid rightValid otherValid meets
    have first : OrderDual.ofDual (left ⊔ right).1.1 =
        min (OrderDual.ofDual left.1.1) (OrderDual.ofDual right.1.1) := rfl
    have last : (left ⊔ right).1.2 = max left.1.2 right.1.2 := rfl
    rw [first, last]
    omega

instance : DecidableRel rangeGluing.Meets := fun _ _ =>
  inferInstanceAs (Decidable (_ ∧ _))

namespace MsgRegisterPoll

variable {poll : MsgRegisterPoll} {target : Int × RegisterType}
  {polls : List MsgRegisterPoll}

theorem touches_iff {other : MsgRegisterPoll} : poll.touches other = true ↔
      poll.target = other.target ∧
        rangeGluing.Meets poll.content other.content := by
  simp only [touches, Bool.and_eq_true, beq_iff_eq,
    ModbusAddressRange.overlaps_eq_true_iff, target, Prod.mk.injEq, and_assoc]
  rfl

theorem content_valid_iff :
    rangeGluing.Valid poll.content ↔ 1 ≤ poll.count := by
  change poll.register ≤ poll.register + poll.count - 1 ↔ 1 ≤ poll.count
  omega

theorem foldl_merge_target (overlaped : List MsgRegisterPoll) :
    ∀ poll : MsgRegisterPoll,
      (overlaped.foldl merge poll).target = poll.target := by
  induction overlaped with
  | nil =>
    intro poll
    rfl
  | cons reg overlaped induction =>
    intro poll
    exact induction (poll.merge reg)

theorem foldl_merge_content (overlaped : List MsgRegisterPoll) :
    ∀ poll : MsgRegisterPoll, (overlaped.foldl merge poll).content =
        (overlaped.map content).foldl (· ⊔ ·) poll.content := by
  induction overlaped with
  | nil =>
    intro poll
    rfl
  | cons reg overlaped induction =>
    intro poll
    rw [List.foldl_cons, induction, content_merge]
    rfl

/-- The contents listed for one slave and register type. -/
def contents (target : Int × RegisterType) (polls : List MsgRegisterPoll) :
    List ((ℤᵒᵈ × ℤ) × WithBot ℤᵒᵈ × PublishMode) :=
  (polls.filter fun poll => poll.target = target).map content

theorem mem_contents_iff (same : poll.target = target) :
    poll.content ∈ contents target polls ↔ poll ∈ polls := by
  simp only [contents, List.mem_map, List.mem_filter, decide_eq_true_eq]
  constructor
  · intro stored
    obtain ⟨other, ⟨listed, otherSame⟩, equal⟩ := stored
    obtain rfl := eq_of_target_content (otherSame.trans same.symm) equal
    exact listed
  · intro listed
    exact ⟨poll, ⟨listed, same⟩, rfl⟩

theorem exists_of_mem_contents {stored : (ℤᵒᵈ × ℤ) × WithBot ℤᵒᵈ × PublishMode}
    (listed : stored ∈ contents target polls) :
    ∃ poll ∈ polls, poll.target = target ∧ poll.content = stored := by
  simp only [contents, List.mem_map, List.mem_filter,
    decide_eq_true_eq] at listed
  obtain ⟨poll, ⟨inside, same⟩, equal⟩ := listed
  exact ⟨poll, inside, same, equal⟩

end MsgRegisterPoll

namespace MsgRegisterPollSpecification

open MsgRegisterPoll

private theorem contents_append (target : Int × RegisterType)
    (polls later : List MsgRegisterPoll) :
    contents target (polls ++ later) =
      contents target polls ++ contents target later := by
  simp [contents]

/-- For the poll's own slave and type one merge is one absorbing insertion. -/
theorem contents_merge_of_target (spec : MsgRegisterPollSpecification)
    (poll : MsgRegisterPoll) :
    contents poll.target (spec.merge poll).registers =
      rangeGluing.absorb (contents poll.target spec.registers)
        poll.content := by
  have meets : ∀ reg : MsgRegisterPoll, reg.target = poll.target →
      (poll.touches reg = true ↔
        rangeGluing.Meets poll.content reg.content) := by
    intro reg same
    simp [touches_iff, same]
  have remaining :
      contents poll.target
          (spec.registers.filter fun reg => !poll.touches reg) =
        (contents poll.target spec.registers).filter
          (fun old => ¬ rangeGluing.Meets poll.content old) := by
    simp only [contents, List.filter_map, List.filter_filter]
    congr 1
    apply List.filter_congr
    intro reg _
    by_cases same : reg.target = poll.target
    · simp [same, ← meets reg same]
    · simp [same]
  have overlaped :
      (spec.registers.filter fun reg => poll.touches reg).map content =
        (contents poll.target spec.registers).filter
          (fun old => rangeGluing.Meets poll.content old) := by
    simp only [contents, List.filter_map, List.filter_filter]
    congr 1
    apply List.filter_congr
    intro reg _
    by_cases same : reg.target = poll.target
    · simp [same, ← meets reg same]
    · have apart : poll.touches reg = false := by
        rw [Bool.eq_false_iff]
        intro touching
        exact same (touches_iff.mp touching).1.symm
      simp [same, apart]
  have pushed : contents poll.target
      [(spec.registers.filter fun reg => poll.touches reg).foldl
        MsgRegisterPoll.merge poll] =
      [((contents poll.target spec.registers).filter
        (fun old => rangeGluing.Meets poll.content old)).foldl
          (· ⊔ ·) poll.content] := by
    rw [← overlaped]
    simp [contents, foldl_merge_target, foldl_merge_content]
  unfold Gluing.absorb merge
  rw [contents_append, remaining, pushed]

theorem contents_merge_of_ne (spec : MsgRegisterPollSpecification)
    {poll : MsgRegisterPoll} {target : Int × RegisterType}
    (other : poll.target ≠ target) :
    contents target (spec.merge poll).registers =
      contents target spec.registers := by
  have pushed : contents target
      [(spec.registers.filter fun reg => poll.touches reg).foldl
        MsgRegisterPoll.merge poll] = [] := by
    simp [contents, foldl_merge_target, other]
  have remaining :
      contents target (spec.registers.filter fun reg => !poll.touches reg) =
        contents target spec.registers := by
    simp only [contents, List.filter_filter]
    congr 1
    apply List.filter_congr
    intro reg _
    by_cases same : reg.target = target
    · have apart : poll.touches reg = false := by
        rw [Bool.eq_false_iff]
        intro touching
        exact other ((touches_iff.mp touching).1.trans same)
      simp [same, apart]
    · simp [same]
  unfold merge
  rw [contents_append, pushed, remaining, List.append_nil]

theorem contents_mergeAll (networkName : String)
    (polls : List MsgRegisterPoll) (target : Int × RegisterType) :
    contents target ((empty networkName).mergeAll polls).registers =
      rangeGluing.absorbAll (contents target polls) := by
  induction polls using List.reverseRec with
  | nil => rfl
  | append_singleton polls poll induction =>
    have unfoldLast : (empty networkName).mergeAll (polls ++ [poll]) =
        ((empty networkName).mergeAll polls).merge poll := by
      simp [mergeAll]
    rw [unfoldLast]
    by_cases same : poll.target = target
    · subst target
      rw [contents_merge_of_target, induction]
      simp [contents, Gluing.absorbAll]
    · rw [contents_merge_of_ne _ same, induction]
      simp [same, contents]

end MsgRegisterPollSpecification

namespace MsgRegisterPoll

/-- Both polls lie in one connected component of the overlap relation among
the listed polls. -/
def Linked (polls : List MsgRegisterPoll) :
    MsgRegisterPoll → MsgRegisterPoll → Prop :=
  Relation.ReflTransGen fun left right =>
    left ∈ polls ∧ right ∈ polls ∧ left.touches right = true

/-- The smallest valid refresh, or the sentinel when nothing else is there. -/
def IsSmallestRefresh (refreshes : Set Int) (refresh : Int) : Prop :=
  refresh ∈ refreshes ∧
    ∀ other ∈ refreshes, other ≠ INVALID_REFRESH →
      refresh ≠ INVALID_REFRESH ∧ refresh ≤ other

/-- `merged` is the range of the component of `poll`: it covers exactly the
registers of the members, with their smallest valid refresh and their
strongest publish mode. -/
structure IsComponent (polls : List MsgRegisterPoll)
    (poll merged : MsgRegisterPoll) : Prop where
  target : merged.target = poll.target
  count_pos : 1 ≤ merged.count
  covers_iff : ∀ number, merged.Covers poll.registerType number ↔
    ∃ member, Linked polls poll member ∧
      member.Covers poll.registerType number
  refresh : IsSmallestRefresh
    {refresh | ∃ member, Linked polls poll member ∧
      member.refreshMsec = refresh} merged.refreshMsec
  mode : IsGreatest
    {mode | ∃ member, Linked polls poll member ∧ member.publishMode = mode}
    merged.publishMode

theorem IsSmallestRefresh.unique {refreshes : Set Int} {left right : Int}
    (leftSmallest : IsSmallestRefresh refreshes left)
    (rightSmallest : IsSmallestRefresh refreshes right) : left = right := by
  by_cases leftValid : left = INVALID_REFRESH
  · by_cases rightValid : right = INVALID_REFRESH
    · rw [leftValid, rightValid]
    · exact absurd leftValid
        (leftSmallest.2 right rightSmallest.1 rightValid).1
  · obtain ⟨rightValid, rightLe⟩ :=
      rightSmallest.2 left leftSmallest.1 leftValid
    exact le_antisymm
      (leftSmallest.2 right rightSmallest.1 rightValid).2 rightLe

variable {poll : MsgRegisterPoll} {polls : List MsgRegisterPoll}

theorem covers_iff_bounds {type : RegisterType}
    (same : poll.registerType = type) (number : Int) :
    poll.Covers type number ↔
      poll.firstRegister ≤ number ∧ number ≤ poll.lastRegister := by
  simp [ModbusAddressRange.Covers, same]

theorem IsComponent.unique {left right : MsgRegisterPoll}
    (leftComponent : IsComponent polls poll left)
    (rightComponent : IsComponent polls poll right) : left = right := by
  have sameTarget : left.target = right.target :=
    leftComponent.target.trans rightComponent.target.symm
  have leftType : left.registerType = poll.registerType :=
    congrArg Prod.snd leftComponent.target
  have rightType : right.registerType = poll.registerType :=
    congrArg Prod.snd rightComponent.target
  have sameRange : ∀ number,
      left.firstRegister ≤ number ∧ number ≤ left.lastRegister ↔
        right.firstRegister ≤ number ∧ number ≤ right.lastRegister := by
    intro number
    rw [← covers_iff_bounds leftType, ← covers_iff_bounds rightType,
      leftComponent.covers_iff, rightComponent.covers_iff]
  have leftValid := leftComponent.count_pos
  have rightValid := rightComponent.count_pos
  have bounds : left.firstRegister = right.firstRegister ∧
      left.lastRegister = right.lastRegister := by
    have atLeftFirst := sameRange left.firstRegister
    have atLeftLast := sameRange left.lastRegister
    have atRightFirst := sameRange right.firstRegister
    have atRightLast := sameRange right.lastRegister
    simp only [ModbusAddressRange.firstRegister,
      ModbusAddressRange.lastRegister] at *
    omega
  apply eq_of_target_content sameTarget
  simp only [content, bounds.1, bounds.2,
    leftComponent.refresh.unique rightComponent.refresh,
    leftComponent.mode.unique rightComponent.mode]

theorem Linked.mem
    {member : MsgRegisterPoll} (linked : Linked polls poll member)
    (listed : poll ∈ polls) : member ∈ polls := by
  cases linked with
  | refl => exact listed
  | tail _ step => exact step.2.1

theorem Linked.target_eq
    {member : MsgRegisterPoll} (linked : Linked polls poll member) :
    member.target = poll.target := by
  induction linked with
  | refl => rfl
  | tail _ step induction =>
    exact (touches_iff.mp step.2.2).1.symm.trans induction

theorem image_linked : content '' {member | Linked polls poll member} =
      {stored | rangeGluing.Linked (contents poll.target polls)
        poll.content stored} := by
  apply Set.eq_of_subset_of_subset
  · intro stored image
    obtain ⟨member, linked, rfl⟩ := image
    induction linked with
    | refl => exact Relation.ReflTransGen.refl
    | @tail left right before step induction =>
      have leftTarget : left.target = poll.target :=
        Linked.target_eq before
      obtain ⟨sameTarget, meets⟩ := touches_iff.mp step.2.2
      have rightTarget := sameTarget.symm.trans leftTarget
      exact Relation.ReflTransGen.tail induction
        ⟨(mem_contents_iff leftTarget).mpr step.1,
          (mem_contents_iff rightTarget).mpr step.2.1, meets⟩
  · intro stored linked
    induction linked with
    | refl => exact ⟨poll, Relation.ReflTransGen.refl, rfl⟩
    | tail _ step induction =>
      obtain ⟨left, linked, rfl⟩ := induction
      have leftTarget : left.target = poll.target := Linked.target_eq linked
      obtain ⟨leftListed, rightListed, meets⟩ := step
      obtain ⟨right, listed, rightTarget, rfl⟩ :=
        exists_of_mem_contents rightListed
      have touching : left.touches right = true :=
        touches_iff.mpr ⟨leftTarget.trans rightTarget.symm, meets⟩
      exact ⟨right, Relation.ReflTransGen.tail linked
        ⟨(mem_contents_iff leftTarget).mp leftListed, listed, touching⟩, rfl⟩

private theorem exists_eq_of_isLUB_image {α β : Type*} [LinearOrder β]
    {items : Set α} (finite : items.Finite) (inhabited : items.Nonempty)
    {value : α → β} {bound : β} (least : IsLUB (value '' items) bound) :
    ∃ item ∈ items, value item = bound := by
  obtain ⟨item, inside, largest⟩ :=
    Set.exists_max_image items value finite inhabited
  have greatest : IsGreatest (value '' items) (value item) := by
    refine ⟨⟨item, inside, rfl⟩, ?_⟩
    intro other image
    obtain ⟨source, sourceInside, rfl⟩ := image
    exact largest source sourceInside
  exact ⟨item, inside, greatest.isLUB.unique least⟩

/-- A stored content that represents the component of `poll` gives the range
the component asks for. -/
theorem isComponent_of_represents {merged : MsgRegisterPoll}
    (counts : ∀ listed ∈ polls, 1 ≤ listed.count) (listed : poll ∈ polls)
    (target : merged.target = poll.target)
    (represents : rangeGluing.Represents
      (contents poll.target polls) merged.content)
    (meets : rangeGluing.Meets merged.content poll.content) :
    IsComponent polls poll merged := by
  have valid : ∀ stored ∈ contents poll.target polls,
      rangeGluing.Valid stored := by
    intro stored storedListed
    obtain ⟨member, inside, _, rfl⟩ := exists_of_mem_contents storedListed
    exact content_valid_iff.mpr (counts member inside)
  have component : rangeGluing.component (contents poll.target polls)
      merged.content = content '' {member | Linked polls poll member} := by
    rw [image_linked]
    exact represents.component_eq valid
      ⟨(mem_contents_iff rfl).mpr listed, meets⟩
  have least : IsLUB (content '' {member | Linked polls poll member})
      merged.content := component ▸ represents.least
  have optionsLeast := isLUB_prod.mp (isLUB_prod.mp least).2
  have finite : {member | Linked polls poll member}.Finite :=
    (List.finite_toSet polls).subset fun member linked =>
      Linked.mem linked listed
  have inhabited : {member | Linked polls poll member}.Nonempty :=
    ⟨poll, Relation.ReflTransGen.refl⟩
  have refreshLeast : IsLUB
      ((fun member => refreshRank member.refreshMsec) ''
        {member | Linked polls poll member})
      (refreshRank merged.refreshMsec) := by
    simpa [Set.image_image, content] using optionsLeast.1
  have modeLeast : IsLUB
      (publishMode '' {member | Linked polls poll member})
      merged.publishMode := by
    simpa [Set.image_image, content] using optionsLeast.2
  have mergedType : merged.registerType = poll.registerType :=
    congrArg Prod.snd target
  refine
    { target := target
      count_pos := content_valid_iff.mp represents.valid
      covers_iff := ?_
      refresh := ?_
      mode := ?_ }
  · intro number
    have point := represents.meets_iff
      ((OrderDual.toDual number, number), ⊥, .once) (le_refl number)
    rw [component] at point
    rw [covers_iff_bounds mergedType]
    constructor
    · intro inside
      obtain ⟨_, ⟨member, linked, rfl⟩, touched⟩ :=
        point.mp ⟨inside.1, inside.2⟩
      have memberType : member.registerType = poll.registerType :=
        congrArg Prod.snd (Linked.target_eq linked)
      exact ⟨member, linked, (covers_iff_bounds memberType number).mpr
        ⟨touched.1, touched.2⟩⟩
    · intro covered
      obtain ⟨member, linked, covers⟩ := covered
      have bounds := (covers_iff_bounds covers.1 number).mp covers
      exact point.mpr ⟨member.content, ⟨member, linked, rfl⟩,
        bounds.1, bounds.2⟩
  · obtain ⟨member, linked, attained⟩ :=
      exists_eq_of_isLUB_image finite inhabited refreshLeast
    refine ⟨⟨member, linked, refreshRank_injective attained⟩, ?_⟩
    intro other otherMember otherValid
    obtain ⟨source, sourceLinked, rfl⟩ := otherMember
    have below : refreshRank source.refreshMsec ≤
        refreshRank merged.refreshMsec :=
      refreshLeast.1 ⟨source, sourceLinked, rfl⟩
    have mergedValid : merged.refreshMsec ≠ INVALID_REFRESH := by
      intro invalid
      simp [refreshRank, invalid, otherValid] at below
    exact ⟨mergedValid, (refreshRank_le_iff otherValid mergedValid).mp below⟩
  · obtain ⟨member, linked, attained⟩ :=
      exists_eq_of_isLUB_image finite inhabited modeLeast
    refine ⟨⟨member, linked, attained⟩, ?_⟩
    intro mode modeMember
    obtain ⟨source, sourceLinked, rfl⟩ := modeMember
    exact modeLeast.1 ⟨source, sourceLinked, rfl⟩

end MsgRegisterPoll

namespace MsgRegisterPollSpecification

open MsgRegisterPoll

section Merged

variable (networkName : String) {polls : List MsgRegisterPoll}
  (counts : ∀ poll ∈ polls, 1 ≤ poll.count)

include counts

private theorem contents_partitioned (target : Int × RegisterType) :
    rangeGluing.Partitioned (contents target polls)
      (contents target ((empty networkName).mergeAll polls).registers) := by
  rw [contents_mergeAll]
  apply Gluing.absorbAll_partitioned
  intro stored listed
  obtain ⟨poll, inside, _, rfl⟩ := exists_of_mem_contents listed
  exact content_valid_iff.mpr (counts poll inside)

theorem exists_isComponent {merged : MsgRegisterPoll}
    (listed : merged ∈ ((empty networkName).mergeAll polls).registers) :
    ∃ poll ∈ polls, IsComponent polls poll merged := by
  have partitioned := contents_partitioned networkName counts merged.target
  have represents := partitioned.represents merged.content
    ((mem_contents_iff rfl).mpr listed)
  obtain ⟨stored, storedListed, meets⟩ := represents.inhabited
  obtain ⟨poll, inside, target, rfl⟩ := exists_of_mem_contents storedListed
  rw [← target] at represents
  exact ⟨poll, inside,
    isComponent_of_represents counts inside target.symm represents meets⟩

theorem exists_merged {poll : MsgRegisterPoll} (listed : poll ∈ polls) :
    ∃ merged ∈ ((empty networkName).mergeAll polls).registers,
      IsComponent polls poll merged := by
  have partitioned := contents_partitioned networkName counts poll.target
  obtain ⟨stored, storedListed, meets⟩ :=
    partitioned.covered poll.content ((mem_contents_iff rfl).mpr listed)
  have represents := partitioned.represents stored storedListed
  obtain ⟨merged, inside, target, rfl⟩ := exists_of_mem_contents storedListed
  exact ⟨merged, inside,
    isComponent_of_represents counts listed target represents meets⟩

theorem mem_mergeAll_iff (merged : MsgRegisterPoll) :
    merged ∈ ((empty networkName).mergeAll polls).registers ↔
      ∃ poll ∈ polls, IsComponent polls poll merged := by
  constructor
  · intro listed
    exact exists_isComponent networkName counts listed
  · intro component
    obtain ⟨poll, listed, isComponent⟩ := component
    obtain ⟨stored, inside, storedComponent⟩ :=
      exists_merged networkName counts listed
    rw [isComponent.unique storedComponent]
    exact inside

/-- Merged ranges of one slave and register type never overlap. -/
theorem pairwise_not_touches :
    ((empty networkName).mergeAll polls).registers.Pairwise
      fun left right => left.touches right = false := by
  have apart : ∀ target : Int × RegisterType,
      (((empty networkName).mergeAll polls).registers.filter
        fun poll => poll.target = target).Pairwise
          fun left right => ¬ rangeGluing.Meets left.content right.content := by
    intro target
    have stored := (contents_partitioned networkName counts target).apart
    simpa [contents, List.pairwise_map] using stored
  revert apart
  generalize ((empty networkName).mergeAll polls).registers = registers
  intro apart
  induction registers with
  | nil => exact List.Pairwise.nil
  | cons head tail induction =>
    refine List.Pairwise.cons ?_ (induction ?_)
    · intro other listed
      rw [Bool.eq_false_iff]
      intro touching
      obtain ⟨target, meets⟩ := touches_iff.mp touching
      have row := apart head.target
      rw [List.filter_cons_of_pos (by simp)] at row
      have inside : other ∈ tail.filter
          fun poll => poll.target = head.target := by
        simp [listed, target]
      exact (List.pairwise_cons.mp row).1 other inside meets
    · intro target
      have row := apart target
      by_cases same : head.target = target
      · rw [List.filter_cons_of_pos (by simp [same])] at row
        exact (List.pairwise_cons.mp row).2
      · rw [List.filter_cons_of_neg (by simp [same])] at row
        exact row

end Merged

/-- A register of the slave and type lies in the poll's range. -/
def Polls (poll : MsgRegisterPoll) (slaveId : Int) (type : RegisterType)
    (number : Int) : Prop :=
  poll.slaveId = slaveId ∧ poll.Covers type number

theorem exists_polls_iff (networkName : String)
    {polls : List MsgRegisterPoll} (counts : ∀ poll ∈ polls, 1 ≤ poll.count)
    (slaveId : Int) (type : RegisterType) (number : Int) :
    (∃ merged ∈ ((empty networkName).mergeAll polls).registers,
        Polls merged slaveId type number) ↔
      ∃ poll ∈ polls, Polls poll slaveId type number := by
  constructor
  · intro covered
    obtain ⟨merged, listed, slave, covers⟩ := covered
    obtain ⟨poll, inside, component⟩ :=
      exists_isComponent networkName counts listed
    have type_eq : poll.registerType = type :=
      (congrArg Prod.snd component.target).symm.trans covers.1
    obtain ⟨member, linked, memberCovers⟩ :=
      (component.covers_iff number).mp (type_eq.symm ▸ covers)
    have memberSlave : member.slaveId = slaveId :=
      (congrArg Prod.fst (Linked.target_eq linked)).trans
        ((congrArg Prod.fst component.target).symm.trans slave)
    exact ⟨member, Linked.mem linked inside, memberSlave,
      type_eq ▸ memberCovers⟩
  · intro covered
    obtain ⟨poll, listed, slave, covers⟩ := covered
    obtain ⟨merged, inside, component⟩ :=
      exists_merged networkName counts listed
    have mergedSlave : merged.slaveId = slaveId :=
      (congrArg Prod.fst component.target).trans slave
    refine ⟨merged, inside, mergedSlave, ?_⟩
    have reached := (component.covers_iff number).mpr
      ⟨poll, Relation.ReflTransGen.refl, covers.1.symm ▸ covers⟩
    exact covers.1 ▸ reached

theorem IsComponent_of_perm {left right : List MsgRegisterPoll}
    (permutation : left.Perm right) {poll merged : MsgRegisterPoll}
    (component : IsComponent left poll merged) :
    IsComponent right poll merged := by
  have same : Linked left = Linked right := by
    unfold Linked
    congr 1
    funext first second
    simp [permutation.mem_iff]
  exact
    { target := component.target
      count_pos := component.count_pos
      covers_iff := same ▸ component.covers_iff
      refresh := same ▸ component.refresh
      mode := same ▸ component.mode }

theorem mem_mergeAll_of_perm (networkName : String)
    {reordered polls : List MsgRegisterPoll}
    (permutation : reordered.Perm polls)
    (counts : ∀ poll ∈ polls, 1 ≤ poll.count) (merged : MsgRegisterPoll) :
    merged ∈ ((empty networkName).mergeAll reordered).registers ↔
      merged ∈ ((empty networkName).mergeAll polls).registers := by
  have reorderedCounts : ∀ poll ∈ reordered, 1 ≤ poll.count := by
    intro poll listed
    exact counts poll (permutation.mem_iff.mp listed)
  rw [mem_mergeAll_iff networkName reorderedCounts,
    mem_mergeAll_iff networkName counts]
  constructor
  · intro component
    obtain ⟨poll, listed, isComponent⟩ := component
    exact ⟨poll, permutation.mem_iff.mp listed,
      IsComponent_of_perm permutation isComponent⟩
  · intro component
    obtain ⟨poll, listed, isComponent⟩ := component
    exact ⟨poll, permutation.mem_iff.mpr listed,
      IsComponent_of_perm permutation.symm isComponent⟩

/-- Merging is canonical: the ranges never overlap, cover exactly what was
merged, are the overlap components with their smallest valid refresh and
strongest mode, and do not depend on the order of the merges. -/
theorem mergeAll_canonical (networkName : String)
    (polls : List MsgRegisterPoll) (counts : ∀ poll ∈ polls, 1 ≤ poll.count) :
    (((empty networkName).mergeAll polls).registers.Pairwise
        fun left right => left.touches right = false) ∧
      (∀ slaveId type number,
        (∃ merged ∈ ((empty networkName).mergeAll polls).registers,
            Polls merged slaveId type number) ↔
          ∃ poll ∈ polls, Polls poll slaveId type number) ∧
      (∀ merged, merged ∈ ((empty networkName).mergeAll polls).registers ↔
          ∃ poll ∈ polls, IsComponent polls poll merged) ∧
      ∀ reordered : List MsgRegisterPoll, reordered.Perm polls → ∀ merged,
          merged ∈ ((empty networkName).mergeAll reordered).registers ↔
            merged ∈ ((empty networkName).mergeAll polls).registers := by
  exact ⟨pairwise_not_touches networkName counts,
    exists_polls_iff networkName counts,
    mem_mergeAll_iff networkName counts,
    fun _ permutation => mem_mergeAll_of_perm networkName permutation counts⟩

def bridgedPolls : List MsgRegisterPoll :=
  [⟨⟨1, 3, .holding⟩, 1, INVALID_REFRESH, .onChange⟩,
    ⟨⟨10, 3, .holding⟩, 1, 500, .once⟩,
    ⟨⟨3, 8, .holding⟩, 1, 1000, .everyPoll⟩]

theorem mergeAll_canonical_bridge :
    (⟨⟨1, 12, .holding⟩, 1, 500, .everyPoll⟩ : MsgRegisterPoll) ∈
      ((empty "modbus").mergeAll bridgedPolls.reverse).registers :=
  ((mergeAll_canonical "modbus" bridgedPolls (by decide)).2.2.2
    bridgedPolls.reverse (List.reverse_perm _) _).mpr (by decide)

end MsgRegisterPollSpecification

end MqmGateway
