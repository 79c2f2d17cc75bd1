import Mathlib.Logic.Relation
import Mathlib.Order.Bounds.Basic
import Mathlib.Order.Lattice
import Mathlib.Data.Set.Lattice
import Mathlib.Data.List.Induction
import Mathlib.Data.List.Pairwise

/-!
# Absorbing insertion and connected components

Blocks arrive one by one.  A new block removes every stored block it meets,
joins them into itself and is stored in their place.  When meeting a join is
the same as meeting one of its parts, the stored blocks are exactly the least
upper bounds of the connected components of the meeting relation, in
whatever order the blocks arrive.
-/

/-- What an absorbing insertion needs to know about its blocks. -/
structure Gluing (β : Type*) [SemilatticeSup β] where
  Valid : β → Prop
  Meets : β → β → Prop
  meets_self : ∀ {block}, Valid block → Meets block block
  meets_symm : ∀ {left right}, Meets left right → Meets right left
  valid_sup : ∀ {left right}, Valid left → Valid right → Valid (left ⊔ right)
  meets_sup : ∀ {left right other}, Valid left → Valid right → Valid other →
    Meets left right →
      (Meets (left ⊔ right) other ↔ Meets left other ∨ Meets right other)

namespace Gluing

variable {β : Type*} [SemilatticeSup β] (gluing : Gluing β)

/-- Remove what the arriving block meets, join it, store the result last. -/
def absorb [DecidableRel gluing.Meets] (stored : List β) (block : β) : List β :=
  stored.filter (fun old => ¬ gluing.Meets block old) ++
    [(stored.filter (fun old => gluing.Meets block old)).foldl (· ⊔ ·) block]

def absorbAll [DecidableRel gluing.Meets] (blocks : List β) : List β :=
  blocks.foldl gluing.absorb []

/-- Two listed blocks are linked when a chain of listed blocks, each meeting
the next, leads from one to the other. -/
def Linked (blocks : List β) : β → β → Prop :=
  Relation.ReflTransGen fun left right =>
    left ∈ blocks ∧ right ∈ blocks ∧ gluing.Meets left right

def component (blocks : List β) (block : β) : Set β :=
  {member | member ∈ blocks ∧ gluing.Meets block member}

/-- `block` stands for one connected component of `blocks`: it is the least
upper bound of the blocks it meets, they are linked with each other, and
nothing outside them meets one of them. -/
structure Represents (blocks : List β) (block : β) : Prop where
  inhabited : (gluing.component blocks block).Nonempty
  least : IsLUB (gluing.component blocks block) block
  valid : gluing.Valid block
  meets_iff : ∀ other, gluing.Valid other →
    (gluing.Meets block other ↔
      ∃ member ∈ gluing.component blocks block, gluing.Meets member other)
  linked : ∀ left ∈ gluing.component blocks block,
    ∀ right ∈ gluing.component blocks block, gluing.Linked blocks left right

/-- The stored blocks are the components of the blocks absorbed so far. -/
structure Partitioned (blocks stored : List β) : Prop where
  represents : ∀ block ∈ stored, gluing.Represents blocks block
  covered : ∀ member ∈ blocks, ∃ block ∈ stored, gluing.Meets block member
  apart : stored.Pairwise fun left right => ¬ gluing.Meets left right

variable {gluing}

variable {left right block member : β} {blocks : List β}

theorem Linked.mono {small large : List β}
    (subset : ∀ block ∈ small, block ∈ large)
    (linked : gluing.Linked small left right) :
    gluing.Linked large left right := by
  refine Relation.ReflTransGen.mono ?_ _ _ linked
  intro first second step
  exact ⟨subset first step.1, subset second step.2.1, step.2.2⟩

theorem Linked.symm (linked : gluing.Linked blocks left right) :
    gluing.Linked blocks right left := by
  induction linked with
  | refl => exact Relation.ReflTransGen.refl
  | tail _ step induction =>
    exact Relation.ReflTransGen.head
      ⟨step.2.1, step.1, gluing.meets_symm step.2.2⟩ induction

theorem Linked.of_meets
    (leftListed : left ∈ blocks) (rightListed : right ∈ blocks)
    (meets : gluing.Meets left right) : gluing.Linked blocks left right :=
  Relation.ReflTransGen.single ⟨leftListed, rightListed, meets⟩

theorem Represents.closed {other : β}
    (represents : gluing.Represents blocks block)
    (inside : member ∈ gluing.component blocks block)
    (listed : other ∈ blocks) (valid : gluing.Valid other)
    (meets : gluing.Meets member other) :
    other ∈ gluing.component blocks block :=
  ⟨listed, (represents.meets_iff other valid).mpr ⟨member, inside, meets⟩⟩

theorem Represents.component_eq (represents : gluing.Represents blocks block)
    (valid : ∀ other ∈ blocks, gluing.Valid other)
    (inside : member ∈ gluing.component blocks block) :
    gluing.component blocks block =
      {other | gluing.Linked blocks member other} := by
  apply Set.eq_of_subset_of_subset
  · intro other otherInside
    exact represents.linked member inside other otherInside
  · intro other linked
    induction linked with
    | refl => exact inside
    | tail _ step induction =>
      exact represents.closed induction step.2.1 (valid _ step.2.1) step.2.2

/-- Joining blocks that all meet the accumulator keeps the accumulator the
least upper bound of everything gathered so far, and keeps meeting it equal
to meeting something gathered. -/
private theorem foldl_sup_spec (blocks absorbed : List β) :
    ∀ (gathered : Set β) (joined : β), IsLUB gathered joined →
      gluing.Valid joined →
      (∀ other, gluing.Valid other → (gluing.Meets joined other ↔
          ∃ member ∈ gathered, gluing.Meets member other)) →
      (∀ old ∈ absorbed, gluing.Represents blocks old ∧
        ∃ member ∈ gathered, gluing.Meets member old) →
      IsLUB (gathered ∪ ⋃ old ∈ absorbed, gluing.component blocks old)
          (absorbed.foldl (· ⊔ ·) joined) ∧
        gluing.Valid (absorbed.foldl (· ⊔ ·) joined) ∧
        ∀ other, gluing.Valid other →
          (gluing.Meets (absorbed.foldl (· ⊔ ·) joined) other ↔ ∃ member ∈
              gathered ∪ ⋃ old ∈ absorbed, gluing.component blocks old,
              gluing.Meets member other) := by
  induction absorbed with
  | nil =>
    intro gathered joined least valid meetsIff _
    simpa using ⟨least, valid, meetsIff⟩
  | cons old absorbed induction =>
    intro gathered joined least valid meetsIff facts
    obtain ⟨represents, touched⟩ := facts old (by simp)
    have joinedMeets : gluing.Meets joined old :=
      (meetsIff old represents.valid).mpr touched
    have regroup :
        gathered ∪ ⋃ later ∈ old :: absorbed, gluing.component blocks later =
          gathered ∪ gluing.component blocks old ∪
            ⋃ later ∈ absorbed, gluing.component blocks later := by
      ext member
      simp [or_assoc]
    rw [regroup]
    apply induction _ _ (least.union represents.least)
      (gluing.valid_sup valid represents.valid)
    · intro other otherValid
      rw [gluing.meets_sup valid represents.valid otherValid joinedMeets,
        meetsIff other otherValid, represents.meets_iff other otherValid]
      constructor
      · intro either
        rcases either with ⟨member, inside, meets⟩ | ⟨member, inside, meets⟩
        · exact ⟨member, .inl inside, meets⟩
        · exact ⟨member, .inr inside, meets⟩
      · intro gatheredMeets
        rcases gatheredMeets with ⟨member, inside | inside, meets⟩
        · exact .inl ⟨member, inside, meets⟩
        · exact .inr ⟨member, inside, meets⟩
    · intro later laterListed
      obtain ⟨laterRepresents, member, inside, meets⟩ :=
        facts later (List.mem_cons_of_mem old laterListed)
      exact ⟨laterRepresents, member, .inl inside, meets⟩

section Step

variable {blocks stored : List β} {block : β}

private theorem Represents.kept {old : β}
    (represents : gluing.Represents blocks old)
    (missed : ¬ gluing.Meets block old) :
    gluing.Represents (blocks ++ [block]) old := by
  have same : gluing.component (blocks ++ [block]) old =
      gluing.component blocks old := by
    apply Set.eq_of_subset_of_subset
    · intro member inside
      obtain ⟨listed, meets⟩ := inside
      rcases List.mem_append.mp listed with earlier | arrived
      · exact ⟨earlier, meets⟩
      · obtain rfl := List.mem_singleton.mp arrived
        exact absurd (gluing.meets_symm meets) missed
    · intro member inside
      exact ⟨List.mem_append_left _ inside.1, inside.2⟩
  refine
    { inhabited := same ▸ represents.inhabited
      least := same ▸ represents.least
      valid := represents.valid
      meets_iff := same ▸ represents.meets_iff
      linked := ?_ }
  rw [same]
  intro left leftInside right rightInside
  exact (represents.linked left leftInside right rightInside).mono
    (fun _ listed => List.mem_append_left _ listed)

variable [DecidableRel gluing.Meets]

/-- What the arriving block is joined with. -/
private def gathered (gluing : Gluing β) [DecidableRel gluing.Meets]
    (blocks stored : List β) (block : β) : Set β :=
  {block} ∪ ⋃ old ∈ stored.filter fun old => gluing.Meets block old,
    gluing.component blocks old

private theorem mem_gathered_iff {member : β} :
    member ∈ gathered gluing blocks stored block ↔
      member = block ∨ ∃ old ∈ stored, gluing.Meets block old ∧
        member ∈ gluing.component blocks old := by
  simp [gathered, and_assoc]

private theorem gathered_listed {member : β}
    (inside : member ∈ gathered gluing blocks stored block) :
    member ∈ blocks ++ [block] := by
  rcases mem_gathered_iff.mp inside with rfl | ⟨old, _, _, insideOld⟩
  · simp
  · simp [insideOld.1]

private theorem gathered_linked {member : β}
    (partitioned : gluing.Partitioned blocks stored)
    (blockValid : gluing.Valid block)
    (inside : member ∈ gathered gluing blocks stored block) :
    gluing.Linked (blocks ++ [block]) block member := by
  rcases mem_gathered_iff.mp inside with rfl | ⟨old, oldStored, meets, insideOld⟩
  · exact Relation.ReflTransGen.refl
  · have represents := partitioned.represents old oldStored
    obtain ⟨touched, touchedInside, touches⟩ :=
      (represents.meets_iff block blockValid).mp (gluing.meets_symm meets)
    have first : gluing.Linked (blocks ++ [block]) block touched :=
      Linked.of_meets (by simp) (List.mem_append_left _ touchedInside.1)
        (gluing.meets_symm touches)
    have rest : gluing.Linked (blocks ++ [block]) touched member :=
      (represents.linked touched touchedInside member insideOld).mono
        (fun _ listed => List.mem_append_left _ listed)
    exact first.trans rest

private theorem gathered_closed {member other : β}
    (partitioned : gluing.Partitioned blocks stored)
    (valid : ∀ listed ∈ blocks ++ [block], gluing.Valid listed)
    (inside : member ∈ gathered gluing blocks stored block)
    (listed : other ∈ blocks ++ [block]) (meets : gluing.Meets member other) :
    other ∈ gathered gluing blocks stored block := by
  apply mem_gathered_iff.mpr
  rcases List.mem_append.mp listed with earlier | arrived
  · right
    have otherValid := valid other listed
    rcases mem_gathered_iff.mp inside with rfl | ⟨old, oldStored, touches, insideOld⟩
    · obtain ⟨old, oldStored, oldMeets⟩ := partitioned.covered other earlier
      have represents := partitioned.represents old oldStored
      have touches : gluing.Meets old member :=
        (represents.meets_iff member (valid member (by simp))).mpr
          ⟨other, ⟨earlier, oldMeets⟩, gluing.meets_symm meets⟩
      exact ⟨old, oldStored, gluing.meets_symm touches, earlier, oldMeets⟩
    · have represents := partitioned.represents old oldStored
      exact ⟨old, oldStored, touches,
        represents.closed insideOld earlier otherValid meets⟩
  · exact .inl (List.mem_singleton.mp arrived)

/-- The arriving block joined with everything it meets represents its own
component. -/
private theorem represents_joined
    (partitioned : gluing.Partitioned blocks stored)
    (valid : ∀ listed ∈ blocks ++ [block], gluing.Valid listed) :
    gluing.Represents (blocks ++ [block])
        ((stored.filter fun old => gluing.Meets block old).foldl
          (· ⊔ ·) block) ∧
      gluing.component (blocks ++ [block])
        ((stored.filter fun old => gluing.Meets block old).foldl
          (· ⊔ ·) block) = gathered gluing blocks stored block := by
  have blockValid : gluing.Valid block := valid block (by simp)
  obtain ⟨least, joinedValid, meetsIff⟩ :=
    foldl_sup_spec blocks (stored.filter fun old => gluing.Meets block old)
      {block} block isLUB_singleton blockValid
      (by simp)
      (by
        intro old listed
        have facts : old ∈ stored ∧ gluing.Meets block old := by
          simpa using listed
        exact ⟨partitioned.represents old facts.1, block, rfl, facts.2⟩)
  change IsLUB (gathered gluing blocks stored block) _ at least
  change ∀ other, gluing.Valid other → (_ ↔
    ∃ member ∈ gathered gluing blocks stored block, _) at meetsIff
  set joined := (stored.filter fun old => gluing.Meets block old).foldl
    (· ⊔ ·) block
  have same : gluing.component (blocks ++ [block]) joined =
      gathered gluing blocks stored block := by
    apply Set.eq_of_subset_of_subset
    · intro other inside
      obtain ⟨listed, meets⟩ := inside
      obtain ⟨member, memberInside, memberMeets⟩ :=
        (meetsIff other (valid other listed)).mp meets
      exact gathered_closed partitioned valid memberInside listed memberMeets
    · intro other inside
      have listed := gathered_listed inside
      have otherValid := valid other listed
      exact ⟨listed, (meetsIff other otherValid).mpr
        ⟨other, inside, gluing.meets_self otherValid⟩⟩
  refine ⟨?_, same⟩
  refine
    { inhabited := same ▸ ⟨block, mem_gathered_iff.mpr (.inl rfl)⟩
      least := same ▸ least
      valid := joinedValid
      meets_iff := same ▸ meetsIff
      linked := ?_ }
  rw [same]
  intro left leftInside right rightInside
  exact (gathered_linked partitioned blockValid leftInside).symm.trans
    (gathered_linked partitioned blockValid rightInside)

/-- One absorbing insertion keeps the stored blocks the components of what
was absorbed. -/
theorem Partitioned.absorb (partitioned : gluing.Partitioned blocks stored)
    (valid : ∀ listed ∈ blocks ++ [block], gluing.Valid listed) :
    gluing.Partitioned (blocks ++ [block]) (gluing.absorb stored block) := by
  have blockValid : gluing.Valid block := valid block (by simp)
  obtain ⟨joinedRepresents, joinedComponent⟩ :=
    represents_joined partitioned valid
  refine { represents := ?_, covered := ?_, apart := ?_ }
  · intro old listed
    rcases List.mem_append.mp listed with kept | joined
    · have facts : old ∈ stored ∧ ¬ gluing.Meets block old := by
        simpa using kept
      exact (partitioned.represents old facts.1).kept facts.2
    · obtain rfl := List.mem_singleton.mp joined
      exact joinedRepresents
  · intro member listed
    by_cases gatheredMember : member ∈ gathered gluing blocks stored block
    · refine ⟨_, List.mem_append_right _ (List.mem_singleton_self _), ?_⟩
      exact (joinedComponent ▸ gatheredMember :
        member ∈ gluing.component (blocks ++ [block]) _).2
    · rcases List.mem_append.mp listed with earlier | arrived
      · obtain ⟨old, oldStored, oldMeets⟩ := partitioned.covered member earlier
        have missed : ¬ gluing.Meets block old := by
          intro meets
          exact gatheredMember (mem_gathered_iff.mpr
            (.inr ⟨old, oldStored, meets, earlier, oldMeets⟩))
        exact ⟨old, List.mem_append_left _ (by simp [oldStored, missed]),
          oldMeets⟩
      · exact absurd (mem_gathered_iff.mpr
          (.inl (List.mem_singleton.mp arrived))) gatheredMember
  · refine List.pairwise_append.mpr
      ⟨partitioned.apart.filter _, List.pairwise_singleton _ _, ?_⟩
    intro old kept joined joinedListed meets
    have facts : old ∈ stored ∧ ¬ gluing.Meets block old := by
      simpa using kept
    obtain rfl := List.mem_singleton.mp joinedListed
    have oldRepresents := partitioned.represents old facts.1
    obtain ⟨member, insideJoined, memberMeets⟩ :=
      (joinedRepresents.meets_iff old oldRepresents.valid).mp
        (gluing.meets_symm meets)
    rw [joinedComponent] at insideJoined
    rcases mem_gathered_iff.mp insideJoined with rfl | ⟨other, otherStored, touches, insideOther⟩
    · exact facts.2 memberMeets
    · have otherMeets : gluing.Meets other old :=
        ((partitioned.represents other otherStored).meets_iff old
          oldRepresents.valid).mpr ⟨member, insideOther, memberMeets⟩
      have different : other ≠ old := by
        intro same
        exact facts.2 (same ▸ touches)
      have symmetric : Std.Symm fun left right => ¬ gluing.Meets left right :=
        ⟨fun _ _ missed meets => missed (gluing.meets_symm meets)⟩
      exact partitioned.apart.forall otherStored facts.1 different otherMeets

end Step

variable [DecidableRel gluing.Meets]

theorem absorbAll_partitioned (blocks : List β)
    (valid : ∀ block ∈ blocks, gluing.Valid block) :
    gluing.Partitioned blocks (gluing.absorbAll blocks) := by
  induction blocks using List.reverseRec with
  | nil =>
    exact
      { represents := by simp [absorbAll]
        covered := by simp
        apart := List.Pairwise.nil }
  | append_singleton blocks block induction =>
    have earlier := induction fun listed inside =>
      valid listed (List.mem_append_left _ inside)
    simpa [absorbAll] using earlier.absorb valid

end Gluing
