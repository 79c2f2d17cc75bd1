import Mathlib.Data.List.Nodup
import Mathlib.Data.List.TakeWhile

/-!
# Effects that can throw

An effect changes a state and may end with an exception.  What it changed
before it threw stays changed.

The loop rule at the end is about bodies that each work on a part of the state
of their own: such a loop handles its items in order up to the first one that
throws, and nothing else decides how it ends.
-/

/-- The state an effect leaves and the exception it throws, if any. -/
abbrev Effect (σ ε : Type*) :=
  σ → σ × Option ε

namespace Effect

variable {σ ε ι π : Type*}

def skip : Effect σ ε := fun state =>
  (state, none)

def modify (change : σ → σ) : Effect σ ε := fun state =>
  (change state, none)

def andThen (first second : Effect σ ε) : Effect σ ε := fun state =>
  match first state with
  | (next, none) => second next
  | (next, some exception) => (next, some exception)

def forEach (body : ι → Effect σ ε) : List ι → Effect σ ε
  | [] => skip
  | item :: items => (body item).andThen (forEach body items)

/-- A `catch` clause for the exceptions that `handles` accepts. -/
def catching (handles : ε → Bool) (effect : Effect σ ε) : Effect σ ε :=
  fun state =>
    match effect state with
    | (next, none) => (next, none)
    | (next, some exception) =>
      (next, if handles exception then none else some exception)

theorem andThen_of_none {first second : Effect σ ε} {state next : σ}
    (quiet : first state = (next, none)) :
    first.andThen second state = second next := by
  rw [andThen, quiet]

theorem andThen_of_some {first second : Effect σ ε} {state next : σ}
    {exception : ε} (thrown : first state = (next, some exception)) :
    first.andThen second state = (next, some exception) := by
  rw [andThen, thrown]

theorem andThen_exception (first second : Effect σ ε) (state : σ) :
    (first.andThen second state).2 =
      (first state).2.or (second (first state).1).2 := by
  rw [andThen]
  split
  · rename_i same
    rw [same]
    rfl
  · rename_i same
    rw [same]
    rfl

@[simp] theorem catching_state (handles : ε → Bool) (effect : Effect σ ε)
    (state : σ) : (catching handles effect state).1 = (effect state).1 := by
  rw [catching]
  split
  · rename_i same
    rw [same]
  · rename_i same
    rw [same]

theorem catching_exception (handles : ε → Bool) (effect : Effect σ ε)
    (state : σ) :
    (catching handles effect state).2 =
      (effect state).2.filter fun exception => !handles exception := by
  rw [catching]
  split
  · rename_i same
    rw [same]
    rfl
  · rename_i exception same
    rw [same]
    cases handled : handles exception <;> simp [Option.filter, handled]

/-- The effect relates the state before it to the state after it. -/
def Within (relation : σ → σ → Prop) (effect : Effect σ ε) : Prop :=
  ∀ state, relation state (effect state).1

namespace Within

variable {relation : σ → σ → Prop}

theorem skip (refl : ∀ state, relation state state) :
    Within relation (skip : Effect σ ε) :=
  refl

theorem andThen (trans : ∀ first second third, relation first second →
      relation second third → relation first third)
    {first second : Effect σ ε} (left : Within relation first)
    (right : Within relation second) :
    Within relation (first.andThen second) := by
  intro state
  have start := left state
  rw [Effect.andThen]
  split
  · rename_i next same
    rw [same] at start
    exact trans _ _ _ start (right next)
  · rename_i same
    rw [same] at start
    exact start

theorem catching {effect : Effect σ ε} (handles : ε → Bool)
    (inner : Within relation effect) :
    Within relation (effect.catching handles) := by
  intro state
  rw [catching_state]
  exact inner state

theorem forEach (refl : ∀ state, relation state state)
    (trans : ∀ first second third, relation first second →
      relation second third → relation first third)
    {body : ι → Effect σ ε} {items : List ι}
    (each : ∀ item ∈ items, Within relation (body item)) :
    Within relation (Effect.forEach body items) := by
  induction items with
  | nil => exact skip refl
  | cons item items induction =>
    apply andThen trans
    · exact each item List.mem_cons_self
    · apply induction
      intro later listed
      exact each later (List.mem_cons_of_mem item listed)

end Within

/-- Each body works on its own part of the state: `changes` relates the part
before and after it and `throws` is the exception it ends with. -/
structure Owned (part : σ → ι → π) (changes : ι → π → π → Prop)
    (throws : ι → π → Option ε) (body : ι → Effect σ ε) : Prop where
  own : ∀ item state, changes item (part state item)
    (part (body item state).1 item)
  others : ∀ item other state, other ≠ item →
    part (body item state).1 other = part state other
  exception : ∀ item state, (body item state).2 =
    throws item (part state item)

namespace Owned

variable {part : σ → ι → π} {changes : ι → π → π → Prop}
  {throws : ι → π → Option ε} {body : ι → Effect σ ε}

variable {items : List ι} {before after : ι → π} {thrown : Option ε}

theorem forEach_others (owned : Owned part changes throws body)
    {other : ι} (absent : other ∉ items) (state : σ) :
    part (forEach body items state).1 other = part state other := by
  induction items generalizing state with
  | nil => rfl
  | cons item items induction =>
    obtain ⟨different, absentRest⟩ := not_or.mp (mt List.mem_cons.mpr absent)
    have kept := owned.others item other state different
    rw [forEach]
    cases first : body item state with
    | mk next thrown =>
      rw [first] at kept
      cases thrown with
      | some exception => rw [andThen_of_some first, kept]
      | none => rw [andThen_of_none first, induction absentRest, kept]

/-- How a loop over distinct items ends: the parts before it, the parts after
it and the exception it throws. -/
inductive LoopEnd (changes : ι → π → π → Prop) (throws : ι → π → Option ε)
    (items : List ι) (before : ι → π) : (ι → π) → Option ε → Prop where
  | finished {after : ι → π} :
      (∀ item ∈ items, throws item (before item) = none) →
      (∀ item ∈ items, changes item (before item) (after item)) →
      (∀ item, item ∉ items → after item = before item) →
      LoopEnd changes throws items before after none
  | stopped {after : ι → π} {front rest : List ι} {item : ι} {exception : ε} :
      items = front ++ item :: rest →
      (∀ earlier ∈ front, throws earlier (before earlier) = none) →
      throws item (before item) = some exception →
      (∀ handled ∈ front ++ [item],
        changes handled (before handled) (after handled)) →
      (∀ other, other ∉ front ++ [item] → after other = before other) →
      LoopEnd changes throws items before after (some exception)

/-- Put an item that did not throw in front of a loop that has ended. -/
theorem LoopEnd.cons {items : List ι} {before middle after : ι → π}
    {item : ι} {thrown : Option ε} (fresh : item ∉ items)
    (quiet : throws item (before item) = none)
    (own : changes item (before item) (middle item))
    (others : ∀ other, other ≠ item → middle other = before other)
    (rest : LoopEnd changes throws items middle after thrown) :
    LoopEnd changes throws (item :: items) before after thrown := by
  have kept : ∀ later ∈ items, middle later = before later := by
    intro later listed
    apply others later
    intro same
    exact fresh (same ▸ listed)
  cases rest with
  | finished quietRest handled untouched =>
    refine .finished ?_ ?_ ?_
    · intro other listed
      rcases List.mem_cons.mp listed with rfl | later
      · exact quiet
      · rw [← kept other later]
        exact quietRest other later
    · intro other listed
      rcases List.mem_cons.mp listed with rfl | later
      · rw [untouched other fresh]
        exact own
      · rw [← kept other later]
        exact handled other later
    · intro other unlisted
      obtain ⟨different, absent⟩ :=
        not_or.mp (mt List.mem_cons.mpr unlisted)
      rw [untouched other absent]
      exact others other different
  | @stopped front rest stop exception split quietFront throwing handled
      untouched =>
      subst split
      have keptFront : ∀ later ∈ front ++ [stop],
          middle later = before later := by
        intro later listed
        apply kept later
        simp at listed ⊢
        tauto
      have keptStop := keptFront stop (by simp)
      rw [keptStop] at throwing
      refine .stopped (List.cons_append).symm ?_ throwing ?_ ?_
      · intro earlier listed
        rcases List.mem_cons.mp listed with rfl | later
        · exact quiet
        · rw [← keptFront earlier (List.mem_append_left _ later)]
          exact quietFront earlier later
      · intro other listed
        rcases List.mem_cons.mp listed with rfl | later
        · rw [untouched other ?_]
          · exact own
          · intro listed
            apply fresh
            simp at listed ⊢
            tauto
        · rw [← keptFront other later]
          exact handled other later
      · intro other unlisted
        rw [List.cons_append] at unlisted
        obtain ⟨different, absent⟩ :=
          not_or.mp (mt List.mem_cons.mpr unlisted)
        rw [untouched other absent]
        exact others other different

theorem LoopEnd.either
    (ended : LoopEnd changes throws items before after thrown) (item : ι) :
    changes item (before item) (after item) ∨ after item = before item := by
  cases ended with
  | finished _ handled untouched =>
    by_cases listed : item ∈ items
    · exact .inl (handled item listed)
    · exact .inr (untouched item listed)
  | @stopped front _ stop _ _ _ _ handled untouched =>
    by_cases reached : item ∈ front ++ [stop]
    · exact .inl (handled item reached)
    · exact .inr (untouched item reached)

/-- The loop stops at the first item that throws; all items are handled if
those after it need no change. -/
theorem LoopEnd.stops (distinct : items.Nodup)
    (ended : LoopEnd changes throws items before after thrown) :
    match items.dropWhile fun item => (throws item (before item)).isNone with
    | [] => thrown = none ∧
        ∀ item ∈ items, changes item (before item) (after item)
    | item :: rest => ∃ exception,
        thrown = some exception ∧
        throws item (before item) = some exception ∧
        ((∀ item ∈ items, changes item (before item) (after item)) ↔
          ∀ later ∈ rest, changes later (before later) (before later)) := by
  cases ended with
  | finished quiet handled _ =>
    have nothing : items.dropWhile (fun item =>
        (throws item (before item)).isNone) = [] := by
      apply List.dropWhile_eq_nil_iff.mpr
      intro item listed
      rw [quiet item listed]
      rfl
    rw [nothing]
    exact ⟨rfl, handled⟩
  | @stopped front rest item exception split quiet throwing handled untouched =>
    have first : items.dropWhile (fun item =>
        (throws item (before item)).isNone) = item :: rest := by
      rw [split, List.dropWhile_append_of_pos]
      · exact List.dropWhile_cons_of_neg (by simp [throwing])
      · intro earlier listed
        rw [quiet earlier listed]
        rfl
    rw [first]
    have reached : ∀ other, other ∈ items ↔
        other ∈ front ++ [item] ∨ other ∈ rest := by
      intro other
      rw [split, List.append_cons, List.mem_append]
    have kept : ∀ later ∈ rest, after later = before later := by
      intro later listed
      rw [split, List.append_cons] at distinct
      apply untouched later
      intro earlier
      exact List.disjoint_of_nodup_append distinct earlier listed
    refine ⟨exception, rfl, throwing, ?_, ?_⟩
    · intro all later listed
      have changed := all later ((reached later).mpr (.inr listed))
      rwa [kept later listed] at changed
    · intro needless other listed
      rcases (reached other).mp listed with earlier | later
      · exact handled other earlier
      · rw [kept other later]
        exact needless other later

theorem loopEnd (owned : Owned part changes throws body)
    (distinct : items.Nodup) (state : σ) :
    LoopEnd changes throws items (part state)
      (part (forEach body items state).1) (forEach body items state).2 := by
  induction items generalizing state with
  | nil => exact .finished (by simp) (by simp) (fun _ _ => rfl)
  | cons item items induction =>
    obtain ⟨fresh, distinctRest⟩ := List.nodup_cons.mp distinct
    have own := owned.own item state
    have exception := owned.exception item state
    have others := fun other => owned.others item other state
    rw [forEach]
    cases first : body item state with
    | mk next thrown =>
      rw [first] at own exception others
      cases thrown with
      | some thrown =>
        rw [andThen_of_some first]
        refine .stopped (List.nil_append _).symm (by simp)
          exception.symm ?_ ?_
        · intro handled listed
          cases List.mem_singleton.mp listed
          exact own
        · intro other unlisted
          exact others other (by simpa using unlisted)
      | none =>
        rw [andThen_of_none first]
        exact (induction distinctRest next).cons fresh exception.symm own
          others

theorem forEach_quiet (owned : Owned part changes throws body)
    (distinct : items.Nodup) (state : σ)
    (quiet : ∀ item ∈ items, throws item (part state item) = none) :
    (forEach body items state).2 = none := by
  have ended := owned.loopEnd distinct state
  generalize (forEach body items state).2 = thrown at ended
  cases ended with
  | finished _ _ _ => rfl
  | stopped split _ throwing _ _ =>
    rw [quiet _ (by simp [split])] at throwing
    cases throwing

end Owned

end Effect
