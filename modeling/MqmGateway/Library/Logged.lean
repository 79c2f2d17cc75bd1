import Mathlib.Logic.Function.Basic
import MqmGateway.Library.Effect

/-!
# Effects on a part of the state that log events

A logged effect changes a part and logs events, or gives no result.  An effect
on the whole state realizes it if, whenever it ends without an exception, it
has changed nothing but its part and appended the same events to the log.

A loop over distinct parts then does to each part what its own logged effect
does, whatever the other rounds do.
-/

abbrev Logged (π ε : Type*) :=
  π → Option (π × List ε)

namespace Logged

variable {π ε : Type*}

def skip : Logged π ε := fun part =>
  some (part, [])

def andThen (first second : Logged π ε) : Logged π ε := fun part =>
  match first part with
  | none => none
  | some (middle, front) =>
    (second middle).map fun result => (result.1, front ++ result.2)

variable {first second : Logged π ε} {part last : π}

theorem andThen_eq_some {events : List ε}
    (done : first.andThen second part = some (last, events)) :
    ∃ middle front back, first part = some (middle, front) ∧
      second middle = some (last, back) ∧ events = front ++ back := by
  rw [andThen] at done
  split at done
  · cases done
  · rename_i middle front began
    obtain ⟨⟨_, back⟩, ended, same⟩ := Option.map_eq_some_iff.mp done
    cases same
    exact ⟨middle, front, back, began, ended, rfl⟩

theorem andThen_of_some {middle : π}
    {front back : List ε} (began : first part = some (middle, front))
    (ended : second middle = some (last, back)) :
    first.andThen second part = some (last, front ++ back) := by
  rw [andThen, began]
  dsimp only
  rw [ended]
  rfl

theorem andThen_eq_none_iff (total : ∀ middle, second middle ≠ none) :
    first.andThen second part = none ↔ first part = none := by
  rw [andThen]
  cases first part with
  | none => simp
  | some result => simpa using total result.1

/-- The logged effect relates the part before it, the events and the part
after it. -/
def Within (relation : π → List ε → π → Prop) (logged : Logged π ε) : Prop :=
  ∀ part events next, logged part = some (next, events) →
    relation part events next

namespace Within

variable {relation : π → List ε → π → Prop}

theorem skip (refl : ∀ part, relation part [] part) :
    Within relation (skip : Logged π ε) := by
  intro part events next done
  cases done
  exact refl part

theorem andThen
    (trans : ∀ part front middle back next, relation part front middle →
      relation middle back next → relation part (front ++ back) next)
    {first second : Logged π ε} (left : Within relation first)
    (right : Within relation second) :
    Within relation (first.andThen second) := by
  intro part events next done
  obtain ⟨middle, front, back, began, ended, rfl⟩ := andThen_eq_some done
  exact trans _ _ _ _ _ (left _ _ _ began) (right _ _ _ ended)

theorem ite {condition : Prop} [Decidable condition]
    {first second : Logged π ε} (yes : Within relation first)
    (no : Within relation second) :
    Within relation (if condition then first else second) := by
  split
  · exact yes
  · exact no

end Within

end Logged

namespace Effect

variable {σ ε ι π τ : Type*} [DecidableEq ι]

/-- Without an exception, `effect` does `logged` to the part `item` and
nothing to the other parts. -/
def Realizes (parts : σ → ι → π) (log : σ → List τ) (item : ι)
    (logged : Logged π τ) (effect : Effect σ ε) : Prop :=
  ∀ state next, effect state = (next, none) →
    ∃ part events, logged (parts state item) = some (part, events) ∧
      parts next = Function.update (parts state) item part ∧
      log next = log state ++ events

namespace Realizes

variable {parts : σ → ι → π} {log : σ → List τ} {item : ι}

theorem skip : Realizes parts log item Logged.skip (skip : Effect σ ε) := by
  intro state next done
  cases done
  exact ⟨parts state item, [], rfl, (Function.update_eq_self ..).symm,
    (List.append_nil _).symm⟩

variable {first second : Effect σ ε} {left right : Logged π τ}

theorem andThen (front : Realizes parts log item left first)
    (back : Realizes parts log item right second) :
    Realizes parts log item (left.andThen right) (first.andThen second) := by
  intro state next done
  cases began : first state with
  | mk middle thrown =>
    cases thrown with
    | some exception =>
      rw [andThen_of_some began] at done
      cases done
    | none =>
      rw [andThen_of_none began] at done
      obtain ⟨part, events, changed, stored, logged⟩ :=
        front state middle began
      obtain ⟨last, later, changedLater, storedLater, loggedLater⟩ :=
        back middle next done
      rw [stored, Function.update_self] at changedLater
      refine ⟨last, events ++ later,
        Logged.andThen_of_some changed changedLater, ?_, ?_⟩
      · rw [storedLater, stored, Function.update_idem]
      · rw [loggedLater, logged, List.append_assoc]

theorem ite {condition : Prop} [Decidable condition]
    (yes : Realizes parts log item left first)
    (no : Realizes parts log item right second) :
    Realizes parts log item (if condition then left else right)
      (if condition then first else second) := by
  split
  · exact yes
  · exact no

/-- A loop over distinct items that ends without an exception. -/
theorem forEach {body : ι → Effect σ ε} {logged : ι → Logged π τ}
    (each : ∀ item, Realizes parts log item (logged item) (body item))
    {items : List ι} (distinct : items.Nodup) {state next : σ}
    (done : Effect.forEach body items state = (next, none)) :
    ∃ events : ι → List τ, (∀ item ∈ items, logged item (parts state item) =
        some (parts next item, events item)) ∧
      (∀ item, item ∉ items → parts next item = parts state item) ∧
      log next = log state ++ items.flatMap events := by
  induction items generalizing state with
  | nil =>
    cases done
    exact ⟨fun _ => [], by simp, fun _ _ => rfl, by simp⟩
  | cons item items induction =>
    obtain ⟨fresh, distinctRest⟩ := List.nodup_cons.mp distinct
    rw [Effect.forEach] at done
    cases began : body item state with
    | mk middle thrown =>
      cases thrown with
      | some exception =>
        rw [andThen_of_some began] at done
        cases done
      | none =>
        rw [andThen_of_none began] at done
        obtain ⟨part, here, changed, stored, added⟩ :=
          each item state middle began
        obtain ⟨events, handled, untouched, appended⟩ :=
          induction distinctRest done
        have kept : ∀ other, other ≠ item →
            parts middle other = parts state other := by
          intro other different
          rw [stored]
          exact Function.update_of_ne different ..
        have later : ∀ other ∈ items, other ≠ item := by
          intro other listed same
          exact fresh (same ▸ listed)
        refine ⟨Function.update events item here, ?_, ?_, ?_⟩
        · intro other listed
          rcases List.mem_cons.mp listed with rfl | rest
          · rw [untouched other fresh, stored, Function.update_self,
              Function.update_self]
            exact changed
          · rw [Function.update_of_ne (later other rest),
              ← kept other (later other rest)]
            exact handled other rest
        · intro other unlisted
          obtain ⟨different, absent⟩ :=
            not_or.mp (mt List.mem_cons.mpr unlisted)
          rw [untouched other absent, kept other different]
        · have same : items.flatMap (Function.update events item here) =
              items.flatMap events := by
            apply List.flatMap_congr
            intro other listed
            exact Function.update_of_ne (later other listed) ..
          rw [appended, added, List.flatMap_cons, Function.update_self,
            same, List.append_assoc]

end Realizes

end Effect

/-- Of the events of all items, those of one item are the ones it owns. -/
theorem List.filter_flatMap_of_owned {ι τ : Type*} {items : List ι}
    {events : ι → List τ} {owns : τ → Bool} {item : ι}
    (distinct : items.Nodup) (listed : item ∈ items)
    (own : ∀ event ∈ events item, owns event = true)
    (others : ∀ other ∈ items, other ≠ item →
      ∀ event ∈ events other, owns event = false) :
    (items.flatMap events).filter owns = events item := by
  induction items with
  | nil => cases listed
  | cons first items induction =>
    obtain ⟨fresh, distinctRest⟩ := List.nodup_cons.mp distinct
    rw [List.flatMap_cons, List.filter_append]
    rcases List.mem_cons.mp listed with rfl | later
    · have rest : (items.flatMap events).filter owns = [] := by
        apply List.filter_eq_nil_iff.mpr
        intro event logged
        obtain ⟨other, known, member⟩ := List.mem_flatMap.mp logged
        have different : other ≠ item := fun same => fresh (same ▸ known)
        simp [others other (List.mem_cons_of_mem _ known) different event
          member]
      rw [rest, List.append_nil]
      exact List.filter_eq_self.mpr own
    · have different : first ≠ item := fun same => fresh (same ▸ later)
      have none : (events first).filter owns = [] := by
        apply List.filter_eq_nil_iff.mpr
        intro event logged
        simp [others first List.mem_cons_self different event logged]
      rw [none, List.nil_append]
      apply induction distinctRest later
      intro other known
      exact others other (List.mem_cons_of_mem first known)
