import Mathlib.Logic.Basic
import Mathlib.Data.List.Induction

/-!
# Lists of records with a key

A record is found by its key, changed in place, and made first if there is
none.  A loop that changes records one after the other can be looked at one
key at a time.
-/

namespace Upsert

variable {α κ ι : Type*} [DecidableEq κ] (key : α → κ)

/-- Change the first record with the key, if there is one. -/
def updateFirst (name : κ) (update : α → α) : List α → Option (List α)
  | [] => none
  | item :: items =>
    if key item = name then some (update item :: items)
    else (updateFirst name update items).map (item :: ·)

/-- Change the record that has the key of `fresh`, or insert a changed
`fresh`. -/
def upsert (fresh : α) (update : α → α) (items : List α) : List α :=
  (updateFirst key (key fresh) update items).getD (update fresh :: items)

def lookup (items : List α) (name : κ) : Option α :=
  items.find? fun item => key item = name

variable {key}

variable {update : α → α} {fresh : α} {property : α → Prop} {items : List α}

theorem lookup_updateFirst (name : κ)
    (keeps : ∀ item, key (update item) = key item) (items : List α) :
    match updateFirst key name update items with
    | none => lookup key items name = none
    | some updated =>
      (∃ item, lookup key items name = some item ∧
        lookup key updated name = some (update item)) ∧
      ∀ other, other ≠ name →
        lookup key updated other = lookup key items other := by
  induction items with
  | nil => rfl
  | cons item items induction =>
    rw [updateFirst]
    by_cases here : key item = name
    · rw [if_pos here]
      refine ⟨⟨item, ?_, ?_⟩, ?_⟩
      · simp [lookup, here]
      · simp [lookup, keeps, here]
      · intro other different
        have away : ¬ key item = other := fun same =>
          different (same.symm.trans here)
        simp [lookup, keeps, away]
    · rw [if_neg here]
      cases found : updateFirst key name update items with
      | none =>
        rw [found] at induction
        simpa [lookup, here] using induction
      | some updated =>
        rw [found] at induction
        obtain ⟨⟨old, before, after⟩, others⟩ := induction
        refine ⟨⟨old, ?_, ?_⟩, ?_⟩
        · simpa [lookup, here] using before
        · simpa [lookup, here] using after
        · intro other different
          by_cases same : key item = other
          · simp [lookup, same]
          · simpa [lookup, same] using others other different

theorem lookup_upsert
    (keeps : ∀ item, key (update item) = key item) (items : List α)
    (name : κ) :
    lookup key (upsert key fresh update items) name = if key fresh = name then
        some (update ((lookup key items name).getD fresh))
      else
        lookup key items name := by
  have found := lookup_updateFirst (key fresh) keeps items
  rw [upsert]
  cases updated : updateFirst key (key fresh) update items with
  | none =>
    rw [updated] at found
    dsimp only at found
    by_cases same : key fresh = name
    · subst same
      rw [found]
      simp [lookup, keeps]
    · simp [lookup, keeps, same]
  | some result =>
    rw [updated] at found
    obtain ⟨⟨item, before, after⟩, others⟩ := found
    by_cases same : key fresh = name
    · subst same
      simp [before, after]
    · rw [if_neg same]
      exact others name (Ne.symm same)

theorem forall_mem_updateFirst {name : κ} {updated : List α}
    (known : ∀ item ∈ items, property item)
    (changed : ∀ item, key item = name → property item → property (update item))
    (found : updateFirst key name update items = some updated) :
    ∀ item ∈ updated, property item := by
  induction items generalizing updated with
  | nil => cases found
  | cons first items induction =>
    obtain ⟨here, later⟩ := List.forall_mem_cons.mp known
    rw [updateFirst] at found
    split at found
    · rename_i same
      cases found
      exact List.forall_mem_cons.mpr ⟨changed first same here, later⟩
    · obtain ⟨rest, foundLater, same⟩ := Option.map_eq_some_iff.mp found
      cases same
      exact List.forall_mem_cons.mpr ⟨here, induction later foundLater⟩

theorem forall_mem_upsert (known : ∀ item ∈ items, property item)
    (made : property fresh)
    (changed : ∀ item, key item = key fresh → property item →
      property (update item)) :
    ∀ item ∈ upsert key fresh update items, property item := by
  rw [upsert]
  cases found : updateFirst key (key fresh) update items with
  | none =>
    exact List.forall_mem_cons.mpr ⟨changed fresh rfl made, known⟩
  | some updated => exact forall_mem_updateFirst known changed found

theorem lookup_foldl (key : α → κ) (named : ι → κ) (fresh : κ → α)
    (update : ι → α → α) (freshKey : ∀ name, key (fresh name) = name)
    (keeps : ∀ input item, key (update input item) = key item)
    (inputs : List ι) (name : κ) :
    lookup key (inputs.foldl (fun items input =>
          upsert key (fresh (named input)) (update input) items) []) name =
      if inputs.filter (fun input => named input = name) = [] then none
      else some ((inputs.filter fun input => named input = name).foldl
        (fun item input => update input item) (fresh name)) := by
  induction inputs using List.reverseRecOn with
  | nil => rfl
  | append_singleton inputs input induction =>
    rw [List.foldl_append, List.foldl_cons, List.foldl_nil,
      lookup_upsert (keeps input), freshKey, induction, List.filter_append]
    by_cases same : named input = name
    · subst same
      rw [if_pos rfl]
      by_cases none : inputs.filter (fun other =>
          named other = named input) = []
      · simp [none]
      · simp [none]
    · rw [if_neg same]
      simp [same]

end Upsert
