import Mathlib.Algebra.Ring.Nat
import Mathlib.Data.List.Pairwise
import Mathlib.Order.Lattice

/-!
# Ordered maps with iterators

An association list in strict key order.  An iterator is the part of the list
that it has not passed yet, so the end of the map is the empty list; no
operation removes a key, so a key names the same place for as long as the map
lives.
-/

structure OrderedMap (κ α : Type*) [LinearOrder κ] where
  entries : List (κ × α)
  sorted : entries.Pairwise fun left right => left.1 < right.1

namespace OrderedMap

variable {κ α : Type*} [LinearOrder κ]

def empty : OrderedMap κ α :=
  { entries := [], sorted := List.Pairwise.nil }

def keys (map : OrderedMap κ α) : List κ :=
  map.entries.map Prod.fst

def find? (map : OrderedMap κ α) (key : κ) : Option α :=
  (map.entries.find? fun entry => entry.1 = key).map Prod.snd

/-- The value at `key`, or `default` where the map has none. -/
def getD (map : OrderedMap κ α) (key : κ) (default : α) : α :=
  (map.find? key).getD default

/-- The entries an iterator at `key` has before it once it is advanced. -/
def after (map : OrderedMap κ α) (key : κ) : List (κ × α) :=
  map.entries.filter fun entry => key < entry.1

def setEntry (key : κ) (value : α) : List (κ × α) → List (κ × α)
  | [] => [(key, value)]
  | entry :: rest =>
    if key < entry.1 then
      (key, value) :: entry :: rest
    else if key = entry.1 then
      (key, value) :: rest
    else
      entry :: setEntry key value rest

variable {key : κ} {value : α} {entry : κ × α} {entries : List (κ × α)}
  {map : OrderedMap κ α}

theorem mem_setEntry (member : entry ∈ setEntry key value entries) :
    entry = (key, value) ∨ entry ∈ entries := by
  induction entries with
  | nil => simpa [setEntry] using member
  | cons head rest induction =>
    rw [setEntry] at member
    split at member
    · simpa using member
    · split at member
      · rcases List.mem_cons.mp member with new | old
        · exact .inl new
        · exact .inr (List.mem_cons_of_mem head old)
      · rcases List.mem_cons.mp member with first | later
        · exact .inr (by simp [first])
        · rcases induction later with new | old
          · exact .inl new
          · exact .inr (List.mem_cons_of_mem head old)

theorem setEntry_sorted
    (sorted : entries.Pairwise fun left right => left.1 < right.1) :
    (setEntry key value entries).Pairwise
      fun left right => left.1 < right.1 := by
  induction entries with
  | nil => simp [setEntry]
  | cons head rest induction =>
    obtain ⟨headBelow, restSorted⟩ := List.pairwise_cons.mp sorted
    rw [setEntry]
    split
    · rename_i below
      refine List.pairwise_cons.mpr ⟨?_, sorted⟩
      intro entry member
      rcases List.mem_cons.mp member with first | later
      · exact first ▸ below
      · exact lt_trans below (headBelow entry later)
    · split
      · rename_i same
        refine List.pairwise_cons.mpr ⟨?_, restSorted⟩
        intro entry member
        exact same ▸ headBelow entry member
      · rename_i notBelow different
        refine List.pairwise_cons.mpr ⟨?_, induction restSorted⟩
        intro entry member
        rcases mem_setEntry member with new | old
        · subst new
          exact lt_of_le_of_ne (not_lt.mp notBelow) (Ne.symm different)
        · exact headBelow entry old

/-- Store `value` at `key`, which becomes a key of the map if it was none. -/
def set (map : OrderedMap κ α) (key : κ) (value : α) : OrderedMap κ α :=
  { entries := setEntry key value map.entries
    sorted := setEntry_sorted map.sorted }

def total (measure : α → Nat) (map : OrderedMap κ α) : Nat :=
  (map.entries.map fun entry => measure entry.2).sum

theorem find?_eq_some_iff :
    map.find? key = some value ↔ (key, value) ∈ map.entries := by
  obtain ⟨entries, sorted⟩ := map
  simp only [find?]
  induction entries with
  | nil => simp
  | cons head rest induction =>
    obtain ⟨headBelow, restSorted⟩ := List.pairwise_cons.mp sorted
    by_cases same : head.1 = key
    · have absent : (key, value) ∉ rest := by
        intro member
        exact absurd (headBelow _ member) (by simp [same])
      subst same
      simp [absent, Prod.ext_iff, eq_comm]
    · simp [same, induction restSorted, Prod.ext_iff, Ne.symm same]

theorem find?_isSome_iff :
    (∃ value, map.find? key = some value) ↔ key ∈ map.keys := by
  simp [find?_eq_some_iff, keys]

theorem find?_eq_none_iff : map.find? key = none ↔ key ∉ map.keys := by
  rw [← find?_isSome_iff, Option.eq_none_iff_forall_ne_some]
  exact not_exists.symm

theorem find?_setEntry {other : κ}
    (sorted : entries.Pairwise fun left right => left.1 < right.1) :
    (setEntry key value entries).find? (fun entry => entry.1 = other) =
      if other = key then
        some (key, value)
      else
        entries.find? (fun entry => entry.1 = other) := by
  induction entries with
  | nil =>
    by_cases same : other = key
    · simp [setEntry, same]
    · simp [setEntry, same, Ne.symm same]
  | cons head rest induction =>
    obtain ⟨headBelow, restSorted⟩ := List.pairwise_cons.mp sorted
    rw [setEntry]
    split
    · by_cases same : other = key
      · simp [same]
      · simp [same, Ne.symm same]
    · split
      · rename_i replaced
        by_cases same : other = key
        · simp [same]
        · simp [same, Ne.symm same, ← replaced]
      · rename_i different
        by_cases atHead : head.1 = other
        · have distinct : other ≠ key := by
            intro same
            exact different (same.symm.trans atHead.symm)
          simp [atHead, distinct]
        · rw [List.find?_cons_of_neg (by simpa using atHead),
            induction restSorted,
            List.find?_cons_of_neg (by simpa using atHead)]

theorem find?_set (map : OrderedMap κ α) (key other : κ) (value : α) :
    (map.set key value).find? other =
      if other = key then some value else map.find? other := by
  simp only [find?, set, find?_setEntry map.sorted]
  split <;> rfl

@[simp] theorem getD_set (map : OrderedMap κ α) (key other : κ)
    (value default : α) :
    (map.set key value).getD other default =
      if other = key then value else map.getD other default := by
  simp only [getD, find?_set]
  split <;> rfl

theorem setEntry_setEntry (key : κ) (first second : α)
    (entries : List (κ × α)) :
    setEntry key second (setEntry key first entries) =
      setEntry key second entries := by
  induction entries with
  | nil => simp [setEntry]
  | cons head rest induction =>
    rw [setEntry.eq_2 key first, setEntry.eq_2 key second]
    split
    · simp [setEntry]
    · rename_i notBelow
      split
      · simp [setEntry]
      · rename_i different
        rw [setEntry, if_neg notBelow, if_neg different, induction]

@[simp] theorem set_set (map : OrderedMap κ α) (key : κ) (first second : α) :
    (map.set key first).set key second = map.set key second := by
  simp only [set, setEntry_setEntry]

theorem mem_keys_set {other : κ} :
    other ∈ (map.set key value).keys ↔ other = key ∨ other ∈ map.keys := by
  rw [← find?_isSome_iff, find?_set, ← find?_isSome_iff]
  by_cases same : other = key <;> simp [same]

theorem mem_entries_set (member : entry ∈ (map.set key value).entries) :
    entry = (key, value) ∨ entry ∈ map.entries :=
  mem_setEntry member

theorem getD_of_mem (member : entry ∈ map.entries) (default : α) :
    map.getD entry.1 default = entry.2 := by
  rw [getD, find?_eq_some_iff.mpr member, Option.getD_some]

theorem mem_of_mem_keys (default : α)
    (member : key ∈ map.keys) : (key, map.getD key default) ∈ map.entries := by
  obtain ⟨value, found⟩ := find?_isSome_iff.mpr member
  rw [getD, found, Option.getD_some]
  exact find?_eq_some_iff.mp found

theorem getD_of_not_mem_keys (default : α)
    (absent : key ∉ map.keys) : map.getD key default = default := by
  rw [getD, find?_eq_none_iff.mpr absent, Option.getD_none]

theorem sum_setEntry (measure : α → Nat) {default : α}
    (unmeasured : measure default = 0) (key : κ) (value : α)
    (sorted : entries.Pairwise fun left right => left.1 < right.1) :
    ((setEntry key value entries).map fun entry => measure entry.2).sum +
        measure (((entries.find? fun entry => entry.1 = key).map
          Prod.snd).getD default) =
      (entries.map fun entry => measure entry.2).sum + measure value := by
  induction entries with
  | nil => simp [setEntry, unmeasured]
  | cons head rest induction =>
    obtain ⟨headBelow, restSorted⟩ := List.pairwise_cons.mp sorted
    rw [setEntry]
    split
    · rename_i below
      have absent : (head :: rest).find? (fun entry => entry.1 = key) =
          none := by
        rw [List.find?_eq_none]
        intro entry member
        rcases List.mem_cons.mp member with first | later
        · simpa [first] using below.ne'
        · simpa using (below.trans (headBelow entry later)).ne'
      rw [absent]
      simp [unmeasured]
      omega
    · split
      · rename_i same
        simp [same]
        omega
      · rename_i different
        rw [List.find?_cons_of_neg (by simpa using Ne.symm different)]
        have tail := induction restSorted
        simp only [List.map_cons, List.sum_cons]
        omega

theorem total_set (measure : α → Nat) {default : α}
    (unmeasured : measure default = 0) (map : OrderedMap κ α) (key : κ)
    (value : α) :
    (map.set key value).total measure + measure (map.getD key default) =
      map.total measure + measure value :=
  sum_setEntry measure unmeasured key value map.sorted

theorem total_pos_iff {measure : α → Nat} :
    0 < map.total measure ↔ ∃ entry ∈ map.entries, 0 < measure entry.2 := by
  rw [total, List.sum_pos_iff_exists_pos_nat]
  constructor
  · intro ⟨value, member, positive⟩
    obtain ⟨entry, listed, rfl⟩ := List.mem_map.mp member
    exact ⟨entry, listed, positive⟩
  · intro ⟨entry, listed, positive⟩
    exact ⟨_, List.mem_map_of_mem listed, positive⟩

theorem eq_of_entries_eq {left right : OrderedMap κ α}
    (same : left.entries = right.entries) : left = right := by
  cases left
  cases right
  cases same
  rfl

theorem setEntry_append {front : List (κ × α)}
    (below : ∀ entry ∈ front, entry.1 < key) (value : α)
    (back : List (κ × α)) :
    setEntry key value (front ++ back) = front ++ setEntry key value back := by
  induction front with
  | nil => rfl
  | cons head front induction =>
    obtain ⟨first, others⟩ := List.forall_mem_cons.mp below
    rw [List.cons_append, setEntry, if_neg (not_lt.mpr first.le),
      if_neg first.ne', induction others]
    rfl

theorem getD_append {front back : List (κ × α)}
    (parts : map.entries = front ++ back)
    (below : ∀ entry ∈ front, entry.1 < key) (default : α) :
    map.getD key default =
      ((back.find? fun entry => entry.1 = key).map Prod.snd).getD default := by
  have absent : front.find? (fun entry => entry.1 = key) = none := by
    rw [List.find?_eq_none]
    intro entry listed
    simpa using (below entry listed).ne
  rw [getD, find?, parts, List.find?_append, absent, Option.none_or]

end OrderedMap
