import Mathlib.Data.List.Basic
import Mathlib.Data.List.Induction
import Mathlib.Logic.Function.Basic

/-!
# The latest entry of a log

A log is read through a partial function that picks out the entries one is
interested in; `latest` is the last value it finds.
-/

variable {α β : Type*}

def latest (choose : α → Option β) (log : List α) : Option β :=
  (log.filterMap choose).getLast?

@[simp] theorem latest_singleton (choose : α → Option β) (entry : α) :
    latest choose [entry] = choose entry := by
  cases found : choose entry <;> simp [latest, found]

theorem latest_append (choose : α → Option β) (front back : List α) :
    latest choose (front ++ back) =
      (latest choose back).or (latest choose front) := by
  simp [latest, List.getLast?_append]

variable {choose : α → Option β} {value : β} {γ : Type*}

theorem latest_append_of_none {front back : List α}
    (silent : ∀ entry ∈ back, choose entry = none) :
    latest choose (front ++ back) = latest choose front := by
  have nothing : back.filterMap choose = [] :=
    List.filterMap_eq_nil_iff.mpr silent
  rw [latest_append, latest, nothing]
  rfl

theorem latest_append_of_some {front : List α}
    {entry : α} (found : choose entry = some value) :
    latest choose (front ++ [entry]) = some value := by
  rw [latest_append, latest_singleton, found]
  rfl

theorem latest_append_of_latest {back : List α}
    (found : latest choose back = some value) (front : List α) :
    latest choose (front ++ back) = some value := by
  rw [latest_append, found]
  rfl

theorem latest_translate (choose : β → Option γ) (change : α → β)
    (log : List α) :
    latest choose (log.map change) =
      latest (fun entry => choose (change entry)) log := by
  rw [latest, latest, List.filterMap_map]
  rfl

theorem latest_map (choose : α → Option β) (change : β → γ) (log : List α) :
    latest (fun entry => (choose entry).map change) log =
      (latest choose log).map change := by
  rw [latest, latest, ← List.getLast?_map, List.map_filterMap]

theorem latest_eq_none_iff {log : List α} :
    latest choose log = none ↔ ∀ entry ∈ log, choose entry = none := by
  rw [latest, List.getLast?_eq_none_iff, List.filterMap_eq_nil_iff]

theorem exists_of_latest {log : List α}
    (found : latest choose log = some value) :
    ∃ entry ∈ log, choose entry = some value :=
  List.mem_filterMap.mp (List.mem_of_getLast? found)

theorem latest_flatMap (choose : β → Option γ)
    (spread : α → List β) (log : List α) :
    latest choose (log.flatMap spread) =
      latest (fun entry => latest choose (spread entry)) log := by
  induction log using List.reverseRec with
  | nil => rfl
  | append_singleton log entry induction =>
    rw [List.flatMap_append, latest_append, latest_append, induction,
      latest_singleton, List.flatMap_singleton]

theorem latest_if_mem [DecidableEq α] (key : α) (value : β) (log : List α) :
    latest (fun entry => if entry = key then some value else none) log =
      if key ∈ log then some value else none := by
  induction log using List.reverseRec with
  | nil => rfl
  | append_singleton log entry induction =>
    rw [latest_append, latest_singleton, induction]
    by_cases same : entry = key
    · simp [same]
    · simp [same, Ne.symm same]

theorem latest_if_filter (test : α → Bool) (log : List α) :
    latest (fun entry => if test entry then some entry else none) log =
      (log.filter test).getLast? := by
  rw [latest, ← List.filterMap_eq_filter]
  rfl

theorem foldl_update_eq_latest {κ : Type*} [DecidableEq κ]
    (log : List (κ × β)) (table : κ → Option β) (key : κ) :
    log.foldl (fun (table : κ → Option β) entry =>
        Function.update table entry.1 (some entry.2)) table key =
      (latest (fun entry => if entry.1 = key then some entry.2 else none)
        log).or (table key) := by
  induction log using List.reverseRec with
  | nil => rfl
  | append_singleton log entry induction =>
    rw [List.foldl_append, latest_append, latest_singleton,
      List.foldl_cons, List.foldl_nil]
    by_cases same : entry.1 = key
    · rw [if_pos same, ← same, Function.update_self]
      rfl
    · rw [if_neg same, Function.update_of_ne (Ne.symm same), induction,
        Option.none_or]
