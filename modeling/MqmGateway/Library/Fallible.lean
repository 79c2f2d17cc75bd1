import Mathlib.Data.List.Forall2

/-!
# Computations that can fail

What a successful run of a sequence or a loop in `Except` went through.
-/

variable {α β σ ε : Type}

variable {first : Except ε α} {body : α → Except ε β} {items : List α}
  {values : List β}

theorem exists_of_bind {next : α → Except ε β}
    {result : β} (ran : first >>= next = .ok result) :
    ∃ value, first = .ok value ∧ next value = .ok result := by
  cases first with
  | error exception => cases ran
  | ok value => exact ⟨value, rfl, ran⟩

theorem bind_map {change : α → β} {next : β → Except ε σ} :
    first.map change >>= next = first >>= fun value => next (change value) := by
  cases first <;> rfl

theorem bind_eq_map_bind {next : α → Except ε β}
    {other : α → Except ε σ} {part : σ → β}
    (same : ∀ value, next value = (other value).map part) :
    first >>= next = (first >>= other).map part := by
  cases first with
  | error exception => rfl
  | ok value => exact same value

theorem mapError_eq_ok_iff {run : Except ε α} {explain : ε → σ} {value : α} :
    run.mapError explain = .ok value ↔ run = .ok value := by
  cases run <;> simp [Except.mapError]

theorem exists_of_toOption_any {run : Except ε α} {test : α → Bool}
    (checked : run.toOption.any test = true) :
    ∃ value, run = .ok value ∧ test value = true := by
  cases run with
  | error exception => cases checked
  | ok value => exact ⟨value, rfl, checked⟩

theorem foldlM_preserves {property : σ → Prop} {body : σ → α → Except ε σ}
    {items : List α}
    (preserved : ∀ item ∈ items, ∀ state next, property state →
      body state item = .ok next → property next)
    {state last : σ} (before : property state)
    (ran : items.foldlM body state = .ok last) : property last := by
  induction items generalizing state with
  | nil =>
    cases ran
    exact before
  | cons item items induction =>
    rw [List.foldlM_cons] at ran
    obtain ⟨next, first, rest⟩ := exists_of_bind ran
    apply induction _ _ rest
    · intro later listed
      exact preserved later (List.mem_cons_of_mem item listed)
    · exact preserved item List.mem_cons_self state next before first

theorem forall₂_of_mapM (ran : items.mapM body = .ok values) :
    List.Forall₂ (fun item value => body item = .ok value) items values := by
  induction items generalizing values with
  | nil =>
    cases ran
    exact .nil
  | cons item items induction =>
    rw [List.mapM_cons] at ran
    obtain ⟨first, firstRan, ran⟩ := exists_of_bind ran
    obtain ⟨rest, restRan, same⟩ := exists_of_bind ran
    cases same
    exact .cons firstRan (induction restRan)

theorem mapM_of_forall₂
    (rounds : List.Forall₂ (fun item value => body item = .ok value) items
      values) : items.mapM body = .ok values := by
  induction rounds with
  | nil => rfl
  | cons first _ induction =>
    rw [List.mapM_cons, first, induction]
    rfl

theorem mapM_map_ok_iff {body : β → Except ε σ} {render : α → β}
    {value : α → σ} :
    (items.map render).mapM body = .ok (items.map value) ↔
      ∀ item ∈ items, body (render item) = .ok (value item) := by
  constructor
  · intro ran
    have rounds := forall₂_of_mapM ran
    rw [List.forall₂_map_left_iff, List.forall₂_map_right_iff] at rounds
    exact List.forall₂_same.mp rounds
  · intro each
    apply mapM_of_forall₂
    rw [List.forall₂_map_left_iff, List.forall₂_map_right_iff]
    exact List.forall₂_same.mpr each

theorem exists_of_mem_mapM (ran : items.mapM body = .ok values) {value : β}
    (listed : value ∈ values) : ∃ item ∈ items, body item = .ok value := by
  have rounds := forall₂_of_mapM ran
  clear ran
  induction rounds with
  | nil => cases listed
  | cons first _ induction =>
    rcases List.mem_cons.mp listed with rfl | later
    · exact ⟨_, List.mem_cons_self, first⟩
    · obtain ⟨source, member, sourceRan⟩ := induction later
      exact ⟨source, List.mem_cons_of_mem _ member, sourceRan⟩

/-- A loop that collects values fails with the first round that does. -/
theorem mapM_eq_error_iff {exception : ε} : items.mapM body = .error exception ↔
      ∃ front item back, items = front ++ item :: back ∧
        (∀ earlier ∈ front, ∃ value, body earlier = .ok value) ∧
        body item = .error exception := by
  constructor
  · intro failed
    induction items with
    | nil => cases failed
    | cons item items induction =>
      rw [List.mapM_cons] at failed
      cases first : body item with
      | error other =>
        rw [first] at failed
        cases failed
        exact ⟨[], item, items, rfl, List.forall_mem_nil _, first⟩
      | ok value =>
        rw [first] at failed
        change (items.mapM body >>= _) = _ at failed
        cases rest : items.mapM body with
        | ok values =>
          rw [rest] at failed
          cases failed
        | error other =>
          rw [rest] at failed
          cases failed
          obtain ⟨front, last, back, rfl, earlier, stopped⟩ :=
            induction rest
          exact ⟨item :: front, last, back, rfl,
            List.forall_mem_cons.mpr ⟨⟨value, first⟩, earlier⟩, stopped⟩
  · rintro ⟨front, item, back, rfl, fine, failed⟩
    induction front with
    | nil =>
      rw [List.nil_append, List.mapM_cons, failed]
      rfl
    | cons earlier front induction =>
      obtain ⟨⟨value, ran⟩, later⟩ := List.forall_mem_cons.mp fine
      rw [List.cons_append, List.mapM_cons, ran]
      change ((front ++ item :: back).mapM body >>= _) = _
      rw [induction later]
      rfl

section Loops

variable {body : σ → α → Except ε σ} {state next last : σ}

theorem foldlM_cons_ok {item : α} (first : body state item = .ok next)
    (rest : items.foldlM body next = .ok last) :
    (item :: items).foldlM body state = .ok last := by
  rw [List.foldlM_cons, first]
  exact rest

theorem foldlM_append_ok {front back : List α}
    (first : front.foldlM body state = .ok next)
    (rest : back.foldlM body next = .ok last) :
    (front ++ back).foldlM body state = .ok last := by
  rw [List.foldlM_append, first]
  exact rest

end Loops
