import Mathlib.Data.List.Infix

/-!
# Replacing words in a text

All words at once, in one pass from left to right.  The words start with a
mark that does not occur again in them, so that occurrences of different words
do not overlap.
-/

namespace Substitution

variable {α : Type} [DecidableEq α]

def occurrences (word : List α) : List α → Nat
  | [] => 0
  | letter :: rest =>
    (if word <+: letter :: rest then 1 else 0) + occurrences word rest

/-- A fill is a word and what is put in its place.  The first `skip` letters
belong to a word that has been replaced. -/
def substitute (fills : List (List α × List α)) : Nat → List α → List α
  | _, [] => []
  | skip + 1, _ :: rest => substitute fills skip rest
  | 0, letter :: rest =>
    match fills.find? fun fill => fill.1 <+: letter :: rest with
    | some fill => fill.2 ++ substitute fills (fill.1.length - 1) rest
    | none => letter :: substitute fills 0 rest

structure Marked (mark : α) (word : List α) : Prop where
  head : word.head? = some mark
  single : mark ∉ word.tail

section Occurrences

variable {word : List α}

theorem occurrences_append_le (left right : List α) :
    occurrences word left + occurrences word right ≤
      occurrences word (left ++ right) := by
  induction left with
  | nil => simp [occurrences]
  | cons letter left induction =>
    have longer : word <+: letter :: left →
        word <+: letter :: (left ++ right) :=
      fun shown => shown.trans (List.prefix_append _ _)
    simp only [List.cons_append, occurrences]
    split
    · rw [if_pos (longer ‹_›)]
      omega
    · omega

theorem occurrences_append_of_head {first : α} (absent : first ∉ word.tail)
    (left rest : List α) :
    occurrences word (left ++ first :: rest) =
      occurrences word left + occurrences word (first :: rest) := by
  induction left with
  | nil => simp [occurrences]
  | cons letter left induction =>
    have inside : word <+: letter :: (left ++ first :: rest) ↔
        word <+: letter :: left := by
      refine ⟨?_, fun shown =>
        shown.trans (List.prefix_append (letter :: left) _)⟩
      rintro ⟨more, same⟩
      change word ++ more = letter :: left ++ first :: rest at same
      rcases List.append_eq_append_iff.mp same with
        ⟨between, whole, _⟩ | ⟨between, whole, reached⟩
      · exact ⟨between, whole.symm⟩
      · cases between with
        | nil => exact ⟨[], by rw [whole]; simp⟩
        | cons next between =>
          cases reached
          rw [whole] at absent
          simp at absent
    simp only [List.cons_append, occurrences, inside, induction]
    omega

theorem occurrences_append_of_absent {left : List α} (filled : word ≠ [])
    (absent : ∀ letter ∈ left, word.head? ≠ some letter) (right : List α) :
    occurrences word (left ++ right) = occurrences word right := by
  obtain ⟨first, tail, rfl⟩ := List.exists_cons_of_ne_nil filled
  induction left with
  | nil => rfl
  | cons letter left induction =>
    obtain ⟨other, later⟩ := List.forall_mem_cons.mp absent
    rw [List.cons_append, occurrences, induction later, if_neg, Nat.zero_add]
    rintro ⟨more, same⟩
    rw [List.cons_append, List.cons.injEq] at same
    exact other (congrArg some same.1)

end Occurrences

section Substitute

variable {fills : List (List α × List α)}

theorem substitute_skip (text right : List α) :
    substitute fills text.length (text ++ right) =
      substitute fills 0 right := by
  induction text with
  | nil => rfl
  | cons letter text induction => exact induction

end Substitute

section Marks

variable {mark : α} {word other front back : List α} (marked : Marked mark word)

include marked

omit [DecidableEq α] in
theorem Marked.eq_cons : ∃ tail, word = mark :: tail ∧ mark ∉ tail := by
  cases word with
  | nil => cases marked.head
  | cons first tail =>
    cases marked.head
    exact ⟨tail, rfl, marked.single⟩

omit [DecidableEq α] in
theorem Marked.letter_eq {letter : α} {text : List α}
    (shown : word <+: letter :: text) : mark = letter := by
  obtain ⟨tail, rfl, _⟩ := marked.eq_cons
  exact (List.cons_prefix_cons.mp shown).1

theorem occurrences_word_append (otherMarked : Marked mark other) :
    occurrences other (word ++ back) =
      (if other <+: word ++ back then 1 else 0) + occurrences other back := by
  obtain ⟨tail, rfl, single⟩ := marked.eq_cons
  obtain ⟨_, rfl, _⟩ := otherMarked.eq_cons
  rw [List.cons_append, occurrences,
    occurrences_append_of_absent (List.cons_ne_nil _ _)]
  rintro letter listed same
  cases same
  exact single listed

theorem occurrences_around (otherMarked : Marked mark other) :
    occurrences other (front ++ (word ++ back)) = occurrences other front +
        ((if other <+: word ++ back then 1 else 0) +
          occurrences other back) := by
  rw [← occurrences_word_append marked otherMarked]
  obtain ⟨tail, rfl, _⟩ := marked.eq_cons
  exact occurrences_append_of_head otherMarked.single front _

theorem occurrences_other (otherMarked : Marked mark other)
    (incomparable : ¬other <+: word ∧ ¬word <+: other) :
    occurrences other (front ++ (word ++ back)) =
      occurrences other front + occurrences other back := by
  rw [occurrences_around marked otherMarked, if_neg, Nat.zero_add]
  intro shown
  rcases Nat.le_total other.length word.length with shorter | longer
  · exact incomparable.1 (List.prefix_of_prefix_length_le shown
      (List.prefix_append word back) shorter)
  · exact incomparable.2 (List.prefix_of_prefix_length_le
      (List.prefix_append word back) shown longer)

end Marks

end Substitution
