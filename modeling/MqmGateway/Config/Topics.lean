import MqmGateway.Config.PollRouting
import MqmGateway.Library.Substitution
import MqmGateway.MqttValue.Literals

/-!
# Topics of templates

A topic may name its network and its slave by placeholders.  The loader fills
in one kind after the other, and only the first placeholder of a kind; what
one of them is replaced by is searched for the next.
-/

namespace MqmGateway

open Substitution

inductive Placeholder where
  | network
  | slaveAddress
  | slaveName
deriving DecidableEq, Repr

namespace Placeholder

def word : Placeholder → List Char
  | .network => "$\x7bnetwork\x7d".toList
  | .slaveAddress => "$\x7bslave_address\x7d".toList
  | .slaveName => "$\x7bslave_name\x7d".toList

theorem marked (kind : Placeholder) : Marked '$' kind.word := by
  cases kind <;> exact ⟨by decide, by decide⟩

theorem incomparable {kind other : Placeholder} (different : kind ≠ other) :
    ¬kind.word <+: other.word := by
  cases kind <;> cases other <;>
    first | exact absurd rfl different | decide

theorem not_isPrefix {kind other : Placeholder}
    (different : kind ≠ other) (text : List Char) :
    ¬kind.word <+: other.word ++ text := by
  intro shown
  rcases List.prefix_or_prefix_of_prefix shown
    (List.prefix_append other.word text) with inside | around
  · exact incomparable different inside
  · exact incomparable different.symm around

end Placeholder

namespace ModMqtt

section Replacing

variable {word value text filled : List Char}

theorem replaceFirst_some
    (replaced : replaceFirst word value text = some filled) :
    ∃ front back, text = front ++ (word ++ back) ∧
      filled = front ++ (value ++ back) := by
  induction text generalizing filled with
  | nil => cases replaced
  | cons char rest induction =>
    rw [replaceFirst] at replaced
    split at replaced
    · rename_i shown
      obtain ⟨back, same⟩ := List.isPrefixOf_iff_prefix.mp shown
      cases replaced
      rw [← same, List.drop_left]
      exact ⟨[], back, rfl, rfl⟩
    · obtain ⟨tail, replacedLater, rfl⟩ := Option.map_eq_some_iff.mp replaced
      obtain ⟨front, back, rfl, rfl⟩ := induction replacedLater
      exact ⟨char :: front, back, rfl, rfl⟩

theorem replaceFirst_none (kept : replaceFirst word value text = none) :
    occurrences word text = 0 := by
  induction text with
  | nil => rfl
  | cons char rest induction =>
    rw [replaceFirst] at kept
    split at kept
    · cases kept
    · rename_i absent
      rw [occurrences, induction (Option.map_eq_none_iff.mp kept), if_neg]
      intro shown
      exact absent (List.isPrefixOf_iff_prefix.mpr shown)

end Replacing

def topicValue (network : String) (slave : Int) (slaveName : String) :
    Placeholder → List Char
  | .network => network.toList
  | .slaveAddress => intText slave
  | .slaveName => slaveName.toList

def topicFills (value : Placeholder → List Char) :
    List (List Char × List Char) :=
  [Placeholder.network, .slaveAddress, .slaveName].map fun kind =>
    (kind.word, value kind)

/-- The template with every placeholder replaced, and nothing else. -/
def substitutedTopic (template network : String) (slave : Int)
    (slaveName : String) : String :=
  String.ofList (substitute (topicFills (topicValue network slave slaveName)) 0
    template.toList)

/-- No placeholder is repeated.  The name of the network, in its place, makes
no other placeholder appear, unless that one also stands before it. -/
structure PlainTemplate (template network : String) : Prop where
  once : ∀ kind : Placeholder,
    occurrences kind.word template.toList ≤ 1
  kept : ∀ front back,
    template.toList = front ++ (Placeholder.network.word ++ back) →
    ∀ kind : Placeholder, kind ≠ .network →
      0 < occurrences kind.word front ∨
      occurrences kind.word (front ++ (network.toList ++ back)) ≤
        occurrences kind.word front +
          occurrences kind.word back

theorem occurrences_name {name : List Char} (front back : List Char)
    (kind : Placeholder) :
    occurrences kind.word front + occurrences kind.word back ≤
      occurrences kind.word (front ++ (name ++ back)) := by
  have outer := @occurrences_append_le _ _ kind.word front (name ++ back)
  have inner := @occurrences_append_le _ _ kind.word name back
  omega

theorem occurrences_word (kind other : Placeholder) (text : List Char) :
    occurrences other.word (kind.word ++ text) =
      (if other = kind then 1 else 0) + occurrences other.word text := by
  rw [occurrences_word_append kind.marked other.marked]
  congr 1
  refine if_congr ⟨fun shown => ?_, fun same => ?_⟩ rfl rfl
  · by_contra different
    exact Placeholder.not_isPrefix different text shown
  · rw [same]
    exact List.prefix_append kind.word text

section Filling

variable {value : Placeholder → List Char} {pending : Placeholder → Bool}
  {kind other : Placeholder} {text : List Char}

/-- One kind of placeholder filled in, if that is still to be done. -/
def fillFirst (value : Placeholder → List Char) (pending : Placeholder → Bool)
    (kind : Placeholder) (text : List Char) : List Char :=
  if pending kind then
    (replaceFirst kind.word (value kind) text).getD text
  else
    text

def fillAll (value : Placeholder → List Char) (pending : Placeholder → Bool)
    (text : List Char) : List Char :=
  fillFirst value pending .slaveName (fillFirst value pending .slaveAddress
    (fillFirst value pending .network text))

theorem fillFirst_cases : fillFirst value pending kind text = text ∧
        (pending kind = true → occurrences kind.word text = 0) ∨
      pending kind = true ∧ ∃ front back, text = front ++ (kind.word ++ back) ∧
        fillFirst value pending kind text = front ++ (value kind ++ back) := by
  rw [fillFirst]
  split
  · rename_i open_
    cases replaced : replaceFirst kind.word (value kind) text with
    | none => exact .inl ⟨rfl, fun _ => replaceFirst_none replaced⟩
    | some filled =>
      obtain ⟨front, back, split, same⟩ := replaceFirst_some replaced
      exact .inr ⟨open_, front, back, split, same⟩
  · rename_i done
    exact .inl ⟨rfl, fun open_ => absurd open_ done⟩

theorem fillFirst_congr {shown : Placeholder → List Char}
    (same : value kind = shown kind ∨ occurrences kind.word text = 0) :
    fillFirst value pending kind text = fillFirst shown pending kind text := by
  rcases same with same | absent
  · rw [fillFirst, fillFirst, same]
  · have kept (value : Placeholder → List Char) :
        fillFirst value pending kind text = text := by
      rcases @fillFirst_cases value pending kind text with
        ⟨same, _⟩ | ⟨_, front, back, split, _⟩
      · exact same
      · have inner := @occurrences_append_le _ _ kind.word front
          (kind.word ++ back)
        rw [occurrences_word, if_pos rfl, ← split] at inner
        omega
    rw [kept, kept]

theorem occurrences_fillFirst (different : other ≠ kind) :
    occurrences other.word text ≤
      occurrences other.word (fillFirst value pending kind text) := by
  rcases @fillFirst_cases value pending kind text with
    ⟨same, _⟩ | ⟨_, front, back, rfl, same⟩
  · rw [same]
  · rw [same, occurrences_other kind.marked other.marked
      ⟨Placeholder.incomparable different,
        Placeholder.incomparable different.symm⟩]
    exact occurrences_name front back other

theorem fillFirst_cons {letter : Char} (absent : pending kind = true →
      ¬kind.word <+: letter :: text) :
    fillFirst value pending kind (letter :: text) =
      letter :: fillFirst value pending kind text := by
  rw [fillFirst, fillFirst]
  split
  · rename_i open_
    rw [replaceFirst, if_neg (by simpa using absent open_)]
    cases replaceFirst kind.word (value kind) text <;> rfl
  · rfl

theorem fillFirst_append {front : List Char} (unmarked : '$' ∉ front) :
    fillFirst value pending kind (front ++ text) =
      front ++ fillFirst value pending kind text := by
  induction front with
  | nil => rfl
  | cons letter front induction =>
    obtain ⟨here, later⟩ := not_or.mp (mt List.mem_cons.mpr unmarked)
    rw [List.cons_append, fillFirst_cons fun _ shown =>
      here (kind.marked.letter_eq shown), induction later]
    rfl

theorem fillFirst_word (open_ : pending kind = true) :
    fillFirst value pending kind (kind.word ++ text) = value kind ++ text := by
  obtain ⟨tail, shape, _⟩ := kind.marked.eq_cons
  rw [fillFirst, if_pos open_, shape, List.cons_append, replaceFirst, if_pos]
  · simp
  · simp

theorem fillFirst_other (different : kind ≠ other) :
    fillFirst value pending kind (other.word ++ text) =
      other.word ++ fillFirst value pending kind text := by
  obtain ⟨tail, shape, unmarked⟩ := other.marked.eq_cons
  have absent : ¬kind.word <+: other.word ++ text :=
    Placeholder.not_isPrefix different text
  rw [shape, List.cons_append] at absent
  rw [shape, List.cons_append, List.cons_append,
    fillFirst_cons fun _ => absent, fillFirst_append unmarked]

theorem fillFirst_passes {front : List Char} (absent : pending kind = true →
      occurrences kind.word (front ++ text) ≤ occurrences kind.word text) :
    fillFirst value pending kind (front ++ text) =
      front ++ fillFirst value pending kind text := by
  induction front with
  | nil => rfl
  | cons letter front induction =>
    have fewer := @occurrences_append_le _ _ kind.word front text
    rw [List.cons_append, fillFirst_cons, induction]
    · rfl
    · intro open_
      have counted := absent open_
      rw [List.cons_append, occurrences] at counted
      omega
    · intro open_ shown
      have counted := absent open_
      rw [List.cons_append, occurrences, if_pos shown] at counted
      omega

theorem substitute_letter {letter : Char} (absent : ∀ kind : Placeholder,
      ¬kind.word <+: letter :: text) :
    substitute (topicFills value) 0 (letter :: text) =
      letter :: substitute (topicFills value) 0 text := by
  have none : (topicFills value).find? (fun fill =>
      fill.1 <+: letter :: text) = none := by
    simp [topicFills, absent]
  rw [substitute, none]

theorem substitute_word (kind : Placeholder) (text : List Char) :
    substitute (topicFills value) 0 (kind.word ++ text) =
      value kind ++ substitute (topicFills value) 0 text := by
  obtain ⟨tail, shape, _⟩ := kind.marked.eq_cons
  have found : (topicFills value).find? (fun fill =>
      fill.1 <+: kind.word ++ text) =
        some (kind.word, value kind) := by
    have others : ∀ other : Placeholder, other ≠ kind →
        ¬other.word <+: kind.word ++ text :=
      fun other different => Placeholder.not_isPrefix different text
    cases kind <;> simp [topicFills, others]
  rw [shape, List.cons_append] at found ⊢
  rw [substitute, found]
  exact congrArg (value kind ++ ·) (substitute_skip tail text)

end Filling

theorem template_induction {property : List Char → Prop} (nil : property [])
    (letter : ∀ letter text,
      (∀ kind : Placeholder, ¬kind.word <+: letter :: text) →
      property text → property (letter :: text))
    (word : ∀ (kind : Placeholder) text,
      property text → property (kind.word ++ text))
    (text : List Char) : property text := by
  induction size : text.length using Nat.strong_induction_on
    generalizing text with
  | h _ induction =>
    cases text with
    | nil => exact nil
    | cons first rest =>
      by_cases shown : ∃ kind : Placeholder,
          kind.word <+: first :: rest
      · obtain ⟨kind, back, same⟩ := shown
        obtain ⟨tail, shape, _⟩ := kind.marked.eq_cons
        rw [← same] at size ⊢
        refine word kind back (induction back.length ?_ back rfl)
        rw [← size, shape, List.length_append, List.length_cons]
        omega
      · refine letter first rest (fun kind starts =>
          shown ⟨kind, starts⟩) (induction rest.length ?_ rest rfl)
        rw [← size]
        exact Nat.lt_succ_self _

theorem substitute_congr {value shown : Placeholder → List Char}
    {text : List Char}
    (same : ∀ kind : Placeholder, value kind = shown kind ∨
        occurrences kind.word text = 0) :
    substitute (topicFills value) 0 text =
      substitute (topicFills shown) 0 text := by
  induction text using template_induction with
  | nil => rw [substitute, substitute]
  | letter letter text absent induction =>
    rw [substitute_letter absent, substitute_letter absent, induction]
    intro kind
    have counted := same kind
    rwa [occurrences, if_neg (absent kind), Nat.zero_add] at counted
  | word kind text induction =>
    rw [substitute_word, substitute_word, induction]
    · have here := same kind
      rw [occurrences_word, if_pos rfl] at here
      rw [here.resolve_right (by omega)]
    · intro other
      refine (same other).imp_right fun counted => ?_
      rw [occurrences_word] at counted
      omega

/-- The template can be filled in, when only some placeholders are still to be
done. -/
structure Fillable (name : List Char) (pending : Placeholder → Bool)
    (text : List Char) : Prop where
  once : ∀ kind : Placeholder, occurrences kind.word text ≤
    if pending kind then 1 else 0
  kept : pending .network = true → ∀ front back,
    text = front ++ (Placeholder.network.word ++ back) →
    ∀ kind : Placeholder, kind ≠ .network →
      pending kind = true →
      0 < occurrences kind.word front ∨
      occurrences kind.word (front ++ (name ++ back)) ≤
        occurrences kind.word front +
          occurrences kind.word back

section Fillable

variable {name : List Char} {pending : Placeholder → Bool} {text : List Char}

theorem occurrences_of_isPrefix {kind other : Placeholder}
    {letter : Char} {front back : List Char}
    (starts : kind.word <+: letter :: (front ++ back))
    (ends : ¬kind.word <+: letter :: front) :
    occurrences other.word front = 0 := by
  obtain ⟨tail, shape, unmarked⟩ := kind.marked.eq_cons
  rcases List.prefix_or_prefix_of_prefix starts
    (List.prefix_append (letter :: front) back) with inside | around
  · exact absurd inside ends
  · rw [shape] at around
    obtain ⟨_, within⟩ := List.cons_prefix_cons.mp around
    have absent : ∀ char ∈ front, other.word.head? ≠ some char := by
      intro char listed same
      rw [other.marked.head] at same
      cases same
      exact unmarked (within.subset listed)
    have none := occurrences_append_of_absent
      (List.ne_nil_of_mem (List.mem_of_head? other.marked.head)) absent []
    rwa [List.append_nil] at none

theorem fillable_letter {letter : Char} (absent : ∀ kind : Placeholder,
      ¬kind.word <+: letter :: text) :
    Fillable name pending (letter :: text) ↔ Fillable name pending text ∧
      (pending .network = true → ∀ front back,
        text = front ++ (Placeholder.network.word ++ back) →
        ∀ kind : Placeholder, kind ≠ .network → pending kind = true →
          ¬kind.word <+: letter :: (front ++ (name ++ back))) := by
  have same : ∀ kind : Placeholder,
      occurrences kind.word (letter :: text) =
        occurrences kind.word text := by
    intro kind
    rw [occurrences, if_neg (absent kind), Nat.zero_add]
  have fronts : ∀ front back, text = front ++ back →
      ∀ kind : Placeholder, ¬kind.word <+: letter :: front := by
    rintro front back rfl kind shown
    exact absent kind
      (shown.trans (List.prefix_append (letter :: front) back))
  constructor
  · intro fillable
    refine ⟨⟨fun kind => (same kind) ▸ fillable.once kind,
      ?_⟩, ?_⟩
    · intro open_ front back split kind different pendingHere
      have kept := fillable.kept open_ (letter :: front) back
        (by rw [split]; rfl) kind different pendingHere
      rw [List.cons_append, occurrences, occurrences,
        if_neg (fronts front _ split kind)] at kept
      omega
    · intro open_ front back split kind different pendingHere starts
      have kept := fillable.kept open_ (letter :: front) back
        (by rw [split]; rfl) kind different pendingHere
      rw [List.cons_append, occurrences, occurrences,
        if_neg (fronts front _ split kind), if_pos starts] at kept
      have none := @occurrences_of_isPrefix kind kind _ _ _
        starts (fronts front _ split kind)
      have more := @occurrences_name name front back kind
      omega
  · rintro ⟨fillable, made⟩
    refine ⟨fun kind => (same kind).symm ▸
      fillable.once kind, ?_⟩
    intro open_ front back split kind different pendingHere
    cases front with
    | nil =>
      exact absurd (split ▸ List.prefix_append _ back) (absent .network)
    | cons first front =>
      obtain ⟨rfl, rest⟩ := List.cons.inj split
      have kept := fillable.kept open_ front back rest kind different
        pendingHere
      rw [List.cons_append, occurrences, occurrences,
        if_neg (fronts front _ rest kind),
        if_neg (made open_ front back rest kind different pendingHere)]
      omega

theorem split_word {kind other : Placeholder} {front back : List Char}
    (split : kind.word ++ text = front ++ (other.word ++ back)) :
    front = [] ∧ kind = other ∧ text = back ∨
      ∃ rest, front = kind.word ++ rest ∧
        text = rest ++ (other.word ++ back) := by
  rcases List.append_eq_append_iff.mp split with
    ⟨rest, behind, same⟩ | ⟨middle, inside, same⟩
  · exact .inr ⟨rest, behind, same⟩
  · cases front with
    | nil =>
      rw [List.nil_append] at inside
      subst inside
      have equal : other = kind := by
        by_contra different
        exact Placeholder.not_isPrefix different text
          (same ▸ List.prefix_append other.word back)
      subst equal
      exact .inl ⟨rfl, rfl, (List.append_cancel_left same).symm⟩
    | cons first front =>
      cases middle with
      | nil =>
        rw [List.append_nil] at inside
        exact .inr ⟨[], by rw [inside, List.append_nil], same.symm⟩
      | cons letter middle =>
        obtain ⟨tail, shape, unmarked⟩ := kind.marked.eq_cons
        have mark := other.marked.letter_eq
          (show other.word <+: letter :: (middle ++ text) from ⟨back, same⟩)
        rw [shape] at inside
        rw [(List.cons.inj inside).2, mark] at unmarked
        simp at unmarked

theorem once_word (kind : Placeholder) :
    (∀ other : Placeholder, occurrences other.word (kind.word ++ text) ≤
        if pending other then 1 else 0) ↔
      pending kind = true ∧ ∀ other : Placeholder,
        occurrences other.word text ≤
          if Function.update pending kind false other then 1 else 0 := by
  constructor
  · intro once
    have open_ : pending kind = true := by
      have here := once kind
      rw [occurrences_word, if_pos rfl] at here
      by_contra closed
      rw [if_neg closed] at here
      omega
    refine ⟨open_, fun other => ?_⟩
    have here := once other
    rw [occurrences_word] at here
    by_cases same : other = kind
    · rw [same, Function.update_self, if_neg Bool.false_ne_true]
      rw [if_pos same, same, if_pos open_] at here
      omega
    · rw [Function.update_of_ne same]
      rwa [if_neg same, Nat.zero_add] at here
  · rintro ⟨open_, once⟩ other
    have here := once other
    rw [occurrences_word]
    by_cases same : other = kind
    · rw [same, Function.update_self, if_neg Bool.false_ne_true] at here
      rw [if_pos same, same, if_pos open_]
      omega
    · rw [Function.update_of_ne same] at here
      rwa [if_neg same, Nat.zero_add]

theorem fillable_word (kind : Placeholder) :
    Fillable name pending (kind.word ++ text) ↔ pending kind = true ∧
      Fillable name (Function.update pending kind false) text ∧
      (kind = .network → ∀ other : Placeholder, other ≠ .network →
        pending other = true →
        occurrences other.word (name ++ text) ≤
          occurrences other.word text) := by
  constructor
  · intro fillable
    obtain ⟨open_, once⟩ := (once_word kind).mp fillable.once
    refine ⟨open_, ⟨once, ?_⟩, ?_⟩
    · rintro openNetwork front back rfl other different openOther
      have apart : other ≠ kind := by
        rintro rfl
        rw [Function.update_self] at openOther
        cases openOther
      have network : Placeholder.network ≠ kind := by
        rintro rfl
        rw [Function.update_self] at openNetwork
        cases openNetwork
      rw [Function.update_of_ne network] at openNetwork
      rw [Function.update_of_ne apart] at openOther
      have kept := fillable.kept openNetwork (kind.word ++ front) back
        (by rw [List.append_assoc]) other different openOther
      simpa only [List.append_assoc, occurrences_word, if_neg apart,
        Nat.zero_add] using kept
    · rintro rfl other different openOther
      have kept := fillable.kept open_ [] text rfl other different openOther
      simpa [occurrences] using kept
  · rintro ⟨open_, fillable, named⟩
    refine ⟨(once_word kind).mpr ⟨open_, fillable.once⟩, ?_⟩
    intro openNetwork front back split other different openOther
    rcases split_word split with ⟨rfl, rfl, rfl⟩ | ⟨rest, rfl, rfl⟩
    · right
      have kept := named rfl other different openOther
      simpa [occurrences] using kept
    · by_cases same : other = kind
      · left
        rw [same, occurrences_word, if_pos rfl]
        omega
      · by_cases network : kind = .network
        · have once := fillable.once .network
          have inner := @occurrences_append_le _ _
            Placeholder.network.word rest (Placeholder.network.word ++ back)
          rw [network, Function.update_self,
            if_neg Bool.false_ne_true] at once
          rw [occurrences_word, if_pos rfl] at inner
          omega
        · have kept := fillable.kept
            (by rwa [Function.update_of_ne (Ne.symm network)]) rest back rfl
            other different (by rwa [Function.update_of_ne same])
          simpa only [List.append_assoc, occurrences_word, if_neg same,
            Nat.zero_add] using kept

end Fillable

section Sequence

variable {value : Placeholder → List Char} {pending : Placeholder → Bool}
  {text : List Char}

theorem fillFirst_update_self (kind : Placeholder) :
    fillFirst value (Function.update pending kind false) kind text = text := by
  rw [fillFirst, Function.update_self, if_neg Bool.false_ne_true]

theorem fillFirst_update {kind other : Placeholder} (different : other ≠ kind) :
    fillFirst value (Function.update pending kind false) other text =
      fillFirst value pending other text := by
  rw [fillFirst, fillFirst, Function.update_of_ne different]

theorem split_unique {kind : Placeholder}
    {front back otherFront otherBack : List Char}
    (once : occurrences kind.word (front ++ (kind.word ++ back)) ≤ 1)
    (same : front ++ (kind.word ++ back) =
      otherFront ++ (kind.word ++ otherBack)) :
    front = otherFront ∧ back = otherBack := by
  have apart {front back middle later : List Char}
      (once : occurrences kind.word
        (front ++ (kind.word ++ back)) ≤ 1)
      (split : kind.word ++ back =
        middle ++ (kind.word ++ later)) :
      middle = [] ∧ back = later := by
    rcases split_word split with ⟨rfl, _, rfl⟩ | ⟨rest, rfl, rfl⟩
    · exact ⟨rfl, rfl⟩
    · have outer := @occurrences_append_le _ _ kind.word front
        (kind.word ++ (rest ++ (kind.word ++ later)))
      have inner := @occurrences_append_le _ _ kind.word rest
        (kind.word ++ later)
      rw [occurrences_word, if_pos rfl] at outer inner
      omega
  rcases List.append_eq_append_iff.mp same with
    ⟨middle, rfl, split⟩ | ⟨middle, rfl, split⟩
  · obtain ⟨rfl, rfl⟩ := apart once split
    exact ⟨(List.append_nil _).symm, rfl⟩
  · rw [same] at once
    obtain ⟨rfl, rfl⟩ := apart once split
    exact ⟨List.append_nil _, rfl⟩

theorem fillFirst_of_split {kind : Placeholder} {front back : List Char}
    (open_ : pending kind = true) (once : occurrences kind.word text ≤ 1)
    (split : text = front ++ (kind.word ++ back)) :
    fillFirst value pending kind text = front ++ (value kind ++ back) := by
  rcases @fillFirst_cases value pending kind text with
    ⟨_, none⟩ | ⟨_, otherFront, otherBack, otherSplit, filled⟩
  · have found := none open_
    have inner := @occurrences_append_le _ _ kind.word front
      (kind.word ++ back)
    rw [occurrences_word, if_pos rfl, ← split] at inner
    omega
  · rw [otherSplit] at once split
    obtain ⟨rfl, rfl⟩ := split_unique once split
    exact filled

section Number

variable (number : value .slaveAddress ≠ [])
  (unlike : ∀ char ∈ value .slaveAddress, ∀ kind : Placeholder,
    char ∉ kind.word)

include number unlike

theorem occurrences_number (kind : Placeholder) (front back : List Char) :
    occurrences kind.word (front ++ (value .slaveAddress ++ back)) =
      occurrences kind.word front + occurrences kind.word back := by
  have behind : occurrences kind.word (value .slaveAddress ++ back) =
      occurrences kind.word back := by
    refine occurrences_append_of_absent
      (List.ne_nil_of_mem (List.mem_of_head? kind.marked.head)) ?_ back
    intro char listed head
    exact unlike char listed kind (List.mem_of_head? head)
  rw [← behind]
  obtain ⟨first, rest, shape⟩ := List.exists_cons_of_ne_nil number
  rw [shape] at unlike ⊢
  refine occurrences_append_of_head ?_ front (rest ++ back)
  intro inTail
  exact unlike first List.mem_cons_self kind
    (List.mem_of_mem_tail inTail)

theorem not_isPrefix_number {letter : Char} {kind : Placeholder}
    (absent : ¬kind.word <+: letter :: text) :
    ¬kind.word <+: letter :: fillFirst value pending .slaveAddress text := by
  rcases @fillFirst_cases value pending .slaveAddress text with
    ⟨same, _⟩ | ⟨_, front, back, rfl, same⟩
  · rwa [same]
  · rw [same]
    intro shown
    obtain ⟨first, rest, shape⟩ := List.exists_cons_of_ne_nil number
    have ends : kind.word <+: letter :: front := by
      rcases List.prefix_or_prefix_of_prefix shown
        (List.prefix_append (letter :: front) _) with inside | around
      · exact inside
      · obtain ⟨more, same⟩ := around
        cases more with
        | nil => exact ⟨[], by rw [← same]; simp⟩
        | cons next more =>
          rw [← same, shape] at shown
          have next : next = first := by
            have letters := (List.prefix_append_right_inj
              (letter :: front)).mp shown
            exact (List.cons_prefix_cons.mp letters).1
          refine absurd ?_ (unlike first (by simp [shape]) kind)
          rw [← same, next]
          simp
    exact absent (ends.trans (List.prefix_append (letter :: front) _))

/-- A placeholder at the front is filled in, and the others behind it. -/
theorem fillAll_word (kind : Placeholder) (open_ : pending kind = true)
    (named : kind = .network → ∀ other : Placeholder,
      other ≠ .network → pending other = true →
      occurrences other.word (value .network ++ text) ≤
        occurrences other.word text) :
    fillAll value pending (kind.word ++ text) = value kind ++
        fillAll value (Function.update pending kind false) text := by
  have unmarked : '$' ∉ value .slaveAddress := fun listed =>
    unlike '$' listed .network (by decide)
  cases kind with
  | network =>
    have later : pending .slaveName = true →
        occurrences Placeholder.slaveName.word (value .network ++
          fillFirst value pending .slaveAddress text) ≤
        occurrences Placeholder.slaveName.word
          (fillFirst value pending .slaveAddress text) := by
      intro openName
      have counted := named rfl .slaveName (by decide) openName
      rcases @fillFirst_cases value pending .slaveAddress text with
        ⟨same, _⟩ | ⟨_, front, back, rfl, same⟩
      · rwa [same]
      · have other (front : List Char) :=
          @occurrences_other _ _ _ _ _ front back
            Placeholder.slaveAddress.marked Placeholder.slaveName.marked
            ⟨Placeholder.incomparable (by decide),
              Placeholder.incomparable (by decide)⟩
        rw [← List.append_assoc, other, other] at counted
        rwa [same, ← List.append_assoc,
          occurrences_number number unlike, occurrences_number number unlike]
    rw [fillAll, fillAll, fillFirst_word open_, fillFirst_passes
      (named rfl .slaveAddress (by decide)), fillFirst_passes later,
      fillFirst_update_self, fillFirst_update (by decide),
      fillFirst_update (by decide)]
  | slaveAddress =>
    rw [fillAll, fillAll, fillFirst_other (by decide), fillFirst_word open_,
      fillFirst_append unmarked, fillFirst_update_self,
      fillFirst_update (by decide), fillFirst_update (by decide)]
  | slaveName =>
    rw [fillAll, fillAll, fillFirst_other (by decide),
      fillFirst_other (by decide), fillFirst_word open_,
      fillFirst_update_self, fillFirst_update (by decide),
      fillFirst_update (by decide)]

theorem fillAll_letter {letter : Char}
    (absent : ¬Placeholder.network.word <+: letter :: text)
    (made : ∀ kind : Placeholder, kind ≠ .network → pending kind = true →
      ¬kind.word <+: letter :: fillFirst value pending .network text) :
    fillAll value pending (letter :: text) =
      letter :: fillAll value pending text := by
  rw [fillAll, fillAll, fillFirst_cons fun _ => absent,
    fillFirst_cons (made .slaveAddress (by decide)), fillFirst_cons]
  intro openName
  exact not_isPrefix_number number unlike
    (made .slaveName (by decide) openName)

theorem fillAll_of_fillable
    (fillable : Fillable (value .network) pending text) :
    fillAll value pending text = substitute (topicFills value) 0 text := by
  induction text using template_induction generalizing pending with
  | nil => simp [fillAll, fillFirst, replaceFirst, substitute]
  | letter letter text absent induction =>
    obtain ⟨rest, made⟩ := (fillable_letter absent).mp fillable
    rw [fillAll_letter number unlike (absent .network), induction rest,
      substitute_letter absent]
    intro kind different open_
    rcases @fillFirst_cases value pending .network text with
      ⟨same, _⟩ | ⟨openNetwork, front, back, split, same⟩
    · rw [same]
      exact absent kind
    · rw [same]
      exact made openNetwork front back split kind different open_
  | word kind text induction =>
    obtain ⟨open_, rest, named⟩ := (fillable_word kind).mp fillable
    rw [fillAll_word number unlike kind open_ named, induction rest,
      substitute_word]

/-- Values without a mark show where a placeholder was filled in. -/
theorem fillable_of_fillAll (plain : ∀ kind, value kind ≠ [] ∧ '$' ∉ value kind)
    (same : fillAll value pending text = substitute (topicFills value) 0 text) :
    Fillable (value .network) pending text := by
  have marks {kind : Placeholder} {rest more : List Char}
      (same : '$' :: rest = value kind ++ more) : False := by
    obtain ⟨filled, unmarked⟩ := plain kind
    obtain ⟨first, tail, shape⟩ := List.exists_cons_of_ne_nil filled
    rw [shape] at same unmarked
    exact unmarked ((List.cons.inj same).1 ▸ List.mem_cons_self)
  induction text using template_induction generalizing pending with
  | nil =>
    refine ⟨fun _ => Nat.zero_le _, fun _ front back split => ?_⟩
    obtain ⟨tail, shape, _⟩ := Placeholder.network.marked.eq_cons
    rw [shape] at split
    simp at split
  | letter letter text absent induction =>
    rw [substitute_letter absent] at same
    have unmade : ∀ kind : Placeholder, kind ≠ .network →
        pending kind = true →
        ¬kind.word <+:
          letter :: fillFirst value pending .network text := by
      rintro kind different open_ ⟨more, shown⟩
      have mark := kind.marked.letter_eq ⟨more, shown⟩
      rw [fillAll, fillFirst_cons fun _ => absent .network, ← shown,
        ← mark] at same
      cases kind with
      | network => exact different rfl
      | slaveAddress =>
        rw [fillFirst_word open_,
          fillFirst_append (plain .slaveAddress).2] at same
        exact marks same.symm
      | slaveName =>
        rw [fillFirst_other (by decide), fillFirst_word open_] at same
        exact marks same.symm
    rw [fillAll_letter number unlike (absent .network) unmade] at same
    have rest := induction (List.cons.inj same).2
    refine (fillable_letter absent).mpr ⟨rest, ?_⟩
    intro openNetwork front back split kind different open_
    have once := rest.once .network
    rw [if_pos openNetwork] at once
    rw [← fillFirst_of_split openNetwork once split]
    exact unmade kind different open_
  | word kind text induction =>
    have named (other : Placeholder) :
        occurrences other.word (value .network ++ text) ≤
          occurrences other.word text := by
      refine le_of_eq (occurrences_append_of_absent
        (List.ne_nil_of_mem (List.mem_of_head? other.marked.head)) ?_ text)
      intro char listed head
      rw [other.marked.head] at head
      cases head
      exact (plain .network).2 listed
    rw [substitute_word] at same
    by_cases open_ : pending kind = true
    · rw [fillAll_word number unlike kind open_
        fun _ other _ _ => named other] at same
      exact (fillable_word kind).mpr ⟨open_,
        induction (List.append_cancel_left same),
        fun _ other _ _ => named other⟩
    · have kept (other : Placeholder) (text : List Char) :
          fillFirst value pending other (kind.word ++ text) =
            kind.word ++ fillFirst value pending other text := by
        by_cases equal : other = kind
        · rw [fillFirst, fillFirst, equal, if_neg open_, if_neg open_]
        · exact fillFirst_other equal
      obtain ⟨tail, shape, _⟩ := kind.marked.eq_cons
      rw [fillAll, kept, kept, kept, shape] at same
      exact (marks same).elim

end Number

end Sequence

variable {topic template network slaveName : String} {slave : Int}

variable {kind next : String} {value : List Char} {check : Except String Unit}

theorem fillPlaceholder_toList
    (filled : fillPlaceholder kind value check topic = .ok next) :
    next.toList = (replaceFirst kind.toList value topic.toList).getD
        topic.toList := by
  rw [fillPlaceholder] at filled
  split at filled
  · rename_i kept
    cases filled
    rw [kept]
    rfl
  · rename_i text replaced
    cases check with
    | error message => cases filled
    | ok _ =>
      cases filled
      rw [replaced, String.toList_ofList]
      rfl

theorem fillTopic_toList
    (filled : fillTopic template network slave slaveName = .ok topic) :
    topic.toList = fillAll (topicValue network slave slaveName)
      (fun _ => true) template.toList := by
  obtain ⟨named, namedFilled, filled⟩ := exists_of_bind filled
  obtain ⟨addressed, addressedFilled, filled⟩ := exists_of_bind filled
  have first : named.toList = _ := fillPlaceholder_toList namedFilled
  have second : addressed.toList = _ := fillPlaceholder_toList addressedFilled
  have third : topic.toList = _ := fillPlaceholder_toList filled
  rw [third, second, first]
  rfl

theorem number_topicValue (network slaveName : String) (slave : Int) :
    topicValue network slave slaveName .slaveAddress ≠ [] ∧
      ∀ char ∈ topicValue network slave slaveName .slaveAddress,
        ∀ kind : Placeholder, char ∉ kind.word := by
  refine ⟨intText_ne_nil slave, ?_⟩
  intro char listed kind shown
  have letters : ∀ char ∈ kind.word,
      (char != '-' && !isDigitOf 10 char) = true := by
    cases kind <;> exact List.all_eq_true.mp rfl
  have letter := letters char shown
  rcases cases_of_mem_intText listed with rfl | digit
  · cases letter
  · rw [digit, Bool.not_true, Bool.and_false] at letter
    cases letter

theorem fillable_iff : Fillable network.toList (fun _ => true) template.toList ↔
      PlainTemplate template network := by
  constructor
  · intro fillable
    exact ⟨fillable.once, fun front back split kind different =>
      fillable.kept rfl front back split kind different rfl⟩
  · intro plain
    exact ⟨plain.once, fun _ front back split kind different _ =>
      plain.kept front back split kind different⟩

theorem fillTopic_eq (plain : PlainTemplate template network)
    (filled : fillTopic template network slave slaveName = .ok topic) :
    topic = substitutedTopic template network slave slaveName := by
  obtain ⟨number, unlike⟩ := number_topicValue network slaveName slave
  apply String.toList_inj.mp
  rw [fillTopic_toList filled, substitutedTopic, String.toList_ofList]
  exact fillAll_of_fillable number unlike (fillable_iff.mpr plain)

theorem fillPlaceholder_refused
    (filled : fillPlaceholder kind value check topic = .ok next)
    (refused : check ≠ .ok ()) :
    replaceFirst kind.toList value topic.toList = none := by
  rw [fillPlaceholder] at filled
  split at filled
  · assumption
  · cases check with
    | error message => cases filled
    | ok _ => exact absurd rfl refused

theorem fillTopic_missing
    (filled : fillTopic template network slave slaveName = .ok topic) :
    let value := topicValue network slave slaveName
    (network = "" → occurrences Placeholder.network.word template.toList = 0) ∧
    (slaveName = "" → occurrences Placeholder.slaveName.word
      (fillFirst value (fun _ => true) .slaveAddress
        (fillFirst value (fun _ => true) .network template.toList)) = 0) := by
  obtain ⟨named, namedFilled, filled⟩ := exists_of_bind filled
  obtain ⟨addressed, addressedFilled, filled⟩ := exists_of_bind filled
  have first : named.toList = _ := fillPlaceholder_toList namedFilled
  have second : addressed.toList = _ := fillPlaceholder_toList addressedFilled
  refine ⟨fun missing => ?_, fun missing => ?_⟩
  · exact replaceFirst_none
      (fillPlaceholder_refused namedFilled (by simp [missing]))
  · have none := replaceFirst_none (fillPlaceholder_refused filled (by
      rw [missing]
      split
      · simp
      · split <;> simp))
    rw [second, first] at none
    exact none

theorem plainTemplate_of_eq (unmarkedNetwork : '$' ∉ network.toList)
    (unmarkedName : '$' ∉ slaveName.toList)
    (filled : fillTopic template network slave slaveName = .ok topic)
    (same : topic = substitutedTopic template network slave slaveName) :
    PlainTemplate template network := by
  let value := topicValue network slave slaveName
  let shown : Placeholder → List Char := fun kind =>
    if value kind = [] then ['x'] else value kind
  obtain ⟨number, unlike⟩ := number_topicValue network slaveName slave
  obtain ⟨noNetwork, noName⟩ := fillTopic_missing filled
  have kept (kind : Placeholder) :
      value kind = shown kind ∨ value kind = [] := by
    by_cases missing : value kind = []
    · exact .inr missing
    · exact .inl (if_neg missing).symm
  have address : shown .slaveAddress = value .slaveAddress := if_neg number
  have plain (kind : Placeholder) :
      shown kind ≠ [] ∧ '$' ∉ shown kind := by
    have unmarked : '$' ∉ value kind := by
      cases kind with
      | network => exact unmarkedNetwork
      | slaveAddress => exact fun listed => unlike '$' listed .network (by decide)
      | slaveName => exact unmarkedName
    by_cases missing : value kind = []
    · simp [shown, missing]
    · simp only [shown, if_neg missing]
      exact ⟨missing, unmarked⟩
  have network := (kept .network).imp_right fun missing =>
    noNetwork (String.toList_eq_nil_iff.mp missing)
  have name := (kept .slaveName).imp_right fun missing =>
    noName (String.toList_eq_nil_iff.mp missing)
  have all : fillAll shown (fun _ => true) template.toList =
      fillAll value (fun _ => true) template.toList := by
    rw [fillAll, fillAll, ← fillFirst_congr network,
      ← fillFirst_congr (.inl address.symm), ← fillFirst_congr name]
  have atOnce : substitute (topicFills shown) 0 template.toList =
      substitute (topicFills value) 0 template.toList := by
    refine (substitute_congr fun kind => ?_).symm
    cases kind with
    | network => exact network
    | slaveAddress => exact .inl address.symm
    | slaveName =>
      rcases name with given | absent
      · exact .inl given
      · have kept : occurrences Placeholder.slaveName.word template.toList ≤
            occurrences Placeholder.slaveName.word
              (fillFirst value (fun _ => true) .slaveAddress
                (fillFirst value (fun _ => true) .network
                  template.toList)) :=
          (occurrences_fillFirst (by decide)).trans
            (occurrences_fillFirst (by decide))
        exact .inr (Nat.le_zero.mp (absent ▸ kept))
  have fillable := @fillable_of_fillAll shown (fun _ => true) template.toList
    (address ▸ number) (address ▸ unlike) plain (by
      rw [all, atOnce, ← fillTopic_toList filled, same, substitutedTopic,
        String.toList_ofList])
  refine ⟨fillable.once, fun front back split kind different => ?_⟩
  rcases network with given | absent
  · have named := fillable.kept rfl front back split kind different rfl
    rwa [← given] at named
  · have inner := @occurrences_append_le _ _ Placeholder.network.word front
      (Placeholder.network.word ++ back)
    rw [occurrences_word, if_pos rfl, ← split] at inner
    omega

theorem parseObject_topic {libraries : LoaderLibraries}
    {source : ObjectSource} {object : MqttObject}
    {declared : List Declaration}
    (parsing : parseObject libraries source slaveName =
      .ok (object, declared)) :
    ∃ template,
      ConfigTools.readRequiredString source.data "topic" = .ok template ∧
      fillTopic template source.network source.slave slaveName =
        .ok object.topic := by
  obtain ⟨template, given, parsing⟩ := exists_of_bind parsing
  obtain ⟨topic, filled, parsing⟩ := exists_of_bind parsing
  obtain ⟨_, _, parsing⟩ := exists_of_bind parsing
  obtain ⟨_, _, parsing⟩ := exists_of_bind parsing
  obtain ⟨_, _, parsing⟩ := exists_of_bind parsing
  obtain ⟨_, _, same⟩ := exists_of_bind parsing
  cases same
  exact ⟨template, given, filled⟩

/-- The topic of an object is its template with every placeholder replaced,
if no placeholder is repeated and the name of the network makes none appear.
For names without a mark this is exact. -/
theorem topic_substituted_iff {libraries : LoaderLibraries}
    {source : ObjectSource} {slaveName template : String}
    {object : MqttObject} {declared : List Declaration}
    (given : ConfigTools.readRequiredString source.data "topic" = .ok template)
    (parsing : parseObject libraries source slaveName =
      .ok (object, declared)) :
    (PlainTemplate template source.network →
      object.topic = substitutedTopic template source.network source.slave
        slaveName) ∧
    ('$' ∉ source.network.toList → '$' ∉ slaveName.toList →
      object.topic = substitutedTopic template source.network source.slave
        slaveName →
      PlainTemplate template source.network) := by
  obtain ⟨other, otherGiven, filled⟩ := parseObject_topic parsing
  rw [given] at otherGiven
  cases otherGiven
  exact ⟨fun plain => fillTopic_eq plain filled,
    fun unmarkedNetwork unmarkedName =>
      plainTemplate_of_eq unmarkedNetwork unmarkedName filled⟩

def topicSource (template network : String) : ObjectSource :=
  { data := .map [("topic", .scalar template)]
    network
    slave := 7
    refresh := 0
    publishMode := .onChange }

theorem topicSource_topic (filled : template ≠ "") (network : String) :
    ConfigTools.readRequiredString (topicSource template network).data
      "topic" = .ok template :=
  if_neg filled

theorem topic_substituted_meter : ∃ object declared,
    parseObject Loaded.numberLibraries
        (topicSource "$\x7bnetwork\x7d/$\x7bslave_address\x7d/$\x7bslave_name\x7d"
          "net") "north" = .ok (object, declared) ∧
      object.topic = substitutedTopic
        "$\x7bnetwork\x7d/$\x7bslave_address\x7d/$\x7bslave_name\x7d"
          "net" 7 "north" ∧
      object.topic = "net/7/north" := by
  have plain : PlainTemplate
      "$\x7bnetwork\x7d/$\x7bslave_address\x7d/$\x7bslave_name\x7d" "net" := by
    constructor
    · intro kind
      cases kind <;> decide +kernel
    · intro front back split kind _
      obtain ⟨rfl, rfl⟩ := @split_unique .network []
        "/$\x7bslave_address\x7d/$\x7bslave_name\x7d".toList front back
        (by decide +kernel) split
      cases kind <;> decide +kernel
  obtain ⟨⟨object, declared⟩, parsing, filled⟩ := exists_of_toOption_any
    (show ((parseObject Loaded.numberLibraries
        (topicSource "$\x7bnetwork\x7d/$\x7bslave_address\x7d/$\x7bslave_name\x7d"
          "net") "north").toOption.any fun parsed =>
      decide (parsed.1.topic = "net/7/north")) = true by decide +kernel)
  have substituted := (topic_substituted_iff
    (topicSource_topic (by decide) "net") parsing).1 plain
  exact ⟨object, declared, parsing, substituted, of_decide_eq_true filled⟩

/-- The second placeholder for the network is left, and a network whose name
looks like a placeholder is replaced by the name of the slave. -/
theorem topics_not_substituted : ((parseObject Loaded.numberLibraries
        (topicSource "a/$\x7bnetwork\x7d/b/$\x7bnetwork\x7d" "net")
        "north").toOption.map fun parsed => parsed.1.topic) =
      some "a/net/b/$\x7bnetwork\x7d" ∧
    substitutedTopic "a/$\x7bnetwork\x7d/b/$\x7bnetwork\x7d" "net" 7 "north" =
      "a/net/b/net" ∧
    ((parseObject Loaded.numberLibraries
        (topicSource "$\x7bnetwork\x7d/x" "$\x7bslave_name\x7d")
        "north").toOption.map fun parsed => parsed.1.topic) =
      some "north/x" ∧
    substitutedTopic "$\x7bnetwork\x7d/x" "$\x7bslave_name\x7d" 7 "north" =
      "$\x7bslave_name\x7d/x" := by
  decide +kernel

end ModMqtt

end MqmGateway
