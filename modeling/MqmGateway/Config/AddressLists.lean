import MqmGateway.Config.Numbers

/-!
# Lists of addresses

A list of slave addresses is a text of single numbers and ranges between
commas, with white space around them.  Here the lists are written out, and
compared with what the loader reads from the text.
-/

namespace MqmGateway

/-- An element of a list of addresses as it is written.  A range of one
address may be written as a range. -/
structure AddressElement where
  low : Int
  high : Int
  ranged : Bool
  before : Payload
  after : Payload
  nonnegative : 0 ≤ low
  ordered : low ≤ high
  int : high ≤ 2147483647
  single : ranged = false → high = low
  spacedBefore : ∀ char ∈ before, isSpace char = true
  spacedAfter : ∀ char ∈ after, isSpace char = true

namespace AddressElement

def pair (element : AddressElement) : Int × Int :=
  (element.low, element.high)

def number (element : AddressElement) : Payload :=
  if element.ranged then
    intText element.low ++ '-' :: intText element.high
  else
    intText element.low

def text (element : AddressElement) : Payload :=
  element.before ++ (element.number ++ element.after)

end AddressElement

def addressList (elements : List AddressElement) : Payload :=
  [','].intercalate (elements.map AddressElement.text)

theorem ne_null_of_isSpace {char : Char} (space : isSpace char = true) :
    char.toNat ≠ 0 := by
  simp only [isSpace, decide_eq_true_eq] at space
  omega

theorem isDigitOf_of_isSpace {char : Char} (space : isSpace char = true)
    (base : Nat) : isDigitOf base char = false := by
  by_contra digit
  have other := isSpace_of_isDigitOf (Bool.eq_true_of_not_eq_false digit)
  rw [space] at other
  cases other

namespace ConfigTools

section Texts

variable {before digits after : Payload}
  (spacedBefore : ∀ char ∈ before, isSpace char = true)
  (filled : digits ≠ [])
  (decimal : ∀ digit ∈ digits, isDigitOf 10 digit = true)

include spacedBefore filled decimal

theorem dropWhile_before (rest : Payload) :
    (before ++ (digits ++ rest)).dropWhile isSpace = digits ++ rest := by
  obtain ⟨first, others, rfl⟩ := List.exists_cons_of_ne_nil filled
  have visible := isSpace_of_isDigitOf (decimal first List.mem_cons_self)
  rw [List.dropWhile_append_of_pos spacedBefore, List.cons_append,
    List.dropWhile_cons_of_neg (by simp [visible])]

omit spacedBefore filled in
theorem span_digits {rest : Payload}
    (stops : ∀ char, rest.head? = some char → isDigitOf 10 char = false) :
    (digits ++ rest).takeWhile (isDigitOf 10) = digits ∧
      (digits ++ rest).dropWhile (isDigitOf 10) = rest := by
  rw [List.takeWhile_append_of_pos decimal,
    List.dropWhile_append_of_pos decimal]
  cases rest with
  | nil => exact ⟨List.append_nil digits, rfl⟩
  | cons char rest =>
    have other := stops char rfl
    rw [List.takeWhile_cons_of_neg (by simp [other]),
      List.dropWhile_cons_of_neg (by simp [other])]
    exact ⟨List.append_nil digits, rfl⟩

theorem toNumber_ok_iff
    (stops : ∀ char, after.head? = some char → isDigitOf 10 char = false)
    (int : digitsValue 10 digits ≤ 2147483647) (value : Int) :
    toNumber (before ++ (digits ++ after)) = .ok value ↔
      after = [] ∧ digitsValue 10 digits = value := by
  obtain ⟨whole, rest⟩ := span_digits decimal stops
  have unsigned : (digits ++ after).head? ≠ some '-' ∧
      (digits ++ after).head? ≠ some '+' := by
    obtain ⟨first, others, rfl⟩ := List.exists_cons_of_ne_nil filled
    exact head?_of_isDigitOf (decimal first List.mem_cons_self)
  have value_eq : digits.foldl (fun (value : Int) digit =>
      value * 10 + ((digitValue digit).getD 0 : Int)) 0 =
        digitsValue 10 digits := foldl_digits 10 digits
  rw [toNumber, dropWhile_before spacedBefore filled decimal,
    if_neg (not_or.mpr unsigned), whole, rest, value_eq]
  simp only [unsigned.1, if_false, List.isEmpty_iff, filled]
  rw [if_neg (by omega)]
  cases after <;> simp

theorem matchRange_of_range {others : Payload} (otherFilled : others ≠ [])
    (otherDecimal : ∀ digit ∈ others, isDigitOf 10 digit = true)
    (spacedAfter : ∀ char ∈ after, isSpace char = true) :
    matchRange (before ++ (digits ++ ('-' :: (others ++ after)))) =
      some (digits, others) := by
  obtain ⟨first, rest⟩ := span_digits decimal
    (show ∀ char, ('-' :: (others ++ after)).head? = some char →
        isDigitOf 10 char = false by simp [isDigitOf, digitValue])
  obtain ⟨second, ending⟩ := span_digits otherDecimal fun char starts =>
    isDigitOf_of_isSpace (spacedAfter char (List.mem_of_head? starts)) 10
  rw [matchRange, dropWhile_before spacedBefore filled decimal, first, rest]
  simp only [second, ending]
  rw [if_pos]
  simpa [filled, otherFilled] using spacedAfter

theorem matchRange_of_number
    (spacedAfter : ∀ char ∈ after, isSpace char = true) :
    matchRange (before ++ (digits ++ after)) = none := by
  obtain ⟨_, rest⟩ := span_digits decimal fun char starts =>
    isDigitOf_of_isSpace (spacedAfter char (List.mem_of_head? starts)) 10
  rw [matchRange, dropWhile_before spacedBefore filled decimal, rest]
  cases after with
  | nil => rfl
  | cons char after =>
    have other : char ≠ '-' := by
      rintro rfl
      cases spacedAfter _ List.mem_cons_self
    split
    · rename_i same
      cases same
      exact absurd rfl other
    · rfl

end Texts

end ConfigTools

namespace AddressElement

variable (element : AddressElement)

theorem char_cases {char : Char} (listed : char ∈ element.text) :
    isSpace char = true ∨ isDigitOf 10 char = true ∨ char = '-' := by
  obtain ⟨_, lowDecimal, _⟩ := intText_spec element.nonnegative
  obtain ⟨_, highDecimal, _⟩ :=
    intText_spec (element.nonnegative.trans element.ordered)
  rw [text, number] at listed
  rcases List.mem_append.mp listed with before | listed
  · exact .inl (element.spacedBefore char before)
  · rcases List.mem_append.mp listed with inNumber | after
    · split at inNumber
      · rcases List.mem_append.mp inNumber with inLow | inHigh
        · exact .inr (.inl (lowDecimal char inLow))
        · rcases List.mem_cons.mp inHigh with hyphen | inHigh
          · exact .inr (.inr hyphen)
          · exact .inr (.inl (highDecimal char inHigh))
      · exact .inr (.inl (lowDecimal char inNumber))
    · exact .inl (element.spacedAfter char after)

theorem ne_null {char : Char} (listed : char ∈ element.text) :
    char.toNat ≠ 0 := by
  rcases element.char_cases listed with space | digit | rfl
  · exact ne_null_of_isSpace space
  · have high := le_of_isDigitOf digit
    omega
  · decide

theorem comma_not_mem : ',' ∉ element.text := by
  intro listed
  rcases element.char_cases listed with space | digit | hyphen
  · cases space
  · cases digit
  · cases hyphen

theorem text_ne_nil : element.text ≠ [] := by
  obtain ⟨filled, _, _⟩ := intText_spec element.nonnegative
  rw [text, number]
  split <;> simp [filled]

end AddressElement

namespace ConfigTools

theorem decodeAddress_of_range {element : AddressElement}
    (ranged : element.ranged = true) :
    decodeAddress element.text = .ok element.pair := by
  obtain ⟨lowFilled, lowDecimal, lowValue⟩ :=
    intText_spec element.nonnegative
  obtain ⟨highFilled, highDecimal, highValue⟩ :=
    intText_spec (element.nonnegative.trans element.ordered)
  have ordered := element.ordered
  have int := element.int
  have matched := matchRange_of_range element.spacedBefore lowFilled
    lowDecimal highFilled highDecimal element.spacedAfter
  have read {digits : Payload} (filled : digits ≠ [])
      (decimal : ∀ digit ∈ digits, isDigitOf 10 digit = true)
      (small : digitsValue 10 digits ≤ 2147483647) :
      toNumber digits = .ok (digitsValue 10 digits) := by
    have number := (toNumber_ok_iff (List.forall_mem_nil _) filled decimal
      (show ∀ char, ([] : Payload).head? = some char → _ by simp) small
      _).mpr ⟨rfl, rfl⟩
    simpa using number
  have shape : element.text = element.before ++ (intText element.low ++
      ('-' :: (intText element.high ++ element.after))) := by
    simp [AddressElement.text, AddressElement.number, ranged]
  rw [decodeAddress, cString_of_whole fun _ => element.ne_null, shape, matched]
  simp only [read lowFilled lowDecimal (by omega),
    read highFilled highDecimal (by omega), lowValue, highValue]
  rfl

theorem decodeAddress_single_iff {element : AddressElement}
    (single : element.ranged = false) :
    decodeAddress element.text = .ok element.pair ↔ element.after = [] := by
  obtain ⟨filled, decimal, value⟩ := intText_spec element.nonnegative
  have ordered := element.ordered
  have int := element.int
  have unmatched := matchRange_of_number element.spacedBefore filled decimal
    element.spacedAfter
  have number := toNumber_ok_iff element.spacedBefore filled decimal
    (fun char starts => isDigitOf_of_isSpace
      (element.spacedAfter char (List.mem_of_head? starts)) 10)
    (by omega) element.low
  have shape : element.text =
      element.before ++ (intText element.low ++ element.after) := by
    simp [AddressElement.text, AddressElement.number, single]
  have same : element.pair = (element.low, element.low) := by
    rw [AddressElement.pair, element.single single]
  rw [decodeAddress, cString_of_whole fun _ => element.ne_null, shape,
    unmatched, same]
  rw [value] at number
  constructor
  · intro decoded
    obtain ⟨address, read, result⟩ := exists_of_bind decoded
    cases result
    exact (number.mp read).1
  · intro last
    simp only [number.mpr ⟨last, rfl⟩]
    rfl

theorem segments_addressList {elements : List AddressElement}
    (filled : elements ≠ []) :
    segments (addressList elements) = elements.map AddressElement.text := by
  have pieces : (addressList elements).splitOn ',' =
      elements.map AddressElement.text := by
    apply List.splitOn_intercalate
    · rw [List.forall_mem_map]
      exact fun element _ => element.comma_not_mem
    · simpa using filled
  rw [segments, pieces, if_neg]
  intro last
  obtain ⟨element, _, empty⟩ :=
    List.mem_map.mp (List.mem_of_getLast? last)
  exact element.text_ne_nil empty

end ConfigTools

/-- A list is read back exactly if no single number has white space behind
it. -/
theorem address_list_read_iff {elements : List AddressElement}
    (filled : elements ≠ []) :
    ConfigTools.decodeAddresses (String.ofList (addressList elements)) =
        .ok (elements.map AddressElement.pair) ↔
      ∀ element ∈ elements, element.ranged = false → element.after = [] := by
  rw [ConfigTools.decodeAddresses, String.toList_ofList,
    ConfigTools.segments_addressList filled, mapM_map_ok_iff]
  refine forall₂_congr ?_
  intro element _
  cases ranged : element.ranged with
  | true => simp [ConfigTools.decodeAddress_of_range ranged]
  | false => simp [ConfigTools.decodeAddress_single_iff ranged]

def AddressElement.address (value : Nat)
    (int : (value : Int) ≤ 2147483647) (before after : Nat) :
    AddressElement :=
  { low := value
    high := value
    ranged := false
    before := List.replicate before ' '
    after := List.replicate after ' '
    nonnegative := by omega
    ordered := le_refl _
    int
    single := fun _ => rfl
    spacedBefore := fun _ listed => by
      rw [List.eq_of_mem_replicate listed]; rfl
    spacedAfter := fun _ listed => by
      rw [List.eq_of_mem_replicate listed]; rfl }

def AddressElement.blankRange : AddressElement :=
  { low := 5
    high := 18
    ranged := true
    before := [' ']
    after := [' ']
    nonnegative := by decide
    ordered := by decide
    int := by decide
    single := nofun
    spacedBefore := List.all_eq_true.mp rfl
    spacedAfter := List.all_eq_true.mp rfl }

theorem address_list_read_mixed :
    addressList [.address 4 (by decide) 1 0, .blankRange,
        .address 7 (by decide) 0 0] = " 4, 5-18 ,7".toList ∧
      ConfigTools.decodeAddresses (String.ofList (addressList
        [.address 4 (by decide) 1 0, .blankRange,
          .address 7 (by decide) 0 0])) =
        .ok [(4, 4), (5, 18), (7, 7)] := by
  refine ⟨by decide +kernel, ?_⟩
  apply (address_list_read_iff (List.cons_ne_nil _ _)).mpr
  simp [AddressElement.address, AddressElement.blankRange]

/-- A blank behind a single number ends loading, one behind a range does
not. -/
theorem address_followed_by_blank :
    addressList [.address 4 (by decide) 0 1, .address 5 (by decide) 0 0] =
        "4 ,5".toList ∧
      ConfigTools.decodeAddresses "4 ,5" =
        .error "Conversion to number failed, unknown char at 1 position in 4 " ∧
      ConfigTools.decodeAddresses "4-4 ,5" = .ok [(4, 4), (5, 5)] := by
  decide +kernel

end MqmGateway
