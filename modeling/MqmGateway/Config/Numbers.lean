import MqmGateway.Config.Values
import MqmGateway.MqttValue.Literals

/-!
# Numbers of the configuration

Which texts are read as timespans and as register numbers, and what they mean.
Register numbers are read in two places, by the loader and for RPC requests.
-/

namespace MqmGateway

theorem decimal_eq (digits : List Char) : RegisterConfigName.decimal digits =
      if digitsValue 10 digits ≤ 2147483647 then
        .ok (digitsValue 10 digits : Int)
      else
        .error "stoi" := by
  rw [RegisterConfigName.decimal, foldl_digitsValue]
  split
  · rw [if_neg (by omega)]
  · rw [if_pos (by omega)]

inductive TimeUnit where
  | ms
  | s
  | min
deriving DecidableEq, Repr

namespace TimeUnit

def text : TimeUnit → Payload
  | .ms => "ms".toList
  | .s => "s".toList
  | .min => "min".toList

def scale : TimeUnit → Int
  | .ms => 1
  | .s => 1000
  | .min => 60000

end TimeUnit

namespace ConfigTools

variable {digits : Payload}
  (decimal : ∀ digit ∈ digits, isDigitOf 10 digit = true)

include decimal

theorem decodeMilliseconds_eq (filled : digits ≠ []) (unit : TimeUnit) :
    decodeMilliseconds (String.ofList (digits ++ unit.text)) =
      if digitsValue 10 digits ≤ 2147483647 then
        .ok (toInt32 (digitsValue 10 digits * unit.scale))
      else
        .error "stoi" := by
  have unitWhole : ∀ char ∈ unit.text, char.toNat ≠ 0 := by
    cases unit <;> simp [TimeUnit.text]
  have whole : ∀ char ∈ digits ++ unit.text, char.toNat ≠ 0 := by
    intro char listed
    rcases List.mem_append.mp listed with digit | letter
    · have high := le_of_isDigitOf (decimal char digit)
      omega
    · exact unitWhole char letter
  have front : (digits ++ unit.text).takeWhile (isDigitOf 10) = digits := by
    rw [List.takeWhile_append_of_pos decimal]
    cases unit <;> exact List.append_nil digits
  have back : (digits ++ unit.text).dropWhile (isDigitOf 10) =
      unit.text := by
    rw [List.dropWhile_append_of_pos decimal]
    cases unit <;> rfl
  rw [decodeMilliseconds, String.toList_ofList, cString_of_whole whole,
    front, back, decimal_eq]
  obtain ⟨first, rest, rfl⟩ := List.exists_cons_of_ne_nil filled
  by_cases small : digitsValue 10 (first :: rest) ≤ 2147483647
  · rw [if_pos small, if_pos small]
    cases unit <;> rfl
  · rw [if_neg small, if_neg small]
    cases unit <;> rfl

end ConfigTools

/-- A timespan is refused or has its exact value, unless its number is an
`int` and its value is none. -/
theorem timespan_exact_iff {digits : Payload} (filled : digits ≠ [])
    (decimal : ∀ digit ∈ digits, isDigitOf 10 digit = true)
    (unit : TimeUnit) :
    ((∃ message, ConfigTools.decodeMilliseconds
        (String.ofList (digits ++ unit.text)) = .error message) ∨
      ConfigTools.decodeMilliseconds (String.ofList (digits ++ unit.text)) =
        .ok (digitsValue 10 digits * unit.scale)) ↔
      (2147483647 < digitsValue 10 digits ∨
        digitsValue 10 digits * unit.scale ≤ 2147483647) := by
  rw [ConfigTools.decodeMilliseconds_eq decimal filled]
  have positive : 0 ≤ (digitsValue 10 digits : Int) * unit.scale := by
    cases unit <;> simp [TimeUnit.scale]
  by_cases small : digitsValue 10 digits ≤ 2147483647
  · rw [if_pos small]
    generalize (digitsValue 10 digits : Int) * unit.scale = product at *
    simp only [reduceCtorEq, exists_false, false_or, Except.ok.injEq, toInt32]
    omega
  · rw [if_neg small]
    exact iff_of_true (.inl ⟨_, rfl⟩) (.inl (by omega))

theorem timespan_exact_hour :
    (∃ message, ConfigTools.decodeMilliseconds "60min" = .error message) ∨
      ConfigTools.decodeMilliseconds "60min" = .ok 3600000 :=
  (@timespan_exact_iff "60".toList (by decide) (List.all_eq_true.mp rfl)
    .min).mpr (.inr (by decide))

/-- Five weeks in minutes and 25 days in seconds overflow. -/
theorem timespans_overflow :
    ConfigTools.decodeMilliseconds "50400min" = .ok (-1270967296) ∧
    ConfigTools.decodeMilliseconds "2160000s" = .ok (-2134967296) := by
  decide +kernel

/-- What the documentation calls a register number, with the register that it
means: decimal numbers count from one, hexadecimal ones from zero. -/
inductive RegisterNumber : Payload → Int → Prop where
  | decimal {digits : Payload} :
      digits ≠ [] →
      (∀ digit ∈ digits, isDigitOf 10 digit = true) →
      1 ≤ digitsValue 10 digits →
      digitsValue 10 digits ≤ 2147483647 →
      RegisterNumber digits (digitsValue 10 digits - 1)
  | hexadecimal {x : Char} {digits : Payload} :
      x = 'x' ∨ x = 'X' →
      digits ≠ [] →
      (∀ digit ∈ digits, isDigitOf 16 digit = true) →
      digitsValue 16 digits ≤ 2147483647 →
      RegisterNumber ('0' :: x :: digits) (digitsValue 16 digits)

/-- The longest beginning of a text that is a constant, with its value. -/
structure Front (text front : Payload) (value : Nat) : Prop where
  begins : front <+: text
  constant : Constant front value
  longest : ∀ next value, front ++ [next] <+: text →
    ¬Constant (front ++ [next]) value

/-- Texts that some of the parsers does not take for what they are. -/
inductive Ambiguous : Payload → Prop where
  /-- Only requests may have a sign. -/
  | signed {sign : Char} {digits : Payload} {value : Nat} :
      sign = '+' ∧ value ≤ 2147483647 ∨ sign = '-' ∧ value ≤ 2147483648 →
      Constant digits value →
      value ≠ 0 →
      Ambiguous (sign :: digits)
  /-- Both parsers read octal numbers. -/
  | octal {text : Payload} {value : Nat} :
      (∀ digit ∈ text, isDigitOf 10 digit = true) →
      Constant text value →
      value ≠ digitsValue 10 text →
      value ≤ 2147483647 →
      Ambiguous text
  /-- The digits 8 and 9 are not octal. -/
  | notOctal {text : Payload} {number : Int} :
      RegisterNumber text number →
      (∀ value, ¬Constant text value) →
      Ambiguous text
  /-- The loader reads up to a null byte. -/
  | terminated {text digits : Payload} {x : Char} {number : Int} :
      cString text = '0' :: x :: digits →
      x = 'x' ∨ x = 'X' →
      RegisterNumber (cString text) number →
      cString text ≠ text →
      Ambiguous text
  /-- The loader reads as far as it can. -/
  | truncated {text front : Payload} {value : Nat} :
      (∀ digit ∈ cString text, isDigitOf 16 digit = true) →
      Front (cString text) front value →
      front ≠ text →
      value ≠ 0 →
      value ≤ 2147483647 →
      Ambiguous text

section RegisterNumbers

variable {text front : Payload} {value : Nat} {number : Int}

theorem RegisterNumber.starts (registerNumber : RegisterNumber text number) :
    ∃ first rest, text = first :: rest ∧ isDigitOf 10 first = true := by
  cases registerNumber with
  | decimal filled decimal _ _ =>
    obtain ⟨first, rest, rfl⟩ := List.exists_cons_of_ne_nil filled
    exact ⟨first, rest, rfl, decimal first List.mem_cons_self⟩
  | hexadecimal _ _ _ _ => exact ⟨_, _, rfl, rfl⟩

theorem RegisterNumber.cString_eq
    (registerNumber : RegisterNumber text number) : cString text = text := by
  apply cString_of_whole
  intro char listed
  cases registerNumber with
  | decimal _ decimal _ _ => exact ne_null_of_isDigitOf (decimal char listed)
  | hexadecimal letter filled digits _ =>
    exact (Constant.hexadecimal letter filled digits).ne_null listed

theorem stoi_of_strtol {value : Int} {back : Payload}
    (read : strtol text = (clampLong value, back))
    (shorter : back.length ≠ text.length) :
    stoi text =
      if -2147483648 ≤ value ∧ value ≤ 2147483647 then .ok (value, back)
      else .error "stoi" := by
  rw [stoi, read]
  dsimp only
  rw [if_neg shorter, clampLong]
  by_cases small : -2147483648 ≤ value ∧ value ≤ 2147483647
  · rw [if_neg (by omega), if_pos small]
    congr 2
    omega
  · rw [if_pos (by omega), if_neg small]

theorem startsHex_of_constant (constant : Constant text value) :
    startsHex text = true ∧ RegisterNumber text number ↔
      startsHex text = true ∧ value ≤ 2147483647 ∧ number = value := by
  cases constant with
  | hexadecimal letter filled digits =>
    apply and_congr_right
    intro hex
    constructor
    · intro registerNumber
      cases registerNumber with
      | decimal _ decimal _ _ =>
        rw [startsHex_of_decimal decimal] at hex
        cases hex
      | hexadecimal _ _ _ small => exact ⟨small, rfl⟩
    · intro ⟨small, same⟩
      subst same
      exact .hexadecimal letter filled digits small
  | octal digits =>
    rw [startsHex_of_octal digits]
    simp
  | decimal _ decimal =>
    rw [startsHex_of_decimal decimal]
    simp

theorem decimal_of_constant (constant : Constant text value)
    (plain : startsHex text = false) :
    ∀ digit ∈ text, isDigitOf 10 digit = true := by
  cases constant with
  | @hexadecimal x digits letter filled allDigits =>
    obtain ⟨first, rest, rfl⟩ := List.exists_cons_of_ne_nil filled
    rw [startsHex_iff.mpr ⟨x, first, rest, rfl, letter,
      allDigits first List.mem_cons_self⟩] at plain
    cases plain
  | octal digits =>
    refine List.forall_mem_cons.mpr ⟨rfl, ?_⟩
    intro digit listed
    exact isDigitOf_mono (by decide) (digits digit listed)
  | decimal _ decimal => exact decimal

section Plain

variable (hexadecimal : ∀ digit ∈ text, isDigitOf 16 digit = true)

include hexadecimal

theorem startsHex_of_hexadecimal : startsHex text = false := by
  rw [Bool.eq_false_iff]
  intro hex
  obtain ⟨x, digit, rest, rfl, letter, _⟩ := startsHex_iff.mp hex
  have isDigit := hexadecimal x (by simp)
  rcases letter with rfl | rfl <;> simp [isDigitOf, digitValue] at isDigit

theorem autoBase_of_hexadecimal :
    autoBase text = (if text.head? = some '0' then 8 else 10) ∧
      autoDigits text = text := by
  have base : autoBase text = if text.head? = some '0' then 8 else 10 :=
    if_neg (by simp [startsHex_of_hexadecimal hexadecimal])
  refine ⟨base, if_neg ?_⟩
  rw [base]
  split <;> decide

theorem constant_iff_of_hexadecimal : Constant text value ↔
      text ≠ [] ∧ (∀ digit ∈ text, isDigitOf (autoBase text) digit = true) ∧
        value = digitsValue (autoBase text) text := by
  rw [constant_iff, (autoBase_of_hexadecimal hexadecimal).2]

theorem autoBase_of_begins (begins : front <+: text) (filled : front ≠ []) :
    (∀ digit ∈ front, isDigitOf 16 digit = true) ∧
      autoBase front = autoBase text := by
  have digits (digit : Char) (listed : digit ∈ front) :
      isDigitOf 16 digit = true :=
    hexadecimal digit (begins.subset listed)
  refine ⟨digits, ?_⟩
  obtain ⟨back, rfl⟩ := begins
  rw [(autoBase_of_hexadecimal digits).1,
    (autoBase_of_hexadecimal hexadecimal).1,
    List.head?_append_of_ne_nil _ filled]

theorem constant_iff_of_begins (begins : front <+: text) :
    Constant front value ↔
      front ≠ [] ∧ (∀ digit ∈ front, isDigitOf (autoBase text) digit = true) ∧
        value = digitsValue (autoBase text) front := by
  by_cases filled : front = []
  · subst filled
    refine iff_of_false ?_ (by simp)
    intro constant
    obtain ⟨_, _, _, same, _⟩ := constant.starts
    cases same
  · obtain ⟨digits, base⟩ := autoBase_of_begins hexadecimal begins filled
    rw [constant_iff_of_hexadecimal digits, base]

theorem front_iff : Front text front value ↔
      front = text.takeWhile (isDigitOf (autoBase text)) ∧ front ≠ [] ∧
        value = digitsValue (autoBase text) front := by
  constructor
  · intro starts
    obtain ⟨filled, digits, same⟩ :=
      (constant_iff_of_begins hexadecimal starts.begins).mp starts.constant
    refine ⟨?_, filled, same⟩
    obtain ⟨back, rest⟩ := starts.begins
    generalize base : autoBase text = radix at digits
    rw [← rest, List.takeWhile_append_of_pos digits]
    cases back with
    | nil => simp
    | cons next back =>
      have begins : front ++ [next] <+: text :=
        ⟨back, by rw [← rest, List.append_assoc]; rfl⟩
      cases isDigit : isDigitOf radix next with
      | false => simp [isDigit]
      | true =>
        refine absurd
          ((constant_iff_of_begins hexadecimal begins).mpr
            ⟨by simp, ?_, rfl⟩) (starts.longest next _ begins)
        rw [base]
        exact List.forall_mem_append.mpr ⟨digits, by simpa using isDigit⟩
  · intro ⟨same, filled, valued⟩
    have begins : front <+: text := by
      rw [same]
      exact List.takeWhile_prefix _
    refine ⟨begins, (constant_iff_of_begins hexadecimal begins).mpr
      ⟨filled, ?_, valued⟩, ?_⟩
    · intro digit listed
      rw [same] at listed
      exact List.mem_takeWhile_imp listed
    · intro next _ longer constant
      obtain ⟨_, digits, _⟩ :=
        (constant_iff_of_begins hexadecimal longer).mp constant
      obtain ⟨back, rest⟩ := longer
      have lengths := congrArg List.length same
      generalize autoBase text = radix at digits lengths
      rw [← rest, List.takeWhile_append_of_pos digits] at lengths
      simp at lengths

theorem stoi_of_hexadecimal (filled : text ≠ []) :
    (∃ front value back, Front text front value ∧
      strtol text = (clampLong value, back) ∧ back.length ≠ text.length) ∨
      (∀ front value, ¬Front text front value) ∧ stoi text = .error "stoi" := by
  obtain ⟨first, rest, same⟩ := List.exists_cons_of_ne_nil filled
  have isDigit := hexadecimal first (by simp [same])
  obtain ⟨trimmed, unsigned⟩ := @bare_of_isDigitOf 16 first rest isDigit
  have scanned : strtol text = scan (autoBase text) false text text := by
    rw [strtol_eq_scan]
    dsimp only
    rw [same, trimmed, unsigned, ← same,
      (autoBase_of_hexadecimal hexadecimal).2]
    congr 1
    rw [same]
    simpa using (@head?_of_isDigitOf 16 first rest isDigit).1
  cases digits : text.takeWhile (isDigitOf (autoBase text)) with
  | nil =>
    refine .inr ⟨?_, ?_⟩
    · intro front value starts
      obtain ⟨none, filled, _⟩ := (front_iff hexadecimal).mp starts
      exact filled (none.trans digits)
    · rw [stoi, scanned, scan, digits]
      exact if_pos rfl
  | cons digit digits' =>
    refine .inl ⟨_, _, text.dropWhile (isDigitOf (autoBase text)),
      (front_iff hexadecimal).mpr ⟨rfl, by simp [digits], rfl⟩, ?_, ?_⟩
    · rw [scanned, scan, foldl_digits, digits]
      rfl
    · have lengths := congrArg List.length
        (text.takeWhile_append_dropWhile (p := isDigitOf (autoBase text)))
      rw [List.length_append, digits, List.length_cons] at lengths
      omega

end Plain

theorem matchesNumber_iff : RegisterConfigName.matchesNumber text = true ↔
      (if startsHex text = true then text.drop 2 else text) ≠ [] ∧
        ∀ digit ∈ if startsHex text = true then text.drop 2 else text,
          isDigitOf 16 digit = true := by
  rw [RegisterConfigName.matchesNumber]
  simp only [Bool.and_eq_true, Bool.not_eq_true', List.isEmpty_eq_false_iff,
    List.all_eq_true]

theorem strtol_of_constant (constant : Constant text value) :
    strtol text = (clampLong value, []) := by
  have literal := Literal.plain constant
  apply strtol_of_literal
  rwa [literal.dropWhile_isSpace fun _ _ => Constant.starts]

/-- What both parsers make of the number that `strtol` reads. -/
def numbered (text : Payload) (value : Int) : Except String Int :=
  if text[1]? = some 'x' ∨ text[1]? = some 'X' then
    .ok value
  else if value = 0 then
    .error "Use hex address for 0-based register number"
  else
    .ok (value - 1)

theorem numbered_eq_ok_iff {value : Int} : numbered text value = .ok number ↔
      if text[1]? = some 'x' ∨ text[1]? = some 'X' then number = value
      else value ≠ 0 ∧ number = value - 1 := by
  rw [numbered]
  split
  · rw [Except.ok.injEq, eq_comm]
  · split
    · rename_i zero
      simp [zero]
    · rename_i nonzero
      rw [Except.ok.injEq, eq_comm]
      simp [nonzero]

theorem registerNumberOf_of_strtol {back : Payload}
    (read : strtol text = (clampLong value, back))
    (shorter : back.length ≠ text.length) :
    RegisterConfigName.registerNumberOf text = .ok number ↔ value ≤ 2147483647 ∧
        if text[1]? = some 'x' ∨ text[1]? = some 'X' then number = value
        else value ≠ 0 ∧ number = value - 1 := by
  have accepted := @numbered_eq_ok_iff text number value
  rw [Int.natCast_ne_zero] at accepted
  rw [RegisterConfigName.registerNumberOf, stoi_of_strtol read shorter,
    ← accepted]
  by_cases small : value ≤ 2147483647
  · rw [if_pos ⟨by omega, by omega⟩]
    exact (and_iff_right small).symm
  · rw [if_neg (by omega)]
    exact iff_of_false (by simp [bind, Except.bind]) (by simp [small])

/-- The loader takes numbers that are announced as hexadecimal, and the longest
beginning of other texts of hexadecimal digits. -/
theorem registerNumberOf_iff : RegisterConfigName.matchesNumber text = true ∧
        RegisterConfigName.registerNumberOf text = .ok number ↔
      startsHex text = true ∧ RegisterNumber text number ∨
        (∀ digit ∈ text, isDigitOf 16 digit = true) ∧
          ∃ front value, Front text front value ∧ value ≠ 0 ∧
            value ≤ 2147483647 ∧ number = value - 1 := by
  rw [matchesNumber_iff]
  by_cases hex : startsHex text = true
  · have announced : ¬∀ digit ∈ text, isDigitOf 16 digit = true := by
      intro hexadecimal
      rw [startsHex_of_hexadecimal hexadecimal] at hex
      cases hex
    rw [if_pos hex]
    simp only [announced, false_and, or_false]
    obtain ⟨x, digit, rest, rfl, letter, isDigit⟩ := startsHex_iff.mp hex
    by_cases digits : ∀ char ∈ digit :: rest, isDigitOf 16 char = true
    · have constant := Constant.hexadecimal letter (by simp) digits
      have accepted := @registerNumberOf_of_strtol _ _ number _
        (strtol_of_constant constant) (by simp)
      rw [if_pos (by simpa using letter)] at accepted
      rw [startsHex_of_constant constant, accepted]
      simp only [List.drop_succ_cons, List.drop_zero, ne_eq, reduceCtorEq,
        not_false_eq_true, true_and, hex]
      exact and_iff_right digits
    · refine iff_of_false (fun accepted => digits accepted.1.2) ?_
      rintro ⟨_, registerNumber⟩
      cases registerNumber with
      | decimal _ decimal _ _ =>
        rw [startsHex_of_decimal decimal] at hex
        cases hex
      | hexadecimal _ _ allDigits _ => exact digits allDigits
  · rw [if_neg hex]
    simp only [hex, Bool.false_eq_true, false_and, false_or]
    rw [and_assoc, and_left_comm]
    apply and_congr_right
    intro hexadecimal
    by_cases filled : text = []
    · subst filled
      refine iff_of_false (by simp) ?_
      rintro ⟨front, value, starts, _⟩
      obtain ⟨same, filled, _⟩ := (front_iff hexadecimal).mp starts
      exact filled same
    have second : ¬(text[1]? = some 'x' ∨ text[1]? = some 'X') := by
      rintro (letter | letter) <;>
      · have isDigit := hexadecimal _ (List.mem_of_getElem? letter)
        simp [isDigitOf, digitValue] at isDigit
    rcases stoi_of_hexadecimal hexadecimal filled with
      ⟨front, value, back, starts, read, shorter⟩ | ⟨none, read⟩
    · rw [registerNumberOf_of_strtol read shorter, if_neg second]
      constructor
      · rintro ⟨_, small, nonzero, same⟩
        exact ⟨front, value, starts, nonzero, small, same⟩
      · rintro ⟨other, number, again, nonzero, small, same⟩
        obtain ⟨one, _, valued⟩ := (front_iff hexadecimal).mp starts
        obtain ⟨rfl, _, rfl⟩ := (front_iff hexadecimal).mp again
        subst one valued
        exact ⟨filled, small, nonzero, same⟩
    · refine iff_of_false ?_ ?_
      · rintro ⟨_, accepted⟩
        rw [RegisterConfigName.registerNumberOf, read] at accepted
        cases accepted
      · rintro ⟨front, value, starts, _⟩
        exact none front value starts

theorem second_iff_of_literal {value : Int}
    (literal : Literal Constant text value) :
    text[1]? = some 'x' ∨ text[1]? = some 'X' ↔ startsHex text = true := by
  have signed {sign : Char} {digits : Payload} {value : Nat}
      (isSign : sign ≠ '0') (constant : Constant digits value) :
      (sign :: digits)[1]? = some 'x' ∨ (sign :: digits)[1]? = some 'X' ↔
        startsHex (sign :: digits) = true := by
    refine iff_of_false ?_ ?_
    · obtain ⟨_, first, rest, rfl, isDigit⟩ := constant.starts
      rintro (letter | letter) <;>
      · cases letter
        simp [isDigitOf, digitValue] at isDigit
    · intro hex
      obtain ⟨_, _, _, same, _⟩ := startsHex_iff.mp hex
      cases same
      exact isSign rfl
  cases literal with
  | plain constant =>
    by_cases hex : startsHex text = true
    · refine iff_of_true ?_ hex
      obtain ⟨x, _, _, rfl, letter, _⟩ := startsHex_iff.mp hex
      simpa using letter
    · exact iff_of_false (second_of_decimal
        (decimal_of_constant constant (by simpa using hex))) hex
  | plus constant => exact signed (by decide) constant
  | minus constant => exact signed (by decide) constant

section Requests

variable (unspaced : text.dropWhile isSpace = text)

include unspaced

theorem registerNumberFromString_of_literal {value : Int}
    (literal : Literal Constant text value) :
    registerNumberFromString (String.ofList text) = .ok number ↔
      (-2147483648 ≤ value ∧ value ≤ 2147483647) ∧
        if startsHex text = true then number = value
        else value ≠ 0 ∧ number = value - 1 := by
  have filled : text ≠ [] := by
    rintro rfl
    cases literal with
    | plain constant =>
      obtain ⟨_, _, _, same, _⟩ := constant.starts
      cases same
  have shorter : ([] : Payload).length ≠ text.length := by
    simpa [eq_comm] using filled
  have read : strtol text = (clampLong value, []) :=
    strtol_of_literal (by rwa [unspaced])
  have accepted := @numbered_eq_ok_iff text number value
  simp only [second_iff_of_literal literal] at accepted
  rw [registerNumberFromString, String.toList_ofList,
    stoi_of_strtol read shorter, ← accepted]
  dsimp only
  rw [if_neg (by simpa using filled)]
  by_cases small : -2147483648 ≤ value ∧ value ≤ 2147483647
  · rw [if_pos small]
    exact (and_iff_right small).symm
  · rw [if_neg small]
    exact iff_of_false (by simp) (fun both => small both.1)

theorem literal_of_registerNumberFromString
    (accepted : registerNumberFromString (String.ofList text) = .ok number) :
    ∃ value, Literal Constant text value := by
  rw [registerNumberFromString, String.toList_ofList] at accepted
  dsimp only at accepted
  split at accepted
  · cases accepted
  rename_i filled
  split at accepted
  · cases accepted
  · cases accepted
  rename_i value whole
  rw [stoi] at whole
  cases read : strtol text with
  | mk long rest =>
    rw [read] at whole
    dsimp only at whole
    split at whole
    · cases whole
    · split at whole
      · cases whole
      · cases whole
        have literal := literal_of_strtol (by simpa using filled) read
        rwa [unspaced] at literal

/-- Requests have numbers that are announced as hexadecimal, and all other
literals but zero. -/
theorem registerNumberFromString_iff :
    registerNumberFromString (String.ofList text) = .ok number ↔
      startsHex text = true ∧ RegisterNumber text number ∨
        startsHex text = false ∧
          ∃ value : Int, Literal Constant text value ∧ value ≠ 0 ∧
            (-2147483648 ≤ value ∧ value ≤ 2147483647) ∧
            number = value - 1 := by
  constructor
  · intro accepted
    obtain ⟨value, literal⟩ :=
      literal_of_registerNumberFromString unspaced accepted
    rw [registerNumberFromString_of_literal unspaced literal] at accepted
    obtain ⟨small, accepted⟩ := accepted
    by_cases hex : startsHex text = true
    · rw [if_pos hex] at accepted
      obtain ⟨x, digit, rest, rfl, _⟩ := startsHex_iff.mp hex
      cases literal with
      | plain constant =>
        exact .inl ((startsHex_of_constant constant).mpr
          ⟨hex, by omega, accepted⟩)
    · rw [if_neg hex] at accepted
      exact .inr ⟨by simpa using hex, value, literal, accepted.1, small,
        accepted.2⟩
  · rintro (⟨hex, registerNumber⟩ | ⟨plain, value, literal, accepted⟩)
    · cases registerNumber with
      | decimal _ decimal _ _ =>
        rw [startsHex_of_decimal decimal] at hex
        cases hex
      | hexadecimal letter filled digits small =>
        rw [registerNumberFromString_of_literal unspaced
          (.plain (.hexadecimal letter filled digits)), if_pos hex]
        exact ⟨⟨by omega, by omega⟩, rfl⟩
    · rw [registerNumberFromString_of_literal unspaced literal,
        if_neg (by simp [plain])]
      exact ⟨accepted.2.1, accepted.1, accepted.2.2⟩

end Requests

section Unambiguous

variable (unambiguous : ¬Ambiguous text)

include unambiguous

theorem registerNumber_of_constant (constant : Constant text value)
    (plain : startsHex text = false) (nonzero : value ≠ 0)
    (small : value ≤ 2147483647) : RegisterNumber text (value - 1) := by
  have decimal := decimal_of_constant constant plain
  have same : value = digitsValue 10 text := by
    by_contra differs
    exact unambiguous (.octal decimal constant differs small)
  obtain ⟨_, first, rest, rfl, _⟩ := constant.starts
  subst same
  exact .decimal (by simp) decimal (by omega) small

theorem constant_of_registerNumber (registerNumber : RegisterNumber text number)
    (plain : startsHex text = false) :
    ∃ value, Constant text value ∧ value ≠ 0 ∧ value ≤ 2147483647 ∧
      number = value - 1 := by
  have constant : ∃ value, Constant text value := by
    by_contra none
    exact unambiguous (.notOctal registerNumber (not_exists.mp none))
  obtain ⟨value, constant⟩ := constant
  have decimal := decimal_of_constant constant plain
  obtain ⟨atMost, zero⟩ := value_of_constant constant decimal
  cases registerNumber with
  | decimal _ _ positive small =>
    have same : value = digitsValue 10 text := by
      by_contra differs
      exact unambiguous (.octal decimal constant differs (by omega))
    exact ⟨value, constant, by omega, by omega, by omega⟩
  | hexadecimal letter _ _ _ =>
    exact absurd letter (by simpa using second_of_decimal decimal)

end Unambiguous

theorem not_registerNumber_of_sign {sign : Char}
    (isSign : isDigitOf 10 sign = false) {digits : Payload} :
    ¬RegisterNumber (sign :: digits) number := by
  intro registerNumber
  obtain ⟨first, rest, same, isDigit⟩ := registerNumber.starts
  cases same
  rw [isSign] at isDigit
  cases isDigit

theorem constant_of_literal {value : Int}
    (literal : Literal Constant text value)
    (registerNumber : RegisterNumber text number) :
    ∃ magnitude, Constant text magnitude := by
  cases literal with
  | plain constant => exact ⟨_, constant⟩
  | plus _ => exact absurd registerNumber (not_registerNumber_of_sign rfl)
  | minus _ => exact absurd registerNumber (not_registerNumber_of_sign rfl)

theorem registerNumber_decimal
    (decimal : ∀ digit ∈ text, isDigitOf 10 digit = true)
    (registerNumber : RegisterNumber text number) :
    digitsValue 10 text ≤ 2147483647 ∧ number = digitsValue 10 text - 1 := by
  cases registerNumber with
  | decimal _ _ _ small => exact ⟨small, rfl⟩
  | hexadecimal letter _ _ _ =>
    exact absurd letter (by simpa using second_of_decimal decimal)

section Agreement

variable (unspaced : text.dropWhile isSpace = text)

include unspaced

theorem not_ambiguous (loaded : ∀ number,
      RegisterConfigName.matchesNumber (cString text) = true ∧
          RegisterConfigName.registerNumberOf (cString text) = .ok number →
        RegisterNumber text number)
    (requested : ∀ number,
      registerNumberFromString (String.ofList text) = .ok number ↔
        RegisterNumber text number) : ¬Ambiguous text := by
  intro ambiguous
  simp only [registerNumberOf_iff] at loaded
  simp only [registerNumberFromString_iff unspaced] at requested
  cases ambiguous with
  | @signed sign digits value bounded constant nonzero =>
    have plain : startsHex (sign :: digits) = false := by
      rcases bounded with ⟨rfl, _⟩ | ⟨rfl, _⟩ <;> rfl
    rcases bounded with ⟨rfl, small⟩ | ⟨rfl, small⟩
    · exact not_registerNumber_of_sign rfl ((requested _).mp
        (.inr ⟨plain, _, .plus constant, by omega, by omega, rfl⟩))
    · exact not_registerNumber_of_sign rfl ((requested _).mp
        (.inr ⟨plain, _, .minus constant, by omega, by omega, rfl⟩))
  | octal decimal constant differs small =>
    obtain ⟨_, zero⟩ := value_of_constant constant decimal
    have accepted := (requested _).mp (.inr
      ⟨startsHex_of_decimal decimal, _, .plain constant, by omega,
        by omega, rfl⟩)
    have same := (registerNumber_decimal decimal accepted).2
    omega
  | notOctal registerNumber none =>
    rcases (requested _).mpr registerNumber with
      ⟨hex, _⟩ | ⟨_, value, literal, _⟩
    · cases registerNumber with
      | decimal _ decimal _ _ =>
        rw [startsHex_of_decimal decimal] at hex
        cases hex
      | hexadecimal letter filled digits _ =>
        exact none _ (.hexadecimal letter filled digits)
    · obtain ⟨magnitude, constant⟩ :=
        constant_of_literal literal registerNumber
      exact none magnitude constant
  | @terminated _ digits x number announced letter registerNumber cut =>
    refine cut (loaded number (.inl ⟨?_, registerNumber⟩)).cString_eq
    rw [announced] at registerNumber ⊢
    cases registerNumber with
    | decimal _ decimal _ _ =>
      exact absurd letter (by simpa using second_of_decimal decimal)
    | hexadecimal _ filled allDigits _ =>
      obtain ⟨first, rest, rfl⟩ := List.exists_cons_of_ne_nil filled
      exact startsHex_iff.mpr ⟨x, first, rest, rfl, letter,
        allDigits first List.mem_cons_self⟩
  | @truncated _ front value hexadecimal starts cut nonzero small =>
    have registerNumber := loaded _
      (.inr ⟨hexadecimal, front, value, starts, nonzero, small, rfl⟩)
    rw [registerNumber.cString_eq] at hexadecimal starts
    rcases (requested _).mpr registerNumber with
      ⟨hex, _⟩ | ⟨_, value, literal, _⟩
    · rw [startsHex_of_hexadecimal hexadecimal] at hex
      cases hex
    · obtain ⟨magnitude, constant⟩ :=
        constant_of_literal literal registerNumber
      obtain ⟨_, digits, _⟩ :=
        (constant_iff_of_hexadecimal hexadecimal).mp constant
      obtain ⟨same, _, _⟩ := (front_iff hexadecimal).mp starts
      exact cut (same.trans (List.takeWhile_eq_self_iff.mpr digits))

/-- Both parsers take for register numbers what is one exactly if the text is
not ambiguous. -/
theorem registerNumbers_iff : (∀ number,
      (RegisterConfigName.matchesNumber (cString text) = true ∧
          RegisterConfigName.registerNumberOf (cString text) = .ok number ↔
        RegisterNumber text number) ∧
      (registerNumberFromString (String.ofList text) = .ok number ↔
        RegisterNumber text number)) ↔
      ¬Ambiguous text := by
  constructor
  · intro agree
    exact not_ambiguous unspaced (fun number => (agree number).1.mp)
      fun number => (agree number).2
  intro unambiguous number
  rw [registerNumberOf_iff, registerNumberFromString_iff unspaced]
  refine ⟨⟨?_, ?_⟩, ⟨?_, ?_⟩⟩
  · rintro (⟨hex, registerNumber⟩ |
      ⟨hexadecimal, front, value, starts, nonzero, small, rfl⟩)
    · by_cases cut : cString text = text
      · rwa [cut] at registerNumber
      · obtain ⟨x, digit, rest, announced, letter, _⟩ :=
          startsHex_iff.mp hex
        exact absurd (.terminated announced letter registerNumber cut)
          unambiguous
    · by_cases cut : front = text
      · subst cut
        have whole : cString front = front :=
          (List.takeWhile_prefix _).eq_of_length_le starts.begins.length_le
        rw [whole] at hexadecimal
        exact registerNumber_of_constant unambiguous starts.constant
          (startsHex_of_hexadecimal hexadecimal) nonzero small
      · exact absurd (.truncated hexadecimal starts cut nonzero small)
          unambiguous
  · intro registerNumber
    rw [registerNumber.cString_eq]
    cases hex : startsHex text with
    | true => exact .inl ⟨rfl, registerNumber⟩
    | false =>
      obtain ⟨value, constant, nonzero, small, same⟩ :=
        constant_of_registerNumber unambiguous registerNumber hex
      have hexadecimal : ∀ digit ∈ text, isDigitOf 16 digit = true :=
        fun digit listed => isDigitOf_mono (by decide)
          (decimal_of_constant constant hex digit listed)
      refine .inr ⟨hexadecimal, text, value, ?_, nonzero, small, same⟩
      obtain ⟨filled, digits, valued⟩ :=
        (constant_iff_of_hexadecimal hexadecimal).mp constant
      exact (front_iff hexadecimal).mpr
        ⟨(List.takeWhile_eq_self_iff.mpr digits).symm, filled, valued⟩
  · rintro (⟨_, registerNumber⟩ |
      ⟨plain, value, literal, nonzero, small, rfl⟩)
    · exact registerNumber
    · cases literal with
      | plain constant =>
        exact registerNumber_of_constant unambiguous constant plain
          (by omega) (by omega)
      | plus constant =>
        exact absurd (.signed (.inl ⟨rfl, by omega⟩) constant (by omega))
          unambiguous
      | minus constant =>
        exact absurd (.signed (.inr ⟨rfl, by omega⟩) constant (by omega))
          unambiguous
  · intro registerNumber
    cases hex : startsHex text with
    | true => exact .inl ⟨rfl, registerNumber⟩
    | false =>
      obtain ⟨value, constant, nonzero, small, same⟩ :=
        constant_of_registerNumber unambiguous registerNumber hex
      exact .inr ⟨rfl, value, .plain constant, by omega, by omega, same⟩

end Agreement

end RegisterNumbers

section RegisterText

variable {text : String} (filled : text ≠ "")
  (front : ∀ char, text.toList.head? = some char → isSpace char = false)
  (back : ∀ char, text.toList.getLast? = some char → isSpace char = false)

include front

theorem dropWhile_isSpace_of_front :
    text.toList.dropWhile isSpace = text.toList := by
  cases shape : text.toList with
  | nil => rfl
  | cons first rest =>
    rw [shape] at front
    rw [List.dropWhile_cons, front first rfl]
    rfl

include back

theorem trim_eq_of_unspaced :
    RegisterConfigName.trim text.toList = text.toList := by
  have reversed : text.toList.reverse.dropWhile isSpace =
      text.toList.reverse := by
    cases shape : text.toList.reverse with
    | nil => rfl
    | cons last rest =>
      have isLast : text.toList.getLast? = some last := by
        rw [← List.head?_reverse, shape]
        rfl
      rw [List.dropWhile_cons, back last isLast]
      rfl
  rw [RegisterConfigName.trim, reversed, List.reverse_reverse,
    dropWhile_isSpace_of_front front]

include filled

theorem parse_registerNumber (dotless : '.' ∉ text.toList)
    {data : YamlNode} (given : data.member? "register" = some (.scalar text))
    {network : String} (inNetwork : network ≠ "")
    {slave : Int} (onSlave : slave ≠ -1) (number : Int) :
    (RegisterConfigName.parse data network slave).map
        RegisterConfigName.registerNumber = .ok number ↔
      RegisterConfigName.matchesNumber (cString text.toList) = true ∧
        RegisterConfigName.registerNumberOf (cString text.toList) =
          .ok number := by
  have read : ConfigTools.readRequiredString data "register" = .ok text := by
    rw [ConfigTools.readRequiredString, ConfigTools.readRequiredValue, given]
    exact if_neg filled
  have undotted : '.' ∉ cString text.toList :=
    fun listed => dotless ((List.takeWhile_sublist _).subset listed)
  have grouped : RegisterConfigName.groups (cString text.toList) =
      if RegisterConfigName.matchesNumber (cString text.toList) then
        some ([], [], cString text.toList)
      else none := by
    rw [RegisterConfigName.groups, List.splitOn_eq_singleton undotted]
  rw [RegisterConfigName.parse, read]
  simp only [bind, Except.bind]
  rw [trim_eq_of_unspaced front back, grouped]
  cases matched : RegisterConfigName.matchesNumber (cString text.toList) with
  | false => simp [Except.map]
  | true =>
    cases result :
        RegisterConfigName.registerNumberOf (cString text.toList) <;>
      simp [Except.map, inNetwork, onSlave, result]

end RegisterText

/-- Exactly the texts that are not ambiguous have one meaning as register
numbers. -/
theorem register_numbers_agree_iff {text : String} (filled : text ≠ "")
    (front : ∀ char, text.toList.head? = some char → isSpace char = false)
    (back : ∀ char, text.toList.getLast? = some char → isSpace char = false)
    (dotless : '.' ∉ text.toList)
    {data : YamlNode} (given : data.member? "register" = some (.scalar text))
    {network : String} (inNetwork : network ≠ "")
    {slave : Int} (onSlave : slave ≠ -1) :
    (∀ number, ((RegisterConfigName.parse data network slave).map
          RegisterConfigName.registerNumber = .ok number ↔
        RegisterNumber text.toList number) ∧
      (registerNumberFromString text = .ok number ↔
        RegisterNumber text.toList number)) ↔
      ¬Ambiguous text.toList := by
  have agreed := registerNumbers_iff (dropWhile_isSpace_of_front front)
  rw [String.ofList_toList] at agreed
  rw [← agreed]
  simp only [parse_registerNumber filled front back dotless given inNetwork
    onSlave]

def registerEntry (text : String) : YamlNode :=
  .map [("register", .scalar text)]

theorem register_numbers_agree_hexadecimal :
    RegisterNumber "0x1F".toList 31 ∧
      (RegisterConfigName.parse (registerEntry "0x1F") "bus" 1).map
        RegisterConfigName.registerNumber = .ok 31 ∧
      registerNumberFromString "0x1F" = .ok 31 := by
  have constant : Constant "0x1F".toList 31 :=
    .hexadecimal (.inl rfl) (by simp) (List.all_eq_true.mp rfl)
  have number : RegisterNumber "0x1F".toList 31 :=
    .hexadecimal (.inl rfl) (by simp) (List.all_eq_true.mp rfl) (by decide)
  have agreed := (@register_numbers_agree_iff "0x1F" (by decide)
    (by simp; decide) (by simp; decide) (by simp) (registerEntry "0x1F") rfl
    "bus" (by decide) 1 (by decide)).mpr
  suffices plain : ¬Ambiguous "0x1F".toList from
    ⟨number, (agreed plain 31).1.mpr number, (agreed plain 31).2.mpr number⟩
  intro ambiguous
  generalize same : "0x1F".toList = text at ambiguous constant
  cases ambiguous with
  | signed bounded _ _ =>
    rcases bounded with ⟨rfl, _⟩ | ⟨rfl, _⟩ <;> simp at same
  | octal decimal _ _ _ =>
    exact absurd (decimal 'x' (by simp [← same])) (by decide)
  | notOctal _ none => exact none 31 constant
  | terminated _ _ _ cut =>
    exact cut (cString_of_whole fun _ => constant.ne_null)
  | truncated hexadecimal _ _ _ _ =>
    rw [cString_of_whole fun _ => constant.ne_null] at hexadecimal
    exact absurd (hexadecimal 'x' (by simp [← same])) (by decide)

/-- A leading zero makes a number octal for both parsers, the loader takes
hexadecimal digits and reads up to a null byte, and requests may have a
sign. -/
theorem register_numbers_differ :
    (RegisterConfigName.parse (registerEntry "010") "bus" 1).map
        RegisterConfigName.registerNumber = .ok 7 ∧
    registerNumberFromString "010" = .ok 7 ∧
    (RegisterConfigName.parse (registerEntry "1a") "bus" 1).map
        RegisterConfigName.registerNumber = .ok 0 ∧
    registerNumberFromString "1a" = .error "Invalid register number: 1a" ∧
    (RegisterConfigName.parse (registerEntry "12\x00") "bus" 1).map
        RegisterConfigName.registerNumber = .ok 11 ∧
    (RegisterConfigName.parse (registerEntry "-5") "bus" 1).map
        RegisterConfigName.registerNumber =
      .error "Invalid register specification" ∧
    registerNumberFromString "-5" = .ok (-6) := by
  decide +kernel

end MqmGateway
