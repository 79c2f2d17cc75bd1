import Mathlib.Data.List.TakeWhile
import Mathlib.Data.Nat.Digits.Defs
import MqmGateway.MqttValue

/-!
# Integer literals

The integer constants of C with an optional sign, as a grammar that gives each
text its exact value, and what `strtol` and `strtoll` make of a text.
-/

namespace MqmGateway

def digitsValue (base : Nat) (digits : List Char) : Nat :=
  Nat.ofDigits base
    (digits.reverse.map fun digit => (digitValue digit).getD 0)

/-- An integer constant without suffix. -/
inductive Constant : List Char → Nat → Prop where
  | hexadecimal {x : Char} {digits : List Char} :
      x = 'x' ∨ x = 'X' →
      digits ≠ [] →
      (∀ digit ∈ digits, isDigitOf 16 digit = true) →
      Constant ('0' :: x :: digits) (digitsValue 16 digits)
  | octal {digits : List Char} :
      (∀ digit ∈ digits, isDigitOf 8 digit = true) →
      Constant ('0' :: digits) (digitsValue 8 ('0' :: digits))
  | decimal {first : Char} {digits : List Char} :
      first ≠ '0' →
      (∀ digit ∈ first :: digits, isDigitOf 10 digit = true) →
      Constant (first :: digits) (digitsValue 10 (first :: digits))

inductive DecimalConstant : List Char → Nat → Prop where
  | digits {first : Char} {digits : List Char} :
      (∀ digit ∈ first :: digits, isDigitOf 10 digit = true) →
      DecimalConstant (first :: digits) (digitsValue 10 (first :: digits))

/-- A constant with an optional sign. -/
inductive Literal (constant : List Char → Nat → Prop) :
    List Char → Int → Prop where
  | plain {digits : List Char} {value : Nat} :
      constant digits value → Literal constant digits value
  | plus {digits : List Char} {value : Nat} :
      constant digits value → Literal constant ('+' :: digits) value
  | minus {digits : List Char} {value : Nat} :
      constant digits value → Literal constant ('-' :: digits) (-value)

theorem foldl_digitsValue (base : Nat) (digits : List Char) :
    digits.foldl (fun value digit =>
        value * base + (digitValue digit).getD 0) 0 =
      digitsValue base digits := by
  rw [digitsValue, Nat.ofDigits_eq_foldr, List.foldr_map, List.foldr_reverse]
  congr 1
  funext value digit
  rw [Nat.mul_comm, Nat.add_comm]
  rfl

theorem foldl_digits (base : Nat) (digits : List Char) :
    digits.foldl (fun (value : Int) digit =>
        value * base + (digitValue digit).getD 0) ((0 : Nat) : Int) =
      digitsValue base digits := by
  have counted (start : Nat) :
      digits.foldl (fun (value : Int) digit =>
          value * base + (digitValue digit).getD 0) start =
        ((digits.foldl (fun value digit =>
          value * base + (digitValue digit).getD 0) start : Nat) : Int) := by
    induction digits generalizing start with
    | nil => rfl
    | cons digit digits induction =>
      rw [List.foldl_cons, List.foldl_cons, ← induction]
      push_cast
      rfl
  rw [counted, foldl_digitsValue]

def scan (base : Nat) (negative : Bool) (digits text : List Char) :
    Int × List Char :=
  let number := digits.takeWhile (isDigitOf base)
  let value : Int := number.foldl
    (fun value digit => value * base + (digitValue digit).getD 0) (0 : Nat)
  if number.isEmpty then
    (0, text)
  else
    (clampLong (if negative then -value else value),
      digits.dropWhile (isDigitOf base))

variable {base value : Nat} {digits text : List Char} {digit char : Char}
  {constant : List Char → Nat → Prop}

theorem scan_complete (nonempty : digits ≠ [])
    (allDigits : ∀ digit ∈ digits, isDigitOf base digit = true)
    (negative : Bool) (text : List Char) :
    scan base negative digits text =
      (clampLong (if negative then -(digitsValue base digits : Int)
        else digitsValue base digits), []) := by
  have whole : digits.takeWhile (isDigitOf base) = digits :=
    List.takeWhile_eq_self_iff.mpr allDigits
  have rest : digits.dropWhile (isDigitOf base) = [] :=
    List.dropWhile_eq_nil_iff.mpr allDigits
  rw [scan, whole, rest, foldl_digits]
  simp [nonempty]

theorem scan_sound {negative : Bool} {value : Int} (nonempty : text ≠ [])
    (scanned : scan base negative digits text = (value, [])) :
    digits ≠ [] ∧ ∀ digit ∈ digits, isDigitOf base digit = true := by
  rw [scan] at scanned
  split at scanned
  · cases scanned
    exact absurd rfl nonempty
  · rename_i number
    refine ⟨?_, List.dropWhile_eq_nil_iff.mp (congrArg Prod.snd scanned)⟩
    intro none
    rw [none] at number
    exact number rfl

def withoutSign (text : List Char) : List Char :=
  if text.head? = some '-' ∨ text.head? = some '+' then text.drop 1 else text

section Literals

variable {constant : List Char → Nat → Prop}

/-- Constants start with a digit, so a sign is no part of them. -/
theorem literal_iff (unsigned : ∀ digits value, constant digits value →
      digits.head? ≠ some '-' ∧ digits.head? ≠ some '+')
    {value : Int} :
    Literal constant text value ↔
      ∃ magnitude : Nat, constant (withoutSign text) magnitude ∧
        value = if text.head? = some '-' then -(magnitude : Int)
          else magnitude := by
  constructor
  · intro literal
    cases literal with
    | @plain _ magnitude given =>
      obtain ⟨minus, plus⟩ := unsigned _ _ given
      refine ⟨magnitude, ?_, by rw [if_neg minus]⟩
      rw [withoutSign, if_neg (not_or.mpr ⟨minus, plus⟩)]
      exact given
    | @plus _ magnitude given => exact ⟨magnitude, given, rfl⟩
    | @minus _ magnitude given => exact ⟨magnitude, given, rfl⟩
  · intro ⟨magnitude, given, same⟩
    subst same
    cases text with
    | nil => exact .plain given
    | cons first rest =>
      by_cases minus : first = '-'
      · subst minus
        exact .minus given
      · by_cases plus : first = '+'
        · subst plus
          exact .plus given
        · rw [withoutSign, if_neg (by simp [minus, plus])] at given
          rw [if_neg (by simpa using minus)]
          exact .plain given

end Literals

theorem head?_of_isDigitOf {base : Nat} {first : Char} {rest : List Char}
    (isDigit : isDigitOf base first = true) :
    (first :: rest).head? ≠ some '-' ∧ (first :: rest).head? ≠ some '+' := by
  refine ⟨?_, ?_⟩ <;>
  · intro same
    cases same
    simp [isDigitOf, digitValue] at isDigit

theorem DecimalConstant.head? (constant : DecimalConstant digits value) :
    digits.head? ≠ some '-' ∧ digits.head? ≠ some '+' := by
  cases constant with
  | digits allDigits => exact head?_of_isDigitOf (allDigits _ List.mem_cons_self)

theorem Constant.head? (constant : Constant digits value) :
    digits.head? ≠ some '-' ∧ digits.head? ≠ some '+' := by
  cases constant with
  | hexadecimal _ _ _ => simp
  | octal _ => simp
  | decimal _ allDigits =>
    exact head?_of_isDigitOf (allDigits _ List.mem_cons_self)

theorem decimalConstant_iff : DecimalConstant digits value ↔
      digits ≠ [] ∧ (∀ digit ∈ digits, isDigitOf 10 digit = true) ∧
        value = digitsValue 10 digits := by
  constructor
  · intro constant
    cases constant with
    | digits allDigits => exact ⟨by simp, allDigits, rfl⟩
  · intro ⟨nonempty, allDigits, same⟩
    subst same
    cases digits with
    | nil => exact absurd rfl nonempty
    | cons first digits => exact .digits allDigits

theorem startsHex_iff : startsHex text = true ↔
      ∃ x digit rest, text = '0' :: x :: digit :: rest ∧
        (x = 'x' ∨ x = 'X') ∧ isDigitOf 16 digit = true := by
  constructor
  · intro starts
    unfold startsHex at starts
    split at starts
    · rename_i x digit rest
      obtain ⟨letter, isDigit⟩ := Bool.and_eq_true_iff.mp starts
      exact ⟨x, digit, rest, rfl, by simpa using letter, isDigit⟩
    · cases starts
  · intro ⟨x, digit, rest, same, letter, isDigit⟩
    subst same
    rcases letter with rfl | rfl <;> simp [startsHex, isDigit]

def autoDigits (digits : List Char) : List Char :=
  if autoBase digits = 16 then digits.drop 2 else digits

theorem autoBase_of_hex (hex : startsHex digits = true) :
    autoBase digits = 16 ∧ autoDigits digits = digits.drop 2 := by
  have base : autoBase digits = 16 := if_pos hex
  exact ⟨base, if_pos base⟩

theorem autoBase_of_zero {rest : List Char}
    (plain : startsHex ('0' :: rest) = false) :
    autoBase ('0' :: rest) = 8 ∧ autoDigits ('0' :: rest) = '0' :: rest := by
  have base : autoBase ('0' :: rest) = 8 := by
    rw [autoBase, plain]
    rfl
  exact ⟨base, if_neg (by rw [base]; decide)⟩

theorem autoBase_of_nonzero (nonzero : digits.head? ≠ some '0') :
    autoBase digits = 10 ∧ autoDigits digits = digits := by
  have base : autoBase digits = 10 := by
    rw [autoBase, if_neg ?_, if_neg nonzero]
    intro hex
    obtain ⟨x, digit, rest, rfl, _⟩ := startsHex_iff.mp hex
    exact nonzero rfl
  exact ⟨base, if_neg (by rw [base]; decide)⟩

theorem startsHex_of_octal
    (allDigits : ∀ digit ∈ digits, isDigitOf 8 digit = true) :
    startsHex ('0' :: digits) = false := by
  cases hex : startsHex ('0' :: digits) with
  | false => rfl
  | true =>
    obtain ⟨x, digit, rest, same, letter, _⟩ := startsHex_iff.mp hex
    cases same
    have isDigit := allDigits x List.mem_cons_self
    rcases letter with rfl | rfl <;> simp [isDigitOf, digitValue] at isDigit

/-- The text from which `strtol` takes base and digits is a constant exactly
if it consists of such digits. -/
theorem constant_iff : Constant digits value ↔ autoDigits digits ≠ [] ∧
        (∀ digit ∈ autoDigits digits,
          isDigitOf (autoBase digits) digit = true) ∧
        value = digitsValue (autoBase digits) (autoDigits digits) := by
  constructor
  · intro constant
    cases constant with
    | @hexadecimal x digits letter nonempty allDigits =>
      cases digits with
      | nil => exact absurd rfl nonempty
      | cons first rest =>
        obtain ⟨base, same⟩ := autoBase_of_hex (startsHex_iff.mpr
          ⟨x, first, rest, rfl, letter, allDigits first List.mem_cons_self⟩)
        rw [base, same]
        exact ⟨nonempty, allDigits, rfl⟩
    | octal allDigits =>
      obtain ⟨base, same⟩ := autoBase_of_zero (startsHex_of_octal allDigits)
      rw [base, same]
      exact ⟨by simp, List.forall_mem_cons.mpr ⟨rfl, allDigits⟩, rfl⟩
    | @decimal first digits nonzero allDigits =>
      have different : (first :: digits).head? ≠ some '0' := by
        simpa using nonzero
      obtain ⟨base, same⟩ := autoBase_of_nonzero different
      rw [base, same]
      exact ⟨by simp, allDigits, rfl⟩
  · intro ⟨nonempty, allDigits, valued⟩
    subst valued
    by_cases hex : startsHex digits = true
    · obtain ⟨base, same⟩ := autoBase_of_hex hex
      obtain ⟨x, digit, rest, rfl, letter, _⟩ := startsHex_iff.mp hex
      rw [base, same] at allDigits ⊢
      exact .hexadecimal letter (by simp) allDigits
    · by_cases zero : digits.head? = some '0'
      · obtain ⟨rest, rfl⟩ := List.head?_eq_some_iff.mp zero
        obtain ⟨base, same⟩ := autoBase_of_zero (by simpa using hex)
        rw [base, same] at allDigits ⊢
        exact .octal (List.forall_mem_cons.mp allDigits).2
      · obtain ⟨base, same⟩ := autoBase_of_nonzero zero
        rw [base, same] at allDigits ⊢
        rw [same] at nonempty
        cases digits with
        | nil => exact absurd rfl nonempty
        | cons first rest => exact .decimal (by simpa using zero) allDigits

theorem strtol_eq_scan (text : List Char) : strtol text =
      let trimmed := text.dropWhile isSpace
      scan (autoBase (withoutSign trimmed)) (decide (trimmed.head? = some '-'))
        (autoDigits (withoutSign trimmed)) text := by
  simp only [scan, strtol, decide_eq_true_eq]
  rfl

theorem strtoll_eq_scan (text : List Char) : strtoll text =
      let trimmed := text.dropWhile isSpace
      scan 10 (decide (trimmed.head? = some '-')) (withoutSign trimmed)
        text := by
  simp only [scan, strtoll, decide_eq_true_eq]
  rfl

section Scanning

variable {text : List Char}

theorem strtol_of_literal {value : Int}
    (literal : Literal Constant (text.dropWhile isSpace) value) :
    strtol text = (clampLong value, []) := by
  obtain ⟨magnitude, constant, rfl⟩ :=
    (literal_iff fun _ _ => Constant.head?).mp literal
  obtain ⟨nonempty, allDigits, rfl⟩ := constant_iff.mp constant
  simp only [strtol_eq_scan, scan_complete nonempty allDigits,
    decide_eq_true_eq]

theorem literal_of_strtol {value : Int} (nonempty : text ≠ [])
    (read : strtol text = (value, [])) :
    ∃ exact, Literal Constant (text.dropWhile isSpace) exact := by
  rw [strtol_eq_scan] at read
  obtain ⟨digits, allDigits⟩ := scan_sound nonempty read
  exact ⟨_, (literal_iff fun _ _ => Constant.head?).mpr
    ⟨_, constant_iff.mpr ⟨digits, allDigits, rfl⟩, rfl⟩⟩

theorem strtoll_of_literal {value : Int}
    (literal : Literal DecimalConstant (text.dropWhile isSpace) value) :
    strtoll text = (clampLong value, []) := by
  obtain ⟨magnitude, constant, rfl⟩ :=
    (literal_iff fun _ _ => DecimalConstant.head?).mp literal
  obtain ⟨nonempty, allDigits, rfl⟩ := decimalConstant_iff.mp constant
  simp only [strtoll_eq_scan, scan_complete nonempty allDigits,
    decide_eq_true_eq]

theorem literal_of_strtoll {value : Int} (nonempty : text ≠ [])
    (read : strtoll text = (value, [])) :
    ∃ exact, Literal DecimalConstant (text.dropWhile isSpace) exact := by
  rw [strtoll_eq_scan] at read
  obtain ⟨digits, allDigits⟩ := scan_sound nonempty read
  exact ⟨_, (literal_iff fun _ _ => DecimalConstant.head?).mpr
    ⟨_, decimalConstant_iff.mpr ⟨digits, allDigits, rfl⟩, rfl⟩⟩

end Scanning

theorem le_of_isDigitOf
    (isDigit : isDigitOf base digit = true) : 48 ≤ digit.toNat := by
  by_contra low
  have below (bound : Char) (high : 48 ≤ bound.toNat) : ¬bound ≤ digit := by
    intro atMost
    have inOrder : bound.toNat ≤ digit.toNat := Char.le_def.mp atMost
    omega
  have none : digitValue digit = none := by
    simp [digitValue, below '0' (by decide), below 'a' (by decide),
      below 'A' (by decide)]
  rw [isDigitOf, none] at isDigit
  cases isDigit

theorem ne_null_of_isDigitOf
    (isDigit : isDigitOf base digit = true) : digit.toNat ≠ 0 := by
  have high := le_of_isDigitOf isDigit
  omega

theorem Constant.ne_null
    (constant : Constant digits value) (listed : char ∈ digits) :
    char.toNat ≠ 0 := by
  cases constant with
  | hexadecimal letter _ allDigits =>
    rcases List.mem_cons.mp listed with rfl | later
    · decide
    rcases List.mem_cons.mp later with rfl | later
    · rcases letter with rfl | rfl <;> decide
    · exact ne_null_of_isDigitOf (allDigits char later)
  | octal allDigits =>
    rcases List.mem_cons.mp listed with rfl | later
    · decide
    · exact ne_null_of_isDigitOf (allDigits char later)
  | decimal _ allDigits => exact ne_null_of_isDigitOf (allDigits char listed)

theorem DecimalConstant.ne_null (constant : DecimalConstant digits value)
    (listed : char ∈ digits) : char.toNat ≠ 0 := by
  cases constant with
  | digits allDigits => exact ne_null_of_isDigitOf (allDigits char listed)

theorem Literal.ne_null (each : ∀ digits value, constant digits value →
      ∀ char ∈ digits, char.toNat ≠ 0)
    {value : Int}
    (literal : Literal constant (text.dropWhile isSpace) value)
    (listed : char ∈ text) : char.toNat ≠ 0 := by
  rw [← List.takeWhile_append_dropWhile (p := isSpace) (l := text)] at listed
  rcases List.mem_append.mp listed with space | rest
  · intro null
    have white := List.mem_takeWhile_imp space
    simp [isSpace, null] at white
  · generalize text.dropWhile isSpace = shown at literal rest
    cases literal with
    | plain given => exact each _ _ given char rest
    | plus given | minus given =>
      rcases List.mem_cons.mp rest with rfl | later
      · decide
      · exact each _ _ given char later

theorem literal_unique (unsigned : ∀ digits value, constant digits value →
      digits.head? ≠ some '-' ∧ digits.head? ≠ some '+')
    (unique : ∀ digits first second, constant digits first →
      constant digits second → first = second)
    {first second : Int}
    (one : Literal constant text first) (other : Literal constant text second) :
    first = second := by
  obtain ⟨magnitude, given, rfl⟩ := (literal_iff unsigned).mp one
  obtain ⟨same, again, rfl⟩ := (literal_iff unsigned).mp other
  rw [unique _ _ _ given again]

theorem isSpace_of_isDigitOf
    (isDigit : isDigitOf base digit = true) : isSpace digit = false := by
  have high := le_of_isDigitOf isDigit
  simp only [isSpace, decide_eq_false_iff_not]
  omega

theorem bare_of_isDigitOf {base : Nat} {first : Char} {rest : List Char}
    (isDigit : isDigitOf base first = true) :
    (first :: rest).dropWhile isSpace = first :: rest ∧
      withoutSign (first :: rest) = first :: rest := by
  constructor
  · rw [List.dropWhile_cons, isSpace_of_isDigitOf isDigit]
    rfl
  · exact if_neg (not_or.mpr (head?_of_isDigitOf isDigit))

theorem isDigitOf_mono {lower upper : Nat} (ordered : lower ≤ upper)
    (isDigit : isDigitOf lower char = true) :
    isDigitOf upper char = true := by
  rw [isDigitOf] at isDigit ⊢
  cases value : digitValue char with
  | none =>
    rw [value] at isDigit
    cases isDigit
  | some digit =>
    rw [value] at isDigit
    have below : digit < lower := by simpa using isDigit
    simpa using below.trans_le ordered

theorem second_of_decimal
    (decimal : ∀ digit ∈ text, isDigitOf 10 digit = true) :
    ¬(text[1]? = some 'x' ∨ text[1]? = some 'X') := by
  rintro (letter | letter) <;>
  · have isDigit := decimal _ (List.mem_of_getElem? letter)
    simp [isDigitOf, digitValue] at isDigit

theorem value_of_constant (constant : Constant text value)
    (decimal : ∀ digit ∈ text, isDigitOf 10 digit = true) :
    value ≤ digitsValue 10 text ∧ (value = 0 → digitsValue 10 text = 0) := by
  cases constant with
  | hexadecimal letter _ _ =>
    exact absurd letter (by simpa using second_of_decimal decimal)
  | @octal digits _ =>
    refine ⟨Nat.ofDigits_monotone _ (by decide), ?_⟩
    intro zero
    have zeros := Nat.digits_zero_of_eq_zero (by decide) zero
    rw [digitsValue, List.eq_replicate_of_mem zeros,
      Nat.ofDigits_replicate_zero]
  | decimal _ _ => exact ⟨le_rfl, id⟩

theorem startsHex_of_decimal
    (decimal : ∀ digit ∈ text, isDigitOf 10 digit = true) :
    startsHex text = false := by
  rw [Bool.eq_false_iff]
  intro hex
  obtain ⟨x, digit, rest, rfl, letter, _⟩ := startsHex_iff.mp hex
  exact second_of_decimal decimal (by simpa using letter)

theorem Literal.dropWhile_isSpace
    (starts : ∀ digits value, constant digits value →
      ∃ base first rest, digits = first :: rest ∧ isDigitOf base first = true)
    {value : Int} (literal : Literal constant text value) :
    text.dropWhile isSpace = text := by
  cases literal with
  | plain given =>
    obtain ⟨base, first, rest, rfl, isDigit⟩ := starts _ _ given
    rw [List.dropWhile_cons, isSpace_of_isDigitOf isDigit]
    rfl
  | plus _ => rfl
  | minus _ => rfl

theorem DecimalConstant.starts (constant : DecimalConstant digits value) :
    ∃ base first rest, digits = first :: rest ∧
      isDigitOf base first = true := by
  cases constant with
  | digits allDigits =>
    exact ⟨10, _, _, rfl, allDigits _ List.mem_cons_self⟩

theorem Constant.starts (constant : Constant digits value) :
    ∃ base first rest, digits = first :: rest ∧
      isDigitOf base first = true := by
  cases constant with
  | hexadecimal _ _ _ => exact ⟨10, _, _, rfl, rfl⟩
  | octal _ => exact ⟨10, _, _, rfl, rfl⟩
  | decimal _ allDigits =>
    exact ⟨10, _, _, rfl, allDigits _ List.mem_cons_self⟩

theorem toInt32_clampLong_eq_iff {value : Int} :
    toInt32 (clampLong value) = value ↔
      -2147483648 ≤ value ∧ value ≤ 2147483647 := by
  rw [toInt32, clampLong]
  omega

theorem cString_eq_self_iff {payload : Payload} :
    cString payload = payload ↔ ∀ char ∈ payload, char.toNat ≠ 0 := by
  simp [cString, List.takeWhile_eq_self_iff]

theorem cString_of_whole {payload : Payload}
    (whole : ∀ char ∈ payload, char.toNat ≠ 0) :
    cString payload = payload :=
  cString_eq_self_iff.mpr whole

section Rendering

theorem digitsValue_append (base : Nat) (digits : List Char) (last : Char) :
    digitsValue base (digits ++ [last]) =
      base * digitsValue base digits + (digitValue last).getD 0 := by
  simp [digitsValue, Nat.ofDigits_cons, Nat.add_comm]

theorem digitValue_digitChar :
    ∀ digit < 10, digitValue digit.digitChar = some digit := by
  decide +kernel

theorem isDigitOf_digitChar {digit : Nat} (small : digit < 10) :
    isDigitOf 10 digit.digitChar = true := by
  rw [isDigitOf, digitValue_digitChar digit small]
  simpa using small

/-- Numbers are written in digits, without leading zeros. -/
theorem toDigits_spec (number : Nat) :
    (∀ digit ∈ Nat.toDigits 10 number, isDigitOf 10 digit = true) ∧
      digitsValue 10 (Nat.toDigits 10 number) = number ∧
      (0 < number → (Nat.toDigits 10 number).head? ≠ some '0') := by
  induction number using Nat.strongRecOn with
  | ind number induction =>
    by_cases small : number < 10
    · rw [Nat.toDigits_of_lt_base small]
      refine ⟨by simpa using isDigitOf_digitChar small, ?_, ?_⟩
      · simp [digitsValue, digitValue_digitChar number small]
      · intro positive zero
        have value := digitValue_digitChar number small
        rw [Option.some.inj zero] at value
        cases value
        exact absurd positive (by decide)
    · obtain ⟨digits, value, leading⟩ :=
        induction (number / 10) (by omega)
      have last : number % 10 < 10 := by omega
      rw [Nat.toDigits_of_base_le (by decide) (by omega)]
      refine ⟨?_, ?_, ?_⟩
      · intro digit listed
        rcases List.mem_append.mp listed with front | back
        · exact digits digit front
        · cases List.mem_singleton.mp back
          exact isDigitOf_digitChar last
      · rw [digitsValue_append, value, digitValue_digitChar _ last]
        simp only [Option.getD_some]
        omega
      · intro _
        cases shape : Nat.toDigits 10 (number / 10) with
        | nil => exact absurd shape Nat.toDigits_ne_nil
        | cons first rest =>
          rw [shape] at leading
          exact leading (by omega)

theorem constant_toDigits (number : Nat) :
    Constant (Nat.toDigits 10 number) number := by
  obtain ⟨digits, value, leading⟩ := toDigits_spec number
  cases shape : Nat.toDigits 10 number with
  | nil => exact absurd shape Nat.toDigits_ne_nil
  | cons first rest =>
    rw [shape] at digits value leading
    by_cases zero : number = 0
    · subst zero
      cases shape
      exact .octal (List.forall_mem_nil _)
    · have constant : Constant (first :: rest) _ :=
        .decimal (by simpa using leading (by omega)) digits
      rwa [value] at constant

theorem decimalConstant_toDigits (number : Nat) :
    DecimalConstant (Nat.toDigits 10 number) number := by
  obtain ⟨digits, value, _⟩ := toDigits_spec number
  exact decimalConstant_iff.mpr ⟨Nat.toDigits_ne_nil, digits, value.symm⟩

theorem literal_of_toDigits
    (digits : ∀ number, constant (Nat.toDigits 10 number) number)
    (value : Int) : Literal constant (intText value) value := by
  rw [intText]
  split
  · have negative : value = -(value.natAbs : Int) := by omega
    have literal := Literal.minus (digits value.natAbs)
    rwa [← negative] at literal
  · have positive : value = (value.natAbs : Int) := by omega
    have literal := Literal.plain (digits value.natAbs)
    rwa [← positive] at literal

theorem literal_intText (value : Int) :
    Literal Constant (intText value) value :=
  literal_of_toDigits constant_toDigits value

theorem decimalLiteral_intText (value : Int) :
    Literal DecimalConstant (intText value) value :=
  literal_of_toDigits decimalConstant_toDigits value

theorem intText_spec {value : Int} (nonnegative : 0 ≤ value) :
    intText value ≠ [] ∧ (∀ digit ∈ intText value, isDigitOf 10 digit = true) ∧
      (digitsValue 10 (intText value) : Int) = value := by
  obtain ⟨digits, same, _⟩ := toDigits_spec value.natAbs
  refine ⟨intText_ne_nil value, ?_⟩
  rw [intText, if_neg (by omega)]
  exact ⟨digits, by omega⟩

theorem cases_of_mem_intText {value : Int} (listed : char ∈ intText value) :
    char = '-' ∨ isDigitOf 10 char = true := by
  have digits := (toDigits_spec value.natAbs).1
  rw [intText] at listed
  split at listed
  · rcases List.mem_cons.mp listed with hyphen | later
    · exact .inl hyphen
    · exact .inr (digits char later)
  · exact .inr (digits char listed)

theorem ne_null_of_mem_intText {value : Int}
    (listed : char ∈ intText value) : char.toNat ≠ 0 := by
  rcases cases_of_mem_intText listed with rfl | digit
  · decide
  · have high := le_of_isDigitOf digit
    omega

end Rendering

namespace MqttValue

variable {payload : Payload}

theorem getInt_of_literal {value : Int}
    (literal : Literal Constant ((cString payload).dropWhile isSpace) value) :
    (MqttValue.binary payload).getInt = .ok (toInt32 (clampLong value)) := by
  rw [getInt, strtol_of_literal literal]

theorem getInt_of_no_literal (nonempty : cString payload ≠ []) (none : ¬∃ value,
      Literal Constant ((cString payload).dropWhile isSpace) value) :
    (MqttValue.binary payload).getInt = .error .conv := by
  rw [getInt]
  split
  · rename_i value read
    exact absurd (literal_of_strtol nonempty read) none
  · rfl

theorem getInt64_of_literal {value : Int} (literal :
      Literal DecimalConstant ((cString payload).dropWhile isSpace) value) :
    (MqttValue.binary payload).getInt64 = .ok (clampLong value) := by
  rw [getInt64, strtoll_of_literal literal]

theorem getInt64_of_no_literal (nonempty : cString payload ≠ [])
    (none : ¬∃ value,
      Literal DecimalConstant ((cString payload).dropWhile isSpace) value) :
    (MqttValue.binary payload).getInt64 = .error .conv := by
  rw [getInt64]
  split
  · rename_i value read
    exact absurd (literal_of_strtoll nonempty read) none
  · rfl

end MqttValue

theorem MqttValue.getInt_intText {value : Int} (lower : -2147483648 ≤ value)
    (upper : value ≤ 2147483647) :
    (MqttValue.binary (intText value)).getInt = .ok value := by
  have literal := literal_intText value
  have shown : Literal Constant
      ((cString (intText value)).dropWhile isSpace) value := by
    rwa [cString_of_whole fun _ => ne_null_of_mem_intText,
      literal.dropWhile_isSpace fun _ _ => Constant.starts]
  rw [getInt_of_literal shown, toInt32_clampLong_eq_iff.mpr ⟨lower, upper⟩]

end MqmGateway
