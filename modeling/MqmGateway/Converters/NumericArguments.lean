import MqmGateway.ConverterNameParser.Scanning
import MqmGateway.Converters.Debug
import MqmGateway.MqttValue.Literals

/-!
# Numbers as arguments of converters

`as_int` takes the base from the text and `as_uint16` always reads
hexadecimal digits.  A declared default is kept as a decimal text, which is
what `std.bitmask` reads when no mask is given.
-/

namespace MqmGateway

def rfind (word : Payload) : Payload → Option Nat
  | [] => if word = [] then some 0 else none
  | char :: rest =>
    match rfind word rest with
    | some index => some (index + 1)
    | none => if word.isPrefixOf (char :: rest) then some 0 else none

/-- `std::exception::what` ends at a null byte. -/
def what (message : String) : String :=
  String.ofList (message.toList.takeWhile fun char => char.toNat ≠ 0)

namespace ConverterTools

/-- The digits behind the prefix that `strtol` skips in base 16. -/
def baseDigits (base : Nat) (unsigned : Payload) : Payload :=
  if base = 16 ∧ startsHex unsigned = true then unsigned.drop 2
  else unsigned

/-- `std::stoi` in the given base, which must use up the text. -/
def toInt (arg : Payload) (base : Nat) : Except String Int :=
  let trimmed := arg.dropWhile isSpace
  let digits := baseDigits base (withoutSign trimmed)
  let number := digits.takeWhile (isDigitOf base)
  let rest := digits.dropWhile (isDigitOf base)
  let magnitude : Int := number.foldl
    (fun value digit => value * base + (digitValue digit).getD 0) (0 : Nat)
  let value := if trimmed.head? = some '-' then -magnitude else magnitude
  if number.isEmpty then
    .error "stoi"
  else if value < -2147483648 ∨ 2147483647 < value then
    .error "stoi"
  else if !rest.isEmpty then
    .error (String.ofList arg ++ " has unparsable chars starting from idx=" ++
      toString (arg.length - rest.length) ++ " when converting to int")
  else
    .ok value

end ConverterTools

open ConverterTools

def ConverterArg.ofInt (name : Payload) (argType : ConverterArgType)
    (defValue : Int) : ConverterArg :=
  { name, argType, defaultValue := intText defValue }

namespace ConverterArgValue

def base (value : ConverterArgValue) : Nat :=
  if rfind "0x".toList value.value = some 0 then 16 else 10

def asInt (value : ConverterArgValue) : Except String Int :=
  (toInt value.value value.base).mapError fun message =>
    "Invalid" ++ String.ofList value.argName ++ " int value:" ++ what message

def asUInt16 (value : ConverterArgValue) : Except String UInt16 :=
  let read := do
    let number ← toInt value.value 16
    if number < 0 ∨ 65535 < number then
      .error "value out of range"
    else
      .ok (UInt16.ofNat number.toNat)
  read.mapError fun message =>
    "Invalid" ++ String.ofList value.argName ++ " uint16 value:" ++
      what message

end ConverterArgValue

def bitmaskConverter (mask : UInt16) : DataConverter :=
  { toMqtt := fun data =>
      match data with
      | [] => .error .undefined
      | value :: _ => .ok (.int (value &&& mask).toNat)
    toModbus := fun _ _ => .error .standard }

def StdConvPlugin.bitmaskClass : ConverterClass :=
  { getArgs := [.ofInt "mask".toList .int 0xffff]
    setArgValues := fun values => do
      let value ← values.getArgValue "mask".toList
      let mask ← value.asUInt16
      .ok (bitmaskConverter mask) }

section Digits

variable {digits : Payload}

theorem digitsValue_ten_sixteen (digits : Payload) :
    digitsValue 10 digits ≤ digitsValue 16 digits ∧
      (digitsValue 10 digits = 0 ↔ digitsValue 16 digits = 0) := by
  induction digits using List.reverseRec with
  | nil => exact ⟨le_refl _, Iff.rfl⟩
  | append_singleton digits last induction =>
    rw [digitsValue_append, digitsValue_append]
    omega

theorem digitsValue_ten_eq_sixteen_iff
    (decimal : ∀ digit ∈ digits, isDigitOf 10 digit = true) :
    digitsValue 16 digits = digitsValue 10 digits ↔
      digitsValue 10 digits ≤ 9 := by
  induction digits using List.reverseRec with
  | nil => exact iff_of_true rfl (by decide)
  | append_singleton digits last _ =>
    have front := digitsValue_ten_sixteen digits
    have small : (digitValue last).getD 0 ≤ 9 := by
      have digit := decimal last (by simp)
      rw [isDigitOf] at digit
      cases value : digitValue last with
      | none => decide
      | some number =>
        rw [value] at digit
        have below : number < 10 := by simpa using digit
        exact Nat.le_of_lt_succ below
    rw [digitsValue_append, digitsValue_append]
    omega

end Digits

namespace ConverterTools

variable {arg : Payload} {base : Nat} {number : Int}

theorem baseDigits_of_decimal
    (decimal : ∀ digit ∈ arg, isDigitOf 10 digit = true) :
    baseDigits 16 arg = arg :=
  if_neg (by simp [startsHex_of_decimal decimal])

/-- The sign, then only digits of the base, at least one. -/
theorem toInt_ok_iff : toInt arg base = .ok number ↔
      baseDigits base (withoutSign (arg.dropWhile isSpace)) ≠ [] ∧
      (∀ digit ∈ baseDigits base (withoutSign (arg.dropWhile isSpace)),
        isDigitOf base digit = true) ∧
      number = (if (arg.dropWhile isSpace).head? = some '-' then
        -(digitsValue base (baseDigits base
          (withoutSign (arg.dropWhile isSpace))) : Int)
        else digitsValue base (baseDigits base
          (withoutSign (arg.dropWhile isSpace)))) ∧
      -2147483648 ≤ number ∧ number ≤ 2147483647 := by
  rw [toInt]
  generalize baseDigits base (withoutSign (arg.dropWhile isSpace)) = digits
  simp only [foldl_digits]
  by_cases allDigits : ∀ digit ∈ digits, isDigitOf base digit = true
  · have whole : digits.takeWhile (isDigitOf base) = digits :=
      List.takeWhile_eq_self_iff.mpr allDigits
    have ended : digits.dropWhile (isDigitOf base) = [] :=
      List.dropWhile_eq_nil_iff.mpr allDigits
    rw [whole, ended]
    generalize (if (arg.dropWhile isSpace).head? = some '-' then
      -(digitsValue base digits : Int) else digitsValue base digits) = value
    by_cases filled : digits = []
    · simp [filled]
    rw [if_neg (by simpa using filled)]
    by_cases int : value < -2147483648 ∨ 2147483647 < value
    · rw [if_pos int]
      refine iff_of_false (by simp) fun read => ?_
      omega
    · rw [if_neg int, if_neg (by simp), Except.ok.injEq]
      constructor
      · rintro rfl
        exact ⟨filled, allDigits, rfl, by omega⟩
      · exact fun read => read.2.2.1.symm
  · have more : (!(digits.dropWhile (isDigitOf base)).isEmpty) = true := by
      simpa using allDigits
    refine iff_of_false ?_ fun read => allDigits read.2.1
    rw [if_pos more]
    split_ifs <;> simp

theorem toInt_sixteen_of_ten {other : Int} (read : toInt arg 10 = .ok number)
    (otherRead : toInt arg 16 = .ok other) (nonnegative : 0 ≤ other) :
    other = number ↔ number ≤ 9 := by
  obtain ⟨_, decimal, same, _⟩ := toInt_ok_iff.mp read
  obtain ⟨_, _, otherSame, _⟩ := toInt_ok_iff.mp otherRead
  have plain : baseDigits 10 (withoutSign (arg.dropWhile isSpace)) =
      withoutSign (arg.dropWhile isSpace) := if_neg (by simp)
  rw [plain] at decimal same
  have unmarked := baseDigits_of_decimal decimal
  rw [unmarked] at otherSame
  have agree := digitsValue_ten_eq_sixteen_iff decimal
  have compared := digitsValue_ten_sixteen
    (withoutSign (arg.dropWhile isSpace))
  split at same <;> rename_i sign
  · rw [if_pos sign] at otherSame
    omega
  · rw [if_neg sign] at otherSame
    omega

theorem toInt_sixteen_of_decimal (filled : arg ≠ [])
    (decimal : ∀ digit ∈ arg, isDigitOf 10 digit = true) :
    toInt arg 16 = .ok number ↔
      number = digitsValue 16 arg ∧ number ≤ 2147483647 := by
  obtain ⟨first, rest, rfl⟩ := List.exists_cons_of_ne_nil filled
  have isDigit := decimal first List.mem_cons_self
  obtain ⟨trimmed, unsigned⟩ := @bare_of_isDigitOf 10 first rest isDigit
  have positive := (@head?_of_isDigitOf 10 first rest isDigit).1
  have hexadecimal : ∀ digit ∈ first :: rest, isDigitOf 16 digit = true :=
    fun digit listed => isDigitOf_mono (by decide) (decimal digit listed)
  rw [toInt_ok_iff, trimmed, unsigned, baseDigits_of_decimal decimal,
    if_neg positive]
  constructor
  · rintro ⟨_, _, same, _, upper⟩
    exact ⟨same, upper⟩
  · rintro ⟨same, upper⟩
    exact ⟨filled, hexadecimal, same, by omega, upper⟩

end ConverterTools

namespace ConverterArgValue

variable {value : ConverterArgValue}

theorem asInt_ok_iff {number : Int} : value.asInt = .ok number ↔
      toInt value.value value.base = .ok number :=
  mapError_eq_ok_iff

theorem asUInt16_ok_iff {mask : UInt16} : value.asUInt16 = .ok mask ↔
      toInt value.value 16 = .ok (mask.toNat : Int) := by
  rw [asUInt16, mapError_eq_ok_iff]
  have bound := mask.toNat_lt
  constructor
  · intro read
    obtain ⟨number, parsed, checked⟩ := exists_of_bind read
    split at checked
    · cases checked
    · cases checked
      rw [parsed, UInt16.toNat_ofNat', Except.ok.injEq]
      omega
  · intro parsed
    rw [parsed]
    refine (if_neg (by omega)).trans ?_
    rw [Int.toNat_natCast, UInt16.ofNat_toNat]

theorem base_cases (value : ConverterArgValue) :
    value.base = 16 ∨ value.base = 10 := by
  rw [base]
  split
  · exact .inl rfl
  · exact .inr rfl

theorem asUInt16_eq_asInt_iff {number : Int} {mask : UInt16}
    (int : value.asInt = .ok number) (uint16 : value.asUInt16 = .ok mask) :
    (mask.toNat : Int) = number ↔ value.base = 16 ∨ number ≤ 9 := by
  have read := asInt_ok_iff.mp int
  have otherRead := asUInt16_ok_iff.mp uint16
  rcases value.base_cases with hexadecimal | decimal
  · rw [hexadecimal, otherRead] at read
    exact iff_of_true (Except.ok.inj read) (.inl hexadecimal)
  · rw [decimal] at read
    rw [toInt_sixteen_of_ten read otherRead (Int.natCast_nonneg _), decimal]
    simp

theorem asUInt16_intText_iff {defValue : Int} (lower : 0 ≤ defValue)
    (upper : defValue ≤ 65535) (text : value.value = intText defValue) :
    value.asUInt16 = .ok (UInt16.ofInt defValue) ↔ defValue ≤ 9 := by
  obtain ⟨filled, decimal, same⟩ := intText_spec lower
  have agree := digitsValue_ten_eq_sixteen_iff decimal
  rw [asUInt16_ok_iff, text, toInt_sixteen_of_decimal filled decimal,
    toNat_ofInt]
  omega

/-- Both accessors take a number for the same exactly when it is marked as
hexadecimal or has one digit, and a default of more digits is not the number
that was declared. -/
theorem numeric_arguments_agree_iff (value : ConverterArgValue)
    (args : ConverterArgs) (name : Payload) (argType : ConverterArgType)
    (defValue : Int) :
    (∀ (number : Int) (mask : UInt16),
      value.asInt = .ok number → value.asUInt16 = .ok mask →
        ((mask.toNat : Int) = number ↔ value.base = 16 ∨ number ≤ 9)) ∧
      (0 ≤ defValue → defValue ≤ 65535 →
        (args.find? fun arg => arg.name = name) =
          some (.ofInt name argType defValue) →
        ((ConverterArgValues.create args).getArgValue name >>= asUInt16 =
          .ok (UInt16.ofInt defValue) ↔ defValue ≤ 9)) := by
  refine ⟨fun number mask => asUInt16_eq_asInt_iff, ?_⟩
  intro lower upper declared
  have stored : (ConverterArgValues.create args).getArgValue name =
      .ok { argName := name, argType, value := intText defValue } := by
    rw [ConverterArgValues.getArgValue, ConverterArgValues.find?_create,
      declared]
    rfl
  rw [stored]
  exact asUInt16_intText_iff lower upper rfl

theorem numeric_arguments_agree_small : (∃ number mask,
      asInt ⟨"mask".toList, .int, "0x1F".toList⟩ = .ok number ∧
        asUInt16 ⟨"mask".toList, .int, "0x1F".toList⟩ = .ok mask ∧
        (mask.toNat : Int) = number) ∧
      (ConverterArgValues.create [.ofInt "bit".toList .int (-1),
        .ofInt "mask".toList .int 7]).getArgValue "mask".toList >>=
          asUInt16 = .ok 7 := by
  obtain ⟨agree, kept⟩ := numeric_arguments_agree_iff
    ⟨"mask".toList, .int, "0x1F".toList⟩
    [.ofInt "bit".toList .int (-1), .ofInt "mask".toList .int 7]
    "mask".toList .int 7
  exact ⟨⟨31, 31, rfl, rfl, (agree 31 31 rfl rfl).mpr (.inl rfl)⟩,
    (kept (by decide) (by decide) rfl).mpr (by decide)⟩

/-- The text `10` is ten for one accessor and sixteen for the other.  Without
arguments `std.bitmask` cannot be created: its default has five digits. -/
theorem numeric_arguments_differ :
    asInt ⟨"mask".toList, .int, "10".toList⟩ = .ok 10 ∧
      asUInt16 ⟨"mask".toList, .int, "10".toList⟩ = .ok 16 ∧
      (StdConvPlugin.bitmaskClass.setArgValues
        (.create StdConvPlugin.bitmaskClass.getArgs)).map (fun _ => ()) =
          .error "Invalidmask uint16 value:value out of range" := by
  refine ⟨rfl, rfl, ?_⟩
  decide +kernel

end ConverterArgValue

end MqmGateway
