import MqmGateway.ModbusTypes

/-!
# Converted values

A converter turns register values into an `MqttValue` and back.  Payloads are
lists of characters that stand for bytes.
-/

namespace MqmGateway

/-- Exceptions, by the classes the `catch` clauses of the program tell apart.
`undefined` stands for a failed `assert` and for access behind the end of a
container, which nothing catches. -/
inductive GatewayException where
  | conv
  | mosquitto
  | payloadConversion
  | standard
  | undefined
deriving DecidableEq, Repr

abbrev Payload := List Char

def cString (text : Payload) : Payload :=
  text.takeWhile fun char => char.toNat ≠ 0

def digitValue (digit : Char) : Option Nat :=
  if '0' ≤ digit ∧ digit ≤ '9' then
    some (digit.toNat - '0'.toNat)
  else if 'a' ≤ digit ∧ digit ≤ 'f' then
    some (digit.toNat - 'a'.toNat + 10)
  else if 'A' ≤ digit ∧ digit ≤ 'F' then
    some (digit.toNat - 'A'.toNat + 10)
  else
    none

def isDigitOf (base : Nat) (digit : Char) : Bool :=
  (digitValue digit).any (· < base)

def isSpace (char : Char) : Bool :=
  char.toNat = 32 ∨ 9 ≤ char.toNat ∧ char.toNat ≤ 13

def startsHex : List Char → Bool
  | '0' :: x :: digit :: _ => (x = 'x' || x = 'X') && isDigitOf 16 digit
  | _ => false

/-- The base that `strtol` reads a number in when it is given base zero. -/
def autoBase (digits : List Char) : Nat :=
  if startsHex digits then 16
  else if digits.head? = some '0' then 8
  else 10

def clampLong (value : Int) : Int :=
  max (-9223372036854775808) (min 9223372036854775807 value)

/-- `strtol` with base zero: the value and what stands behind the number.
A text without a number is left as it is. -/
def strtol (text : List Char) : Int × List Char :=
  let trimmed := text.dropWhile isSpace
  let negative := trimmed.head? = some '-'
  let unsigned :=
    if trimmed.head? = some '-' ∨ trimmed.head? = some '+' then
      trimmed.drop 1
    else
      trimmed
  let base := autoBase unsigned
  let digits := if base = 16 then unsigned.drop 2 else unsigned
  let number := digits.takeWhile (isDigitOf base)
  let value : Int := number.foldl
    (fun value digit => value * base + (digitValue digit).getD 0) (0 : Nat)
  if number.isEmpty then
    (0, text)
  else
    (clampLong (if negative then -value else value),
      digits.dropWhile (isDigitOf base))

/-- `strtoll` with base ten. -/
def strtoll (text : List Char) : Int × List Char :=
  let trimmed := text.dropWhile isSpace
  let negative := trimmed.head? = some '-'
  let digits :=
    if trimmed.head? = some '-' ∨ trimmed.head? = some '+' then
      trimmed.drop 1
    else
      trimmed
  let number := digits.takeWhile (isDigitOf 10)
  let value : Int := number.foldl
    (fun value digit => value * 10 + (digitValue digit).getD 0) (0 : Nat)
  if number.isEmpty then
    (0, text)
  else
    (clampLong (if negative then -value else value),
      digits.dropWhile (isDigitOf 10))

def toInt32 (value : Int) : Int :=
  (value + 2147483648) % 4294967296 - 2147483648

theorem toInt32_bounds (value : Int) :
    -2147483648 ≤ toInt32 value ∧ toInt32 value ≤ 2147483647 := by
  rw [toInt32]
  omega

def intText (value : Int) : Payload :=
  if value < 0 then
    '-' :: Nat.toDigits 10 value.natAbs
  else
    Nat.toDigits 10 value.natAbs

theorem intText_ne_nil (value : Int) : intText value ≠ [] := by
  rw [intText]
  split
  · exact List.cons_ne_nil _ _
  · exact Nat.toDigits_ne_nil

/-- A double is represented by what the program takes from it: its decimal
text, its text in JSON and its integral part. -/
inductive MqttValue where
  | int (value : Int)
  | double (text json : Payload) (truncated : Int)
  | binary (bytes : Payload)
  | int64 (value : Int)
deriving DecidableEq, Repr

namespace MqttValue

def getString : MqttValue → Payload
  | .binary bytes => bytes
  | .int value | .int64 value => intText value
  | .double text _ _ => text

/-- A text ends at its first null byte for `strtol`. -/
def getInt : MqttValue → Except GatewayException Int
  | .binary bytes =>
    match strtol (cString bytes) with
    | (value, []) => .ok (toInt32 value)
    | (_, _ :: _) => .error .conv
  | .int value => .ok value
  | .int64 value => .ok (toInt32 value)
  | .double _ _ truncated => .ok truncated

def getInt64 : MqttValue → Except GatewayException Int
  | .binary bytes =>
    match strtoll (cString bytes) with
    | (value, []) => .ok value
    | (_, _ :: _) => .error .conv
  | .int value | .int64 value => .ok value
  | .double _ _ truncated => .ok truncated

end MqttValue

/-- The two virtual functions of a converter. -/
structure DataConverter where
  toMqtt : List UInt16 → Except GatewayException MqttValue
  toModbus : MqttValue → Int → Except GatewayException (List UInt16)

end MqmGateway
