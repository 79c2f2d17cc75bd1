import Mathlib.Tactic.IntervalCases
import MqmGateway.MqttClient.Requests

/-!
# Integer converters

The converters `std.int16`, `std.uint16`, `std.int32` and `std.uint32` of the
standard plugin, with their arguments.  Reading behind the end of a register
list is undefined.
-/

namespace MqmGateway

namespace ConverterTools

def setByteOrder (value : UInt16) (swap : Bool) : UInt16 :=
  if swap then
    ((value &&& 0x00ff) <<< 8) ||| ((value &&& 0xff00) >>> 8)
  else
    value

def highLow (lowFirst : Bool) (first second : UInt16) : UInt16 × UInt16 :=
  if lowFirst then (second, first) else (first, second)

def registersToInt32 (data : List UInt16) (lowFirst swapBytes : Bool) :
    Except GatewayException Int :=
  match data with
  | [] => .error .undefined
  | [value] => .ok (setByteOrder value swapBytes).toNat
  | first :: second :: _ =>
    let (high, low) := highLow lowFirst first second
    .ok (toInt32 ((setByteOrder high swapBytes).toNat * 65536 +
      (setByteOrder low swapBytes).toNat))

def int32ToRegisters (value : Int) (lowFirst swapBytes : Bool)
    (registerCount : Int) : List UInt16 :=
  let low := setByteOrder (UInt16.ofInt value) swapBytes
  if registerCount = 2 then
    let high := setByteOrder (UInt16.ofInt (value / 65536)) swapBytes
    if lowFirst then [low, high] else [high, low]
  else
    [low]

end ConverterTools

open ConverterTools

/-- One number of 16 bits in a given range.  A write puts it into every
register. -/
def singleRegisterConverter (lowest highest : Int) (decode : UInt16 → Int)
    (swapBytes : Bool) : DataConverter :=
  { toMqtt := fun data =>
      match data with
      | [] => .error .undefined
      | value :: _ => .ok (.int (decode (setByteOrder value swapBytes)))
    toModbus := fun value registerCount => do
      let number ← value.getInt
      if number < lowest ∨ highest < number then
        .error .conv
      else
        .ok (List.replicate registerCount.toNat
          (setByteOrder (UInt16.ofInt number) swapBytes)) }

def int16Converter (swapBytes : Bool) : DataConverter :=
  singleRegisterConverter (-32768) 32767 (fun value => value.toBitVec.toInt)
    swapBytes

def uint16Converter (swapBytes : Bool) : DataConverter :=
  singleRegisterConverter 0 65535 (fun value => value.toNat) swapBytes

def int32Converter (lowFirst swapBytes : Bool) : DataConverter :=
  { toMqtt := fun data =>
      (registersToInt32 data lowFirst swapBytes).map MqttValue.int
    toModbus := fun value registerCount => do
      let number ← value.getInt
      .ok (int32ToRegisters number lowFirst swapBytes registerCount) }

/-- The order of the bytes cannot be set. -/
def uint32Converter (lowFirst : Bool) : DataConverter :=
  { toMqtt := fun data =>
      match data with
      | [] => .error .undefined
      | [value] => .ok (.int64 value.toNat)
      | first :: second :: _ =>
        let (high, low) := highLow lowFirst first second
        .ok (.int64 (high.toNat * 65536 + low.toNat))
    toModbus := fun value registerCount => do
      let number ← value.getInt64
      let unsigned := number % 4294967296
      let low := UInt16.ofInt unsigned
      if registerCount = 2 then
        let high := UInt16.ofInt (unsigned / 65536)
        .ok (if lowFirst then [low, high] else [high, low])
      else
        .ok [low] }

theorem ConverterTools.setByteOrder_setByteOrder (value : UInt16)
    (swap : Bool) : setByteOrder (setByteOrder value swap) swap = value := by
  cases swap with
  | false => rfl
  | true =>
    apply UInt16.toBitVec_inj.mp
    simp only [setByteOrder, if_true, UInt16.toBitVec_or,
      UInt16.toBitVec_shiftLeft, UInt16.toBitVec_shiftRight,
      UInt16.toBitVec_and]
    ext bit bound
    interval_cases bit <;> simp

theorem toNat_ofInt (value : Int) :
    ((UInt16.ofInt value).toNat : Int) = value % 65536 := by
  simp only [UInt16.ofInt, UInt16.toNat_ofNat']
  omega

theorem toInt_ofInt {value : Int} (lower : -32768 ≤ value)
    (upper : value ≤ 32767) : (UInt16.ofInt value).toBitVec.toInt = value := by
  rw [BitVec.toInt_eq_toNat_cond]
  simp only [UInt16.ofInt, UInt16.toBitVec_ofNat', BitVec.toNat_ofNat]
  omega

end MqmGateway
