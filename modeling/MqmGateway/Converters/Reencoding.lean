import MqmGateway.Converters.IntegerWrites

/-!
# Registers that are written back

What an integer converter decodes from registers is encoded to the same
registers again, whether the number is handed on or sent as its text.
-/

namespace MqmGateway

open ConverterTools

theorem ofInt_eq_of_emod {value : Int} {register : UInt16}
    (same : value % 65536 = register.toNat) :
    UInt16.ofInt value = register := by
  apply UInt16.toNat_inj.mp
  have low := toNat_ofInt value
  omega

theorem toInt_bounds (register : UInt16) :
    -32768 ≤ register.toBitVec.toInt ∧ register.toBitVec.toInt ≤ 32767 := by
  have lower := register.toBitVec.le_toInt
  have upper := register.toBitVec.toInt_lt
  omega

theorem toNat_bounds (register : UInt16) :
    0 ≤ (register.toNat : Int) ∧ (register.toNat : Int) ≤ 65535 := by
  have bound := register.toNat_lt
  omega

theorem ofInt_toInt (register : UInt16) :
    UInt16.ofInt register.toBitVec.toInt = register := by
  apply ofInt_eq_of_emod
  rw [BitVec.toInt_eq_toNat_cond]
  have bound := register.toNat_lt
  simp only [UInt16.toNat_toBitVec]
  omega

theorem ofInt_toNat (register : UInt16) :
    UInt16.ofInt (register.toNat : Int) = register := by
  apply ofInt_eq_of_emod
  have bound := register.toNat_lt
  omega

theorem MqttValue.getInt64_intText {value : Int}
    (lower : -9223372036854775808 ≤ value)
    (upper : value ≤ 9223372036854775807) :
    (MqttValue.binary (intText value)).getInt64 = .ok value := by
  have literal := decimalLiteral_intText value
  have kept : clampLong value = value := by
    rw [clampLong]
    omega
  have shown : Literal DecimalConstant
      ((cString (intText value)).dropWhile isSpace) value := by
    rwa [cString_of_whole fun _ => ne_null_of_mem_intText,
      literal.dropWhile_isSpace fun _ _ => DecimalConstant.starts]
  rw [getInt64_of_literal shown, kept]

namespace IntegerConverter

/-- How many registers a converter decodes to one number. -/
def widths : IntegerConverter → List Nat
  | .default | .int16 _ | .uint16 _ => [1]
  | .int32 _ _ | .uint32 _ => [1, 2]

/-- The numbers of the type that the converter computes with. -/
def InRange : IntegerConverter → Int → Prop
  | .uint32 _, number => 0 ≤ number ∧ number ≤ 4294967295
  | _, number => -2147483648 ≤ number ∧ number ≤ 2147483647

def Takes : IntegerConverter → MqttValue → Int → Prop
  | .uint32 _, value, number => value.getInt64 = .ok number
  | _, value, number => value.getInt = .ok number

def forms (converter : IntegerConverter) (number : Int) : List MqttValue :=
  [converter.mqttValue number, .binary (intText number)]

theorem takes_forms {converter : IntegerConverter} {number : Int}
    (inRange : converter.InRange number) :
    ∀ value ∈ converter.forms number, converter.Takes value number := by
  refine List.forall_mem_cons.mpr ⟨?_, List.forall_mem_singleton.mpr ?_⟩
  · cases converter <;> rfl
  · cases converter with
    | uint32 lowFirst =>
      obtain ⟨lower, upper⟩ := inRange
      exact MqttValue.getInt64_intText (by omega) (by omega)
    | _ => exact MqttValue.getInt_intText inRange.1 inRange.2

section Decoded

variable (libraries : RequestLibraries) {number : Int} {value : MqttValue}
  {lowFirst swapBytes : Bool}

theorem int32ToRegisters_one (register : UInt16) :
    int32ToRegisters (setByteOrder register swapBytes).toNat lowFirst
      swapBytes 1 = [register] := by
  rw [int32ToRegisters]
  simp [ofInt_toNat, setByteOrder_setByteOrder]

theorem int32ToRegisters_two (first second : UInt16) : int32ToRegisters (toInt32
          ((setByteOrder (highLow lowFirst first second).1
              swapBytes).toNat * 65536 +
            (setByteOrder (highLow lowFirst first second).2 swapBytes).toNat))
        lowFirst swapBytes 2 = [first, second] := by
  generalize high : (highLow lowFirst first second).1 = highRegister
  generalize low : (highLow lowFirst first second).2 = lowRegister
  have upper : UInt16.ofInt (toInt32
      ((setByteOrder highRegister swapBytes).toNat * 65536 +
        (setByteOrder lowRegister swapBytes).toNat) / 65536) =
      setByteOrder highRegister swapBytes := by
    apply ofInt_eq_of_emod
    have highBound := (setByteOrder highRegister swapBytes).toNat_lt
    have lowBound := (setByteOrder lowRegister swapBytes).toNat_lt
    rw [toInt32]
    omega
  have lower : UInt16.ofInt (toInt32
      ((setByteOrder highRegister swapBytes).toNat * 65536 +
        (setByteOrder lowRegister swapBytes).toNat)) =
      setByteOrder lowRegister swapBytes := by
    apply ofInt_eq_of_emod
    have lowBound := (setByteOrder lowRegister swapBytes).toNat_lt
    rw [toInt32]
    omega
  rw [int32ToRegisters]
  dsimp only
  rw [upper, lower, setByteOrder_setByteOrder, setByteOrder_setByteOrder,
    ← high, ← low]
  cases lowFirst <;> rfl

theorem default_reencoded (register : UInt16)
    (taken : value.getInt = .ok (register.toNat : Int)) :
    MqttClient.defaultToModbus libraries value 1 = .ok [register] := by
  have bound := register.toNat_lt
  rw [MqttClient.defaultToModbus, if_neg (by decide), taken]
  dsimp only
  rw [if_pos (by omega), Int.toNat_natCast, UInt16.ofNat_toNat]

theorem singleRegister_reencoded {lowest highest : Int} {decode : UInt16 → Int}
    (bounds : ∀ register, lowest ≤ decode register ∧ decode register ≤ highest)
    (inverse : ∀ register, UInt16.ofInt (decode register) = register)
    (register : UInt16)
    (taken : value.getInt = .ok (decode (setByteOrder register swapBytes))) :
    (singleRegisterConverter lowest highest decode swapBytes).toModbus
      value 1 = .ok [register] := by
  obtain ⟨lower, upper⟩ := bounds (setByteOrder register swapBytes)
  simp only [singleRegisterConverter, taken, bind, Except.bind]
  rw [if_neg (by omega), inverse, setByteOrder_setByteOrder]
  rfl

theorem int32_reencoded {registers : List UInt16} {count : Int}
    (same : int32ToRegisters number lowFirst swapBytes count = registers)
    (taken : value.getInt = .ok number) :
    (int32Converter lowFirst swapBytes).toModbus value count =
      .ok registers := by
  simp only [int32Converter, taken, bind, Except.bind, same]

theorem uint32_reencoded_one (register : UInt16)
    (taken : value.getInt64 = .ok (register.toNat : Int)) :
    (uint32Converter lowFirst).toModbus value 1 = .ok [register] := by
  have low : UInt16.ofInt ((register.toNat : Int) % 4294967296) =
      register := by
    apply ofInt_eq_of_emod
    have bound := register.toNat_lt
    omega
  simp [uint32Converter, taken, bind, Except.bind, low]

theorem uint32_reencoded_two (first second : UInt16) (taken : value.getInt64 =
      .ok ((highLow lowFirst first second).1.toNat * 65536 +
        (highLow lowFirst first second).2.toNat)) :
    (uint32Converter lowFirst).toModbus value 2 = .ok [first, second] := by
  generalize high : (highLow lowFirst first second).1 = highRegister at taken
  generalize low : (highLow lowFirst first second).2 = lowRegister at taken
  have highBound := highRegister.toNat_lt
  have lowBound := lowRegister.toNat_lt
  have upper : UInt16.ofInt (((highRegister.toNat : Int) * 65536 +
      lowRegister.toNat) % 4294967296 / 65536) = highRegister := by
    apply ofInt_eq_of_emod
    omega
  have lower : UInt16.ofInt (((highRegister.toNat : Int) * 65536 +
      lowRegister.toNat) % 4294967296) = lowRegister := by
    apply ofInt_eq_of_emod
    omega
  simp only [uint32Converter, taken, bind, Except.bind, if_true, upper,
    lower]
  rw [← high, ← low]
  cases lowFirst <;> rfl

/-- What is decoded is in range, and wherever the number is taken from, the
same registers are made of it. -/
theorem decoded_reencoded (converter : IntegerConverter)
    {registers : List UInt16}
    (width : registers.length ∈ converter.widths) :
    ∃ number, converter.InRange number ∧
      (converter.dataConverter libraries).toMqtt registers =
        .ok (converter.mqttValue number) ∧
      ∀ value, converter.Takes value number →
        (converter.dataConverter libraries).toModbus value
          registers.length = .ok registers := by
  have single (narrow : registers.length = 1) :
      ∃ register, registers = [register] :=
    List.length_eq_one_iff.mp narrow
  cases converter with
  | default =>
    obtain ⟨register, rfl⟩ := single (List.mem_singleton.mp width)
    have bound := register.toNat_lt
    exact ⟨register.toNat, ⟨by omega, by omega⟩, rfl,
      fun value taken => default_reencoded libraries register taken⟩
  | int16 swapBytes =>
    obtain ⟨register, rfl⟩ := single (List.mem_singleton.mp width)
    obtain ⟨lower, upper⟩ := toInt_bounds (setByteOrder register swapBytes)
    exact ⟨(setByteOrder register swapBytes).toBitVec.toInt,
      ⟨by omega, by omega⟩, rfl, fun value taken =>
        singleRegister_reencoded toInt_bounds ofInt_toInt register taken⟩
  | uint16 swapBytes =>
    obtain ⟨register, rfl⟩ := single (List.mem_singleton.mp width)
    obtain ⟨lower, upper⟩ := toNat_bounds (setByteOrder register swapBytes)
    exact ⟨(setByteOrder register swapBytes).toNat,
      ⟨by omega, by omega⟩, rfl, fun value taken =>
        singleRegister_reencoded toNat_bounds ofInt_toNat register taken⟩
  | int32 lowFirst swapBytes =>
    rcases List.mem_cons.mp width with narrow | wide
    · obtain ⟨register, rfl⟩ := single narrow
      have bound := (setByteOrder register swapBytes).toNat_lt
      exact ⟨_, ⟨by omega, by omega⟩, rfl, fun value taken =>
        int32_reencoded (int32ToRegisters_one register) taken⟩
    · obtain ⟨first, second, rfl⟩ :=
        List.length_eq_two.mp (List.mem_singleton.mp wide)
      exact ⟨_, toInt32_bounds _, rfl, fun value taken =>
        int32_reencoded (int32ToRegisters_two first second) taken⟩
  | uint32 lowFirst =>
    rcases List.mem_cons.mp width with narrow | wide
    · obtain ⟨register, rfl⟩ := single narrow
      have bound := register.toNat_lt
      exact ⟨_, ⟨by omega, by omega⟩, rfl, fun value taken =>
        uint32_reencoded_one register taken⟩
    · obtain ⟨first, second, rfl⟩ :=
        List.length_eq_two.mp (List.mem_singleton.mp wide)
      have high := (highLow lowFirst first second).1.toNat_lt
      have low := (highLow lowFirst first second).2.toNat_lt
      exact ⟨(highLow lowFirst first second).1.toNat * 65536 +
          (highLow lowFirst first second).2.toNat,
        ⟨by omega, by omega⟩, rfl, fun value taken =>
          uint32_reencoded_two first second taken⟩

end Decoded

theorem encoded_decoded (libraries : RequestLibraries)
    {converter : IntegerConverter} (wide : 2 ∈ converter.widths)
    {number : Int} (inRange : converter.InRange number) {value : MqttValue}
    (taken : converter.Takes value number) :
    ∃ registers,
      (converter.dataConverter libraries).toModbus value 2 = .ok registers ∧
      (converter.dataConverter libraries).toMqtt registers =
        .ok (converter.mqttValue number) := by
  cases converter with
  | int32 lowFirst swapBytes =>
    have converted := @int32_reencoded _ value lowFirst swapBytes _ 2 rfl
      taken
    exact ⟨_, converted,
      int32Converter_decoded inRange.1 inRange.2 taken converted⟩
  | uint32 lowFirst =>
    have converted : ∃ registers,
        (uint32Converter lowFirst).toModbus value 2 = .ok registers := by
      have read : value.getInt64 = .ok number := taken
      simp [uint32Converter, read, bind, Except.bind]
    obtain ⟨registers, converted⟩ := converted
    have decoded := uint32Converter_decoded taken converted
    have kept : number % 4294967296 = number := by
      obtain ⟨lower, upper⟩ := inRange
      omega
    rw [if_pos rfl, kept] at decoded
    exact ⟨registers, converted, decoded⟩
  | _ => simp [widths] at wide

/-- Registers are decoded to a number from which the same registers are made
again, and every 32 bit number in range is decoded from the registers made of
it; the number may travel as its text. -/
theorem integers_reencoded (libraries : RequestLibraries)
    (converter : IntegerConverter) :
    (∀ registers : List UInt16, registers.length ∈ converter.widths → ∃ number,
        (converter.dataConverter libraries).toMqtt registers =
          .ok (converter.mqttValue number) ∧
        ∀ value ∈ converter.forms number,
          (converter.dataConverter libraries).toModbus value
            registers.length = .ok registers) ∧
    (2 ∈ converter.widths → ∀ number, converter.InRange number →
      ∀ value ∈ converter.forms number, ∃ registers,
        (converter.dataConverter libraries).toModbus value 2 = .ok registers ∧
        (converter.dataConverter libraries).toMqtt registers =
          .ok (converter.mqttValue number)) := by
  constructor
  · intro registers width
    obtain ⟨number, inRange, decoded, encoded⟩ :=
      decoded_reencoded libraries converter width
    refine ⟨number, decoded, ?_⟩
    intro value form
    exact encoded value (takes_forms inRange value form)
  · intro wide number inRange value form
    exact encoded_decoded libraries wide inRange
      (takes_forms inRange value form)

theorem integers_reencoded_negative :
    decode (.int32 true true) [0xfeff, 0xffff] = .ok (.int (-2)) ∧
      convert (.int32 true true) "-2" 2 = .ok [0xfeff, 0xffff] := by
  have decoded : decode (.int32 true true) [0xfeff, 0xffff] =
      .ok (.int (-2)) := by decide
  obtain ⟨number, same, encoded⟩ :=
    (integers_reencoded noLibraries (.int32 true true)).1
      [0xfeff, 0xffff] (by decide)
  have number_eq : number = -2 := by
    have values := same.symm.trans decoded
    cases values
    rfl
  subst number_eq
  refine ⟨decoded, ?_⟩
  exact encoded (.binary (intText (-2)))
    (List.mem_cons_of_mem _ List.mem_cons_self)

end IntegerConverter

end MqmGateway
