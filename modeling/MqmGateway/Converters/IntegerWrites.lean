import MqmGateway.Converters
import MqmGateway.MqttValue.Literals

/-!
# Numbers that are written

A payload with an integer literal is converted to registers.  Which numbers
come back when the registers are decoded again depends on the types that the
value passes through: the converters with `getInt` keep what fits an
`int32_t`, and a single register of a 32 bit converter keeps 16 bits.
-/

namespace MqmGateway

open ConverterTools

/-- The converters of integers with their arguments; `default` stands for a
command without converter. -/
inductive IntegerConverter where
  | default
  | int16 (swapBytes : Bool)
  | uint16 (swapBytes : Bool)
  | int32 (lowFirst swapBytes : Bool)
  | uint32 (lowFirst : Bool)
deriving DecidableEq, Repr

namespace IntegerConverter

/-- A command without converter shows the raw register. -/
def rawRegister : List UInt16 → Except GatewayException MqttValue
  | [] => .error .undefined
  | value :: _ => .ok (.int value.toNat)

def dataConverter (libraries : RequestLibraries) :
    IntegerConverter → DataConverter
  | .default =>
    { toMqtt := rawRegister
      toModbus := MqttClient.defaultToModbus libraries }
  | .int16 swapBytes => int16Converter swapBytes
  | .uint16 swapBytes => uint16Converter swapBytes
  | .int32 lowFirst swapBytes => int32Converter lowFirst swapBytes
  | .uint32 lowFirst => uint32Converter lowFirst

def constant : IntegerConverter → List Char → Nat → Prop
  | .uint32 _ => DecimalConstant
  | _ => Constant

/-- The text is a literal of this value, behind spaces. -/
def Reads (converter : IntegerConverter) (text : Payload) (value : Int) :
    Prop :=
  Literal converter.constant (text.dropWhile isSpace) value

def mqttValue : IntegerConverter → Int → MqttValue
  | .uint32 _, value => .int64 value
  | _, value => .int value

/-- What `strtol` or `strtoll` and the type behind it make of a number. -/
def narrowed : IntegerConverter → Int → Int
  | .uint32 _, value => clampLong value
  | _, value => toInt32 (clampLong value)

def Accepts : IntegerConverter → Int → Prop
  | .default, number | .uint16 _, number => 0 ≤ number ∧ number ≤ 65535
  | .int16 _, number => -32768 ≤ number ∧ number ≤ 32767
  | .int32 _ _, _ | .uint32 _, _ => True

/-- As many registers are made as the count asks for. -/
def Makes : IntegerConverter → Int → Prop
  | .default, count => count = 1
  | .int16 _, count | .uint16 _, count => 0 ≤ count
  | .int32 _ _, count | .uint32 _, count => count = 1 ∨ count = 2

/-- The numbers that are not changed on the way to so many registers. -/
def Keeps : IntegerConverter → Int → Int → Prop
  | .int32 _ _, count, value =>
    if count = 2 then -2147483648 ≤ value ∧ value ≤ 2147483647
    else 0 ≤ value ∧ value ≤ 65535
  | .uint32 _, count, value =>
    if count = 2 then 0 ≤ value ∧ value ≤ 4294967295
    else 0 ≤ value ∧ value ≤ 65535
  | _, count, value =>
    1 ≤ count ∧ -2147483648 ≤ value ∧ value ≤ 2147483647

end IntegerConverter

section Converters

variable {payload : MqttValue} {count number : Int} {registers : List UInt16}

theorem defaultToModbus_decoded (libraries : RequestLibraries)
    (read : payload.getInt = .ok number)
    (converted : MqttClient.defaultToModbus libraries payload 1 =
      .ok registers) :
    IntegerConverter.rawRegister registers = .ok (.int number) := by
  rw [MqttClient.defaultToModbus, if_neg (by decide), read] at converted
  dsimp only at converted
  split at converted
  · rename_i bounds
    cases converted
    have same : ((UInt16.ofNat number.toNat).toNat : Int) = number := by
      rw [UInt16.toNat_ofNat']
      omega
    rw [IntegerConverter.rawRegister, same]
  · cases converted

variable {swapBytes lowFirst : Bool}

theorem singleRegisterConverter_decoded {lowest highest : Int}
    {decode : UInt16 → Int}
    (inverse : ∀ number, lowest ≤ number → number ≤ highest →
      decode (UInt16.ofInt number) = number)
    (read : payload.getInt = .ok number)
    (converted : (singleRegisterConverter lowest highest decode
      swapBytes).toModbus payload count = .ok registers)
    (counted : (registers.length : Int) = count) :
    (singleRegisterConverter lowest highest decode swapBytes).toMqtt registers =
      if 1 ≤ count then .ok (.int number) else .error .undefined := by
  simp only [singleRegisterConverter, read, bind, Except.bind] at converted ⊢
  split at converted
  · cases converted
  · rename_i bounds
    cases converted
    rw [List.length_replicate] at counted
    by_cases positive : 1 ≤ count
    · obtain ⟨rest, same⟩ : ∃ rest, count.toNat = rest + 1 :=
        ⟨count.toNat - 1, by omega⟩
      rw [same, List.replicate_succ, if_pos positive]
      dsimp only
      rw [setByteOrder_setByteOrder, inverse number (by omega) (by omega)]
    · have none : count.toNat = 0 := by omega
      rw [none, if_neg positive]
      rfl

theorem int16Converter_decoded (read : payload.getInt = .ok number)
    (converted : (int16Converter swapBytes).toModbus payload count =
      .ok registers)
    (counted : (registers.length : Int) = count) :
    (int16Converter swapBytes).toMqtt registers =
      if 1 ≤ count then .ok (.int number) else .error .undefined :=
  singleRegisterConverter_decoded
    (fun _ lower upper => toInt_ofInt lower upper) read converted counted

theorem uint16Converter_decoded (read : payload.getInt = .ok number)
    (converted : (uint16Converter swapBytes).toModbus payload count =
      .ok registers)
    (counted : (registers.length : Int) = count) :
    (uint16Converter swapBytes).toMqtt registers =
      if 1 ≤ count then .ok (.int number) else .error .undefined := by
  refine singleRegisterConverter_decoded ?_ read converted counted
  intro number lower upper
  rw [toNat_ofInt]
  omega

theorem registersToInt32_int32ToRegisters
    (lower : -2147483648 ≤ number) (upper : number ≤ 2147483647) :
    registersToInt32 (int32ToRegisters number lowFirst swapBytes count)
        lowFirst swapBytes =
      .ok (if count = 2 then number else number % 65536) := by
  rw [int32ToRegisters]
  dsimp only
  split
  · cases lowFirst <;>
      simp only [registersToInt32, highLow, setByteOrder_setByteOrder,
        toNat_ofInt, toInt32, if_true, Bool.false_eq_true, if_false,
        Except.ok.injEq] <;>
      omega
  · simp only [registersToInt32, setByteOrder_setByteOrder, toNat_ofInt]

theorem int32Converter_decoded
    (lower : -2147483648 ≤ number) (upper : number ≤ 2147483647)
    (read : payload.getInt = .ok number)
    (converted : (int32Converter lowFirst swapBytes).toModbus payload count =
      .ok registers) :
    (int32Converter lowFirst swapBytes).toMqtt registers =
      .ok (.int (if count = 2 then number else number % 65536)) := by
  simp only [int32Converter, read, bind, Except.bind] at converted ⊢
  cases converted
  rw [registersToInt32_int32ToRegisters lower upper]
  rfl

theorem uint32Converter_decoded (read : payload.getInt64 = .ok number)
    (converted : (uint32Converter lowFirst).toModbus payload count =
      .ok registers) :
    (uint32Converter lowFirst).toMqtt registers =
      .ok (.int64 (if count = 2 then number % 4294967296
        else number % 65536)) := by
  simp only [uint32Converter, read, bind, Except.bind] at converted ⊢
  split at converted
  · cases converted
    cases lowFirst <;>
      simp only [highLow, toNat_ofInt, if_true, Bool.false_eq_true, if_false,
        Except.ok.injEq, MqttValue.int64.injEq] <;>
      omega
  · cases converted
    simp only [toNat_ofInt, Except.ok.injEq, MqttValue.int64.injEq]
    omega

end Converters

namespace IntegerConverter

/-- The number that the converter accepts from a payload. -/
def number (payload : Payload) : IntegerConverter → Except GatewayException Int
  | .uint32 _ => (MqttValue.binary payload).getInt64
  | _ => (MqttValue.binary payload).getInt

/-- A payload whose registers are decoded to the number it is a literal of,
and one that is no literal is refused. -/
def WritesExactly (libraries : RequestLibraries)
    (converter : IntegerConverter) (payload : Payload) (count : Int) : Prop :=
  (∀ registers,
    (converter.dataConverter libraries).toModbus (.binary payload) count =
      .ok registers →
    (registers.length : Int) = count →
    ∃ value, converter.Reads payload value ∧
      (converter.dataConverter libraries).toMqtt registers =
        .ok (converter.mqttValue value)) ∧
  ((¬∃ value, converter.Reads payload value) →
    (converter.dataConverter libraries).toModbus (.binary payload) count =
      .error .conv)

variable {libraries : RequestLibraries} {payload : Payload} {count : Int}

variable {converter : IntegerConverter} {value : Int}

theorem Reads.unique {first second : Int} (one : converter.Reads payload first)
    (other : converter.Reads payload second) : first = second := by
  have constants (digits : List Char) (first second : Nat)
      (one : Constant digits first) (other : Constant digits second) :
      first = second :=
    (constant_iff.mp one).2.2.trans (constant_iff.mp other).2.2.symm
  cases converter with
  | uint32 lowFirst =>
    refine literal_unique (fun _ _ => DecimalConstant.head?) ?_ one other
    intro digits first second one other
    exact (decimalConstant_iff.mp one).2.2.trans
      (decimalConstant_iff.mp other).2.2.symm
  | _ => exact literal_unique (fun _ _ => Constant.head?) constants one other

theorem Reads.whole
    (reads : converter.Reads payload value) : cString payload = payload := by
  apply cString_of_whole
  intro char listed
  cases converter with
  | uint32 lowFirst =>
    exact Literal.ne_null (fun _ _ given _ => given.ne_null) reads listed
  | _ => exact Literal.ne_null (fun _ _ given _ => given.ne_null) reads listed

theorem not_reads_nil : ¬converter.Reads [] value := by
  intro reads
  cases converter <;> cases reads <;> rename_i given <;> cases given

theorem number_of_reads (reads : converter.Reads (cString payload) value) :
    converter.number payload = .ok (converter.narrowed value) := by
  cases converter with
  | uint32 lowFirst => exact MqttValue.getInt64_of_literal reads
  | _ => exact MqttValue.getInt_of_literal reads

theorem number_of_no_literal (nonempty : cString payload ≠ [])
    (none : ¬∃ value, converter.Reads (cString payload) value) :
    converter.number payload = .error .conv := by
  cases converter with
  | uint32 lowFirst => exact MqttValue.getInt64_of_no_literal nonempty none
  | _ => exact MqttValue.getInt_of_no_literal nonempty none

theorem number_of_empty (converter : IntegerConverter)
    (empty : cString payload = []) : converter.number payload = .ok 0 := by
  cases converter with
  | uint32 lowFirst =>
    rw [number, MqttValue.getInt64, empty]
    rfl
  | _ =>
    show (MqttValue.binary payload).getInt = _
    rw [MqttValue.getInt, empty]
    rfl

theorem int_kept_iff :
    (if 1 ≤ count then Except.ok (MqttValue.int (toInt32 (clampLong value)))
        else .error GatewayException.undefined) = .ok (.int value) ↔
      1 ≤ count ∧ -2147483648 ≤ value ∧ value ≤ 2147483647 := by
  by_cases positive : 1 ≤ count
  · simp [positive, toInt32_clampLong_eq_iff]
  · simp [positive]

section Conversion

variable (converter : IntegerConverter)
  (single : converter = .default → count = 1)

include single

theorem toModbus_of_error (unread : converter.number payload = .error .conv) :
    (converter.dataConverter libraries).toModbus (.binary payload) count =
      .error .conv := by
  cases converter with
  | default =>
    show MqttClient.defaultToModbus libraries _ count = _
    rw [single rfl, MqttClient.defaultToModbus, if_neg (by decide),
      show (MqttValue.binary payload).getInt = _ from unread]
  | uint32 lowFirst =>
    simp only [number] at unread
    simp only [dataConverter, uint32Converter, unread, bind, Except.bind]
  | _ =>
    simp only [number] at unread
    simp only [dataConverter, int16Converter, uint16Converter,
      singleRegisterConverter, int32Converter, unread, bind, Except.bind]

theorem toModbus_of_number {value : Int}
    (read : converter.number payload = .ok value) :
    (converter.Accepts value → ∃ registers,
      (converter.dataConverter libraries).toModbus (.binary payload) count =
        .ok registers ∧
      ((registers.length : Int) = count ↔ converter.Makes count)) ∧
    (¬converter.Accepts value →
      (converter.dataConverter libraries).toModbus (.binary payload) count =
        .error .conv) := by
  cases converter with
  | default =>
    simp only [number] at read
    cases single rfl
    simp only [dataConverter, MqttClient.defaultToModbus, Accepts, Makes, read]
    rw [if_neg (by decide)]
    refine ⟨fun inRange => ⟨[_], if_pos inRange.symm, by simp⟩, ?_⟩
    intro outside
    rw [if_neg (mt And.symm outside)]
  | int16 swapBytes | uint16 swapBytes =>
    simp only [number] at read
    simp only [dataConverter, int16Converter, uint16Converter,
      singleRegisterConverter, Accepts, Makes, read, bind, Except.bind]
    refine ⟨fun inRange => ⟨_, if_neg (by omega), ?_⟩,
      fun outside => if_pos (by omega)⟩
    rw [List.length_replicate]
    omega
  | int32 lowFirst swapBytes =>
    simp only [number] at read
    simp only [dataConverter, int32Converter, Accepts, Makes, read, bind,
      Except.bind, not_true_eq_false, false_imp_iff, and_true, true_imp_iff]
    refine ⟨_, rfl, ?_⟩
    rw [int32ToRegisters]
    dsimp only
    split
    · cases lowFirst <;> simp [*]
    · simp [*, eq_comm]
  | uint32 lowFirst =>
    simp only [number] at read
    simp only [dataConverter, uint32Converter, Accepts, Makes, read, bind,
      Except.bind, not_true_eq_false, false_imp_iff, and_true, true_imp_iff]
    split
    · refine ⟨_, rfl, ?_⟩
      cases lowFirst <;> simp [*]
    · refine ⟨_, rfl, ?_⟩
      simp [*, eq_comm]

/-- What a literal is decoded to after its conversion. -/
theorem toMqtt_of_literal (literal : converter.Reads (cString payload) value)
    {registers : List UInt16}
    (converted : (converter.dataConverter libraries).toModbus
      (.binary payload) count = .ok registers)
    (counted : (registers.length : Int) = count) :
    (converter.dataConverter libraries).toMqtt registers =
        .ok (converter.mqttValue value) ↔ converter.Keeps count value := by
  obtain ⟨lower, upper⟩ := toInt32_bounds (clampLong value)
  cases converter with
  | default =>
    have read := MqttValue.getInt_of_literal literal
    rw [single rfl] at converted ⊢
    have decoded := defaultToModbus_decoded libraries read converted
    simp only [dataConverter, mqttValue, Keeps, decoded, Except.ok.injEq,
      MqttValue.int.injEq, toInt32_clampLong_eq_iff, le_refl, true_and]
  | int16 swapBytes =>
    have read := MqttValue.getInt_of_literal literal
    have decoded := int16Converter_decoded read converted counted
    rw [dataConverter, decoded]
    exact int_kept_iff
  | uint16 swapBytes =>
    have read := MqttValue.getInt_of_literal literal
    have decoded := uint16Converter_decoded read converted counted
    rw [dataConverter, decoded]
    exact int_kept_iff
  | int32 lowFirst swapBytes =>
    have read := MqttValue.getInt_of_literal literal
    have decoded := int32Converter_decoded lower upper read converted
    rw [dataConverter, decoded]
    simp only [mqttValue, Keeps, Except.ok.injEq, MqttValue.int.injEq]
    split
    · exact toInt32_clampLong_eq_iff
    · rw [toInt32, clampLong]
      omega
  | uint32 lowFirst =>
    have read := MqttValue.getInt64_of_literal literal
    have decoded := uint32Converter_decoded read converted
    rw [dataConverter, decoded]
    simp only [mqttValue, Keeps, Except.ok.injEq, MqttValue.int64.injEq]
    split
    · rw [clampLong]
      omega
    · rw [clampLong]
      omega

end Conversion

/-- A payload is written exactly if its text up to a null byte is no literal
of a number that the converter accepts, or it is the whole payload and the number
is kept.  An empty text is read as zero. -/
theorem integer_writes_exact_iff (libraries : RequestLibraries)
    (converter : IntegerConverter) {payload : Payload} {count : Int}
    (single : converter = .default → count = 1) :
    WritesExactly libraries converter payload count ↔ cString payload ≠ [] ∧
      ∀ value, converter.Reads (cString payload) value →
        converter.Accepts (converter.narrowed value) →
        cString payload = payload ∧
          (converter.Makes count → converter.Keeps count value) := by
  constructor
  · intro ⟨exact, refuses⟩
    have accepted {registers : List UInt16}
        (converted : (converter.dataConverter libraries).toModbus
          (.binary payload) count = .ok registers) :
        ∃ value, converter.Reads payload value := by
      by_contra none
      cases converted.symm.trans (refuses none)
    constructor
    · intro empty
      obtain ⟨registers, converted, _⟩ := (converter.toModbus_of_number single
        (converter.number_of_empty empty)).1 (by cases converter <;> simp [Accepts])
      obtain ⟨value, reads⟩ := accepted converted
      exact not_reads_nil (empty ▸ reads.whole.symm ▸ reads)
    · intro value reads accepts
      obtain ⟨registers, converted, counted⟩ := (converter.toModbus_of_number
        single (number_of_reads reads)).1 accepts
      obtain ⟨other, whole⟩ := accepted converted
      refine ⟨whole.whole, fun makes => ?_⟩
      obtain ⟨again, readAgain, decoded⟩ :=
        exact registers converted (counted.mpr makes)
      rw [whole.whole] at reads
      rw [reads.unique readAgain]
      exact (converter.toMqtt_of_literal single
        (whole.whole.symm ▸ readAgain) converted (counted.mpr makes)).mp decoded
  · intro ⟨nonempty, keeps⟩
    by_cases literal : ∃ value, converter.Reads (cString payload) value
    · obtain ⟨value, reads⟩ := literal
      obtain ⟨makes, refuses⟩ := @toModbus_of_number libraries _ _ _ single _
        (number_of_reads reads)
      by_cases accepts : converter.Accepts (converter.narrowed value)
      · obtain ⟨whole, kept⟩ := keeps value reads accepts
        obtain ⟨made, converts, counts⟩ := makes accepts
        refine ⟨?_, fun none => absurd ⟨value, whole ▸ reads⟩ none⟩
        intro registers converted counted
        cases converts.symm.trans converted
        exact ⟨value, whole ▸ reads, (converter.toMqtt_of_literal single reads
          converted counted).mpr (kept (counts.mp counted))⟩
      · refine ⟨fun registers converted _ => ?_, fun _ => refuses accepts⟩
        cases (refuses accepts).symm.trans converted
    · have refused := @toModbus_of_error libraries _ _ _ single
        (number_of_no_literal nonempty literal)
      refine ⟨fun registers converted _ => ?_, fun _ => refused⟩
      cases refused.symm.trans converted

def convert (converter : IntegerConverter) (text : String) (count : Int) :
    Except GatewayException (List UInt16) :=
  (converter.dataConverter noLibraries).toModbus (.binary text.toList)
    count

def decode (converter : IntegerConverter) (registers : List UInt16) :
    Except GatewayException MqttValue :=
  (converter.dataConverter noLibraries).toMqtt registers

theorem integer_writes_exact_hex :
    convert (.int16 true) " -0x10" 2 = .ok [0xf0ff, 0xf0ff] ∧
      decode (.int16 true) [0xf0ff, 0xf0ff] = .ok (.int (-16)) ∧
      WritesExactly noLibraries (.int16 true) " -0x10".toList 2 := by
  refine ⟨by decide, by decide, ?_⟩
  refine (integer_writes_exact_iff noLibraries (.int16 true)
    (by simp)).mpr ⟨by decide, ?_⟩
  intro value reads _
  have number : Reads (.int16 true) " -0x10".toList (-16) :=
    .minus (.hexadecimal (.inl rfl) (by simp)
      (List.all_eq_true.mp (by decide)))
  cases reads.unique number
  exact ⟨by decide, fun _ => by simp [Keeps]⟩

/-- Numbers that are written as others: a wrapped number, an empty payload, a
text behind a null byte, a number for two registers in one, and a negative
number without sign. -/
theorem numbers_changed : (Reads .default "4294967301".toList 4294967301 ∧
      convert .default "4294967301" 1 = .ok [5] ∧
      decode .default [5] = .ok (.int 5)) ∧
    ((¬∃ value, Reads .default "".toList value) ∧
      convert .default "" 1 = .ok [0]) ∧
    ((¬∃ value, Reads .default "5\x00abc".toList value) ∧
      convert .default "5\x00abc" 1 = .ok [5]) ∧
    (Reads (.int32 false false) "70000".toList 70000 ∧
      convert (.int32 false false) "70000" 1 = .ok [4464] ∧
      decode (.int32 false false) [4464] = .ok (.int 4464)) ∧
    (Reads (.uint32 false) "-1".toList (-1) ∧
      convert (.uint32 false) "-1" 2 = .ok [65535, 65535] ∧
      decode (.uint32 false) [65535, 65535] = .ok (.int64 4294967295)) := by
  refine ⟨⟨?_, by decide, by decide⟩, ⟨?_, by decide⟩, ⟨?_, by decide⟩,
    ⟨?_, by decide, by decide⟩, ?_, by decide, by decide⟩
  · exact .plain (.decimal (by decide) (List.all_eq_true.mp (by decide)))
  · intro ⟨value, reads⟩
    exact not_reads_nil reads
  · intro ⟨value, reads⟩
    exact absurd reads.whole (by decide)
  · exact .plain (.decimal (by decide) (List.all_eq_true.mp (by decide)))
  · exact .minus (.digits (List.all_eq_true.mp (by decide)))

end IntegerConverter

end MqmGateway
