import MqmGateway.Converters.IntegerWrites
import MqmGateway.Library.Fallible

/-!
# Writing the results of expressions

`ExprtkConverter` writes the numbers that an expression returns in the form
that `write_as` asks for.  The functions of the same names, which expressions
use for reading, put the numbers together again.
-/

namespace MqmGateway

open ConverterTools

/-- A double that is not NaN, as the converter uses it: without its fraction,
unless it is infinite, and the bits of the `float` next to it. -/
structure ExprNumber where
  truncated : Option Int
  floatBits : Int
deriving DecidableEq, Repr

/-- A value in the list of a `return` statement. -/
inductive ExprResult where
  | scalar (number : ExprNumber)
  | vector
  | string
  | unknown
deriving DecidableEq, Repr

/-- An expression has a value, or it is NaN and there are results. -/
inductive ExprOutcome where
  | value (number : ExprNumber)
  | results (results : List ExprResult)
deriving DecidableEq, Repr

inductive WriteAs where
  | empty
  | int16
  | int16bs
  | uint16
  | uint16bs
  | int32
  | int32bs
  | uint32
  | uint32bs
  | flt32
  | flt32bs
deriving DecidableEq, Repr

/-- A compiled converter; `evaluate` takes the payload as `M0`. -/
structure ExprtkConverter where
  writeAs : WriteAs
  writeLowFirst : Bool
  evaluate : MqttValue → Except GatewayException ExprOutcome

namespace ExprtkConverter

/-- The conversion of a double to an integer type, which has no meaning for
numbers outside of it. -/
def narrowed (lowest highest : Int) (number : ExprNumber) :
    Except GatewayException Int :=
  match number.truncated with
  | some value =>
    if lowest ≤ value ∧ value ≤ highest then .ok value
    else .error .undefined
  | none => .error .undefined

def toInt32Value : ExprNumber → Except GatewayException Int :=
  narrowed (-2147483648) 2147483647

def toInt64Value : ExprNumber → Except GatewayException Int :=
  narrowed (-9223372036854775808) 9223372036854775807

def writeSingle (lowest highest : Int) (number : ExprNumber)
    (swapBytes : Bool) : Except GatewayException (List UInt16) := do
  let value ← toInt32Value number
  if value < lowest ∨ highest < value then
    .error .conv
  else
    .ok [setByteOrder (UInt16.ofInt value) swapBytes]

def writeInt16 : ExprNumber → Bool → Except GatewayException (List UInt16) :=
  writeSingle (-32768) 32767

def writeUInt16 : ExprNumber → Bool → Except GatewayException (List UInt16) :=
  writeSingle 0 65535

def writeFloat32 (lowFirst : Bool) (number : ExprNumber) (swapBytes : Bool) :
    Except GatewayException (List UInt16) :=
  .ok (int32ToRegisters number.floatBits lowFirst swapBytes 2)

def writeInt32 (lowFirst : Bool) (number : ExprNumber) (swapBytes : Bool) :
    Except GatewayException (List UInt16) := do
  let value ← toInt32Value number
  .ok (int32ToRegisters value lowFirst swapBytes 2)

/-- The number is narrowed to an `int32_t` without a check. -/
def writeUInt32 (lowFirst : Bool) (number : ExprNumber) (swapBytes : Bool) :
    Except GatewayException (List UInt16) := do
  let value ← toInt64Value number
  .ok (int32ToRegisters (toInt32 value) lowFirst swapBytes 2)

/-- The registers that are appended for one number.  Exceptions are turned
into a `ConvException`, which they are already. -/
def writeRegisterValues (converter : ExprtkConverter) (number : ExprNumber) :
    Except GatewayException (List UInt16) :=
  match converter.writeAs with
  | .empty | .uint16 => writeUInt16 number false
  | .uint16bs => writeUInt16 number true
  | .int16 => writeInt16 number false
  | .int16bs => writeInt16 number true
  | .flt32 => writeFloat32 converter.writeLowFirst number false
  | .flt32bs => writeFloat32 converter.writeLowFirst number true
  | .int32 => writeInt32 converter.writeLowFirst number false
  | .int32bs => writeInt32 converter.writeLowFirst number true
  | .uint32 => writeUInt32 converter.writeLowFirst number false
  | .uint32bs => writeUInt32 converter.writeLowFirst number true

def getWriteRegistersCount (converter : ExprtkConverter) (resultsCount : Nat) :
    Nat :=
  match converter.writeAs with
  | .empty | .int16 | .int16bs | .uint16bs | .uint16 => resultsCount
  | _ => 2 * resultsCount

def writeResult (converter : ExprtkConverter) (registers : List UInt16)
    (result : ExprResult) : Except GatewayException (List UInt16) :=
  match result with
  | .scalar number => do
      let written ← converter.writeRegisterValues number
      .ok (registers ++ written)
  | .vector | .string | .unknown => .error .conv

def toModbus (converter : ExprtkConverter) (value : MqttValue)
    (registerCount : Int) : Except GatewayException (List UInt16) := do
  match ← converter.evaluate value with
  | .results results =>
    if 100 < results.length then
      .error .conv
    else if (converter.getWriteRegistersCount results.length : Int) ≠
        registerCount then
      .error .conv
    else
      results.foldlM converter.writeResult []
  | .value number =>
    if registerCount ≠ converter.getWriteRegistersCount 1 then
      .error .conv
    else
      converter.writeRegisterValues number

/-- `ConverterTools::toNumber` of the bits of an `int32_t`. -/
def toNumber (highRegister lowRegister : UInt16) (swapBytes : Bool) : Int :=
  toInt32 ((setByteOrder highRegister swapBytes).toNat * 65536 +
    (setByteOrder lowRegister swapBytes).toNat)

def int32 (highRegister lowRegister : UInt16) : Int :=
  toNumber highRegister lowRegister false

def int32bs (highRegister lowRegister : UInt16) : Int :=
  toNumber highRegister lowRegister true

def uint32 (highRegister lowRegister : UInt16) : Int :=
  toNumber highRegister lowRegister false % 4294967296

def uint32bs (highRegister lowRegister : UInt16) : Int :=
  toNumber highRegister lowRegister true % 4294967296

def int16 (regValue : UInt16) : Int :=
  regValue.toBitVec.toInt

def int16bs (regValue : UInt16) : Int :=
  (setByteOrder regValue true).toBitVec.toInt

def uint16bs (regValue : UInt16) : Int :=
  (setByteOrder regValue true).toNat

/-- A read function of one register, or of the high and the low one. -/
inductive Reader where
  | one (read : UInt16 → Int)
  | two (read : UInt16 → UInt16 → Int)

namespace Reader

def width : Reader → Nat
  | .one _ => 1
  | .two _ => 2

/-- Groups of two, the high register first unless the low one is. -/
def readPairs (lowFirst : Bool) (read : UInt16 → UInt16 → Int) :
    List UInt16 → List Int
  | first :: second :: rest =>
    read (highLow lowFirst first second).1
        (highLow lowFirst first second).2 ::
      readPairs lowFirst read rest
  | _ => []

def readAll (lowFirst : Bool) : Reader → List UInt16 → List Int
  | .one read, registers => registers.map read
  | .two read, registers => readPairs lowFirst read registers

end Reader

/-- The read function of the same name; registers are unsigned without one. -/
def reader : WriteAs → Option Reader
  | .empty | .uint16 => some (.one fun register => register.toNat)
  | .uint16bs => some (.one uint16bs)
  | .int16 => some (.one int16)
  | .int16bs => some (.one int16bs)
  | .int32 => some (.two int32)
  | .int32bs => some (.two int32bs)
  | .uint32 => some (.two uint32)
  | .uint32bs => some (.two uint32bs)
  | .flt32 | .flt32bs => none

/-- The numbers that are converted before a range is checked, or without a
check. -/
def Fits : WriteAs → Int → Prop
  | .uint32, value | .uint32bs, value => 0 ≤ value ∧ value ≤ 4294967295
  | _, value => -2147483648 ≤ value ∧ value ≤ 2147483647

/-- The numbers that the check of their range refuses. -/
def Refused : WriteAs → Int → Prop
  | .empty, value | .uint16, value | .uint16bs, value =>
    value < 0 ∨ 65535 < value
  | .int16, value | .int16bs, value => value < -32768 ∨ 32767 < value
  | _, _ => False

/-- The numbers up to the first one that is refused fit. -/
def FitUntilRefused (writeAs : WriteAs) : List Int → Prop
  | [] => True
  | value :: values => Fits writeAs value ∧
      (Refused writeAs value ∨ FitUntilRefused writeAs values)

/-- The expression gives these integers, as its value or as its results. -/
inductive Delivers : ExprOutcome → List Int → Prop where
  | value {number : ExprNumber} {value : Int} :
      number.truncated = some value → Delivers (.value number) [value]
  | results {numbers : List ExprNumber} {values : List Int} :
      List.Forall₂ (fun number value => number.truncated = some value)
        numbers values →
      Delivers (.results (numbers.map ExprResult.scalar)) values

section Writing

variable {number : ExprNumber} {value : Int} {lowFirst swapBytes : Bool}
  {writeAs : WriteAs}

/-- What becomes of one number: it is refused, its registers are read as this
number, or it does not fit and either has no meaning or is changed. -/
inductive Written (writeAs : WriteAs) (lowFirst : Bool) (reader : Reader)
    (value : Int) : Except GatewayException (List UInt16) → Prop where
  | refused :
      Fits writeAs value → Refused writeAs value →
      Written writeAs lowFirst reader value (.error .conv)
  | back {registers : List UInt16} :
      Fits writeAs value → ¬Refused writeAs value →
      registers.length = reader.width →
      (∀ rest, reader.readAll lowFirst (registers ++ rest) =
        value :: reader.readAll lowFirst rest) →
      Written writeAs lowFirst reader value (.ok registers)
  | undefined :
      ¬Fits writeAs value →
      Written writeAs lowFirst reader value (.error .undefined)
  | changed {registers : List UInt16} {other : Int} :
      ¬Fits writeAs value → (∀ value, ¬Refused writeAs value) →
      other ≠ value →
      (∀ rest, reader.readAll lowFirst (registers ++ rest) =
        other :: reader.readAll lowFirst rest) →
      Written writeAs lowFirst reader value (.ok registers)

variable {lowest highest stored : Int} {read : UInt16 → UInt16 → Int}

theorem narrowed_eq (exact : number.truncated = some value) :
    narrowed lowest highest number =
      if lowest ≤ value ∧ value ≤ highest then .ok value
      else .error .undefined := by
  rw [narrowed, exact]

theorem writeSingle_written {read : UInt16 → Int}
    (exact : number.truncated = some value)
    (fits : Fits writeAs value ↔ -2147483648 ≤ value ∧ value ≤ 2147483647)
    (refused : Refused writeAs value ↔ value < lowest ∨ highest < value)
    (inverse : lowest ≤ value → value ≤ highest →
      read (setByteOrder (UInt16.ofInt value) swapBytes) = value) :
    Written writeAs lowFirst (.one read) value
      (writeSingle lowest highest number swapBytes) := by
  rw [writeSingle, toInt32Value, narrowed_eq exact]
  by_cases range : -2147483648 ≤ value ∧ value ≤ 2147483647
  · rw [if_pos range]
    change Written writeAs lowFirst (.one read) value (if _ then _ else _)
    split
    · rename_i outside
      exact .refused (fits.mpr range) (refused.mpr outside)
    · rename_i inside
      refine .back (fits.mpr range) (mt refused.mp inside) rfl ?_
      intro rest
      change read _ :: rest.map read = value :: rest.map read
      rw [inverse (by omega) (by omega)]
  · rw [if_neg range]
    exact .undefined (mt fits.mp range)

theorem int32ToRegisters_readAll (rest : List UInt16) :
    (Reader.two read).readAll lowFirst
        (int32ToRegisters stored lowFirst swapBytes 2 ++ rest) =
      read (setByteOrder (UInt16.ofInt (stored / 65536)) swapBytes)
          (setByteOrder (UInt16.ofInt stored) swapBytes) ::
        (Reader.two read).readAll lowFirst rest := by
  rw [int32ToRegisters, if_pos rfl]
  cases lowFirst <;> rfl

theorem length_int32ToRegisters :
    (int32ToRegisters stored lowFirst swapBytes 2).length = 2 := by
  cases lowFirst <;> rfl

theorem writeInt32_written (exact : number.truncated = some value)
    (fits : Fits writeAs value ↔ -2147483648 ≤ value ∧ value ≤ 2147483647)
    (never : ∀ value, ¬Refused writeAs value)
    (same : ∀ high low, read high low = toNumber high low swapBytes) :
    Written writeAs lowFirst (.two read) value
      (writeInt32 lowFirst number swapBytes) := by
  rw [writeInt32, toInt32Value, narrowed_eq exact]
  by_cases range : -2147483648 ≤ value ∧ value ≤ 2147483647
  · rw [if_pos range]
    refine .back (fits.mpr range) (never value) length_int32ToRegisters
      fun rest => ?_
    rw [int32ToRegisters_readAll, same, toNumber, setByteOrder_setByteOrder,
      setByteOrder_setByteOrder, toNat_ofInt, toNat_ofInt, toInt32]
    congr 1
    omega
  · rw [if_neg range]
    exact .undefined (mt fits.mp range)

theorem writeUInt32_written (exact : number.truncated = some value)
    (fits : Fits writeAs value ↔ 0 ≤ value ∧ value ≤ 4294967295)
    (never : ∀ value, ¬Refused writeAs value)
    (same : ∀ high low,
      read high low = toNumber high low swapBytes % 4294967296) :
    Written writeAs lowFirst (.two read) value
      (writeUInt32 lowFirst number swapBytes) := by
  have back (rest : List UInt16) : (Reader.two read).readAll lowFirst
      (int32ToRegisters (toInt32 value) lowFirst swapBytes 2 ++ rest) =
        value % 4294967296 :: (Reader.two read).readAll lowFirst rest := by
    rw [int32ToRegisters_readAll, same, toNumber, setByteOrder_setByteOrder,
      setByteOrder_setByteOrder, toNat_ofInt, toNat_ofInt, toInt32, toInt32]
    congr 1
    omega
  rw [writeUInt32, toInt64Value, narrowed_eq exact]
  by_cases unsigned : 0 ≤ value ∧ value ≤ 4294967295
  · rw [if_pos (by omega)]
    refine .back (fits.mpr unsigned) (never value) length_int32ToRegisters
      fun rest => ?_
    rw [back, Int.emod_eq_of_lt (by omega) (by omega)]
  · split
    · exact .changed (mt fits.mp unsigned) never
        (show value % 4294967296 ≠ value by omega) back
    · exact .undefined (mt fits.mp unsigned)

end Writing

section Converting

variable {converter : ExprtkConverter} {reader : Reader}
  (integral : ExprtkConverter.reader converter.writeAs = some reader)

include integral

theorem getWriteRegistersCount_eq (resultsCount : Nat) :
    converter.getWriteRegistersCount resultsCount =
      reader.width * resultsCount := by
  rw [getWriteRegistersCount]
  cases writeAs : converter.writeAs with
  | flt32 | flt32bs =>
    rw [writeAs] at integral
    cases integral
  | _ =>
    rw [writeAs] at integral
    cases integral
    simp [Reader.width]

theorem writeRegisterValues_written {number : ExprNumber} {value : Int}
    (exact : number.truncated = some value) :
    Written converter.writeAs converter.writeLowFirst reader value
      (converter.writeRegisterValues number) := by
  rw [writeRegisterValues]
  cases writeAs : converter.writeAs <;> rw [writeAs] at integral <;>
    cases integral
  case empty | uint16 =>
    refine writeSingle_written exact Iff.rfl Iff.rfl fun lower upper => ?_
    change ((UInt16.ofInt value).toNat : Int) = value
    rw [toNat_ofInt]
    omega
  case uint16bs =>
    refine writeSingle_written exact Iff.rfl Iff.rfl fun lower upper => ?_
    rw [uint16bs, setByteOrder_setByteOrder, toNat_ofInt]
    omega
  case int16 => exact writeSingle_written exact Iff.rfl Iff.rfl toInt_ofInt
  case int16bs =>
    refine writeSingle_written exact Iff.rfl Iff.rfl fun lower upper => ?_
    rw [int16bs, setByteOrder_setByteOrder, toInt_ofInt lower upper]
  case int32 | int32bs =>
    exact writeInt32_written exact Iff.rfl (fun _ => id) fun _ _ => rfl
  case uint32 | uint32bs =>
    exact writeUInt32_written exact Iff.rfl (fun _ => id) fun _ _ => rfl

omit integral in
theorem foldlM_writeResult_append {results : List ExprResult}
    {registers last : List UInt16}
    (wrote : results.foldlM converter.writeResult registers = .ok last) :
    ∃ more, last = registers ++ more := by
  refine @foldlM_preserves _ _ _ (fun state => ∃ more, state = registers ++ more)
    _ _ ?_ _ _ ⟨[], (List.append_nil _).symm⟩ wrote
  rintro result _ _ next ⟨more, rfl⟩ ran
  cases result with
  | scalar number =>
    obtain ⟨written, _, same⟩ := exists_of_bind ran
    cases same
    exact ⟨more ++ written, List.append_assoc ..⟩
  | _ => cases ran

theorem foldlM_writeResult_ne_conv (never : ∀ value,
      ¬Refused converter.writeAs value)
    {numbers : List ExprNumber} {values : List Int}
    (exact : List.Forall₂ (fun number value => number.truncated = some value)
      numbers values)
    (registers : List UInt16) :
    (numbers.map ExprResult.scalar).foldlM converter.writeResult registers ≠
      .error .conv := by
  induction exact generalizing registers with
  | nil => nofun
  | @cons number value numbers values here rest induction =>
    have written := writeRegisterValues_written integral here
    rw [List.map_cons, List.foldlM_cons, writeResult]
    generalize converter.writeRegisterValues number = result at written
    cases written with
    | refused _ refused => exact absurd refused (never value)
    | back _ _ _ _ => exact induction _
    | undefined _ => nofun
    | changed _ _ _ _ => exact induction _

theorem writeResults_iff {numbers : List ExprNumber} {values : List Int}
    (exact : List.Forall₂ (fun number value => number.truncated = some value)
      numbers values)
    (registers : List UInt16) :
    ((numbers.map ExprResult.scalar).foldlM converter.writeResult registers =
      .error .conv ∨
    ∃ written,
      (numbers.map ExprResult.scalar).foldlM converter.writeResult registers =
        .ok (registers ++ written) ∧
      written.length = reader.width * values.length ∧
      reader.readAll converter.writeLowFirst written = values) ↔
      FitUntilRefused converter.writeAs values := by
  induction exact generalizing registers with
  | nil =>
    refine iff_of_true (.inr ⟨[], ?_, rfl, ?_⟩) trivial
    · rw [List.append_nil]
      rfl
    · cases reader <;> rfl
  | @cons number value numbers values here rest induction =>
    have written := writeRegisterValues_written integral here
    rw [List.map_cons, List.foldlM_cons, writeResult, FitUntilRefused]
    generalize converter.writeRegisterValues number = result at written
    cases written with
    | refused fits refused => exact iff_of_true (.inl rfl) ⟨fits, .inl refused⟩
    | @back written fits kept length back =>
      rw [and_iff_right fits, or_iff_right kept,
        ← induction (registers ++ written)]
      refine or_congr_right ⟨?_, ?_⟩
      · rintro ⟨all, wrote, sized, read⟩
        obtain ⟨more, same⟩ := foldlM_writeResult_append wrote
        rw [List.append_assoc, List.append_cancel_left_eq] at same
        subst same
        rw [back] at read
        rw [List.length_append, length, List.length_cons,
          Nat.mul_succ] at sized
        refine ⟨more, ?_, by omega, (List.cons.inj read).2⟩
        rw [List.append_assoc]
        exact wrote
      · rintro ⟨more, wrote, sized, read⟩
        refine ⟨written ++ more, ?_, ?_, ?_⟩
        · rw [← List.append_assoc]
          exact wrote
        · rw [List.length_append, length, sized, List.length_cons,
            Nat.mul_succ, Nat.add_comm]
        · rw [back, read]
    | undefined unfit =>
      refine iff_of_false ?_ (fun fits => unfit fits.1)
      rintro (refused | ⟨_, wrote, _⟩)
      · cases refused
      · cases wrote
    | @changed written other unfit never different back =>
      refine iff_of_false ?_ (fun fits => unfit fits.1)
      rintro (refused | ⟨all, wrote, _, read⟩)
      · exact foldlM_writeResult_ne_conv integral never rest _ refused
      · obtain ⟨more, same⟩ := foldlM_writeResult_append wrote
        rw [List.append_assoc, List.append_cancel_left_eq] at same
        rw [same, back] at read
        exact different (List.cons.inj read).1

end Converting

theorem toModbus_value {converter : ExprtkConverter} {value : MqttValue}
    {number : ExprNumber}
    (evaluated : converter.evaluate value = .ok (.value number))
    (registerCount : Int) :
    converter.toModbus value registerCount =
      if registerCount ≠ converter.getWriteRegistersCount 1 then .error .conv
      else converter.writeRegisterValues number := by
  rw [toModbus, evaluated]
  rfl

theorem toModbus_results {converter : ExprtkConverter} {value : MqttValue}
    {results : List ExprResult}
    (evaluated : converter.evaluate value = .ok (.results results))
    (registerCount : Int) :
    converter.toModbus value registerCount =
      if 100 < results.length then .error .conv
      else if (converter.getWriteRegistersCount results.length : Int) ≠
        registerCount then .error .conv
      else results.foldlM converter.writeResult [] := by
  rw [toModbus, evaluated]
  rfl

/-- A `ConvException`, or as many registers as were asked for, which are read
as the integers. -/
def ReadBack (converter : ExprtkConverter) (reader : Reader)
    (value : MqttValue) (registerCount : Int) (values : List Int) : Prop :=
  converter.toModbus value registerCount = .error .conv ∨
    ∃ registers, converter.toModbus value registerCount = .ok registers ∧
      registers.length = registerCount ∧
      reader.readAll converter.writeLowFirst registers = values

theorem foldlM_writeResult_single (converter : ExprtkConverter)
    (number : ExprNumber) :
    [ExprResult.scalar number].foldlM converter.writeResult [] =
      converter.writeRegisterValues number := by
  rw [List.foldlM_cons, writeResult]
  cases converter.writeRegisterValues number <;> rfl

/-- Integers are refused or read back exactly if the count is refused or no
number that does not fit comes before one that is refused. -/
theorem written_read_back_iff {converter : ExprtkConverter} {reader : Reader}
    (integral : ExprtkConverter.reader converter.writeAs = some reader)
    {value : MqttValue} {outcome : ExprOutcome} {values : List Int}
    (evaluated : converter.evaluate value = .ok outcome)
    (delivered : Delivers outcome values) (registerCount : Int) :
    ReadBack converter reader value registerCount values ↔
      (values.length ≤ 100 →
        ((reader.width * values.length : Nat) : Int) = registerCount →
        FitUntilRefused converter.writeAs values) := by
  have written {numbers : List ExprNumber}
      (exact : List.Forall₂ (fun number value =>
        number.truncated = some value) numbers values)
      (converted : converter.toModbus value registerCount =
        if values.length ≤ 100 ∧
            ((reader.width * values.length : Nat) : Int) = registerCount then
          (numbers.map ExprResult.scalar).foldlM converter.writeResult []
        else
          .error .conv) :
      ReadBack converter reader value registerCount values ↔
        (values.length ≤ 100 →
          ((reader.width * values.length : Nat) : Int) = registerCount →
          FitUntilRefused converter.writeAs values) := by
    rw [ReadBack, converted]
    split
    · rename_i counted
      rw [forall_prop_of_true counted.1, forall_prop_of_true counted.2,
        ← writeResults_iff integral exact []]
      refine or_congr_right (exists_congr fun registers => ?_)
      rw [List.nil_append, ← counted.2, Nat.cast_inj]
    · rename_i refused
      exact iff_of_true (.inl rfl) fun short counted =>
        absurd ⟨short, counted⟩ refused
  cases delivered with
  | @value number result exact =>
    refine written (.cons exact .nil) ?_
    rw [toModbus_value evaluated, getWriteRegistersCount_eq integral,
      List.map_singleton, foldlM_writeResult_single, List.length_singleton,
      ite_not]
    exact if_congr ⟨fun counted => ⟨by decide, counted.symm⟩,
      fun counted => counted.2.symm⟩ rfl rfl
  | @results numbers _ exact =>
    refine written exact ?_
    rw [toModbus_results evaluated, getWriteRegistersCount_eq integral,
      List.length_map, exact.length_eq, ite_not]
    split
    · rename_i long
      rw [if_neg fun counted => absurd counted.1 (not_le.mpr long)]
    · rename_i short
      exact if_congr (and_iff_right (not_lt.mp short)).symm rfl rfl

theorem written_read_back_int32bs : ∃ registers, ExprtkConverter.toModbus
        { writeAs := .int32bs
          writeLowFirst := true
          evaluate := fun _ => .ok (.results
            [.scalar ⟨some (-2), 0⟩, .scalar ⟨some 70000, 0⟩]) }
        (.int 0) 4 = .ok registers ∧
      (Reader.two int32bs).readAll true registers = [-2, 70000] := by
  have back := (@written_read_back_iff
    { writeAs := .int32bs
      writeLowFirst := true
      evaluate := fun _ => .ok (.results
        [.scalar ⟨some (-2), 0⟩, .scalar ⟨some 70000, 0⟩]) }
    (.two int32bs) rfl (.int 0)
    (.results ([⟨some (-2), 0⟩, ⟨some 70000, 0⟩].map .scalar)) [-2, 70000] rfl
    (.results (.cons rfl (.cons rfl .nil))) 4).mpr
    (fun _ _ => by simp [FitUntilRefused, Fits])
  rcases back with refused | ⟨registers, written, _, read⟩
  · exact absurd refused (by decide +kernel)
  · exact ⟨registers, written, read⟩

/-- The unsigned helper takes a negative number and one of more than 32
bits. -/
theorem uint32_not_read_back : (ExprtkConverter.toModbus
        { writeAs := .uint32
          writeLowFirst := false
          evaluate := fun _ => .ok (.value ⟨some (-1), 0⟩) } (.int 0) 2 =
      .ok [65535, 65535] ∧
      (Reader.two uint32).readAll false [65535, 65535] = [4294967295]) ∧
    ExprtkConverter.toModbus
        { writeAs := .uint32
          writeLowFirst := false
          evaluate := fun _ => .ok (.value ⟨some 4294967296, 0⟩) }
        (.int 0) 2 = .ok [0, 0] ∧
      (Reader.two uint32).readAll false [0, 0] = [0] := by
  decide +kernel

end ExprtkConverter

end MqmGateway
