import MqmGateway.ConverterNameParser
import MqmGateway.Converters
import MqmGateway.Library.Fallible

/-!
# The debug converter

`std.debug` shows the registers under the calls of other converters.  Its keys
are meant to be copied into a configuration: a key has to be accepted there,
and the converter it names has to show the same number.
-/

namespace MqmGateway

open ConverterTools

namespace DoubleRegisterArgTools

/-- A flag that older configurations gave as a text. -/
def getFlag (name : Payload) (off on : List Payload)
    (values : ConverterArgValues) : Except String Bool := do
  let value ← values.getArgValue name
  value.asBool.tryCatch fun what =>
    if off.contains value.value then
      .ok false
    else if on.contains value.value then
      .ok true
    else
      .error what

def getSwapBytes : ConverterArgValues → Except String Bool :=
  getFlag ConverterArg.sSwapBytesArgName [[]] ["swap_bytes".toList]

def getLowFirst : ConverterArgValues → Except String Bool :=
  getFlag ConverterArg.sLowFirstArgName [[], "high_first".toList]
    ["low_first".toList]

end DoubleRegisterArgTools

open DoubleRegisterArgTools

/-- A converter before its arguments are set. -/
structure ConverterClass where
  getArgs : ConverterArgs
  setArgValues : ConverterArgValues → Except String DataConverter

namespace StdConvPlugin

/-- `Int16Converter` and `UInt16Converter`. -/
def singleRegisterClass (converter : Bool → DataConverter) : ConverterClass :=
  { getArgs := [.flag ConverterArg.sSwapBytesArgName false]
    setArgValues := fun values => (getSwapBytes values).map converter }

def int32Class : ConverterClass :=
  { getArgs :=
      [.flag ConverterArg.sLowFirstArgName false,
        .flag ConverterArg.sSwapBytesArgName false]
    setArgValues := fun values => do
      let swapBytes ← getSwapBytes values
      let lowFirst ← getLowFirst values
      .ok (int32Converter lowFirst swapBytes) }

def uint32Class : ConverterClass :=
  { getArgs := [.flag ConverterArg.sLowFirstArgName false]
    setArgValues := fun values => (getLowFirst values).map uint32Converter }

def getIntegerConverter (name : Payload) : Option ConverterClass :=
  if name = "int32".toList then
    some int32Class
  else if name = "int16".toList then
    some (singleRegisterClass int16Converter)
  else if name = "uint16".toList then
    some (singleRegisterClass uint16Converter)
  else if name = "uint32".toList then
    some uint32Class
  else
    none

def createConverterInstance (plugin converter : Payload) :
    Option ConverterClass :=
  if plugin = "std".toList then getIntegerConverter converter else none

def createIntegerConverter (call : Payload) : Except String DataConverter := do
  let specification ← ConverterNameParser.parse call
  match createConverterInstance specification.plugin
      specification.converter with
  | none =>
    .error ("Converter " ++ String.ofList specification.plugin ++ "." ++
      String.ofList specification.converter ++ " not found")
  | some converter => do
      let values ← ConverterNameParser.parseArgs converter.getArgs
        specification.arguments
      converter.setArgValues values

end StdConvPlugin

/-- A value in the document of `std.debug`.  A float is given by its bits. -/
inductive DebugValue where
  | number (value : Int)
  | float (bits : Nat)
  | text (text : Payload)
deriving DecidableEq, Repr

inductive DebugSection where
  | array (elements : List DebugValue)
  | object (members : List (Payload × DebugValue))
  | text (text : Payload)
deriving DecidableEq, Repr

abbrev DebugDocument := List (Payload × DebugSection)

namespace DebugConverter

def hexText (value : UInt16) : Payload :=
  '0' :: 'x' :: [12, 8, 4, 0].map fun shift =>
    MqttPayload.hexDigit (value.toNat / 2 ^ shift % 16)

def addRawArrays (data : List UInt16) : DebugDocument :=
  [("raw".toList, .array (data.map fun value => .number value.toNat)),
    ("hex".toList, .array (data.map fun value => .text (hexText value)))]

def addInt16Section (value : UInt16) : DebugDocument :=
  let swapped := setByteOrder value true
  [("int16".toList, .object
      [("std.int16".toList, .number value.toBitVec.toInt),
        ("std.int16(swap_bytes=true)".toList,
          .number swapped.toBitVec.toInt)]),
    ("uint16".toList, .object
      [("std.uint16".toList, .number value.toNat),
        ("std.uint16(swap_bytes=true)".toList, .number swapped.toNat)])]

def addNumbers (name : Payload) (cast : Int → Int)
    (calls : List (Payload × Bool × Bool)) (data : List UInt16) :
    Except GatewayException DebugDocument := do
  let members ← calls.mapM fun (call, lowFirst, swapBytes) =>
    (registersToInt32 data lowFirst swapBytes).map fun value =>
      (call, DebugValue.number (cast value))
  .ok [(name, .object members)]

def addInt32Section : List UInt16 → Except GatewayException DebugDocument :=
  addNumbers "int32".toList (fun value => value)
    [("std.int32".toList, false, false),
      ("std.int32(low_first=true)".toList, true, false),
      ("std.int32(swap_bytes=true)".toList, false, true),
      ("std.int32(low_first=true,swap_bytes=true)".toList, true, true)]

def addUInt32Section : List UInt16 → Except GatewayException DebugDocument :=
  addNumbers "uint32".toList (· % 4294967296)
    [("std.uint32".toList, false, false),
      ("std.uint32(low_first=true)".toList, true, false),
      ("std.uint32(swap_bytes=true)".toList, false, true),
      ("std.uint32(low_first=true,swap_bytes=true)".toList, true, true)]

def floatBits (highRegister lowRegister : UInt16) (swapBytes : Bool) :
    Except GatewayException Nat :=
  (registersToInt32 [highRegister, lowRegister] false swapBytes).map
    fun value => (value % 4294967296).toNat

/-- JSON has no numbers for an exponent of ones. -/
def addFloat (bits : Nat) : DebugValue :=
  if bits / 8388608 % 256 = 255 then
    if bits % 8388608 ≠ 0 then
      .text "nan".toList
    else if bits < 2147483648 then
      .text "inf".toList
    else
      .text "-inf".toList
  else
    .float bits

def addFloat32Section (first second : UInt16) :
    Except GatewayException DebugDocument := do
  let plain ← floatBits first second false
  let lowFirst ← floatBits second first false
  let swapped ← floatBits first second true
  let both ← floatBits second first true
  .ok [("float32".toList, .object [("std.float32".toList, addFloat plain),
      ("std.float32(low_first=true)".toList, addFloat lowFirst),
      ("std.float32(swap_bytes=true)".toList, addFloat swapped),
      ("std.float32(low_first=true,swap_bytes=true)".toList, addFloat both)])]

def addStringSection (data : List UInt16) : DebugDocument :=
  [("string".toList, .text (data.flatMap fun value =>
    [Char.ofNat (value.toNat / 256), Char.ofNat (value.toNat % 256)]))]

/-- The sections that depend on the number of registers. -/
def numberSections : List UInt16 → Except GatewayException DebugDocument
  | [value] => .ok (addInt16Section value)
  | [first, second] => do
      let int32 ← addInt32Section [first, second]
      let uint32 ← addUInt32Section [first, second]
      let float32 ← addFloat32Section first second
      .ok (int32 ++ uint32 ++ float32)
  | _ => .ok []

def document (data : List UInt16) : Except GatewayException DebugDocument :=
  (numberSections data).map fun sections =>
    addRawArrays data ++ sections ++ addStringSection data

end DebugConverter

/-- The document is written by rapidjson, maybe with line breaks. -/
def debugConverter (write : Bool → DebugDocument → Payload)
    (prettyPrint : Bool) : DataConverter :=
  { toMqtt := fun data =>
      (DebugConverter.document data).map fun document =>
        .binary (write prettyPrint document)
    toModbus := fun _ _ => .error .conv }

namespace DebugConverter

open StdConvPlugin

def pairValue (lowFirst swapBytes : Bool) (first second : UInt16) : Int :=
  let (high, low) := highLow lowFirst first second
  toInt32 ((setByteOrder high swapBytes).toNat * 65536 +
    (setByteOrder low swapBytes).toNat)

variable {name call : Payload} {first second : UInt16}
  {sections : DebugDocument} {members : List (Payload × DebugValue)}
  {number : Int}

theorem addNumbers_entry {shown : Payload} {cast : Int → Int}
    {calls : List (Payload × Bool × Bool)}
    (added : addNumbers name cast calls [first, second] = .ok sections)
    (listed : (shown, .object members) ∈ sections)
    (entry : (call, .number number) ∈ members) :
    ∃ given ∈ calls, given.1 = call ∧
      cast (pairValue given.2.1 given.2.2 first second) = number := by
  obtain ⟨collected, ran, same⟩ := exists_of_bind added
  cases same
  obtain ⟨rfl, same⟩ := Prod.mk.inj (List.mem_singleton.mp listed)
  rw [DebugSection.object.inj same] at entry
  obtain ⟨given, found, shows⟩ := exists_of_mem_mapM ran entry
  obtain ⟨sameCall, sameValue⟩ := Prod.mk.inj (Except.ok.inj shows)
  exact ⟨given, found, sameCall, DebugValue.number.inj sameValue⟩

theorem int32_toMqtt_pair (lowFirst swapBytes : Bool) (first second : UInt16) :
    (int32Converter lowFirst swapBytes).toMqtt [first, second] =
      .ok (.int (pairValue lowFirst swapBytes first second)) :=
  rfl

theorem uint32_toMqtt_pair (lowFirst : Bool) (first second : UInt16) :
    (uint32Converter lowFirst).toMqtt [first, second] =
      .ok (.int64 (pairValue lowFirst false first second % 4294967296)) := by
  have unsigned (high low : UInt16) :
      toInt32 (high.toNat * 65536 + low.toNat) % 4294967296 =
        high.toNat * 65536 + low.toNat := by
    have highBound := high.toNat_lt
    have lowBound := low.toNat_lt
    rw [toInt32]
    omega
  have plain (value : UInt16) : setByteOrder value false = value := rfl
  simp only [uint32Converter, pairValue, plain, unsigned]

/-- A call that can be copied into a configuration: it has an argument list,
and `std.uint32` is not asked to swap bytes. -/
def Copyable (call : Payload) : Prop :=
  '(' ∈ call ∧
    ¬("std.uint32".toList <+: call ∧ "swap_bytes".toList <:+: call)

instance (call : Payload) : Decidable (Copyable call) :=
  inferInstanceAs (Decidable (_ ∧ _))

/-- The converter that the call names shows the number. -/
def Agrees (call : Payload) (registers : List UInt16) (value : Int) : Prop :=
  ∃ converter, createIntegerConverter call = .ok converter ∧
    (converter.toMqtt registers = .ok (.int value) ∨
      converter.toMqtt registers = .ok (.int64 value))

theorem Agrees.iff_copyable {registers : List UInt16}
    {value : Int} (agrees : Agrees call registers value)
    (copyable : Copyable call) :
    Agrees call registers value ↔ Copyable call :=
  iff_of_true agrees copyable

theorem refused_iff_copyable {registers : List UInt16}
    {value : Int} (refused : (createIntegerConverter call).isOk = false)
    (copyable : ¬Copyable call) :
    Agrees call registers value ↔ Copyable call := by
  refine iff_of_false ?_ copyable
  rintro ⟨converter, created, _⟩
  rw [created] at refused
  cases refused

theorem addInt16Section_calls {value : UInt16}
    (listed : (name, .object members) ∈ addInt16Section value)
    (entry : (call, .number number) ∈ members) :
    Agrees call [value] number ↔ Copyable call := by
  simp only [addInt16Section, List.mem_cons, Prod.mk.injEq,
    DebugSection.object.injEq, List.not_mem_nil, or_false] at listed
  rcases listed with ⟨rfl, rfl⟩ | ⟨rfl, rfl⟩
  · simp only [List.mem_cons, Prod.mk.injEq, DebugValue.number.injEq,
      List.not_mem_nil, or_false] at entry
    rcases entry with ⟨rfl, rfl⟩ | ⟨rfl, rfl⟩
    · exact refused_iff_copyable (by decide +kernel) (by decide +kernel)
    · exact Agrees.iff_copyable ⟨int16Converter true, rfl, .inl rfl⟩
        (by decide +kernel)
  · simp only [List.mem_cons, Prod.mk.injEq, DebugValue.number.injEq,
      List.not_mem_nil, or_false] at entry
    rcases entry with ⟨rfl, rfl⟩ | ⟨rfl, rfl⟩
    · exact refused_iff_copyable (by decide +kernel) (by decide +kernel)
    · exact Agrees.iff_copyable ⟨uint16Converter true, rfl, .inl rfl⟩
        (by decide +kernel)

theorem addInt32Section_calls
    (added : addInt32Section [first, second] = .ok sections)
    (listed : (name, .object members) ∈ sections)
    (entry : (call, .number number) ∈ members) :
    Agrees call [first, second] number ↔ Copyable call := by
  obtain ⟨given, found, rfl, rfl⟩ := addNumbers_entry added listed entry
  simp only [List.mem_cons, List.not_mem_nil, or_false] at found
  rcases found with rfl | rfl | rfl | rfl
  · exact refused_iff_copyable (by decide +kernel) (by decide +kernel)
  · exact Agrees.iff_copyable
      ⟨_, rfl, .inl (int32_toMqtt_pair true false _ _)⟩ (by decide +kernel)
  · exact Agrees.iff_copyable
      ⟨_, rfl, .inl (int32_toMqtt_pair false true _ _)⟩ (by decide +kernel)
  · exact Agrees.iff_copyable
      ⟨_, rfl, .inl (int32_toMqtt_pair true true _ _)⟩ (by decide +kernel)

theorem addUInt32Section_calls
    (added : addUInt32Section [first, second] = .ok sections)
    (listed : (name, .object members) ∈ sections)
    (entry : (call, .number number) ∈ members) :
    Agrees call [first, second] number ↔ Copyable call := by
  obtain ⟨given, found, rfl, rfl⟩ := addNumbers_entry added listed entry
  simp only [List.mem_cons, List.not_mem_nil, or_false] at found
  rcases found with rfl | rfl | rfl | rfl
  · exact refused_iff_copyable (by decide +kernel) (by decide +kernel)
  · exact Agrees.iff_copyable
      ⟨_, rfl, .inr (uint32_toMqtt_pair true _ _)⟩ (by decide +kernel)
  · exact refused_iff_copyable (by decide +kernel) (by decide +kernel)
  · exact refused_iff_copyable (by decide +kernel) (by decide +kernel)

theorem addFloat_ne_number (bits : Nat) (number : Int) :
    addFloat bits ≠ .number number := by
  rw [addFloat]
  split_ifs <;> simp

theorem addFloat32Section_no_number
    (added : addFloat32Section first second = .ok sections)
    (listed : (name, .object members) ∈ sections) :
    (call, .number number) ∉ members := by
  obtain ⟨plain, _, added⟩ := exists_of_bind added
  obtain ⟨lowFirst, _, added⟩ := exists_of_bind added
  obtain ⟨swapped, _, added⟩ := exists_of_bind added
  obtain ⟨both, _, same⟩ := exists_of_bind added
  cases same
  obtain ⟨rfl, same⟩ := Prod.mk.inj (List.mem_singleton.mp listed)
  rw [DebugSection.object.inj same]
  intro entry
  simp only [List.mem_cons, Prod.mk.injEq, List.not_mem_nil, or_false]
    at entry
  rcases entry with ⟨_, same⟩ | ⟨_, same⟩ | ⟨_, same⟩ | ⟨_, same⟩
  all_goals exact addFloat_ne_number _ _ same.symm

theorem mem_numberSections {data : List UInt16} {document : DebugDocument}
    (shown : DebugConverter.document data = .ok document)
    (listed : (name, .object members) ∈ document) :
    ∃ sections, numberSections data = .ok sections ∧
      (name, .object members) ∈ sections := by
  rw [DebugConverter.document] at shown
  cases built : numberSections data with
  | error exception =>
    rw [built] at shown
    cases shown
  | ok sections =>
    rw [built] at shown
    cases shown
    refine ⟨sections, rfl, ?_⟩
    simpa [addRawArrays, addStringSection] using listed

/-- A number stands under a call of a converter that shows it exactly if the
call has an argument list and does not ask `std.uint32` to swap bytes. -/
theorem debug_calls_agree {registers : List UInt16}
    {document : DebugDocument} {name call : Payload}
    {members : List (Payload × DebugValue)} {number : Int}
    (shown : DebugConverter.document registers = .ok document)
    (listed : (name, .object members) ∈ document)
    (entry : (call, .number number) ∈ members) :
    Agrees call registers number ↔ Copyable call := by
  obtain ⟨sections, built, listed⟩ := mem_numberSections shown listed
  rcases registers with _ | ⟨first, _ | ⟨second, _ | ⟨third, registers⟩⟩⟩
  · cases built
    cases listed
  · cases built
    exact addInt16Section_calls listed entry
  · obtain ⟨int32, int32Added, built⟩ := exists_of_bind built
    obtain ⟨uint32, uint32Added, built⟩ := exists_of_bind built
    obtain ⟨float32, float32Added, same⟩ := exists_of_bind built
    cases same
    rw [List.mem_append, List.mem_append] at listed
    rcases listed with (listed | listed) | listed
    · exact addInt32Section_calls int32Added listed entry
    · exact addUInt32Section_calls uint32Added listed entry
    · exact absurd entry (addFloat32Section_no_number float32Added listed)
  · cases built
    cases listed

def showsEntry (name call : Payload) (number : Int) :
    Payload × DebugSection → Bool
  | (given, .object members) =>
    given = name && members.contains (call, .number number)
  | _ => false

theorem exists_shown {registers : List UInt16} {name call : Payload}
    {number : Int}
    (checked : (DebugConverter.document registers).toOption.any
      (·.any (showsEntry name call number)) = true) :
    ∃ document members, DebugConverter.document registers = .ok document ∧
      (name, .object members) ∈ document ∧
      (call, .number number) ∈ members := by
  cases shown : DebugConverter.document registers with
  | error exception =>
    rw [shown] at checked
    cases checked
  | ok document =>
    rw [shown] at checked
    obtain ⟨⟨given, part⟩, listed, entry⟩ := List.any_eq_true.mp checked
    cases part with
    | object members =>
      simp only [showsEntry, Bool.and_eq_true, decide_eq_true_eq,
        List.contains_iff_mem] at entry
      obtain ⟨rfl, entry⟩ := entry
      exact ⟨document, members, rfl, listed, entry⟩
    | _ => cases entry

theorem debug_calls_agree_swapped : ∃ document members,
    DebugConverter.document [0xA1B2] = .ok document ∧
    ("int16".toList, .object members) ∈ document ∧
    ("std.int16(swap_bytes=true)".toList, .number (-19807)) ∈ members ∧
    Agrees "std.int16(swap_bytes=true)".toList [0xA1B2] (-19807) := by
  obtain ⟨document, members, shown, listed, entry⟩ := @exists_shown [0xA1B2]
    "int16".toList "std.int16(swap_bytes=true)".toList (-19807)
    (by decide +kernel)
  exact ⟨document, members, shown, listed, entry,
    (debug_calls_agree shown listed entry).mpr (by decide +kernel)⟩

/-- A call without arguments does not match the form of calls, and
`std.uint32` has no argument `swap_bytes`. -/
theorem debug_calls_refused :
    ((∃ document members, DebugConverter.document [1] = .ok document ∧
      ("int16".toList, .object members) ∈ document ∧
      ("std.int16".toList, .number 1) ∈ members) ∧
      (ConverterNameParser.parse "std.int16".toList).isOk = false) ∧
    (∃ document members, DebugConverter.document [1, 2] = .ok document ∧
      ("uint32".toList, .object members) ∈ document ∧
      ("std.uint32(swap_bytes=true)".toList, .number 16777728) ∈ members) ∧
      (ConverterNameParser.parseArgs uint32Class.getArgs
        "swap_bytes=true".toList).isOk = false := by
  refine ⟨⟨exists_shown ?_, ?_⟩, exists_shown ?_, ?_⟩
  all_goals decide +kernel

end DebugConverter

end MqmGateway
