import Mathlib.Data.Int.Order.Basic

/-!
# Register ranges and message headers

The address arithmetic of `modbus_types`.  Register numbers and counts are C
`int`s in the source; they are integers here, so a statement about all ranges
covers every range whose last register does not overflow.
-/

namespace MqmGateway

inductive RegisterType where
  | coil
  | bit
  | holding
  | input
deriving DecidableEq, Repr

inductive ModbusWriteMode where
  | auto
  | forceMultipleRegisters
deriving DecidableEq, Repr

inductive PublishMode where
  | onChange
  | everyPoll
  | once
deriving DecidableEq, Repr

structure ModbusAddressRange where
  register : Int
  count : Int
  registerType : RegisterType
deriving DecidableEq, Repr

namespace ModbusAddressRange

def firstRegister (range : ModbusAddressRange) : Int :=
  range.register

def lastRegister (range : ModbusAddressRange) : Int :=
  range.register + range.count - 1

def overlaps (range poll : ModbusAddressRange) : Bool :=
  if range.registerType ≠ poll.registerType then
    false
  else
    range.firstRegister ≤ poll.lastRegister ∧
      poll.firstRegister ≤ range.lastRegister

/-- Extend `range` to the hull of both ranges; the type stays its own. -/
def merge (range other : ModbusAddressRange) : ModbusAddressRange :=
  let first :=
    if range.firstRegister ≤ other.firstRegister then
      range.firstRegister
    else
      other.firstRegister
  let last :=
    if range.lastRegister ≥ other.lastRegister then
      range.lastRegister
    else
      other.lastRegister
  { range with register := first, count := last - first + 1 }

/-- The register `number` of type `type` lies in the range. -/
def Covers (range : ModbusAddressRange) (type : RegisterType) (number : Int) :
    Prop :=
  range.registerType = type ∧
    range.firstRegister ≤ number ∧ number ≤ range.lastRegister

instance (range : ModbusAddressRange) (type : RegisterType) (number : Int) :
    Decidable (range.Covers type number) :=
  inferInstanceAs (Decidable (_ ∧ _))

theorem overlaps_eq_true_iff {range poll : ModbusAddressRange} :
    range.overlaps poll = true ↔ range.registerType = poll.registerType ∧
        range.firstRegister ≤ poll.lastRegister ∧
        poll.firstRegister ≤ range.lastRegister := by
  unfold overlaps
  split <;> rename_i different
  · simp [different]
  · simp [not_not.mp different]

theorem merge_firstRegister (range other : ModbusAddressRange) :
    (range.merge other).firstRegister =
      min range.firstRegister other.firstRegister := by
  unfold merge firstRegister
  dsimp only
  split <;> omega

theorem merge_lastRegister (range other : ModbusAddressRange) :
    (range.merge other).lastRegister =
      max range.lastRegister other.lastRegister := by
  unfold merge lastRegister firstRegister
  dsimp only
  split <;> split <;> omega

end ModbusAddressRange

/-- The header shared by commands and by the messages between threads. -/
structure ModbusMessageBase extends ModbusAddressRange where
  slaveId : Int
  commandId : Int
deriving DecidableEq, Repr

namespace ModbusMessageBase

def hasCommandId (message : ModbusMessageBase) : Bool :=
  message.commandId ≠ 0

def isRpc (message : ModbusMessageBase) : Bool :=
  message.commandId < 0

end ModbusMessageBase

end MqmGateway
