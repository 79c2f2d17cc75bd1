import MqmGateway.ModbusTypes

/-!
# Messages between the main thread and the modbus threads

`MsgRegisterPoll` and its specification are what the configuration loader
hands to a modbus thread; the remaining messages travel through the two
queues of a `ModbusClient`.
-/

namespace MqmGateway

structure MsgRegisterPoll extends ModbusAddressRange where
  slaveId : Int
  refreshMsec : Int
  publishMode : PublishMode
deriving DecidableEq, Repr

namespace MsgRegisterPoll

/-- The refresh of a poll group that no MQTT register declaration asked for. -/
def INVALID_REFRESH : Int := -1

/-- A poll carries no command id: its constructor leaves the default zero. -/
def toModbusMessageBase (poll : MsgRegisterPoll) : ModbusMessageBase :=
  { toModbusAddressRange := poll.toModbusAddressRange
    slaveId := poll.slaveId
    commandId := 0 }

def mergeRefresh (refresh other : Int) : Int :=
  if refresh = INVALID_REFRESH then
    other
  else if other ≠ INVALID_REFRESH ∧ refresh > other then
    other
  else
    refresh

def mergePublishMode (mode other : PublishMode) : PublishMode :=
  match mode with
  | .everyPoll => .everyPoll
  | .onChange => if other = .everyPoll then other else .onChange
  | .once => other

def merge (poll other : MsgRegisterPoll) : MsgRegisterPoll :=
  { toModbusAddressRange :=
      poll.toModbusAddressRange.merge other.toModbusAddressRange
    slaveId := poll.slaveId
    refreshMsec := mergeRefresh poll.refreshMsec other.refreshMsec
    publishMode := mergePublishMode poll.publishMode other.publishMode }

/-- The test of `MsgRegisterPollSpecification::merge`: same slave and
overlapping registers of the same type. -/
def touches (poll other : MsgRegisterPoll) : Bool :=
  poll.slaveId == other.slaveId &&
    poll.toModbusAddressRange.overlaps other.toModbusAddressRange

/-- The constructor, with its checks in a build without `NDEBUG`. -/
def checked (asserts : Bool) (poll : MsgRegisterPoll) :
    Except String MsgRegisterPoll :=
  if asserts ∧ poll.register < 0 then
    .error "Invalid register number"
  else if asserts ∧ poll.count ≤ 0 then
    .error "Count cannot be 0 or negative"
  else
    .ok poll

theorem eq_of_checked {asserts : Bool} {poll made : MsgRegisterPoll}
    (passed : poll.checked asserts = .ok made) : made = poll := by
  rw [checked] at passed
  split at passed
  · cases passed
  · split at passed
    · cases passed
    · cases passed
      rfl

end MsgRegisterPoll

structure MsgRegisterPollSpecification where
  networkName : String
  registers : List MsgRegisterPoll
deriving DecidableEq, Repr

namespace MsgRegisterPollSpecification

/-- Every stored range that overlaps the new one is erased, in order, and
merged into it; the result is pushed back. -/
def merge (spec : MsgRegisterPollSpecification) (poll : MsgRegisterPoll) :
    MsgRegisterPollSpecification :=
  let overlaped := spec.registers.filter fun reg => poll.touches reg
  let remaining := spec.registers.filter fun reg => !poll.touches reg
  { spec with
    registers := remaining ++ [overlaped.foldl MsgRegisterPoll.merge poll] }

def mergeAll (spec : MsgRegisterPollSpecification)
    (polls : List MsgRegisterPoll) : MsgRegisterPollSpecification :=
  polls.foldl merge spec

def empty (networkName : String) : MsgRegisterPollSpecification :=
  { networkName, registers := [] }

end MsgRegisterPollSpecification

/-- Register values on their way to the main thread, or a write on its way to
the modbus thread.  The creation time only feeds a log line and is left out. -/
structure MsgRegisterValues extends ModbusMessageBase where
  registers : List UInt16
  writeMode : ModbusWriteMode
deriving DecidableEq, Repr

namespace MsgRegisterValues

/-- The constructors set the header's count from the registers. -/
def create (slaveId : Int) (registerType : RegisterType)
    (registerNumber : Int) (registers : List UInt16) (commandId : Int)
    (writeMode : ModbusWriteMode) : MsgRegisterValues :=
  { register := registerNumber
    count := registers.length
    registerType
    slaveId
    commandId
    registers
    writeMode }

end MsgRegisterValues

/-- An item of the queue from a modbus thread to the main thread. -/
inductive QueueItem where
  | registerValues (message : MsgRegisterValues)
  | registerReadFailed (message : ModbusMessageBase)
  | registerWriteFailed (message : ModbusMessageBase)
  | modbusNetworkState (networkName : String) (isUp : Bool)
deriving DecidableEq, Repr

end MqmGateway
