import MqmGateway.ModbusMessages

/-!
# Commands of the executor

`RegisterPoll` and `RegisterWrite` objects are shared between the scheduler,
the queues and the waiting slot.  A value of these types is a reference to
such an object: `address` tells two objects with equal settings apart, and
the fields that change while the object lives are in `RegisterPollState`.
-/

namespace MqmGateway

/-- Durations and time points of the steady clock, in nanoseconds. -/
abbrev Duration := Int

def Duration.max : Duration := 9223372036854775807

/-- Settings common to both kinds of command.  Retry counts come from
`unsigned short` options; the source keeps them in `short`s, which count down
modulo `2 ^ 16` to the same zero. -/
structure RegisterCommandSettings where
  delayBeforeFirstCommand : Duration
  delayBeforeCommand : Duration
  maxReadRetryCount : Nat
  maxWriteRetryCount : Nat
deriving DecidableEq, Repr

structure RegisterPoll extends RegisterCommandSettings where
  address : Nat
  slaveId : Int
  register : Int
  registerType : RegisterType
  registerCount : Nat
  refresh : Duration
  publishMode : PublishMode
  commandId : Int
deriving DecidableEq, Repr

structure RegisterWrite extends RegisterCommandSettings where
  address : Nat
  slaveId : Int
  register : Int
  registerType : RegisterType
  values : List UInt16
  writeMode : ModbusWriteMode
  commandId : Int
  returnMessage : Option MsgRegisterValues
deriving DecidableEq, Repr

/-- The fields of a `RegisterPoll` that its reads update. -/
structure RegisterPollState where
  lastValues : List UInt16
  lastReadOk : Bool
  lastReadStartTime : Int
  lastReadFinishTime : Int
  readErrors : Nat
  firstErrorTime : Int
deriving DecidableEq, Repr

namespace RegisterCommandSettings

def hasDelayBeforeFirstCommand (settings : RegisterCommandSettings) : Bool :=
  settings.delayBeforeFirstCommand ≠ 0

end RegisterCommandSettings

namespace RegisterPoll

def durationBetweenLogError : Duration := 300000000000

def defaultReadErrorCount : Nat := 3

def isRpc (poll : RegisterPoll) : Bool :=
  poll.commandId < 0

/-- The state its constructor leaves a poll in when it runs at `now`. -/
def initialState (poll : RegisterPoll) (now : Int) : RegisterPollState :=
  { lastValues := List.replicate poll.registerCount 0
    lastReadOk := false
    lastReadStartTime := 0
    lastReadFinishTime := now - 86400000000000
    readErrors := 0
    firstErrorTime := now }

/-- The message that reports values read by the poll. -/
def valuesMessage (poll : RegisterPoll) (values : List UInt16) :
    MsgRegisterValues :=
  .create poll.slaveId poll.registerType poll.register values poll.commandId
    .auto

/-- The header of a failure message; the count is that of the values held. -/
def failedMessage (poll : RegisterPoll) (state : RegisterPollState)
    (commandId : Int) : ModbusMessageBase :=
  { register := poll.register
    count := state.lastValues.length
    registerType := poll.registerType
    slaveId := poll.slaveId
    commandId }

end RegisterPoll

namespace RegisterWrite

def failedMessage (write : RegisterWrite) : ModbusMessageBase :=
  { register := write.register
    count := write.values.length
    registerType := write.registerType
    slaveId := write.slaveId
    commandId := write.commandId }

end RegisterWrite

inductive RegisterCommand where
  | poll (reg : RegisterPoll)
  | write (cmd : RegisterWrite)
deriving DecidableEq, Repr

namespace RegisterCommand

def settings : RegisterCommand → RegisterCommandSettings
  | .poll reg => reg.toRegisterCommandSettings
  | .write cmd => cmd.toRegisterCommandSettings

def slaveId : RegisterCommand → Int
  | .poll reg => reg.slaveId
  | .write cmd => cmd.slaveId

def isPoll : RegisterCommand → Bool
  | .poll _ => true
  | .write _ => false

theorem poll_injective : Function.Injective RegisterCommand.poll := by
  intro left right same
  exact RegisterCommand.poll.inj same

theorem write_injective : Function.Injective RegisterCommand.write := by
  intro left right same
  exact RegisterCommand.write.inj same

end RegisterCommand

end MqmGateway
