import MqmGateway.ModbusExecutor
import MqmGateway.MqttClient.Requests

/-!
# A modbus thread

The loop of `ModbusThread::run` as separate steps: connecting and
disconnecting, scheduling polls, executing one command and dispatching one
message of the main thread.  The two queues of the `ModbusClient` are part of
the state.
-/

namespace MqmGateway

structure ModbusSlaveConfig where
  delayBeforeCommand : Option Duration
  delayBeforeFirstCommand : Option Duration
  maxReadRetryCount : Nat
  maxWriteRetryCount : Nat
  writeMode : ModbusWriteMode

/-- `registerMap` is the poll specification held by the scheduler.
`nextAddress` numbers the command objects the thread creates. -/
structure ModbusThread where
  networkName : String
  delayBeforeCommand : Option Duration
  delayBeforeFirstCommand : Option Duration
  maxReadRetryCount : Nat
  maxWriteRetryCount : Nat
  slaves : Int → Option ModbusSlaveConfig
  executor : ModbusExecutor
  registerMap : OrderedMap Int (List RegisterPoll)
  isRunning : Bool
  modbusConnected : Bool
  mqttConnected : Bool
  nextAddress : Nat
  toModbus : List ModbusRequest
  fromModbus : List QueueItem

/-- What a thread does, as far as the properties of the gateway mention it. -/
inductive ThreadEvent where
  | bus (event : ExecutorEvent)
  | networkState (isUp : Bool)
deriving DecidableEq, Repr

/-- The scheduler and the executor read the clock apart from each other. -/
inductive ThreadInput where
  | connect (now : Int)
  | connectFails
  | disconnect
  | poll (now added : Int)
  | execute (input : ExecuteInput)
  | dispatch (endAnswer : Bool) (now : Int)

/-- The message that the event put into the queue to the main thread. -/
def ExecutorEvent.sentItem : ExecutorEvent → Option QueueItem
  | .sent _ item => some item
  | _ => none

namespace ModbusScheduler

def duePolls (polls : RegisterPoll → RegisterPollState) (now : Int)
    (registers : List RegisterPoll) : List RegisterPoll :=
  registers.filter fun reg =>
    !(reg.publishMode = .once && (polls reg).lastReadOk) &&
      now - (polls reg).lastReadStartTime ≥ reg.refresh

/-- The map returned by `getRegistersToPoll`; slaves without a due poll have no
entry. -/
def getRegistersToPoll (registerMap : OrderedMap Int (List RegisterPoll))
    (polls : RegisterPoll → RegisterPollState) (now : Int) :
    OrderedMap Int (List RegisterPoll) :=
  { entries := (registerMap.entries.map fun entry =>
      (entry.1, duePolls polls now entry.2)).filter fun entry =>
        !entry.2.isEmpty
    sorted := by
      apply List.Pairwise.filter
      exact List.pairwise_map.mpr registerMap.sorted }

/-- The test of `ModbusAddressRange::contains` and the slave. -/
def stoodInFor (completed poll : RegisterPoll) : Bool :=
  completed.slaveId = poll.slaveId ∧
    completed.registerType = poll.registerType ∧
    completed.register ≤ poll.register ∧
    poll.register + poll.registerCount ≤
      completed.register + completed.registerCount

/-- A completed RPC read defers the scheduled polls it covers. -/
def notifyRpcRead (registerMap : OrderedMap Int (List RegisterPoll))
    (completed : RegisterPoll) (polls : RegisterPoll → RegisterPollState) :
    RegisterPoll → RegisterPollState := fun poll =>
  if poll ∈ registerMap.getD completed.slaveId [] ∧
      stoodInFor completed poll then
    { polls poll with
      lastReadStartTime := (polls completed).lastReadStartTime
      lastReadFinishTime := (polls completed).lastReadFinishTime }
  else
    polls poll

end ModbusScheduler

namespace ModbusThread

def enqueue (thread : ModbusThread) (request : ModbusRequest) : ModbusThread :=
  { thread with toModbus := thread.toModbus ++ [request] }

/-- The network settings, overridden by those of the slave. -/
def applySlaveConfig (thread : ModbusThread) (slaveId : Int) :
    RegisterCommandSettings :=
  let slave := thread.slaves slaveId
  let retries (network : Nat) (own : Option Nat) : Nat :=
    match own with
    | some count => if count ≠ 0 then count else network
    | none => network
  { delayBeforeFirstCommand :=
      ((slave.bind (·.delayBeforeFirstCommand)).or
        thread.delayBeforeFirstCommand).getD 0
    delayBeforeCommand :=
      ((slave.bind (·.delayBeforeCommand)).or thread.delayBeforeCommand).getD 0
    maxReadRetryCount :=
      retries thread.maxReadRetryCount (slave.map (·.maxReadRetryCount))
    maxWriteRetryCount :=
      retries thread.maxWriteRetryCount (slave.map (·.maxWriteRetryCount)) }

/-- The `RegisterPoll` of a range of the specification. -/
def specifiedPoll (thread : ModbusThread) (poll : MsgRegisterPoll)
    (address : Nat) : RegisterPoll :=
  { thread.applySlaveConfig poll.slaveId with
    address
    slaveId := poll.slaveId
    register := poll.register
    registerType := poll.registerType
    registerCount := poll.count.toNat
    refresh := poll.refreshMsec * 1000000
    publishMode := poll.publishMode
    commandId := 0 }

/-- Ranges that no MQTT register was merged into are not polled. -/
def specifiedPolls (thread : ModbusThread)
    (spec : MsgRegisterPollSpecification) : List RegisterPoll :=
  ((spec.registers.zipIdx thread.nextAddress).filter fun entry =>
    entry.1.refreshMsec ≠ MsgRegisterPoll.INVALID_REFRESH).map fun entry =>
      thread.specifiedPoll entry.1 entry.2

def bySlave (polls : List RegisterPoll) : OrderedMap Int (List RegisterPoll) :=
  polls.foldl (fun registerMap reg =>
    registerMap.set reg.slaveId (registerMap.getD reg.slaveId [] ++ [reg]))
    .empty

def requestedPoll (thread : ModbusThread) (message : ModbusMessageBase) :
    RegisterPoll :=
  { thread.applySlaveConfig message.slaveId with
    address := thread.nextAddress
    slaveId := message.slaveId
    register := message.register
    registerType := message.registerType
    registerCount := message.count.toNat
    refresh := 0
    publishMode := .once
    commandId := message.commandId }

/-- The write that a message asks for; a write mode of the command has
precedence over that of the slave. -/
def requestedWrite (thread : ModbusThread) (message : MsgRegisterValues) :
    RegisterWrite :=
  { thread.applySlaveConfig message.slaveId with
    address := thread.nextAddress
    slaveId := message.slaveId
    register := message.register
    registerType := message.registerType
    values := message.registers
    writeMode :=
      match message.writeMode, thread.slaves message.slaveId with
      | .auto, some slave => slave.writeMode
      | mode, _ => mode
    commandId := message.commandId
    returnMessage := some message }

/-- The state after a call of the executor, with what it sent in the queue. -/
def afterCall (thread : ModbusThread) (executor : ModbusExecutor)
    (events : List ExecutorEvent) : ModbusThread :=
  { thread with
    executor
    fromModbus := thread.fromModbus ++ events.filterMap (·.sentItem) }

def call (thread : ModbusThread) (executorCall : ExecutorCall) :
    Option (ModbusThread × List ThreadEvent) :=
  (thread.executor.step executorCall).map fun result =>
    (thread.afterCall result.1 result.2, result.2.map .bus)

def sendNetworkState (thread : ModbusThread) (isUp : Bool) : ModbusThread :=
  { thread with
    fromModbus :=
      thread.fromModbus ++ [.modbusNetworkState thread.networkName isUp] }

/-- A new connection refreshes everything, unless that is under way. -/
def connect (thread : ModbusThread) (now : Int) :
    Option (ModbusThread × List ThreadEvent) :=
  let connected := { thread with modbusConnected := true }.sendNetworkState true
  if thread.executor.initialPoll then
    some (connected, [.networkState true])
  else
    (connected.call (.setupInitialPoll thread.registerMap now)).map fun result =>
      (result.1, .networkState true :: result.2)

/-- After a command that took no waiting: a finished RPC read stands in for
scheduled polls. -/
def inspectCommand (thread : ModbusThread) : ModbusThread :=
  match thread.executor.lastCommand with
  | some (.poll reg) =>
    if reg.isRpc ∧ (thread.executor.polls reg).lastReadOk then
      { thread with
        executor :=
          { thread.executor with
            polls := ModbusScheduler.notifyRpcRead thread.registerMap reg
              thread.executor.polls } }
    else
      thread
  | _ => thread

/-- An exception ends the thread. -/
def execute (thread : ModbusThread) (input : ExecuteInput) :
    Option (ModbusThread × List ThreadEvent) :=
  (thread.executor.executeNext input).map fun result =>
    let (executor, events, returned) := result
    let executed := thread.afterCall executor events
    (match returned with
    | .error _ => { executed with isRunning := false }
    | .ok delay => if delay = 0 then executed.inspectCommand else executed,
      events.map .bus)

def handle (thread : ModbusThread) (request : ModbusRequest)
    (endAnswer : Bool) (now : Int) :
    Option (ModbusThread × List ThreadEvent) :=
  match request with
  | .write message =>
    { thread with nextAddress := thread.nextAddress + 1 }.call
      (.addWriteCommand (thread.requestedWrite message) endAnswer)
  | .read message =>
    { thread with nextAddress := thread.nextAddress + 1 }.call
      (.addReadCommand (thread.requestedPoll message))
  | .mqttNetworkState isUp => some ({ thread with mqttConnected := isUp }, [])
  | .pollSpecification spec =>
    let registerMap := bySlave (thread.specifiedPolls spec)
    { thread with
      registerMap
      nextAddress := thread.nextAddress + spec.registers.length }.call
        (.setupInitialPoll registerMap now)

/-- One step of the thread; `none` if the loop does not take it in this
state, or if it does not return. -/
def step (thread : ModbusThread) (input : ThreadInput) :
    Option (ModbusThread × List ThreadEvent) :=
  if thread.isRunning then
    match input with
    | .connect now =>
      if thread.modbusConnected then none else thread.connect now
    | .connectFails =>
      if thread.modbusConnected then none
      else some (thread.sendNetworkState false, [.networkState false])
    | .disconnect =>
      if thread.modbusConnected then
        some ({ thread with modbusConnected := false }.sendNetworkState false,
          [.networkState false])
      else
        none
    | .poll now added =>
      if thread.modbusConnected && thread.mqttConnected &&
          !thread.executor.initialPoll then
        thread.call (.addPollList (ModbusScheduler.getRegistersToPoll
          thread.registerMap thread.executor.polls now) added)
      else
        none
    | .execute input =>
      if thread.modbusConnected && thread.mqttConnected &&
          !thread.executor.allDone then
        thread.execute input
      else
        none
    | .dispatch endAnswer now =>
      match thread.toModbus with
      | [] => none
      | request :: requests =>
        { thread with toModbus := requests }.handle request endAnswer now
  else
    none

end ModbusThread

end MqmGateway
