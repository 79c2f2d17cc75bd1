import MqmGateway.ModbusThread

/-!
# The gateway

The main thread with its MQTT client, and one modbus thread for each network.
What `ModMqtt::init` builds from a parsed configuration is the state the
gateway starts in.  A step is a callback of the MQTT library, one message
taken from the queue of a modbus thread, or a step of a modbus thread.
-/

namespace MqmGateway

/-- A network of the `modbus` section.  `pollGroups` are the groups of its
slaves and its own, in the order they are read. -/
structure NetworkSettings where
  name : String
  delayBeforeCommand : Option Duration := none
  delayBeforeFirstCommand : Option Duration := none
  maxReadRetryCount : Nat := 1
  maxWriteRetryCount : Nat := 2
  slaves : Int → Option ModbusSlaveConfig := fun _ => none
  pollGroups : List MsgRegisterPoll := []

/-- What the loader has read.  `polls` are the registers that the objects
declare, by network, in the order of declaration; networks are known by their
names. -/
structure Configuration where
  networks : List NetworkSettings
  polls : String → List MsgRegisterPoll
  objects : List MqttObject
  commands : List MqttObjectCommand
  rpcMode : RpcMode
  rpcRequestTopic : String

namespace Configuration

def networkNames (config : Configuration) : List String :=
  config.networks.map NetworkSettings.name

def network (config : Configuration) (name : String) : NetworkSettings :=
  (config.networks.find? fun network => network.name = name).getD { name }

/-- The poll groups of the network with the declared registers merged into
them. -/
def specification (config : Configuration) (name : String) :
    MsgRegisterPollSpecification :=
  ((MsgRegisterPollSpecification.empty name).mergeAll
    (config.network name).pollGroups).mergeAll
      ((MsgRegisterPollSpecification.empty name).mergeAll
        (config.polls name)).registers

/-- An object by its position in the list; no list names another number. -/
def object (config : Configuration) (id : ObjectId) : MqttObject :=
  config.objects.getD id (.create "")

def objectsIn (config : Configuration) (name : String)
    (range : ModbusMessageBase) : List ObjectId :=
  (List.range config.objects.length).filter fun id =>
    (config.object id).hasRegisterIn name range

/-- `mappedPollObjects`, in the order of the specifications. -/
def pollObjects (config : Configuration) :
    List (MqttObjectRegisterIdent × List ObjectId) :=
  (config.networkNames.flatMap fun name =>
    (config.specification name).registers.map fun poll =>
      (MqttObjectRegisterIdent.ofMessage name poll.toModbusMessageBase,
        config.objectsIn name poll.toModbusMessageBase)).filter fun entry =>
          !entry.2.isEmpty

def commandObjects (config : Configuration) (commandId : Int) :
    Option (List ObjectId) :=
  (config.commands.find? fun command => command.commandId = commandId).bind
    fun command =>
      let ids := config.objectsIn command.modbusNetworkName
        command.toModbusMessageBase
      if ids.isEmpty then none else some ids

def client (config : Configuration) : MqttClient :=
  { isConnected := false
    networks := config.networkNames
    objects := config.pollObjects
    commandObjects := config.commandObjects
    store := config.object
    commands := config.commands
    rpcMode := config.rpcMode
    rpcRequestTopic := config.rpcRequestTopic
    nextRpcId := 0
    pendingRpc := fun _ => none
    published := []
    replies := [] }

/-- A thread that has its network and slave settings and finds the poll
specification in its queue, unless no object declares a register of the
network. -/
def thread (config : Configuration) (now : Int) (created : RegisterPoll → Int)
    (name : String) : ModbusThread :=
  let network := config.network name
  { networkName := name
    delayBeforeCommand := network.delayBeforeCommand
    delayBeforeFirstCommand := network.delayBeforeFirstCommand
    maxReadRetryCount := network.maxReadRetryCount
    maxWriteRetryCount := network.maxWriteRetryCount
    slaves := network.slaves
    executor := .create now created
    registerMap := .empty
    isRunning := true
    modbusConnected := false
    mqttConnected := false
    nextAddress := 0
    toModbus :=
      if config.polls name = [] then []
      else [.pollSpecification (config.specification name)]
    fromModbus := [] }

end Configuration

structure Gateway where
  client : MqttClient
  threads : String → ModbusThread

/-- `thread`: a step of a modbus thread.  `process`: the main thread takes the
next message of a network. -/
inductive GatewayInput where
  | brokerConnected (input : ProcessInput)
  | brokerDisconnected
  | message (message : MqttClient.MqttMessage)
  | process (networkName : String) (input : ProcessInput)
  | thread (networkName : String) (input : ThreadInput)

/-- `requested`: a message led to a request to a modbus thread. -/
inductive GatewayEvent where
  | requested (networkName : String) (request : ModbusRequest)
      (message : MqttClient.MqttMessage)
  | processed (networkName : String) (item : QueueItem)
  | thread (networkName : String) (event : ThreadEvent)
deriving DecidableEq, Repr

namespace Gateway

def start (config : Configuration) (now : Int)
    (created : RegisterPoll → Int) : Gateway :=
  { client := config.client
    threads := config.thread now created }

def setThread (gateway : Gateway) (name : String) (thread : ModbusThread) :
    Gateway :=
  { gateway with threads := Function.update gateway.threads name thread }

@[simp] theorem setThread_self (gateway : Gateway) (name : String)
    (thread : ModbusThread) :
    (gateway.setThread name thread).threads name = thread := by
  rw [setThread]
  exact Function.update_self ..

theorem setThread_of_ne (gateway : Gateway) {name other : String}
    (different : other ≠ name) (thread : ModbusThread) :
    (gateway.setThread name thread).threads other = gateway.threads other := by
  rw [setThread]
  exact Function.update_of_ne different ..

def setClient (gateway : Gateway) (client : MqttClient) : Gateway :=
  { gateway with client }

def sendMqttNetworkIsUp (gateway : Gateway) (isUp : Bool) : Gateway :=
  { gateway with
    threads := fun name =>
      (gateway.threads name).enqueue (.mqttNetworkState isUp) }

/-- The part of a step that an exception does not leave. -/
def unlessThrown (result : MqttClient × Option GatewayException) :
    Option MqttClient :=
  match result.2 with
  | none => some result.1
  | some _ => none

/-- One step; `none` if it cannot happen now, or if an exception ends the
program.  The main loop runs once the broker has been connected. -/
def step (libraries : RequestLibraries) (gateway : Gateway)
    (input : GatewayInput) : Option (Gateway × List GatewayEvent) :=
  match input with
  | .brokerConnected input =>
    (unlessThrown (MqttClient.onConnect input gateway.client)).map fun client =>
      ((gateway.setClient client).sendMqttNetworkIsUp true, [])
  | .brokerDisconnected =>
    some ((gateway.setClient gateway.client.onDisconnect).sendMqttNetworkIsUp
      false, [])
  | .message message =>
    if gateway.client.isConnected then
      (gateway.client.onMessage libraries message).map fun result =>
        match result.2 with
        | none => (gateway.setClient result.1, [])
        | some (name, request) =>
          ((gateway.setClient result.1).setThread name
            ((gateway.threads name).enqueue request),
            [.requested name request message])
    else
      none
  | .process name input =>
    if gateway.client.isConnected ∧ name ∈ gateway.client.networks then
      match (gateway.threads name).fromModbus with
      | [] => none
      | item :: rest =>
        (unlessThrown (MqttClient.processModbusMessage input name item
          gateway.client)).map fun client =>
            ((gateway.setClient client).setThread name
              { gateway.threads name with fromModbus := rest },
              [.processed name item])
    else
      none
  | .thread name input =>
    if name ∈ gateway.client.networks then
      ((gateway.threads name).step input).map fun result =>
        (gateway.setThread name result.1, result.2.map (.thread name))
    else
      none

end Gateway

end MqmGateway
