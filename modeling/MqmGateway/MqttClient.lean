import MqmGateway.Library.Effect
import MqmGateway.MqttPayload

/-!
# The MQTT client: register data

The part of `MqttClient` that the main thread runs for every message of a
modbus thread.  Objects are shared between the lists of the client, so they
live in a store and the lists hold their numbers.  What the broker does with a
publication and the clock are inputs.
-/

namespace MqmGateway

abbrev ObjectId := Nat

/-- What a publication is for; processing a message makes each of them at most
once for an object. -/
inductive PublishKind where
  | deletion
  | state
  | availability
deriving DecidableEq, Repr

structure Publication where
  topic : String
  payload : Payload
  retain : Bool
deriving DecidableEq, Repr

/-- One call of `publishResponse`; `error` is the user property of that
name. -/
structure RpcReply where
  responseTopic : String
  payload : Payload
  correlationData : Payload
  error : Option String
deriving DecidableEq, Repr

structure PendingRpcRequest where
  networkName : String
  responseTopic : String
  correlationData : Payload
  slaveId : Int
  registerNumber : Int
  registerType : RegisterType
  count : Int
  isWrite : Bool
  converter : Option DataConverter

/-- `MqttObjectCommand`, without the payload type, of which there is one. -/
structure MqttObjectCommand extends ModbusMessageBase where
  topic : String
  modbusNetworkName : String
  writeMode : ModbusWriteMode
  converter : Option DataConverter

inductive RpcMode where
  | disabled
  | read
  | readWrite
deriving DecidableEq, Repr

/-- `objects` and `commandObjects` are the maps from poll groups and from
command ids to objects, `store` the objects they share.  `published` and
`replies` record the publications the broker took and the calls of
`publishResponse`, with the command id they answer, zero for a request that
was rejected. -/
structure MqttClient where
  isConnected : Bool
  networks : List String
  objects : List (MqttObjectRegisterIdent × List ObjectId)
  commandObjects : Int → Option (List ObjectId)
  store : ObjectId → MqttObject
  commands : List MqttObjectCommand
  rpcMode : RpcMode
  rpcRequestTopic : String
  nextRpcId : Int
  pendingRpc : Int → Option PendingRpcRequest
  published : List Publication
  replies : List (Int × RpcReply)

/-- What the broker refuses and what the clock shows while a message is
processed: `needStateRepublish` and `setLastPublishTime` each read it. -/
structure ProcessInput where
  refuses : ObjectId → PublishKind → Bool
  republishCheck : ObjectId → Int
  publishTime : ObjectId → Int

namespace MqttClient

abbrev Action := Effect MqttClient GatewayException

def setObject (client : MqttClient) (id : ObjectId) (object : MqttObject) :
    MqttClient :=
  { client with store := Function.update client.store id object }

def modifyObject (id : ObjectId) (change : MqttObject → MqttObject) : Action :=
  .modify fun client => client.setObject id (change (client.store id))

def findObjects (client : MqttClient) (ident : MqttObjectRegisterIdent) :
    Option (List ObjectId) :=
  (client.objects.find? fun entry => entry.1 = ident).map Prod.snd

def publish (input : ProcessInput) (id : ObjectId) (kind : PublishKind)
    (publication : Publication) : Action := fun client =>
  if input.refuses id kind then
    (client, some .mosquitto)
  else
    ({ client with published := client.published ++ [publication] }, none)

def publishState (input : ProcessInput) (id : ObjectId) (force : Bool) :
    Action := fun client =>
  let object := client.store id
  if object.isAvailable ≠ .available then
    (client, none)
  else if object.publishMode = .once ∧ object.lastPublishTime ≠ none then
    (client, none)
  else
    match MqttPayload.generate object with
    | .error exception => (client, some exception)
    | .ok messageData =>
      if messageData ≠ object.lastPublishedPayload ∨ force then
        let publication :=
          { topic := object.stateTopic
            payload := messageData
            retain := object.retain }
        (publish input id .state publication).andThen
          (modifyObject id fun object =>
            { object with
              lastPublishedPayload := messageData
              lastPublishTime := some (input.publishTime id) }) client
      else
        (client, none)

def publishAvailabilityChange (input : ProcessInput) (id : ObjectId) :
    Action := fun client =>
  let object := client.store id
  match object.isAvailable with
  | .notSet => (client, none)
  | flag =>
    let publication :=
      { topic := object.availabilityTopic
        payload := [if flag = .available then '1' else '0']
        retain := true }
    (publish input id .availability publication).catching
      (· = .mosquitto) client

/-- Remember the payload that later data are compared with. -/
def rememberPayload (id : ObjectId) : Action := fun client =>
  match MqttPayload.generate (client.store id) with
  | .error exception => (client, some exception)
  | .ok payload =>
    modifyObject id (fun object =>
      { object with lastPublishedPayload := payload }) client

def deleteRetained (input : ProcessInput) (id : ObjectId) : Action :=
  fun client =>
    let publication :=
      { topic := (client.store id).stateTopic
        payload := []
        retain := true }
    (publish input id .deletion publication).andThen (rememberPayload id) client

/-- What `processRegisterValues` publishes for an object whose flag was
`oldAvail` before the update. -/
def publishUpdate (input : ProcessInput) (id : ObjectId)
    (oldAvail : AvailableFlag) : Action := fun client =>
  let object := client.store id
  let newAvail := object.isAvailable
  if oldAvail ≠ newAvail then
    let publishChange : Action :=
      if newAvail = .available then
        if object.retain then
          publishState input id true
        else
          Effect.andThen
            (if oldAvail = .notSet then deleteRetained input id else .skip)
            (if object.publishMode = .everyPoll then
              publishState input id true
            else
              .skip)
      else
        .skip
    publishChange.andThen (publishAvailabilityChange input id) client
  else
    publishState input id
      (object.needStateRepublish (input.republishCheck id)) client

/-- One round of the loop of `processRegisterValues`. -/
def processObjectValues (input : ProcessInput) (networkName : String)
    (slaveData : MsgRegisterValues) (id : ObjectId) : Action := fun client =>
  let object := client.store id
  match object.updateRegisterValues networkName slaveData with
  | (updated, some exception) => (client.setObject id updated, some exception)
  | (updated, none) =>
    publishUpdate input id object.isAvailable (client.setObject id updated)

/-- One round of the loop of `processRegistersOperationFailed`. -/
def processObjectFailed (input : ProcessInput) (networkName : String)
    (slaveData : ModbusMessageBase) (id : ObjectId) : Action := fun client =>
  let object := client.store id
  match object.updateRegistersReadFailed networkName slaveData with
  | (updated, some exception) => (client.setObject id updated, some exception)
  | (updated, none) =>
    (publishState input id false).andThen
      (if object.isAvailable ≠ updated.isAvailable then
        publishAvailabilityChange input id
      else
        .skip) (client.setObject id updated)

/-- One round of the loop of `processModbusNetworkState`. -/
def processObjectNetworkState (input : ProcessInput) (networkName : String)
    (isUp : Bool) (id : ObjectId) : Action := fun client =>
  let object := client.store id
  match object.setModbusNetworkState networkName isUp with
  | (updated, some exception) => (client.setObject id updated, some exception)
  | (updated, none) =>
    (if object.isAvailable ≠ updated.isAvailable then
      publishAvailabilityChange input id
    else
      .skip) (client.setObject id updated)

def sendReply (commandId : Int) (reply : RpcReply) : Action :=
  .modify fun client =>
    { client with replies := client.replies ++ [(commandId, reply)] }

/-- `publishRpcError` with a response topic: an empty payload and an `error`
property. -/
def replyError (commandId : Int) (responseTopic : String)
    (correlationData : Payload) (errorMsg : String) : Action :=
  sendReply commandId
    { responseTopic
      payload := []
      correlationData
      error := some errorMsg }

def erasePending (client : MqttClient) (commandId : Int) : MqttClient :=
  { client with
    pendingRpc := Function.update client.pendingRpc commandId none }

/-- The payload of the reply to a finished request.  The converter is applied
to reads only. -/
def rpcPayload (pending : PendingRpcRequest) (registers : List UInt16) :
    Except GatewayException Payload :=
  let raw := registers.map fun value => intText value.toNat
  let plain :=
    match raw with
    | [value] => value
    | _ => MqttPayload.jsonArray raw
  match pending.converter with
  | some converter =>
    if pending.isWrite then
      .ok plain
    else
      (converter.toMqtt registers).map MqttValue.getString
  | none => .ok plain

def publishRpcResponse (values : MsgRegisterValues) : Action := fun client =>
  match client.pendingRpc values.commandId with
  | none => (client, none)
  | some pending =>
    let erased := client.erasePending values.commandId
    match rpcPayload pending values.registers with
    | .error _ =>
      replyError values.commandId pending.responseTopic
        pending.correlationData "internal error" erased
    | .ok payload =>
      sendReply values.commandId
        { responseTopic := pending.responseTopic
          payload
          correlationData := pending.correlationData
          error := none } erased

def publishRpcError (slaveData : ModbusMessageBase) : Action := fun client =>
  match client.pendingRpc slaveData.commandId with
  | none => (client, none)
  | some pending =>
    replyError slaveData.commandId pending.responseTopic
      pending.correlationData
      (if pending.isWrite then "modbus write failed" else "modbus read failed")
      (client.erasePending slaveData.commandId)

/-- The objects that `processRegisterValues` updates; `none` is the failed
assertion for a poll result that no object asked for. -/
def affectedByValues (client : MqttClient) (networkName : String)
    (slaveData : MsgRegisterValues) : Option (List ObjectId) :=
  let ident :=
    MqttObjectRegisterIdent.ofMessage networkName slaveData.toModbusMessageBase
  if slaveData.hasCommandId then
    match client.commandObjects slaveData.commandId with
    | some ids => some ids
    | none =>
      if slaveData.isRpc then
        some ((client.findObjects ident).getD [])
      else
        some []
  else
    client.findObjects ident

def processRegisterValues (input : ProcessInput) (networkName : String)
    (slaveData : MsgRegisterValues) : Action := fun client =>
  if !client.isConnected then
    (client, none)
  else
    match client.affectedByValues networkName slaveData with
    | none => (client, some .undefined)
    | some ids =>
      let respond : Action :=
        if slaveData.isRpc ∧
            (client.commandObjects slaveData.commandId).isNone then
          publishRpcResponse slaveData
        else
          .skip
      respond.andThen ((Effect.forEach
        (processObjectValues input networkName slaveData) ids).catching
          (· = .mosquitto)) client

/-- The objects that `processRegistersOperationFailed` updates. -/
def affectedByFailure (client : MqttClient) (networkName : String)
    (slaveData : ModbusMessageBase) : List ObjectId :=
  (client.findObjects (.ofMessage networkName slaveData)).getD []

def processRegistersOperationFailed (input : ProcessInput)
    (networkName : String) (slaveData : ModbusMessageBase) : Action :=
  fun client =>
    Effect.forEach (processObjectFailed input networkName slaveData)
      (client.affectedByFailure networkName slaveData) client

/-- The objects of a network, each once, in the order of the map. -/
def objectsOfNetwork (client : MqttClient) (networkName : String) :
    List ObjectId :=
  ((client.objects.filter fun entry => entry.1.networkName = networkName).map
    Prod.snd).flatten.reverse.dedup.reverse

def processModbusNetworkState (input : ProcessInput) (networkName : String)
    (isUp : Bool) : Action := fun client =>
  if isUp then
    (client, none)
  else
    Effect.forEach (processObjectNetworkState input networkName isUp)
      (client.objectsOfNetwork networkName) client

def publishObject (input : ProcessInput) (id : ObjectId) : Action :=
  fun client =>
    Effect.andThen
      (if (client.store id).isAvailable = .available then
        publishState input id true
      else
        .skip)
      (publishAvailabilityChange input id) client

/-- Every object that is polled, once. -/
def publishAll (input : ProcessInput) : Action := fun client =>
  Effect.forEach (publishObject input)
    (client.objects.map Prod.snd).flatten.reverse.dedup.reverse client

/-- `onConnect`, without the subscriptions; the modbus threads are told by
the gateway. -/
def onConnect (input : ProcessInput) : Action := fun client =>
  publishAll input { client with isConnected := true }

/-- `onDisconnect`: the state of the connection stays what it was. -/
def onDisconnect (client : MqttClient) : MqttClient :=
  { client with pendingRpc := fun _ => none }

/-- The body of the loop of `ModMqtt::processModbusMessages`. -/
def processModbusMessage (input : ProcessInput) (networkName : String) :
    QueueItem → Action
  | .registerValues message => processRegisterValues input networkName message
  | .registerReadFailed message | .registerWriteFailed message =>
    if message.isRpc then
      publishRpcError message
    else
      processRegistersOperationFailed input networkName message
  | .modbusNetworkState name isUp => processModbusNetworkState input name isUp

end MqttClient

end MqmGateway
