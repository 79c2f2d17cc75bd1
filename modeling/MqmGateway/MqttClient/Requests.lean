import MqmGateway.MqttClient

/-!
# The MQTT client: incoming messages

`onMessage` turns a payload on a command topic into a write request, and a
JSON document on the RPC topic into a read or write request.  The JSON parser
and the converter plugins are parameters.
-/

namespace MqmGateway

/-- A parsed JSON document.  Numbers without fraction or exponent that fit 64
bits are integers, all others doubles, given as the values they convert to. -/
inductive JsonValue where
  | string (text : String)
  | integer (value : Int)
  | double (value : MqttValue)
  | array (elements : List JsonValue)
  | object (members : List (String × JsonValue))
  | other

/-- A message from the main thread to a modbus thread. -/
inductive ModbusRequest where
  | write (message : MsgRegisterValues)
  | read (message : ModbusMessageBase)
  | mqttNetworkState (isUp : Bool)
  | pollSpecification (spec : MsgRegisterPollSpecification)
deriving DecidableEq, Repr

/-- The libraries that requests go through.  Errors are the texts of the
exceptions; `describe` is the text of an exception of a converter. -/
structure RequestLibraries where
  parseJson : Payload → Except String JsonValue
  createConverter : String → Except String DataConverter
  describe : GatewayException → String

def noLibraries : RequestLibraries :=
  { parseJson := fun _ => .error ""
    createConverter := fun _ => .error ""
    describe := fun _ => "" }

namespace JsonValue

def member? (document : JsonValue) (name : String) : Option JsonValue :=
  match document with
  | .object members => (members.find? fun entry => entry.1 = name).map Prod.snd
  | _ => none

def asInt? : JsonValue → Option Int
  | .integer value =>
    if -2147483648 ≤ value ∧ value ≤ 2147483647 then some value else none
  | _ => none

def asUInt16? : JsonValue → Option UInt16
  | .integer value =>
    if 0 ≤ value ∧ value ≤ 65535 then
      some (UInt16.ofNat value.toNat)
    else
      none
  | _ => none

/-- `GetString`, which is read up to its first null byte. -/
def asString? : JsonValue → Option String
  | .string text => some (String.ofList (cString text.toList))
  | _ => none

end JsonValue

/-- `std::stoi` with base zero: the value and the rest of the text. -/
def stoi (text : List Char) : Except String (Int × List Char) :=
  let (value, rest) := strtol text
  if rest.length = text.length then
    .error "stoi"
  else if value < -2147483648 ∨ 2147483647 < value then
    .error "stoi"
  else
    .ok (value, rest)

/-- `ConfigTools::registerNumberFromString`: decimal numbers count from one,
hexadecimal ones from zero. -/
def registerNumberFromString (text : String) : Except String Int :=
  let chars := text.toList
  if chars.isEmpty then
    .error "Empty register number"
  else
    match stoi chars with
    | .error message => .error message
    | .ok (_, _ :: _) => .error ("Invalid register number: " ++ text)
    | .ok (value, []) =>
      let second := chars[1]?
      if second = some 'x' ∨ second = some 'X' then
        .ok value
      else if value = 0 then
        .error "Use hex address for 0-based register number"
      else
        .ok (value - 1)

namespace MqttClient

/-- An RPC request that passed every check. -/
structure RpcRequest where
  networkName : String
  slaveId : Int
  registerNumber : Int
  registerType : RegisterType
  count : Int
  converter : Option DataConverter
  writeValues : Option (List UInt16)

def requiredMember {α : Type} (document : JsonValue) (name : String)
    (read : JsonValue → Option α) : Except String α :=
  match (document.member? name).bind read with
  | some value => .ok value
  | none => .error ("missing or invalid field: " ++ name)

def rpcRegisterType (document : JsonValue) : Except String RegisterType :=
  match (document.member? "register_type").map JsonValue.asString? with
  | none => .ok .holding
  | some (some "coil") => .ok .coil
  | some (some "input") => .ok .input
  | some (some "bit") => .ok .bit
  | some (some "holding") => .ok .holding
  | some (some text) => .error ("unknown register_type: " ++ text)
  | some none => .error "invalid field: register_type"

def rpcConverter (libraries : RequestLibraries) (document : JsonValue) :
    Except String (Option DataConverter) :=
  match (document.member? "converter").map JsonValue.asString? with
  | none => .ok none
  | some (some text) =>
    if text = "" ∨ text = "none" then
      .ok none
    else
      (libraries.createConverter text).map some
  | some none => .error "invalid field: converter"

def rpcRawValues : JsonValue → Except String (List UInt16)
  | .array elements =>
    match elements.mapM JsonValue.asUInt16? with
    | some values => .ok values
    | none => .error "value elements must be uint16 integers"
  | value =>
    match value.asUInt16? with
    | some register => .ok [register]
    | none =>
      .error "value must be a uint16 integer or an array of uint16 values"

def rpcWriteValueFromJson : JsonValue → Except String MqttValue
  | .string text => .ok (.binary (cString text.toList))
  | .double value => .ok value
  | .integer value =>
    if -2147483648 ≤ value ∧ value ≤ 2147483647 then .ok (.int value)
    else if value ≤ 9223372036854775807 then .ok (.int64 value)
    else .error "value out of range"
  | _ => .error "converter write requires a scalar value (number or string)"

def rpcMaxCount (type : RegisterType) : Int :=
  if type = .coil ∨ type = .bit then 2000 else 125

def rpcCount (document : JsonValue) (type : RegisterType) : Except String Int :=
  match document.member? "count" with
  | none => .ok 1
  | some value =>
    match value.asInt? with
    | none => .error "invalid field: count"
    | some count =>
      if count < 1 ∨ rpcMaxCount type < count then
        .error ("count out of range [1, " ++ toString (rpcMaxCount type) ++
          "]")
      else
        .ok count

def rpcConvertedValues (libraries : RequestLibraries)
    (converter : DataConverter) (value : JsonValue) (count : Int) :
    Except String (List UInt16) := do
  let mqttValue ← rpcWriteValueFromJson value
  match converter.toModbus mqttValue count with
  | .error exception => .error (libraries.describe exception)
  | .ok registers =>
    if (registers.length : Int) ≠ count then
      .error ("converter produced " ++ toString registers.length ++
        " register(s), expected " ++ toString count)
    else
      .ok registers

def parseRpcRequest (libraries : RequestLibraries) (client : MqttClient)
    (payload : Payload) : Except String RpcRequest := do
  let document ← libraries.parseJson payload
  match document with
  | .object _ => pure ()
  | _ => .error "object expected"
  let networkName ← requiredMember document "network" JsonValue.asString?
  let slaveId ← requiredMember document "slave" JsonValue.asInt?
  let register ← requiredMember document "register" JsonValue.asString?
  let registerNumber ← registerNumberFromString register
  let registerType ← rpcRegisterType document
  let converter ← rpcConverter libraries document
  if networkName ∉ client.networks then
    .error ("network not found: " ++ networkName)
  let request (count : Int) (writeValues : Option (List UInt16)) : RpcRequest :=
    { networkName, slaveId, registerNumber, registerType, count, converter
      writeValues }
  match document.member? "value" with
  | none => do
      let count ← rpcCount document registerType
      .ok (request count none)
  | some value => do
      if client.rpcMode ≠ .readWrite then
        .error "writes are disabled (mode: read)"
      if registerType = .bit ∨ registerType = .input then
        .error "register_type is read-only"
      match converter with
      | none => do
          let values ← rpcRawValues value
          .ok (request values.length (some values))
      | some dataConverter => do
          let count ← rpcCount document registerType
          let values ←
            rpcConvertedValues libraries dataConverter value count
          .ok (request count (some values))

/-- The next command id for a request; ids count down from minus one and start
again below the smallest `int`. -/
def takeRpcId (client : MqttClient) : Int :=
  (if client.nextRpcId = -2147483648 then 0 else client.nextRpcId) - 1

/-- What is sent to the modbus thread for a request with this id. -/
def RpcRequest.message (request : RpcRequest) (id : Int) : ModbusRequest :=
  match request.writeValues with
  | some values =>
    .write (.create request.slaveId request.registerType
      request.registerNumber values id .auto)
  | none =>
    .read
      { slaveId := request.slaveId
        register := request.registerNumber
        registerType := request.registerType
        count := request.count
        commandId := id }

def addPending (client : MqttClient) (request : RpcRequest)
    (responseTopic : String) (correlationData : Payload) : MqttClient :=
  let id := client.takeRpcId
  let pending : PendingRpcRequest :=
    { networkName := request.networkName
      responseTopic
      correlationData
      slaveId := request.slaveId
      registerNumber := request.registerNumber
      registerType := request.registerType
      count := request.count
      isWrite := request.writeValues.isSome
      converter := request.converter }
  { client with
    nextRpcId := id
    pendingRpc := Function.update client.pendingRpc id (some pending) }

/-- The new state and the request to enqueue with the network it is for. -/
def handleRpcRequest (libraries : RequestLibraries) (client : MqttClient)
    (payload : Payload) (responseTopic : String) (correlationData : Payload) :
    MqttClient × Option (String × ModbusRequest) :=
  if responseTopic = "" then
    (client, none)
  else
    match parseRpcRequest libraries client payload with
    | .error message =>
      ((replyError 0 responseTopic correlationData message client).1, none)
    | .ok request =>
      (client.addPending request responseTopic correlationData,
        some (request.networkName, request.message client.takeRpcId))

/-- `DefaultCommandConverter::parseAsJson`; `GetInt` of an element that is no
`int` is undefined. -/
def parseAsJson (libraries : RequestLibraries) (text : Payload)
    (registerCount : Int) : Except GatewayException (List UInt16) :=
  match libraries.parseJson (cString text) with
  | .ok (.array elements) =>
    if (elements.length : Int) ≠ registerCount then
      .error .conv
    else
      elements.mapM fun element =>
        match element.asInt? with
        | none => .error .undefined
        | some value =>
          if 0 ≤ value ∧ value ≤ 65535 then
            .ok (UInt16.ofNat value.toNat)
          else
            .error .conv
  | _ => .error .conv

def defaultToModbus (libraries : RequestLibraries) (value : MqttValue)
    (registerCount : Int) : Except GatewayException (List UInt16) :=
  if registerCount > 1 then
    parseAsJson libraries value.getString registerCount
  else
    match value.getInt with
    | .error exception => .error exception
    | .ok number =>
      if number ≤ 65535 ∧ 0 ≤ number then
        .ok [UInt16.ofNat number.toNat]
      else
        .error .conv

/-- The registers a payload on a command topic asks to write. -/
def commandRegisters (libraries : RequestLibraries)
    (command : MqttObjectCommand) (payload : Payload) :
    Except GatewayException (List UInt16) :=
  let converted :=
    match command.converter with
    | some converter => converter.toModbus (.binary payload) command.count
    | none => defaultToModbus libraries (.binary payload) command.count
  match converted with
  | .error exception => .error exception
  | .ok registers =>
    if (registers.length : Int) ≠ command.count then
      .error .payloadConversion
    else
      .ok registers

def commandMessage (command : MqttObjectCommand) (registers : List UInt16) :
    MsgRegisterValues :=
  .create command.slaveId command.registerType command.register registers
    command.commandId command.writeMode

def findCommand (client : MqttClient) (topic : String) :
    Option MqttObjectCommand :=
  client.commands.find? fun command => command.topic = topic

structure MqttMessage where
  topic : String
  payload : Payload
  responseTopic : String
  correlationData : Payload
deriving DecidableEq, Repr

/-- `none` is an exception that leaves the callback: `onMessage` catches those
of conversions only. -/
def onMessage (libraries : RequestLibraries) (client : MqttClient)
    (message : MqttMessage) :
    Option (MqttClient × Option (String × ModbusRequest)) :=
  match client.findCommand message.topic with
  | none =>
    if client.rpcMode ≠ .disabled ∧
        client.rpcRequestTopic = message.topic then
      some (handleRpcRequest libraries client message.payload
        message.responseTopic message.correlationData)
    else
      some (client, none)
  | some command =>
    if command.modbusNetworkName ∉ client.networks then
      some (client, none)
    else
      match commandRegisters libraries command message.payload with
      | .ok registers =>
        some (client, some (command.modbusNetworkName,
          .write (commandMessage command registers)))
      | .error .conv | .error .payloadConversion => some (client, none)
      | .error _ => none

end MqttClient

end MqmGateway
