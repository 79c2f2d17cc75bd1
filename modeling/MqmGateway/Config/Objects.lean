import MqmGateway.Config.Values

/-!
# Loading the objects of the configuration

The `mqtt` section lists objects; a template with several networks or slaves
makes an object for each of them.  The out-parameter for poll specifications
is only written to: here the parser returns the polls that are merged into it,
in order.
-/

namespace MqmGateway

/-- A poll that a register of an object asks for, and its network. -/
structure Declaration where
  networkName : String
  poll : MsgRegisterPoll
deriving DecidableEq, Repr

/-- What the parser of a data tree returns.  `everyPollRefresh` is the
shortest refresh met so far. -/
structure Parsed (α : Type) where
  value : α
  everyPollRefresh : Int
  declared : List Declaration

namespace MqttObjectDataNode

def nodes : MqttObjectDataNode → List MqttObjectDataNode
  | .scalar _ _ _ _ => []
  | .composite _ _ nodes _ => nodes

end MqttObjectDataNode

namespace MqttObjectState

def addDataNode (state : MqttObjectState) (node : MqttObjectDataNode)
    (forceList : Bool) : MqttObjectState :=
  { nodes := state.nodes ++ [node]
    outputAsList := forceList || decide (1 < state.nodes.length + 1) }

end MqttObjectState

namespace ModMqtt

open ConfigTools

def parsePublishMode (data : YamlNode) (default : PublishMode) :
    Except String PublishMode := do
  let mode ← readOptionalValue .ok data "publish_mode"
  match mode with
  | none => .ok default
  | some "on_change" => .ok .onChange
  | some "every_poll" => .ok .everyPoll
  | some "once" => .ok .once
  | some unknown =>
    .error ("Invalid publish mode '" ++ unknown ++
      "', valid values are: on_change, every_poll")

/-- What a data tree inherits from its object. -/
structure ObjectDefaults where
  network : String
  slave : Int
  mode : PublishMode

def readConverter (libraries : LoaderLibraries) (node : YamlNode) :
    Except String (Option DataConverter) :=
  match node.member? "converter" with
  | none => .ok none
  | some given =>
    (createConverter libraries.toConfigLibraries given).map some

def updateSpecification (asserts : Bool) (defaults : ObjectDefaults)
    (data : YamlNode) (registerCount refresh : Int) :
    Except String (MqttObjectRegisterIdent × Declaration) := do
  let name ← RegisterConfigName.parse data defaults.network defaults.slave
  let registerType ← parseRegisterType data
  let poll ← MsgRegisterPoll.checked asserts
    { register := name.registerNumber
      count := registerCount
      registerType
      slaveId := name.slaveId
      refreshMsec := refresh
      publishMode := defaults.mode }
  .ok
    ({ networkName := name.networkName
       slaveId := name.slaveId
       registerNumber := name.registerNumber
       registerType },
      { networkName := name.networkName, poll })

/-- The node of a register or of `count` registers in a row. -/
def registerNode (name : String) (converter : Option DataConverter)
    (first : MqttObjectRegisterIdent) (count : Int) : MqttObjectDataNode :=
  if count = 1 then
    .scalar name converter first {}
  else
    let children := (List.range count.toNat).map fun (offset : Nat) =>
      MqttObjectDataNode.scalar "" none
        { first with registerNumber := first.registerNumber + offset } {}
    .composite name converter children (decide (1 < children.length))

variable (libraries : LoaderLibraries) (defaults : ObjectDefaults)

mutual

def parseObjectDataNode (node : YamlNode) (refresh everyPollRefresh : Int) :
    Except String (Parsed MqttObjectDataNode) := do
  let name ← readOptionalValue .ok node "name"
  let own ← readOptionalValue decodeMilliseconds node "refresh"
  let converter ← readConverter libraries node
  let current := own.getD refresh
  let shortest := (own.map (min · everyPollRefresh)).getD everyPollRefresh
  let registers :=
    match node with
    | .map members => parseRegistersMember members current shortest
    | _ => none
  match registers with
  | some parsed => do
      let children ← parsed
      .ok { children with
        value := .composite (name.getD "") converter children.value
          (!children.value.isEmpty) }
  | none => do
      let count ← readOptionalValue libraries.asInt node "count"
      let (first, declaration) ← updateSpecification libraries.asserts
        defaults node (count.getD 1) current
      .ok
        { value := registerNode (name.getD "") converter first (count.getD 1)
          everyPollRefresh := shortest
          declared := [declaration] }

/-- The `registers` of a node, if it has that member. -/
def parseRegistersMember (members : List (String × YamlNode))
    (refresh everyPollRefresh : Int) :
    Option (Except String (Parsed (List MqttObjectDataNode))) :=
  match members with
  | [] => none
  | (name, value) :: rest =>
    if name = "registers" then
      some (parseRegisters value refresh everyPollRefresh)
    else
      parseRegistersMember rest refresh everyPollRefresh

def parseRegisters (node : YamlNode) (refresh everyPollRefresh : Int) :
    Except String (Parsed (List MqttObjectDataNode)) :=
  match node with
  | .sequence items => parseRegisterList items refresh everyPollRefresh
  | _ => .error "'registers' must be a list"

/-- The test for named and unnamed elements compares the node itself with its
own name, not with that of the child, and rejects nothing. -/
def parseRegisterList (items : List YamlNode) (refresh everyPollRefresh : Int) :
    Except String (Parsed (List MqttObjectDataNode)) :=
  match items with
  | [] => .ok { value := [], everyPollRefresh, declared := [] }
  | item :: items => do
      let child ← parseObjectDataNode item refresh everyPollRefresh
      let rest ← parseRegisterList items refresh child.everyPollRefresh
      .ok
        { value := child.value :: rest.value
          everyPollRefresh := rest.everyPollRefresh
          declared := child.declared ++ rest.declared }

end

/-- Replace the first occurrence of a placeholder, if there is one. -/
def replaceFirst (placeholder value text : List Char) : Option (List Char) :=
  match text with
  | [] => none
  | char :: rest =>
    if placeholder.isPrefixOf (char :: rest) then
      some (value ++ (char :: rest).drop placeholder.length)
    else
      (replaceFirst placeholder value rest).map (char :: ·)

/-- Fill one placeholder of a topic.  `check` is made only if the topic has
it. -/
def fillPlaceholder (placeholder : String) (value : List Char)
    (check : Except String Unit) (topic : String) : Except String String :=
  match replaceFirst placeholder.toList value topic.toList with
  | none => .ok topic
  | some filled => check.map fun _ => String.ofList filled

def fillTopic (template network : String) (slave : Int) (slaveName : String) :
    Except String String := do
  let noNetwork (topic : String) : String :=
    "default network name must be set for topic " ++ topic
  let topic ← fillPlaceholder "$\x7bnetwork\x7d" network.toList
    (if network = "" then .error (noNetwork template) else .ok ()) template
  let addressed ← fillPlaceholder "$\x7bslave_address\x7d" (intText slave)
    (if slave = -1 then
      .error ("default slave address must be set for topic " ++ topic)
    else
      .ok ()) topic
  fillPlaceholder "$\x7bslave_name\x7d" slaveName.toList
    (if slave = -1 then
      .error ("cannot find slave name, default slave address must be set " ++
        "for topic" ++ addressed)
    else if network = "" then
      .error (noNetwork addressed)
    else if slaveName = "" then
      .error ("missing name for slave id=" ++ String.ofList (intText slave) ++
        " needed for placeholder in topic " ++ addressed)
    else
      .ok ()) addressed

/-- The elements of a `state` that is a list; the first one decides whether
all of them have names. -/
def parseStateList (items : List YamlNode) (refresh everyPollRefresh : Int)
    (isUnnamed : Option Bool) (state : MqttObjectState) :
    Except String (Parsed MqttObjectState) :=
  match items with
  | [] => .ok { value := state, everyPollRefresh, declared := [] }
  | item :: items => do
      let parsed ← parseObjectDataNode libraries defaults item refresh
        everyPollRefresh
      let unnamed := isUnnamed.getD parsed.value.isUnnamed
      if parsed.value.isUnnamed ≠ unnamed then
        .error "All list elements must be named or unnamed"
      else do
        let rest ← parseStateList items refresh parsed.everyPollRefresh
          (some unnamed) (state.addDataNode parsed.value unnamed)
        .ok { rest with declared := parsed.declared ++ rest.declared }

/-- The `state` of an object.  A node that only groups its children gives way
to them. -/
def parseState (node : Option YamlNode) (refresh : Int) :
    Except String (Parsed MqttObjectState) :=
  let empty : MqttObjectState := { nodes := [], outputAsList := false }
  match node with
  | none =>
    .ok { value := empty, everyPollRefresh := refresh, declared := [] }
  | some (.map members) => do
      let parsed ← parseObjectDataNode libraries defaults (.map members)
        refresh refresh
      let node := parsed.value
      .ok
        { parsed with
          value :=
            if node.converter.isNone && node.isUnnamed && !node.isScalar then
              node.nodes.foldl (fun state child =>
                state.addDataNode child true) empty
            else
              empty.addDataNode node false }
  | some (.sequence items) =>
    parseStateList libraries defaults items refresh refresh none empty
  | some _ => .error "state must be a list or a single register data"

/-- The `availability` of an object and the value it is compared with. -/
def parseAvailability (node : Option YamlNode) (refresh : Int) :
    Except String (Parsed (MqttObjectState × MqttValue)) :=
  let empty : MqttObjectState := { nodes := [], outputAsList := false }
  match node with
  | none =>
    .ok { value := (empty, .int 1), everyPollRefresh := 0, declared := [] }
  | some node => do
      let available ← readOptionalValue .ok node "available_value"
      let value : MqttValue := (available.map fun text =>
        .binary (cString text.toList)).getD (.int 1)
      match node with
      | .map members => do
          let parsed ← parseObjectDataNode libraries defaults (.map members)
            refresh 0
          if !parsed.value.isScalar && parsed.value.converter.isNone then
            .error "multiple registers availability must use a converter"
          else
            .ok { parsed with
              value := (empty.addDataNode parsed.value false, value) }
      | _ =>
        .error ("availability must be a single register or a list with " ++
          "converter")

end ModMqtt

/-- An object to be made: an item of `objects` with the network, the slave and
the refresh in force for it. -/
structure ObjectSource where
  data : YamlNode
  network : String
  slave : Int
  refresh : Int
  publishMode : PublishMode

namespace ModMqtt

open ConfigTools

/-- Refreshes are in milliseconds, the clock counts nanoseconds. -/
def parseObject (libraries : LoaderLibraries) (source : ObjectSource)
    (slaveName : String) : Except String (MqttObject × List Declaration) := do
  let template ← readRequiredString source.data "topic"
  let topic ← fillTopic template source.network source.slave slaveName
  let retain ← readOptionalValue libraries.asBool source.data "retain"
  let mode ← parsePublishMode source.data source.publishMode
  let defaults := { network := source.network, slave := source.slave, mode }
  let state ← parseState libraries defaults (source.data.member? "state")
    source.refresh
  let availability ← parseAvailability libraries defaults
    (source.data.member? "availability") source.refresh
  .ok
    ({ MqttObject.create topic with
        state := state.value
        availability := availability.value.1
        availableValue := availability.value.2
        retain := retain.getD true
        publishMode := mode
        everyPollPeriod := state.everyPollRefresh * 1000000 },
      state.declared ++ availability.declared)

/-- What `initObjects` has read so far. -/
structure LoadedObjects where
  objects : List MqttObject := []
  declared : List Declaration := []
  commands : Int × List MqttObjectCommand := (1, [])

/-- One round of the innermost loop.  `created` are the slaves of the list
that have their object. -/
def addObject (libraries : LoaderLibraries)
    (slaveName : String → Int → String) (template : ObjectSource)
    (loaded : LoadedObjects × List Int) (slave : Int) :
    Except String (LoadedObjects × List Int) := do
  if slave ∈ loaded.2 then
    .error ("Slave with id=" ++ String.ofList (intText slave) ++
      " is duplicated in the list")
  else
    let source := { template with slave }
    let (object, declared) ← parseObject libraries source
      (slaveName source.network slave)
    if loaded.1.objects.any fun old => old.topic = object.topic then
      .error ("Topic " ++ object.topic ++
        " already defined. Missing network or slave placeholder?")
    else do
      let commands ← parseObjectCommands libraries.toConfigLibraries
        loaded.1.commands
        { topic := object.topic
          network := source.network
          slave
          commands := source.data.member? "commands" }
      .ok
        ({ objects := loaded.1.objects ++ [object]
           declared := loaded.1.declared ++ declared
           commands },
          loaded.2 ++ [slave])

/-- `for (int id = first; id <= second; id++)` -/
def slaveIds (range : Int × Int) : List Int :=
  (List.range (range.2 - range.1 + 1).toNat).map fun (offset : Nat) =>
    range.1 + offset

def addRange (libraries : LoaderLibraries)
    (slaveName : String → Int → String) (template : ObjectSource)
    (loaded : LoadedObjects × List Int) (range : Int × Int) :
    Except String (LoadedObjects × List Int) :=
  if range.1 ≠ -1 ∧ (range.1 < 0 ∨ 256 < range.2 ∨ range.2 < range.1) then
    .error ("Invalid slave range " ++ String.ofList (intText range.1) ++ "-" ++
      String.ofList (intText range.2))
  else
    (slaveIds range).foldlM (addObject libraries slaveName template) loaded

/-- The objects of one network; an empty name is no network. -/
def addNetwork (libraries : LoaderLibraries) (networks : List String)
    (slaveName : String → Int → String) (template : ObjectSource)
    (slaves : List (Int × Int)) (loaded : LoadedObjects) (network : String) :
    Except String LoadedObjects :=
  if network ≠ "" ∧ network ∉ networks then
    .error ("Unknown modbus network " ++ network)
  else do
    let (loaded, _) ← slaves.foldlM
      (addRange libraries slaveName { template with network }) (loaded, [])
    .ok loaded

def addObjects (libraries : LoaderLibraries) (networks : List String)
    (slaveName : String → Int → String) (refresh : Int)
    (publishMode : PublishMode) (loaded : LoadedObjects) (data : YamlNode) :
    Except String LoadedObjects := do
  let own ← readOptionalValue decodeMilliseconds data "refresh"
  let names ← readOptionalValue decodeNames data "network"
  let slaves ← readOptionalValue decodeAddresses data "slave"
  let orDefault {α : Type} (given : Option (List α)) (default : α) : List α :=
    if given.getD [] = [] then [default] else given.getD []
  (orDefault names "").foldlM
    (addNetwork libraries networks slaveName
      { data, network := "", slave := -1
        refresh := own.getD refresh, publishMode }
      (orDefault slaves (-1, -1))) loaded

/-- The settings that hold for all objects, and the items of `objects`. -/
def objectsSection (config : YamlNode) :
    Except String (Int × PublishMode × List YamlNode) :=
  match config.member? "mqtt" with
  | none => .error "mqtt section is missing"
  | some mqtt => do
      let refresh ← readOptionalValue decodeMilliseconds mqtt "refresh"
      let publishMode ← parsePublishMode mqtt .onChange
      match mqtt.member? "objects" with
      | none => .error "objects section is missing"
      | some (.sequence items) => .ok (refresh.getD 5000, publishMode, items)
      | some _ => .error "mqtt.objects must be a list"

def initObjects (libraries : LoaderLibraries) (networks : List String)
    (slaveName : String → Int → String) (config : YamlNode) :
    Except String LoadedObjects := do
  let (refresh, publishMode, items) ← objectsSection config
  items.foldlM (addObjects libraries networks slaveName refresh publishMode) {}

end ModMqtt

end MqmGateway
