import MqmGateway.Library.Fallible
import MqmGateway.MqttClient.Requests

/-!
# Loading the commands of the configuration

The part of the loader that turns the `commands` section of an object into
the commands of the MQTT client.  An error is the text of the exception that
ends loading; the position in the file is left out.
-/

namespace MqmGateway

/-- A node of the configuration file.  A member that is not there is not
defined; one without a value is `null`. -/
inductive YamlNode where
  | null
  | scalar (text : String)
  | sequence (items : List YamlNode)
  | map (members : List (String × YamlNode))

def YamlNode.member? (node : YamlNode) (name : String) : Option YamlNode :=
  match node with
  | .map members => (members.find? fun entry => entry.1 = name).map Prod.snd
  | _ => none

/-- The libraries of the loader: `asInt` is the conversion of a scalar to an
`int` by the YAML library. -/
structure ConfigLibraries extends RequestLibraries where
  asInt : String → Except String Int

namespace ConfigTools

def readRequiredValue (parent : YamlNode) (name : String) :
    Except String String :=
  match parent.member? name with
  | none => .error ("Missing reqired property '" ++ name ++ "'")
  | some (.scalar text) => .ok text
  | some _ => .error "string expected, list/null found"

def readRequiredString (parent : YamlNode) (name : String) :
    Except String String := do
  let text ← readRequiredValue parent name
  if text = "" then
    .error (name ++ " is an empty string")
  else
    .ok text

/-- `none` if the value is not there. -/
def readOptionalValue {α : Type} (decode : String → Except String α)
    (parent : YamlNode) (name : String) : Except String (Option α) :=
  match parent.member? name with
  | none => .ok none
  | some (.scalar text) => (decode text).map some
  | some _ => .error (name ++ " must have a single value. List/null found")

end ConfigTools

/-- A register as it is named in the configuration. -/
structure RegisterConfigName where
  networkName : String
  slaveId : Int
  registerNumber : Int
deriving DecidableEq, Repr

namespace RegisterConfigName

def isLetter (char : Char) : Bool :=
  'a' ≤ char ∧ char ≤ 'z' ∨ 'A' ≤ char ∧ char ≤ 'Z'

/-- `[a-zA-Z][a-zA-Z0-9]+` -/
def matchesNetwork : List Char → Bool
  | first :: rest =>
    isLetter first && !rest.isEmpty &&
      rest.all fun char => isLetter char || isDigitOf 10 char
  | [] => false

/-- `[0-9]+` -/
def matchesSlave (text : List Char) : Bool :=
  !text.isEmpty && text.all (isDigitOf 10)

/-- `(0[xX])?[0-9a-fA-F]+` -/
def matchesNumber (text : List Char) : Bool :=
  let digits := if startsHex text then text.drop 2 else text
  !digits.isEmpty && digits.all (isDigitOf 16)

/-- The groups of the regular expression, without the dots: network, slave and
register number; a group that did not match is empty. -/
def groups (text : List Char) : Option (List Char × List Char × List Char) :=
  match text.splitOn '.' with
  | [number] => if matchesNumber number then some ([], [], number) else none
  | [front, number] =>
    if !matchesNumber number then none
    else if matchesNetwork front then some (front, [], number)
    else if matchesSlave front then some ([], front, number)
    else none
  | [network, slave, number] =>
    if matchesNumber number && matchesNetwork network && matchesSlave slave
    then some (network, slave, number)
    else none
  | _ => none

def trim (text : List Char) : List Char :=
  ((text.reverse.dropWhile isSpace).reverse).dropWhile isSpace

/-- `std::stoi` of digits in base ten. -/
def decimal (digits : List Char) : Except String Int :=
  let value := digits.foldl
    (fun value digit => value * 10 + (digitValue digit).getD 0) 0
  if 2147483647 < value then .error "stoi" else .ok value

/-- Decimal register numbers count from one, hexadecimal ones from zero. -/
def registerNumberOf (number : List Char) : Except String Int := do
  let (value, _) ← stoi number
  if number[1]? = some 'x' ∨ number[1]? = some 'X' then
    .ok value
  else if value = 0 then
    .error "Use hex address for 0-based register number"
  else
    .ok (value - 1)

/-- The constructor; a default slave of minus one is none.  The regular
expression is matched with the text up to its first null byte. -/
def parse (data : YamlNode) (defaultNetwork : String) (defaultSlave : Int) :
    Except String RegisterConfigName := do
  let text ← ConfigTools.readRequiredString data "register"
  match groups (cString (trim text.toList)) with
  | none => .error "Invalid register specification"
  | some (network, slave, number) => do
      let networkName ←
        if network ≠ [] then .ok (String.ofList network)
        else if defaultNetwork ≠ "" then .ok defaultNetwork
        else .error "Unknown network in register specification"
      let slaveId ←
        if slave ≠ [] then decimal slave
        else if defaultSlave ≠ -1 then .ok defaultSlave
        else .error "Unknown slave id in register specification"
      let registerNumber ← registerNumberOf number
      .ok { networkName, slaveId, registerNumber }

end RegisterConfigName

namespace ModMqtt

open ConfigTools

def parseRegisterType (data : YamlNode) : Except String RegisterType := do
  let text ← readOptionalValue .ok data "register_type"
  match text.getD "holding" with
  | "coil" => .ok .coil
  | "input" => .ok .input
  | "holding" => .ok .holding
  | "bit" => .ok .bit
  | unknown => .error ("Unknown register type " ++ unknown)

/-- There is one payload type. -/
def parsePayloadType (data : YamlNode) : Except String Unit := do
  let text ← readOptionalValue .ok data "payload_type"
  match text.getD "string" with
  | "string" => .ok ()
  | unknown => .error ("Unknown payload type " ++ unknown)

def decodeWriteMode : String → Except String ModbusWriteMode
  | "auto" => .ok .auto
  | "force_multiple_registers" => .ok .forceMultipleRegisters
  | _ => .error "bad conversion"

def createConverter (libraries : ConfigLibraries) :
    YamlNode → Except String DataConverter
  | .scalar text => libraries.createConverter text
  | _ => .error "converter must be a string"

def parseObjectCommand (libraries : ConfigLibraries) (topicPath : String)
    (nextCommandId : Int) (node : YamlNode) (defaultNetwork : String)
    (defaultSlave : Int) : Except String MqttObjectCommand := do
  let name ← readRequiredString node "name"
  let register ← RegisterConfigName.parse node defaultNetwork defaultSlave
  let registerType ← parseRegisterType node
  parsePayloadType node
  let count ← readOptionalValue libraries.asInt node "count"
  let writeMode ← readOptionalValue decodeWriteMode node "write_mode"
  let converter ← match node.member? "converter" with
    | none => .ok none
    | some given => (createConverter libraries given).map some
  .ok
    { register := register.registerNumber
      count := count.getD 1
      registerType
      slaveId := register.slaveId
      commandId := nextCommandId
      topic := topicPath ++ "/" ++ name
      modbusNetworkName := register.networkName
      writeMode := writeMode.getD .auto
      converter }

/-- `MqttClient::addCommand`: a topic keeps its first command. -/
def addCommand (commands : List MqttObjectCommand)
    (command : MqttObjectCommand) : List MqttObjectCommand :=
  if commands.any fun known => known.topic = command.topic then commands
  else commands ++ [command]

/-- What `initObjects` knows about an object when it reads its commands. -/
structure CommandSection where
  topic : String
  network : String
  slave : Int
  commands : Option YamlNode

def CommandSection.nodes (given : CommandSection) : List YamlNode :=
  match given.commands with
  | some (.map members) => [.map members]
  | some (.sequence items) => items
  | _ => []

/-- `parseObjectCommands`: the next command id and the commands so far. -/
def parseObjectCommands (libraries : ConfigLibraries)
    (loaded : Int × List MqttObjectCommand) (given : CommandSection) :
    Except String (Int × List MqttObjectCommand) :=
  given.nodes.foldlM (fun loaded node => do
    let command ← parseObjectCommand libraries given.topic loaded.1 node
      given.network given.slave
    .ok (loaded.1 + 1, addCommand loaded.2 command)) loaded

/-- The commands of all objects; ids count from one. -/
def loadCommands (libraries : ConfigLibraries)
    (sections : List CommandSection) :
    Except String (List MqttObjectCommand) := do
  let loaded ← sections.foldlM (parseObjectCommands libraries) (1, [])
  .ok loaded.2

variable {commands : List MqttObjectCommand} {command : MqttObjectCommand}
  {libraries : ConfigLibraries} {sections : List CommandSection}

theorem mem_addCommand {added : MqttObjectCommand}
    (listed : command ∈ addCommand commands added) :
    command ∈ commands ∨ command = added := by
  rw [addCommand] at listed
  split at listed
  · exact .inl listed
  · exact (List.mem_append.mp listed).imp_right List.mem_singleton.mp

theorem loadCommands_preserves {property : Int × List MqttObjectCommand → Prop}
    (initially : property (1, []))
    (preserved : ∀ given ∈ sections, ∀ node ∈ given.nodes,
      ∀ loaded command, property loaded →
      parseObjectCommand libraries given.topic loaded.1 node given.network
        given.slave = .ok command →
      property (loaded.1 + 1, addCommand loaded.2 command))
    (loading : loadCommands libraries sections = .ok commands) :
    ∃ nextCommandId, property (nextCommandId, commands) := by
  obtain ⟨loaded, folding, same⟩ := exists_of_bind loading
  cases same
  refine ⟨loaded.1, foldlM_preserves ?_ initially folding⟩
  intro given listed state next before parsed
  refine foldlM_preserves ?_ before parsed
  intro node member state next before added
  obtain ⟨command, parsing, same⟩ := exists_of_bind added
  cases same
  exact preserved given listed node member state command before parsing

theorem parseObjectCommand_fields
    {topicPath : String} {nextCommandId : Int} {node : YamlNode}
    {defaultNetwork : String} {defaultSlave : Int}
    (parsed : parseObjectCommand libraries topicPath nextCommandId node
      defaultNetwork defaultSlave = .ok command) :
    command.commandId = nextCommandId ∧
      parseRegisterType node = .ok command.registerType := by
  simp only [parseObjectCommand, bind, Except.bind] at parsed
  repeat' split at parsed
  all_goals cases parsed
  all_goals exact ⟨rfl, by assumption⟩

/-- Command ids are positive and different. -/
theorem loadCommands_ids
    (loading : loadCommands libraries sections = .ok commands) :
    (∀ command ∈ commands, 0 < command.commandId) ∧
      commands.Pairwise fun left right =>
        left.commandId ≠ right.commandId := by
  let numbered (loaded : Int × List MqttObjectCommand) : Prop :=
    0 < loaded.1 ∧
    (∀ command ∈ loaded.2, 0 < command.commandId ∧
      command.commandId < loaded.1) ∧
    loaded.2.Pairwise fun left right => left.commandId ≠ right.commandId
  have kept : ∃ nextCommandId, numbered (nextCommandId, commands) := by
    apply loadCommands_preserves _ _ loading
    · exact ⟨by decide, by simp, List.Pairwise.nil⟩
    · intro given _ node _ loaded command before parsed
      obtain ⟨positive, below, distinct⟩ := before
      obtain ⟨here, _⟩ := parseObjectCommand_fields parsed
      refine ⟨by dsimp only; omega, ?_, ?_⟩
      · intro known listed
        dsimp only at listed ⊢
        rcases mem_addCommand listed with earlier | rfl
        · have bounds := below known earlier
          omega
        · omega
      · dsimp only
        rw [addCommand]
        split
        · exact distinct
        · apply List.pairwise_append.mpr
          refine ⟨distinct, List.pairwise_singleton _ _, ?_⟩
          intro known listed added here
          cases List.mem_singleton.mp here
          have bounds := below known listed
          omega
  obtain ⟨_, _, below, distinct⟩ := kept
  exact ⟨fun command listed => (below command listed).1, distinct⟩

end ModMqtt

end MqmGateway
