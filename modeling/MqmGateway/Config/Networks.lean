import MqmGateway.Config.Objects
import MqmGateway.Gateway

/-!
# Loading the networks of the configuration

The `modbus` section: the settings of each network and of its slaves, and the
poll groups.  Of the settings of the serial line and of the connection only
the checks are made here; nothing else in the gateway reads them.
-/

namespace MqmGateway

namespace ModMqtt

open ConfigTools

variable (libraries : LoaderLibraries)

def readPollGroup (network : String) (defaultSlave : Int) (group : YamlNode) :
    Except String MsgRegisterPoll := do
  let name ← RegisterConfigName.parse group network defaultSlave
  let count ← readRequired libraries.asInt group "count"
  let registerType ← parseRegisterType group
  MsgRegisterPoll.checked libraries.asserts
    { register := name.registerNumber
      count
      registerType
      slaveId := name.slaveId
      refreshMsec := MsgRegisterPoll.INVALID_REFRESH
      publishMode := .onChange }

/-- The refresh of a group is that of the registers merged into it. -/
def readModbusPollGroups (network : String) (defaultSlave : Int)
    (groups : Option YamlNode) : Except String (List MsgRegisterPoll) :=
  match groups with
  | none => .ok []
  | some (.sequence items) =>
    items.mapM (readPollGroup libraries network defaultSlave)
  | some _ => .error "modbus network poll_groups must be a list"

/-- Milliseconds of the file in the unit of the clock. -/
def readDelay (data : YamlNode) (name : String) :
    Except String (Option Duration) := do
  let delay ← readOptionalValue decodeMilliseconds data name
  .ok (delay.map fun milliseconds => milliseconds * 1000000)

/-- `ModbusSlaveConfig`: the name of the slave and its settings.  Old names of
the delays are read first and then overridden. -/
def readSlaveConfig (data : YamlNode) :
    Except String (String × ModbusSlaveConfig) := do
  let name ← readOptionalValue .ok data "name"
  let oldDelay ← readDelay data "delay_before_poll"
  let delay ← readDelay data "delay_before_command"
  let oldFirstDelay ← readDelay data "delay_before_first_poll"
  let firstDelay ← readDelay data "delay_before_first_command"
  let writeRetries ← readOptionalValue libraries.asUnsignedShort data
    "write_retries"
  let readRetries ← readOptionalValue libraries.asUnsignedShort data
    "read_retries"
  let writeMode ← readOptionalValue decodeWriteMode data "write_mode"
  .ok (name.getD "",
      { delayBeforeCommand := delay.or oldDelay
        delayBeforeFirstCommand := firstDelay.or oldFirstDelay
        maxReadRetryCount := readRetries.getD 0
        maxWriteRetryCount := writeRetries.getD 0
        writeMode := writeMode.getD .auto })

/-- `response_timeout` and `response_data_timeout`: below one second. -/
def checkTimeout (source : YamlNode) (name : String) : Except String Unit := do
  let timeout ← readOptionalValue decodeMilliseconds source name
  if timeout.any fun milliseconds => milliseconds < 0 ∨ 999 < milliseconds then
    .error (name ++ " value must be in range 0-999ms")
  else
    .ok ()

def decodeRtuSerialMode : String → Except String Unit
  | "rs232" | "rs485" => .ok ()
  | _ => .error "bad conversion"

def decodeRtuRtsMode : String → Except String Unit
  | "up" | "down" => .ok ()
  | _ => .error "bad conversion"

/-- The settings of a serial line or of a TCP connection. -/
def checkConnection (source : YamlNode) : Except String Unit := do
  if (source.member? "device").isSome then
    let _ ← readRequiredString source "device"
    let _ ← readRequired libraries.asInt source "baud"
    let _ ← readRequired libraries.asChar source "parity"
    let _ ← readRequired libraries.asInt source "data_bit"
    let _ ← readRequired libraries.asInt source "stop_bit"
    let _ ← readOptionalValue decodeRtuSerialMode source "rtu_serial_mode"
    let _ ← readOptionalValue decodeRtuRtsMode source "rtu_rts_mode"
    let _ ← readOptionalValue libraries.asInt source "rtu_rts_delay_us"
    .ok ()
  else if (source.member? "address").isSome then
    let _ ← readRequiredString source "address"
    let _ ← readRequired libraries.asInt source "port"
    .ok ()
  else
    .error ("Cannot determine modbus network type: missing 'device' or " ++
      "'address'")

/-- The YAML library takes no member of a scalar. -/
def checkWatchdog (source : YamlNode) : Except String Unit := do
  match source.member? "watchdog" with
  | none => .ok ()
  | some (.scalar _) => .error "operator[] call on a scalar"
  | some watchdog => do
      let _ ← readOptionalValue decodeMilliseconds watchdog "watch_period"
      .ok ()

/-- The constructor of `ModbusNetworkConfig`. -/
def readNetworkConfig (source : YamlNode) : Except String NetworkSettings := do
  let name ← readRequiredString source "name"
  checkTimeout source "response_timeout"
  checkTimeout source "response_data_timeout"
  let oldDelay ← readDelay source "min_delay_before_poll"
  let delay ← readDelay source "delay_before_command"
  let firstDelay ← readDelay source "delay_before_first_command"
  let writeRetries ← readOptionalValue libraries.asUnsignedShort source
    "write_retries"
  let readRetries ← readOptionalValue libraries.asUnsignedShort source
    "read_retries"
  checkConnection libraries source
  checkWatchdog source
  .ok
    { name
      delayBeforeCommand := delay.or oldDelay
      delayBeforeFirstCommand := firstDelay
      maxReadRetryCount := readRetries.getD 1
      maxWriteRetryCount := writeRetries.getD 2 }

/-- `ModbusInitData` -/
structure ModbusInitData where
  networks : List NetworkSettings := []
  slaveNames : String → Int → String := fun _ _ => ""

/-- Names of the slaves by network and address; an empty one is not noted. -/
def noteSlaveName (names : String → Int → String) (network : String)
    (address : Int) (name : String) : String → Int → String :=
  if name = "" then names
  else Function.update names network
    (Function.update (names network) address name)

/-- One slave of a network that is being read.  A second configuration of an
address replaces the first one. -/
def addSlave (data : YamlNode)
    (read : NetworkSettings × (String → Int → String)) (address : Int) :
    Except String (NetworkSettings × (String → Int → String)) := do
  let (name, slave) ← readSlaveConfig libraries data
  let groups ← readModbusPollGroups libraries read.1.name address
    (data.member? "poll_groups")
  .ok
    ({ read.1 with
        slaves := Function.update read.1.slaves address (some slave)
        pollGroups := read.1.pollGroups ++ groups },
      noteSlaveName read.2 read.1.name address name)

def addSlaveRange (data : YamlNode)
    (read : NetworkSettings × (String → Int → String)) (range : Int × Int) :
    Except String (NetworkSettings × (String → Int → String)) :=
  if range.1 < 0 ∨ 256 < range.2 ∨ range.2 < range.1 then
    .error ("Invalid slave address range " ++
      String.ofList (intText range.1) ++ "-" ++
      String.ofList (intText range.2))
  else
    (slaveIds range).foldlM (addSlave libraries data) read

def addSlaves (read : NetworkSettings × (String → Int → String))
    (data : YamlNode) :
    Except String (NetworkSettings × (String → Int → String)) := do
  let ranges ← readRequired decodeAddresses data "address"
  ranges.foldlM (addSlaveRange libraries data) read

def slaveItems (network : YamlNode) : Except String (List YamlNode) :=
  match network.member? "slaves" with
  | none => .ok []
  | some (.sequence items) => .ok items
  | some _ => .error "slaves content must be a list"

def addNetworkConfig (data : ModbusInitData) (network : YamlNode) :
    Except String ModbusInitData := do
  let settings ← readNetworkConfig libraries network
  let items ← slaveItems network
  let (settings, slaveNames) ← items.foldlM (addSlaves libraries)
    (settings, data.slaveNames)
  let oldGroups ← readModbusPollGroups libraries settings.name (-1)
    (network.member? "poll_groups")
  .ok
    { networks := data.networks ++
        [{ settings with pollGroups := settings.pollGroups ++ oldGroups }]
      slaveNames }

def initModbusClients (config : YamlNode) : Except String ModbusInitData :=
  match config.member? "modbus" with
  | none => .error "modbus section is missing"
  | some modbus =>
    match modbus.member? "networks" with
    | none => .error "modbus.networks section is missing"
    | some (.sequence []) => .error "No modbus networks defined"
    | some (.sequence networks) =>
      networks.foldlM (addNetworkConfig libraries) {}
    | some _ => .error "modbus.networks must be a list"

def OpenGroups (settings : NetworkSettings) : Prop :=
  ∀ poll ∈ settings.pollGroups,
    poll.refreshMsec = MsgRegisterPoll.INVALID_REFRESH

variable {libraries : LoaderLibraries}

variable {network : String} {slave : Int} {groups : Option YamlNode}
  {polls : List MsgRegisterPoll} {data : ModbusInitData}

theorem readModbusPollGroups_open
    (read : readModbusPollGroups libraries network slave groups = .ok polls) :
    ∀ poll ∈ polls, poll.refreshMsec = MsgRegisterPoll.INVALID_REFRESH := by
  intro poll listed
  unfold readModbusPollGroups at read
  split at read
  · cases read
    cases listed
  · obtain ⟨group, _, parsed⟩ := exists_of_mem_mapM read listed
    obtain ⟨name, _, parsed⟩ := exists_of_bind parsed
    obtain ⟨count, _, parsed⟩ := exists_of_bind parsed
    obtain ⟨registerType, _, parsed⟩ := exists_of_bind parsed
    rw [MsgRegisterPoll.eq_of_checked parsed]
  · cases read

theorem OpenGroups.append {settings : NetworkSettings}
    (isOpen : OpenGroups settings)
    (read : readModbusPollGroups libraries network slave groups = .ok polls) :
    OpenGroups { settings with pollGroups := settings.pollGroups ++ polls } := by
  intro poll listed
  rcases List.mem_append.mp listed with earlier | added
  · exact isOpen poll earlier
  · exact readModbusPollGroups_open read poll added

theorem OpenGroups.addSlaves
    {read next : NetworkSettings × (String → Int → String)} {data : YamlNode}
    (isOpen : OpenGroups read.1)
    (added : addSlaves libraries read data = .ok next) :
    OpenGroups next.1 := by
  have slave : ∀ read next address, OpenGroups read.1 →
      addSlave libraries data read address = .ok next →
      OpenGroups next.1 := by
    intro read next address before added
    obtain ⟨config, _, added⟩ := exists_of_bind added
    obtain ⟨groups, readGroups, same⟩ := exists_of_bind added
    cases same
    exact before.append readGroups
  have range : ∀ read next range, OpenGroups read.1 →
      addSlaveRange libraries data read range = .ok next →
      OpenGroups next.1 := by
    intro read next range before added
    rw [addSlaveRange] at added
    split at added
    · cases added
    · have kept : ∀ address ∈ slaveIds range, ∀ read next,
          OpenGroups read.1 →
          addSlave libraries data read address = .ok next →
          OpenGroups next.1 :=
        fun address _ read next => slave read next address
      exact foldlM_preserves kept before added
  obtain ⟨ranges, _, added⟩ := exists_of_bind added
  have kept : ∀ given ∈ ranges, ∀ read next, OpenGroups read.1 →
      addSlaveRange libraries data read given = .ok next →
      OpenGroups next.1 :=
    fun given _ read next => range read next given
  exact foldlM_preserves kept isOpen added

theorem addNetworkConfig_open {next : ModbusInitData} {network : YamlNode}
    (isOpen : ∀ settings ∈ data.networks, OpenGroups settings)
    (added : addNetworkConfig libraries data network = .ok next) :
    ∀ settings ∈ next.networks, OpenGroups settings := by
  obtain ⟨settings, readSettings, added⟩ := exists_of_bind added
  obtain ⟨items, _, added⟩ := exists_of_bind added
  obtain ⟨⟨last, slaveNames⟩, looped, added⟩ := exists_of_bind added
  obtain ⟨oldGroups, readGroups, same⟩ := exists_of_bind added
  cases same
  have empty : OpenGroups settings := by
    simp only [readNetworkConfig, bind, Except.bind] at readSettings
    repeat' split at readSettings
    all_goals cases readSettings
    intro poll listed
    cases listed
  have kept : ∀ data ∈ items, ∀ read next, OpenGroups read.1 →
      addSlaves libraries read data = .ok next → OpenGroups next.1 :=
    fun data _ read next before added => before.addSlaves added
  have slaves : OpenGroups last := foldlM_preserves kept empty looped
  intro settings listed
  rcases List.mem_append.mp listed with earlier | here
  · exact isOpen settings earlier
  · cases List.mem_singleton.mp here
    exact slaves.append readGroups

theorem initModbusClients_open {config : YamlNode}
    (loading : initModbusClients libraries config = .ok data) :
    ∀ settings ∈ data.networks, OpenGroups settings := by
  rw [initModbusClients] at loading
  split at loading
  · cases loading
  · split at loading
    · cases loading
    · cases loading
    · rename_i networks _ _
      have kept : ∀ network ∈ networks, ∀ data next : ModbusInitData,
          (∀ settings ∈ data.networks, OpenGroups settings) →
          addNetworkConfig libraries data network = .ok next →
          ∀ settings ∈ next.networks, OpenGroups settings :=
        fun network _ data next => addNetworkConfig_open
      refine foldlM_preserves kept ?_ loading
      intro settings listed
      cases listed
    · cases loading

end ModMqtt

end MqmGateway
