import MqmGateway.Config.PollRouting
import MqmGateway.Gateway.Settings

/-!
# Options of slaves

A slave can be listed in several entries of the `slaves` of its network.  The
documented rule takes each option from the last entry that defines it and
otherwise from the network.  The threads know only the last entry, and zero
retries are no retries of its own.
-/

namespace MqmGateway

/-- What a section says about commands; `none` is an option it does not
mention. -/
structure CommandOptions where
  delayBeforeCommand : Option Duration
  delayBeforeFirstCommand : Option Duration
  readRetries : Option Nat
  writeRetries : Option Nat
deriving DecidableEq, Repr

namespace CommandOptions

/-- The documented rule; without any value there are no delays, one retry of a
read and two of a write. -/
def resolve (network : CommandOptions) (entries : List CommandOptions) :
    RegisterCommandSettings :=
  { delayBeforeFirstCommand :=
      ((latest (·.delayBeforeFirstCommand) entries).or
        network.delayBeforeFirstCommand).getD 0
    delayBeforeCommand :=
      ((latest (·.delayBeforeCommand) entries).or
        network.delayBeforeCommand).getD 0
    maxReadRetryCount :=
      ((latest (·.readRetries) entries).or network.readRetries).getD 1
    maxWriteRetryCount :=
      ((latest (·.writeRetries) entries).or network.writeRetries).getD 2 }

/-- The settings that the loader makes of the options of a slave. -/
def slaveConfig (options : CommandOptions) (writeMode : ModbusWriteMode) :
    ModbusSlaveConfig :=
  { delayBeforeCommand := options.delayBeforeCommand
    delayBeforeFirstCommand := options.delayBeforeFirstCommand
    maxReadRetryCount := options.readRetries.getD 0
    maxWriteRetryCount := options.writeRetries.getD 0
    writeMode }

/-- Zero retries are no retries of its own. -/
def ownReads (options : CommandOptions) : Option Nat :=
  options.readRetries.filter (· ≠ 0)

def ownWrites (options : CommandOptions) : Option Nat :=
  options.writeRetries.filter (· ≠ 0)

/-- The settings that the thread takes from the last entry. -/
def ofLast (network : CommandOptions) (entries : List CommandOptions) :
    RegisterCommandSettings :=
  (entries.getLast?.map fun options =>
    (network.resolve []).update (options.slaveConfig .auto)).getD
      (network.resolve [])

/-- Where the last entry has nothing to keep, the last one that defines the
option repeats the value of the network. -/
def Decides {β : Type} (kept defined : CommandOptions → Option β)
    (inherited : β) (entries : List CommandOptions) : Prop :=
  ∀ last ∈ entries.getLast?, kept last = none →
    ∀ value ∈ latest defined entries, value = inherited

/-- The last entry decides about every option. -/
structure Restated (network : CommandOptions) (entries : List CommandOptions) :
    Prop where
  delayBeforeFirstCommand : Decides (·.delayBeforeFirstCommand)
    (·.delayBeforeFirstCommand) (network.delayBeforeFirstCommand.getD 0)
    entries
  delayBeforeCommand : Decides (·.delayBeforeCommand) (·.delayBeforeCommand)
    (network.delayBeforeCommand.getD 0) entries
  readRetries : Decides ownReads (·.readRetries)
    (network.readRetries.getD 1) entries
  writeRetries : Decides ownWrites (·.writeRetries)
    (network.writeRetries.getD 2) entries

theorem decides_iff {β : Type} {kept defined : CommandOptions → Option β}
    (narrower : ∀ entry value, kept entry = some value →
      defined entry = some value)
    (network : Option β) (default : β) (entries : List CommandOptions) :
    (entries.getLast?.bind kept).getD (network.getD default) =
        ((latest defined entries).or network).getD default ↔
      Decides kept defined (network.getD default) entries := by
  induction entries using List.reverseRec with
  | nil => simp [Decides, latest]
  | append_singleton entries last _ =>
    rw [Decides, List.getLast?_concat, Option.bind_some]
    cases own : kept last with
    | some value =>
      rw [latest_append, latest_singleton, narrower last value own]
      simp [own]
    | none =>
      cases latest defined (entries ++ [last]) with
      | none => simp
      | some value => simp [own, eq_comm]

theorem ite_retries (own : Option Nat) (inherited : Nat) :
    (if own.getD 0 ≠ 0 then own.getD 0 else inherited) =
      (own.filter (· ≠ 0)).getD inherited := by
  rcases own with _ | _ | count <;> rfl

theorem ofLast_eq (network : CommandOptions) (entries : List CommandOptions) :
    network.ofLast entries =
      { delayBeforeFirstCommand :=
          (entries.getLast?.bind (·.delayBeforeFirstCommand)).getD
            (network.delayBeforeFirstCommand.getD 0)
        delayBeforeCommand :=
          (entries.getLast?.bind (·.delayBeforeCommand)).getD
            (network.delayBeforeCommand.getD 0)
        maxReadRetryCount := (entries.getLast?.bind ownReads).getD
          (network.readRetries.getD 1)
        maxWriteRetryCount := (entries.getLast?.bind ownWrites).getD
          (network.writeRetries.getD 2) } := by
  rw [ofLast]
  cases entries.getLast? with
  | none => rfl
  | some options =>
    rw [Option.map_some, Option.getD_some, RegisterCommandSettings.update,
      RegisterCommandSettings.mk.injEq]
    exact ⟨rfl, rfl, ite_retries .., ite_retries ..⟩

theorem ofLast_eq_resolve_iff (network : CommandOptions)
    (entries : List CommandOptions) :
    network.ofLast entries = network.resolve entries ↔
      network.Restated entries := by
  have reads (entry : CommandOptions) (count : Nat)
      (kept : entry.ownReads = some count) : entry.readRetries = some count :=
    (Option.filter_eq_some_iff.mp kept).1
  have writes (entry : CommandOptions) (count : Nat)
      (kept : entry.ownWrites = some count) :
      entry.writeRetries = some count :=
    (Option.filter_eq_some_iff.mp kept).1
  rw [ofLast_eq, resolve, RegisterCommandSettings.mk.injEq,
    decides_iff fun _ _ same => same, decides_iff fun _ _ same => same,
    decides_iff reads, decides_iff writes]
  constructor
  · rintro ⟨first, delay, reads, writes⟩
    exact ⟨first, delay, reads, writes⟩
  · intro restated
    exact ⟨restated.delayBeforeFirstCommand, restated.delayBeforeCommand,
      restated.readRetries, restated.writeRetries⟩

end CommandOptions

namespace ModMqtt

open ConfigTools

def defined {α : Type} (read : Except String (Option α)) : Option α :=
  read.toOption.join

def networkItems (config : YamlNode) : List YamlNode :=
  match (config.member? "modbus").bind (·.member? "networks") with
  | some (.sequence items) => items
  | _ => []

/-- The section of a network; of two with one name the first one. -/
def networkSection (config : YamlNode) (name : String) : Option YamlNode :=
  (networkItems config).find? fun network =>
    (readRequiredString network "name").toOption = some name

def slaveAddresses (data : YamlNode) : List Int :=
  ((readRequired decodeAddresses data "address").toOption.getD []).flatMap
    slaveIds

def slaveEntries (network : YamlNode) (slaveId : Int) : List YamlNode :=
  ((slaveItems network).toOption.getD []).filter fun data =>
    slaveId ∈ slaveAddresses data

variable (libraries : LoaderLibraries)

def networkOptions (network : YamlNode) : CommandOptions :=
  { delayBeforeCommand :=
      (defined (readDelay network "delay_before_command")).or
        (defined (readDelay network "min_delay_before_poll"))
    delayBeforeFirstCommand :=
      defined (readDelay network "delay_before_first_command")
    readRetries := defined
      (readOptionalValue libraries.asUnsignedShort network "read_retries")
    writeRetries := defined
      (readOptionalValue libraries.asUnsignedShort network "write_retries") }

def slaveOptions (data : YamlNode) : CommandOptions :=
  { delayBeforeCommand :=
      (defined (readDelay data "delay_before_command")).or
        (defined (readDelay data "delay_before_poll"))
    delayBeforeFirstCommand :=
      (defined (readDelay data "delay_before_first_command")).or
        (defined (readDelay data "delay_before_first_poll"))
    readRetries := defined
      (readOptionalValue libraries.asUnsignedShort data "read_retries")
    writeRetries := defined
      (readOptionalValue libraries.asUnsignedShort data "write_retries") }

def slaveConfig (data : YamlNode) : ModbusSlaveConfig :=
  (slaveOptions libraries data).slaveConfig
    ((defined (readOptionalValue decodeWriteMode data "write_mode")).getD
      .auto)

/-- The messages with slave settings that the loader sends to the thread of a
network. -/
def slaveMessages (network : YamlNode) : List (Int × ModbusSlaveConfig) :=
  ((slaveItems network).toOption.getD []).flatMap fun data =>
    (slaveAddresses data).map fun address =>
      (address, slaveConfig libraries data)

/-- Settings of a network after the messages for its slaves. -/
def install (settings : NetworkSettings)
    (messages : List (Int × ModbusSlaveConfig))
    (pollGroups : List MsgRegisterPoll) : NetworkSettings :=
  { settings with
    slaves := ModbusThread.slavesAfter settings.slaves messages
    pollGroups }

variable {libraries : LoaderLibraries}

theorem install_install (settings : NetworkSettings)
    (first second : List (Int × ModbusSlaveConfig))
    (firstGroups secondGroups : List MsgRegisterPoll) :
    install (install settings first firstGroups) second secondGroups =
      install settings (first ++ second) secondGroups := by
  rw [install, install, install, ModbusThread.slavesAfter,
    ModbusThread.slavesAfter, ModbusThread.slavesAfter, List.foldl_append]

theorem foldlM_install {ι κ ε : Type}
    {body : NetworkSettings × κ → ι → Except ε (NetworkSettings × κ)}
    {messages : ι → List (Int × ModbusSlaveConfig)} {items : List ι}
    (round : ∀ item ∈ items, ∀ read next : NetworkSettings × κ,
      body read item = .ok next →
      ∃ groups, next.1 = install read.1 (messages item) groups)
    {read last : NetworkSettings × κ}
    (ran : items.foldlM body read = .ok last) :
    ∃ groups, last.1 = install read.1 (items.flatMap messages) groups := by
  induction items generalizing read with
  | nil =>
    cases ran
    exact ⟨_, rfl⟩
  | cons item items induction =>
    rw [List.foldlM_cons] at ran
    obtain ⟨next, first, rest⟩ := exists_of_bind ran
    obtain ⟨groups, here⟩ :=
      round item List.mem_cons_self read next first
    obtain ⟨lastGroups, later⟩ := induction
      (fun other listed => round other (List.mem_cons_of_mem item listed))
      rest
    refine ⟨lastGroups, ?_⟩
    rw [later, here, install_install, List.flatMap_cons]

variable {data network : YamlNode}
  {read next : NetworkSettings × (String → Int → String)}
  {settings : NetworkSettings} {networks : List YamlNode}

theorem readSlaveConfig_eq {read : String × ModbusSlaveConfig}
    (reading : readSlaveConfig libraries data = .ok read) :
    read.2 = slaveConfig libraries data := by
  obtain ⟨name, _, reading⟩ := exists_of_bind reading
  obtain ⟨oldDelay, oldDelayRead, reading⟩ := exists_of_bind reading
  obtain ⟨delay, delayRead, reading⟩ := exists_of_bind reading
  obtain ⟨oldFirst, oldFirstRead, reading⟩ := exists_of_bind reading
  obtain ⟨first, firstRead, reading⟩ := exists_of_bind reading
  obtain ⟨writes, writesRead, reading⟩ := exists_of_bind reading
  obtain ⟨reads, readsRead, reading⟩ := exists_of_bind reading
  obtain ⟨mode, modeRead, same⟩ := exists_of_bind reading
  cases same
  rw [slaveConfig, slaveOptions, oldDelayRead, delayRead, oldFirstRead,
    firstRead, writesRead, readsRead, modeRead]
  rfl

theorem addSlave_install {address : Int}
    (added : addSlave libraries data read address = .ok next) :
    ∃ groups, next.1 =
      install read.1 [(address, slaveConfig libraries data)] groups := by
  obtain ⟨config, reading, added⟩ := exists_of_bind added
  obtain ⟨groups, _, same⟩ := exists_of_bind added
  cases same
  refine ⟨read.1.pollGroups ++ groups, ?_⟩
  rw [← readSlaveConfig_eq reading]
  rfl

theorem addSlaves_install (added : addSlaves libraries read data = .ok next) :
    ∃ groups, next.1 = install read.1 ((slaveAddresses data).map fun address =>
        (address, slaveConfig libraries data)) groups := by
  obtain ⟨ranges, reading, added⟩ := exists_of_bind added
  have range : ∀ given ∈ ranges, ∀ read next,
      addSlaveRange libraries data read given = .ok next →
      ∃ groups, next.1 = install read.1 ((slaveIds given).flatMap
        fun address => [(address, slaveConfig libraries data)]) groups := by
    intro given _ read next added
    have slave : ∀ address ∈ slaveIds given, ∀ read next,
        addSlave libraries data read address = .ok next →
        ∃ groups, next.1 = install read.1
          [(address, slaveConfig libraries data)] groups :=
      fun _ _ _ _ => addSlave_install
    rw [addSlaveRange] at added
    split at added
    · cases added
    · exact foldlM_install slave added
  obtain ⟨groups, same⟩ := foldlM_install range added
  refine ⟨groups, ?_⟩
  rw [same, slaveAddresses, reading]
  simp only [Except.toOption, Option.getD_some, List.map_eq_flatMap,
    List.flatMap_assoc]

/-- What the settings of a network come from. -/
structure ReadFrom (libraries : LoaderLibraries) (network : YamlNode)
    (settings : NetworkSettings) : Prop where
  name : readRequiredString network "name" = .ok settings.name
  delayBeforeCommand : settings.delayBeforeCommand =
    (networkOptions libraries network).delayBeforeCommand
  delayBeforeFirstCommand : settings.delayBeforeFirstCommand =
    (networkOptions libraries network).delayBeforeFirstCommand
  readRetries : settings.maxReadRetryCount =
    (networkOptions libraries network).readRetries.getD 1
  writeRetries : settings.maxWriteRetryCount =
    (networkOptions libraries network).writeRetries.getD 2
  slaves : settings.slaves = ModbusThread.slavesAfter (fun _ => none)
    (slaveMessages libraries network)

theorem readNetworkConfig_readFrom
    (reading : readNetworkConfig libraries network = .ok settings) :
    readRequiredString network "name" = .ok settings.name ∧
    settings.delayBeforeCommand =
      (networkOptions libraries network).delayBeforeCommand ∧
    settings.delayBeforeFirstCommand =
      (networkOptions libraries network).delayBeforeFirstCommand ∧
    settings.maxReadRetryCount =
      (networkOptions libraries network).readRetries.getD 1 ∧
    settings.maxWriteRetryCount =
      (networkOptions libraries network).writeRetries.getD 2 ∧
    settings.slaves = fun _ => none := by
  obtain ⟨name, nameRead, reading⟩ := exists_of_bind reading
  obtain ⟨_, _, reading⟩ := exists_of_bind reading
  obtain ⟨_, _, reading⟩ := exists_of_bind reading
  obtain ⟨oldDelay, oldDelayRead, reading⟩ := exists_of_bind reading
  obtain ⟨delay, delayRead, reading⟩ := exists_of_bind reading
  obtain ⟨first, firstRead, reading⟩ := exists_of_bind reading
  obtain ⟨writes, writesRead, reading⟩ := exists_of_bind reading
  obtain ⟨reads, readsRead, reading⟩ := exists_of_bind reading
  obtain ⟨_, _, reading⟩ := exists_of_bind reading
  obtain ⟨_, _, same⟩ := exists_of_bind reading
  cases same
  rw [networkOptions, oldDelayRead, delayRead, firstRead, writesRead,
    readsRead]
  exact ⟨nameRead, rfl, rfl, rfl, rfl, rfl⟩

theorem addNetworkConfig_readFrom {data next : ModbusInitData}
    (added : addNetworkConfig libraries data network = .ok next) :
    ∃ settings, next.networks = data.networks ++ [settings] ∧
      ReadFrom libraries network settings := by
  obtain ⟨settings, reading, added⟩ := exists_of_bind added
  obtain ⟨items, listed, added⟩ := exists_of_bind added
  obtain ⟨⟨last, slaveNames⟩, looped, added⟩ := exists_of_bind added
  obtain ⟨oldGroups, _, same⟩ := exists_of_bind added
  cases same
  obtain ⟨name, delay, first, reads, writes, none⟩ :=
    readNetworkConfig_readFrom reading
  have item : ∀ data ∈ items, ∀ read next,
      addSlaves libraries read data = .ok next →
      ∃ groups, next.1 = install read.1
        ((slaveAddresses data).map fun address =>
          (address, slaveConfig libraries data)) groups :=
    fun _ _ _ _ => addSlaves_install
  obtain ⟨groups, installed⟩ := foldlM_install item looped
  refine ⟨_, rfl, ?_⟩
  dsimp only at installed
  rw [installed]
  refine ⟨name, delay, first, reads, writes, ?_⟩
  show ModbusThread.slavesAfter settings.slaves _ = _
  rw [none, slaveMessages, listed]
  rfl

theorem addNetworkConfigs_readFrom {data last : ModbusInitData}
    (ran : networks.foldlM (addNetworkConfig libraries) data = .ok last) :
    ∃ settings, last.networks = data.networks ++ settings ∧
      List.Forall₂ (ReadFrom libraries) networks settings := by
  induction networks generalizing data with
  | nil =>
    cases ran
    exact ⟨[], (List.append_nil _).symm, .nil⟩
  | cons network networks induction =>
    rw [List.foldlM_cons] at ran
    obtain ⟨next, first, rest⟩ := exists_of_bind ran
    obtain ⟨settings, added, readFrom⟩ := addNetworkConfig_readFrom first
    obtain ⟨others, more, each⟩ := induction rest
    refine ⟨settings :: others, ?_, .cons readFrom each⟩
    rw [more, added, List.append_assoc]
    rfl

theorem initModbusClients_readFrom {config : YamlNode} {data : ModbusInitData}
    (loading : initModbusClients libraries config = .ok data) :
    List.Forall₂ (ReadFrom libraries) (networkItems config) data.networks := by
  rw [initModbusClients] at loading
  split at loading
  · cases loading
  · rename_i modbus found
    split at loading
    · cases loading
    · cases loading
    · rename_i networks _ listed
      obtain ⟨settings, same, each⟩ := addNetworkConfigs_readFrom loading
      rw [networkItems, found, Option.bind_some, listed, same]
      exact each
    · cases loading

theorem find?_readFrom {settings : List NetworkSettings}
    (each : List.Forall₂ (ReadFrom libraries) networks settings)
    {name : String}
    (found : (networks.find? fun network =>
      (readRequiredString network "name").toOption = some name) =
        some network) :
    ∃ known, (settings.find? fun known => known.name = name) = some known ∧
      ReadFrom libraries network known := by
  induction each with
  | nil => cases found
  | @cons first known _ _ readFrom _ induction =>
    by_cases here : known.name = name
    · rw [List.find?_cons_of_pos (by simp [readFrom.name, here,
        Except.toOption])] at found
      cases found
      exact ⟨known, List.find?_cons_of_pos (by simp [here]), readFrom⟩
    · rw [List.find?_cons_of_neg (by simp [readFrom.name, here,
        Except.toOption])] at found
      rw [List.find?_cons_of_neg (by simpa using here)]
      exact induction found

theorem ReadFrom.slaves_eq
    (readFrom : ReadFrom libraries network settings) (slaveId : Int) :
    settings.slaves slaveId =
      (slaveEntries network slaveId).getLast?.map (slaveConfig libraries) := by
  have single (data : YamlNode) :
      latest (fun message => if message.1 = slaveId then some message.2
          else none)
        ((slaveAddresses data).map fun address =>
          (address, slaveConfig libraries data)) =
        (if decide (slaveId ∈ slaveAddresses data) then some data
          else none).map (slaveConfig libraries) := by
    rw [latest_translate, latest_if_mem]
    by_cases member : slaveId ∈ slaveAddresses data <;> simp [member]
  rw [readFrom.slaves, ModbusThread.slavesAfter, foldl_update_eq_latest,
    Option.or_none, slaveMessages, latest_flatMap]
  simp only [single]
  rw [latest_map, latest_if_filter, slaveEntries]

end ModMqtt

namespace Loaded

open ModMqtt

variable {libraries : LoaderLibraries} {file : YamlNode} {loaded : Loaded}
  {rpcMode : RpcMode} {rpcRequestTopic name : String} {network : YamlNode}

theorem network_readFrom (loading : load libraries file = .ok loaded)
    (declared : networkSection file name = some network) :
    ReadFrom libraries network
      ((loaded.configuration rpcMode rpcRequestTopic).network name) := by
  obtain ⟨modbusData, networksLoaded, loading⟩ := exists_of_bind loading
  obtain ⟨objects, _, same⟩ := exists_of_bind loading
  cases same
  obtain ⟨settings, found, readFrom⟩ :=
    find?_readFrom (initModbusClients_readFrom networksLoaded) declared
  rw [Configuration.network]
  show ReadFrom libraries network
    ((modbusData.networks.find? fun known => known.name = name).getD _)
  rw [found]
  exact readFrom

theorem thread_eq_updates (loading : load libraries file = .ok loaded)
    (declared : networkSection file name = some network) (now : Int)
    (created : RegisterPoll → Int) :
    (loaded.configuration rpcMode rpcRequestTopic).thread now created name =
      (slaveMessages libraries network).foldl (fun thread message =>
          thread.updateFromSlaveConfig message.1 message.2)
        { (loaded.configuration rpcMode rpcRequestTopic).thread now created
            name with
          slaves := fun _ => none } := by
  have readFrom : ReadFrom libraries network
      ((loaded.configuration rpcMode rpcRequestTopic).network name) :=
    network_readFrom loading declared
  rw [ModbusThread.foldl_updateFromSlaveConfig _ rfl,
    Configuration.thread, readFrom.slaves]

theorem applySlaveConfig_eq (loading : load libraries file = .ok loaded)
    (declared : networkSection file name = some network) (now : Int)
    (created : RegisterPoll → Int) (slaveId : Int) :
    ((loaded.configuration rpcMode rpcRequestTopic).thread now created
        name).applySlaveConfig slaveId =
      (networkOptions libraries network).ofLast
        ((slaveEntries network slaveId).map (slaveOptions libraries)) := by
  have readFrom : ReadFrom libraries network
      ((loaded.configuration rpcMode rpcRequestTopic).network name) :=
    network_readFrom loading declared
  have unset : ((loaded.configuration rpcMode rpcRequestTopic).thread now
      created name).networkSettings =
        (networkOptions libraries network).resolve [] := by
    rw [Configuration.thread, ModbusThread.networkSettings,
      readFrom.delayBeforeCommand, readFrom.delayBeforeFirstCommand,
      readFrom.readRetries, readFrom.writeRetries]
    rfl
  rw [ModbusThread.applySlaveConfig_eq, unset, CommandOptions.ofLast,
    List.getLast?_map, Option.map_map]
  show (Option.map _ (((loaded.configuration rpcMode
    rpcRequestTopic).network name).slaves slaveId)).getD _ = _
  rw [readFrom.slaves_eq, Option.map_map]
  rfl

/-- Polls, reads and writes have the settings that the rule gives their slave
if and only if its last entry decides about every option. -/
theorem settings_resolved (loading : load libraries file = .ok loaded)
    {requests : RequestLibraries} {now : Int} {created : RegisterPoll → Int}
    {allowed : Gateway → List GatewayEvent → GatewayInput → Prop}
    {gateway : Gateway} {history : List GatewayEvent}
    (run : Runs (Gateway.step requests) allowed
      (Gateway.start (loaded.configuration rpcMode rpcRequestTopic) now
        created) gateway history)
    (declared : networkSection file name = some network)
    {command : RegisterCommand}
    (handled : .accepted command ∈ Gateway.busHistory name history ∨
      ∃ outcome retriesLeft, .issued command outcome retriesLeft ∈
        Gateway.busHistory name history) :
    command.settings = (networkOptions libraries network).resolve
          ((slaveEntries network command.slaveId).map
            (slaveOptions libraries)) ↔
      (networkOptions libraries network).Restated
        ((slaveEntries network command.slaveId).map
          (slaveOptions libraries)) := by
  rw [← CommandOptions.ofLast_eq_resolve_iff,
    ← applySlaveConfig_eq loading declared now created]
  have configured := Gateway.run_configured run name
  rcases handled with accepted | ⟨outcome, retriesLeft, issued⟩
  · rw [configured.accepted command accepted]
  · rw [configured.issued command outcome retriesLeft issued]

def countLibraries : LoaderLibraries :=
  { numberLibraries with
    asUnsignedShort := fun text =>
      (ConfigTools.toNumber text.toList).map Int.toNat }

def slavesNetwork (options : List (String × YamlNode))
    (slaves : List YamlNode) : YamlNode :=
  .map ([("name", .scalar "net"), ("address", .scalar "localhost"),
    ("port", .scalar "502"), ("slaves", .sequence slaves)] ++ options)

def slavesFile (network : YamlNode) : YamlNode :=
  .map
    [("modbus", .map [("networks", .sequence [network])]),
      ("mqtt", .map
        [("objects", .sequence [.map
          [("topic", .scalar "meter"), ("network", .scalar "net"),
            ("slave", .scalar "1"),
            ("state", .map [("register", .scalar "1")])]])])]

def slavesPoll (settings : RegisterCommandSettings) : RegisterPoll :=
  { settings with
    address := 0
    slaveId := 1
    register := 0
    registerType := .holding
    registerCount := 1
    refresh := 5000000000
    publishMode := .onChange
    commandId := 0 }

def firstAccepted (loaded : Loaded) : Option (List ExecutorEvent) :=
  (Runs.replay (Gateway.step numberLibraries.toRequestLibraries)
    (fun _ _ _ => True) [.thread "net" (.dispatch true 0)]
    (Gateway.start (loaded.configuration .disabled "") 0 fun _ => 0, [])).map
      fun last => Gateway.busHistory "net" last.2

theorem exists_of_firstAccepted {event : ExecutorEvent}
    (accepted : loaded.firstAccepted = some [event]) :
    ∃ gateway history, Runs (Gateway.step numberLibraries.toRequestLibraries)
        (fun _ _ _ => True)
        (Gateway.start (loaded.configuration .disabled "") 0 fun _ => 0)
        gateway history ∧ event ∈ Gateway.busHistory "net" history := by
  obtain ⟨last, replayed, same⟩ := Option.map_eq_some_iff.mp accepted
  refine ⟨last.1, last.2, Runs.of_replay .start replayed, ?_⟩
  rw [same]
  exact List.mem_singleton_self event

def restatedNetwork : YamlNode :=
  slavesNetwork [("read_retries", .scalar "3")]
    [.map [("address", .scalar "1"), ("read_retries", .scalar "5")],
      .map [("address", .scalar "1-2"), ("read_retries", .scalar "7"),
        ("delay_before_command", .scalar "20ms")]]

theorem settings_resolved_restated :
    ∃ loaded, load countLibraries (slavesFile restatedNetwork) = .ok loaded ∧
      ∃ gateway history, Runs (Gateway.step numberLibraries.toRequestLibraries)
          (fun _ _ _ => True)
          (Gateway.start (loaded.configuration .disabled "") 0 fun _ => 0)
          gateway history ∧
        .accepted (.poll (slavesPoll ⟨0, 20000000, 7, 2⟩)) ∈
          Gateway.busHistory "net" history ∧
        ⟨0, 20000000, 7, 2⟩ =
          (networkOptions countLibraries restatedNetwork).resolve
            ((slaveEntries restatedNetwork 1).map
              (slaveOptions countLibraries)) := by
  obtain ⟨loaded, loading, first⟩ := exists_loaded
    (show ((load countLibraries (slavesFile restatedNetwork)).toOption.any
      fun loaded => decide (loaded.firstAccepted =
        some [.accepted (.poll (slavesPoll ⟨0, 20000000, 7, 2⟩))])) = true by
          decide +kernel)
  obtain ⟨gateway, history, run, accepted⟩ := exists_of_firstAccepted first
  have entries : (slaveEntries restatedNetwork 1).map
      (slaveOptions countLibraries) =
        [⟨none, none, some 5, none⟩, ⟨some 20000000, none, some 7, none⟩] := by
    decide +kernel
  refine ⟨loaded, loading, gateway, history, run, accepted, ?_⟩
  refine (settings_resolved loading run (by rfl) (.inl accepted)).mpr ?_
  show CommandOptions.Restated _ ((slaveEntries restatedNetwork 1).map _)
  rw [entries]
  constructor <;>
    simp [CommandOptions.Decides, CommandOptions.ownReads, latest]

def omittingNetwork : YamlNode :=
  slavesNetwork []
    [.map [("address", .scalar "1"),
        ("delay_before_command", .scalar "20ms")],
      .map [("address", .scalar "1"), ("read_retries", .scalar "0")]]

/-- The delay of the first entry is lost, and zero retries are those of the
network. -/
theorem omitted_option_lost :
    ∃ loaded, load countLibraries (slavesFile omittingNetwork) = .ok loaded ∧
      ∃ gateway history, Runs (Gateway.step numberLibraries.toRequestLibraries)
          (fun _ _ _ => True)
          (Gateway.start (loaded.configuration .disabled "") 0 fun _ => 0)
          gateway history ∧
        networkSection (slavesFile omittingNetwork) "net" =
          some omittingNetwork ∧
        .accepted (.poll (slavesPoll ⟨0, 0, 1, 2⟩)) ∈
          Gateway.busHistory "net" history ∧
        (networkOptions countLibraries omittingNetwork).resolve
          ((slaveEntries omittingNetwork 1).map
            (slaveOptions countLibraries)) = ⟨0, 20000000, 0, 2⟩ := by
  obtain ⟨loaded, loading, first⟩ := exists_loaded
    (show ((load countLibraries (slavesFile omittingNetwork)).toOption.any
      fun loaded => decide (loaded.firstAccepted =
        some [.accepted (.poll (slavesPoll ⟨0, 0, 1, 2⟩))])) = true by
          decide +kernel)
  obtain ⟨gateway, history, run, accepted⟩ := exists_of_firstAccepted first
  exact ⟨loaded, loading, gateway, history, run, rfl, accepted,
    by decide +kernel⟩

end Loaded

end MqmGateway
