import MqmGateway.Config
import MqmGateway.Executor.Steps
import MqmGateway.Gateway.Provenance

/-!
# Which register types are written

`writeModbusRegisters` throws for register types that cannot be written, and
nothing catches the exception before the thread ends.  RPC requests check the
type; the loader does not check the type of a configured command.
-/

namespace MqmGateway

namespace ModbusExecutor

/-- An exception that leaves `executeNext` is that of a write. -/
theorem executeNext_error {executor next : ModbusExecutor}
    {input : ExecuteInput} {events : List ExecutorEvent}
    {exception : ModbusException}
    (executed : executor.executeNext input =
      some (next, events, .error exception)) :
    ∃ cmd retriesLeft, .issued (.write cmd) .threw retriesLeft ∈ events ∧
      cmd.registerType.writable = false := by
  have execution := executeNext_execution executed
  have threw : ∃ command retriesLeft,
      .issued command .threw retriesLeft ∈ events := by
    rw [executeNext] at executed
    split at executed
    · cases executed
    · cases executed
    · rename_i ready _
      split at executed
      · cases executed
      · rename_i command _
        dsimp only at executed
        split at executed
        · cases executed
        · obtain ⟨retriesLeft, messages, logged⟩ :=
            ready.sendCommand_events command input
          split at executed
          · rename_i same
            cases executed
            rw [same] at logged
            dsimp only at logged
            exact ⟨command, retriesLeft, logged ▸ List.mem_cons_self⟩
          · cases executed
  obtain ⟨command, retriesLeft, logged⟩ := threw
  cases execution with
  | quiet _ => cases logged
  | read _ result _ _ =>
    cases result <;> simp at logged
  | @write cmd logging _ _ =>
    have here : command = .write cmd ∧
        CallOutcome.threw = (writeRegisters cmd input).1 ∧
        retriesLeft = logging := by simpa using logged
    obtain ⟨rfl, outcome, rfl⟩ := here
    rw [← outcome]
    exact ⟨cmd, retriesLeft, List.mem_cons_self,
      writeRegisters_threw.mp outcome.symm⟩

end ModbusExecutor

/-- A command that some payload can set off is for registers that can be
written. -/
def Configuration.CommandsWritable (config : Configuration)
    (libraries : RequestLibraries) : Prop :=
  ∀ command ∈ config.commands,
    command.modbusNetworkName ∈ config.networkNames →
    ∀ payload registers,
      MqttClient.commandRegisters libraries command payload = .ok registers →
      command.registerType.writable = true

theorem Configuration.commandsWritable_of_loaded {config : Configuration}
    {libraries : ConfigLibraries} {sections : List ModMqtt.CommandSection}
    (loading : ModMqtt.loadCommands libraries sections = .ok config.commands)
    (types : ∀ given ∈ sections, ∀ node ∈ given.nodes, ∀ type,
      ModMqtt.parseRegisterType node = .ok type → type.writable = true) :
    config.CommandsWritable libraries.toRequestLibraries := by
  let typed (loaded : Int × List MqttObjectCommand) : Prop :=
    ∀ command ∈ loaded.2, command.registerType.writable = true
  have loaded : ∃ nextCommandId, typed (nextCommandId, config.commands) := by
    refine ModMqtt.loadCommands_preserves ?_ ?_ loading
    · intro command listed
      cases listed
    · intro given listed node member before command earlier parsed known added
      rcases ModMqtt.mem_addCommand added with old | rfl
      · exact earlier known old
      · exact types given listed node member known.registerType
          (ModMqtt.parseObjectCommand_fields parsed).2
  obtain ⟨_, writable⟩ := loaded
  intro command listed _ payload registers _
  exact writable command listed

namespace Gateway

variable {libraries : RequestLibraries} {config : Configuration} {now : Int}
  {created : RegisterPoll → Int}
  {allowed : Gateway → List GatewayEvent → GatewayInput → Prop}
  {gateway : Gateway} {history : List GatewayEvent}

/-- Every write that reached the modbus context had a type it knows, and no
thread has ended. -/
structure SafeWrites (gateway : Gateway) (history : List GatewayEvent) :
    Prop where
  writable : ∀ name cmd outcome retriesLeft,
    .thread name (.bus (.issued (.write cmd) outcome retriesLeft)) ∈ history →
    cmd.registerType.writable = true
  running : ∀ name, (gateway.threads name).isRunning = true

theorem Offered.writable (commands : config.CommandsWritable libraries)
    {name : String} {message : MsgRegisterValues}
    (offered : Offered libraries config.client name (.write message)) :
    message.registerType.writable = true := by
  obtain ⟨client, payload, next, tables, _, requests⟩ := offered
  generalize asked : ModbusRequest.write message = request at requests
  cases requests with
  | @command command registers listed known converted =>
    cases asked
    rw [tables.commands] at listed
    rw [tables.networks] at known
    exact commands command listed known payload.payload registers converted
  | @rpc request _ parsed =>
    rw [MqttClient.RpcRequest.message] at asked
    split at asked
    · rename_i values written
      cases asked
      exact (MqttClient.parseRpcRequest_writes parsed written).2
    · cases asked

theorem pending_writable (commands : config.CommandsWritable libraries)
    {name : String}
    (origins : (gateway.threads name).Origins (config.specification name)
      (Offered libraries config.client name)) {cmd : RegisterWrite}
    (pending : 0 < (gateway.threads name).executor.commands.pendingCount
      (.write cmd)) :
    cmd.registerType.writable = true := by
  obtain ⟨owner, message, offered, rfl⟩ := origins.commands _ pending
  exact Offered.writable commands offered

theorem step_writes (commands : config.CommandsWritable libraries)
    {next : Gateway} {input : GatewayInput} {events : List GatewayEvent}
    (origins : ∀ name, (gateway.threads name).Origins
      (config.specification name) (Offered libraries config.client name))
    (stepped : gateway.step libraries input = some (next, events)) :
    (∀ name cmd outcome retriesLeft,
      .thread name (.bus (.issued (.write cmd) outcome retriesLeft)) ∈
        events → cmd.registerType.writable = true) ∧
    ∀ name, (gateway.threads name).isRunning = true →
      (next.threads name).isRunning = true := by
  refine ⟨?_, ?_⟩
  · intro name cmd outcome retriesLeft logged
    have change := (step_cases stepped).change name
    generalize next.threads name = thread at change
    cases change with
    | same _ _ silent => exact absurd logged (silent _)
    | mqttState _ => cases logged
    | requested _ => simp at logged
    | processed _ => simp at logged
    | @step _ _ events threadStep =>
      have issued : .issued (.write cmd) outcome retriesLeft ∈
          events.filterMap (·.executorEvent) := by
        obtain ⟨event, listed, same⟩ := List.mem_map.mp logged
        cases same
        exact List.mem_filterMap.mpr ⟨_, listed, rfl⟩
      rcases threadStep.traffic with
        ⟨call, executor, returned, bus, _, executed, rfl, _⟩ | ⟨quiet, _⟩
      · rw [ModbusThread.filterMap_executorEvent_bus] at issued
        exact pending_writable commands (origins name)
          ((ModbusExecutor.executeNext_execution executed).pending issued)
      · cases quiet _ issued
  · intro name running
    have change := (step_cases stepped).change name
    generalize next.threads name = thread at change ⊢
    cases change with
    | same _ _ _ => exact running
    | mqttState _ => exact running
    | requested _ => exact running
    | processed _ => exact running
    | step threadStep =>
      rcases threadStep.traffic with
        ⟨call, executor, returned, bus, _, executed, _, after⟩ |
        ⟨_, _, kept⟩
      · cases returned with
        | ok delay => exact (after.running delay rfl).trans running
        | error exception =>
          obtain ⟨cmd, retriesLeft, logged, unwritable⟩ :=
            ModbusExecutor.executeNext_error executed
          have writable := pending_writable commands (origins name)
            ((ModbusExecutor.executeNext_execution executed).pending logged)
          rw [unwritable] at writable
          cases writable
      · exact kept.trans running

/-- If every command that can be set off is for registers that can be
written, then in every run only such registers are written and every thread
keeps running. -/
theorem safeWrites_of_commandsWritable
    (commands : config.CommandsWritable libraries)
    (run : Runs (step libraries) allowed (start config now created) gateway
      history) :
    gateway.SafeWrites history := by
  induction run with
  | start =>
    refine ⟨?_, fun _ => rfl⟩
    intro name cmd outcome retriesLeft logged
    cases logged
  | step before _ stepped induction =>
    obtain ⟨writable, running⟩ :=
      step_writes commands (run_origins before) stepped
    refine ⟨?_, fun name => running name (induction.running name)⟩
    intro name cmd outcome retriesLeft logged
    rcases List.mem_append.mp logged with earlier | here
    · exact induction.writable name cmd outcome retriesLeft earlier
    · exact writable name cmd outcome retriesLeft here

def plainLibraries : ConfigLibraries :=
  { parseJson := fun _ => .error "no document"
    createConverter := fun _ => .error "no converter"
    describe := fun _ => ""
    asInt := fun _ => .error "bad conversion" }

def boilerSection (registerType : String) : ModMqtt.CommandSection :=
  { topic := "boiler"
    network := ""
    slave := -1
    commands := some (.map [("name", .scalar "set"),
      ("register", .scalar "net.1.1"),
      ("register_type", .scalar registerType)]) }

def boilerCommand (registerType : RegisterType) : MqttObjectCommand :=
  { register := 0
    count := 1
    registerType
    slaveId := 1
    commandId := 1
    topic := "boiler/set"
    modbusNetworkName := "net"
    writeMode := .auto
    converter := none }

def boilerConfig (registerType : RegisterType) : Configuration :=
  { networks := [{ name := "net" }]
    polls := fun _ => []
    objects := []
    commands := [boilerCommand registerType]
    rpcMode := .disabled
    rpcRequestTopic := "" }

def quietBroker : ProcessInput :=
  { refuses := fun _ _ => false
    republishCheck := fun _ => 0
    publishTime := fun _ => 0 }

def answering (contents : Int → UInt16) : ExecuteInput :=
  { answer := { fails := false, contents }
    delayCheck := 0
    readStart := 0
    errorCheck := 0
    errorTime := 0
    finish := 0 }

def silentDevice : ExecuteInput :=
  { answering (fun _ => 0) with
    answer := { fails := true, contents := fun _ => 0 } }

def boilerInputs : List GatewayInput :=
  [.brokerConnected quietBroker,
    .message
      { topic := "boiler/set"
        payload := ['5']
        responseTopic := ""
        correlationData := [] },
    .thread "net" (.dispatch true 0),
    .thread "net" (.dispatch true 0),
    .thread "net" (.connect 0),
    .thread "net" (.execute (answering fun _ => 0))]

theorem safeWrites_holding_command : ∃ gateway history,
      Runs (step plainLibraries.toRequestLibraries) (fun _ _ _ => True)
        (start (boilerConfig .holding) 0 fun _ => 0) gateway history ∧
      (∃ cmd, .thread "net" (.bus (.issued (.write cmd) (.ok [5]) 2)) ∈
        history) ∧
      gateway.SafeWrites history := by
  have replayed : ∃ last,
      Runs.replay (step plainLibraries.toRequestLibraries) (fun _ _ _ => True)
        boilerInputs (start (boilerConfig .holding) 0 fun _ => 0, []) =
          some last ∧
      .thread "net" (.bus (.issued (.write
        (((boilerConfig .holding).thread 0 (fun _ => 0) "net").requestedWrite
          (MqttClient.commandMessage (boilerCommand .holding) [5])))
        (.ok [5]) 2)) ∈ last.2 := by
    refine ⟨_, rfl, ?_⟩
    decide
  obtain ⟨last, replaying, written⟩ := replayed
  have run := Runs.of_replay .start replaying
  refine ⟨last.1, last.2, run, ⟨_, written⟩,
    safeWrites_of_commandsWritable ?_ run⟩
  intro command listed _ _ _ _
  cases List.mem_singleton.mp listed
  rfl

/-- The loader accepts a command for input registers.  The first message on
its topic ends the modbus thread. -/
theorem input_command_ends_thread :
    ModMqtt.loadCommands plainLibraries [boilerSection "input"] =
        .ok (boilerConfig .input).commands ∧
      ∃ gateway history,
        Runs (step plainLibraries.toRequestLibraries) (fun _ _ _ => True)
          (start (boilerConfig .input) 0 fun _ => 0) gateway history ∧
        (gateway.threads "net").isRunning = false ∧
        ¬gateway.SafeWrites history := by
  have replayed : ∃ last,
      Runs.replay (step plainLibraries.toRequestLibraries) (fun _ _ _ => True)
        boilerInputs (start (boilerConfig .input) 0 fun _ => 0, []) =
          some last ∧
      (last.1.threads "net").isRunning = false := by
    refine ⟨_, rfl, ?_⟩
    decide
  obtain ⟨last, replaying, ended⟩ := replayed
  refine ⟨rfl, last.1, last.2, Runs.of_replay .start replaying, ended, ?_⟩
  intro safe
  have running := safe.running "net"
  rw [ended] at running
  cases running

end Gateway

end MqmGateway
