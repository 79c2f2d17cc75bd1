import MqmGateway.Gateway.Steps

/-!
# Where commands come from

Every command that an executor holds is a poll of the specification of its
network, or an MQTT message asked for it.
-/

namespace MqmGateway

/-- A client with the lists of `tables` can turn some message into the
request. -/
def Offered (libraries : RequestLibraries) (tables : MqttClient)
    (name : String) (request : ModbusRequest) : Prop :=
  ∃ client message next, tables.SameTables client ∧ client.nextRpcId ≤ 0 ∧
    MqttClient.Requests libraries client message next name request

namespace Offered

variable {libraries : RequestLibraries} {tables : MqttClient} {name : String}

theorem read_isRpc {message : ModbusMessageBase}
    (offered : Offered libraries tables name (.read message)) :
    message.commandId < 0 := by
  obtain ⟨client, payload, next, _, nonpositive, requests⟩ := offered
  generalize asked : ModbusRequest.read message = request at requests
  cases requests with
  | command _ _ _ => cases asked
  | rpc _ _ =>
    rw [MqttClient.RpcRequest.message] at asked
    split at asked
    · cases asked
    · cases asked
      rw [MqttClient.takeRpcId]
      dsimp only
      split <;> omega

theorem read_count {message : ModbusMessageBase}
    (offered : Offered libraries tables name (.read message)) :
    1 ≤ message.count ∧ message.count ≤ 2000 := by
  obtain ⟨client, payload, next, _, _, requests⟩ := offered
  generalize asked : ModbusRequest.read message = request at requests
  cases requests with
  | command _ _ _ => cases asked
  | rpc _ parsed =>
    rw [MqttClient.RpcRequest.message] at asked
    split at asked
    · cases asked
    · rename_i reads
      cases asked
      exact MqttClient.parseRpcRequest_count parsed reads

theorem write_count {message : MsgRegisterValues}
    (offered : Offered libraries tables name (.write message)) :
    message.count = message.registers.length := by
  obtain ⟨client, payload, next, _, _, requests⟩ := offered
  generalize asked : ModbusRequest.write message = request at requests
  cases requests with
  | command _ _ _ =>
    cases asked
    rfl
  | rpc _ _ =>
    rw [MqttClient.RpcRequest.message] at asked
    split at asked
    · cases asked
      rfl
    · cases asked

end Offered

def Asked (history : List GatewayEvent) (name : String)
    (request : ModbusRequest) : Prop :=
  ∃ message, .requested name request message ∈ history

theorem Asked.append {history : List GatewayEvent} {name : String}
    {request : ModbusRequest} (asked : Asked history name request)
    (events : List GatewayEvent) :
    Asked (history ++ events) name request := by
  obtain ⟨message, listed⟩ := asked
  exact ⟨message, List.mem_append_left events listed⟩

/-- The poll comes from a range of the specification. -/
def RegisterPoll.Specified (spec : MsgRegisterPollSpecification)
    (reg : RegisterPoll) : Prop :=
  ∃ owner : ModbusThread, ∃ poll ∈ spec.registers, ∃ address,
    reg = owner.specifiedPoll poll address

def ModbusRequest.HasOrigin (spec : MsgRegisterPollSpecification)
    (offered : ModbusRequest → Prop) : ModbusRequest → Prop
  | .mqttNetworkState _ => True
  | .pollSpecification sent => sent = spec
  | request => offered request

def RegisterCommand.HasOrigin (spec : MsgRegisterPollSpecification)
    (offered : ModbusRequest → Prop) : RegisterCommand → Prop
  | .poll reg => reg.Specified spec ∨
      ∃ owner : ModbusThread, ∃ message, offered (.read message) ∧
        reg = owner.requestedPoll message
  | .write cmd => ∃ owner : ModbusThread, ∃ message,
      offered (.write message) ∧ cmd = owner.requestedWrite message

section Mono

variable {spec : MsgRegisterPollSpecification}
  {offered wider : ModbusRequest → Prop}

theorem ModbusRequest.HasOrigin.mono {request : ModbusRequest}
    (origin : request.HasOrigin spec offered)
    (weaker : ∀ request, offered request → wider request) :
    request.HasOrigin spec wider := by
  cases request with
  | write message => exact weaker _ origin
  | read message => exact weaker _ origin
  | mqttNetworkState isUp => trivial
  | pollSpecification sent => exact origin

theorem RegisterCommand.HasOrigin.mono {command : RegisterCommand}
    (origin : command.HasOrigin spec offered)
    (weaker : ∀ request, offered request → wider request) :
    command.HasOrigin spec wider := by
  cases command with
  | poll reg =>
    rcases origin with specified | ⟨owner, message, asked, same⟩
    · exact .inl specified
    · exact .inr ⟨owner, message, weaker _ asked, same⟩
  | write cmd =>
    obtain ⟨owner, message, asked, same⟩ := origin
    exact ⟨owner, message, weaker _ asked, same⟩

end Mono

def RegisterPoll.header (reg : RegisterPoll) : ModbusMessageBase :=
  { register := reg.register
    count := reg.registerCount
    registerType := reg.registerType
    slaveId := reg.slaveId
    commandId := reg.commandId }

namespace RegisterCommand

/-- The registers a command is about and the id it carries. -/
def header : RegisterCommand → ModbusMessageBase
  | .poll reg => reg.header
  | .write cmd => cmd.failedMessage

/-- The header of a command is that of what it reports. -/
def Headed : RegisterCommand → Prop
  | .poll reg => reg.isRpc = false → reg.commandId = 0
  | .write cmd => ∃ message, cmd.returnMessage = some message ∧
      message.toModbusMessageBase = cmd.failedMessage

theorem HasOrigin.headed {libraries : RequestLibraries} {tables : MqttClient}
    {name : String} {spec : MsgRegisterPollSpecification}
    {command : RegisterCommand}
    (origin : command.HasOrigin spec (Offered libraries tables name)) :
    command.Headed := by
  cases command with
  | poll reg =>
    intro scheduled
    rcases origin with
      ⟨owner, poll, _, address, rfl⟩ | ⟨owner, message, offered, rfl⟩
    · rfl
    · have negative : message.commandId < 0 := offered.read_isRpc
      simp [RegisterPoll.isRpc, ModbusThread.requestedPoll, negative]
        at scheduled
  | write cmd =>
    obtain ⟨owner, message, offered, rfl⟩ := origin
    refine ⟨message, rfl, ?_⟩
    rw [RegisterWrite.failedMessage]
    simp [ModbusThread.requestedWrite, ← offered.write_count]

end RegisterCommand

namespace ModbusThread

structure Origins (spec : MsgRegisterPollSpecification)
    (offered : ModbusRequest → Prop) (thread : ModbusThread) : Prop where
  requests : ∀ request ∈ thread.toModbus, request.HasOrigin spec offered
  scheduled : ∀ reg, thread.Scheduled reg → reg.Specified spec
  commands : ∀ command, 0 < thread.executor.commands.pendingCount command →
    command.HasOrigin spec offered

namespace Origins

variable {spec : MsgRegisterPollSpecification}
  {offered : ModbusRequest → Prop} {thread : ModbusThread}

theorem mono (origins : Origins spec offered thread)
    {wider : ModbusRequest → Prop}
    (weaker : ∀ request, offered request → wider request) :
    Origins spec wider thread := by
  refine ⟨?_, origins.scheduled, ?_⟩
  · intro request listed
    exact (origins.requests request listed).mono weaker
  · intro command pending
    exact (origins.commands command pending).mono weaker

theorem enqueue (origins : Origins spec offered thread)
    {request : ModbusRequest} (known : request.HasOrigin spec offered) :
    Origins spec offered (thread.enqueue request) := by
  refine ⟨?_, origins.scheduled, origins.commands⟩
  intro queued listed
  rcases List.mem_append.mp listed with earlier | added
  · exact origins.requests queued earlier
  · cases List.mem_singleton.mp added
    exact known

theorem step (origins : Origins spec offered thread) {next : ModbusThread}
    {input : ThreadInput} {events : List ThreadEvent}
    (threadStep : ThreadStep thread input next events) :
    Origins spec offered next := by
  have scheduled : ∀ reg, next.Scheduled reg → reg.Specified spec := by
    intro reg ⟨entry, listed, member⟩
    rcases threadStep.registerMap with same | ⟨sent, queued, replaced⟩
    · exact origins.scheduled reg ⟨entry, same ▸ listed, member⟩
    · have received : sent = spec := origins.requests
        (.pollSpecification sent) (by rw [queued]; exact List.mem_cons_self)
      rw [replaced, received] at listed
      obtain ⟨poll, known, address, same⟩ :=
        specifiedPolls_origin (mem_bySlave listed member).1
      exact ⟨thread, poll, known, address, same⟩
  refine ⟨?_, scheduled, ?_⟩
  · intro request listed
    rcases threadStep.toModbus with same | ⟨taken, queued⟩
    · exact origins.requests request (same ▸ listed)
    · apply origins.requests request
      rw [queued]
      exact List.mem_cons_of_mem taken listed
  · intro command pending
    have balanced := trace_balance threadStep.trace command
    by_cases before : 0 < thread.executor.commands.pendingCount command
    · exact origins.commands command before
    · have logged : .accepted command ∈
          events.filterMap (·.executorEvent) :=
        List.count_pos_iff.mp (by omega)
      rcases threadStep.accepted logged with
        ⟨reg, rfl, polled⟩ | ⟨message, queued, rfl⟩ | ⟨message, queued, rfl⟩
      · exact .inl (scheduled reg polled)
      · exact .inr ⟨thread, message, origins.requests _ queued, rfl⟩
      · exact ⟨thread, message, origins.requests _ queued, rfl⟩

end Origins

end ModbusThread

namespace Gateway

variable {libraries : RequestLibraries} {config : Configuration} {now : Int}
  {created : RegisterPoll → Int}
  {allowed : Gateway → List GatewayEvent → GatewayInput → Prop}
  {gateway : Gateway} {history : List GatewayEvent}

section

variable (run : Runs (step libraries) allowed (start config now created)
    gateway history)

include run

theorem run_tables :
    config.client.SameTables gateway.client := by
  induction run with
  | start => exact .refl config.client
  | step _ _ stepped induction =>
    exact induction.trans (step_cases stepped).tables

theorem run_networks : gateway.client.networks = config.networkNames :=
  (run_tables run).networks

theorem run_nextRpcId : gateway.client.nextRpcId ≤ 0 := by
  induction run with
  | start => exact le_refl 0
  | step _ _ stepped induction => exact (step_cases stepped).nextRpcId induction

end

theorem start_origins (offered : ModbusRequest → Prop) (name : String) :
    ((start config now created).threads name).Origins
      (config.specification name) offered := by
  refine ⟨?_, ?_, ?_⟩
  · intro request listed
    have queued : request ∈ if config.polls name = [] then []
        else [.pollSpecification (config.specification name)] := listed
    split at queued
    · cases queued
    · cases List.mem_singleton.mp queued
      rfl
  · intro reg ⟨entry, listed, _⟩
    cases listed
  · intro command pending
    exact absurd pending (ModbusExecutor.pendingCount_create ..).not_gt

section

variable (run : Runs (step libraries) allowed (start config now created)
    gateway history)

include run

theorem run_asked (name : String) :
    (gateway.threads name).Origins (config.specification name)
      (Asked history name) := by
  induction run with
  | start => exact start_origins _ name
  | @step gateway next history events _ _ _ stepped induction =>
    have earlier : (gateway.threads name).Origins
        (config.specification name) (Asked (history ++ events) name) :=
      induction.mono fun _ asked => asked.append events
    have change := (step_cases stepped).change name
    generalize next.threads name = thread at change ⊢
    cases change with
    | same _ _ _ => exact earlier
    | mqttState isUp => exact earlier.enqueue trivial
    | @requested message client request requests =>
      apply earlier.enqueue
      have asked : Asked (history ++ [.requested name request message]) name
          request := ⟨message, by simp⟩
      cases requests with
      | command _ _ _ => exact asked
      | @rpc request _ _ =>
        cases written : request.writeValues <;>
          simp only [MqttClient.RpcRequest.message, written] at asked ⊢ <;>
          exact asked
    | processed _ =>
      exact ⟨earlier.requests, earlier.scheduled, earlier.commands⟩
    | step threadStep => exact earlier.step threadStep

theorem run_requested {name : String} {request : ModbusRequest}
    {message : MqttClient.MqttMessage}
    (listed : .requested name request message ∈ history) :
    ∃ client next, config.client.SameTables client ∧ client.nextRpcId ≤ 0 ∧
      client.onMessage libraries message = some (next, some (name, request)) := by
  induction run with
  | start => cases listed
  | step before _ stepped induction =>
    rcases List.mem_append.mp listed with earlier | new
    · exact induction earlier
    · cases step_cases stepped with
      | requested _ handling =>
        cases List.mem_singleton.mp new
        exact ⟨_, _, run_tables before, run_nextRpcId before, handling⟩
      | _ => simp at new

theorem offered_of_asked {name : String} {request : ModbusRequest}
    (asked : Asked history name request) :
    Offered libraries config.client name request := by
  obtain ⟨message, listed⟩ := asked
  obtain ⟨client, next, same, nonpositive, handling⟩ := run_requested run listed
  exact ⟨client, message, next, same, nonpositive,
    MqttClient.onMessage_requests handling⟩

theorem run_origins (name : String) :
    (gateway.threads name).Origins (config.specification name)
      (Offered libraries config.client name) :=
  (run_asked run name).mono fun _ asked => offered_of_asked run asked

theorem run_networkName (name : String) :
    (gateway.threads name).networkName = name := by
  induction run with
  | start => rfl
  | @step gateway next _ _ _ _ _ stepped induction =>
    have change := (step_cases stepped).change name
    generalize next.threads name = thread at change ⊢
    cases change with
    | step threadStep => exact threadStep.networkName.trans induction
    | _ => exact induction

end

end Gateway

end MqmGateway
