import MqmGateway.Gateway
import MqmGateway.ModbusThread.Steps
import MqmGateway.MqttClient.LegalRequests
import MqmGateway.MqttClient.Replies

/-!
# What a step of the gateway does

An incoming message leads to a request for a configured command or for an RPC
request that passed its checks.  Every step keeps the lists of the client.
-/

namespace MqmGateway

namespace MqttClient

variable {libraries : RequestLibraries} {client next : MqttClient}
  {message : MqttMessage} {name : String} {request : ModbusRequest}

theorem parseRpcRequest_count {payload : Payload} {request : RpcRequest}
    (parsed : parseRpcRequest libraries client payload = .ok request)
    (reads : request.writeValues = none) :
    1 ≤ request.count ∧ request.count ≤ 2000 := by
  obtain ⟨document, _, accepted⟩ := parseRpcRequest_eq_ok_iff.mp parsed
  have asks := accepted.asks
  rw [reads] at asks
  generalize request.count = count at asks ⊢
  generalize request.converter = converter at asks
  cases asks with
  | read _ counted =>
    obtain ⟨atLeast, atMost⟩ := rpcCount_bounds counted
    rw [rpcMaxCount] at atMost
    split at atMost <;> omega

/-- How a message leads to a request to a modbus thread. -/
inductive Requests (libraries : RequestLibraries) (client : MqttClient)
    (message : MqttMessage) :
    MqttClient → String → ModbusRequest → Prop where
  | command {command : MqttObjectCommand} {registers : List UInt16} :
      command ∈ client.commands →
      command.modbusNetworkName ∈ client.networks →
      commandRegisters libraries command message.payload = .ok registers →
      Requests libraries client message client command.modbusNetworkName
        (.write (commandMessage command registers))
  | rpc {request : RpcRequest} :
      message.responseTopic ≠ "" →
      parseRpcRequest libraries client message.payload = .ok request →
      Requests libraries client message
        (client.addPending request message.responseTopic
          message.correlationData)
        request.networkName (request.message client.takeRpcId)

theorem onMessage_command {command : MqttObjectCommand}
    (found : client.findCommand message.topic = some command)
    (handled : client.onMessage libraries message =
      some (next, some (name, request))) :
    command.modbusNetworkName ∈ client.networks ∧ ∃ registers,
        commandRegisters libraries command message.payload = .ok registers ∧
        next = client ∧ name = command.modbusNetworkName ∧
        request = .write (commandMessage command registers) := by
  rw [onMessage, found] at handled
  dsimp only at handled
  split at handled
  · cases handled
  · rename_i known
    split at handled
    · rename_i registers converted
      cases handled
      exact ⟨not_not.mp known, registers, converted, rfl, rfl, rfl⟩
    · cases handled
    · cases handled
    · cases handled

theorem onMessage_rpc (absent : client.findCommand message.topic = none)
    (handled : client.onMessage libraries message =
      some (next, some (name, request))) :
    message.responseTopic ≠ "" ∧
      ∃ rpc, parseRpcRequest libraries client message.payload = .ok rpc ∧
        next = client.addPending rpc message.responseTopic
          message.correlationData ∧
        name = rpc.networkName ∧ request = rpc.message client.takeRpcId := by
  rw [onMessage, absent] at handled
  dsimp only at handled
  split at handled
  · rw [handleRpcRequest] at handled
    split at handled
    · cases handled
    · rename_i addressed
      split at handled
      · cases handled
      · rename_i rpc parsed
        cases handled
        exact ⟨addressed, rpc, parsed, rfl, rfl, rfl⟩
  · cases handled

theorem onMessage_requests (handled : client.onMessage libraries message =
      some (next, some (name, request))) :
    Requests libraries client message next name request := by
  cases found : client.findCommand message.topic with
  | some command =>
    obtain ⟨known, registers, converted, rfl, rfl, rfl⟩ :=
      onMessage_command found handled
    exact .command (List.mem_of_find?_eq_some found) known converted
  | none =>
    obtain ⟨addressed, rpc, parsed, rfl, rfl, rfl⟩ :=
      onMessage_rpc found handled
    exact .rpc addressed parsed

/-- The parts that are fixed once the configuration is loaded. -/
structure SameTables (before after : MqttClient) : Prop where
  networks : after.networks = before.networks
  objects : after.objects = before.objects
  commandObjects : after.commandObjects = before.commandObjects
  commands : after.commands = before.commands

namespace SameTables

theorem refl (client : MqttClient) : SameTables client client :=
  ⟨rfl, rfl, rfl, rfl⟩

theorem trans {first second third : MqttClient}
    (left : SameTables first second) (right : SameTables second third) :
    SameTables first third :=
  ⟨right.networks.trans left.networks, right.objects.trans left.objects,
    right.commandObjects.trans left.commandObjects,
    right.commands.trans left.commands⟩

theorem respond (item : QueueItem) (client : MqttClient) :
    SameTables client (respond item client).1 := by
  rcases respond_cases item client with unchanged | ⟨header, _, _, answered⟩
  · rw [unchanged]
    exact refl client
  · rw [answered]
    rcases answer_cases header.commandId item client with
      ⟨_, unchanged⟩ | ⟨pending, _, settled⟩
    · rw [unchanged]
      exact refl client
    · rw [settled]
      exact ⟨rfl, rfl, rfl, rfl⟩

theorem processModbusMessage (input : ProcessInput) (networkName : String)
    (item : QueueItem) (client : MqttClient) :
    SameTables client (processModbusMessage input networkName item client).1 := by
  obtain ⟨_, _, frame⟩ :=
    processModbusMessage_frame input networkName item client
  have responded := respond item client
  rw [frame]
  exact ⟨responded.networks, responded.objects, responded.commandObjects,
    responded.commands⟩

theorem onConnect (input : ProcessInput) (client : MqttClient) :
    SameTables client (onConnect input client).1 := by
  obtain ⟨_, _, frame⟩ := (onConnect_frame input client).1
  rw [frame]
  exact ⟨rfl, rfl, rfl, rfl⟩

theorem onMessage {request : Option (String × ModbusRequest)}
    (handled : client.onMessage libraries message = some (next, request)) :
    SameTables client next := by
  obtain ⟨_, _, _, rfl⟩ := onMessage_frame handled
  exact ⟨rfl, rfl, rfl, rfl⟩

end SameTables

/-- The parts of the client that requests are answered with. -/
def SameRpc (before after : MqttClient) : Prop :=
  after.nextRpcId = before.nextRpcId ∧
    after.pendingRpc = before.pendingRpc ∧ after.replies = before.replies

theorem OnlyObjects.sameRpc {before after : MqttClient}
    (changed : OnlyObjects before after) : SameRpc before after := by
  obtain ⟨_, _, rfl⟩ := changed
  exact ⟨rfl, rfl, rfl⟩

end MqttClient

namespace Gateway

variable {libraries : RequestLibraries}

inductive GatewayStep (libraries : RequestLibraries) (gateway : Gateway) :
    GatewayInput → Gateway → List GatewayEvent → Prop where
  | connected {input : ProcessInput} {client : MqttClient} :
      MqttClient.onConnect input gateway.client = (client, none) →
      GatewayStep libraries gateway (.brokerConnected input)
        ((gateway.setClient client).sendMqttNetworkIsUp true) []
  | disconnected :
      GatewayStep libraries gateway .brokerDisconnected
        ((gateway.setClient gateway.client.onDisconnect).sendMqttNetworkIsUp
          false) []
  | handled {message : MqttClient.MqttMessage} {client : MqttClient} :
      gateway.client.isConnected = true →
      gateway.client.onMessage libraries message = some (client, none) →
      GatewayStep libraries gateway (.message message)
        (gateway.setClient client) []
  | requested {message : MqttClient.MqttMessage} {client : MqttClient}
      {name : String} {request : ModbusRequest} :
      gateway.client.isConnected = true →
      gateway.client.onMessage libraries message =
        some (client, some (name, request)) →
      GatewayStep libraries gateway (.message message)
        ((gateway.setClient client).setThread name
          ((gateway.threads name).enqueue request))
        [.requested name request message]
  | processed {name : String} {input : ProcessInput} {item : QueueItem}
      {rest : List QueueItem} {client : MqttClient} :
      gateway.client.isConnected = true →
      name ∈ gateway.client.networks →
      (gateway.threads name).fromModbus = item :: rest →
      MqttClient.processModbusMessage input name item gateway.client =
        (client, none) →
      GatewayStep libraries gateway (.process name input)
        ((gateway.setClient client).setThread name
          { gateway.threads name with fromModbus := rest })
        [.processed name item]
  | thread {name : String} {input : ThreadInput} {next : ModbusThread}
      {events : List ThreadEvent} :
      name ∈ gateway.client.networks →
      ModbusThread.ThreadStep (gateway.threads name) input next events →
      GatewayStep libraries gateway (.thread name input)
        (gateway.setThread name next) (events.map (.thread name))

theorem unlessThrown_eq_some {result : MqttClient × Option GatewayException}
    {client : MqttClient} (kept : unlessThrown result = some client) :
    result = (client, none) := by
  obtain ⟨state, thrown⟩ := result
  cases thrown with
  | none =>
    cases kept
    rfl
  | some exception => cases kept

variable {gateway next : Gateway} {input : GatewayInput}
  {events : List GatewayEvent}

theorem step_cases
    (stepped : gateway.step libraries input = some (next, events)) :
    GatewayStep libraries gateway input next events := by
  unfold step at stepped
  cases input with
  | brokerConnected input =>
    obtain ⟨client, kept, same⟩ := Option.map_eq_some_iff.mp stepped
    cases same
    exact .connected (unlessThrown_eq_some kept)
  | brokerDisconnected =>
    cases stepped
    exact .disconnected
  | message message =>
    dsimp only at stepped
    split at stepped
    · rename_i online
      obtain ⟨⟨client, request⟩, handling, same⟩ :=
        Option.map_eq_some_iff.mp stepped
      cases request with
      | none =>
        cases same
        exact .handled online handling
      | some request =>
        cases same
        exact .requested online handling
    · cases stepped
  | process name input =>
    dsimp only at stepped
    split at stepped
    · rename_i ready
      split at stepped
      · cases stepped
      · rename_i item rest queued
        obtain ⟨client, kept, same⟩ := Option.map_eq_some_iff.mp stepped
        cases same
        exact .processed ready.1 ready.2 queued (unlessThrown_eq_some kept)
    · cases stepped
  | thread name input =>
    dsimp only at stepped
    split at stepped
    · rename_i known
      obtain ⟨⟨thread, logged⟩, threadStep, same⟩ :=
        Option.map_eq_some_iff.mp stepped
      cases same
      exact .thread known (ModbusThread.step_cases threadStep)
    · cases stepped

theorem GatewayStep.tables
    (step : GatewayStep libraries gateway input next events) :
    gateway.client.SameTables next.client := by
  cases step with
  | @connected input client connecting =>
    have same := MqttClient.SameTables.onConnect input gateway.client
    rw [connecting] at same
    exact same
  | disconnected => exact ⟨rfl, rfl, rfl, rfl⟩
  | handled _ handling => exact .onMessage handling
  | requested _ handling => exact .onMessage handling
  | @processed name input item rest client _ _ _ processing =>
    have same := MqttClient.SameTables.processModbusMessage input name item
      gateway.client
    rw [processing] at same
    exact same
  | thread _ _ => exact .refl gateway.client

/-- What a step does to the requests that await an answer. -/
inductive RpcStep (libraries : RequestLibraries) (gateway : Gateway) :
    GatewayInput → MqttClient → List GatewayEvent → Prop where
  | same {input : GatewayInput} {client : MqttClient}
      {events : List GatewayEvent} :
      gateway.client.SameRpc client →
      (∀ name request message, .requested name request message ∉ events) →
      (∀ name item, .processed name item ∉ events) →
      RpcStep libraries gateway input client events
  | lost :
      RpcStep libraries gateway .brokerDisconnected
        gateway.client.onDisconnect []
  | rejected {message : MqttClient.MqttMessage} {error : String} :
      RpcStep libraries gateway (.message message)
        (MqttClient.replyError 0 message.responseTopic
          message.correlationData error gateway.client).1 []
  | command {message : MqttClient.MqttMessage} {command : MqttObjectCommand}
      {registers : List UInt16} :
      command ∈ gateway.client.commands →
      RpcStep libraries gateway (.message message) gateway.client
        [.requested command.modbusNetworkName
          (.write (MqttClient.commandMessage command registers)) message]
  | asked {message : MqttClient.MqttMessage} {request : MqttClient.RpcRequest} :
      message.responseTopic ≠ "" →
      MqttClient.parseRpcRequest libraries gateway.client message.payload =
        .ok request →
      RpcStep libraries gateway (.message message)
        (gateway.client.addPending request message.responseTopic
          message.correlationData)
        [.requested request.networkName
          (request.message gateway.client.takeRpcId) message]
  | answered {name : String} {call : ProcessInput} {item : QueueItem}
      {client : MqttClient} :
      gateway.client.isConnected = true →
      (MqttClient.respond item gateway.client).1.SameRpc client →
      RpcStep libraries gateway (.process name call) client
        [.processed name item]

theorem GatewayStep.rpc {gateway next : Gateway} {input : GatewayInput}
    {events : List GatewayEvent}
    (step : GatewayStep libraries gateway input next events) :
    RpcStep libraries gateway input next.client events := by
  cases step with
  | @connected call client connecting =>
    have frame := (MqttClient.onConnect_frame call gateway.client).1
    rw [connecting] at frame
    exact .same frame.sameRpc (by simp) (by simp)
  | disconnected => exact .lost
  | @handled message client _ handling =>
    rw [MqttClient.onMessage] at handling
    split at handling
    · split at handling
      · rw [MqttClient.handleRpcRequest] at handling
        split at handling
        · cases handling
          exact .same ⟨rfl, rfl, rfl⟩ (by simp) (by simp)
        · split at handling
          · cases handling
            exact .rejected
          · cases handling
      · cases handling
        exact .same ⟨rfl, rfl, rfl⟩ (by simp) (by simp)
    · split at handling
      · cases handling
        exact .same ⟨rfl, rfl, rfl⟩ (by simp) (by simp)
      · split at handling <;> cases handling <;>
          exact .same ⟨rfl, rfl, rfl⟩ (by simp) (by simp)
  | requested _ handling =>
    cases MqttClient.onMessage_requests handling with
    | command listed _ _ => exact .command listed
    | rpc addressed parsed => exact .asked addressed parsed
  | @processed name call item rest client online _ _ processing =>
    have frame :=
      MqttClient.processModbusMessage_frame call name item gateway.client
    rw [processing] at frame
    exact .answered online frame.sameRpc
  | thread _ _ => exact .same ⟨rfl, rfl, rfl⟩ (by simp) (by simp)

theorem respond_nextRpcId (item : QueueItem) (client : MqttClient) :
    (MqttClient.respond item client).1.nextRpcId = client.nextRpcId := by
  rcases MqttClient.respond_cases item client with
    unchanged | ⟨header, _, _, answered⟩
  · rw [unchanged]
  · rw [answered]
    rcases MqttClient.answer_cases header.commandId item client with
      ⟨_, unchanged⟩ | ⟨pending, _, settled⟩
    · rw [unchanged]
    · rw [settled]
      rfl

theorem GatewayStep.nextRpcId
    (step : GatewayStep libraries gateway input next events)
    (nonpositive : gateway.client.nextRpcId ≤ 0) :
    next.client.nextRpcId ≤ 0 := by
  have change := step.rpc
  generalize next.client = client at change ⊢
  cases change with
  | same same _ _ => exact same.1.trans_le nonpositive
  | lost => exact nonpositive
  | rejected => exact nonpositive
  | command _ => exact nonpositive
  | asked _ _ =>
    have taken : gateway.client.takeRpcId ≤ 0 := by
      rw [MqttClient.takeRpcId]
      split <;> omega
    exact taken
  | answered _ same =>
    rw [same.1, respond_nextRpcId]
    exact nonpositive

/-- What a step does to one thread: nothing, a new request, a message taken
from its queue, or a step of its own. -/
inductive ThreadChange (libraries : RequestLibraries) (gateway : Gateway)
    (name : String) : ModbusThread → List GatewayEvent → Prop where
  | same {events : List GatewayEvent} :
      (∀ request message, .requested name request message ∉ events) →
      (∀ item, .processed name item ∉ events) →
      (∀ event, .thread name event ∉ events) →
      ThreadChange libraries gateway name (gateway.threads name) events
  | mqttState (isUp : Bool) :
      ThreadChange libraries gateway name
        ((gateway.threads name).enqueue (.mqttNetworkState isUp)) []
  | requested {message : MqttClient.MqttMessage} {client : MqttClient}
      {request : ModbusRequest} :
      MqttClient.Requests libraries gateway.client message client name request →
      ThreadChange libraries gateway name
        ((gateway.threads name).enqueue request) [.requested name request message]
  | processed {item : QueueItem} {rest : List QueueItem} :
      (gateway.threads name).fromModbus = item :: rest →
      ThreadChange libraries gateway name
        { gateway.threads name with fromModbus := rest }
        [.processed name item]
  | step {input : ThreadInput} {next : ModbusThread}
      {events : List ThreadEvent} :
      ModbusThread.ThreadStep (gateway.threads name) input next events →
      ThreadChange libraries gateway name next (events.map (.thread name))

theorem GatewayStep.change
    (step : GatewayStep libraries gateway input next events) (name : String) :
    ThreadChange libraries gateway name (next.threads name) events := by
  cases step with
  | connected _ => exact .mqttState true
  | disconnected => exact .mqttState false
  | handled _ _ => exact .same (by simp) (by simp) (by simp)
  | @requested message client other request _ handling =>
    by_cases here : name = other
    · subst here
      rw [setThread_self]
      exact .requested (MqttClient.onMessage_requests handling)
    · rw [setThread_of_ne _ here]
      exact .same (by simp [here]) (by simp) (by simp)
  | @processed other input item rest client _ _ queued _ =>
    by_cases here : name = other
    · subst here
      rw [setThread_self]
      exact .processed queued
    · rw [setThread_of_ne _ here]
      exact .same (by simp) (by simp [here]) (by simp)
  | @thread other input changed logged _ threadStep =>
    by_cases here : name = other
    · subst here
      rw [setThread_self]
      exact .step threadStep
    · rw [setThread_of_ne _ here]
      refine .same (by simp) (by simp) ?_
      intro event listed
      obtain ⟨_, _, same⟩ := List.mem_map.mp listed
      cases same
      exact here rfl

end Gateway

end MqmGateway
