import MqmGateway.Gateway.History

/-!
# Requests and the ids they are known by

The client numbers the RPC requests it accepts.  The number travels with the
command that is made of the request and comes back with its result, so it is
all that ties a result to the one who asked for it.
-/

namespace MqmGateway

def ModbusRequest.header : ModbusRequest → Option ModbusMessageBase
  | .write message => some message.toModbusMessageBase
  | .read message => some message
  | _ => none

/-- The id that an RPC request was given.  A message on the topic of a command
is not an RPC request. -/
def GatewayEvent.rpcId (client : MqttClient) : GatewayEvent → Option Int
  | .requested _ request message =>
    if client.findCommand message.topic = none then
      request.header.map (·.commandId)
    else
      none
  | _ => none

namespace MqttClient

theorem RpcRequest.header_message (request : RpcRequest) (id : Int) :
    ∃ count, (request.message id).header = some
      { register := request.registerNumber
        count
        registerType := request.registerType
        slaveId := request.slaveId
        commandId := id } := by
  rw [RpcRequest.message]
  split <;> exact ⟨_, rfl⟩

theorem addPending_self (client : MqttClient) (request : RpcRequest)
    (responseTopic : String) (correlationData : Payload) :
    ∃ pending,
      (client.addPending request responseTopic correlationData).pendingRpc
        client.takeRpcId = some pending ∧
      pending.networkName = request.networkName ∧
      pending.responseTopic = responseTopic ∧
      pending.correlationData = correlationData :=
  ⟨_, Function.update_self .., rfl, rfl, rfl⟩

theorem SameTables.findCommand {before after : MqttClient}
    (same : SameTables before after) (topic : String) :
    after.findCommand topic = before.findCommand topic := by
  rw [MqttClient.findCommand, same.commands]
  rfl

end MqttClient

namespace ModbusExecutor

/-- What executing a command sends carries the header of the command, and
values are those of the call it made. -/
theorem Execution.sent_header {executor next : ModbusExecutor}
    {input : ExecuteInput} {events : List ExecutorEvent}
    (execution : Execution executor input next events)
    (counted : ∀ reg, (executor.polls reg).lastValues.length =
      reg.registerCount)
    (headed : ∀ command, 0 < executor.commands.pendingCount command →
      command.Headed)
    {command : RegisterCommand} {item : QueueItem}
    (sent : .sent command item ∈ events) :
    0 < executor.commands.pendingCount command ∧
      item.header = some command.header ∧
      ∀ values, item = .registerValues values → ∃ retriesLeft,
          .issued command (.ok values.registers) retriesLeft ∈ events := by
  cases execution.report sent with
  | @read reg values retriesLeft issued length =>
    refine ⟨execution.pending issued, ?_, ?_⟩
    · rw [counted] at length
      simp [QueueItem.header, RegisterCommand.header, RegisterPoll.header,
        RegisterPoll.valuesMessage, MsgRegisterValues.create, length]
    · intro reported same
      cases same
      exact ⟨retriesLeft, issued⟩
  | @readFailed reg commandId retriesLeft _ issued told =>
    have pending := execution.pending issued
    have same : commandId = reg.commandId := by
      rcases told with ⟨scheduled, rfl⟩ | ⟨same, _⟩
      · exact (headed _ pending scheduled).symm
      · exact same
    refine ⟨pending, ?_, by simp⟩
    simp [QueueItem.header, RegisterCommand.header, RegisterPoll.header,
      RegisterPoll.failedMessage, counted, same]
  | @written cmd message retriesLeft issued returned =>
    have pending := execution.pending issued
    obtain ⟨echo, same, header⟩ := headed _ pending
    cases returned.symm.trans same
    refine ⟨pending, congrArg some header, ?_⟩
    intro values equal
    cases equal
    exact ⟨retriesLeft, issued⟩
  | writeFailed _ issued => exact ⟨execution.pending issued, rfl, by simp⟩

end ModbusExecutor

namespace Gateway

/-- The ids given to the RPC requests of a history, in order. -/
def rpcIds (config : Configuration) (history : List GatewayEvent) : List Int :=
  history.filterMap (·.rpcId config.client)

@[simp] theorem rpcIds_append (config : Configuration)
    (history events : List GatewayEvent) :
    rpcIds config (history ++ events) =
      rpcIds config history ++ rpcIds config events :=
  List.filterMap_append

variable {events : List GatewayEvent} {message : MqttClient.MqttMessage}
  {id : Int} {name : String} {command : RegisterCommand} {item : QueueItem}
  {header : ModbusMessageBase}

theorem rpcIds_of_none {config : Configuration}
    (silent : ∀ name request message,
      .requested name request message ∉ events) :
    rpcIds config events = [] := by
  apply List.filterMap_eq_nil_iff.mpr
  intro event listed
  cases event with
  | requested name request message =>
    exact absurd listed (silent name request message)
  | _ => rfl

theorem rpcId_given {config : Configuration}
    (absent : config.client.findCommand message.topic = none) (name : String)
    (request : MqttClient.RpcRequest) (id : Int) :
    (GatewayEvent.requested name (request.message id) message).rpcId
      config.client = some id := by
  obtain ⟨count, header⟩ := request.header_message id
  rw [GatewayEvent.rpcId, if_pos absent, header]
  rfl

theorem rpcIds_given {config : Configuration}
    (absent : config.client.findCommand message.topic = none) (name : String)
    (request : MqttClient.RpcRequest) (id : Int) :
    rpcIds config [.requested name (request.message id) message] = [id] :=
  List.filterMap_cons_some (rpcId_given absent name request id)

/-- What a step does to the ids and to what is remembered under them. -/
inductive IdStep (libraries : RequestLibraries) (config : Configuration)
    (client : MqttClient) : MqttClient → List GatewayEvent → Prop where
  | kept {next : MqttClient} {events : List GatewayEvent} :
      rpcIds config events = [] →
      next.nextRpcId = client.nextRpcId →
      (∀ id, next.pendingRpc id = client.pendingRpc id ∨
        next.pendingRpc id = none) →
      IdStep libraries config client next events
  | given {message : MqttClient.MqttMessage} {request : MqttClient.RpcRequest} :
      config.client.findCommand message.topic = none →
      message.responseTopic ≠ "" →
      MqttClient.parseRpcRequest libraries client message.payload =
        .ok request →
      IdStep libraries config client
        (client.addPending request message.responseTopic
          message.correlationData)
        [.requested request.networkName (request.message client.takeRpcId)
          message]

variable {libraries : RequestLibraries} {config : Configuration}

theorem respond_pendingRpc (item : QueueItem) (client : MqttClient) (id : Int) :
    (MqttClient.respond item client).1.pendingRpc id = client.pendingRpc id ∨
      (MqttClient.respond item client).1.pendingRpc id = none := by
  rcases MqttClient.respond_cases item client with
    unchanged | ⟨header, _, _, answered⟩
  · exact .inl (by rw [unchanged])
  · rw [answered]
    rcases MqttClient.answer_cases header.commandId item client with
      ⟨_, unchanged⟩ | ⟨pending, _, settled⟩
    · exact .inl (by rw [unchanged])
    · rw [settled]
      by_cases same : id = header.commandId
      · right
        rw [same]
        exact Function.update_self ..
      · left
        exact Function.update_of_ne same ..

theorem GatewayStep.ids {gateway next : Gateway} {input : GatewayInput}
    (step : GatewayStep libraries gateway input next events)
    (tables : config.client.SameTables gateway.client) :
    IdStep libraries config gateway.client next.client events := by
  have quiet (silent : ∀ name request message,
      .requested name request message ∉ events) :
      IdStep libraries config gateway.client next.client events := by
    have change := step.rpc
    generalize next.client = client at change ⊢
    cases change with
    | same same _ _ =>
      exact .kept (rpcIds_of_none silent) same.1
        fun id => .inl (congrFun same.2.1 id)
    | lost => exact .kept rfl rfl fun _ => .inr rfl
    | rejected => exact .kept rfl rfl fun _ => .inl rfl
    | command _ => exact absurd List.mem_cons_self (silent _ _ _)
    | asked _ _ => exact absurd List.mem_cons_self (silent _ _ _)
    | @answered name call item client online same =>
      refine .kept rfl (same.1.trans (respond_nextRpcId item _)) fun id => ?_
      rw [same.2.1]
      exact respond_pendingRpc item gateway.client id
  cases step with
  | @requested message client name request _ handling =>
    cases found : gateway.client.findCommand message.topic with
    | some command =>
      obtain ⟨_, registers, _, rfl, rfl, rfl⟩ :=
        MqttClient.onMessage_command found handling
      refine .kept ?_ rfl fun _ => .inl rfl
      rw [tables.findCommand] at found
      simp [rpcIds, GatewayEvent.rpcId, found]
    | none =>
      obtain ⟨addressed, rpc, parsed, rfl, rfl, rfl⟩ :=
        MqttClient.onMessage_rpc found handling
      rw [tables.findCommand] at found
      exact .given found addressed parsed
  | _ => exact quiet (by simp)

variable {now : Int} {created : RegisterPoll → Int}
  {allowed : Gateway → List GatewayEvent → GatewayInput → Prop}
  {gateway : Gateway} {history : List GatewayEvent}

/-- `next` is the last id given out; the ids count down from minus one. -/
structure IdsGiven (ids : List Int) (next : Int) : Prop where
  counted : next = -ids.length
  range : ∀ id ∈ ids, next ≤ id ∧ id < 0
  nodup : ids.Nodup

theorem IdsGiven.take {ids : List Int} {client : MqttClient}
    (given : IdsGiven ids client.nextRpcId)
    (room : client.nextRpcId ≠ -2147483648) :
    client.takeRpcId ∉ ids ∧
      IdsGiven (ids ++ [client.takeRpcId]) client.takeRpcId := by
  have counted := given.counted
  have taken : client.takeRpcId = client.nextRpcId - 1 := by
    rw [MqttClient.takeRpcId, if_neg room]
  have fresh : client.takeRpcId ∉ ids := by
    intro listed
    have above := (given.range _ listed).1
    omega
  refine ⟨fresh, ?_, ?_, ?_⟩
  · rw [List.length_append, List.length_singleton]
    omega
  · intro id listed
    rcases List.mem_append.mp listed with earlier | last
    · have range := given.range id earlier
      omega
    · cases List.mem_singleton.mp last
      omega
  · rw [List.nodup_append]
    refine ⟨given.nodup, List.nodup_singleton _, ?_⟩
    intro id listed last isLast same
    cases List.mem_singleton.mp isLast
    exact fresh (same ▸ listed)

theorem IdStep.given_append {client next : MqttClient}
    (change : IdStep libraries config client next events)
    (given : IdsGiven (rpcIds config history) client.nextRpcId)
    (room : rpcIds config events ≠ [] → client.nextRpcId ≠ -2147483648) :
    IdsGiven (rpcIds config (history ++ events)) next.nextRpcId := by
  rw [rpcIds_append]
  cases change with
  | kept none same _ =>
    rw [none, same, List.append_nil]
    exact given
  | @given message request absent _ _ =>
    rw [rpcIds_given absent] at room ⊢
    exact (given.take (room (List.cons_ne_nil _ _))).2

theorem run_ids
    (run : Runs (step libraries) allowed (start config now created) gateway
      history) (few : (rpcIds config history).length < 2 ^ 31) :
    IdsGiven (rpcIds config history) gateway.client.nextRpcId := by
  induction run with
  | start => exact ⟨rfl, by simp [rpcIds], List.nodup_nil⟩
  | @step gateway next history events _ before _ stepped induction =>
    rw [rpcIds_append, List.length_append] at few
    have earlier := induction (by omega)
    refine ((step_cases stepped).ids (run_tables before)).given_append earlier
      fun _ => ?_
    have counted := earlier.counted
    omega

/-- A request of the history has the id, and it is known whom to answer. -/
def Remembers (config : Configuration) (history : List GatewayEvent) (id : Int)
    (pending : PendingRpcRequest) : Prop :=
  ∃ request message,
    .requested pending.networkName request message ∈ history ∧
    (GatewayEvent.requested pending.networkName request message).rpcId
      config.client = some id ∧
    pending.responseTopic = message.responseTopic ∧
    pending.correlationData = message.correlationData

theorem Remembers.append {pending : PendingRpcRequest}
    (remembers : Remembers config history id pending)
    (events : List GatewayEvent) :
    Remembers config (history ++ events) id pending := by
  obtain ⟨request, message, listed, rest⟩ := remembers
  exact ⟨request, message, List.mem_append_left events listed, rest⟩

theorem run_pending
    (run : Runs (step libraries) allowed (start config now created) gateway
      history) {pending : PendingRpcRequest}
    (waiting : gateway.client.pendingRpc id = some pending) :
    Remembers config history id pending := by
  induction run with
  | start => cases waiting
  | @step gateway next history events _ before _ stepped induction =>
    have change := (step_cases stepped).ids (run_tables before)
    generalize next.client = client at change waiting
    cases change with
    | kept _ _ same =>
      rcases same id with kept | forgotten
      · exact (induction (kept.symm.trans waiting)).append events
      · rw [forgotten] at waiting
        cases waiting
    | @given message request absent _ _ =>
      rw [MqttClient.addPending] at waiting
      dsimp only at waiting
      by_cases new : id = gateway.client.takeRpcId
      · rw [new, Function.update_self] at waiting
        cases waiting
        rw [new]
        exact ⟨_, message, List.mem_append_right _ List.mem_cons_self,
          rpcId_given absent _ request _, rfl, rfl⟩
      · rw [Function.update_of_ne new] at waiting
        exact (induction waiting).append _

theorem mem_sentItems (sent : .sent command item ∈ busHistory name history) :
    item ∈ sentItems name history := by
  rw [busHistory_eq] at sent
  obtain ⟨event, happened, logged⟩ := List.mem_filterMap.mp sent
  rw [sentItems_eq]
  refine List.mem_filterMap.mpr ⟨event, happened, ?_⟩
  cases event with
  | bus event =>
    cases logged
    rfl
  | networkState isUp => cases logged

theorem exists_sent (listed : item ∈ sentItems name history)
    (known : item.header = some header) :
    ∃ command, .sent command item ∈ busHistory name history := by
  rw [sentItems_eq] at listed
  obtain ⟨event, happened, sent⟩ := List.mem_filterMap.mp listed
  cases event with
  | bus event =>
    cases event with
    | sent command message =>
      cases sent
      rw [busHistory_eq]
      exact ⟨command, List.mem_filterMap.mpr ⟨_, happened, rfl⟩⟩
    | _ => cases sent
  | networkState isUp =>
    cases sent
    cases known

theorem run_sent
    (run : Runs (step libraries) allowed (start config now created) gateway
      history)
    (sent : .sent command item ∈ busHistory name history) :
    command.HasOrigin (config.specification name) (Asked history name) ∧
      item.header = some command.header ∧
      ∀ values, item = .registerValues values →
        ∃ retriesLeft, .issued command (.ok values.registers) retriesLeft ∈
          busHistory name history := by
  obtain ⟨before, earlier, later, call, executor, logged, returned, reached,
    rfl, executed, here, kept⟩ := run_traffic run sent rfl
  obtain ⟨pending, header, reported⟩ :=
    (ModbusExecutor.executeNext_execution executed).sent_header
      (run_lastValues_length reached name)
      (fun command pending =>
        ((run_origins reached name).commands command pending).headed) here
  refine ⟨?_, header, ?_⟩
  · exact ((run_asked reached name).commands command pending).mono
      fun _ asked => asked.append later
  · intro values same
    obtain ⟨retriesLeft, issued⟩ := reported values same
    exact ⟨retriesLeft, kept _ issued⟩

theorem asked_of_isRpc
    (run : Runs (step libraries) allowed (start config now created) gateway
      history)
    (origin : command.HasOrigin (config.specification name)
      (Asked history name))
    (rpc : command.header.isRpc = true) :
    ∃ request message, .requested name request message ∈ history ∧
      request.header = some command.header := by
  cases command with
  | poll reg =>
    rcases origin with
      ⟨owner, poll, _, address, rfl⟩ | ⟨owner, message, asked, rfl⟩
    · simp [RegisterCommand.header, RegisterPoll.header, ModbusMessageBase.isRpc,
        ModbusThread.specifiedPoll] at rpc
    · have count := (offered_of_asked run asked).read_count
      obtain ⟨source, listed⟩ := asked
      refine ⟨.read message, source, listed, ?_⟩
      have whole : (message.count.toNat : Int) = message.count :=
        Int.toNat_of_nonneg (by omega)
      simp [ModbusRequest.header, RegisterCommand.header, RegisterPoll.header,
        ModbusThread.requestedPoll, whole]
  | write cmd =>
    obtain ⟨owner, message, asked, rfl⟩ := origin
    have count := (offered_of_asked run asked).write_count
    obtain ⟨source, listed⟩ := asked
    refine ⟨.write message, source, listed, ?_⟩
    simp [ModbusRequest.header, RegisterCommand.header,
      RegisterWrite.failedMessage, ModbusThread.requestedWrite, ← count]

theorem run_rpcId
    (commandIds : ∀ command ∈ config.commands, 0 < command.commandId)
    (run : Runs (step libraries) allowed (start config now created) gateway
      history) {request : ModbusRequest}
    (listed : .requested name request message ∈ history)
    (known : request.header = some header) (rpc : header.isRpc = true) :
    (GatewayEvent.requested name request message).rpcId config.client =
      some header.commandId := by
  obtain ⟨client, next, same, _, handling⟩ := run_requested run listed
  cases found : client.findCommand message.topic with
  | some command =>
    obtain ⟨_, registers, _, _, _, rfl⟩ :=
      MqttClient.onMessage_command found handling
    cases known
    have positive : 0 < command.commandId := by
      apply commandIds
      rw [same.findCommand] at found
      exact List.mem_of_find?_eq_some found
    have negative : command.commandId < 0 := of_decide_eq_true rpc
    omega
  | none =>
    rw [same.findCommand] at found
    rw [GatewayEvent.rpcId, if_pos found, known]
    rfl

theorem run_result
    (commandIds : ∀ command ∈ config.commands, 0 < command.commandId)
    (run : Runs (step libraries) allowed (start config now created) gateway
      history)
    (listed : item ∈ sentItems name history)
    (known : item.header = some header) (rpc : header.isRpc = true) :
    ∃ command request message, .sent command item ∈ busHistory name history ∧
      command.header = header ∧
      .requested name request message ∈ history ∧
      request.header = some header ∧
      (GatewayEvent.requested name request message).rpcId config.client =
        some header.commandId := by
  obtain ⟨command, sent⟩ := exists_sent listed known
  obtain ⟨origin, same, _⟩ := run_sent run sent
  cases known.symm.trans same
  obtain ⟨request, message, requested, asked⟩ := asked_of_isRpc run origin rpc
  exact ⟨command, request, message, sent, rfl, requested, asked,
    run_rpcId commandIds run requested asked rpc⟩

theorem eq_of_rpcId (distinct : (rpcIds config history).Nodup)
    {event other : GatewayEvent} (listed : event ∈ history)
    (otherListed : other ∈ history)
    (named : event.rpcId config.client = some id)
    (otherNamed : other.rpcId config.client = some id) : event = other := by
  by_contra different
  have pairs := List.pairwise_filterMap.mp distinct
  have symmetric : Std.Symm fun first second : GatewayEvent =>
      ∀ id, first.rpcId config.client = some id →
        ∀ other, second.rpcId config.client = some other → id ≠ other := by
    constructor
    intro first second apart id secondNamed other firstNamed same
    exact apart other firstNamed id secondNamed same.symm
  exact pairs.forall listed otherListed different id named id otherNamed rfl

end Gateway

end MqmGateway
