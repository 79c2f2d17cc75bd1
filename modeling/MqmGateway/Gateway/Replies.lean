import MqmGateway.Gateway.RequestIds
import MqmGateway.Gateway.WriteTypes

/-!
# Replies never cross

Results come back in an order that has nothing to do with that of the
requests, and a lost MQTT session forgets requests whose commands are still
under way.  Ids that are given out once keep all of them apart.
-/

namespace MqmGateway

namespace Gateway

variable {libraries : RequestLibraries}

/-- What a step adds to the replies. -/
inductive ReplyStep (gateway : Gateway) (next : MqttClient) :
    List GatewayEvent → Prop where
  | silent {events : List GatewayEvent} :
      next.replies = gateway.client.replies →
      ReplyStep gateway next events
  | rejected {reply : RpcReply} :
      reply.error ≠ none →
      next.replies = gateway.client.replies ++ [(0, reply)] →
      ReplyStep gateway next []
  | answered {name : String} {item : QueueItem} {rest : List QueueItem}
      {header : ModbusMessageBase} {pending : PendingRpcRequest} :
      (gateway.threads name).fromModbus = item :: rest →
      item.header = some header →
      header.isRpc = true →
      gateway.client.pendingRpc header.commandId = some pending →
      next.replies = gateway.client.replies ++
        [(header.commandId, MqttClient.replyTo pending item)] →
      ReplyStep gateway next [.processed name item]

theorem GatewayStep.replies {gateway next : Gateway} {input : GatewayInput}
    {events : List GatewayEvent}
    (step : GatewayStep libraries gateway input next events) :
    ReplyStep gateway next.client events := by
  have quiet (silent : ∀ name item, .processed name item ∉ events) :
      ReplyStep gateway next.client events := by
    have change := step.rpc
    generalize next.client = client at change ⊢
    cases change with
    | same same _ _ => exact .silent same.2.2
    | lost => exact .silent rfl
    | @rejected message error =>
      exact .rejected (Option.some_ne_none error) rfl
    | command _ => exact .silent rfl
    | asked _ _ => exact .silent rfl
    | answered _ _ => exact absurd List.mem_cons_self (silent _ _)
  cases step with
  | @processed name call item rest client _ _ queued processing =>
    have same := (MqttClient.processModbusMessage_frame call name item
      gateway.client).sameRpc.2.2
    rw [processing] at same
    rcases MqttClient.respond_cases item gateway.client with
      unchanged | ⟨header, known, asked, answered⟩
    · rw [unchanged] at same
      exact .silent same
    · rcases MqttClient.answer_cases header.commandId item
        gateway.client with ⟨_, unchanged⟩ | ⟨pending, waiting, settled⟩
      · rw [answered, unchanged] at same
        exact .silent same
      · rw [answered, settled] at same
        exact .answered queued known asked waiting same
  | _ => exact quiet (by simp)

variable {config : Configuration} {now : Int} {created : RegisterPoll → Int}
  {gateway : Gateway} {history : List GatewayEvent}

/-- The values that a network returned for a request are replied to those who
asked. -/
structure Delivers (config : Configuration) (gateway : Gateway)
    (history : List GatewayEvent) (name : String) (values : MsgRegisterValues)
    (reply : RpcReply) : Prop where
  /-- One request has the id of the values.  It was made to this network, for
  these registers, by the one who gets the reply. -/
  asked : ∃ request message,
    .requested name request message ∈ history ∧
    request.header = some values.toModbusMessageBase ∧
    reply.responseTopic = message.responseTopic ∧
    reply.correlationData = message.correlationData ∧
    ∀ event ∈ history, event.rpcId config.client = some values.commandId →
      event = .requested name request message
  /-- The command made of it returned these values. -/
  executed : ∃ command retriesLeft,
    command.header = values.toModbusMessageBase ∧
    .issued command (.ok values.registers) retriesLeft ∈ busHistory name history
  /-- The payload is made of them. -/
  carried : ∃ pending,
    gateway.client.pendingRpc values.commandId = some pending ∧
    MqttClient.rpcPayload pending values.registers = .ok reply.payload

/-- The run lost the MQTT session after it gave out the id. -/
def LostSession (libraries : RequestLibraries) (config : Configuration)
    (now : Int) (created : RegisterPoll → Int) (gateway : Gateway)
    (history : List GatewayEvent) (id : Int) : Prop :=
  ∃ before lost earlier later,
    Runs (step libraries) (fun _ _ _ => True) (start config now created) before
      earlier ∧
    before.step libraries .brokerDisconnected = some (lost, []) ∧
    Runs (step libraries) (fun _ _ _ => True) lost gateway later ∧
    history = earlier ++ later ∧ id ∈ rpcIds config earlier

/-- What a step from a state reached with `history` does to requests and
replies. -/
structure RepliesApart (libraries : RequestLibraries) (config : Configuration)
    (now : Int) (created : RegisterPoll → Int) (gateway : Gateway)
    (history : List GatewayEvent) (next : Gateway)
    (events : List GatewayEvent) : Prop where
  ids : ∀ id ∈ rpcIds config (history ++ events), id < 0 ∧
    ∀ command ∈ config.commands, id ≠ command.commandId
  distinct : (rpcIds config (history ++ events)).Nodup
  /-- Nothing waits under an id that is given out. -/
  vacant : ∀ id ∈ rpcIds config events, gateway.client.pendingRpc id = none
  replies : next.client.replies = gateway.client.replies ∨
    ∃ id reply,
      next.client.replies = gateway.client.replies ++ [(id, reply)] ∧
      (reply.error = none → ∃ name values,
        events = [.processed name (.registerValues values)] ∧
        id = values.commandId ∧
        Delivers config gateway history name values reply)
  /-- Results of requests made before the session was lost go nowhere. -/
  lost : ∀ name item header, .processed name item ∈ events →
    item.header = some header →
    LostSession libraries config now created gateway history header.commandId →
    next.client.replies = gateway.client.replies

theorem LostSession.pendingRpc {id : Int}
    (lost : LostSession libraries config now created gateway history id)
    (few : (rpcIds config history).length < 2 ^ 31) :
    gateway.client.pendingRpc id = none := by
  obtain ⟨before, after, earlier, later, front, disconnected, back, rfl,
    given⟩ := lost
  have restarted : Runs (step libraries) (fun _ _ _ => True)
      (start config now created) after earlier := by
    have extended := Runs.step front trivial disconnected
    rwa [List.append_nil] at extended
  induction back with
  | start =>
    cases disconnected
    rfl
  | @step gateway next history events _ back _ stepped induction =>
    have whole := restarted.append back
    rw [← List.append_assoc, rpcIds_append, List.length_append] at few
    have change := (step_cases stepped).ids (run_tables whole)
    generalize next.client = client at change ⊢
    have forgotten := induction (by omega)
    cases change with
    | kept _ _ same =>
      rcases same id with kept | none
      · exact kept.trans forgotten
      · exact none
    | @given message request absent _ _ =>
      rw [rpcIds_given absent, List.length_singleton] at few
      have ids := run_ids whole (by omega)
      have counted := ids.counted
      have fresh := (ids.take (by omega)).1
      have different : id ≠ gateway.client.takeRpcId := by
        intro same
        rw [rpcIds_append] at fresh
        exact fresh (same ▸ List.mem_append_left _ given)
      exact (Function.update_of_ne different ..).trans forgotten

theorem delivers_of_values
    (commandIds : ∀ command ∈ config.commands, 0 < command.commandId)
    (run : Runs (step libraries) (fun _ _ _ => True) (start config now created)
      gateway history) (distinct : (rpcIds config history).Nodup)
    {name : String} {values : MsgRegisterValues} {rest : List QueueItem}
    {pending : PendingRpcRequest}
    (queued : (gateway.threads name).fromModbus =
      .registerValues values :: rest)
    (rpc : values.isRpc = true)
    (waiting : gateway.client.pendingRpc values.commandId = some pending)
    (succeeded : (MqttClient.replyTo pending (.registerValues values)).error =
      none) :
    Delivers config gateway history name values
      (MqttClient.replyTo pending (.registerValues values)) := by
  have listed : .registerValues values ∈ sentItems name history := by
    rw [run_queue run name, queued]
    simp
  obtain ⟨command, request, message, sent, same, requested, asked, named⟩ :=
    run_result commandIds run listed rfl rpc
  obtain ⟨other, source, otherRequested, otherNamed, topic, correlation⟩ :=
    run_pending run waiting
  cases eq_of_rpcId distinct requested otherRequested named otherNamed
  obtain ⟨replyTopic, replyCorrelation⟩ :=
    MqttClient.replyTo_address pending (.registerValues values)
  refine ⟨⟨request, message, requested, asked, replyTopic.trans topic,
    replyCorrelation.trans correlation, ?_⟩, ?_, ?_⟩
  · intro event listed eventNamed
    exact eq_of_rpcId distinct listed requested eventNamed named
  · obtain ⟨retriesLeft, issued⟩ := (run_sent run sent).2.2 values rfl
    exact ⟨command, retriesLeft, same, issued⟩
  · obtain ⟨_, equal, payload⟩ := MqttClient.replyTo_error succeeded
    cases equal
    exact ⟨pending, waiting, payload⟩

/-- Every step of every run keeps the replies apart. -/
theorem replies_never_cross
    (commandIds : ∀ command ∈ config.commands, 0 < command.commandId)
    (run : Runs (step libraries) (fun _ _ _ => True) (start config now created)
      gateway history) {input : GatewayInput} {next : Gateway}
    {events : List GatewayEvent}
    (stepped : gateway.step libraries input = some (next, events))
    (few : (rpcIds config (history ++ events)).length < 2 ^ 31) :
    RepliesApart libraries config now created gateway history next events := by
  have given := run_ids (.step run trivial stepped) few
  have distinct : (rpcIds config history).Nodup := by
    have whole := given.nodup
    rw [rpcIds_append] at whole
    exact (List.nodup_append.mp whole).1
  have replied := (step_cases stepped).replies
  refine ⟨?_, given.nodup, ?_, ?_, ?_⟩
  · intro id listed
    refine ⟨(given.range id listed).2, ?_⟩
    intro command known same
    have negative := (given.range id listed).2
    have positive := commandIds command known
    omega
  · intro id listed
    by_contra occupied
    obtain ⟨pending, waiting⟩ := Option.ne_none_iff_exists'.mp occupied
    obtain ⟨request, message, requested, named, _⟩ := run_pending run waiting
    have earlier : id ∈ rpcIds config history :=
      List.mem_filterMap.mpr ⟨_, requested, named⟩
    have whole := given.nodup
    rw [rpcIds_append] at whole
    exact (List.nodup_append.mp whole).2.2 id earlier id listed rfl
  · cases replied with
    | silent same => exact .inl same
    | @rejected reply failed added =>
      exact .inr ⟨0, reply, added, fun succeeded => absurd succeeded failed⟩
    | @answered name item rest header pending queued known rpc waiting added =>
      refine .inr ⟨_, _, added, ?_⟩
      intro succeeded
      obtain ⟨values, rfl, _⟩ := MqttClient.replyTo_error succeeded
      cases known
      exact ⟨name, values, rfl, rfl, delivers_of_values commandIds run
        distinct queued rpc waiting succeeded⟩
  · intro name item header processed known lost
    cases replied with
    | silent same => exact same
    | rejected _ _ => cases processed
    | answered _ itemKnown _ waiting _ =>
      cases List.mem_singleton.mp processed
      cases known.symm.trans itemKnown
      have shorter : (rpcIds config history).length < 2 ^ 31 := by
        rw [rpcIds_append, List.length_append] at few
        omega
      rw [lost.pendingRpc shorter] at waiting
      cases waiting

/-- Two networks that are only used for RPC requests. -/
def deskConfig : Configuration :=
  { networks := [{ name := "north" }, { name := "south" }]
    polls := fun _ => []
    objects := []
    commands := []
    rpcMode := .readWrite
    rpcRequestTopic := "rpc" }

/-- Every payload asks for the first register of slave 1 of the network it
names. -/
def deskLibraries : RequestLibraries :=
  { parseJson := fun payload => .ok (.object
      [("network", .string (String.ofList payload)), ("slave", .integer 1),
        ("register", .string "1")])
    createConverter := fun _ => .error ""
    describe := fun _ => "" }

def rpcMessage (network responseTopic : String) : MqttClient.MqttMessage :=
  { topic := "rpc"
    payload := network.toList
    responseTopic
    correlationData := responseTopic.toList }

/-- The second of two requests is answered first. -/
theorem replies_never_cross_overtaken : ∃ gateway history next events,
      Runs (step deskLibraries) (fun _ _ _ => True)
        (start deskConfig 0 fun _ => 0) gateway history ∧
      gateway.step deskLibraries (.process "south" quietBroker) =
        some (next, events) ∧
      rpcIds deskConfig history = [-1, -2] ∧
      next.client.replies = [(-2,
        { responseTopic := "second"
          payload := ['7']
          correlationData := "second".toList
          error := none })] ∧
      RepliesApart deskLibraries deskConfig 0 (fun _ => 0) gateway history next
        events := by
  obtain ⟨gateway, history, run, given, answered⟩ := Runs.exists_of_replay
    [.brokerConnected quietBroker,
      .message (rpcMessage "north" "first"),
      .message (rpcMessage "south" "second"),
      .thread "south" (.dispatch true 0),
      .thread "south" (.dispatch true 0),
      .thread "south" (.connect 0),
      .thread "south" (.execute (answering fun _ => 7)),
      .process "south" quietBroker]
    (fun gateway history => rpcIds deskConfig history = [-1, -2] ∧
      (gateway.step deskLibraries (.process "south" quietBroker)).any
        (fun result => decide (rpcIds deskConfig result.2 = [] ∧
          result.1.client.replies = [(-2,
            { responseTopic := "second"
              payload := ['7']
              correlationData := "second".toList
              error := none })])) = true)
    (show (Runs.replay (step deskLibraries) (fun _ _ _ => True) _
      (start deskConfig 0 fun _ => 0, [])).any _ = true by decide +kernel)
  obtain ⟨⟨next, events⟩, stepped, checked⟩ :=
    (Option.any_eq_true _ _).mp answered
  obtain ⟨none, replies⟩ := of_decide_eq_true checked
  refine ⟨gateway, history, next, events, run, stepped, given, replies,
    replies_never_cross (by simp [deskConfig]) run stepped ?_⟩
  rw [rpcIds_append, given, none]
  decide

end Gateway

end MqmGateway
