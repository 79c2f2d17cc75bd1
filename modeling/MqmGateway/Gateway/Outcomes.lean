import MqmGateway.Gateway.Attempts
import MqmGateway.Gateway.Replies

/-!
# Every request is answered once

The reply to a request is made of the first message about it.  A read is
reported when it is over.  Of a write every failed attempt is reported, so the
reply is that of the first attempt, whatever the later ones do.
-/

namespace MqmGateway

def ExecutorEvent.failsWrite (id : Int) : ExecutorEvent → Bool
  | .issued (.write cmd) .failed _ => cmd.commandId = id
  | _ => false

def QueueItem.hasId (id : Int) (item : QueueItem) : Bool :=
  item.header.any fun header => header.commandId = id

namespace MqttClient

/-- A reply without error can be made of the message, if it has values. -/
def replyable (pending : PendingRpcRequest) : QueueItem → Bool
  | .registerValues values => converts pending values.registers
  | _ => true

def repliesTo (client : MqttClient) (id : Int) : List RpcReply :=
  (client.replies.filter fun entry => entry.1 = id).map Prod.snd

theorem repliesTo_append {client next : MqttClient} {other : Int}
    {reply : RpcReply}
    (added : next.replies = client.replies ++ [(other, reply)]) (id : Int) :
    next.repliesTo id =
      client.repliesTo id ++ if other = id then [reply] else [] := by
  rw [repliesTo, added, List.filter_append, List.map_append]
  by_cases same : other = id <;> simp [repliesTo, same]

theorem respond_others {item : QueueItem} {id : Int}
    (other : item.hasId id = false) (client : MqttClient) :
    (respond item client).1.pendingRpc id = client.pendingRpc id ∧
      (respond item client).1.repliesTo id = client.repliesTo id := by
  rcases respond_cases item client with unchanged | ⟨header, known, _, answered⟩
  · rw [unchanged]
    exact ⟨rfl, rfl⟩
  · have different : header.commandId ≠ id := by
      simpa [QueueItem.hasId, known] using other
    rw [answered]
    rcases answer_cases header.commandId item client with
      ⟨_, unchanged⟩ | ⟨pending, _, settled⟩
    · rw [unchanged]
      exact ⟨rfl, rfl⟩
    · rw [settled]
      refine ⟨Function.update_of_ne different.symm .., ?_⟩
      rw [repliesTo_append rfl, if_neg different, List.append_nil]

end MqttClient

namespace Gateway

/-- The MQTT session is not lost while the request with the id is in flight. -/
def SessionKept (id : Int) (gateway : Gateway) : GatewayInput → Prop
  | .brokerDisconnected => (gateway.client.pendingRpc id).isNone = true
  | _ => True

/-- The first message about the request with the id tells its result: there
are ids left, a write that has failed goes on failing, and the converter of a
read makes a text of its values. -/
def ReportsResult (id : Int) (gateway : Gateway) (history : List GatewayEvent) :
    GatewayInput → Prop
  | .message _ => gateway.client.nextRpcId ≠ -2147483648
  | .thread name (.execute call) =>
    ((gateway.threads name).executor.due call.delayCheck).any (·.hasId id) =
      true →
    (busHistory name history).any (·.failsWrite id) = true →
    call.answer.fails = true
  | .process name _ =>
    ∀ item ∈ (gateway.threads name).fromModbus.head?,
      ∀ pending ∈ gateway.client.pendingRpc id,
        item.hasId id = true → MqttClient.replyable pending item = true
  | _ => True

instance (id : Int) (gateway : Gateway) (input : GatewayInput) :
    Decidable (SessionKept id gateway input) := by
  refine input.casesOn ?_ ?_ ?_ ?_ ?_ <;> intros <;> dsimp only [SessionKept] <;>
    infer_instance

instance (id : Int) (gateway : Gateway) (history : List GatewayEvent)
    (input : GatewayInput) :
    Decidable (ReportsResult id gateway history input) := by
  refine input.casesOn ?_ ?_ ?_ ?_ fun _ input =>
    input.casesOn ?_ ?_ ?_ ?_ ?_ ?_ <;>
  intros <;> dsimp only [ReportsResult] <;> infer_instance

def Succeeded (id : Int) (history : List ExecutorEvent) : Prop :=
  ∃ command values retriesLeft,
    .issued command (.ok values) retriesLeft ∈ history ∧
    command.header.commandId = id

/-- The operation with the id has failed and there are no retries left. -/
def Exhausted (id : Int) (history : List ExecutorEvent) : Prop :=
  ∃ command, .issued command .failed 0 ∈ history ∧
    command.header.commandId = id

/-- A failure of the operation with the id is reported to the main thread. -/
def FailureReported (id : Int) (history : List ExecutorEvent) : Prop :=
  ∃ command retriesLeft, .issued command .failed retriesLeft ∈ history ∧
    command.header.commandId = id ∧ (command.isPoll = true → retriesLeft = 0)

variable {libraries : RequestLibraries} {config : Configuration} {now : Int}
  {created : RegisterPoll → Int} {gateway : Gateway}
  {history : List GatewayEvent} {id : Int}

/-- The runs that the reply to the request with the id is right in. -/
abbrev Settles (id : Int) (gateway : Gateway) (history : List GatewayEvent)
    (input : GatewayInput) : Prop :=
  SessionKept id gateway input ∧ ReportsResult id gateway history input

theorem settles_ids
    (run : Runs (step libraries) (Settles id) (start config now created)
      gateway history) :
    IdsGiven (rpcIds config history) gateway.client.nextRpcId := by
  induction run with
  | start => exact ⟨rfl, by simp [rpcIds], List.nodup_nil⟩
  | step before permitted stepped induction =>
    have step := step_cases stepped
    refine (step.ids (run_tables before)).given_append induction ?_
    intro some
    cases step with
    | requested _ _ => exact permitted.2
    | _ => exact absurd (rpcIds_of_none (by simp)) some

/-- An operation that succeeds has not been reported as a failure. -/
theorem settles_apart
    (commandIds : ∀ command ∈ config.commands, 0 < command.commandId)
    (negative : id < 0)
    (run : Runs (step libraries) (Settles id) (start config now created)
      gateway history) (name : String)
    (succeeded : Succeeded id (busHistory name history)) :
    ¬FailureReported id (busHistory name history) := by
  induction run with
  | start =>
    obtain ⟨_, _, _, issued, _⟩ := succeeded
    cases issued
  | @step gateway next history events input before permitted stepped
      induction =>
      intro failed
      obtain ⟨command, values, left, okIssued, same⟩ := succeeded
      obtain ⟨other, otherLeft, failIssued, otherSame, final⟩ := failed
      have distinct := (settles_ids before).nodup
      have asked (command : RegisterCommand)
          (same : command.header.commandId = id) :
          command.header.isRpc = true :=
        decide_eq_true (same ▸ negative)
      rw [busHistory_append] at okIssued failIssued
      rcases List.mem_append.mp okIssued with okEarlier | okNew
      · rcases List.mem_append.mp failIssued with failEarlier | failNew
        · exact induction ⟨command, values, left, okEarlier, same⟩
            ⟨other, otherLeft, failEarlier, otherSame, final⟩
        · obtain ⟨call, executor, logged, returned, _, executed, rfl⟩ :=
            (step_cases stepped).executed failNew rfl
          have pending :=
            (ModbusExecutor.executeNext_execution executed).pending failNew
          have unfinished := run_attempts commandIds before distinct name
            (asked other otherSame) pending (same.trans otherSame.symm)
            okEarlier
          cases unfinished
      · obtain ⟨call, executor, logged, returned, rfl, executed, rfl⟩ :=
          (step_cases stepped).executed okNew rfl
        have execution := ModbusExecutor.executeNext_execution executed
        rcases List.mem_append.mp failIssued with failEarlier | failNew
        · have pending := execution.pending okNew
          have unfinished := run_attempts commandIds before distinct name
            (asked command same) pending (otherSame.trans same.symm)
            failEarlier
          cases other with
          | poll reg =>
            rw [final rfl] at unfinished
            cases unfinished
          | write cmd =>
            have due := ModbusExecutor.due_of_issued executed okNew
            have fails := permitted.2 (by rw [due]; exact decide_eq_true same)
              (List.any_eq_true.mpr
                ⟨_, failEarlier, decide_eq_true otherSame⟩)
            rw [execution.answers_of_ok okNew] at fails
            cases fails
        · obtain ⟨_, impossible, _⟩ := execution.only_issued okNew failNew
          cases impossible

/-- How far the client has come with the request that has the id. -/
inductive Stage (config : Configuration) (history : List GatewayEvent)
    (id : Int) (client : MqttClient) : Prop where
  | unknown :
      id ∉ rpcIds config history →
      client.pendingRpc id = none →
      client.repliesTo id = [] →
      Stage config history id client
  | waiting {pending : PendingRpcRequest} :
      Remembers config history id pending →
      client.pendingRpc id = some pending →
      client.repliesTo id = [] →
      (∀ name item, .processed name item ∈ history → item.hasId id = false) →
      Stage config history id client
  | answered {pending : PendingRpcRequest} {name : String} {item : QueueItem} :
      Remembers config history id pending →
      client.pendingRpc id = none →
      client.repliesTo id = [MqttClient.replyTo pending item] →
      .processed name item ∈ history →
      item.hasId id = true →
      MqttClient.replyable pending item = true →
      Stage config history id client

variable {pending : PendingRpcRequest} {events : List GatewayEvent}
  {command : RegisterCommand}

theorem Remembers.mem_rpcIds (remembers : Remembers config history id pending) :
    id ∈ rpcIds config history := by
  obtain ⟨request, message, listed, named, _⟩ := remembers
  exact List.mem_filterMap.mpr ⟨_, listed, named⟩

variable {client : MqttClient} {name : String} {item : QueueItem}
  {message : MqttClient.MqttMessage}

theorem Stage.keep {next : MqttClient} (stage : Stage config history id client)
    (pending : next.pendingRpc id = client.pendingRpc id)
    (replies : next.repliesTo id = client.repliesTo id)
    (notGiven : id ∉ rpcIds config events)
    (unprocessed : client.pendingRpc id ≠ none →
      ∀ name item, .processed name item ∈ events → item.hasId id = false) :
    Stage config (history ++ events) id next := by
  cases stage with
  | unknown absent vacant silent =>
    refine .unknown ?_ (pending.trans vacant) (replies.trans silent)
    rw [rpcIds_append]
    exact fun listed => (List.mem_append.mp listed).elim absent notGiven
  | waiting remembers held silent earlier =>
    refine .waiting (remembers.append events) (pending.trans held)
      (replies.trans silent) ?_
    intro name item listed
    rcases List.mem_append.mp listed with before | new
    · exact earlier name item before
    · exact unprocessed (by rw [held]; exact Option.some_ne_none _) name item
        new
  | answered remembers vacant replied processed named replyable =>
    exact .answered (remembers.append events) (pending.trans vacant)
      (replies.trans replied) (List.mem_append_left events processed) named
      replyable

/-- A message about the request answers it, unless it has been answered. -/
theorem Stage.process (stage : Stage config history id gateway.client)
    (online : gateway.client.isConnected = true)
    (free : gateway.client.commandObjects id = none) (negative : id < 0)
    (known : id ∈ rpcIds config history) (named : item.hasId id = true)
    (replyable : ∀ pending, gateway.client.pendingRpc id = some pending →
      MqttClient.replyable pending item = true)
    (responded : (MqttClient.respond item gateway.client).1.SameRpc client) :
    Stage config (history ++ [.processed name item]) id client := by
  obtain ⟨header, itemKnown, same⟩ := (Option.any_eq_true _ _).mp named
  have same : header.commandId = id := of_decide_eq_true same
  have answered := MqttClient.respond_eq online itemKnown
    (decide_eq_true (same ▸ negative)) (same ▸ free)
  rw [answered, same] at responded
  rcases MqttClient.answer_cases id item gateway.client with
    ⟨vacant, unchanged⟩ | ⟨pending, waiting, settled⟩
  · rw [unchanged] at responded
    apply stage.keep
    · rw [responded.2.1]
    · rw [MqttClient.repliesTo, responded.2.2]
      rfl
    · simp [rpcIds, GatewayEvent.rpcId]
    · intro occupied
      exact absurd vacant occupied
  · rw [settled] at responded
    cases stage with
    | unknown absent _ _ => exact absurd known absent
    | answered _ vacant _ _ _ _ =>
      rw [vacant] at waiting
      cases waiting
    | waiting remembers held silent _ =>
      cases held.symm.trans waiting
      refine .answered (remembers.append _) ?_ ?_
        (List.mem_append_right _ List.mem_cons_self) named
        (replyable _ waiting)
      · rw [responded.2.1]
        exact Function.update_self ..
      · rw [MqttClient.repliesTo_append responded.2.2, if_pos rfl, silent]
        rfl

theorem commandObjects_eq_none
    (commandIds : ∀ command ∈ config.commands, 0 < command.commandId)
    (tables : config.client.SameTables gateway.client) (negative : id < 0) :
    gateway.client.commandObjects id = none := by
  rw [tables.commandObjects]
  have absent : config.commands.find? (fun command =>
      command.commandId = id) = none := by
    apply List.find?_eq_none.mpr
    intro command listed same
    have positive := commandIds command listed
    have equal : command.commandId = id := of_decide_eq_true same
    omega
  exact congrArg (Option.bind · _) absent

theorem mem_rpcIds_of_sent
    (commandIds : ∀ command ∈ config.commands, 0 < command.commandId)
    (run : Runs (step libraries) (Settles id) (start config now created)
      gateway history) (negative : id < 0)
    (listed : item ∈ sentItems name history) (named : item.hasId id = true) :
    id ∈ rpcIds config history := by
  obtain ⟨header, known, same⟩ := (Option.any_eq_true _ _).mp named
  have same : header.commandId = id := of_decide_eq_true same
  obtain ⟨_, _, _, _, _, requested, _, rpcId⟩ := run_result commandIds run
    listed known (decide_eq_true (same ▸ negative))
  exact List.mem_filterMap.mpr ⟨_, requested, same ▸ rpcId⟩

/-- A request takes an id that was not given before; it waits if the id is its
own. -/
theorem Stage.ask {request : MqttClient.RpcRequest}
    (stage : Stage config history id client)
    (fresh : client.takeRpcId ∉ rpcIds config history)
    (named : (GatewayEvent.requested request.networkName
      (request.message client.takeRpcId) message).rpcId config.client =
        some client.takeRpcId)
    (unprocessed : id ∉ rpcIds config history →
      ∀ name item, .processed name item ∈ history → item.hasId id = false) :
    Stage config (history ++ [.requested request.networkName
      (request.message client.takeRpcId) message]) id
        (client.addPending request message.responseTopic
          message.correlationData) := by
  by_cases same : client.takeRpcId = id
  · rw [same] at fresh
    cases stage with
    | unknown absent _ silent =>
      obtain ⟨pending, held, network, topic, correlation⟩ :=
        client.addPending_self request message.responseTopic
          message.correlationData
      rw [same] at held
      refine .waiting ⟨request.message client.takeRpcId, message, ?_, ?_,
        topic, correlation⟩ held silent ?_
      · rw [network]
        exact List.mem_append_right _ List.mem_cons_self
      · rw [network]
        exact named.trans (congrArg some same)
      · intro name item listed
        exact unprocessed absent name item (by simpa using listed)
    | waiting remembers _ _ _ => exact absurd remembers.mem_rpcIds fresh
    | answered remembers _ _ _ _ _ => exact absurd remembers.mem_rpcIds fresh
  · apply stage.keep
    · exact Function.update_of_ne (Ne.symm same) ..
    · rfl
    · rw [rpcIds, List.filterMap_cons_some named]
      exact fun given => same (List.mem_singleton.mp given).symm
    · simp

theorem settles_stage
    (commandIds : ∀ command ∈ config.commands, 0 < command.commandId)
    (negative : id < 0)
    (run : Runs (step libraries) (Settles id) (start config now created)
      gateway history) : Stage config history id gateway.client := by
  induction run with
  | start => exact .unknown (by simp [rpcIds]) rfl rfl
  | @step gateway next history events input before permitted stepped
      induction =>
      have whole := Runs.step before permitted stepped
      have step := step_cases stepped
      have tables := run_tables before
      have change := step.rpc
      generalize next.client = client at change ⊢
      cases change with
      | same same silent unprocessed =>
        apply induction.keep
        · rw [same.2.1]
        · rw [MqttClient.repliesTo, same.2.2]
          rfl
        · rw [rpcIds_of_none silent]
          exact List.not_mem_nil
        · intro _ name item listed
          exact absurd listed (unprocessed name item)
      | lost =>
        apply induction.keep
        · exact (Option.isNone_iff_eq_none.mp permitted.1).symm
        · rfl
        · exact List.not_mem_nil
        · simp
      | rejected =>
        apply induction.keep
        · rfl
        · rw [MqttClient.repliesTo_append rfl, if_neg negative.ne',
            List.append_nil]
        · exact List.not_mem_nil
        · simp
      | @command message command registers listed =>
        apply induction.keep rfl rfl
        · intro given
          obtain ⟨event, member, named⟩ := List.mem_filterMap.mp given
          cases List.mem_singleton.mp member
          rw [GatewayEvent.rpcId] at named
          split at named
          · have same : command.commandId = id := Option.some.inj named
            rw [tables.commands] at listed
            have positive := commandIds command listed
            omega
          · cases named
        · simp
      | @asked message request addressed parsed =>
        have ids := settles_ids before
        obtain ⟨fresh, given⟩ := ids.take permitted.2
        have taken : gateway.client.takeRpcId < 0 :=
          (given.range _ (List.mem_append_right _ List.mem_cons_self)).2
        obtain ⟨count, header⟩ :=
          request.header_message gateway.client.takeRpcId
        have named := run_rpcId commandIds whole
          (List.mem_append_right _ List.mem_cons_self) header
          (decide_eq_true taken)
        exact induction.ask fresh named fun absent name item listed => by
          by_contra mentioned
          exact absent (mem_rpcIds_of_sent commandIds before negative
            (sent_of_processed before listed) (by simpa using mentioned))
      | @answered name call item client online same =>
        cases step with
        | processed _ _ queued _ =>
          by_cases named : item.hasId id = true
          · have listed : item ∈ sentItems name history := by
              rw [run_queue before name, queued]
              simp
            exact induction.process online
              (commandObjects_eq_none commandIds tables negative) negative
              (mem_rpcIds_of_sent commandIds before negative listed named)
              named
              (fun pending waiting => permitted.2 item
                (by rw [queued]; rfl) pending waiting named) same
          · have other : item.hasId id = false := by simpa using named
            obtain ⟨pending, replies⟩ :=
              MqttClient.respond_others other gateway.client
            apply induction.keep
            · rw [same.2.1, pending]
            · rw [MqttClient.repliesTo, same.2.2]
              exact replies
            · simp [rpcIds, GatewayEvent.rpcId]
            · intro _ network message listed
              cases List.mem_singleton.mp listed
              exact other

/-- The executor has finished the command of the request, and the main thread
has taken all that was reported about it. -/
structure Finished (gateway : Gateway) (history : List GatewayEvent)
    (name : String) (id : Int) : Prop where
  completed : ∃ command ∈ (busHistory name history).filterMap
    (·.completedCommand), command.header.commandId = id
  taken : ∀ item ∈ (gateway.threads name).fromModbus, item.hasId id = false

/-- The one reply to a request tells how it ended. -/
structure AnsweredOnce (gateway : Gateway) (history : List GatewayEvent)
    (name : String) (message : MqttClient.MqttMessage) (id : Int)
    (reply : RpcReply) : Prop where
  once : gateway.client.repliesTo id = [reply]
  removed : gateway.client.pendingRpc id = none
  responseTopic : reply.responseTopic = message.responseTopic
  correlationData : reply.correlationData = message.correlationData
  failed : reply.error ≠ none ↔ Exhausted id (busHistory name history)
  succeeded : reply.error = none ↔ Succeeded id (busHistory name history)
  empty : reply.error ≠ none → reply.payload = []
  nonempty : reply.error = none → reply.payload ≠ []

/-- A request with a response topic is rejected with one reply that has an
error and no payload, or it is passed on without a reply. -/
def AcceptsOrRejects (libraries : RequestLibraries) (gateway : Gateway)
    (message : MqttClient.MqttMessage) (next : Gateway)
    (events : List GatewayEvent) : Prop :=
  match MqttClient.parseRpcRequest libraries gateway.client message.payload with
  | .error text =>
    events = [] ∧ next.client.pendingRpc = gateway.client.pendingRpc ∧
      next.client.replies = gateway.client.replies ++ [(0,
        { responseTopic := message.responseTopic
          payload := []
          correlationData := message.correlationData
          error := some text })]
  | .ok request =>
    events = [.requested request.networkName
      (request.message gateway.client.takeRpcId) message] ∧
      (next.client.pendingRpc gateway.client.takeRpcId).isSome = true ∧
      next.client.replies = gateway.client.replies

theorem acceptsOrRejects {next : Gateway}
    (stepped : gateway.step libraries (.message message) = some (next, events))
    (rpc : gateway.client.rpcMode ≠ .disabled ∧
      gateway.client.rpcRequestTopic = message.topic)
    (absent : gateway.client.findCommand message.topic = none)
    (addressed : message.responseTopic ≠ "") :
    AcceptsOrRejects libraries gateway message next events := by
  have handling : gateway.client.onMessage libraries message =
      some (gateway.client.handleRpcRequest libraries message.payload
        message.responseTopic message.correlationData) := by
    rw [MqttClient.onMessage, absent]
    exact if_pos rpc
  rw [MqttClient.handleRpcRequest, if_neg addressed] at handling
  unfold AcceptsOrRejects
  cases parsed : MqttClient.parseRpcRequest libraries gateway.client
      message.payload with
  | error text =>
    rw [parsed] at handling
    cases step_cases stepped with
    | handled _ handled =>
      cases handling.symm.trans handled
      exact ⟨rfl, rfl, rfl⟩
    | requested _ handled => cases handling.symm.trans handled
  | ok request =>
    rw [parsed] at handling
    cases step_cases stepped with
    | handled _ handled => cases handling.symm.trans handled
    | requested _ handled =>
      cases handling.symm.trans handled
      refine ⟨rfl, ?_, rfl⟩
      obtain ⟨pending, held, _⟩ := gateway.client.addPending_self request
        message.responseTopic message.correlationData
      exact Option.isSome_of_eq_some held

theorem exists_issued_of_completed {bus : List ExecutorEvent}
    (completed : command ∈ bus.filterMap (·.completedCommand)) :
    ∃ outcome retriesLeft, .issued command outcome retriesLeft ∈ bus ∧
      outcome.finishes retriesLeft = true := by
  obtain ⟨event, logged, ended⟩ := List.mem_filterMap.mp completed
  cases event with
  | issued source outcome retriesLeft =>
    rw [ExecutorEvent.completedCommand] at ended
    split at ended
    · rename_i finishes
      cases ended
      exact ⟨outcome, retriesLeft, logged, finishes⟩
    · cases ended
  | _ => cases ended

theorem exists_processed
    (run : Runs (step libraries) (Settles id) (start config now created)
      gateway history) (negative : id < 0)
    (finished : Finished gateway history name id) :
    ∃ item, .processed name item ∈ history ∧ item.hasId id = true := by
  obtain ⟨⟨command, completed, same⟩, taken⟩ := finished
  obtain ⟨outcome, retriesLeft, issued, finishes⟩ :=
    exists_issued_of_completed completed
  obtain ⟨item, sent⟩ := run_reported run (decide_eq_true (same ▸ negative))
    issued finishes
  have named : item.hasId id = true := by
    rw [QueueItem.hasId, (run_sent run sent).2.1]
    exact decide_eq_true same
  refine ⟨item, ?_, named⟩
  have listed := mem_sentItems sent
  rw [run_queue run name] at listed
  rcases List.mem_append.mp listed with processed | queued
  · obtain ⟨event, happened, here⟩ := List.mem_filterMap.mp processed
    cases event with
    | processed network message =>
      rw [GatewayEvent.processedItem] at here
      split at here
      · rename_i equal
        cases here
        exact equal ▸ happened
      · cases here
    | _ => cases here
  · rw [taken item queued] at named
    cases named

/-- What is replied to a finished request and how it ended. -/
theorem verdict
    (commandIds : ∀ command ∈ config.commands, 0 < command.commandId)
    (run : Runs (step libraries) (Settles id) (start config now created)
      gateway history) (negative : id < 0)
    (finished : Finished gateway history name id)
    (sent : .sent command item ∈ busHistory name history)
    (same : command.header.commandId = id)
    (replyable : MqttClient.replyable pending item = true) :
    (Succeeded id (busHistory name history) ∧
        ¬Exhausted id (busHistory name history) ∧
        (MqttClient.replyTo pending item).error = none ∧
        (MqttClient.replyTo pending item).payload ≠ []) ∨
      (Exhausted id (busHistory name history) ∧
        ¬Succeeded id (busHistory name history) ∧
        (MqttClient.replyTo pending item).error ≠ none ∧
        (MqttClient.replyTo pending item).payload = []) := by
  have rpc : command.header.isRpc = true := decide_eq_true (same ▸ negative)
  have apart := settles_apart commandIds negative run name
  have reported (exhausted : Exhausted id (busHistory name history)) :
      FailureReported id (busHistory name history) := by
    obtain ⟨other, issued, otherSame⟩ := exhausted
    exact ⟨other, 0, issued, otherSame, fun _ => rfl⟩
  obtain ⟨⟨other, completed, otherSame⟩, _⟩ := finished
  obtain ⟨outcome, retriesLeft, issued, finishes⟩ :=
    exists_issued_of_completed completed
  cases outcome with
  | ok values =>
    have succeeded : Succeeded id (busHistory name history) :=
      ⟨other, values, retriesLeft, issued, otherSame⟩
    refine .inl ⟨succeeded, fun failed => apart succeeded (reported failed),
      ?_⟩
    cases item with
    | registerValues values => exact MqttClient.replyTo_values replyable
    | _ =>
      obtain ⟨left, failed, final⟩ := run_failure run rpc sent (by simp)
      exact absurd ⟨command, left, failed, same, final⟩ (apart succeeded)
  | failed =>
    have exhausted : retriesLeft = 0 := of_decide_eq_true finishes
    have failed : Exhausted id (busHistory name history) :=
      ⟨other, exhausted ▸ issued, otherSame⟩
    have unsuccessful : ¬Succeeded id (busHistory name history) :=
      fun succeeded => apart succeeded (reported failed)
    refine .inr ⟨failed, unsuccessful, MqttClient.replyTo_failure pending ?_⟩
    intro values equal
    obtain ⟨left, read⟩ := (run_sent run sent).2.2 values equal
    exact unsuccessful ⟨command, values.registers, left, read, same⟩
  | threw => cases finishes

/-- The reply to a finished request. -/
theorem exists_answeredOnce
    (commandIds : ∀ command ∈ config.commands, 0 < command.commandId)
    (run : Runs (step libraries) (Settles id) (start config now created)
      gateway history) {request : ModbusRequest}
    (requested : .requested name request message ∈ history)
    (named : (GatewayEvent.requested name request message).rpcId config.client =
      some id)
    (finished : Finished gateway history name id) :
    ∃ reply, AnsweredOnce gateway history name message id reply := by
  have ids := settles_ids run
  have given : id ∈ rpcIds config history :=
    List.mem_filterMap.mpr ⟨_, requested, named⟩
  have negative := (ids.range id given).2
  obtain ⟨reported, processed, reportedNamed⟩ :=
    exists_processed run negative finished
  cases settles_stage commandIds negative run with
  | unknown absent _ _ => exact absurd given absent
  | waiting _ _ _ unprocessed =>
    rw [unprocessed name reported processed] at reportedNamed
    cases reportedNamed
  | @answered pending network item remembers vacant replied itemProcessed
      itemNamed replyable =>
      obtain ⟨other, source, otherRequested, otherNamed, topic, correlation⟩ :=
        remembers
      cases eq_of_rpcId ids.nodup requested otherRequested named otherNamed
      obtain ⟨header, known, same⟩ := (Option.any_eq_true _ _).mp itemNamed
      have same : header.commandId = id := of_decide_eq_true same
      obtain ⟨command, _, _, sent, headed, resultRequested, _, resultNamed⟩ :=
        run_result commandIds run (sent_of_processed run itemProcessed) known
          (decide_eq_true (same ▸ negative))
      rw [same] at resultNamed
      cases eq_of_rpcId ids.nodup requested resultRequested named resultNamed
      obtain ⟨replyTopic, replyCorrelation⟩ :=
        MqttClient.replyTo_address pending item
      have ended := verdict commandIds run negative finished sent
        (headed ▸ same) replyable
      refine ⟨MqttClient.replyTo pending item, replied, vacant,
        replyTopic.trans topic, replyCorrelation.trans correlation, ?_, ?_, ?_,
        ?_⟩
      all_goals
        rcases ended with ⟨done, notFailed, noError, text⟩ |
          ⟨failed, notDone, error, noText⟩
      all_goals tauto

/-- In the runs in which the first message about a request tells its result,
the request is rejected or answered once, and the reply is true. -/
theorem answeredOnce_of_reportsResult
    (commandIds : ∀ command ∈ config.commands, 0 < command.commandId)
    (run : Runs (step libraries)
      (fun gateway history input => SessionKept id gateway input ∧
        ReportsResult id gateway history input)
      (start config now created) gateway history) :
    (∀ name request message, .requested name request message ∈ history →
      (GatewayEvent.requested name request message).rpcId config.client =
        some id →
      Finished gateway history name id →
      ∃ reply, AnsweredOnce gateway history name message id reply) ∧
    ∀ message next events,
      gateway.step libraries (.message message) = some (next, events) →
      gateway.client.rpcMode ≠ .disabled ∧
        gateway.client.rpcRequestTopic = message.topic →
      gateway.client.findCommand message.topic = none →
      message.responseTopic ≠ "" →
      AcceptsOrRejects libraries gateway message next events := by
  refine ⟨?_, ?_⟩
  · intro name request message requested named finished
    exact exists_answeredOnce commandIds run requested named finished
  · intro message next events stepped rpc absent addressed
    exact acceptsOrRejects stepped rpc absent addressed

/-- A request to `north`, a first attempt that fails and a retry that
succeeds. -/
def retriedInputs : List GatewayInput :=
  [.brokerConnected quietBroker,
    .message (rpcMessage "north" "desk"),
    .thread "north" (.dispatch true 0),
    .thread "north" (.dispatch true 0),
    .thread "north" (.connect 0),
    .thread "north" (.execute silentDevice),
    .thread "north" (.execute (answering fun _ => 7))]

def deskRead : ModbusRequest :=
  .read
    { register := 0
      count := 1
      registerType := .holding
      slaveId := 1
      commandId := -1 }

/-- A read that succeeds on its retry is answered with the value. -/
theorem answeredOnce_retried_read : ∃ gateway history reply,
      Runs (step deskLibraries)
        (fun gateway history input => SessionKept (-1) gateway input ∧
          ReportsResult (-1) gateway history input)
        (start deskConfig 0 fun _ => 0) gateway history ∧
      .requested "north" deskRead (rpcMessage "north" "desk") ∈ history ∧
      AnsweredOnce gateway history "north" (rpcMessage "north" "desk") (-1)
        reply ∧
      reply.error = none ∧ reply.payload = ['7'] := by
  obtain ⟨gateway, history, run, requested, completed, taken, replied⟩ :=
    Runs.exists_of_replay
      (retriedInputs ++ [.process "north" quietBroker,
        .process "north" quietBroker])
      (fun gateway history =>
        .requested "north" deskRead (rpcMessage "north" "desk") ∈ history ∧
        (∃ command ∈ (busHistory "north" history).filterMap
          (·.completedCommand), command.header.commandId = -1) ∧
        (∀ item ∈ (gateway.threads "north").fromModbus,
          item.hasId (-1) = false) ∧
        gateway.client.repliesTo (-1) =
          [{ responseTopic := "desk"
             payload := ['7']
             correlationData := "desk".toList
             error := none }])
      (show (Runs.replay (step deskLibraries)
        (fun gateway history input => SessionKept (-1) gateway input ∧
          ReportsResult (-1) gateway history input) _
        (start deskConfig 0 fun _ => 0, [])).any _ = true by decide +kernel)
  obtain ⟨reply, answered⟩ :=
    (answeredOnce_of_reportsResult (by simp [deskConfig]) run).1 "north"
      deskRead _ requested rfl ⟨completed, taken⟩
  cases replied.symm.trans answered.once
  exact ⟨gateway, history, _, run, requested, answered, rfl, rfl⟩

def deskWrites : RequestLibraries :=
  { deskLibraries with
    parseJson := fun payload => .ok (.object
      [("network", .string (String.ofList payload)), ("slave", .integer 1),
        ("register", .string "1"), ("value", .integer 7)]) }

def deskWrite : MsgRegisterValues :=
  .create 1 .holding 0 [7] (-1) .auto

/-- The first attempt at a write fails and the retry succeeds.  The reply is
an error. -/
theorem retried_write_answered_with_error : ∃ gateway history,
      Runs (step deskWrites)
        (fun gateway _ input => SessionKept (-1) gateway input)
        (start deskConfig 0 fun _ => 0) gateway history ∧
      .requested "north" (.write deskWrite) (rpcMessage "north" "desk") ∈
        history ∧
      Finished gateway history "north" (-1) ∧
      Succeeded (-1) (busHistory "north" history) ∧
      gateway.client.repliesTo (-1) =
        [{ responseTopic := "desk"
           payload := []
           correlationData := "desk".toList
           error := some "modbus write failed" }] ∧
      ∀ reply, ¬AnsweredOnce gateway history "north"
        (rpcMessage "north" "desk") (-1) reply := by
  obtain ⟨gateway, history, run, requested, completed, taken, written,
    replied⟩ :=
    Runs.exists_of_replay
      (retriedInputs ++ [.process "north" quietBroker,
        .process "north" quietBroker, .process "north" quietBroker])
      (fun gateway history =>
        .requested "north" (.write deskWrite) (rpcMessage "north" "desk") ∈
          history ∧
        (∃ command ∈ (busHistory "north" history).filterMap
          (·.completedCommand), command.header.commandId = -1) ∧
        (∀ item ∈ (gateway.threads "north").fromModbus,
          item.hasId (-1) = false) ∧
        .issued (.write ((deskConfig.thread 0 (fun _ => 0)
          "north").requestedWrite deskWrite)) (.ok [7]) 1 ∈
            busHistory "north" history ∧
        gateway.client.repliesTo (-1) =
          [{ responseTopic := "desk"
             payload := []
             correlationData := "desk".toList
             error := some "modbus write failed" }])
      (show (Runs.replay (step deskWrites)
        (fun gateway _ input => SessionKept (-1) gateway input) _
        (start deskConfig 0 fun _ => 0, [])).any _ = true by decide +kernel)
  have succeeded : Succeeded (-1) (busHistory "north" history) :=
    ⟨_, _, _, written, rfl⟩
  refine ⟨gateway, history, run, requested, ⟨completed, taken⟩, succeeded,
    replied, ?_⟩
  intro reply answered
  cases replied.symm.trans answered.once
  cases answered.succeeded.mpr succeeded

end Gateway

end MqmGateway
