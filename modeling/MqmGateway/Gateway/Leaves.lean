import MqmGateway.Gateway.History
import MqmGateway.Gateway.Routing

/-!
# What the leaves of the objects show

The leaves of a network change only when the main thread processes a message
of that network.  What one observes of a leaf is therefore what the latest
processed message that concerns its object told about it.
-/

namespace MqmGateway

/-- Only its own thread announces the state of a network. -/
def QueueItem.IsFor (name : String) : QueueItem → Prop
  | .modbusNetworkState network _ => network = name
  | _ => True

variable {item : QueueItem} {events : List ExecutorEvent} {β : Type}

theorem MqttClient.leafUpdate_of_ne {name : String}
    {ident : MqttObjectRegisterIdent} (origin : item.IsFor name)
    (different : name ≠ ident.networkName) (value : MqttObjectRegisterValue) :
    (leafUpdate name item ident value).1 = value := by
  cases item with
  | registerValues message =>
    simp [leafUpdate, LeafUpdate.registerValues,
      MqttObjectRegisterIdent.sameDevice, different]
  | registerReadFailed message | registerWriteFailed message =>
    simp [leafUpdate, LeafUpdate.registersReadFailed,
      MqttObjectRegisterIdent.sameDevice, different]
  | modbusNetworkState network isUp =>
    have same : network = name := origin
    simp [leafUpdate, LeafUpdate.modbusNetworkState, same, different]

theorem ExecutorEvent.exists_sent
    (listed : item ∈ events.filterMap (·.sentItem)) :
    ∃ command, .sent command item ∈ events := by
  obtain ⟨event, happened, same⟩ := List.mem_filterMap.mp listed
  cases event with
  | sent command message =>
    cases same
    exact ⟨command, happened⟩
  | _ => cases same

theorem ModbusExecutor.Execution.isFor {executor next : ModbusExecutor}
    {input : ExecuteInput}
    (execution : Execution executor input next events) (name : String) :
    ∀ item ∈ events.filterMap (·.sentItem), item.IsFor name := by
  intro item listed
  obtain ⟨command, sent⟩ := ExecutorEvent.exists_sent listed
  cases execution.report sent with
  | read _ _ | written _ _ => trivial
  | readFailed _ _ _ | writeFailed _ _ => trivial

namespace Gateway

variable {libraries : RequestLibraries}

theorem sentItem_of_quiet {name : String} {event : ThreadEvent}
    {item : QueueItem} (quiet : event.isTraffic = false)
    (sent : event.item name = some item) :
    ∃ isUp, event = .networkState isUp ∧
      item = .modbusNetworkState name isUp := by
  cases event with
  | bus logged =>
    cases logged with
    | sent command message => cases quiet
    | _ => cases sent
  | networkState isUp =>
    cases sent
    exact ⟨isUp, rfl, rfl⟩

namespace GatewayStep

variable {gateway next : Gateway} {input : GatewayInput}
  {events : List GatewayEvent}

/-- Either one message is processed, or all leaves stay as they are. -/
theorem leaves (step : GatewayStep libraries gateway input next events) :
    (∃ name call item rest, input = .process name call ∧
      gateway.client.isConnected = true ∧
      (gateway.threads name).fromModbus = item :: rest ∧
      next.client =
        (MqttClient.processModbusMessage call name item gateway.client).1 ∧
      events = [.processed name item]) ∨
    (∀ id, (next.client.store id).leaves = (gateway.client.store id).leaves) ∧
      ∀ name, processedItems name events = [] := by
  cases step with
  | @connected call client connecting =>
    refine .inr ⟨?_, fun _ => rfl⟩
    intro id
    have kept := (MqttClient.onConnect_frame call gateway.client).2 id
    rw [connecting] at kept
    exact kept
  | disconnected => exact .inr ⟨fun _ => rfl, fun _ => rfl⟩
  | handled _ handling =>
    obtain ⟨_, _, _, rfl⟩ := MqttClient.onMessage_frame handling
    exact .inr ⟨fun _ => rfl, fun _ => rfl⟩
  | requested _ handling =>
    obtain ⟨_, _, _, rfl⟩ := MqttClient.onMessage_frame handling
    exact .inr ⟨fun _ => rfl, fun _ => rfl⟩
  | @processed name call item rest client online _ queued processing =>
    refine .inl ⟨name, call, item, rest, rfl, online, queued, ?_, rfl⟩
    rw [processing]
    rfl
  | @thread name threadInput changed threadEvents _ _ =>
    refine .inr ⟨fun _ => rfl, fun other => processedItems_of_none ?_⟩
    simp

end GatewayStep

variable {config : Configuration} {now : Int} {created : RegisterPoll → Int}
  {allowed : Gateway → List GatewayEvent → GatewayInput → Prop}
  {gateway : Gateway} {history : List GatewayEvent}

theorem run_isFor
    (run : Runs (step libraries) allowed (start config now created) gateway
      history) (name : String) :
    ∀ item ∈ sentItems name history, item.IsFor name := by
  induction run with
  | start => simp [sentItems]
  | @step gateway next history events _ _ _ stepped induction =>
    intro item listed
    rw [sentItems_append] at listed
    rcases List.mem_append.mp listed with earlier | here
    · exact induction item earlier
    · rcases (step_cases stepped).traffic name with
        ⟨call, executor, logged, returned, _, _, executed, happened, _⟩ |
        ⟨quiet, _⟩
      · rw [(busHistory_of_bus happened).2] at here
        exact (ModbusExecutor.executeNext_execution executed).isFor name
          item here
      · rw [sentItems_eq] at here
        obtain ⟨event, happened, sent⟩ := List.mem_filterMap.mp here
        obtain ⟨_, _, rfl⟩ := sentItem_of_quiet (quiet event happened) sent
        exact rfl

theorem run_idents
    (run : Runs (step libraries) allowed (start config now created) gateway
      history) (id : ObjectId) :
    (gateway.client.store id).leaves.map Prod.fst =
      (config.object id).leaves.map Prod.fst := by
  induction run with
  | start => rfl
  | @step gateway next history events _ before _ stepped induction =>
    rw [← induction]
    rcases (step_cases stepped).leaves with
      ⟨name, call, item, rest, _, _, _, processed, _⟩ | ⟨kept, _⟩
    · rw [processed]
      rcases MqttClient.processModbusMessage_either call
        (Configuration.distinctLists (run_tables before)) name item id with
        updated | same
      · rw [updated, List.map_map]
        rfl
      · rw [same]
    · rw [kept id]

end Gateway

/-- Whatever a message of its network does to the leaf, `told` is what it
tells an observer. -/
def Observes {β : Type} (ident : MqttObjectRegisterIdent)
    (observe : MqttObjectRegisterValue → β) (told : QueueItem → Option β) :
    Prop :=
  ∀ item value,
    observe (MqttClient.leafUpdate ident.networkName item ident value).1 =
      (told item).getD (observe value)

/-- What a message tells about a leaf of an object, if it concerns the
object. -/
def Configuration.tells {β : Type} (config : Configuration) (id : ObjectId)
    (ident : MqttObjectRegisterIdent) (told : QueueItem → Option β)
    (item : QueueItem) : Option β :=
  if id ∈ config.concerned ident.networkName item then told item else none

theorem Configuration.tells_map {γ : Type} (config : Configuration) (id : ObjectId)
    (ident : MqttObjectRegisterIdent) (told : QueueItem → Option β)
    (change : β → γ) :
    config.tells id ident (fun item => (told item).map change) =
      fun item => (config.tells id ident told item).map change := by
  funext item
  rw [tells, tells]
  split <;> rfl

theorem Configuration.tells_of_none (config : Configuration) (id : ObjectId)
    (ident : MqttObjectRegisterIdent) {told : QueueItem → Option β}
    (silent : told item = none) :
    config.tells id ident told item = none := by
  rw [tells, silent]
  split <;> rfl

theorem Configuration.WellFormed.leaf_fresh {config : Configuration}
    (wellFormed : config.WellFormed) {id : ObjectId} {leaf : RegisterLeaf}
    (listed : leaf ∈ (config.object id).leaves) : leaf.2 = {} := by
  by_cases inside : id < config.objects.length
  · rw [Configuration.object, List.getD_eq_getElem?_getD,
      List.getElem?_eq_getElem inside] at listed
    exact wellFormed.fresh _ (List.getElem_mem inside) leaf listed
  · rw [Configuration.object_leaves_of_le (not_lt.mp inside)] at listed
    cases listed

namespace Gateway

variable {libraries : RequestLibraries} {config : Configuration} {now : Int}
  {created : RegisterPoll → Int}
  {allowed : Gateway → List GatewayEvent → GatewayInput → Prop}
  {gateway : Gateway} {history : List GatewayEvent}

theorem run_leaf
    (run : Runs (step libraries) allowed (start config now created) gateway
      history) {id : ObjectId} {leaf : RegisterLeaf}
    (listed : leaf ∈ (gateway.client.store id).leaves) :
    ∃ declared ∈ (config.object id).leaves, declared.1 = leaf.1 := by
  have ident := List.mem_map_of_mem (f := Prod.fst) listed
  rw [run_idents run id] at ident
  exact List.mem_map.mp ident

/-- While the messages of its network are processed without disturbance, a
leaf shows what the latest of them told about it. -/
theorem run_observed {β : Type} {ident : MqttObjectRegisterIdent}
    {observe : MqttObjectRegisterValue → β} {told : QueueItem → Option β}
    (wellFormed : config.WellFormed) (observes : Observes ident observe told)
    (calm : ∀ gateway history call item rest,
      allowed gateway history (.process ident.networkName call) →
      (gateway.threads ident.networkName).fromModbus = item :: rest →
      MqttClient.Undisturbed call ident.networkName item gateway.client)
    (run : Runs (step libraries) allowed (start config now created) gateway
      history) {id : ObjectId} {value : MqttObjectRegisterValue}
    (listed : (ident, value) ∈ (gateway.client.store id).leaves) :
    observe value = (latest (config.tells id ident told)
        (processedItems ident.networkName history)).getD (observe {}) := by
  induction run generalizing value with
  | start =>
    have fresh : value = {} := wellFormed.leaf_fresh listed
    rw [fresh]
    rfl
  | @step gateway next history events input before permitted stepped
      induction =>
      rw [processedItems_append]
      rcases (step_cases stepped).leaves with
        ⟨name, call, item, rest, rfl, online, queued, processed, rfl⟩ |
        ⟨kept, silent⟩
      · have tables := run_tables before
        have distinct := Configuration.distinctLists tables
        rw [processed] at listed
        by_cases own : name = ident.networkName
        · subst own
          have undisturbed := calm _ _ _ _ _ permitted queued
          rw [MqttClient.processModbusMessage_leaves call distinct undisturbed,
            Configuration.affected_eq_concerned tables online,
            MqttClient.leavesAfter] at listed
          have here : processedItems ident.networkName
              [.processed ident.networkName item] = [item] := by
            simp [processedItems, GatewayEvent.processedItem]
          rw [here, latest_append, latest_singleton, Configuration.tells]
          split at listed
          · rename_i concerned
            obtain ⟨⟨_, old⟩, earlier, same⟩ := List.mem_map.mp listed
            cases same
            rw [if_pos concerned, observes item old, induction earlier]
            cases told item <;> rfl
          · rename_i unconcerned
            rw [if_neg unconcerned]
            exact induction listed
        · have elsewhere : processedItems ident.networkName
              [.processed name item] = [] := by
            simp [processedItems, GatewayEvent.processedItem, own]
          rw [elsewhere, List.append_nil]
          rcases MqttClient.processModbusMessage_either call distinct name
            item id with updated | same
          · rw [updated] at listed
            obtain ⟨⟨_, old⟩, earlier, same⟩ := List.mem_map.mp listed
            have origin : item.IsFor name := by
              apply run_isFor before name
              rw [run_queue before name, queued]
              simp
            cases same
            rw [MqttClient.leafUpdate_of_ne origin own]
            exact induction earlier
          · rw [same] at listed
            exact induction listed
      · rw [silent, List.append_nil]
        rw [kept id] at listed
        exact induction listed

end Gateway

end MqmGateway
