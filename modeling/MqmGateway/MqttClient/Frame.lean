import MqmGateway.MqttClient.ErrorIsolation
import MqmGateway.MqttClient.Requests

/-!
# What the operations of the client leave alone

The lists that route messages are fixed once the configuration is loaded.
Callbacks of the MQTT library never change a leaf of an object; a message from
a modbus thread changes the leaves of the objects it concerns and answers at
most the request it belongs to.
-/

namespace MqmGateway

namespace MqttClient

/-- Only the objects and what has been published may differ. -/
def OnlyObjects (before after : MqttClient) : Prop :=
  ∃ store published, after = { before with store, published }

namespace OnlyObjects

theorem refl (client : MqttClient) : OnlyObjects client client :=
  ⟨client.store, client.published, rfl⟩

theorem trans (first second third : MqttClient)
    (left : OnlyObjects first second) (right : OnlyObjects second third) :
    OnlyObjects first third := by
  obtain ⟨_, _, rfl⟩ := left
  obtain ⟨store, published, rfl⟩ := right
  exact ⟨store, published, rfl⟩

theorem setObject {client after : MqttClient} {id : ObjectId}
    {object : MqttObject}
    (later : OnlyObjects (client.setObject id object) after) :
    OnlyObjects client after := by
  obtain ⟨store, published, rfl⟩ := later
  exact ⟨store, published, rfl⟩

end OnlyObjects

variable (input : ProcessInput)

theorem processObjectValues_onlyObjects (networkName : String)
    (slaveData : MsgRegisterValues) (id : ObjectId) :
    Effect.Within OnlyObjects
      (processObjectValues input networkName slaveData id) := by
  intro client
  rw [processObjectValues]
  split
  · exact .setObject (.refl _)
  · exact .setObject
      (publishUpdate_allowed input (PublishesFor.allows id) _ _).same

theorem processObjectFailed_onlyObjects (networkName : String)
    (slaveData : ModbusMessageBase) (id : ObjectId) :
    Effect.Within OnlyObjects
      (processObjectFailed input networkName slaveData id) := by
  intro client
  rw [processObjectFailed_eq]
  exact .setObject (Effect.Within.andThen PublishesFor.trans
    (publishState_allowed input (PublishesFor.allows id) false)
    (changeAvailability_allowed input (PublishesFor.allows id) _) _).same

theorem processObjectNetworkState_onlyObjects (networkName : String)
    (isUp : Bool) (id : ObjectId) :
    Effect.Within OnlyObjects
      (processObjectNetworkState input networkName isUp id) := by
  intro client
  rw [processObjectNetworkState]
  split
  · exact .setObject (.refl _)
  · exact .setObject
      (changeAvailability_allowed input (PublishesFor.allows id) _ _).same

/-- The part of processing a message that answers a request. -/
def respond (item : QueueItem) : Action := fun client =>
  match item with
  | .registerValues message =>
    if client.isConnected ∧ message.isRpc ∧
        (client.commandObjects message.commandId).isNone then
      publishRpcResponse message client
    else
      (client, none)
  | .registerReadFailed message | .registerWriteFailed message =>
    if message.isRpc then publishRpcError message client else (client, none)
  | .modbusNetworkState _ _ => (client, none)

variable {client : MqttClient} {networkName : String} {item : QueueItem}

theorem isRpc_of_unaffected {slaveData : MsgRegisterValues}
    (found : client.affectedByValues networkName slaveData = none) :
    slaveData.isRpc = false := by
  rw [affectedByValues] at found
  split at found
  · split at found
    · cases found
    · split at found <;> cases found
  · rename_i scheduled
    simp only [ModbusMessageBase.hasCommandId, decide_eq_true_eq,
      not_not] at scheduled
    simp [ModbusMessageBase.isRpc, scheduled]

theorem processRegisterValues_frame (networkName : String)
    (slaveData : MsgRegisterValues) (client : MqttClient) :
    OnlyObjects (respond (.registerValues slaveData) client).1
      (processRegisterValues input networkName slaveData client).1 := by
  have looped (ids : List ObjectId) :
      Effect.Within OnlyObjects ((Effect.forEach
        (processObjectValues input networkName slaveData) ids).catching
          (· = .mosquitto)) := by
    apply Effect.Within.catching
    apply Effect.Within.forEach OnlyObjects.refl OnlyObjects.trans
    intro id _
    exact processObjectValues_onlyObjects input networkName slaveData id
  rw [processRegisterValues, respond]
  by_cases connected : client.isConnected = true
  · rw [if_neg (show ¬(!client.isConnected) = true by simp [connected])]
    cases found : client.affectedByValues networkName slaveData with
    | none =>
      rw [if_neg (by simp [isRpc_of_unaffected found])]
      exact .refl client
    | some ids =>
      dsimp only
      by_cases asked : slaveData.isRpc = true ∧
        (client.commandObjects slaveData.commandId).isNone = true
      · rw [if_pos asked, if_pos ⟨connected, asked⟩]
        have quiet := (publishRpcResponse_quiet slaveData client).2
        cases responding : publishRpcResponse slaveData client with
        | mk responded thrown =>
          rw [responding] at quiet
          cases quiet
          rw [Effect.andThen_of_none responding]
          exact looped ids responded
      · rw [if_neg asked, if_neg (fun all => asked all.2)]
        exact looped ids client
  · rw [if_neg (fun all => connected all.1),
      if_pos (show (!client.isConnected) = true by simp [connected])]
    exact .refl client

/-- Apart from the objects, a message only changes what answering does. -/
theorem processModbusMessage_frame (networkName : String) (item : QueueItem)
    (client : MqttClient) :
    OnlyObjects (respond item client).1
      (processModbusMessage input networkName item client).1 := by
  have failed (message : ModbusMessageBase) :
      OnlyObjects client
        (processRegistersOperationFailed input networkName message client).1 := by
    apply Effect.Within.forEach OnlyObjects.refl OnlyObjects.trans
    intro id _
    exact processObjectFailed_onlyObjects input networkName message id
  cases item with
  | registerValues message =>
    exact processRegisterValues_frame input networkName message client
  | registerReadFailed message =>
    rw [processModbusMessage, respond]
    split
    · exact .refl _
    · exact failed message
  | registerWriteFailed message =>
    rw [processModbusMessage, respond]
    split
    · exact .refl _
    · exact failed message
  | modbusNetworkState name isUp =>
    rw [processModbusMessage, processModbusNetworkState]
    split
    · exact .refl client
    · apply Effect.Within.forEach OnlyObjects.refl OnlyObjects.trans
      intro id _
      exact processObjectNetworkState_onlyObjects input name isUp id

/-- Objects that a message does not concern stay as they are. -/
theorem processModbusMessage_others {id : ObjectId}
    (unconcerned : id ∉ client.affected networkName item) :
    (processModbusMessage input networkName item client).1.store id =
      client.store id := by
  have failed (message : ModbusMessageBase)
      (absent : id ∉ if message.isRpc then []
        else client.affectedByFailure networkName message) :
      ((if message.isRpc then publishRpcError message
        else processRegistersOperationFailed input networkName message :
          Action) client).1.store id = client.store id := by
    split
    · rw [(publishRpcError_quiet message client).1]
    · rename_i scheduled
      rw [if_neg scheduled] at absent
      exact (processObjectFailed_owned input networkName
        message).forEach_others absent client
  cases item with
  | registerReadFailed message => exact failed message unconcerned
  | registerWriteFailed message => exact failed message unconcerned
  | modbusNetworkState name isUp =>
    rw [affected] at unconcerned
    rw [processModbusMessage, processModbusNetworkState]
    cases isUp with
    | true => rfl
    | false =>
      exact (processObjectNetworkState_owned input name).forEach_others
        unconcerned client
  | registerValues message =>
    rw [affected] at unconcerned
    rw [processModbusMessage, processRegisterValues]
    by_cases connected : client.isConnected = true
    · rw [if_pos connected] at unconcerned
      rw [if_neg (by simp [connected])]
      cases found : client.affectedByValues networkName message with
      | none => rfl
      | some ids =>
        rw [found] at unconcerned
        have looped (responded : MqttClient)
            (same : responded.store = client.store) :
            ((Effect.forEach (processObjectValues input networkName
              message) ids).catching (· = .mosquitto)
                responded).1.store id = client.store id := by
          rw [Effect.catching_state, ← same]
          exact (processObjectValues_owned input networkName
            message).forEach_others unconcerned responded
        obtain ⟨store, quiet⟩ := publishRpcResponse_quiet message client
        dsimp only
        split
        · cases responding : publishRpcResponse message client with
          | mk responded thrown =>
            rw [responding] at store quiet
            cases quiet
            rw [Effect.andThen_of_none responding]
            exact looped responded store
        · exact looped client rfl
    · rw [if_pos (by simp [connected])]

/-- The update of a message on the leaves of one object. -/
def leavesAfter (networkName : String) (item : QueueItem)
    (concerned : Prop) [Decidable concerned] (leaves : List RegisterLeaf) :
    List RegisterLeaf :=
  if concerned then leaves.map (leafUpdate networkName item).apply else leaves

theorem processModbusMessage_leaves (distinct : client.DistinctLists)
    (undisturbed : Undisturbed input networkName item client)
    (id : ObjectId) :
    ((processModbusMessage input networkName item client).1.store id).leaves =
      leavesAfter networkName item (id ∈ client.affected networkName item)
        (client.store id).leaves := by
  rw [leavesAfter]
  split
  · rename_i concerned
    exact ((isolated_of_undisturbed input distinct undisturbed).applied id
      concerned)
  · rename_i unconcerned
    rw [processModbusMessage_others input unconcerned]

/-- In any case a message updates all leaves of an object or none. -/
theorem processModbusMessage_either
    (distinct : client.DistinctLists) (networkName : String)
    (item : QueueItem) (id : ObjectId) :
    UpdatesLeaves (leafUpdate networkName item) id (client.store id)
        ((processModbusMessage input networkName item client).1.store id) ∨
      (processModbusMessage input networkName item client).1.store id =
        client.store id := by
  have failed (message : ModbusMessageBase) :
      UpdatesLeaves (.registersReadFailed networkName message) id
          (client.store id)
          (((if message.isRpc then publishRpcError message
            else processRegistersOperationFailed input networkName message :
              Action) client).1.store id) ∨
        ((if message.isRpc then publishRpcError message
          else processRegistersOperationFailed input networkName message :
            Action) client).1.store id = client.store id := by
    split
    · exact .inr (congrFun (publishRpcError_quiet message client).1 id)
    · exact ((processObjectFailed_owned input networkName message).loopEnd
        (distinct.affectedByFailure networkName message) client).either id
  cases item with
  | registerReadFailed message => exact failed message
  | registerWriteFailed message => exact failed message
  | modbusNetworkState name isUp =>
    rw [processModbusMessage, processModbusNetworkState]
    cases isUp with
    | true => exact .inr rfl
    | false =>
      exact ((processObjectNetworkState_owned input name).loopEnd
        (client.objectsOfNetwork_nodup name) client).either id
  | registerValues message =>
    rw [processModbusMessage]
    by_cases connected : client.isConnected = true
    · cases found : client.affectedByValues networkName message with
      | none =>
        rw [processRegisterValues, if_neg (by simp [connected]), found]
        exact .inr rfl
      | some ids =>
        obtain ⟨thrown, ended, _⟩ :=
          processRegisterValues_ends input distinct connected found
        exact ended.either id
    · rw [processRegisterValues, if_pos (by simp [connected])]
      exact .inr rfl

/-- Connecting publishes what is known and changes no leaf. -/
theorem onConnect_frame (client : MqttClient) :
    OnlyObjects { client with isConnected := true } (onConnect input client).1 ∧
      ∀ id, ((onConnect input client).1.store id).leaves =
        (client.store id).leaves := by
  have relation : Effect.Within (fun before after =>
      OnlyObjects before after ∧
        ∀ id, (after.store id).leaves = (before.store id).leaves)
      (Effect.forEach (publishObject input)
        (client.objects.map Prod.snd).flatten.reverse.dedup.reverse) := by
    apply Effect.Within.forEach
    · intro state
      exact ⟨.refl state, fun _ => rfl⟩
    · intro first second third left right
      refine ⟨.trans _ _ _ left.1 right.1, ?_⟩
      intro id
      exact (right.2 id).trans (left.2 id)
    · intro published _ state
      have publishes : PublishesFor published state
          (publishObject input published state).1 := by
        apply Effect.Within.andThen PublishesFor.trans
        · split
          · exact publishState_allowed input (PublishesFor.allows published) true
          · exact .skip .refl
        · exact publishAvailabilityChange_allowed input
            (PublishesFor.allows published)
      refine ⟨publishes.same, ?_⟩
      intro id
      by_cases same : id = published
      · rw [same]
        exact publishes.leaves
      · rw [publishes.others id same]
  exact relation { client with isConnected := true }

theorem onMessage_frame {libraries : RequestLibraries}
    {next : MqttClient} {message : MqttMessage}
    {request : Option (String × ModbusRequest)}
    (handled : client.onMessage libraries message = some (next, request)) :
    ∃ nextRpcId pendingRpc replies,
      next = { client with nextRpcId, pendingRpc, replies } := by
  rw [onMessage] at handled
  split at handled
  · split at handled
    · rw [handleRpcRequest] at handled
      split at handled
      · cases handled
        exact ⟨_, _, _, rfl⟩
      · split at handled <;> cases handled <;> exact ⟨_, _, _, rfl⟩
    · cases handled
      exact ⟨_, _, _, rfl⟩
  · split at handled
    · cases handled
      exact ⟨_, _, _, rfl⟩
    · split at handled <;> cases handled <;> exact ⟨_, _, _, rfl⟩

end MqttClient

end MqmGateway
