import MqmGateway.MqttClient.Machine

/-!
# What rounds keep of an object

Objects change in two ways only: an update of their leaves, and publishing,
which they remember.  What both keep holds in every run, whatever happens to
the broker and to the other objects.
-/

namespace MqmGateway

namespace MqttClient

/-- A property of objects that updates and publishing keep. -/
structure KeptByRounds (property : MqttObject → Prop) : Prop where
  update : ∀ object update, property object →
    property (object.perform update).1
  remember : ∀ object payload time, property object →
    property { object with
      lastPublishedPayload := payload
      lastPublishTime := time }

def Keeps (property : MqttObject → Prop) (before after : MqttClient) : Prop :=
  ∀ id, property (before.store id) → property (after.store id)

section Kept

variable {property : MqttObject → Prop} (kept : KeptByRounds property)
  (call : ProcessInput)

theorem Keeps.refl (client : MqttClient) : Keeps property client client :=
  fun _ => id

theorem Keeps.trans (first second third : MqttClient)
    (left : Keeps property first second)
    (right : Keeps property second third) : Keeps property first third :=
  fun id holds => right id (left id holds)

theorem Keeps.setObject (client : MqttClient) {id : ObjectId}
    {object : MqttObject}
    (holds : property (client.store id) → property object) :
    Keeps property client (client.setObject id object) := by
  intro other before
  by_cases same : other = id
  · rw [same] at before ⊢
    rw [setObject_self]
    exact holds before
  · rw [setObject_of_ne client same]
    exact before

theorem Keeps.forEach {body : ObjectId → Action}
    (each : ∀ id, Effect.Within (Keeps property) (body id))
    (ids : List ObjectId) :
    Effect.Within (Keeps property) (Effect.forEach body ids) :=
  Effect.Within.forEach .refl .trans fun id _ => each id

include kept

theorem keeps_allows (id : ObjectId) : AllowsPublishing id (Keeps property) :=
  ⟨.refl, .trans, fun _ _ _ holds => holds, fun client payload time =>
    .setObject client (kept.remember _ payload time)⟩

theorem processObjectValues_keeps (networkName : String)
    (slaveData : MsgRegisterValues) (id : ObjectId) :
    Effect.Within (Keeps property)
      (processObjectValues call networkName slaveData id) := by
  intro client
  have updated : Keeps property client (client.setObject id _) :=
    .setObject client (kept.update _ (.registerValues networkName slaveData))
  rw [processObjectValues]
  split
  · rename_i same
    rw [MqttObject.perform, same] at updated
    exact updated
  · rename_i same
    rw [MqttObject.perform, same] at updated
    exact .trans _ _ _ updated
      (publishUpdate_allowed call (keeps_allows kept id) _ _)

theorem processObjectFailed_keeps (networkName : String)
    (slaveData : ModbusMessageBase) (id : ObjectId) :
    Effect.Within (Keeps property)
      (processObjectFailed call networkName slaveData id) := by
  intro client
  have updated : Keeps property client (client.setObject id _) :=
    .setObject client
      (kept.update _ (.registersReadFailed networkName slaveData))
  have allows := keeps_allows kept id
  rw [processObjectFailed_eq]
  exact .trans _ _ _ updated (Effect.Within.andThen allows.trans
    (publishState_allowed call allows false)
    (changeAvailability_allowed call allows _) _)

theorem processObjectNetworkState_keeps (networkName : String) (isUp : Bool)
    (id : ObjectId) :
    Effect.Within (Keeps property)
      (processObjectNetworkState call networkName isUp id) := by
  intro client
  have updated : Keeps property client (client.setObject id _) :=
    .setObject client (kept.update _ (.modbusNetworkState networkName isUp))
  rw [processObjectNetworkState]
  split
  · rename_i same
    rw [MqttObject.perform, same] at updated
    exact updated
  · rename_i same
    rw [MqttObject.perform, same] at updated
    exact .trans _ _ _ updated
      (changeAvailability_allowed call (keeps_allows kept id) _ _)

theorem processModbusMessage_keeps (networkName : String) (item : QueueItem) :
    Effect.Within (Keeps property)
      (processModbusMessage call networkName item) := by
  have same {client next : MqttClient} (store : next.store = client.store) :
      Keeps property client next := by
    intro id holds
    rw [store]
    exact holds
  have failed (message : ModbusMessageBase) : Effect.Within (Keeps property)
      (if message.isRpc then publishRpcError message
      else processRegistersOperationFailed call networkName message :
        Action) := by
    split
    · exact fun client => same (publishRpcError_quiet message client).1
    · exact fun client => Keeps.forEach
        (processObjectFailed_keeps kept call networkName message) _ client
  cases item with
  | registerReadFailed message => exact failed message
  | registerWriteFailed message => exact failed message
  | modbusNetworkState name isUp =>
    intro client
    rw [processModbusMessage, processModbusNetworkState]
    split
    · exact .refl client
    · exact Keeps.forEach
        (processObjectNetworkState_keeps kept call name isUp) _ client
  | registerValues message =>
    intro client
    rw [processModbusMessage, processRegisterValues]
    split
    · exact .refl client
    · split
      · exact .refl client
      · refine Effect.Within.andThen Keeps.trans ?_
          (.catching _ (Keeps.forEach
            (processObjectValues_keeps kept call networkName message) _))
          client
        split
        · exact fun client =>
            same (publishRpcResponse_quiet message client).1
        · exact .skip .refl

theorem onConnect_keeps : Effect.Within (Keeps property) (onConnect call) := by
  intro client
  refine Keeps.forEach (fun id published => ?_) _
    { client with isConnected := true }
  have allows := keeps_allows kept id
  rw [publishObject]
  refine Effect.Within.andThen allows.trans ?_
    (publishAvailabilityChange_allowed call allows) published
  split
  · exact publishState_allowed call allows true
  · exact .skip allows.refl

theorem step_keeps {libraries : RequestLibraries} {client next : MqttClient}
    {input : ClientInput} {publications : List Publication}
    (stepped : client.step libraries input = some (next, publications)) :
    Keeps property client next := by
  cases input with
  | disconnected =>
    cases stepped
    exact fun _ => id
  | message message =>
    obtain ⟨⟨handled, request⟩, handling, same⟩ :=
      Option.map_eq_some_iff.mp stepped
    cases same
    obtain ⟨_, _, _, rfl⟩ := onMessage_frame handling
    exact fun _ => id
  | process networkName call item =>
    have keeps := processModbusMessage_keeps kept call networkName item client
    rw [(logged_eq_some stepped).1] at keeps
    exact keeps
  | connected call =>
    have keeps := onConnect_keeps kept call client
    rw [(logged_eq_some stepped).1] at keeps
    exact keeps

end Kept

variable {libraries : RequestLibraries}
  {allowed : MqttClient → List Publication → ClientInput → Prop}
  {start client : MqttClient} {history : List Publication}

theorem run_keeps {property : MqttObject → Prop} (kept : KeptByRounds property)
    (run : Runs (step libraries) allowed start client history) :
    Keeps property start client := by
  induction run with
  | start => exact .refl start
  | step _ _ stepped induction =>
    exact .trans _ _ _ induction (step_keeps kept stepped)

theorem run_sameTables
    (run : Runs (step libraries) allowed start client history) :
    SameTables start client := by
  induction run with
  | start => exact .refl start
  | step _ _ stepped induction => exact induction.trans (step_tables stepped)

end MqttClient

end MqmGateway
