import MqmGateway.MqttClient

/-!
# What processing a message does to the objects

Every round of the loops over affected objects updates the leaves of its own
object first and publishes afterwards.  Publishing never changes a leaf, so a
round that is reached has its effect on the leaves even if it throws.
-/

namespace MqmGateway

namespace MqttClient

@[simp] theorem setObject_self (client : MqttClient) (id : ObjectId)
    (object : MqttObject) : (client.setObject id object).store id = object := by
  rw [setObject]
  exact Function.update_self ..

theorem setObject_of_ne (client : MqttClient) {id other : ObjectId}
    (different : other ≠ id) (object : MqttObject) :
    (client.setObject id object).store other = client.store other := by
  rw [setObject]
  exact Function.update_of_ne different ..

/-- A relation between clients that publishing for an object cannot leave:
it allows the client to publish, and the object to remember that. -/
structure AllowsPublishing (id : ObjectId)
    (relation : MqttClient → MqttClient → Prop) : Prop where
  refl : ∀ client, relation client client
  trans : ∀ first second third, relation first second →
    relation second third → relation first third
  publish : ∀ client published, relation client { client with published }
  remember : ∀ client payload time, relation client
    (client.setObject id { client.store id with
      lastPublishedPayload := payload
      lastPublishTime := time })

/-- What publishing for an object can change: what the client has published
and remembers as published, and no leaf. -/
structure PublishesFor (id : ObjectId) (before after : MqttClient) : Prop where
  same : ∃ store published, after = { before with store, published }
  others : ∀ other, other ≠ id → after.store other = before.store other
  leaves : (after.store id).leaves = (before.store id).leaves

namespace PublishesFor

variable {id : ObjectId}

theorem refl (client : MqttClient) : PublishesFor id client client :=
  ⟨⟨client.store, client.published, rfl⟩, fun _ _ => rfl, rfl⟩

theorem trans (first second third : MqttClient)
    (left : PublishesFor id first second)
    (right : PublishesFor id second third) : PublishesFor id first third := by
  obtain ⟨_, _, rfl⟩ := left.same
  obtain ⟨store, published, rfl⟩ := right.same
  refine ⟨⟨store, published, rfl⟩, ?_, ?_⟩
  · intro other different
    exact (right.others other different).trans (left.others other different)
  · exact right.leaves.trans left.leaves

theorem allows (id : ObjectId) : AllowsPublishing id (PublishesFor id) := by
  refine ⟨.refl, .trans, fun client published =>
    ⟨⟨client.store, published, rfl⟩, fun _ _ => rfl, rfl⟩, ?_⟩
  intro client payload time
  refine ⟨⟨_, client.published, rfl⟩, ?_, ?_⟩
  · intro other different
    exact setObject_of_ne client different _
  · rw [setObject_self]
    rfl

end PublishesFor

variable (input : ProcessInput)

theorem publish_exception (id : ObjectId) (kind : PublishKind)
    (publication : Publication) (client : MqttClient) :
    (publish input id kind publication client).2 =
      if input.refuses id kind then some .mosquitto else none := by
  rw [publish]
  split <;> rfl

theorem publish_store (id : ObjectId) (kind : PublishKind)
    (publication : Publication) (client : MqttClient) :
    (publish input id kind publication client).1.store = client.store := by
  rw [publish]
  split <;> rfl

section Allowed

variable {id : ObjectId} {relation : MqttClient → MqttClient → Prop}
  (allows : AllowsPublishing id relation)

include allows

theorem publish_allowed (kind : PublishKind) (publication : Publication) :
    Effect.Within relation (publish input id kind publication) := by
  intro client
  rw [publish]
  split
  · exact allows.refl client
  · exact allows.publish client _

theorem publishState_allowed (force : Bool) :
    Effect.Within relation (publishState input id force) := by
  intro client
  rw [publishState]
  dsimp only
  split
  · exact allows.refl client
  · split
    · exact allows.refl client
    · split
      · exact allows.refl client
      · split
        · apply Effect.Within.andThen allows.trans
          · exact publish_allowed input allows _ _
          · exact fun client => allows.remember client _ _
        · exact allows.refl client

theorem publishAvailabilityChange_allowed :
    Effect.Within relation (publishAvailabilityChange input id) := by
  intro client
  rw [publishAvailabilityChange]
  dsimp only
  split
  · exact allows.refl client
  · rw [Effect.catching_state]
    exact publish_allowed input allows _ _ client

theorem deleteRetained_allowed :
    Effect.Within relation (deleteRetained input id) := by
  intro client
  rw [deleteRetained]
  apply Effect.Within.andThen allows.trans
  · exact publish_allowed input allows _ _
  · intro published
    rw [rememberPayload]
    split
    · exact allows.refl published
    · exact allows.remember published _ (published.store id).lastPublishTime

theorem publishUpdate_allowed (oldAvail : AvailableFlag) :
    Effect.Within relation (publishUpdate input id oldAvail) := by
  have skipped : Effect.Within relation (.skip : Action) := .skip allows.refl
  intro client
  rw [publishUpdate]
  dsimp only
  split
  · apply Effect.Within.andThen allows.trans
    · split
      · split
        · exact publishState_allowed input allows true
        · refine Effect.Within.andThen allows.trans ?_ ?_
          · split
            · exact deleteRetained_allowed input allows
            · exact skipped
          · split
            · exact publishState_allowed input allows true
            · exact skipped
      · exact skipped
    · exact publishAvailabilityChange_allowed input allows
  · exact publishState_allowed input allows _ client

theorem changeAvailability_allowed (changed : Prop) [Decidable changed] :
    Effect.Within relation
      (if changed then publishAvailabilityChange input id else .skip) := by
  split
  · exact publishAvailabilityChange_allowed input allows
  · exact .skip allows.refl

end Allowed

/-- What goes wrong with publishing the state of an object: its payload
cannot be converted, or there is something to publish and the broker refuses
it. -/
def stateFailure (id : ObjectId) (force : Bool) (object : MqttObject) :
    Option GatewayException :=
  if object.isAvailable ≠ .available ∨
      object.publishMode = .once ∧ object.lastPublishTime ≠ none then
    none
  else
    match MqttPayload.generate object with
    | .error exception => some exception
    | .ok messageData =>
      if (messageData ≠ object.lastPublishedPayload ∨ force) ∧
          input.refuses id .state then
        some .mosquitto
      else
        none

/-- What goes wrong with deleting a retained message. -/
def deletionFailure (id : ObjectId) (object : MqttObject) :
    Option GatewayException :=
  if input.refuses id .deletion then
    some .mosquitto
  else
    match MqttPayload.generate object with
    | .error exception => some exception
    | .ok _ => none

/-- What goes wrong with publishing an object after an update, if its flag was
`oldAvail` before. -/
def updateFailure (id : ObjectId) (oldAvail : AvailableFlag)
    (object : MqttObject) : Option GatewayException :=
  if oldAvail = object.isAvailable then
    stateFailure input id
      (object.needStateRepublish (input.republishCheck id)) object
  else if object.isAvailable ≠ .available then
    none
  else if object.retain then
    stateFailure input id true object
  else
    (if oldAvail = .notSet then deletionFailure input id object else none).or
      (if object.publishMode = .everyPoll then
        stateFailure input id true object
      else
        none)

/-- What goes wrong with an object when register values are processed. -/
def valuesFailure (networkName : String) (slaveData : MsgRegisterValues)
    (id : ObjectId) (object : MqttObject) : Option GatewayException :=
  let updated := object.updateRegisterValues networkName slaveData
  updated.2.or (updateFailure input id object.isAvailable updated.1)

theorem publishState_exception (id : ObjectId) (force : Bool)
    (client : MqttClient) :
    (publishState input id force client).2 =
      stateFailure input id force (client.store id) := by
  rw [publishState, stateFailure]
  dsimp only
  split
  · rename_i absent
    rw [if_pos (.inl absent)]
  · rename_i available
    split
    · rename_i once
      rw [if_pos (.inr once)]
    · rename_i due
      rw [if_neg (not_or.mpr ⟨available, due⟩)]
      cases MqttPayload.generate (client.store id) with
      | error exception => rfl
      | ok messageData =>
        dsimp only
        split
        · rename_i needed
          rw [Effect.andThen_exception, publish_exception]
          by_cases refused : input.refuses id .state = true
          · simp [refused, needed]
          · simp [refused, modifyObject, Effect.modify]
        · rename_i unneeded
          rw [if_neg (fun both => unneeded both.1)]

theorem publishAvailabilityChange_exception (id : ObjectId)
    (client : MqttClient) :
    (publishAvailabilityChange input id client).2 = none := by
  rw [publishAvailabilityChange]
  dsimp only
  split
  · rfl
  · rw [Effect.catching_exception, publish_exception]
    split <;> rfl

theorem rememberPayload_exception (id : ObjectId) (client : MqttClient) :
    (rememberPayload id client).2 =
      match MqttPayload.generate (client.store id) with
      | .error exception => some exception
      | .ok _ => none := by
  rw [rememberPayload]
  cases MqttPayload.generate (client.store id) <;> rfl

theorem deleteRetained_exception (id : ObjectId) (client : MqttClient) :
    (deleteRetained input id client).2 =
      deletionFailure input id (client.store id) := by
  rw [deleteRetained, deletionFailure, Effect.andThen_exception,
    publish_exception, rememberPayload_exception, publish_store]
  split <;> rfl

theorem rememberPayload_object (id : ObjectId) (client : MqttClient) :
    ∃ payload, (rememberPayload id client).1.store id =
      { client.store id with lastPublishedPayload := payload } := by
  rw [rememberPayload]
  split
  · exact ⟨(client.store id).lastPublishedPayload, rfl⟩
  · exact ⟨_, setObject_self _ _ _⟩

theorem deleteRetained_object (id : ObjectId) (client : MqttClient) :
    ∃ payload, (deleteRetained input id client).1.store id =
      { client.store id with lastPublishedPayload := payload } := by
  have kept := publish_store input id .deletion
    { topic := (client.store id).stateTopic, payload := [], retain := true }
    client
  rw [deleteRetained, Effect.andThen]
  split
  · rename_i published taken
    rw [taken] at kept
    obtain ⟨payload, stored⟩ := rememberPayload_object id published
    exact ⟨payload, by rw [stored, ← kept]⟩
  · rename_i refused
    rw [refused] at kept
    exact ⟨(client.store id).lastPublishedPayload, by rw [← kept]⟩

theorem publishUpdate_exception (id : ObjectId) (oldAvail : AvailableFlag)
    (client : MqttClient) :
    (publishUpdate input id oldAvail client).2 =
      updateFailure input id oldAvail (client.store id) := by
  rw [publishUpdate, updateFailure]
  dsimp only
  by_cases changed : oldAvail = (client.store id).isAvailable
  · rw [if_neg (not_not.mpr changed), if_pos changed]
    exact publishState_exception input id _ client
  · rw [if_pos changed, if_neg changed]
    rw [Effect.andThen_exception, publishAvailabilityChange_exception,
      Option.or_none]
    split
    · rename_i available
      rw [if_neg (not_not.mpr available)]
      split
      · exact publishState_exception input id true client
      · rw [Effect.andThen_exception]
        congr 1
        · split
          · exact deleteRetained_exception input id client
          · rfl
        · split
          · rw [publishState_exception]
            split
            · obtain ⟨payload, stored⟩ := deleteRetained_object input id client
              rw [stored]
              simp [stateFailure, MqttPayload.generate]
            · rfl
          · rfl
    · rfl

def UpdatesLeaves (leafUpdate : LeafUpdate) (_ : ObjectId)
    (before after : MqttObject) : Prop :=
  after.leaves = before.leaves.map leafUpdate.apply

instance (leafUpdate : LeafUpdate) (id : ObjectId)
    (before after : MqttObject) :
    Decidable (UpdatesLeaves leafUpdate id before after) :=
  inferInstanceAs (Decidable (_ = _))

theorem processObjectValues_owned (networkName : String)
    (slaveData : MsgRegisterValues) :
    Effect.Owned MqttClient.store
      (UpdatesLeaves (.registerValues networkName slaveData))
      (valuesFailure input networkName slaveData)
      (processObjectValues input networkName slaveData) := by
  constructor
  · intro id client
    have updatedLeaves := (client.store id).leaves_updateRegisterValues
      networkName slaveData
    rw [processObjectValues]
    split
    · rename_i updated thrown same
      rw [same] at updatedLeaves
      rw [setObject_self]
      exact updatedLeaves
    · rename_i updated same
      rw [same] at updatedLeaves
      have published := publishUpdate_allowed input (PublishesFor.allows id)
        (client.store id).isAvailable (client.setObject id updated)
      rw [UpdatesLeaves, published.leaves, setObject_self]
      exact updatedLeaves
  · intro id other client different
    rw [processObjectValues]
    split
    · exact setObject_of_ne client different _
    · rename_i updated _
      have published := publishUpdate_allowed input (PublishesFor.allows id)
        (client.store id).isAvailable (client.setObject id updated)
      rw [published.others other different, setObject_of_ne client different]
  · intro id client
    rw [processObjectValues, valuesFailure]
    split
    · rename_i same
      rw [same]
      rfl
    · rename_i same
      rw [same, publishUpdate_exception, setObject_self]
      rfl

/-- What goes wrong with an object when a failed operation is processed.
Marking leaves needs no converter, so only an object that is left available
can be concerned. -/
def operationFailure (networkName : String) (slaveData : ModbusMessageBase)
    (id : ObjectId) (object : MqttObject) : Option GatewayException :=
  stateFailure input id false
    (object.updateRegistersReadFailed networkName slaveData).1

theorem processObjectFailed_eq (networkName : String)
    (slaveData : ModbusMessageBase) (id : ObjectId) (client : MqttClient) :
    processObjectFailed input networkName slaveData id client =
      (publishState input id false).andThen
        (if (client.store id).isAvailable ≠ ((client.store
            id).updateRegistersReadFailed networkName slaveData).1.isAvailable
          then publishAvailabilityChange input id else .skip)
        (client.setObject id ((client.store id).updateRegistersReadFailed
          networkName slaveData).1) := by
  have unthrown := MqttObject.updateAvailablityFlagIf_of_marks
    (MqttObject.leafMarks_registersReadFailed networkName slaveData)
    (client.store id)
  rw [processObjectFailed]
  split
  · rename_i same
    rw [MqttObject.updateRegistersReadFailed] at same
    rw [same] at unthrown
    cases unthrown
  · rename_i same
    rw [same]

theorem changeAvailability_exception (id : ObjectId) (changed : Prop)
    [Decidable changed] (client : MqttClient) :
    ((if changed then publishAvailabilityChange input id else .skip :
      Action) client).2 = none := by
  split
  · exact publishAvailabilityChange_exception input id client
  · rfl

theorem processObjectFailed_owned (networkName : String)
    (slaveData : ModbusMessageBase) :
    Effect.Owned MqttClient.store
      (UpdatesLeaves (.registersReadFailed networkName slaveData))
      (operationFailure input networkName slaveData)
      (processObjectFailed input networkName slaveData) := by
  have published (id : ObjectId) (client : MqttClient) :=
    Effect.Within.andThen PublishesFor.trans
      (publishState_allowed input (PublishesFor.allows id) false)
      (changeAvailability_allowed input (PublishesFor.allows id)
        ((client.store id).isAvailable ≠
        ((client.store id).updateRegistersReadFailed networkName
          slaveData).1.isAvailable))
      (client.setObject id ((client.store id).updateRegistersReadFailed
        networkName slaveData).1)
  constructor
  · intro id client
    rw [processObjectFailed_eq, UpdatesLeaves, (published id client).leaves,
      setObject_self]
    exact (client.store id).leaves_updateRegistersReadFailed networkName
      slaveData
  · intro id other client different
    rw [processObjectFailed_eq, (published id client).others other different,
      setObject_of_ne client different]
  · intro id client
    rw [processObjectFailed_eq, Effect.andThen_exception,
      publishState_exception, setObject_self, operationFailure,
      changeAvailability_exception, Option.or_none]

theorem processObjectNetworkState_owned (networkName : String) :
    Effect.Owned MqttClient.store
      (UpdatesLeaves (.modbusNetworkState networkName false))
      (fun _ _ => none)
      (processObjectNetworkState input networkName false) := by
  have unthrown (object : MqttObject) :
      (object.setModbusNetworkState networkName false).2 = none :=
    MqttObject.updateAvailablityFlagIf_of_marks
      (MqttObject.leafMarks_networkDown networkName) object
  have round (id : ObjectId) (client : MqttClient) :
      processObjectNetworkState input networkName false id client =
        (if (client.store id).isAvailable ≠ ((client.store
            id).setModbusNetworkState networkName false).1.isAvailable
          then publishAvailabilityChange input id else .skip : Action)
        (client.setObject id ((client.store id).setModbusNetworkState
          networkName false).1) := by
    have quiet := unthrown (client.store id)
    rw [processObjectNetworkState]
    split
    · rename_i same
      rw [same] at quiet
      cases quiet
    · rename_i same
      rw [same]
  constructor
  · intro id client
    rw [round, UpdatesLeaves,
      (changeAvailability_allowed input (PublishesFor.allows id) _ _).leaves,
      setObject_self]
    exact (client.store id).leaves_setModbusNetworkState networkName false
  · intro id other client different
    rw [round, (changeAvailability_allowed input (PublishesFor.allows id) _
      _).others other different, setObject_of_ne client different]
  · intro id client
    rw [round, changeAvailability_exception]

end MqttClient

end MqmGateway
