import MqmGateway.Library.Logged
import MqmGateway.MqttClient.Processing
import MqmGateway.MqttObject.Flag

/-!
# One object at a time

The loops of the client handle one object in each round.  Seen from the
object, a round changes it and publishes on its two topics; what happens to
other objects does not matter.  A round is described here for a broker that
takes every publication, and has no result if an exception leaves it.
-/

namespace MqmGateway

/-- What a round is about. -/
inductive Round where
  | values (networkName : String) (slaveData : MsgRegisterValues)
  | failed (networkName : String) (slaveData : ModbusMessageBase)
  | networkDown (networkName : String)
  | connected

/-- The two readings of the clock in a round. -/
structure RoundClock where
  republishCheck : Int
  publishTime : Int

namespace MqttObject

def statePublication (object : MqttObject) (payload : Payload) : Publication :=
  { topic := object.stateTopic
    payload
    retain := object.retain }

def deletionPublication (object : MqttObject) : Publication :=
  { topic := object.stateTopic
    payload := []
    retain := true }

def availabilityPublication (object : MqttObject) : Publication :=
  { topic := object.availabilityTopic
    payload := [if object.isAvailable = .available then '1' else '0']
    retain := true }

theorem stateTopic_ne_availabilityTopic (object : MqttObject) :
    object.stateTopic ≠ object.availabilityTopic := by
  intro same
  have ends := congrArg (fun text => text.toList.getLast?) same
  simp [stateTopic, availabilityTopic] at ends

/-- `publishState` has nothing to do. -/
def Withheld (object : MqttObject) : Prop :=
  object.isAvailable ≠ .available ∨
    object.publishMode = .once ∧ object.lastPublishTime ≠ none

instance (object : MqttObject) : Decidable object.Withheld :=
  inferInstanceAs (Decidable (_ ∨ _))

end MqttObject

namespace Round

def publishState (time : Int) (force : Bool) :
    Logged MqttObject Publication := fun object =>
  if object.Withheld then
    some (object, [])
  else
    match MqttPayload.generate object with
    | .error _ => none
    | .ok messageData =>
      if messageData ≠ object.lastPublishedPayload ∨ force then
        some
          ({ object with
              lastPublishedPayload := messageData
              lastPublishTime := some time },
            [object.statePublication messageData])
      else
        some (object, [])

def publishAvailabilityChange : Logged MqttObject Publication := fun object =>
  some (object,
    if object.isAvailable = .notSet then []
    else [object.availabilityPublication])

def deleteRetained : Logged MqttObject Publication := fun object =>
  match MqttPayload.generate object with
  | .error _ => none
  | .ok payload =>
    some ({ object with lastPublishedPayload := payload },
      [object.deletionPublication])

/-- What is published before the change of availability. -/
def publishChange (time : Int) (oldAvail : AvailableFlag)
    (object : MqttObject) : Logged MqttObject Publication :=
  if object.isAvailable = .available then
    if object.retain then
      publishState time true
    else
      Logged.andThen (if oldAvail = .notSet then deleteRetained else .skip)
        (if object.publishMode = .everyPoll then publishState time true
        else .skip)
  else
    .skip

def publishUpdate (clock : RoundClock) (oldAvail : AvailableFlag) :
    Logged MqttObject Publication := fun object =>
  if oldAvail ≠ object.isAvailable then
    (publishChange clock.publishTime oldAvail object).andThen
      publishAvailabilityChange object
  else
    publishState clock.publishTime
      (object.needStateRepublish clock.republishCheck) object

/-- The update of the leaves that a round begins with. -/
def update (object : MqttObject) : Round → MqttObject × Option GatewayException
  | .values networkName slaveData =>
    object.updateRegisterValues networkName slaveData
  | .failed networkName slaveData =>
    object.updateRegistersReadFailed networkName slaveData
  | .networkDown networkName => object.setModbusNetworkState networkName false
  | .connected => (object, none)

def publish (clock : RoundClock) (oldAvail : AvailableFlag) :
    Round → Logged MqttObject Publication
  | .values _ _ => publishUpdate clock oldAvail
  | .failed _ _ => fun object =>
    (publishState clock.publishTime false).andThen
      (if oldAvail ≠ object.isAvailable then publishAvailabilityChange
      else .skip) object
  | .networkDown _ => fun object =>
    (if oldAvail ≠ object.isAvailable then publishAvailabilityChange
    else Logged.skip) object
  | .connected => fun object =>
    Logged.andThen
      (if object.isAvailable = .available then
        publishState clock.publishTime true
      else
        .skip) publishAvailabilityChange object

def perform (clock : RoundClock) (round : Round) :
    Logged MqttObject Publication := fun object =>
  match round.update object with
  | (_, some _) => none
  | (updated, none) => round.publish clock object.isAvailable updated

def step (object : MqttObject) (input : Round × RoundClock) :
    Option (MqttObject × List Publication) :=
  perform input.2 input.1 object

end Round

/-- The publication is on one of the two topics of an object. -/
def Publication.isOf (topic : String) (publication : Publication) : Bool :=
  publication.topic = topic ++ "/state" ||
    publication.topic = topic ++ "/availability"

theorem Publication.topic_unique {publication : Publication}
    {topic other : String} (here : publication.isOf topic = true)
    (there : publication.isOf other = true) : topic = other := by
  have same (suffix : String) (left : publication.topic = topic ++ suffix)
      (right : publication.topic = other ++ suffix) : topic = other := by
    exact (String.append_left_inj suffix).mp (left.symm.trans right)
  have crossed (first second : String)
      (left : publication.topic = first ++ "/state")
      (right : publication.topic = second ++ "/availability") : False := by
    have ends := congrArg (fun text => text.toList.getLast?)
      (left.symm.trans right)
    simp at ends
  rw [isOf, Bool.or_eq_true, decide_eq_true_eq, decide_eq_true_eq] at here there
  rcases here with state | availability
  · rcases there with otherState | otherAvailability
    · exact same _ state otherState
    · exact (crossed _ _ state otherAvailability).elim
  · rcases there with otherState | otherAvailability
    · exact (crossed _ _ otherState availability).elim
    · exact same _ availability otherAvailability

namespace MqttObject

/-- What the loader sets and nothing changes. -/
structure SameSettings (before after : MqttObject) : Prop where
  topic : after.topic = before.topic
  retain : after.retain = before.retain
  publishMode : after.publishMode = before.publishMode

namespace SameSettings

theorem refl (object : MqttObject) : SameSettings object object :=
  ⟨rfl, rfl, rfl⟩

theorem trans {first second third : MqttObject}
    (left : SameSettings first second) (right : SameSettings second third) :
    SameSettings first third :=
  ⟨right.topic.trans left.topic, right.retain.trans left.retain,
    right.publishMode.trans left.publishMode⟩

end SameSettings

theorem eq_or_unavailable_of_marks {leafUpdate : LeafUpdate}
    (marks : LeafMarks leafUpdate)
    (unreported : ∀ leaf, leafUpdate.changes leaf = false →
      leafUpdate.apply leaf = leaf) (object : MqttObject) :
    ((object.updateLeaves leafUpdate).1.updateAvailablityFlagIf
        (object.updateLeaves leafUpdate).2).1 = object ∨
      ((object.updateLeaves leafUpdate).1.updateAvailablityFlagIf
        (object.updateLeaves leafUpdate).2).1.isAvailable = .unavailable := by
  rw [updateAvailablityFlagIf]
  split
  · rename_i changed
    rw [updateLeaves_changes] at changed
    obtain ⟨leaf, listed, changes⟩ := List.any_eq_true.mp changed
    rw [updateAvailablityFlag_of_unread _ (marks leaf changes)]
    · exact .inr rfl
    · rw [leaves_updateLeaves]
      exact List.mem_map_of_mem listed
  · rename_i quiet
    refine .inl (updateLeaves_eq_self ?_)
    intro leaf listed
    rw [updateLeaves_changes, List.any_eq_true, not_exists] at quiet
    apply unreported
    simpa using fun changes => quiet leaf ⟨listed, changes⟩

theorem perform_settings (object : MqttObject) (update : ObjectUpdate) :
    SameSettings object (object.perform update).1 := by
  obtain ⟨isAvailable, same⟩ := object.perform_fields update
  rw [same]
  exact ⟨rfl, rfl, rfl⟩

end MqttObject

namespace Round

/-- Publishing changes what the object remembers of it, and is done on the
object's topics. -/
def Publishes (object : MqttObject) (publications : List Publication)
    (next : MqttObject) : Prop :=
  (∃ payload time, next =
    { object with
      lastPublishedPayload := payload
      lastPublishTime := time }) ∧
    ∀ publication ∈ publications, publication.isOf object.topic = true

theorem Publishes.refl (object : MqttObject) : Publishes object [] object :=
  ⟨⟨object.lastPublishedPayload, object.lastPublishTime, rfl⟩, by simp⟩

theorem Publishes.trans (object : MqttObject) (front : List Publication)
    (middle : MqttObject) (back : List Publication) (next : MqttObject)
    (left : Publishes object front middle)
    (right : Publishes middle back next) :
    Publishes object (front ++ back) next := by
  obtain ⟨⟨_, _, rfl⟩, own⟩ := left
  obtain ⟨⟨payload, time, rfl⟩, later⟩ := right
  exact ⟨⟨payload, time, rfl⟩, List.forall_mem_append.mpr ⟨own, later⟩⟩

/-- What publishing a state can do to an object. -/
inductive StatePublished (time : Int) (force : Bool) (object : MqttObject) :
    MqttObject → List Publication → Prop where
  | withheld (withheld : object.Withheld) :
      StatePublished time force object object []
  | unchanged (available : object.isAvailable = .available)
      (same : MqttPayload.generate object = .ok object.lastPublishedPayload)
      (unforced : force ≠ true) :
      StatePublished time force object object []
  | published {messageData : Payload}
      (available : object.isAvailable = .available)
      (generated : MqttPayload.generate object = .ok messageData)
      (needed : messageData ≠ object.lastPublishedPayload ∨ force = true) :
      StatePublished time force object
        { object with
          lastPublishedPayload := messageData
          lastPublishTime := some time }
        [object.statePublication messageData]

variable {object next : MqttObject} {publications : List Publication}
  {round : Round}

theorem publishState_published {time : Int} {force : Bool}
    (done : publishState time force object = some (next, publications)) :
    StatePublished time force object next publications := by
  rw [publishState] at done
  split at done
  · rename_i withheld
    cases done
    exact .withheld withheld
  · rename_i due
    have available : object.isAvailable = .available :=
      not_not.mp (not_or.mp due).1
    split at done
    · cases done
    · rename_i messageData generated
      split at done
      · rename_i needed
        cases done
        exact .published available generated needed
      · rename_i unneeded
        cases done
        obtain ⟨same, unforced⟩ := not_or.mp unneeded
        rw [not_not.mp same] at generated
        exact .unchanged available generated unforced

theorem publishState_publishes (time : Int) (force : Bool) :
    Logged.Within Publishes (publishState time force) := by
  intro object publications next done
  cases publishState_published done with
  | withheld _ => exact .refl object
  | unchanged _ _ _ => exact .refl object
  | published _ _ _ =>
    refine ⟨⟨_, _, rfl⟩, ?_⟩
    simp [MqttObject.statePublication, MqttObject.stateTopic,
      Publication.isOf]

theorem publishAvailabilityChange_publishes :
    Logged.Within Publishes publishAvailabilityChange := by
  intro object publications next done
  cases done
  refine ⟨⟨_, _, rfl⟩, ?_⟩
  split <;> simp [MqttObject.availabilityPublication,
    MqttObject.availabilityTopic, Publication.isOf]

theorem deleteRetained_publishes : Logged.Within Publishes deleteRetained := by
  intro object publications next done
  rw [deleteRetained] at done
  split at done
  · cases done
  · cases done
    refine ⟨⟨_, _, rfl⟩, ?_⟩
    simp [MqttObject.deletionPublication, MqttObject.stateTopic,
      Publication.isOf]

section Within

variable {relation : MqttObject → List Publication → MqttObject → Prop}
  (refl : ∀ object, relation object [] object)
  (trans : ∀ object front middle back next, relation object front middle →
    relation middle back next → relation object (front ++ back) next)
  (state : ∀ time force, Logged.Within relation (publishState time force))
  (availability : Logged.Within relation publishAvailabilityChange)
  (deletion : Logged.Within relation deleteRetained) (clock : RoundClock)
  (oldAvail : AvailableFlag)

include refl trans state availability deletion

theorem publishUpdate_within :
    Logged.Within relation (publishUpdate clock oldAvail) := by
  have skipped : Logged.Within relation .skip := .skip refl
  intro object publications next done
  rw [publishUpdate] at done
  split at done
  · refine Logged.Within.andThen trans ?_ availability object publications next
      done
    exact .ite
      (.ite (state _ true)
        (.andThen trans (.ite deletion skipped)
          (.ite (state _ true) skipped))) skipped
  · exact state _ _ object publications next done

theorem publish_within (round : Round) :
    Logged.Within relation (round.publish clock oldAvail) := by
  have skipped : Logged.Within relation .skip := .skip refl
  have change (object : MqttObject) : Logged.Within relation
      (if oldAvail ≠ object.isAvailable then publishAvailabilityChange
      else .skip) :=
    .ite availability skipped
  cases round with
  | values networkName slaveData =>
    exact publishUpdate_within refl trans state availability deletion clock
      oldAvail
  | failed networkName slaveData =>
    intro object
    exact Logged.Within.andThen trans (state _ false) (change object) object
  | networkDown networkName =>
    intro object
    exact change object object
  | connected =>
    intro object
    exact Logged.Within.andThen trans (.ite (state _ true) skipped)
      availability object

end Within

theorem publish_publishes (clock : RoundClock) (oldAvail : AvailableFlag)
    (round : Round) : Logged.Within Publishes (round.publish clock oldAvail) :=
  publish_within .refl .trans publishState_publishes
    publishAvailabilityChange_publishes deleteRetained_publishes clock oldAvail
    round

theorem update_settings (object : MqttObject) (round : Round) :
    object.SameSettings (round.update object).1 := by
  cases round with
  | values networkName slaveData =>
    exact object.perform_settings (.registerValues networkName slaveData)
  | failed networkName slaveData =>
    exact object.perform_settings (.registersReadFailed networkName slaveData)
  | networkDown networkName =>
    exact object.perform_settings (.modbusNetworkState networkName false)
  | connected => exact .refl object

def isValues : Round → Bool
  | .values _ _ => true
  | _ => false

theorem update_eq_or_unavailable
    (other : round.isValues = false) (object : MqttObject) :
    (round.update object).1 = object ∨
      (round.update object).1.isAvailable = .unavailable := by
  cases round with
  | values networkName slaveData => cases other
  | failed networkName slaveData =>
    exact MqttObject.eq_or_unavailable_of_marks
      (MqttObject.leafMarks_registersReadFailed networkName slaveData)
      (fun _ => LeafUpdate.apply_registersReadFailed) object
  | networkDown networkName =>
    exact MqttObject.eq_or_unavailable_of_marks
      (MqttObject.leafMarks_networkDown networkName)
      (fun _ => LeafUpdate.apply_modbusNetworkState) object
  | connected => exact .inl rfl

theorem update_eq_of_available
    (other : round.isValues = false) {updated : MqttObject}
    {thrown : Option GatewayException}
    (updating : round.update object = (updated, thrown))
    (available : updated.isAvailable = .available) : updated = object := by
  have outcome := update_eq_or_unavailable other object
  rw [updating] at outcome
  rcases outcome with same | unavailable
  · exact same
  · exact absurd (available.symm.trans unavailable) (by decide)

theorem update_payload (object : MqttObject) (round : Round) :
    (round.update object).1.lastPublishedPayload = object.lastPublishedPayload ∧
      (round.update object).1.lastPublishTime = object.lastPublishTime := by
  have performed (update : ObjectUpdate) :
      (object.perform update).1.lastPublishedPayload =
          object.lastPublishedPayload ∧
        (object.perform update).1.lastPublishTime =
          object.lastPublishTime := by
    obtain ⟨isAvailable, same⟩ := object.perform_fields update
    rw [same]
    exact ⟨rfl, rfl⟩
  cases round with
  | values networkName slaveData =>
    exact performed (.registerValues networkName slaveData)
  | failed networkName slaveData =>
    exact performed (.registersReadFailed networkName slaveData)
  | networkDown networkName =>
    exact performed (.modbusNetworkState networkName false)
  | connected => exact ⟨rfl, rfl⟩

theorem step_eq_some {clock : RoundClock}
    (stepped : step object (round, clock) = some (next, publications)) :
    ∃ updated, round.update object = (updated, none) ∧
      round.publish clock object.isAvailable updated =
        some (next, publications) := by
  rw [step, perform] at stepped
  split at stepped
  · cases stepped
  · rename_i updated same
    exact ⟨updated, same, stepped⟩

theorem step_owned {input : Round × RoundClock}
    (stepped : step object input = some (next, publications)) :
    object.SameSettings next ∧
      ∀ publication ∈ publications, publication.isOf object.topic = true := by
  obtain ⟨updated, same, published⟩ := step_eq_some stepped
  have settings := input.1.update_settings object
  rw [same] at settings
  obtain ⟨⟨_, _, rfl⟩, own⟩ := publish_publishes _ _ _ _ _ _ published
  rw [settings.topic] at own
  exact ⟨settings.trans ⟨rfl, rfl, rfl⟩, own⟩

end Round

def ProcessInput.Accepts (input : ProcessInput) : Prop :=
  ∀ id kind, input.refuses id kind = false

def ProcessInput.clock (input : ProcessInput) (id : ObjectId) : RoundClock :=
  { republishCheck := input.republishCheck id
    publishTime := input.publishTime id }

namespace MqttClient

variable {input : ProcessInput}

/-- The action does to the object what the logged effect says, and nothing to
the others. -/
abbrev Realizes (id : ObjectId) (logged : Logged MqttObject Publication)
    (action : Action) : Prop :=
  Effect.Realizes MqttClient.store MqttClient.published id logged action

theorem publish_of_accepts (accepts : input.Accepts) (id : ObjectId)
    (kind : PublishKind) (publication : Publication) (client : MqttClient) :
    publish input id kind publication client =
      ({ client with published := client.published ++ [publication] },
        none) := by
  rw [publish, if_neg (by simp [accepts id kind])]

theorem publishState_realizes (accepts : input.Accepts) (id : ObjectId)
    (force : Bool) :
    Realizes id (Round.publishState (input.publishTime id) force)
      (publishState input id force) := by
  have same (client : MqttClient) : client.store =
      Function.update client.store id (client.store id) :=
    (Function.update_eq_self ..).symm
  intro client next done
  rw [publishState] at done
  dsimp only at done
  rw [Round.publishState]
  split at done
  · rename_i absent
    cases done
    have withheld : (client.store id).Withheld := .inl absent
    rw [if_pos withheld]
    exact ⟨_, _, rfl, same client, (List.append_nil _).symm⟩
  · rename_i available
    split at done
    · rename_i once
      cases done
      have withheld : (client.store id).Withheld := .inr once
      rw [if_pos withheld]
      exact ⟨_, _, rfl, same client, (List.append_nil _).symm⟩
    · rename_i unpublished
      have due : ¬(client.store id).Withheld := not_or.mpr ⟨available, unpublished⟩
      rw [if_neg due]
      cases generated : MqttPayload.generate (client.store id) with
      | error exception =>
        rw [generated] at done
        cases done
      | ok messageData =>
        rw [generated] at done
        dsimp only at done ⊢
        split at done
        · rename_i needed
          rw [Effect.andThen_of_none
            (publish_of_accepts accepts id _ _ client)] at done
          cases done
          rw [if_pos needed]
          exact ⟨_, _, rfl, rfl, rfl⟩
        · rename_i unneeded
          cases done
          rw [if_neg unneeded]
          exact ⟨_, _, rfl, same client, (List.append_nil _).symm⟩

theorem publishAvailabilityChange_realizes (accepts : input.Accepts)
    (id : ObjectId) :
    Realizes id Round.publishAvailabilityChange
      (publishAvailabilityChange input id) := by
  intro client next done
  refine ⟨client.store id, _, rfl, ?_⟩
  rw [publishAvailabilityChange] at done
  dsimp only at done
  cases flag : (client.store id).isAvailable with
  | notSet =>
    rw [flag] at done
    cases done
    exact ⟨(Function.update_eq_self ..).symm, by simp⟩
  | unavailable | available =>
    rw [flag] at done
    dsimp only at done
    rw [Effect.catching, publish_of_accepts accepts] at done
    cases done
    refine ⟨(Function.update_eq_self ..).symm, ?_⟩
    rw [MqttObject.availabilityPublication, flag]
    rfl

theorem deleteRetained_realizes (accepts : input.Accepts) (id : ObjectId) :
    Realizes id Round.deleteRetained (deleteRetained input id) := by
  intro client next done
  rw [deleteRetained,
    Effect.andThen_of_none (publish_of_accepts accepts id _ _ client),
    rememberPayload] at done
  dsimp only at done
  rw [Round.deleteRetained]
  cases generated : MqttPayload.generate (client.store id) with
  | error exception =>
    rw [generated] at done
    cases done
  | ok payload =>
    rw [generated] at done
    cases done
    exact ⟨_, _, rfl, rfl, rfl⟩

theorem publishUpdate_realizes (accepts : input.Accepts) (id : ObjectId)
    (oldAvail : AvailableFlag) :
    Realizes id (Round.publishUpdate (input.clock id) oldAvail)
      (publishUpdate input id oldAvail) := by
  intro client next done
  rw [publishUpdate] at done
  dsimp only at done
  rw [Round.publishUpdate]
  split at done
  · rename_i changed
    rw [if_pos changed, Round.publishChange]
    exact Effect.Realizes.andThen
      (.ite
        (.ite (publishState_realizes accepts id true)
          (.andThen (.ite (deleteRetained_realizes accepts id) .skip)
            (.ite (publishState_realizes accepts id true) .skip)))
        .skip)
      (publishAvailabilityChange_realizes accepts id) client next done
  · rename_i unchanged
    rw [if_neg unchanged]
    exact publishState_realizes accepts id _ client next done

theorem Realizes.setObject {id : ObjectId}
    {logged : Logged MqttObject Publication} {action : Action}
    (realizes : Realizes id logged action) {client next : MqttClient}
    {updated : MqttObject}
    (done : action (client.setObject id updated) = (next, none)) :
    ∃ object publications, logged updated = some (object, publications) ∧
      next.store = Function.update client.store id object ∧
      next.published = client.published ++ publications := by
  obtain ⟨object, publications, changed, stored, published⟩ :=
    realizes _ next done
  rw [setObject_self] at changed
  refine ⟨object, publications, changed, ?_, published⟩
  rw [stored, MqttClient.setObject, Function.update_idem]

theorem processObjectValues_realizes (accepts : input.Accepts)
    (networkName : String) (slaveData : MsgRegisterValues) (id : ObjectId) :
    Realizes id (Round.perform (input.clock id) (.values networkName slaveData))
      (processObjectValues input networkName slaveData id) := by
  intro client next
  rw [processObjectValues, Round.perform, Round.update]
  cases (client.store id).updateRegisterValues networkName
      slaveData with
  | mk updated thrown =>
    intro done
    cases thrown with
    | some exception => cases done
    | none =>
      exact Realizes.setObject
        (publishUpdate_realizes accepts id _) done

theorem processObjectFailed_realizes (accepts : input.Accepts)
    (networkName : String) (slaveData : ModbusMessageBase) (id : ObjectId) :
    Realizes id (Round.perform (input.clock id) (.failed networkName slaveData))
      (processObjectFailed input networkName slaveData id) := by
  intro client next
  rw [processObjectFailed, Round.perform, Round.update]
  cases (client.store id).updateRegistersReadFailed
      networkName slaveData with
  | mk updated thrown =>
    intro done
    cases thrown with
    | some exception => cases done
    | none =>
      exact Realizes.setObject
        (.andThen (publishState_realizes accepts id false)
          (.ite (publishAvailabilityChange_realizes accepts id) .skip)) done

theorem processObjectNetworkState_realizes (accepts : input.Accepts)
    (networkName : String) (id : ObjectId) :
    Realizes id (Round.perform (input.clock id) (.networkDown networkName))
      (processObjectNetworkState input networkName false id) := by
  intro client next
  rw [processObjectNetworkState, Round.perform, Round.update]
  cases (client.store id).setModbusNetworkState
      networkName false with
  | mk updated thrown =>
    intro done
    cases thrown with
    | some exception => cases done
    | none =>
      exact Realizes.setObject
        (.ite (publishAvailabilityChange_realizes accepts id) .skip) done

theorem publishObject_realizes (accepts : input.Accepts) (id : ObjectId) :
    Realizes id (Round.perform (input.clock id) .connected)
      (publishObject input id) := by
  intro client next done
  rw [publishObject] at done
  exact Effect.Realizes.andThen
    (.ite (publishState_realizes accepts id true) .skip)
    (publishAvailabilityChange_realizes accepts id) client next done

end MqttClient

end MqmGateway
