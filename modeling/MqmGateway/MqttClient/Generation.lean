import MqmGateway.Gateway.ClientRuns
import MqmGateway.MqttClient.Keeping

/-!
# Payloads are generated from a state

`MqttPayload::generate` reads the first node of the state.  Objects come to
it through any register they have, those of the availability section too, so
what it needs is that every object with an availability has a state.
-/

namespace MqmGateway

theorem MqttObject.nodes_perform (object : MqttObject) (update : ObjectUpdate)
    (stated : object.state.nodes ≠ []) :
    (object.perform update).1.state.nodes ≠ [] := by
  obtain ⟨first, rest, nodes⟩ := List.exists_cons_of_ne_nil stated
  simp [perform_state, MqttObjectState.update, nodes,
    MqttObjectDataNode.updateNodes]

namespace Round

open MqttObject

/-- The objects that `publishState` hands to `generate`. -/
def publishStateCalls (object : MqttObject) : List MqttObject :=
  if object.Withheld then [] else [object]

/-- The same for `processRegisterValues`.  Publishing in between changes
nothing that is generated. -/
def publishUpdateCalls (oldAvail : AvailableFlag) (object : MqttObject) :
    List MqttObject :=
  if oldAvail ≠ object.isAvailable then
    if object.isAvailable = .available then
      if object.retain then
        publishStateCalls object
      else
        (if oldAvail = .notSet then [object] else []) ++
          if object.publishMode = .everyPoll then publishStateCalls object
          else []
    else
      []
  else
    publishStateCalls object

def publishCalls (oldAvail : AvailableFlag) :
    Round → MqttObject → List MqttObject
  | .values _ _, object => publishUpdateCalls oldAvail object
  | .failed _ _, object => publishStateCalls object
  | .networkDown _, _ => []
  | .connected, object =>
    if object.isAvailable = .available then publishStateCalls object else []

/-- The objects that a round hands to `generate`, if no publication fails. -/
def calls (round : Round) (object : MqttObject) : List MqttObject :=
  match round.update object with
  | (_, some _) => []
  | (updated, none) => round.publishCalls object.isAvailable updated

def Fails (calls : List MqttObject) : Prop :=
  ∃ object ∈ calls, ∃ exception,
    MqttPayload.generate object = .error exception

theorem fails_append (first second : List MqttObject) :
    Fails (first ++ second) ↔ Fails first ∨ Fails second := by
  simp only [Fails, List.mem_append, or_and_right, exists_or]

theorem fails_nil : ¬ Fails [] := by
  rintro ⟨_, listed, _⟩
  cases listed

theorem fails_singleton (object : MqttObject) : Fails [object] ↔
      ∃ exception, MqttPayload.generate object = .error exception := by
  simp [Fails]

theorem publishState_eq_none_iff (time : Int) (force : Bool)
    (object : MqttObject) :
    publishState time force object = none ↔
      Fails (publishStateCalls object) := by
  rw [publishState, publishStateCalls]
  split
  · simp [fails_nil]
  · rw [fails_singleton]
    cases MqttPayload.generate object with
    | error exception => simp
    | ok payload =>
      dsimp only
      split <;> simp

theorem changeAvailability_total (condition : Prop) [Decidable condition]
    (object : MqttObject) :
    (if condition then publishAvailabilityChange else Logged.skip) object ≠
      none := by
  split <;> simp [publishAvailabilityChange, Logged.skip]

theorem fails_publishStateCalls (object : MqttObject) (payload : Payload) :
    Fails (publishStateCalls
        { object with lastPublishedPayload := payload }) ↔
      Fails (publishStateCalls object) := by
  unfold publishStateCalls
  by_cases withheld : object.Withheld
  · rw [if_pos withheld, if_pos (show Withheld { object with
      lastPublishedPayload := payload } from withheld)]
  · rw [if_neg withheld, if_neg (show ¬ Withheld { object with
      lastPublishedPayload := payload } from withheld), fails_singleton,
      fails_singleton]
    exact Iff.rfl

theorem publishChange_eq_none_iff (time : Int) (oldAvail : AvailableFlag)
    (object : MqttObject) (changed : oldAvail ≠ object.isAvailable) :
    publishChange time oldAvail object object = none ↔
      Fails (publishUpdateCalls oldAvail object) := by
  have later (payload : Payload) :
      (if object.publishMode = .everyPoll then publishState time true
        else Logged.skip) { object with lastPublishedPayload := payload } =
          none ↔
        Fails (if object.publishMode = .everyPoll then
          publishStateCalls object else []) := by
    split
    · rw [publishState_eq_none_iff, fails_publishStateCalls]
    · simp [Logged.skip, fails_nil]
  rw [publishChange, publishUpdateCalls, if_pos changed]
  split
  · split
    · exact publishState_eq_none_iff time true object
    · rw [fails_append, Logged.andThen]
      by_cases unset : oldAvail = .notSet
      · rw [if_pos unset, if_pos unset, fails_singleton, deleteRetained]
        cases MqttPayload.generate object with
        | error exception => simp
        | ok payload => simpa using later payload
      · rw [if_neg unset, if_neg unset]
        simpa [Logged.skip, fails_nil] using later object.lastPublishedPayload
  · simp [Logged.skip, fails_nil]

theorem step_eq_none_iff (object : MqttObject) (round : Round)
    (clock : RoundClock) :
    step object (round, clock) = none ↔
      (round.update object).2 ≠ none ∨ Fails (round.calls object) := by
  rw [step, perform, calls]
  cases updating : round.update object with
  | mk updated thrown =>
    cases thrown with
    | some exception => simp
    | none =>
      simp only [ne_eq, not_true_eq_false, false_or]
      have total : ∀ object, publishAvailabilityChange object ≠ none := by
        simp [publishAvailabilityChange]
      cases round with
      | values networkName slaveData =>
        rw [publish, publishUpdate, publishCalls]
        split
        · rename_i changed
          rw [Logged.andThen_eq_none_iff total]
          exact publishChange_eq_none_iff _ _ updated changed
        · rename_i same
          rw [publishUpdateCalls, if_neg same]
          exact publishState_eq_none_iff _ _ updated
      | failed networkName slaveData =>
        rw [publish, publishCalls,
          Logged.andThen_eq_none_iff (changeAvailability_total _)]
        exact publishState_eq_none_iff _ _ updated
      | networkDown networkName =>
        simp only [publish, publishCalls, fails_nil, iff_false]
        exact changeAvailability_total _ updated
      | connected =>
        rw [publish, publishCalls, Logged.andThen_eq_none_iff total]
        split
        · exact publishState_eq_none_iff _ _ updated
        · simp [Logged.skip, fails_nil]

/-- Every call is made for the updated object. -/
theorem eq_of_publishCalls {oldAvail : AvailableFlag} {round : Round}
    {object called : MqttObject}
    (listed : called ∈ round.publishCalls oldAvail object) :
    called = object := by
  have state (listed : called ∈ publishStateCalls object) :
      called = object := by
    rw [publishStateCalls] at listed
    split at listed
    · cases listed
    · exact List.mem_singleton.mp listed
  cases round with
  | failed networkName slaveData => exact state listed
  | networkDown networkName => cases listed
  | connected =>
    rw [publishCalls] at listed
    split at listed
    · exact state listed
    · cases listed
  | values networkName slaveData =>
    rw [publishCalls, publishUpdateCalls] at listed
    split at listed
    · split at listed
      · split at listed
        · exact state listed
        · rcases List.mem_append.mp listed with first | second
          · split at first
            · exact List.mem_singleton.mp first
            · cases first
          · split at second
            · exact state second
            · cases second
      · cases listed
    · exact state listed

theorem nodes_of_calls {round : Round} {object called : MqttObject}
    (stated : object.state.nodes ≠ [])
    (listed : called ∈ round.calls object) : called.state.nodes ≠ [] := by
  rw [calls] at listed
  split at listed
  · cases listed
  · rename_i updated updating
    rw [eq_of_publishCalls listed]
    have kept : (round.update object).1.state.nodes ≠ [] := by
      cases round with
      | values networkName slaveData =>
        exact object.nodes_perform (.registerValues networkName slaveData)
          stated
      | failed networkName slaveData =>
        exact object.nodes_perform
          (.registersReadFailed networkName slaveData) stated
      | networkDown networkName =>
        exact object.nodes_perform (.modbusNetworkState networkName false)
          stated
      | connected => exact stated
    rw [updating] at kept
    exact kept

end Round

namespace MqttClient

/-- The objects that a step hands to `generate`, if no publication fails. -/
def calls (client : MqttClient) (input : ClientInput) : List MqttObject :=
  let handled :=
    match input with
    | .connected _ => client.polledObjects
    | .process networkName _ item => client.affected networkName item
    | .disconnected | .message _ => []
  handled.flatMap fun id =>
    ((client.roundOf id input).map fun round =>
      round.1.calls (client.store id)).getD []

theorem nodes_of_calls {client : MqttClient} {input : ClientInput}
    (stated : ∀ id, client.Listed id → (client.store id).state.nodes ≠ [])
    {called : MqttObject} (listed : called ∈ client.calls input) :
    called.state.nodes ≠ [] := by
  obtain ⟨id, handled, member⟩ := List.mem_flatMap.mp listed
  have known : client.Listed id := by
    cases input with
    | connected call => exact .inl (mem_of_polledObjects handled)
    | process networkName call item => exact listed_of_affected handled
    | disconnected => cases handled
    | message message => cases handled
  cases meant : client.roundOf id input with
  | none =>
    rw [meant] at member
    cases member
  | some round =>
    rw [meant] at member
    exact Round.nodes_of_calls (stated id known) member

end MqttClient

namespace Loaded

variable {loaded : Loaded} {rpcMode : RpcMode} {rpcRequestTopic : String}

theorem mem_mappings_of_mapped {entry : MqttObjectRegisterIdent × List ObjectId}
    (listed : entry ∈ loaded.mappedPollObjects) {id : ObjectId}
    (member : id ∈ entry.2) : (entry.1, id) ∈ loaded.mappings := by
  have mapped : ∀ entry ∈ loaded.mappedPollObjects, ∀ id ∈ entry.2,
      (entry.1, id) ∈ loaded.mappings := by
    let sound (entries : List (MqttObjectRegisterIdent × List ObjectId)) :
        Prop :=
      ∀ entry ∈ entries, ∀ id ∈ entry.2, (entry.1, id) ∈ loaded.mappings
    have empty : sound [] := by
      intro entry listed
      cases listed
    refine List.foldlRecOn loaded.mappings _ (motive := sound) empty ?_
    intro entries known added addedListed
    refine Upsert.forall_mem_upsert known (by simp) ?_
    intro entry same before id member
    rcases List.mem_append.mp member with earlier | here
    · exact before id earlier
    · rw [List.mem_singleton.mp here, show entry.1 = added.1 from same]
      exact addedListed
  exact mapped entry listed id member

theorem leaves_of_listed {id : ObjectId}
    (listed : (loaded.client rpcMode rpcRequestTopic).Listed id) :
    id < loaded.objects.length ∧ (loaded.object id).leaves ≠ [] := by
  have registered {name : String} {range : ModbusMessageBase}
      (inside : (loaded.object id).hasRegisterIn name range = true) :
      (loaded.object id).leaves ≠ [] := by
    rw [MqttObject.hasRegisterIn_eq] at inside
    obtain ⟨leaf, shown, _⟩ := List.any_eq_true.mp inside
    exact List.ne_nil_of_mem shown
  rcases listed with ⟨entry, mapped, member⟩ | ⟨commandId, ids, mapped, member⟩
  · obtain ⟨below, _, _, _, _, inside, _⟩ :=
      mem_mappings_iff.mp (mem_mappings_of_mapped mapped member)
    exact ⟨below, registered inside⟩
  · obtain ⟨command, _, chosen⟩ := Option.bind_eq_some_iff.mp mapped
    dsimp only at chosen
    split at chosen
    · cases chosen
    · cases chosen
      obtain ⟨below, inside⟩ := List.mem_filter.mp member
      exact ⟨List.mem_range.mp below, registered inside⟩

theorem nodes_of_leaves {object : MqttObject} (shown : object.leaves ≠ []) :
    object.state.nodes ≠ [] ∨ object.availability.nodes ≠ [] := by
  by_contra neither
  obtain ⟨stateless, unguarded⟩ := not_or.mp neither
  apply shown
  rw [MqttObject.leaves, MqttObjectState.leaves, MqttObjectState.leaves,
    not_not.mp stateless, not_not.mp unguarded]
  rfl

/-- If every object with an availability has a state, payloads are generated
from a state in every run, and a round that throws does so in its update or
while it generates such a payload. -/
theorem generated_from_state {libraries : RequestLibraries}
    (stated : ∀ object ∈ loaded.objects,
      object.availability.nodes ≠ [] → object.state.nodes ≠ [])
    {client : MqttClient} {history : List Publication}
    (run : Runs (MqttClient.step libraries) (fun _ _ _ => True)
      (loaded.client rpcMode rpcRequestTopic) client history)
    (input : ClientInput) :
    (∀ called ∈ client.calls input, called.state.nodes ≠ []) ∧
      ∀ id round, client.Listed id → client.roundOf id input = some round →
        Round.step (client.store id) round = none →
        (round.1.update (client.store id)).2 ≠ none ∨
          ∃ called ∈ round.1.calls (client.store id), called.state.nodes ≠ [] ∧
            ∃ exception, MqttPayload.generate called = .error exception := by
  have kept : MqttClient.KeptByRounds fun object =>
      object.state.nodes ≠ [] :=
    ⟨fun object update => object.nodes_perform update, fun _ _ _ => id⟩
  have tables := MqttClient.run_sameTables run
  have initially : ∀ id, (loaded.client rpcMode rpcRequestTopic).Listed id →
      (loaded.object id).state.nodes ≠ [] := by
    intro id listed
    obtain ⟨below, shown⟩ := leaves_of_listed listed
    have member : loaded.object id ∈ loaded.objects := by
      rw [object, List.getD_eq_getElem?_getD, List.getElem?_eq_getElem below]
      exact List.getElem_mem below
    rcases nodes_of_leaves shown with state | availability
    · exact state
    · exact stated _ member availability
  have always : ∀ id, client.Listed id →
      (client.store id).state.nodes ≠ [] := by
    intro id known
    exact MqttClient.run_keeps kept run id
      (initially id ((tables.listed id).mp known))
  refine ⟨fun called listed => MqttClient.nodes_of_calls always listed, ?_⟩
  intro id round known _ thrown
  rcases (Round.step_eq_none_iff _ round.1 round.2).mp thrown with
    updating | ⟨called, listed, throws⟩
  · exact .inl updating
  · exact .inr ⟨called, listed, Round.nodes_of_calls (always id known) listed,
      throws⟩

def availabilitySection : String × YamlNode :=
  ("availability", .map [("register", .scalar "1")])

def stateSection : String × YamlNode :=
  ("state", .map [("register", .scalar "2")])

theorem generated_from_state_guarded :
    ∃ (loaded : Loaded) (client : MqttClient), ModMqtt.load numberLibraries
        (objectFile [] [stateSection, availabilitySection]) = .ok loaded ∧
      client.calls (.process "net" (MqttClient.refusing none)
        (.registerValues (.create 1 .holding 1 [5] 0 .auto))) ≠ [] ∧
      ∀ called ∈ client.calls (.process "net" (MqttClient.refusing none)
        (.registerValues (.create 1 .holding 1 [5] 0 .auto))),
        called.state.nodes ≠ [] := by
  obtain ⟨loaded, loading, stated, unthrown, quiet, called⟩ := exists_loaded
    (show ((ModMqtt.load numberLibraries
      (objectFile [] [stateSection, availabilitySection])).toOption.any
        fun loaded => decide (
          (∀ object ∈ loaded.objects, object.availability.nodes ≠ [] →
            object.state.nodes ≠ []) ∧
          (MqttClient.onConnect (MqttClient.refusing none)
            (loaded.client .disabled "")).2 = none ∧
          (MqttClient.processModbusMessage (MqttClient.refusing none) "net"
            (.registerValues (MqttClient.registerRead 1))
            loaded.connectedClient).2 = none ∧
          (loaded.connectedClient.processed
            (.registerValues (MqttClient.registerRead 1))).calls
              (.process "net" (MqttClient.refusing none)
                (.registerValues (.create 1 .holding 1 [5] 0 .auto))) ≠
                  [])) = true by decide +kernel)
  exact ⟨loaded, _, loading, called, (generated_from_state stated
    (.step (connectedClient_run unthrown) trivial
      (MqttClient.step_of_quiet quiet)) _).1⟩

/-- An object that has an availability and no state is available as soon as
that is read, and its payload is generated from nothing. -/
theorem generated_without_state :
    ∃ (loaded : Loaded) (history : List Publication),
      ModMqtt.load numberLibraries (objectFile [] [availabilitySection]) =
        .ok loaded ∧
      Runs (MqttClient.step noLibraries) (fun _ _ _ => True)
        (loaded.client .disabled "") loaded.connectedClient history ∧
      (∃ called ∈ loaded.connectedClient.calls
        (.process "net" (MqttClient.refusing none)
          (.registerValues (MqttClient.registerRead 1))),
        called.state.nodes = []) ∧
      (MqttClient.processModbusMessage (MqttClient.refusing none) "net"
        (.registerValues (MqttClient.registerRead 1))
        loaded.connectedClient).2 = some .undefined := by
  obtain ⟨loaded, loading, unthrown, called⟩ := exists_loaded
    (show ((ModMqtt.load numberLibraries
      (objectFile [] [availabilitySection])).toOption.any fun loaded => decide (
        (MqttClient.onConnect (MqttClient.refusing none)
          (loaded.client .disabled "")).2 = none ∧
        (∃ called ∈ loaded.connectedClient.calls
          (.process "net" (MqttClient.refusing none)
            (.registerValues (MqttClient.registerRead 1))),
          called.state.nodes = []) ∧
        (MqttClient.processModbusMessage (MqttClient.refusing none) "net"
          (.registerValues (MqttClient.registerRead 1))
          loaded.connectedClient).2 = some .undefined)) = true by
            decide +kernel)
  exact ⟨loaded, _, loading, connectedClient_run unthrown, called⟩

end Loaded

end MqmGateway
