import Mathlib.Data.List.Dedup
import MqmGateway.MqttClient.Processing

/-!
# How far an error spreads

`processRegisterValues` has one `try` around its whole loop, which catches the
exceptions of publishing only; `processRegistersOperationFailed` has none.  An
error with one object therefore concerns the objects listed after it.
-/

namespace MqmGateway

namespace MqttClient

variable (input : ProcessInput)

/-- The objects a message concerns.  Values that arrive without a connection
are dropped, and a failed request only has a reply. -/
def affected (client : MqttClient) (networkName : String) :
    QueueItem → List ObjectId
  | .registerValues message =>
    if client.isConnected then
      (client.affectedByValues networkName message).getD []
    else
      []
  | .registerReadFailed message | .registerWriteFailed message =>
    if message.isRpc then
      []
    else
      client.affectedByFailure networkName message
  | .modbusNetworkState name isUp =>
    if isUp then [] else client.objectsOfNetwork name

def leafUpdate (networkName : String) : QueueItem → LeafUpdate
  | .registerValues message => .registerValues networkName message
  | .registerReadFailed message | .registerWriteFailed message =>
    .registersReadFailed networkName message
  | .modbusNetworkState name isUp => .modbusNetworkState name isUp

/-- No exception leaves the processing of the message, and every object it
concerns has had it applied. -/
structure Isolated (networkName : String) (item : QueueItem)
    (client : MqttClient) : Prop where
  caught : (processModbusMessage input networkName item client).2 = none
  applied : ∀ id ∈ client.affected networkName item,
    UpdatesLeaves (leafUpdate networkName item) id (client.store id)
      ((processModbusMessage input networkName item client).1.store id)

/-- The objects from the first one on that something goes wrong with. -/
def disturbed (networkName : String) (slaveData : MsgRegisterValues)
    (client : MqttClient) : List ObjectId :=
  ((client.affectedByValues networkName slaveData).getD []).dropWhile fun id =>
    (valuesFailure input networkName slaveData id (client.store id)).isNone

/-- Poll results have objects; the first object that something goes wrong with
cannot be published, and the message tells the objects after it nothing new.
With a failed operation nothing at all may go wrong. -/
def Undisturbed (networkName : String) (item : QueueItem)
    (client : MqttClient) : Prop :=
  match item with
  | .registerValues message =>
    client.isConnected = true →
      (client.affectedByValues networkName message).isSome = true ∧
      match disturbed input networkName message client with
      | [] => True
      | id :: rest =>
        valuesFailure input networkName message id (client.store id) =
          some .mosquitto ∧
        ∀ later ∈ rest, UpdatesLeaves (.registerValues networkName message)
          later (client.store later) (client.store later)
  | .registerReadFailed message | .registerWriteFailed message =>
    message.isRpc = false →
      ∀ id ∈ client.affectedByFailure networkName message,
        operationFailure input networkName message id (client.store id) = none
  | .modbusNetworkState _ _ => True

instance (networkName : String) (item : QueueItem) (client : MqttClient) :
    Decidable (Undisturbed input networkName item client) :=
  match item with
  | .registerValues message =>
    have : Decidable (match disturbed input networkName message client with
        | [] => True
        | id :: rest =>
          valuesFailure input networkName message id (client.store id) =
            some .mosquitto ∧
          ∀ later ∈ rest, UpdatesLeaves
            (.registerValues networkName message) later
            (client.store later) (client.store later)) :=
      match disturbed input networkName message client with
      | [] => isTrue trivial
      | _ :: _ => inferInstanceAs (Decidable (_ ∧ _))
    inferInstanceAs (Decidable (_ → _ ∧ _))
  | .registerReadFailed _ | .registerWriteFailed _ =>
    inferInstanceAs (Decidable (_ → _))
  | .modbusNetworkState _ _ => isTrue trivial

/-- No list of the client names an object twice. -/
structure DistinctLists (client : MqttClient) : Prop where
  objects : ∀ entry ∈ client.objects, entry.2.Nodup
  commandObjects : ∀ commandId ids,
    client.commandObjects commandId = some ids → ids.Nodup

namespace DistinctLists

variable {client : MqttClient}

theorem findObjects (distinct : client.DistinctLists)
    {ident : MqttObjectRegisterIdent} {ids : List ObjectId}
    (found : client.findObjects ident = some ids) : ids.Nodup := by
  obtain ⟨entry, listed, rfl⟩ := Option.map_eq_some_iff.mp found
  exact distinct.objects entry (List.mem_of_find?_eq_some listed)

theorem affectedByFailure (distinct : client.DistinctLists)
    (networkName : String) (slaveData : ModbusMessageBase) :
    (client.affectedByFailure networkName slaveData).Nodup := by
  rw [MqttClient.affectedByFailure]
  cases found : client.findObjects (.ofMessage networkName slaveData) with
  | none => exact List.nodup_nil
  | some ids => exact distinct.findObjects found

theorem affectedByValues (distinct : client.DistinctLists)
    {networkName : String} {slaveData : MsgRegisterValues}
    {ids : List ObjectId}
    (found : client.affectedByValues networkName slaveData = some ids) :
    ids.Nodup := by
  rw [MqttClient.affectedByValues] at found
  split at found
  · split at found
    · rename_i mapped
      cases found
      exact distinct.commandObjects _ _ mapped
    · split at found
      · cases found
        exact distinct.affectedByFailure networkName _
      · cases found
        exact List.nodup_nil
  · exact distinct.findObjects found

end DistinctLists

theorem objectsOfNetwork_nodup (client : MqttClient) (networkName : String) :
    (client.objectsOfNetwork networkName).Nodup :=
  List.nodup_reverse.mpr (List.nodup_dedup _)

theorem publishRpcResponse_quiet (values : MsgRegisterValues)
    (client : MqttClient) :
    (publishRpcResponse values client).1.store = client.store ∧
      (publishRpcResponse values client).2 = none := by
  rw [publishRpcResponse]
  split
  · exact ⟨rfl, rfl⟩
  · dsimp only
    split <;> exact ⟨rfl, rfl⟩

theorem publishRpcError_quiet (slaveData : ModbusMessageBase)
    (client : MqttClient) :
    (publishRpcError slaveData client).1.store = client.store ∧
      (publishRpcError slaveData client).2 = none := by
  rw [publishRpcError]
  split <;> exact ⟨rfl, rfl⟩

variable {client : MqttClient} {networkName : String}

/-- How `processRegisterValues` ends for a message with objects: like its
loop, with the exceptions of publishing caught. -/
theorem processRegisterValues_ends (distinct : client.DistinctLists)
    {slaveData : MsgRegisterValues} {ids : List ObjectId}
    (connected : client.isConnected = true)
    (found : client.affectedByValues networkName slaveData = some ids) :
    ∃ thrown, Effect.Owned.LoopEnd
        (UpdatesLeaves (.registerValues networkName slaveData))
        (valuesFailure input networkName slaveData) ids client.store
        (processRegisterValues input networkName slaveData client).1.store
        thrown ∧
      (processRegisterValues input networkName slaveData client).2 =
        thrown.filter fun exception => !decide (exception = .mosquitto) := by
  have looped (responded : MqttClient) (same : responded.store = client.store) :
      ∃ thrown,
        Effect.Owned.LoopEnd
          (UpdatesLeaves (.registerValues networkName slaveData))
          (valuesFailure input networkName slaveData) ids client.store
          ((Effect.forEach (processObjectValues input networkName slaveData)
            ids).catching (· = .mosquitto) responded).1.store thrown ∧
        ((Effect.forEach (processObjectValues input networkName slaveData)
          ids).catching (· = .mosquitto) responded).2 =
          thrown.filter fun exception =>
            !decide (exception = .mosquitto) := by
    rw [Effect.catching_state, Effect.catching_exception, ← same]
    exact ⟨_, (processObjectValues_owned input networkName slaveData).loopEnd
      (distinct.affectedByValues found) responded, rfl⟩
  obtain ⟨responseStore, responseQuiet⟩ :=
    publishRpcResponse_quiet slaveData client
  rw [processRegisterValues, if_neg (by simp [connected]), found]
  dsimp only
  split
  · cases responding : publishRpcResponse slaveData client with
    | mk responded thrown =>
      rw [responding] at responseStore responseQuiet
      cases responseQuiet
      rw [Effect.andThen_of_none responding]
      exact looped responded responseStore
  · exact looped client rfl

theorem registerValues_isolated_iff
    (distinct : client.DistinctLists) (networkName : String)
    (message : MsgRegisterValues) :
    Isolated input networkName (.registerValues message) client ↔
      Undisturbed input networkName (.registerValues message) client := by
  by_cases connected : client.isConnected = true
  · cases found : client.affectedByValues networkName message with
    | none =>
      have undefined : processRegisterValues input networkName message client =
          (client, some .undefined) := by
        rw [processRegisterValues, if_neg (by simp [connected]), found]
      constructor
      · intro isolated
        have caught := isolated.caught
        rw [processModbusMessage, undefined] at caught
        cases caught
      · intro undisturbed
        have routed := (undisturbed connected).1
        rw [found] at routed
        cases routed
    | some ids =>
      have concerned : client.affected networkName (.registerValues message) =
          ids := by
        simp [affected, connected, found]
      obtain ⟨thrown, ended, escaping⟩ :=
        processRegisterValues_ends input distinct connected found
      have stops := ended.stops (distinct.affectedByValues found)
      have isolated :
          Isolated input networkName (.registerValues message) client ↔
            thrown.filter (fun exception =>
              !decide (exception = .mosquitto)) = none ∧
            ∀ id ∈ ids, UpdatesLeaves (.registerValues networkName message)
              id (client.store id) ((processRegisterValues input networkName
                message client).1.store id) := by
        rw [← escaping, ← concerned]
        exact ⟨fun isolated => ⟨isolated.caught, isolated.applied⟩,
          fun both => ⟨both.1, both.2⟩⟩
      have undisturbed :
          Undisturbed input networkName (.registerValues message) client ↔
            match ids.dropWhile fun id => (valuesFailure input networkName
              message id (client.store id)).isNone with
            | [] => True
            | id :: rest =>
              valuesFailure input networkName message id
                (client.store id) = some .mosquitto ∧
              ∀ later ∈ rest, UpdatesLeaves
                (.registerValues networkName message) later
                (client.store later) (client.store later) := by
        simp [Undisturbed, disturbed, connected, found]
      rw [isolated, undisturbed]
      generalize (ids.dropWhile fun id => (valuesFailure input networkName
        message id (client.store id)).isNone) = remaining at stops ⊢
      cases remaining with
      | nil =>
        obtain ⟨rfl, handled⟩ := stops
        exact ⟨fun _ => trivial, fun _ => ⟨rfl, handled⟩⟩
      | cons id rest =>
        obtain ⟨exception, rfl, throwing, all⟩ := stops
        rw [all]
        simp [Option.filter, throwing]
  · constructor
    · intro _ contrary
      exact (connected contrary).elim
    · intro _
      have dropped : processRegisterValues input networkName message client =
          (client, none) := by
        rw [processRegisterValues, if_pos (by simp [connected])]
      refine ⟨?_, ?_⟩
      · rw [processModbusMessage, dropped]
      · intro id member
        simp [affected, connected] at member

theorem operationFailed_isolated_iff
    (distinct : client.DistinctLists) (networkName : String)
    (message : ModbusMessageBase) :
    Isolated input networkName (.registerReadFailed message) client ↔
      Undisturbed input networkName (.registerReadFailed message) client := by
  by_cases rpc : message.isRpc = true
  · have answered : processModbusMessage input networkName
        (.registerReadFailed message) client = publishRpcError message client :=
      by rw [processModbusMessage, if_pos rpc]
    constructor
    · intro _ contrary
      rw [rpc] at contrary
      cases contrary
    · intro _
      refine ⟨?_, ?_⟩
      · rw [answered]
        exact (publishRpcError_quiet message client).2
      · intro id member
        simp [affected, rpc] at member
  · have scheduled : message.isRpc = false := by simpa using rpc
    have processed : processModbusMessage input networkName
        (.registerReadFailed message) client =
        Effect.forEach (processObjectFailed input networkName message)
          (client.affectedByFailure networkName message) client := by
      rw [processModbusMessage, if_neg rpc, processRegistersOperationFailed]
    have concerned : client.affected networkName (.registerReadFailed message) =
        client.affectedByFailure networkName message := if_neg rpc
    have ended := (processObjectFailed_owned input networkName message).loopEnd
      (distinct.affectedByFailure networkName message) client
    rw [← processed] at ended
    generalize ran : processModbusMessage input networkName
      (.registerReadFailed message) client = result at ended
    obtain ⟨last, thrown⟩ := result
    cases ended with
    | finished quiet handled untouched =>
      constructor
      · intro _ _
        exact quiet
      · intro _
        refine ⟨?_, ?_⟩
        · rw [ran]
        · rw [concerned, ran]
          exact handled
    | @stopped front rest id exception split quiet throwing handled
        untouched =>
        constructor
        · intro isolated
          have caught := isolated.caught
          rw [ran] at caught
          cases caught
        · intro undisturbed
          have quietHere := undisturbed scheduled id (by simp [split])
          rw [throwing] at quietHere
          cases quietHere

theorem networkState_isolated (client : MqttClient) (networkName name : String)
    (isUp : Bool) :
    Isolated input networkName (.modbusNetworkState name isUp) client := by
  cases isUp with
  | true => exact ⟨rfl, by simp [affected]⟩
  | false =>
    have ended := (processObjectNetworkState_owned input name).loopEnd
      (client.objectsOfNetwork_nodup name) client
    have processed : processModbusMessage input networkName
        (.modbusNetworkState name false) client =
        Effect.forEach (processObjectNetworkState input name false)
          (client.objectsOfNetwork name) client := by
      rw [processModbusMessage, processModbusNetworkState]
      exact if_neg (by simp)
    rw [← processed] at ended
    generalize ran : processModbusMessage input networkName
      (.modbusNetworkState name false) client = result at ended
    obtain ⟨last, thrown⟩ := result
    cases ended with
    | finished quiet handled untouched =>
      refine ⟨by rw [ran], ?_⟩
      rw [ran]
      exact handled
    | stopped _ _ throwing _ _ => cases throwing

theorem isolated_of_undisturbed (distinct : client.DistinctLists)
    {item : QueueItem}
    (undisturbed : Undisturbed input networkName item client) :
    Isolated input networkName item client := by
  cases item with
  | registerValues message =>
    exact (registerValues_isolated_iff input distinct networkName
      message).mpr undisturbed
  | registerReadFailed message =>
    exact (operationFailed_isolated_iff input distinct networkName
      message).mpr undisturbed
  | registerWriteFailed message =>
    have alike := (operationFailed_isolated_iff input distinct networkName
      message).mpr undisturbed
    exact ⟨alike.caught, alike.applied⟩
  | modbusNetworkState name isUp =>
    exact networkState_isolated input client networkName name isUp

/-- A message spreads no error if and only if it is undisturbed: with register
values, nothing goes wrong before the last object that the message tells
something new, and then only with publishing; with a failed operation nothing
goes wrong at all. -/
theorem isolated_iff_undisturbed {client : MqttClient}
    (distinct : client.DistinctLists) (networkName : String)
    (item : QueueItem) :
    Isolated input networkName item client ↔
      Undisturbed input networkName item client := by
  refine ⟨?_, isolated_of_undisturbed input distinct⟩
  intro isolated
  cases item with
  | registerValues message =>
    exact (registerValues_isolated_iff input distinct networkName
      message).mp isolated
  | registerReadFailed message =>
    exact (operationFailed_isolated_iff input distinct networkName
      message).mp isolated
  | registerWriteFailed message =>
    exact (operationFailed_isolated_iff input distinct networkName
      message).mp ⟨isolated.caught, isolated.applied⟩
  | modbusNetworkState name isUp => exact trivial

def registerObject (topic : String) (converter : Option DataConverter)
    (registerNumber : Int) : MqttObject :=
  { topic
    state :=
      { nodes := [.scalar "" converter
          { networkName := "net"
            slaveId := 1
            registerNumber
            registerType := .holding } {}]
        outputAsList := false }
    availability := { nodes := [], outputAsList := false }
    availableValue := .int 1
    isAvailable := .notSet
    retain := true
    publishMode := .onChange
    everyPollPeriod := 0
    lastPublishedPayload := []
    lastPublishTime := none }

/-- A converter given too few registers, as `std.float32` with one. -/
def failingConverter : DataConverter :=
  { toMqtt := fun _ => .error .conv
    toModbus := fun _ _ => .error .conv }

def twoObjectClient (converter : Option DataConverter) : MqttClient :=
  { isConnected := true
    networks := ["net"]
    objects := [({ networkName := "net"
                   slaveId := 1
                   registerNumber := 0
                   registerType := .holding }, [0, 1])]
    commandObjects := fun _ => none
    store := fun id =>
      if id = 0 then
        registerObject "first" converter 0
      else
        registerObject "second" none 0
    commands := []
    rpcMode := .disabled
    rpcRequestTopic := ""
    nextRpcId := 0
    pendingRpc := fun _ => none
    published := []
    replies := [] }

/-- The broker refuses the state of one object or takes everything. -/
def refusing (refused : Option ObjectId) : ProcessInput :=
  { refuses := fun id kind => some id = refused ∧ kind = .state
    republishCheck := fun _ => 0
    publishTime := fun _ => 0 }

def fiveRead : MsgRegisterValues :=
  .create 1 .holding 0 [5] 0 .auto

theorem twoObjectClient_distinct (converter : Option DataConverter) :
    (twoObjectClient converter).DistinctLists := by
  refine ⟨?_, ?_⟩
  · intro entry listed
    cases List.mem_singleton.mp listed
    simp
  · intro commandId ids found
    cases found

theorem isolated_refused_last : (refusing (some 1)).refuses 1 .state = true ∧
      Isolated (refusing (some 1)) "net" (.registerValues fiveRead)
        (twoObjectClient none) := by
  refine ⟨by decide, (isolated_iff_undisturbed (refusing (some 1))
    (twoObjectClient_distinct none) "net" (.registerValues fiveRead)).mpr ?_⟩
  intro _
  refine ⟨rfl, ?_⟩
  have stops : disturbed (refusing (some 1)) "net" fiveRead
      (twoObjectClient none) = [1] := by
    decide
  rw [stops]
  exact ⟨by decide, by simp⟩

/-- Both objects show the register that was read.  If the converter of the
first one fails, its exception leaves the client; if the broker refuses the
first one, no exception does.  The second object is not updated either way. -/
theorem error_spreads_to_next_object :
    ((processModbusMessage (refusing none) "net" (.registerValues fiveRead)
        (twoObjectClient (some failingConverter))).2 = some .conv ∧
      ¬Isolated (refusing none) "net" (.registerValues fiveRead)
        (twoObjectClient (some failingConverter))) ∧
    1 ∈ (twoObjectClient none).affected "net" (.registerValues fiveRead) ∧
    ((processModbusMessage (refusing (some 0)) "net" (.registerValues fiveRead)
        (twoObjectClient none)).1.store 1).leaves =
      ((twoObjectClient none).store 1).leaves ∧
    ¬Isolated (refusing (some 0)) "net" (.registerValues fiveRead)
      (twoObjectClient none) := by
  have thrown : (processModbusMessage (refusing none) "net"
      (.registerValues fiveRead) (twoObjectClient (some failingConverter))).2 =
        some .conv := by
    decide
  have listed : 1 ∈ (twoObjectClient none).affected "net"
      (.registerValues fiveRead) := by
    decide
  have stale : ((processModbusMessage (refusing (some 0)) "net"
      (.registerValues fiveRead) (twoObjectClient none)).1.store 1).leaves =
        ((twoObjectClient none).store 1).leaves := by
    decide
  refine ⟨⟨thrown, ?_⟩, listed, stale, ?_⟩
  · intro isolated
    have caught := isolated.caught
    rw [thrown] at caught
    cases caught
  · intro isolated
    have applied := isolated.applied 1 listed
    rw [UpdatesLeaves, stale] at applied
    revert applied
    decide

end MqttClient

end MqmGateway
