import MqmGateway.Gateway.Steps
import MqmGateway.MqttClient.Rounds

/-!
# The MQTT client as a machine

The client takes the callbacks of the MQTT library and the messages of the
modbus threads in any order, and logs what it publishes.  An exception that
leaves it ends the program.  Objects have topics of their own, so each of them
sees a run of rounds, and nothing of the others.
-/

namespace MqmGateway

/-- What happens to the client. -/
inductive ClientInput where
  | connected (call : ProcessInput)
  | disconnected
  | message (message : MqttClient.MqttMessage)
  | process (networkName : String) (call : ProcessInput) (item : QueueItem)

namespace MqttClient

/-- The client after an operation, with what it has published since. -/
def logged (client : MqttClient)
    (result : MqttClient × Option GatewayException) :
    Option (MqttClient × List Publication) :=
  match result with
  | (next, none) =>
    some (next, next.published.drop client.published.length)
  | (_, some _) => none

def step (libraries : RequestLibraries) (client : MqttClient) :
    ClientInput → Option (MqttClient × List Publication)
  | .connected call => client.logged (onConnect call client)
  | .disconnected => some (client.onDisconnect, [])
  | .message message =>
    (client.onMessage libraries message).map fun result => (result.1, [])
  | .process networkName call item =>
    client.logged (processModbusMessage call networkName item client)

def polledObjects (client : MqttClient) : List ObjectId :=
  (client.objects.map Prod.snd).flatten.reverse.dedup.reverse

def Listed (client : MqttClient) (id : ObjectId) : Prop :=
  (∃ entry ∈ client.objects, id ∈ entry.2) ∨
    ∃ commandId ids, client.commandObjects commandId = some ids ∧ id ∈ ids

/-- No list has an object twice and no two objects share a topic. -/
structure Separate (client : MqttClient) : Prop where
  lists : client.DistinctLists
  topics : ∀ id other, client.Listed id → client.Listed other →
    (client.store id).topic = (client.store other).topic → id = other

/-- A client that has its objects and has not published anything. -/
structure Initial (client : MqttClient) : Prop extends Separate client where
  fresh : ∀ id, client.Listed id → (client.store id).Fresh
  unpublished : client.published = []

/-- Nothing goes wrong with an object when values are processed. -/
def Quiet (client : MqttClient) (networkName : String) (call : ProcessInput) :
    QueueItem → Prop
  | .registerValues message =>
    ∀ id ∈ client.affected networkName (.registerValues message),
      valuesFailure call networkName message id (client.store id) = none
  | _ => True

instance (client : MqttClient) (networkName : String) (call : ProcessInput)
    (item : QueueItem) : Decidable (client.Quiet networkName call item) :=
  match item with
  | .registerValues _ => inferInstanceAs (Decidable (∀ _ ∈ _, _))
  | .registerReadFailed _ | .registerWriteFailed _ |
    .modbusNetworkState _ _ => inferInstanceAs (Decidable True)

/-- The broker takes everything and no exception cuts a loop short. -/
def Smooth (client : MqttClient) : ClientInput → Prop
  | .connected call => call.Accepts
  | .process networkName call item =>
    call.Accepts ∧ client.Quiet networkName call item
  | .disconnected | .message _ => True

end MqttClient

/-- The round of a message for the objects it concerns. -/
def QueueItem.round (networkName : String) : QueueItem → Round
  | .registerValues message => .values networkName message
  | .registerReadFailed message | .registerWriteFailed message =>
    .failed networkName message
  | .modbusNetworkState name _ => .networkDown name

namespace MqttClient

def roundOf (client : MqttClient) (id : ObjectId) :
    ClientInput → Option (Round × RoundClock)
  | .connected call =>
    if id ∈ client.polledObjects then some (.connected, call.clock id)
    else none
  | .process networkName call item =>
    if id ∈ client.affected networkName item then
      some (item.round networkName, call.clock id)
    else
      none
  | .disconnected | .message _ => none

/-- The object has its round and publishes what the round says, or nothing
happens to it. -/
def Follows (round : Option (Round × RoundClock)) (object next : MqttObject)
    (publications : List Publication) : Prop :=
  match round with
  | some round => Round.step object round =
      some (next, publications.filter (·.isOf object.topic))
  | none => next = object ∧ publications.filter (·.isOf object.topic) = []

/-- Every object has its round, and nothing else is published. -/
def AllFollow (client next : MqttClient)
    (round : ObjectId → Option (Round × RoundClock)) : Prop :=
  ∃ publications, next.published = client.published ++ publications ∧
    ∀ id, client.Listed id →
      Follows (round id) (client.store id) (next.store id) publications

variable {client next : MqttClient} {id : ObjectId}
  {publications : List Publication} {input : ClientInput}

theorem mem_of_polledObjects (polled : id ∈ client.polledObjects) :
    ∃ entry ∈ client.objects, id ∈ entry.2 := by
  rw [polledObjects, List.mem_reverse, List.mem_dedup, List.mem_reverse] at polled
  obtain ⟨ids, listed, member⟩ := List.mem_flatten.mp polled
  obtain ⟨entry, known, rfl⟩ := List.mem_map.mp listed
  exact ⟨entry, known, member⟩

theorem listed_of_found {ident : MqttObjectRegisterIdent}
    (found : id ∈ (client.findObjects ident).getD []) : client.Listed id := by
  rw [findObjects] at found
  cases lookup : client.objects.find? fun entry => entry.1 = ident with
  | none =>
    rw [lookup] at found
    cases found
  | some entry =>
    rw [lookup] at found
    exact .inl ⟨entry, List.mem_of_find?_eq_some lookup, found⟩

variable {networkName : String} {item : QueueItem} {before : MqttClient}
  {result : MqttClient × Option GatewayException}

theorem listed_of_affected (concerned : id ∈ client.affected networkName item) :
    client.Listed id := by
  have failed (message : ModbusMessageBase)
      (concerned : id ∈ if message.isRpc then []
        else client.affectedByFailure networkName message) :
      client.Listed id := by
    split at concerned
    · cases concerned
    · exact listed_of_found concerned
  cases item with
  | registerReadFailed message => exact failed message concerned
  | registerWriteFailed message => exact failed message concerned
  | modbusNetworkState name isUp =>
    rw [affected] at concerned
    split at concerned
    · cases concerned
    · rw [objectsOfNetwork, List.mem_reverse, List.mem_dedup,
        List.mem_reverse] at concerned
      obtain ⟨ids, listed, member⟩ := List.mem_flatten.mp concerned
      obtain ⟨entry, known, rfl⟩ := List.mem_map.mp listed
      exact .inl ⟨entry, (List.mem_filter.mp known).1, member⟩
  | registerValues message =>
    rw [affected] at concerned
    split at concerned
    · rw [affectedByValues] at concerned
      split at concerned
      · split at concerned
        · rename_i ids mapped
          exact .inr ⟨_, ids, mapped, concerned⟩
        · split at concerned
          · exact listed_of_found concerned
          · cases concerned
      · exact listed_of_found concerned
    · cases concerned

theorem polledObjects_nodup (client : MqttClient) :
    client.polledObjects.Nodup :=
  List.nodup_reverse.mpr (List.nodup_dedup _)

variable {libraries : RequestLibraries}

/-- After a loop over distinct objects, each of them has followed its own
round. -/
theorem follows_of_loop
    (separate : client.Separate) {ids : List ObjectId} (distinct : ids.Nodup)
    (listed : ∀ id ∈ ids, client.Listed id) {body : ObjectId → Action}
    {round : ObjectId → Round × RoundClock}
    (each : ∀ id, Realizes id ((round id).1.perform (round id).2) (body id))
    (store : before.store = client.store)
    (published : before.published = client.published)
    (done : Effect.forEach body ids before = (next, none)) :
    AllFollow client next fun id =>
      if id ∈ ids then some (round id) else none := by
  obtain ⟨logs, handled, untouched, appended⟩ :=
    Effect.Realizes.forEach each distinct done
  rw [store] at handled untouched
  have owned : ∀ id ∈ ids, ∀ publication ∈ logs id,
      publication.isOf (client.store id).topic = true := by
    intro id member
    have stepped : Round.step (client.store id) (round id) =
        some (next.store id, logs id) := handled id member
    exact (Round.step_owned stepped).2
  have foreign : ∀ id, client.Listed id → ∀ other ∈ ids, other ≠ id →
      ∀ publication ∈ logs other,
        publication.isOf (client.store id).topic = false := by
    intro id known other member different publication logged
    by_contra shared
    apply different
    apply separate.topics other id (listed other member) known
    exact Publication.topic_unique (owned other member publication logged)
      (by simpa using shared)
  refine ⟨ids.flatMap logs, published ▸ appended, ?_⟩
  intro id known
  dsimp only
  by_cases member : id ∈ ids
  · rw [if_pos member, Follows, List.filter_flatMap_of_owned distinct member
      (owned id member) (foreign id known)]
    exact handled id member
  · rw [if_neg member]
    refine ⟨untouched id member, List.filter_eq_nil_iff.mpr ?_⟩
    intro publication logged
    obtain ⟨other, handledOther, own⟩ := List.mem_flatMap.mp logged
    have different : other ≠ id := fun same => member (same ▸ handledOther)
    simp [foreign id known other handledOther different publication own]

theorem publishRpcResponse_published (values : MsgRegisterValues)
    (client : MqttClient) :
    (publishRpcResponse values client).1.published = client.published := by
  rw [publishRpcResponse]
  split
  · rfl
  · dsimp only
    split <;> rfl

theorem publishRpcError_published (slaveData : ModbusMessageBase)
    (client : MqttClient) :
    (publishRpcError slaveData client).1.published = client.published := by
  rw [publishRpcError]
  split <;> rfl

theorem allFollow_of_same {round : ObjectId → Option (Round × RoundClock)}
    (store : next.store = client.store)
    (published : next.published = client.published)
    (unaffected : ∀ id, round id = none) : AllFollow client next round := by
  refine ⟨[], published.trans (List.append_nil _).symm, ?_⟩
  intro id _
  rw [unaffected, store]
  exact ⟨rfl, rfl⟩

section Processing

variable {client next : MqttClient} {networkName : String} {call : ProcessInput}

theorem operationFailed_follows (separate : client.Separate)
    (accepts : call.Accepts) {message : ModbusMessageBase}
    (done : (if message.isRpc then publishRpcError message
      else processRegistersOperationFailed call networkName message :
        Action) client = (next, none)) :
    AllFollow client next fun id =>
      if id ∈ (if message.isRpc then []
        else client.affectedByFailure networkName message) then
        some (.failed networkName message, call.clock id)
      else none := by
  by_cases rpc : message.isRpc = true
  · simp only [if_pos rpc] at done ⊢
    have store := (publishRpcError_quiet message client).1
    have published := publishRpcError_published message client
    rw [done] at store published
    exact allFollow_of_same store published fun _ => if_neg List.not_mem_nil
  · simp only [if_neg rpc] at done ⊢
    exact follows_of_loop separate
      (separate.lists.affectedByFailure networkName message)
      (fun _ concerned => listed_of_found concerned)
      (fun id => processObjectFailed_realizes accepts networkName message id)
      rfl rfl done

theorem valuesLoop_follows (separate : client.Separate)
    (accepts : call.Accepts) {message : MsgRegisterValues}
    {ids : List ObjectId} (distinct : ids.Nodup)
    (listed : ∀ id ∈ ids, client.Listed id)
    (quiet : ∀ id ∈ ids,
      valuesFailure call networkName message id (client.store id) = none)
    {responded : MqttClient} (store : responded.store = client.store)
    (published : responded.published = client.published)
    (done : (Effect.forEach (processObjectValues call networkName message)
      ids).catching (· = .mosquitto) responded = (next, none)) :
    AllFollow client next fun id =>
      if id ∈ ids then some (.values networkName message, call.clock id)
      else none := by
  have thrown := (processObjectValues_owned call networkName
    message).forEach_quiet distinct responded (by
      rw [store]
      exact quiet)
  have state := congrArg Prod.fst done
  rw [Effect.catching_state] at state
  exact follows_of_loop separate distinct listed
    (fun id => processObjectValues_realizes accepts networkName message id)
    store published (Prod.ext state thrown)

theorem processRegisterValues_follows (separate : client.Separate)
    {message : MsgRegisterValues}
    (smooth : client.Smooth
      (.process networkName call (.registerValues message)))
    (done : processRegisterValues call networkName message client =
      (next, none)) :
    AllFollow client next fun id =>
      client.roundOf id
        (.process networkName call (.registerValues message)) := by
  obtain ⟨accepts, quiet⟩ := smooth
  rw [processRegisterValues] at done
  by_cases online : client.isConnected = true
  · rw [if_neg (by simp [online])] at done
    cases found : client.affectedByValues networkName message with
    | none =>
      rw [found] at done
      cases done
    | some ids =>
      have concerned : client.affected networkName
          (.registerValues message) = ids := by
        simp [affected, online, found]
      have listed : ∀ id ∈ ids, client.Listed id := by
        intro id member
        rw [← concerned] at member
        exact listed_of_affected member
      have distinct := separate.lists.affectedByValues found
      rw [found] at done
      dsimp only at done
      rw [Quiet, concerned] at quiet
      simp only [roundOf, concerned]
      split at done
      · obtain ⟨store, silent⟩ := publishRpcResponse_quiet message client
        have published := publishRpcResponse_published message client
        cases responding : publishRpcResponse message client with
        | mk responded thrown =>
          rw [responding] at store silent published
          cases silent
          rw [Effect.andThen_of_none responding] at done
          exact valuesLoop_follows separate accepts distinct listed quiet
            store published done
      · exact valuesLoop_follows separate accepts distinct listed quiet rfl
          rfl done
  · rw [if_pos (by simp [online])] at done
    cases done
    refine allFollow_of_same rfl rfl fun id => ?_
    simp [roundOf, affected, online]

theorem processModbusMessage_follows (separate : client.Separate)
    {item : QueueItem}
    (smooth : client.Smooth (.process networkName call item))
    (done : processModbusMessage call networkName item client = (next, none)) :
    AllFollow client next fun id =>
      client.roundOf id (.process networkName call item) := by
  have accepts := smooth.1
  cases item with
  | registerValues message =>
    exact processRegisterValues_follows separate smooth done
  | registerReadFailed message =>
    exact operationFailed_follows separate accepts done
  | registerWriteFailed message =>
    exact operationFailed_follows separate accepts done
  | modbusNetworkState name isUp =>
    rw [processModbusMessage, processModbusNetworkState] at done
    cases isUp with
    | true =>
      cases done
      exact allFollow_of_same rfl rfl fun _ => rfl
    | false =>
      have listed : ∀ id ∈ client.affected networkName
          (.modbusNetworkState name false), client.Listed id :=
        fun _ concerned => listed_of_affected concerned
      exact follows_of_loop separate
        (client.objectsOfNetwork_nodup name) listed
        (fun id => processObjectNetworkState_realizes accepts name id)
        rfl rfl done

end Processing

theorem logged_eq_some
    (kept : client.logged result = some (next, publications)) :
    result = (next, none) ∧
      publications = next.published.drop client.published.length := by
  obtain ⟨last, thrown⟩ := result
  cases thrown with
  | some exception => cases kept
  | none =>
    cases kept
    exact ⟨rfl, rfl⟩

theorem logged_of_quiet (quiet : result.2 = none) : client.logged result =
      some (result.1, result.1.published.drop client.published.length) := by
  obtain ⟨next, thrown⟩ := result
  cases quiet
  rfl

theorem step_of_quiet {call : ProcessInput}
    (quiet : (processModbusMessage call networkName item client).2 = none) :
    client.step libraries (.process networkName call item) =
      some ((processModbusMessage call networkName item client).1,
        (processModbusMessage call networkName item client).1.published.drop
          client.published.length) :=
  logged_of_quiet quiet

/-- What an undisturbed step means for each object. -/
theorem step_follows (separate : client.Separate) (smooth : client.Smooth input)
    (stepped : client.step libraries input = some (next, publications)) :
    next.published = client.published ++ publications ∧ ∀ id, client.Listed id →
        Follows (client.roundOf id input) (client.store id) (next.store id)
          publications := by
  have appended {added : List Publication}
      (same : publications = next.published.drop client.published.length)
      (published : next.published = client.published ++ added) :
      added = publications := by
    rw [same, published, List.drop_left]
  cases input with
  | disconnected =>
    cases stepped
    exact ⟨(List.append_nil _).symm, fun id _ => ⟨rfl, rfl⟩⟩
  | message message =>
    obtain ⟨⟨client', request⟩, handled, same⟩ :=
      Option.map_eq_some_iff.mp stepped
    cases same
    obtain ⟨_, _, _, rfl⟩ := onMessage_frame handled
    exact ⟨(List.append_nil _).symm, fun id _ => ⟨rfl, rfl⟩⟩
  | process networkName call item =>
    obtain ⟨done, same⟩ := logged_eq_some stepped
    obtain ⟨added, published, follows⟩ :=
      processModbusMessage_follows separate smooth done
    cases appended same published
    exact ⟨published, follows⟩
  | connected call =>
    obtain ⟨done, same⟩ := logged_eq_some stepped
    have listed : ∀ id ∈ client.polledObjects, client.Listed id :=
      fun id polled => .inl (mem_of_polledObjects polled)
    have looped : Effect.forEach (publishObject call) client.polledObjects
        { client with isConnected := true } = (next, none) := done
    obtain ⟨added, published, follows⟩ : AllFollow client next fun id =>
        client.roundOf id (.connected call) := by
      refine follows_of_loop separate client.polledObjects_nodup listed
        (publishObject_realizes smooth) ?_ ?_ looped <;> rfl
    cases appended same published
    exact ⟨published, follows⟩

theorem step_tables
    (stepped : client.step libraries input = some (next, publications)) :
    SameTables client next := by
  cases input with
  | disconnected =>
    cases stepped
    exact ⟨rfl, rfl, rfl, rfl⟩
  | message message =>
    obtain ⟨⟨handled, request⟩, handling, same⟩ :=
      Option.map_eq_some_iff.mp stepped
    cases same
    exact .onMessage handling
  | process networkName call item =>
    have same := SameTables.processModbusMessage call networkName item client
    rw [(logged_eq_some stepped).1] at same
    exact same
  | connected call =>
    have same := SameTables.onConnect call client
    rw [(logged_eq_some stepped).1] at same
    exact same

theorem SameTables.listed {after : MqttClient}
    (tables : SameTables before after) (id : ObjectId) :
    after.Listed id ↔ before.Listed id := by
  rw [Listed, Listed, tables.objects, tables.commandObjects]

/-- What stays the same in a run. -/
structure Continues (start client : MqttClient) : Prop where
  tables : SameTables start client
  separate : client.Separate
  settings : ∀ id, start.Listed id →
    (start.store id).SameSettings (client.store id)

namespace Continues

variable {start client next : MqttClient}

theorem refl (separate : start.Separate) : Continues start start :=
  ⟨.refl start, separate, fun _ _ => .refl _⟩

theorem follows (continues : Continues start client)
    (smooth : client.Smooth input)
    (stepped : client.step libraries input = some (next, publications))
    (listed : start.Listed id) :
    Follows (client.roundOf id input) (client.store id) (next.store id)
      publications :=
  (step_follows continues.separate smooth stepped).2 id
    ((continues.tables.listed id).mpr listed)

theorem step (continues : Continues start client) {input : ClientInput}
    (smooth : client.Smooth input) {publications : List Publication}
    (stepped : client.step libraries input = some (next, publications)) :
    Continues start next := by
  have tables := step_tables stepped
  have settings : ∀ id, start.Listed id →
      (client.store id).SameSettings (next.store id) := by
    intro id listed
    have followed := continues.follows smooth stepped listed
    cases round : client.roundOf id input with
    | none =>
      rw [round] at followed
      rw [followed.1]
      exact .refl _
    | some round' =>
      rw [round] at followed
      exact (Round.step_owned followed).1
  have known (id : ObjectId) : next.Listed id ↔ start.Listed id :=
    (tables.listed id).trans (continues.tables.listed id)
  refine ⟨continues.tables.trans tables, ⟨⟨?_, ?_⟩, ?_⟩, ?_⟩
  · rw [tables.objects]
    exact continues.separate.lists.objects
  · rw [tables.commandObjects]
    exact continues.separate.lists.commandObjects
  · intro id other listed otherListed same
    rw [(settings id ((known id).mp listed)).topic,
      (settings other ((known other).mp otherListed)).topic] at same
    exact continues.separate.topics id other ((tables.listed id).mp listed)
      ((tables.listed other).mp otherListed) same
  · intro id listed
    exact (continues.settings id listed).trans (settings id listed)

end Continues

def publicationsOf (object : MqttObject) (history : List Publication) :
    List Publication :=
  history.filter (·.isOf object.topic)

@[simp] theorem publicationsOf_append (object : MqttObject)
    (first second : List Publication) :
    publicationsOf object (first ++ second) =
      publicationsOf object first ++ publicationsOf object second :=
  List.filter_append ..

theorem publicationsOf_of_settings {before after : MqttObject}
    (settings : before.SameSettings after) (history : List Publication) :
    publicationsOf before history = publicationsOf after history := by
  rw [publicationsOf, publicationsOf, settings.topic]

theorem Continues.object {start : MqttClient}
    (continues : Continues start client)
    (smooth : client.Smooth input)
    (stepped : client.step libraries input = some (next, publications))
    (listed : start.Listed id) :
    (∃ round, client.roundOf id input = some round ∧
      Round.step (client.store id) round = some (next.store id,
        publicationsOf (start.store id) publications)) ∨
    next.store id = client.store id ∧
      publicationsOf (start.store id) publications = [] := by
  have followed := continues.follows smooth stepped listed
  unfold Follows at followed
  rw [(continues.settings id listed).topic] at followed
  split at followed
  · rename_i round same
    exact .inl ⟨round, same, followed⟩
  · exact .inr followed

section Runs

variable {allowed : MqttClient → List Publication → ClientInput → Prop}
  {start client : MqttClient} {history : List Publication}

theorem run_continues (initial : start.Initial)
    (smooth : ∀ client history input, allowed client history input →
      client.Smooth input)
    (run : Runs (step libraries) allowed start client history) :
    Continues start client ∧ client.published = history := by
  induction run with
  | start => exact ⟨.refl initial.toSeparate, initial.unpublished⟩
  | step _ permitted stepped induction =>
    have undisturbed := smooth _ _ _ permitted
    refine ⟨induction.1.step undisturbed stepped, ?_⟩
    rw [(step_follows induction.1.separate undisturbed stepped).1,
      induction.2]

theorem run_object (initial : start.Initial)
    (smooth : ∀ client history input, allowed client history input →
      client.Smooth input) (listed : start.Listed id)
    {holds : MqttObject → List Publication → Prop}
    (base : holds (start.store id) [])
    (kept : ∀ {client next : MqttClient} {history publications input round},
      allowed client history input →
      client.roundOf id input = some round →
      Round.step (client.store id) round = some (next.store id,
        publicationsOf (start.store id) publications) →
      holds (client.store id) (publicationsOf (start.store id) history) →
      holds (next.store id) (publicationsOf (start.store id) history ++
        publicationsOf (start.store id) publications))
    (run : Runs (step libraries) allowed start client history) :
    holds (client.store id) (publicationsOf (start.store id) history) := by
  induction run with
  | start => exact base
  | @step client next history publications input earlier permitted stepped
      induction =>
      have continues := (run_continues initial smooth earlier).1
      rw [publicationsOf_append]
      rcases continues.object (smooth _ _ _ permitted) stepped listed with
        ⟨round, meant, performed⟩ | ⟨same, silent⟩
      · exact kept permitted meant performed induction
      · rw [same, silent, List.append_nil]
        exact induction

end Runs

theorem refusing_none_accepts : (refusing none).Accepts := by
  intro id kind
  simp [refusing]

theorem twoObjectClient_initial : (twoObjectClient none).Initial := by
  have two : ∀ id, (twoObjectClient none).Listed id → id = 0 ∨ id = 1 := by
    rintro id (⟨entry, listed, member⟩ | ⟨_, _, found, _⟩)
    · cases List.mem_singleton.mp listed
      simpa using member
    · cases found
  refine ⟨⟨twoObjectClient_distinct none, ?_⟩, ?_, rfl⟩
  · intro id other listed otherListed same
    rcases two id listed with rfl | rfl <;>
      rcases two other otherListed with rfl | rfl <;>
        first | rfl | (revert same; decide)
  · intro id listed
    rcases two id listed with rfl | rfl <;>
      exact ⟨rfl, by decide, rfl, rfl⟩

def soleClient (object : MqttObject) : MqttClient :=
  { twoObjectClient none with
    objects := [({ networkName := "net"
                   slaveId := 1
                   registerNumber := 0
                   registerType := .holding }, [0])]
    store := fun _ => object }

theorem soleClient_listed (object : MqttObject) :
    (soleClient object).Listed 0 :=
  .inl ⟨_, List.mem_singleton.mpr rfl, List.mem_singleton.mpr rfl⟩

theorem soleClient_initial {object : MqttObject} (fresh : object.Fresh) :
    (soleClient object).Initial := by
  have one : ∀ id, (soleClient object).Listed id → id = 0 := by
    rintro id (⟨entry, listed, member⟩ | ⟨_, _, found, _⟩)
    · cases List.mem_singleton.mp listed
      exact List.mem_singleton.mp member
    · cases found
  refine ⟨⟨⟨?_, fun _ _ found => by cases found⟩, ?_⟩, fun _ _ => fresh, rfl⟩
  · intro entry listed
    cases List.mem_singleton.mp listed
    exact List.nodup_singleton 0
  · intro id other listed otherListed _
    rw [one id listed, one other otherListed]

def registerRead (value : UInt16) : MsgRegisterValues :=
  .create 1 .holding 0 [value] 0 .auto

def processed (client : MqttClient) (item : QueueItem) : MqttClient :=
  (processModbusMessage (refusing none) "net" item client).1

/-- The messages are processed one after the other and nothing goes wrong. -/
def playsSmoothly : MqttClient → List QueueItem → Bool
  | _, [] => true
  | client, item :: items =>
    (processModbusMessage (refusing none) "net" item client).2.isNone &&
      decide (client.Quiet "net" (refusing none) item) &&
      playsSmoothly (client.processed item) items

theorem run_of_plays {start client : MqttClient} {history : List Publication}
    (run : Runs (step libraries) (fun client _ input => client.Smooth input)
      start client history) {items : List QueueItem}
    (plays : playsSmoothly client items = true) :
    ∃ history, Runs (step libraries)
      (fun client _ input => client.Smooth input) start
      (items.foldl processed client) history := by
  induction items generalizing client history with
  | nil => exact ⟨history, run⟩
  | cons item items induction =>
    simp only [playsSmoothly, Bool.and_eq_true, decide_eq_true_eq] at plays
    obtain ⟨⟨unthrown, quiet⟩, rest⟩ := plays
    have smooth : client.Smooth (.process "net" (refusing none) item) :=
      ⟨refusing_none_accepts, quiet⟩
    exact induction (.step run smooth
      (step_of_quiet (Option.isNone_iff_eq_none.mp unthrown))) rest

end MqttClient

end MqmGateway
