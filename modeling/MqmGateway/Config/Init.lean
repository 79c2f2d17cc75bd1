import MqmGateway.Config.Declared
import MqmGateway.Config.Networks
import MqmGateway.Gateway.Routing
import MqmGateway.Library.Upsert

/-!
# Starting the gateway from a configuration file

`ModMqtt::init` reads both sections, merges the declared registers into the
poll groups of their networks and notes for each range which objects it
serves.  Nothing here assumes that networks have different names.
-/

namespace MqmGateway

open MsgRegisterPollSpecification

theorem filter_eq_singleton {α : Type} {items : List α} (nodup : items.Nodup)
    {test : α → Bool} {item : α} (listed : item ∈ items)
    (passes : test item = true)
    (unique : ∀ other ∈ items, test other = true → other = item) :
    items.filter test = [item] := by
  apply List.perm_singleton.mp
  refine (List.perm_ext_iff_of_nodup (nodup.filter _)
    (List.nodup_singleton item)).mpr ?_
  intro other
  rw [List.mem_filter, List.mem_singleton]
  constructor
  · intro ⟨otherListed, otherPasses⟩
    exact unique other otherListed otherPasses
  · intro same
    subst same
    exact ⟨listed, passes⟩

/-- What the loader has read from a file. -/
structure Loaded extends ModMqtt.LoadedObjects where
  networks : List NetworkSettings

namespace ModMqtt

def load (libraries : LoaderLibraries) (config : YamlNode) :
    Except String Loaded := do
  let modbusData ← initModbusClients libraries config
  let objects ← initObjects libraries
    (modbusData.networks.map NetworkSettings.name) modbusData.slaveNames config
  .ok { objects with networks := modbusData.networks }

/-- Find the poll specification of the network or create one, and merge. -/
def declare (specs : List MsgRegisterPollSpecification)
    (declaration : Declaration) : List MsgRegisterPollSpecification :=
  Upsert.upsert MsgRegisterPollSpecification.networkName
    (.empty declaration.networkName) (fun spec => spec.merge declaration.poll)
    specs

end ModMqtt

namespace Loaded

def polls (loaded : Loaded) (name : String) : List MsgRegisterPoll :=
  (loaded.declared.filter fun declaration =>
    declaration.networkName = name).map Declaration.poll

def mqttSpecs (loaded : Loaded) : List MsgRegisterPollSpecification :=
  loaded.declared.foldl ModMqtt.declare []

/-- The poll groups of the network with the declared registers merged into
them. -/
def specification (loaded : Loaded) (network : NetworkSettings) :
    MsgRegisterPollSpecification :=
  let spec := (empty network.name).mergeAll network.pollGroups
  match Upsert.lookup MsgRegisterPollSpecification.networkName
      loaded.mqttSpecs network.name with
  | none => spec
  | some mqttSpec => spec.mergeAll mqttSpec.registers

def specifications (loaded : Loaded) : List MsgRegisterPollSpecification :=
  loaded.networks.map loaded.specification

def object (loaded : Loaded) (id : ObjectId) : MqttObject :=
  loaded.objects.getD id (.create "")

/-- The ranges that the loops find for the objects, in order. -/
def mappings (loaded : Loaded) : List (MqttObjectRegisterIdent × ObjectId) :=
  (List.range loaded.objects.length).flatMap fun id =>
    loaded.specifications.flatMap fun spec =>
      (spec.registers.filter fun poll => (loaded.object id).hasRegisterIn
        spec.networkName poll.toModbusMessageBase).map fun poll =>
          (.ofMessage spec.networkName poll.toModbusMessageBase, id)

/-- `mappedPollObjects[ident].push_back(optr)`, for each of them. -/
def mappedPollObjects (loaded : Loaded) :
    List (MqttObjectRegisterIdent × List ObjectId) :=
  loaded.mappings.foldl (fun mapped entry =>
    Upsert.upsert Prod.fst (entry.1, [])
      (fun known => (known.1, known.2 ++ [entry.2])) mapped) []

/-- The configuration of the gateway; the way of handling RPC requests is set
in the server and broker sections. -/
def configuration (loaded : Loaded) (rpcMode : RpcMode)
    (rpcRequestTopic : String) : Configuration :=
  { networks := loaded.networks
    polls := loaded.polls
    objects := loaded.objects
    commands := loaded.commands.2
    rpcMode
    rpcRequestTopic }

/-- The MQTT client after `setObjects`. -/
def client (loaded : Loaded) (rpcMode : RpcMode) (rpcRequestTopic : String) :
    MqttClient :=
  { (loaded.configuration rpcMode rpcRequestTopic).client with
    objects := loaded.mappedPollObjects }

variable {loaded : Loaded}

theorem lookup_mqttSpecs (loaded : Loaded) (name : String) :
    Upsert.lookup MsgRegisterPollSpecification.networkName loaded.mqttSpecs
        name =
      if loaded.polls name = [] then none
      else some ((empty name).mergeAll (loaded.polls name)) := by
  have found := Upsert.lookup_foldl MsgRegisterPollSpecification.networkName
    Declaration.networkName empty
    (fun declaration spec => spec.merge declaration.poll)
    (fun _ => rfl) (fun _ _ => rfl) loaded.declared name
  simp only [polls, mergeAll, List.foldl_map, List.map_eq_nil_iff]
  exact found

theorem specification_eq (loaded : Loaded) (network : NetworkSettings) :
    loaded.specification network =
      (empty network.name).mergeAll (network.pollGroups ++
        ((empty network.name).mergeAll
          (loaded.polls network.name)).registers) := by
  rw [specification, lookup_mqttSpecs]
  by_cases none : loaded.polls network.name = []
  · rw [if_pos none, none]
    simp [mergeAll, empty]
  · rw [if_neg none]
    exact List.foldl_append.symm

theorem mergeAll_networkName (spec : MsgRegisterPollSpecification)
    (polls : List MsgRegisterPoll) :
    (spec.mergeAll polls).networkName = spec.networkName := by
  induction polls generalizing spec with
  | nil => rfl
  | cons poll polls induction => exact induction (spec.merge poll)

theorem specification_networkName (loaded : Loaded)
    (network : NetworkSettings) :
    (loaded.specification network).networkName = network.name := by
  rw [specification_eq, mergeAll_networkName]
  rfl

theorem mem_mappings_iff {ident : MqttObjectRegisterIdent} {id : ObjectId} :
    (ident, id) ∈ loaded.mappings ↔ id < loaded.objects.length ∧
        ∃ spec ∈ loaded.specifications, ∃ poll ∈ spec.registers,
          (loaded.object id).hasRegisterIn spec.networkName
            poll.toModbusMessageBase = true ∧
          .ofMessage spec.networkName poll.toModbusMessageBase = ident := by
  simp only [mappings, List.mem_flatMap, List.mem_map, List.mem_filter,
    List.mem_range, Prod.mk.injEq]
  constructor
  · intro ⟨_, below, spec, known, poll, ⟨listed, shown⟩, same, rfl⟩
    exact ⟨below, spec, known, poll, listed, shown, same⟩
  · intro ⟨below, spec, known, poll, listed, shown, same⟩
    exact ⟨id, below, spec, known, poll, ⟨listed, shown⟩, same, rfl⟩

theorem findObjects_eq (loaded : Loaded) (rpcMode : RpcMode)
    (rpcRequestTopic : String) (ident : MqttObjectRegisterIdent) :
    (loaded.client rpcMode rpcRequestTopic).findObjects ident =
      let ids := (loaded.mappings.filter fun entry =>
        entry.1 = ident).map Prod.snd
      if ids = [] then none else some ids := by
  have found := Upsert.lookup_foldl
    (Prod.fst : MqttObjectRegisterIdent × List ObjectId → _) Prod.fst
    (fun name => (name, []))
    (fun (entry : MqttObjectRegisterIdent × ObjectId) known =>
      (known.1, known.2 ++ [entry.2]))
    (fun _ => rfl) (fun _ _ => rfl) loaded.mappings ident
  have collected (entries : List (MqttObjectRegisterIdent × ObjectId))
      (known : MqttObjectRegisterIdent × List ObjectId) :
      entries.foldl (fun known entry => (known.1, known.2 ++ [entry.2]))
        known = (known.1, known.2 ++ entries.map Prod.snd) := by
    induction entries generalizing known with
    | nil => simp
    | cons entry entries induction => simp [induction]
  have lookup : (loaded.client rpcMode rpcRequestTopic).findObjects ident =
      (Upsert.lookup Prod.fst loaded.mappedPollObjects ident).map
        Prod.snd := rfl
  rw [lookup, mappedPollObjects, found, collected]
  by_cases none : loaded.mappings.filter (fun entry => entry.1 = ident) = []
  · simp [none]
  · simp [none]

/-- Ranges have at least one register, and objects name networks of the
file. -/
structure Sensible (loaded : Loaded) : Prop where
  groups : ∀ network ∈ loaded.networks, ∀ poll ∈ network.pollGroups,
    1 ≤ poll.count
  declared : ∀ declaration ∈ loaded.declared, 1 ≤ declaration.poll.count
  networks : ∀ declaration ∈ loaded.declared,
    ∃ network ∈ loaded.networks, network.name = declaration.networkName

theorem mem_polls {declaration : Declaration}
    (listed : declaration ∈ loaded.declared) :
    declaration.poll ∈ loaded.polls declaration.networkName :=
  List.mem_map.mpr ⟨declaration,
    List.mem_filter.mpr ⟨listed, by simp⟩, rfl⟩

theorem exists_of_mem_polls {name : String} {poll : MsgRegisterPoll}
    (listed : poll ∈ loaded.polls name) :
    ∃ declaration ∈ loaded.declared,
      declaration.networkName = name ∧ declaration.poll = poll := by
  obtain ⟨declaration, selected, rfl⟩ := List.mem_map.mp listed
  obtain ⟨declared, same⟩ := List.mem_filter.mp selected
  exact ⟨declaration, declared, by simpa using same, rfl⟩

theorem Sensible.polls (sensible : loaded.Sensible) (name : String) :
    ∀ poll ∈ loaded.polls name, 1 ≤ poll.count := by
  intro poll listed
  obtain ⟨declaration, declared, _, rfl⟩ := exists_of_mem_polls listed
  exact sensible.declared declaration declared

open ModMqtt

theorem load_made {libraries : LoaderLibraries} {config : YamlNode}
    (loading : load libraries config = .ok loaded) :
    (∀ network ∈ loaded.networks, OpenGroups network) ∧
    ∃ slaveName refresh publishMode items,
      objectsSection config = .ok (refresh, publishMode, items) ∧
      Made libraries slaveName refresh items loaded.toLoadedObjects := by
  obtain ⟨modbusData, networksLoaded, loading⟩ := exists_of_bind loading
  obtain ⟨objects, objectsLoaded, same⟩ := exists_of_bind loading
  cases same
  obtain ⟨refresh, publishMode, items, read, made⟩ :=
    initObjects_made objectsLoaded
  exact ⟨initModbusClients_open networksLoaded, modbusData.slaveNames,
    refresh, publishMode, items, read, made⟩

end Loaded

end MqmGateway
