import MqmGateway.Config.PollRouting
import MqmGateway.ModbusThread.Durations

/-!
# The refreshes of a loaded file

The refresh of a declared poll is a timespan of the file or five seconds, a
poll group has the sentinel, and merging takes one of the refreshes that are
there.  What holds of these numbers holds of every poll that a thread is sent.
-/

namespace MqmGateway

namespace MsgRegisterPollSpecification

open MsgRegisterPoll

variable {property : Int → Prop}

theorem foldl_merge_refresh {overlaped : List MsgRegisterPoll}
    (each : ∀ poll ∈ overlaped, property poll.refreshMsec)
    {poll : MsgRegisterPoll} (own : property poll.refreshMsec) :
    property (overlaped.foldl MsgRegisterPoll.merge poll).refreshMsec := by
  induction overlaped generalizing poll with
  | nil => exact own
  | cons first overlaped induction =>
    obtain ⟨here, later⟩ := List.forall_mem_cons.mp each
    refine induction later ?_
    change property (mergeRefresh poll.refreshMsec first.refreshMsec)
    rw [mergeRefresh]
    split_ifs
    · exact here
    · exact here
    · exact own

theorem mergeAll_refresh {polls : List MsgRegisterPoll}
    (each : ∀ poll ∈ polls, property poll.refreshMsec)
    {spec : MsgRegisterPollSpecification}
    (stored : ∀ poll ∈ spec.registers, property poll.refreshMsec) :
    ∀ poll ∈ (spec.mergeAll polls).registers, property poll.refreshMsec := by
  induction polls generalizing spec with
  | nil => exact stored
  | cons first polls induction =>
    obtain ⟨here, later⟩ := List.forall_mem_cons.mp each
    refine induction later ?_
    intro poll listed
    rcases List.mem_append.mp listed with remaining | merged
    · exact stored poll (List.mem_of_mem_filter remaining)
    · cases List.mem_singleton.mp merged
      exact foldl_merge_refresh
        (fun reg overlaped => stored reg (List.mem_of_mem_filter overlaped))
        here

theorem mergeAll_empty_refresh {networkName : String}
    {polls : List MsgRegisterPoll}
    (each : ∀ poll ∈ polls, property poll.refreshMsec) :
    ∀ poll ∈ ((empty networkName).mergeAll polls).registers,
      property poll.refreshMsec :=
  mergeAll_refresh each (List.forall_mem_nil _)

end MsgRegisterPollSpecification

namespace ModMqtt

open ConfigTools

def Refreshed (property : Int → Prop) (declared : List Declaration) : Prop :=
  ∀ declaration ∈ declared, property declaration.poll.refreshMsec

section Timespans

variable {libraries : LoaderLibraries} {defaults : ObjectDefaults}
  {property : Int → Prop}
  (timespans : ∀ {text value}, decodeMilliseconds text = .ok value →
    property value)

theorem updateSpecification_refreshed {node : YamlNode} {count refresh : Int}
    {first : MqttObjectRegisterIdent} {declaration : Declaration}
    (updated : updateSpecification libraries.asserts defaults node count
      refresh = .ok (first, declaration))
    (inForce : property refresh) : Refreshed property [declaration] := by
  obtain ⟨name, registerType, _, _, rfl, rfl⟩ :=
    updateSpecification_read updated
  intro declaration listed
  cases List.mem_singleton.mp listed
  exact inForce

theorem ParsedItems.refreshed {refresh : Int} {items : List YamlNode}
    {children : List (Parsed MqttObjectDataNode)}
    (parsed : ParsedItems libraries defaults refresh items children)
    (each : ∀ item ∈ items, ∀ {everyPollRefresh child},
      parseObjectDataNode libraries defaults item refresh everyPollRefresh =
        .ok child → Refreshed property child.declared) :
    Refreshed property (children.flatMap Parsed.declared) := by
  induction parsed with
  | nil => exact List.forall_mem_nil _
  | cons first _ induction =>
    obtain ⟨everyPollRefresh, childParsed⟩ := first
    obtain ⟨here, later⟩ := List.forall_mem_cons.mp each
    rw [List.flatMap_cons]
    exact List.forall_mem_append.mpr ⟨here childParsed, induction later⟩

include timespans

theorem parseObjectDataNode_refreshed {node : YamlNode}
    {refresh everyPollRefresh : Int} {parsed : Parsed MqttObjectDataNode}
    (parsing : parseObjectDataNode libraries defaults node refresh
      everyPollRefresh = .ok parsed)
    (inForce : property refresh) : Refreshed property parsed.declared := by
  induction node using registers_induction
    generalizing refresh everyPollRefresh parsed with
  | step node induction =>
    cases parseObjectDataNode_parsed parsing with
    | @group own items _ children _ _ _ member given inner _ declared =>
      obtain ⟨_, itemsParsed, _, asked⟩ := parseRegisterList_items inner
      rw [declared, asked]
      refine itemsParsed.refreshed ?_
      intro item listed everyPollRefresh child itemParsed
      exact induction items member item listed itemParsed
        (ownRefresh_of timespans given inForce)
    | register _ given _ updated _ declared =>
      rw [declared]
      exact updateSpecification_refreshed updated
        (ownRefresh_of timespans given inForce)

theorem parseObject_refreshed {source : ObjectSource} {name : String}
    {object : MqttObject} {declared : List Declaration}
    (parsing : parseObject libraries source name = .ok (object, declared))
    (inForce : property source.refresh) : Refreshed property declared := by
  obtain ⟨mode, children, items, _, rfl⟩ := parseObject_items parsing
  exact items.refreshed fun item _ _ _ itemParsed =>
    parseObjectDataNode_refreshed timespans itemParsed inForce

end Timespans

end ModMqtt

namespace Loaded

open ModMqtt ConfigTools MsgRegisterPollSpecification

variable {libraries : LoaderLibraries} {config : YamlNode} {loaded : Loaded}

theorem polls_refresh {property : Int → Prop}
    (timespans : ∀ {text value}, decodeMilliseconds text = .ok value →
      property value)
    (fiveSeconds : property 5000)
    (sentinel : property MsgRegisterPoll.INVALID_REFRESH)
    (loading : load libraries config = .ok loaded) :
    (∀ network ∈ loaded.networks, ∀ poll ∈ network.pollGroups,
      property poll.refreshMsec) ∧
    ∀ name, ∀ poll ∈ loaded.polls name, property poll.refreshMsec := by
  obtain ⟨isOpen, slaveName, refresh, publishMode, items, read, made⟩ :=
    load_made loading
  obtain ⟨parts, _, polls, each⟩ := made
  have inForce : property refresh :=
    objectsSection_refresh timespans fiveSeconds read
  refine ⟨?_, ?_⟩
  · intro network known poll group
    rw [isOpen network known poll group]
    exact sentinel
  · intro name poll asked
    obtain ⟨declaration, listed, _, rfl⟩ := exists_of_mem_polls asked
    rw [polls] at listed
    obtain ⟨part, known, inside⟩ := List.mem_flatMap.mp listed
    obtain ⟨inSection, parsed⟩ := each part known
    obtain ⟨own, given, same⟩ := inSection.inForce
    refine parseObject_refreshed timespans parsed ?_ declaration inside
    rw [same]
    exact ownRefresh_of timespans given inForce

theorem polls_isInt (loading : load libraries config = .ok loaded) :
    (∀ network ∈ loaded.networks, ∀ poll ∈ network.pollGroups,
      IsInt poll.refreshMsec) ∧
    ∀ name, ∀ poll ∈ loaded.polls name, IsInt poll.refreshMsec :=
  polls_refresh decodeMilliseconds_bounds ⟨by decide, by decide⟩
    ⟨by decide, by decide⟩ loading

theorem specifications_intRefreshes
    (loading : load libraries config = .ok loaded) :
    ∀ spec ∈ loaded.specifications, spec.IntRefreshes := by
  obtain ⟨groups, polls⟩ := polls_isInt loading
  intro spec listed
  obtain ⟨network, known, _, registers⟩ := exists_of_mem_specifications listed
  rw [IntRefreshes, registers]
  refine mergeAll_empty_refresh ?_
  exact List.forall_mem_append.mpr
    ⟨groups network known, mergeAll_empty_refresh (polls network.name)⟩

/-- What a loaded file gives the threads: refreshes of 32 bits. -/
theorem thread_fresh (loading : load libraries config = .ok loaded)
    (rpcMode : RpcMode) (rpcRequestTopic : String) (now : Int)
    (created : RegisterPoll → Int) (name : String) :
    (∀ spec ∈ loaded.specifications, spec.IntRefreshes) ∧
      ((loaded.configuration rpcMode rpcRequestTopic).thread now created
        name).Fresh := by
  obtain ⟨groups, polls⟩ := polls_isInt loading
  refine ⟨specifications_intRefreshes loading, rfl, fun _ => rfl, ?_⟩
  intro spec listed
  rw [Configuration.thread] at listed
  split at listed
  · cases listed
  · cases List.mem_singleton.mp listed
    refine mergeAll_refresh (mergeAll_empty_refresh (polls name))
      (mergeAll_empty_refresh ?_)
    change ∀ poll ∈ ((loaded.networks.find? fun network =>
      network.name = name).getD { name }).pollGroups, IsInt poll.refreshMsec
    cases found : loaded.networks.find? fun network => network.name = name with
    | none => exact List.forall_mem_nil _
    | some network => exact groups network (List.mem_of_find?_eq_some found)

theorem thread_fresh_meter : ∃ loaded,
    load numberLibraries meterFile = .ok loaded ∧ loaded.specifications ≠ [] ∧
      (∀ spec ∈ loaded.specifications, spec.IntRefreshes) ∧
      ((loaded.configuration .read "").thread 0 (fun _ => 0) "net").Fresh := by
  obtain ⟨loaded, loading, filled⟩ := exists_loaded
    (show ((load numberLibraries meterFile).toOption.any fun loaded =>
      decide (loaded.specifications.length ≠ 0)) = true by decide +kernel)
  exact ⟨loaded, loading, mt List.length_eq_zero_iff.mpr filled,
    thread_fresh loading .read "" 0 _ "net"⟩

end Loaded

end MqmGateway
