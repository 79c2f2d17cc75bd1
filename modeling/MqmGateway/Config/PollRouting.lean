import MqmGateway.Config.Init

/-!
# Poll results find their objects

Registers are merged twice, and the modbus thread drops the ranges that are
left without a refresh.  What it keeps are ranges that some object declared a
register of, so the client has objects for each of them.
-/

namespace MqmGateway

open MsgRegisterPoll MsgRegisterPollSpecification

namespace MsgRegisterPoll

/-- The poll reads all registers of the other one, at least as often. -/
structure Absorbs (poll other : MsgRegisterPoll) : Prop where
  slave : poll.slaveId = other.slaveId
  covers : ∀ {type number}, other.Covers type number → poll.Covers type number
  refresh : other.refreshMsec ≠ INVALID_REFRESH →
    poll.refreshMsec ≠ INVALID_REFRESH ∧
      poll.refreshMsec ≤ other.refreshMsec

theorem Absorbs.within {poll : MsgRegisterPoll} {declaration : Declaration}
    (absorbs : poll.Absorbs declaration.poll)
    {ident : MqttObjectRegisterIdent} (shown : ident ∈ declaration.idents) :
    ident.Within poll.toModbusMessageBase := by
  obtain ⟨_, slave, covers⟩ := Declaration.mem_idents_iff.mp shown
  exact ⟨absorbs.slave.trans slave, absorbs.covers covers⟩

theorem IsComponent.absorbs {polls : List MsgRegisterPoll}
    {poll merged member : MsgRegisterPoll}
    (component : IsComponent polls poll merged)
    (linked : Linked polls poll member) : merged.Absorbs member := by
  have memberTarget := Linked.target_eq linked
  refine ⟨?_, ?_, component.refresh.2 member.refreshMsec ⟨member, linked, rfl⟩⟩
  · exact congrArg Prod.fst (component.target.trans memberTarget.symm)
  · intro type number covers
    have type_eq : poll.registerType = type :=
      (congrArg Prod.snd memberTarget).symm.trans covers.1
    subst type_eq
    exact (component.covers_iff number).mpr ⟨member, linked, covers⟩

end MsgRegisterPoll

namespace MsgRegisterPollSpecification

theorem mergeAll_of_apart (networkName : String)
    {registers : List MsgRegisterPoll}
    (apart : registers.Pairwise fun left right => left.touches right = false) :
    (empty networkName).mergeAll registers = { networkName, registers } := by
  induction registers using List.reverseRec with
  | nil => rfl
  | append_singleton registers poll induction =>
    obtain ⟨before, _, between⟩ := List.pairwise_append.mp apart
    have untouched : ∀ reg ∈ registers, poll.touches reg = false := by
      intro reg listed
      rw [touches_comm]
      exact between reg listed poll (List.mem_singleton_self poll)
    have unfoldLast : (empty networkName).mergeAll (registers ++ [poll]) =
        ((empty networkName).mergeAll registers).merge poll := by
      simp [mergeAll]
    have none : registers.filter (fun reg => poll.touches reg) = [] :=
      List.filter_eq_nil_iff.mpr fun reg listed => by
        simp [untouched reg listed]
    have all : registers.filter (fun reg => !poll.touches reg) =
        registers :=
      List.filter_eq_self.mpr fun reg listed => by
        simp [untouched reg listed]
    rw [unfoldLast, induction before, merge]
    dsimp only
    rw [none, all]
    rfl

section TwoRounds

variable (networkName : String) {groups polls : List MsgRegisterPoll}
  (groupCounts : ∀ poll ∈ groups, 1 ≤ poll.count)
  (pollCounts : ∀ poll ∈ polls, 1 ≤ poll.count)

include groupCounts pollCounts

theorem secondRound_counts :
    ∀ poll ∈ groups ++ ((empty networkName).mergeAll polls).registers,
      1 ≤ poll.count := by
  intro poll listed
  rcases List.mem_append.mp listed with group | merged
  · exact groupCounts poll group
  · exact mergeAll_counts networkName pollCounts poll merged

theorem mem_secondRound_iff (merged : MsgRegisterPoll) :
    merged ∈ ((empty networkName).mergeAll (groups ++
        ((empty networkName).mergeAll polls).registers)).registers ↔
      ∃ poll ∈ groups ++ polls, IsComponent (groups ++ polls) poll merged := by
  have counts : ∀ poll ∈ groups ++ polls, 1 ≤ poll.count :=
    List.forall_mem_append.mpr ⟨groupCounts, pollCounts⟩
  have firstRound : (empty networkName).mergeAll
      ((empty networkName).mergeAll polls).registers =
        (empty networkName).mergeAll polls := by
    rw [mergeAll_of_apart networkName
      (pairwise_not_touches networkName pollCounts)]
    exact congrArg (fun name => MsgRegisterPollSpecification.mk name
      ((empty networkName).mergeAll polls).registers)
      (Loaded.mergeAll_networkName (empty networkName) polls).symm
  have joined : (empty networkName).mergeAll
      (((empty networkName).mergeAll polls).registers ++ groups) =
        (empty networkName).mergeAll (polls ++ groups) := by
    have split (spec : MsgRegisterPollSpecification)
        (front back : List MsgRegisterPoll) :
        spec.mergeAll (front ++ back) = (spec.mergeAll front).mergeAll back :=
      List.foldl_append
    rw [split, firstRound, ← split]
  rw [mem_mergeAll_of_perm networkName List.perm_append_comm
      (List.forall_mem_append.mpr
        ⟨mergeAll_counts networkName pollCounts, groupCounts⟩), joined,
    mem_mergeAll_of_perm networkName List.perm_append_comm counts,
    mem_mergeAll_iff networkName counts]

theorem exists_absorbs {poll : MsgRegisterPoll} (listed : poll ∈ polls) :
    ∃ merged ∈ ((empty networkName).mergeAll (groups ++
        ((empty networkName).mergeAll polls).registers)).registers,
      merged.Absorbs poll := by
  have known : poll ∈ groups ++ polls := List.mem_append_right groups listed
  obtain ⟨merged, _, component⟩ := exists_merged networkName
    (List.forall_mem_append.mpr ⟨groupCounts, pollCounts⟩) known
  exact ⟨merged, (mem_secondRound_iff networkName groupCounts pollCounts
    merged).mpr ⟨poll, known, component⟩, component.absorbs .refl⟩

theorem exists_declared
    (isOpen : ∀ poll ∈ groups, poll.refreshMsec = INVALID_REFRESH)
    {merged : MsgRegisterPoll}
    (listed : merged ∈ ((empty networkName).mergeAll (groups ++
      ((empty networkName).mergeAll polls).registers)).registers)
    (valid : merged.refreshMsec ≠ INVALID_REFRESH) :
    ∃ poll ∈ polls, merged.Absorbs poll := by
  obtain ⟨base, baseListed, component⟩ :=
    (mem_secondRound_iff networkName groupCounts pollCounts merged).mp listed
  obtain ⟨member, linked, refreshed⟩ := component.refresh.1
  rcases List.mem_append.mp (Linked.mem linked baseListed) with
    group | declared
  · exact absurd (refreshed.symm.trans (isOpen member group)) valid
  · exact ⟨member, declared, component.absorbs linked⟩

end TwoRounds

end MsgRegisterPollSpecification

namespace Loaded

open ModMqtt

variable {libraries : LoaderLibraries} {config : YamlNode} {loaded : Loaded}

/-- Every leaf has one range, in each specification of its network, with a
refresh that is not longer than any that its object configures for it. -/
def LeavesRouted (loaded : Loaded) (libraries : LoaderLibraries)
    (config : YamlNode) : Prop :=
  ∃ refresh publishMode items,
    objectsSection config = .ok (refresh, publishMode, items) ∧
    ∀ object ∈ loaded.objects, ∃ source, InSection refresh items source ∧
      ∀ leaf ∈ object.leaves,
        (∃ inForce, source.Configures libraries leaf.1 inForce) ∧
        (∃ spec ∈ loaded.specifications,
          spec.networkName = leaf.1.networkName) ∧
        ∀ spec ∈ loaded.specifications,
          spec.networkName = leaf.1.networkName →
          ∃ poll, spec.registers.filter (fun poll =>
              leaf.1.Within poll.toModbusMessageBase) = [poll] ∧
            poll.refreshMsec ≠ INVALID_REFRESH ∧
            ∀ inForce, source.Configures libraries leaf.1 inForce →
              poll.refreshMsec ≤ inForce

/-- Every range with a refresh has an entry that lists the objects with a leaf
in it. -/
def PollsMapped (loaded : Loaded) (client : MqttClient) : Prop :=
  ∀ spec ∈ loaded.specifications, ∀ poll ∈ spec.registers,
    poll.refreshMsec ≠ INVALID_REFRESH →
    ∃ ids, client.findObjects
        (.ofMessage spec.networkName poll.toModbusMessageBase) = some ids ∧
      ∀ id, (∃ leaf ∈ (loaded.object id).leaves,
          leaf.1.networkName = spec.networkName ∧
          leaf.1.Within poll.toModbusMessageBase) → id ∈ ids

/-- The results of the polls that a thread schedules are for some objects. -/
def LookupsSucceed (loaded : Loaded) (client : MqttClient) : Prop :=
  ∀ spec ∈ loaded.specifications, ∀ thread : ModbusThread,
    ∀ reg ∈ thread.specifiedPolls spec, ∀ values,
      (client.affectedByValues spec.networkName
        (reg.valuesMessage values)).isSome = true

variable {spec : MsgRegisterPollSpecification}
  {ident : MqttObjectRegisterIdent} {poll : MsgRegisterPoll}

theorem exists_of_mem_specifications (listed : spec ∈ loaded.specifications) :
    ∃ network ∈ loaded.networks, network.name = spec.networkName ∧
      spec.registers = ((empty network.name).mergeAll (network.pollGroups ++
        ((empty network.name).mergeAll
          (loaded.polls network.name)).registers)).registers := by
  obtain ⟨network, known, rfl⟩ := List.mem_map.mp listed
  refine ⟨network, known, (loaded.specification_networkName network).symm, ?_⟩
  rw [specification_eq]

variable {slaveName : String → Int → String} {refresh : Int}
  {items : List YamlNode}

theorem exists_source
    (made : Made libraries slaveName refresh items loaded.toLoadedObjects)
    {object : MqttObject} (listed : object ∈ loaded.objects) :
    ∃ source declared, InSection refresh items source ∧
      Declares (source.Configures libraries) object.leaves declared ∧
      ∀ declaration ∈ declared, declaration ∈ loaded.declared := by
  obtain ⟨parts, objects, polls, each⟩ := made
  rw [objects] at listed
  obtain ⟨⟨source, object, declared⟩, member, rfl⟩ := List.mem_map.mp listed
  obtain ⟨inSection, parsed⟩ := each _ member
  refine ⟨source, declared, inSection, parseObject_declares parsed, ?_⟩
  intro declaration inside
  rw [polls]
  exact List.mem_flatMap.mpr ⟨_, member, inside⟩

theorem exists_leaf
    (made : Made libraries slaveName refresh items loaded.toLoadedObjects)
    {declaration : Declaration} (listed : declaration ∈ loaded.declared)
    (shown : ident ∈ declaration.idents) :
    ∃ id, ∃ leaf ∈ (loaded.object id).leaves, leaf.1 = ident := by
  obtain ⟨parts, objects, polls, each⟩ := made
  rw [polls] at listed
  obtain ⟨⟨source, object, declared⟩, member, inside⟩ :=
    List.mem_flatMap.mp listed
  have declares := parseObject_declares (each _ member).2
  have known : object ∈ loaded.objects := by
    rw [objects]
    exact List.mem_map.mpr ⟨_, member, rfl⟩
  obtain ⟨id, below, same⟩ := List.mem_iff_getElem.mp known
  refine ⟨id, (ident, {}), ?_, rfl⟩
  rw [Loaded.object, List.getD_eq_getElem?_getD,
    List.getElem?_eq_getElem below, same, Option.getD_some, declares.leaves_eq]
  exact List.mem_map.mpr
    ⟨ident, List.mem_flatMap.mpr ⟨declaration, inside, shown⟩, rfl⟩

theorem mem_mappings (specListed : spec ∈ loaded.specifications)
    (listed : poll ∈ spec.registers) {id : ObjectId} {leaf : RegisterLeaf}
    (shown : leaf ∈ (loaded.object id).leaves)
    (network : leaf.1.networkName = spec.networkName)
    (within : leaf.1.Within poll.toModbusMessageBase) :
    (MqttObjectRegisterIdent.ofMessage spec.networkName
      poll.toModbusMessageBase, id) ∈ loaded.mappings := by
  have below : id < loaded.objects.length := by
    by_contra outside
    rw [object, List.getD_eq_getElem?_getD,
      List.getElem?_eq_none (not_lt.mp outside)] at shown
    cases shown
  exact mem_mappings_iff.mpr ⟨below, spec, specListed, poll, listed,
    MqttObject.hasRegisterIn_of_leaf shown network within, rfl⟩

theorem findObjects_of_leaf (rpcMode : RpcMode) (rpcRequestTopic : String)
    (specListed : spec ∈ loaded.specifications)
    (listed : poll ∈ spec.registers) {id : ObjectId} {leaf : RegisterLeaf}
    (shown : leaf ∈ (loaded.object id).leaves)
    (network : leaf.1.networkName = spec.networkName)
    (within : leaf.1.Within poll.toModbusMessageBase) :
    ∃ ids, (loaded.client rpcMode rpcRequestTopic).findObjects
        (.ofMessage spec.networkName poll.toModbusMessageBase) = some ids ∧
      ∀ id, (∃ leaf ∈ (loaded.object id).leaves,
        leaf.1.networkName = spec.networkName ∧
        leaf.1.Within poll.toModbusMessageBase) → id ∈ ids := by
  rw [findObjects_eq]
  have found {id : ObjectId} {leaf : RegisterLeaf}
      (shown : leaf ∈ (loaded.object id).leaves)
      (network : leaf.1.networkName = spec.networkName)
      (within : leaf.1.Within poll.toModbusMessageBase) :
      id ∈ (loaded.mappings.filter fun entry => entry.1 =
        .ofMessage spec.networkName poll.toModbusMessageBase).map Prod.snd :=
    List.mem_map.mpr ⟨_, List.mem_filter.mpr
      ⟨mem_mappings specListed listed shown network within, by simp⟩, rfl⟩
  dsimp only
  rw [if_neg (List.ne_nil_of_mem (found shown network within))]
  refine ⟨_, rfl, ?_⟩
  intro id ⟨leaf, shown, network, within⟩
  exact found shown network within

theorem exists_poll (sensible : loaded.Sensible)
    (specListed : spec ∈ loaded.specifications)
    {declaration : Declaration} (listed : declaration ∈ loaded.declared)
    (network : declaration.networkName = spec.networkName) :
    ∃ poll ∈ spec.registers, poll.Absorbs declaration.poll := by
  obtain ⟨settings, known, name, registers⟩ :=
    exists_of_mem_specifications specListed
  rw [registers]
  have member := mem_polls listed
  rw [network, ← name] at member
  exact exists_absorbs settings.name (sensible.groups settings known)
    (sensible.polls settings.name) member

theorem filter_within (sensible : loaded.Sensible)
    (specListed : spec ∈ loaded.specifications)
    (listed : poll ∈ spec.registers)
    (within : ident.Within poll.toModbusMessageBase) :
    spec.registers.filter (fun poll =>
      ident.Within poll.toModbusMessageBase) = [poll] := by
  obtain ⟨settings, known, name, registers⟩ :=
    exists_of_mem_specifications specListed
  have counts := secondRound_counts settings.name
    (sensible.groups settings known) (sensible.polls settings.name)
  have nodup : spec.registers.Nodup := by
    rw [registers]
    exact mergeAll_nodup settings.name counts
  refine filter_eq_singleton nodup listed (decide_eq_true within) ?_
  intro other otherListed otherWithin
  rw [registers] at listed otherListed
  refine mergeAll_eq_of_touches settings.name counts otherListed listed ?_
  obtain ⟨otherSlave, otherType, otherFirst, otherLast⟩ :=
    of_decide_eq_true otherWithin
  obtain ⟨slave, type, first, last⟩ := within
  simp only [MsgRegisterPoll.touches, Bool.and_eq_true, beq_iff_eq,
    ModbusAddressRange.overlaps_eq_true_iff]
  exact ⟨otherSlave.trans slave.symm, otherType.trans type.symm,
    otherFirst.trans last, first.trans otherLast⟩

theorem configures_valid (valid : refresh ≠ INVALID_REFRESH)
    {source : ObjectSource} (inSection : InSection refresh items source)
    {inForce : Int}
    (configures : source.Configures libraries ident inForce) :
    inForce ≠ INVALID_REFRESH := by
  obtain ⟨own, given, same⟩ := inSection.inForce
  obtain ⟨item, _, inner⟩ := configures
  apply inner.valid
  rw [same]
  exact ownRefresh_valid given valid

theorem leavesRouted (loading : load libraries config = .ok loaded)
    (sensible : loaded.Sensible) : loaded.LeavesRouted libraries config := by
  obtain ⟨_, slaveName, refresh, publishMode, items, read, made⟩ :=
    load_made loading
  refine ⟨refresh, publishMode, items, read, ?_⟩
  intro object listed
  obtain ⟨source, declared, inSection, declares, inside⟩ :=
    exists_source made listed
  refine ⟨source, inSection, ?_⟩
  intro leaf shown
  obtain ⟨declaration, declarationListed, identShown⟩ :
      ∃ declaration ∈ declared, leaf.1 ∈ declaration.idents := by
    rw [declares.leaves_eq] at shown
    obtain ⟨ident, member, rfl⟩ := List.mem_map.mp shown
    exact List.mem_flatMap.mp member
  have known := inside declaration declarationListed
  have sameNetwork := (Declaration.mem_idents_iff.mp identShown).1
  refine ⟨⟨_, (declares.configured_iff _ _).mpr
    ⟨declaration, declarationListed, identShown, rfl⟩⟩, ?_, ?_⟩
  · obtain ⟨settings, settingsListed, name⟩ :=
      sensible.networks declaration known
    refine ⟨loaded.specification settings,
      List.mem_map.mpr ⟨settings, settingsListed, rfl⟩, ?_⟩
    rw [specification_networkName, name, sameNetwork]
  · intro spec specListed network
    obtain ⟨poll, pollListed, absorbs⟩ := exists_poll sensible specListed known
      (sameNetwork.trans network.symm)
    have unique := filter_within sensible specListed pollListed
      (absorbs.within identShown)
    have shorter : ∀ inForce, source.Configures libraries leaf.1 inForce →
        poll.refreshMsec ≠ INVALID_REFRESH ∧ poll.refreshMsec ≤ inForce := by
      intro inForce configures
      obtain ⟨other, otherListed, otherShown, rfl⟩ :=
        (declares.configured_iff _ _).mp configures
      have valid := configures_valid (objectsSection_valid read) inSection
        configures
      have otherNetwork := (Declaration.mem_idents_iff.mp otherShown).1
      obtain ⟨otherPoll, otherPollListed, otherAbsorbs⟩ := exists_poll sensible
        specListed (inside other otherListed)
        (otherNetwork.trans network.symm)
      have same : otherPoll ∈ [poll] := by
        rw [← unique]
        exact List.mem_filter.mpr ⟨otherPollListed,
          decide_eq_true (otherAbsorbs.within otherShown)⟩
      rw [← List.mem_singleton.mp same]
      exact otherAbsorbs.refresh valid
    have configured : source.Configures libraries leaf.1
        declaration.poll.refreshMsec :=
      (declares.configured_iff _ _).mpr
        ⟨declaration, declarationListed, identShown, rfl⟩
    exact ⟨poll, unique, (shorter _ configured).1,
      fun inForce configures => (shorter inForce configures).2⟩

theorem pollsMapped (loading : load libraries config = .ok loaded)
    (sensible : loaded.Sensible) (rpcMode : RpcMode)
    (rpcRequestTopic : String) :
    loaded.PollsMapped (loaded.client rpcMode rpcRequestTopic) := by
  obtain ⟨isOpen, slaveName, refresh, _, items, _, made⟩ := load_made loading
  intro spec specListed poll listed valid
  obtain ⟨settings, known, name, registers⟩ :=
    exists_of_mem_specifications specListed
  have member := listed
  rw [registers] at member
  obtain ⟨declaredPoll, declaredListed, absorbs⟩ := exists_declared
    settings.name (sensible.groups settings known)
    (sensible.polls settings.name) (isOpen settings known) member valid
  obtain ⟨declaration, declared, network, rfl⟩ :=
    exists_of_mem_polls declaredListed
  have positive := sensible.declared declaration declared
  have first : ({
      networkName := declaration.networkName
      slaveId := declaration.poll.slaveId
      registerNumber := declaration.poll.register
      registerType := declaration.poll.registerType } :
        MqttObjectRegisterIdent) ∈ declaration.idents := by
    refine Declaration.mem_idents_iff.mpr ⟨rfl, rfl, rfl, le_refl _, ?_⟩
    simp only [ModbusAddressRange.lastRegister]
    omega
  obtain ⟨id, leaf, shown, same⟩ := exists_leaf made declared first
  apply findObjects_of_leaf rpcMode rpcRequestTopic specListed listed shown
  · rw [same]
    exact network.trans name
  · rw [same]
    exact absorbs.within first

theorem lookupsSucceed {client : MqttClient}
    (mapped : loaded.PollsMapped client) : loaded.LookupsSucceed client := by
  intro spec specListed thread reg listed values
  obtain ⟨entry, selected, rfl⟩ := List.mem_map.mp listed
  obtain ⟨numbered, valid⟩ := List.mem_filter.mp selected
  have member := List.fst_mem_of_mem_zipIdx numbered
  obtain ⟨ids, found, _⟩ := mapped spec specListed entry.1 member
    (of_decide_eq_true valid)
  have lookup : client.affectedByValues spec.networkName
      ((thread.specifiedPoll entry.1 entry.2).valuesMessage values) =
        client.findObjects
          (.ofMessage spec.networkName entry.1.toModbusMessageBase) := rfl
  rw [lookup, found]
  rfl

theorem polls_routed (loading : load libraries config = .ok loaded)
    (sensible : loaded.Sensible) (rpcMode : RpcMode)
    (rpcRequestTopic : String) :
    loaded.LeavesRouted libraries config ∧
      loaded.PollsMapped (loaded.client rpcMode rpcRequestTopic) ∧
      loaded.LookupsSucceed (loaded.client rpcMode rpcRequestTopic) := by
  have mapped := pollsMapped loading sensible rpcMode rpcRequestTopic
  exact ⟨leavesRouted loading sensible, mapped, lookupsSucceed mapped⟩

instance (loaded : Loaded) : Decidable loaded.Sensible :=
  decidable_of_iff
    ((∀ network ∈ loaded.networks, ∀ poll ∈ network.pollGroups,
        1 ≤ poll.count) ∧
      (∀ declaration ∈ loaded.declared, 1 ≤ declaration.poll.count) ∧
      ∀ declaration ∈ loaded.declared,
        ∃ network ∈ loaded.networks, network.name = declaration.networkName)
    ⟨fun ⟨groups, declared, networks⟩ => ⟨groups, declared, networks⟩,
      fun sensible => ⟨sensible.groups, sensible.declared, sensible.networks⟩⟩

/-- Numbers as the loader itself reads them; nothing else is converted. -/
def numberLibraries : LoaderLibraries :=
  { parseJson := fun _ => .error "no document"
    createConverter := fun _ => .error "no converter"
    describe := fun _ => ""
    asInt := fun text => ConfigTools.toNumber text.toList
    asBool := fun _ => .error "bad conversion"
    asUnsignedShort := fun _ => .error "bad conversion"
    asChar := fun _ => .error "bad conversion"
    asserts := true }

theorem exists_loaded {file : YamlNode}
    {property : Loaded → Prop} [DecidablePred property]
    (checked : ((load libraries file).toOption.any fun loaded =>
      decide (property loaded)) = true) :
    ∃ loaded, load libraries file = .ok loaded ∧ property loaded := by
  obtain ⟨loaded, loading, holds⟩ := exists_of_toOption_any checked
  exact ⟨loaded, loading, of_decide_eq_true holds⟩

/-- A file with poll groups and one object for slave 1 that has the given
sections. -/
def objectFile (groups : List YamlNode)
    (sections : List (String × YamlNode)) : YamlNode :=
  .map
    [("modbus", .map [("networks", .sequence [.map
        [("name", .scalar "net"), ("address", .scalar "localhost"),
          ("port", .scalar "502"), ("slaves", .sequence [.map
            [("address", .scalar "1"),
              ("poll_groups", .sequence groups)]])]])]),
      ("mqtt", .map
        [("refresh", .scalar "1s"), ("objects", .sequence [.map
          ([("topic", .scalar "meter"), ("network", .scalar "net"),
            ("slave", .scalar "1")] ++ sections)])])]

/-- The object shows one register of the poll group and one after it. -/
def meterFile : YamlNode :=
  objectFile [.map [("register", .scalar "1"), ("count", .scalar "4")]]
    [("state", .map [("registers", .sequence
      [.map [("register", .scalar "2")],
        .map [("register", .scalar "4"), ("count", .scalar "2"),
          ("refresh", .scalar "500ms")]])])]

theorem polls_routed_meter : ∃ loaded,
    load numberLibraries meterFile = .ok loaded ∧ loaded.Sensible ∧
      loaded.objects.length = 1 ∧
      loaded.LeavesRouted numberLibraries meterFile ∧
      loaded.PollsMapped (loaded.client .read "rpc") ∧
      loaded.LookupsSucceed (loaded.client .read "rpc") := by
  obtain ⟨loaded, loading, sensible, single⟩ := exists_loaded
    (show ((load numberLibraries meterFile).toOption.any fun loaded =>
      decide (loaded.Sensible ∧ loaded.objects.length = 1)) = true by
        decide +kernel)
  exact ⟨loaded, loading, sensible, single,
    polls_routed loading sensible .read "rpc"⟩

end Loaded

end MqmGateway
