import MqmGateway.Gateway.Provenance
import MqmGateway.MqttObject.Ranges
import MqmGateway.PollSpecification

/-!
# Which objects a message concerns

The lists of the client are made from the poll specifications.  Ranges of a
specification do not overlap, so the result of a scheduled poll finds every
object that shows one of its registers.
-/

namespace MqmGateway

theorem MqttObject.hasRegisterIn_of_leaf {object : MqttObject}
    {leaf : RegisterLeaf} (listed : leaf ∈ object.leaves) {name : String}
    (network : leaf.1.networkName = name) {range : ModbusMessageBase}
    (within : leaf.1.Within range) : object.hasRegisterIn name range = true := by
  obtain ⟨slave, type, first, last⟩ := within
  rw [MqttObject.hasRegisterIn_eq]
  refine List.any_eq_true.mpr ⟨leaf, listed, ?_⟩
  have overlaps : range.overlaps leaf.1.asModbusAddressRange = true := by
    refine ModbusAddressRange.overlaps_eq_true_iff.mpr ⟨type, ?_, last⟩
    simp only [MqttObjectRegisterIdent.asModbusAddressRange,
      ModbusAddressRange.lastRegister]
    omega
  simp [MqttObjectDataNode.identIn, slave, overlaps, network]

namespace MsgRegisterPoll

/-- At least one register, and all of them have 16 bit addresses. -/
def InAddressSpace (poll : MsgRegisterPoll) : Prop :=
  1 ≤ poll.count ∧ 0 ≤ poll.firstRegister ∧ poll.lastRegister ≤ 65535

instance (poll : MsgRegisterPoll) : Decidable poll.InAddressSpace :=
  inferInstanceAs (Decidable (_ ∧ _))

theorem touches_comm (poll other : MsgRegisterPoll) :
    poll.touches other = other.touches poll := by
  rw [Bool.eq_iff_iff]
  simp only [touches, Bool.and_eq_true, beq_iff_eq,
    ModbusAddressRange.overlaps_eq_true_iff]
  constructor
  · rintro ⟨slave, type, left, right⟩
    exact ⟨slave.symm, type.symm, right, left⟩
  · rintro ⟨slave, type, left, right⟩
    exact ⟨slave.symm, type.symm, right, left⟩

end MsgRegisterPoll

namespace MsgRegisterPollSpecification

open MsgRegisterPoll

variable {polls : List MsgRegisterPoll}

theorem mergeAll_eq_of_touches (networkName : String)
    (counts : ∀ poll ∈ polls, 1 ≤ poll.count)
    {poll other : MsgRegisterPoll}
    (listed : poll ∈ ((empty networkName).mergeAll polls).registers)
    (otherListed : other ∈ ((empty networkName).mergeAll polls).registers)
    (touches : poll.touches other = true) : poll = other := by
  by_contra different
  have symmetric : Std.Symm fun left right : MsgRegisterPoll =>
      left.touches right = false := by
    constructor
    intro left right untouched
    exact (MsgRegisterPoll.touches_comm right left).trans untouched
  have untouched := (pairwise_not_touches networkName counts).forall listed
    otherListed different
  rw [touches] at untouched
  cases untouched

theorem mergeAll_counts (networkName : String)
    (counts : ∀ poll ∈ polls, 1 ≤ poll.count) :
    ∀ merged ∈ ((empty networkName).mergeAll polls).registers,
      1 ≤ merged.count := by
  intro merged listed
  obtain ⟨_, _, component⟩ := exists_isComponent networkName counts listed
  exact component.count_pos

theorem mergeAll_nodup (networkName : String)
    (counts : ∀ poll ∈ polls, 1 ≤ poll.count) :
    ((empty networkName).mergeAll polls).registers.Nodup := by
  refine (pairwise_not_touches networkName counts).imp_of_mem ?_
  intro poll other listed _ untouched same
  have positive := mergeAll_counts networkName counts poll listed
  have touches : poll.touches poll = true := by
    simp only [MsgRegisterPoll.touches, Bool.and_eq_true, beq_iff_eq,
      ModbusAddressRange.overlaps_eq_true_iff,
      ModbusAddressRange.firstRegister, ModbusAddressRange.lastRegister]
    refine ⟨trivial, trivial, ?_, ?_⟩ <;> omega
  rw [← same, touches] at untouched
  cases untouched

theorem mergeAll_inAddressSpace (networkName : String)
    (inside : ∀ poll ∈ polls, poll.InAddressSpace) :
    ∀ merged ∈ ((empty networkName).mergeAll polls).registers,
      merged.InAddressSpace := by
  have counts : ∀ poll ∈ polls, 1 ≤ poll.count :=
    fun poll listed => (inside poll listed).1
  intro merged listed
  have positive := mergeAll_counts networkName counts merged listed
  have covered (number : Int)
      (covers : merged.Covers merged.registerType number) :
      0 ≤ number ∧ number ≤ 65535 := by
    obtain ⟨poll, declared, _, _, first, last⟩ :=
      (exists_polls_iff networkName counts merged.slaveId merged.registerType
        number).mp ⟨merged, listed, rfl, covers⟩
    obtain ⟨_, lower, upper⟩ := inside poll declared
    omega
  have nonempty : merged.firstRegister ≤ merged.lastRegister := by
    simp only [ModbusAddressRange.firstRegister,
      ModbusAddressRange.lastRegister]
    omega
  exact ⟨positive, (covered _ ⟨rfl, le_refl _, nonempty⟩).1,
    (covered _ ⟨rfl, nonempty, le_refl _⟩).2⟩

end MsgRegisterPollSpecification

namespace Configuration

open MsgRegisterPollSpecification

/-- What the loader ensures of ids and values, and that the ranges of the file
can be ranges of registers. -/
structure WellFormed (config : Configuration) : Prop where
  groups : ∀ network ∈ config.networks, ∀ poll ∈ network.pollGroups,
    poll.InAddressSpace
  polls : ∀ name, ∀ poll ∈ config.polls name, poll.InAddressSpace
  commandIds : ∀ command ∈ config.commands, 0 < command.commandId
  fresh : ∀ object ∈ config.objects, ∀ leaf ∈ object.leaves, leaf.2 = {}

variable {config : Configuration} {name : String}

theorem specification_eq (config : Configuration) (name : String) :
    config.specification name = (empty name).mergeAll
      ((config.network name).pollGroups ++
        ((empty name).mergeAll (config.polls name)).registers) :=
  List.foldl_append.symm

variable {poll : MsgRegisterPoll} {id : ObjectId} {leaf : RegisterLeaf}
  {client : MqttClient}

theorem network_pollGroups (listed : poll ∈ (config.network name).pollGroups) :
    ∃ network ∈ config.networks, poll ∈ network.pollGroups := by
  rw [network] at listed
  cases found : config.networks.find? fun network => network.name = name with
  | none =>
    rw [found] at listed
    cases listed
  | some network =>
    rw [found] at listed
    exact ⟨network, List.mem_of_find?_eq_some found, listed⟩

/-- All ranges have a register. -/
structure Counted (config : Configuration) : Prop where
  groups : ∀ network ∈ config.networks, ∀ poll ∈ network.pollGroups,
    1 ≤ poll.count
  polls : ∀ name, ∀ poll ∈ config.polls name, 1 ≤ poll.count

namespace Counted

theorem declared (counted : config.Counted) :
    ∀ poll ∈ (config.network name).pollGroups ++
        ((empty name).mergeAll (config.polls name)).registers,
      1 ≤ poll.count := by
  intro poll listed
  rcases List.mem_append.mp listed with group | merged
  · obtain ⟨network, known, member⟩ := network_pollGroups group
    exact counted.groups network known poll member
  · exact mergeAll_counts name (counted.polls name) poll merged

theorem specification (counted : config.Counted) :
    ∀ poll ∈ (config.specification name).registers, 1 ≤ poll.count := by
  rw [specification_eq]
  exact mergeAll_counts name counted.declared

theorem eq_of_touches (counted : config.Counted) {poll other : MsgRegisterPoll}
    (listed : poll ∈ (config.specification name).registers)
    (otherListed : other ∈ (config.specification name).registers)
    (touches : poll.touches other = true) : poll = other := by
  rw [specification_eq] at listed otherListed
  exact mergeAll_eq_of_touches name counted.declared listed otherListed touches

theorem eq_of_ofMessage (counted : config.Counted)
    {poll other : MsgRegisterPoll}
    (listed : poll ∈ (config.specification name).registers)
    (otherListed : other ∈ (config.specification name).registers)
    (same : MqttObjectRegisterIdent.ofMessage name poll.toModbusMessageBase =
      .ofMessage name other.toModbusMessageBase) : poll = other := by
  apply counted.eq_of_touches listed otherListed
  obtain ⟨_, slave, register, type⟩ :=
    MqttObjectRegisterIdent.mk.injEq .. ▸ same
  have positive := counted.specification poll listed
  have otherPositive := counted.specification other otherListed
  simp only [MsgRegisterPoll.touches, Bool.and_eq_true, beq_iff_eq,
    ModbusAddressRange.overlaps_eq_true_iff]
  simp only [MsgRegisterPoll.toModbusMessageBase] at slave register type
  refine ⟨slave, type, ?_, ?_⟩ <;>
    simp only [ModbusAddressRange.firstRegister,
      ModbusAddressRange.lastRegister] <;> omega

theorem nodup (counted : config.Counted) :
    (config.specification name).registers.Nodup := by
  rw [specification_eq]
  exact mergeAll_nodup name counted.declared

end Counted

namespace WellFormed

theorem counted (wellFormed : config.WellFormed) : config.Counted :=
  ⟨fun network known poll listed =>
      (wellFormed.groups network known poll listed).1,
    fun name poll listed => (wellFormed.polls name poll listed).1⟩

theorem specification (wellFormed : config.WellFormed) :
    ∀ poll ∈ (config.specification name).registers, poll.InAddressSpace := by
  rw [specification_eq]
  apply mergeAll_inAddressSpace name
  intro poll listed
  rcases List.mem_append.mp listed with group | merged
  · obtain ⟨network, known, member⟩ := network_pollGroups group
    exact wellFormed.groups network known poll member
  · exact mergeAll_inAddressSpace name (wellFormed.polls name) poll merged

end WellFormed

theorem object_leaves_of_le
    (outside : config.objects.length ≤ id) : (config.object id).leaves = [] := by
  rw [object, List.getD_eq_getElem?_getD, List.getElem?_eq_none outside]
  rfl

theorem lt_of_leaf (listed : leaf ∈ (config.object id).leaves) :
    id < config.objects.length := by
  by_contra outside
  rw [object_leaves_of_le (not_lt.mp outside)] at listed
  cases listed

theorem mem_objectsIn {range : ModbusMessageBase}
    (listed : leaf ∈ (config.object id).leaves)
    (network : leaf.1.networkName = name) (within : leaf.1.Within range) :
    id ∈ config.objectsIn name range :=
  List.mem_filter.mpr ⟨List.mem_range.mpr (lt_of_leaf listed),
    MqttObject.hasRegisterIn_of_leaf listed network within⟩

/-- A range of the specification finds the objects that have a register in
it. -/
theorem findObjects_of_poll (counted : config.Counted)
    (known : name ∈ config.networkNames)
    (listed : poll ∈ (config.specification name).registers)
    (shown : id ∈ config.objectsIn name poll.toModbusMessageBase) :
    config.client.findObjects (.ofMessage name poll.toModbusMessageBase) =
      some (config.objectsIn name poll.toModbusMessageBase) := by
  have stored : (MqttObjectRegisterIdent.ofMessage name
      poll.toModbusMessageBase,
        config.objectsIn name poll.toModbusMessageBase) ∈
      config.pollObjects := by
    refine List.mem_filter.mpr ⟨List.mem_flatMap.mpr ⟨name, known,
      List.mem_map.mpr ⟨poll, listed, rfl⟩⟩, ?_⟩
    cases found : config.objectsIn name poll.toModbusMessageBase with
    | nil =>
      rw [found] at shown
      cases shown
    | cons _ _ => rfl
  rw [MqttClient.findObjects]
  cases found : config.client.objects.find? fun entry =>
      entry.1 = .ofMessage name poll.toModbusMessageBase with
  | none =>
    have absent := List.find?_eq_none.mp found _ stored
    simp at absent
  | some entry =>
    have same : entry.1 = .ofMessage name poll.toModbusMessageBase := by
      simpa using List.find?_some found
    have member : entry ∈ config.pollObjects :=
      List.mem_of_find?_eq_some found
    obtain ⟨network, _, mapped⟩ :=
      List.mem_flatMap.mp (List.mem_filter.mp member).1
    obtain ⟨other, otherListed, rfl⟩ := List.mem_map.mp mapped
    have network_eq : network = name :=
      congrArg MqttObjectRegisterIdent.networkName same
    subst network_eq
    rw [counted.eq_of_ofMessage otherListed listed same]
    rfl

/-- The objects that a message of the network concerns, while the client is
connected. -/
def concerned (config : Configuration) (name : String) (item : QueueItem) :
    List ObjectId :=
  { config.client with isConnected := true }.affected name item

theorem affected_eq_concerned (tables : config.client.SameTables client)
    (connected : client.isConnected = true) (name : String)
    (item : QueueItem) :
    client.affected name item = config.concerned name item := by
  cases item <;>
    simp only [concerned, MqttClient.affected, MqttClient.affectedByValues,
      MqttClient.affectedByFailure, MqttClient.findObjects,
      MqttClient.objectsOfNetwork, tables.objects, tables.commandObjects,
      connected]

theorem objectsIn_nodup (config : Configuration) (name : String)
    (range : ModbusMessageBase) : (config.objectsIn name range).Nodup :=
  List.nodup_range.filter _

theorem distinctLists
    (tables : config.client.SameTables client) : client.DistinctLists := by
  refine ⟨?_, ?_⟩
  · intro entry listed
    rw [tables.objects] at listed
    obtain ⟨network, _, mapped⟩ :=
      List.mem_flatMap.mp (List.mem_filter.mp listed).1
    obtain ⟨poll, _, rfl⟩ := List.mem_map.mp mapped
    exact config.objectsIn_nodup network poll.toModbusMessageBase
  · intro commandId ids found
    rw [tables.commandObjects] at found
    obtain ⟨command, _, selected⟩ := Option.bind_eq_some_iff.mp found
    dsimp only at selected
    split at selected
    · cases selected
    · cases selected
      exact config.objectsIn_nodup command.modbusNetworkName _

end Configuration

namespace RegisterPoll.Specified

variable {config : Configuration} {name : String} {reg : RegisterPoll}

theorem commandId {spec : MsgRegisterPollSpecification}
    (specified : reg.Specified spec) : reg.commandId = 0 := by
  obtain ⟨owner, poll, _, address, rfl⟩ := specified
  rfl

theorem header (wellFormed : config.WellFormed)
    (specified : reg.Specified (config.specification name)) :
    ∃ poll ∈ (config.specification name).registers,
      reg.header = poll.toModbusMessageBase := by
  obtain ⟨owner, poll, listed, address, rfl⟩ := specified
  have positive := (wellFormed.specification poll listed).1
  refine ⟨poll, listed, ?_⟩
  have count : ((poll.count.toNat : Nat) : Int) = poll.count :=
    Int.toNat_of_nonneg (by omega)
  simp only [RegisterPoll.header, ModbusThread.specifiedPoll,
    MsgRegisterPoll.toModbusMessageBase, count]

theorem offset (wellFormed : config.WellFormed)
    (specified : reg.Specified (config.specification name))
    {ident : MqttObjectRegisterIdent} (within : ident.Within reg.header) :
    0 ≤ ident.registerNumber - reg.register ∧
      ident.registerNumber - reg.register < 65536 ∧
      ident.registerNumber - reg.register < reg.registerCount := by
  obtain ⟨poll, listed, same⟩ := specified.header wellFormed
  obtain ⟨_, lower, upper⟩ := wellFormed.specification poll listed
  have first : reg.register = poll.register :=
    congrArg (fun range => range.register) same
  have count : (reg.registerCount : Int) = poll.count :=
    congrArg (fun range => range.count) same
  obtain ⟨_, _, above, below⟩ := within
  simp only [ModbusAddressRange.firstRegister, ModbusAddressRange.lastRegister,
    RegisterPoll.header] at lower upper above below
  omega

theorem mem_findObjects (wellFormed : config.WellFormed)
    (known : name ∈ config.networkNames)
    (specified : reg.Specified (config.specification name))
    {id : ObjectId} {leaf : RegisterLeaf}
    (listed : leaf ∈ (config.object id).leaves)
    (network : leaf.1.networkName = name) (within : leaf.1.Within reg.header) :
    ∃ ids, config.client.findObjects (.ofMessage name reg.header) = some ids ∧
      id ∈ ids := by
  obtain ⟨poll, member, same⟩ := specified.header wellFormed
  rw [same] at within ⊢
  have shown := Configuration.mem_objectsIn listed network within
  exact ⟨_, Configuration.findObjects_of_poll wellFormed.counted known member
      shown,
    shown⟩

theorem concerned (wellFormed : config.WellFormed)
    (known : name ∈ config.networkNames)
    (specified : reg.Specified (config.specification name))
    {id : ObjectId} {leaf : RegisterLeaf}
    (listed : leaf ∈ (config.object id).leaves)
    (network : leaf.1.networkName = name) (within : leaf.1.Within reg.header)
    (values : List UInt16) :
    id ∈ config.concerned name
      (.registerValues (reg.valuesMessage values)) := by
  obtain ⟨ids, found, member⟩ :=
    specified.mem_findObjects wellFormed known listed network within
  have scheduled : (reg.valuesMessage values).hasCommandId = false := by
    simp [RegisterPoll.valuesMessage, MsgRegisterValues.create,
      ModbusMessageBase.hasCommandId, specified.commandId]
  have affected : config.concerned name
      (.registerValues (reg.valuesMessage values)) =
        (config.client.findObjects (.ofMessage name reg.header)).getD [] := by
    simp only [Configuration.concerned, MqttClient.affected,
      MqttClient.affectedByValues, scheduled]
    rfl
  rw [affected, found]
  exact member

end RegisterPoll.Specified

namespace ModbusThread.Origins

variable {libraries : RequestLibraries} {tables : MqttClient} {name : String}
  {spec : MsgRegisterPollSpecification} {thread : ModbusThread}

theorem specified (origins : Origins spec (Offered libraries tables name) thread)
    {reg : RegisterPoll}
    (pending : 0 < thread.executor.commands.pendingCount (.poll reg))
    (scheduled : reg.isRpc = false) : reg.Specified spec := by
  rcases origins.commands _ pending with specified | ⟨owner, message, offered, rfl⟩
  · exact specified
  · have negative := offered.read_isRpc
    have own : decide (message.commandId < 0) = false := scheduled
    simp [negative] at own

end ModbusThread.Origins

end MqmGateway
