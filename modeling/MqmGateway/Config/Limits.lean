import MqmGateway.Config.PollRouting

/-!
# Merged ranges and the limits of a read

A modbus read is limited in length, by register type.  Merging takes no notice
of it: a range of the final specification is as long as the chain of
overlapping ranges it was made from.
-/

namespace MqmGateway

open MsgRegisterPoll MsgRegisterPollSpecification

namespace MsgRegisterPoll

variable {polls : List MsgRegisterPoll}

theorem Linked.symm {left right : MsgRegisterPoll}
    (linked : Linked polls left right) : Linked polls right left := by
  induction linked with
  | refl => exact .refl
  | tail _ step induction =>
    obtain ⟨listed, nextListed, touching⟩ := step
    exact induction.head
      ⟨nextListed, listed, (touches_comm _ _).trans touching⟩

variable {poll merged : MsgRegisterPoll}

theorem covers_first (count : 1 ≤ poll.count) :
    poll.Covers poll.registerType poll.firstRegister := by
  refine ⟨rfl, le_refl _, ?_⟩
  simp only [ModbusAddressRange.firstRegister, ModbusAddressRange.lastRegister]
  omega

theorem covers_last (count : 1 ≤ poll.count) :
    poll.Covers poll.registerType poll.lastRegister := by
  refine ⟨rfl, ?_, le_refl _⟩
  simp only [ModbusAddressRange.firstRegister, ModbusAddressRange.lastRegister]
  omega

theorem count_eq (poll : MsgRegisterPoll) :
    poll.count = poll.lastRegister - poll.firstRegister + 1 := by
  simp only [ModbusAddressRange.firstRegister, ModbusAddressRange.lastRegister]
  omega

theorem IsComponent.registerType_eq {member : MsgRegisterPoll}
    (component : IsComponent polls poll merged)
    (linked : Linked polls poll member) :
    member.registerType = merged.registerType :=
  congrArg Prod.snd (Linked.target_eq linked |>.trans component.target.symm)

theorem IsComponent.exists_ends
    (counts : ∀ listed ∈ polls, 1 ≤ listed.count) (listed : poll ∈ polls)
    (component : IsComponent polls poll merged) :
    ∃ left ∈ polls, ∃ right, Linked polls left right ∧
      left.registerType = merged.registerType ∧
      merged.firstRegister = left.firstRegister ∧
      merged.lastRegister = right.lastRegister := by
  have type : merged.registerType = poll.registerType :=
    congrArg Prod.snd component.target
  obtain ⟨left, leftLinked, leftCovers⟩ := (component.covers_iff _).mp
    (type ▸ covers_first component.count_pos)
  obtain ⟨right, rightLinked, rightCovers⟩ := (component.covers_iff _).mp
    (type ▸ covers_last component.count_pos)
  have leftListed := Linked.mem leftLinked listed
  have leftInside := (component.absorbs leftLinked).covers
    (covers_first (counts left leftListed))
  have rightInside := (component.absorbs rightLinked).covers
    (covers_last (counts right (Linked.mem rightLinked listed)))
  exact ⟨left, leftListed, right, leftLinked.symm.trans rightLinked,
    component.registerType_eq leftLinked,
    le_antisymm leftInside.2.1 leftCovers.2.1,
    le_antisymm rightCovers.2.2 rightInside.2.2⟩

/-- No chain of overlapping ranges is longer than one read can be. -/
def ChainsWithinLimit (polls : List MsgRegisterPoll) : Prop :=
  ∀ left ∈ polls, ∀ right, Linked polls left right →
    right.lastRegister - left.firstRegister <
      MqttClient.rpcMaxCount left.registerType

theorem components_within_iff (counts : ∀ listed ∈ polls, 1 ≤ listed.count) :
    (∀ poll ∈ polls, ∀ merged, IsComponent polls poll merged →
        merged.count ≤ MqttClient.rpcMaxCount merged.registerType) ↔
      ChainsWithinLimit polls := by
  constructor
  · intro within left listed right linked
    obtain ⟨merged, _, component⟩ := exists_merged "" counts listed
    have bound := within left listed merged component
    have first := (component.absorbs .refl).covers
      (covers_first (counts left listed))
    have last := (component.absorbs linked).covers
      (covers_last (counts right (Linked.mem linked listed)))
    rw [count_eq, ← component.registerType_eq .refl] at bound
    have lower := first.2.1
    have upper := last.2.2
    omega
  · intro within poll listed merged component
    obtain ⟨left, leftListed, right, linked, type, first, last⟩ :=
      component.exists_ends counts listed
    have bound := within left leftListed right linked
    rw [count_eq, first, last, ← type]
    omega

end MsgRegisterPoll

namespace Loaded

/-- The ranges of the poll groups, states and availability sections of a
network. -/
def ranges (loaded : Loaded) (network : NetworkSettings) :
    List MsgRegisterPoll :=
  network.pollGroups ++ loaded.polls network.name

theorem mem_specification_iff {loaded : Loaded} {network : NetworkSettings}
    (counts : ∀ poll ∈ loaded.ranges network, 1 ≤ poll.count)
    (merged : MsgRegisterPoll) :
    merged ∈ (loaded.specification network).registers ↔
      ∃ poll ∈ loaded.ranges network,
        IsComponent (loaded.ranges network) poll merged := by
  obtain ⟨groupCounts, pollCounts⟩ := List.forall_mem_append.mp counts
  rw [specification_eq]
  exact mem_secondRound_iff network.name groupCounts pollCounts merged

/-- The specifications sent to the modbus threads stay within the limits
exactly if no chain of overlapping ranges is longer than the limit of its
type. -/
theorem specifications_within_limits (loaded : Loaded)
    (counts : ∀ network ∈ loaded.networks,
      ∀ poll ∈ loaded.ranges network, 1 ≤ poll.count) :
    (∀ spec ∈ loaded.specifications, ∀ poll ∈ spec.registers,
        poll.count ≤ MqttClient.rpcMaxCount poll.registerType) ↔
      ∀ network ∈ loaded.networks,
        ChainsWithinLimit (loaded.ranges network) := by
  rw [specifications, List.forall_mem_map]
  refine forall₂_congr fun network listed => ?_
  rw [← components_within_iff (counts network listed)]
  constructor
  · intro within poll known merged component
    exact within merged ((mem_specification_iff (counts network listed)
      merged).mpr ⟨poll, known, component⟩)
  · intro within merged stored
    obtain ⟨poll, known, component⟩ :=
      (mem_specification_iff (counts network listed) merged).mp stored
    exact within poll known merged component

theorem specifications_within_limits_meter : ∃ loaded,
    ModMqtt.load numberLibraries meterFile = .ok loaded ∧
      (∀ spec ∈ loaded.specifications, ∀ poll ∈ spec.registers,
        poll.count ≤ MqttClient.rpcMaxCount poll.registerType) ∧
      ∀ network ∈ loaded.networks,
        ChainsWithinLimit (loaded.ranges network) := by
  obtain ⟨loaded, loading, counts, within⟩ := exists_loaded
    (show ((ModMqtt.load numberLibraries meterFile).toOption.any fun loaded =>
      decide ((∀ network ∈ loaded.networks,
          ∀ poll ∈ loaded.ranges network, 1 ≤ poll.count) ∧
        ∀ spec ∈ loaded.specifications, ∀ poll ∈ spec.registers,
          poll.count ≤ MqttClient.rpcMaxCount poll.registerType)) = true by
        decide +kernel)
  exact ⟨loaded, loading, within,
    (specifications_within_limits loaded counts).mp within⟩

/-- A poll group of 100 holding registers and a state of 100, which starts
half way into it. -/
def overlappingFile : YamlNode :=
  let range (register : String) : YamlNode := .map
    [("register", .scalar register), ("count", .scalar "100"),
      ("register_type", .scalar "holding")]
  objectFile [range "1"] [("state", range "51")]

/-- Each range could be read, the merged one has 150 registers. -/
theorem merged_range_exceeds_limit : ∃ loaded,
    ModMqtt.load numberLibraries overlappingFile = .ok loaded ∧
      (∀ network ∈ loaded.networks, ∀ poll ∈ loaded.ranges network,
        1 ≤ poll.count ∧
          poll.count ≤ MqttClient.rpcMaxCount poll.registerType) ∧
      ∃ spec ∈ loaded.specifications, ∃ poll ∈ spec.registers,
        poll.registerType = .holding ∧ poll.count = 150 :=
  exists_loaded (by decide +kernel)

end Loaded

end MqmGateway
