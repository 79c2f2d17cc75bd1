import MqmGateway.Config.PollRouting

/-!
# From the loader to the gateway

The model of the running gateway starts from a `Configuration`, in which
networks are known by their names.  A loaded file gives one that is well
formed, and if its networks have different names, the tables of the client
are those that the loops of `ModMqtt::init` fill.
-/

namespace MqmGateway

namespace Loaded

open ModMqtt MsgRegisterPollSpecification

variable {libraries : LoaderLibraries} {config : YamlNode} {loaded : Loaded}

theorem configuration_commandIds (loading : load libraries config = .ok loaded)
    (rpcMode : RpcMode) (rpcRequestTopic : String) :
    ∀ command ∈ (loaded.configuration rpcMode rpcRequestTopic).commands,
      0 < command.commandId := by
  obtain ⟨modbusData, _, loading⟩ := exists_of_bind loading
  obtain ⟨objects, objectsLoaded, same⟩ := exists_of_bind loading
  cases same
  obtain ⟨sections, commandsLoaded⟩ := initObjects_commands objectsLoaded
  exact (loadCommands_ids commandsLoaded).1

theorem configuration_wellFormed (loading : load libraries config = .ok loaded)
    (groups : ∀ network ∈ loaded.networks, ∀ poll ∈ network.pollGroups,
      poll.InAddressSpace)
    (declared : ∀ declaration ∈ loaded.declared,
      declaration.poll.InAddressSpace)
    (rpcMode : RpcMode) (rpcRequestTopic : String) :
    (loaded.configuration rpcMode rpcRequestTopic).WellFormed := by
  refine ⟨groups, ?_, configuration_commandIds loading rpcMode rpcRequestTopic,
    ?_⟩
  · intro name poll listed
    obtain ⟨declaration, known, _, rfl⟩ := exists_of_mem_polls listed
    exact declared declaration known
  · intro object listed leaf shown
    obtain ⟨_, slaveName, refresh, _, items, _, made⟩ := load_made loading
    obtain ⟨parts, objects, _, each⟩ := made
    have member : object ∈ loaded.objects := listed
    rw [objects] at member
    obtain ⟨part, partListed, rfl⟩ := List.mem_map.mp member
    rw [(parseObject_declares (each part partListed).2).leaves_eq] at shown
    obtain ⟨ident, _, rfl⟩ := List.mem_map.mp shown
    rfl

theorem Sensible.counted (sensible : loaded.Sensible) (rpcMode : RpcMode)
    (rpcRequestTopic : String) :
    (loaded.configuration rpcMode rpcRequestTopic).Counted :=
  ⟨sensible.groups, sensible.polls⟩

private theorem flatMap_eq_of_unique {α β : Type} {items : List α}
    (nodup : items.Nodup) {part : α → List β} {item : α} (listed : item ∈ items)
    (others : ∀ other ∈ items, other ≠ item → part other = []) :
    items.flatMap part = part item := by
  induction items with
  | nil => cases listed
  | cons first items induction =>
    obtain ⟨absent, nodup⟩ := List.nodup_cons.mp nodup
    rw [List.flatMap_cons]
    rcases List.mem_cons.mp listed with rfl | later
    · have rest : items.flatMap part = [] := by
        refine List.flatMap_eq_nil_iff.mpr ?_
        intro other member
        refine others other (List.mem_cons_of_mem _ member) ?_
        intro same
        exact absent (same ▸ member)
      rw [rest, List.append_nil]
    · have away : first ≠ item := fun same => absent (same ▸ later)
      rw [others first List.mem_cons_self away, List.nil_append]
      exact induction nodup later fun other member =>
        others other (List.mem_cons_of_mem _ member)

private theorem flatMap_ite_eq_filter {α : Type} (items : List α)
    (test : α → Bool) :
    (items.flatMap fun item => if test item then [item] else []) =
      items.filter test := by
  induction items with
  | nil => rfl
  | cons item items induction =>
    rw [List.flatMap_cons, induction, List.filter_cons]
    split <;> rfl

section DistinctNames

variable (distinct : (loaded.networks.map NetworkSettings.name).Nodup)
  (rpcMode : RpcMode) (rpcRequestTopic : String)

include distinct

theorem configuration_specification {network : NetworkSettings}
    (known : network ∈ loaded.networks) :
    (loaded.configuration rpcMode rpcRequestTopic).specification
      network.name = loaded.specification network := by
  have found :
      (loaded.configuration rpcMode rpcRequestTopic).network network.name =
        network := by
    rw [Configuration.network]
    cases search : loaded.networks.find? fun other =>
        other.name = network.name with
    | none =>
      have absent := List.find?_eq_none.mp search network known
      simp at absent
    | some other =>
      have sameName : other.name = network.name := by
        simpa using List.find?_some search
      have same := List.inj_on_of_nodup_map distinct
        (List.mem_of_find?_eq_some search) known sameName
      rw [same] at search
      exact congrArg (Option.getD · _) search
  rw [Configuration.specification_eq, found, specification_eq]
  rfl

/-- The objects noted for a range are those with a register in it. -/
theorem mappings_filter (sensible : loaded.Sensible)
    {network : NetworkSettings} (known : network ∈ loaded.networks)
    {poll : MsgRegisterPoll}
    (listed : poll ∈ (loaded.specification network).registers) :
    (loaded.mappings.filter fun entry => entry.1 =
        .ofMessage network.name poll.toModbusMessageBase).map Prod.snd =
      (loaded.configuration rpcMode rpcRequestTopic).objectsIn network.name
        poll.toModbusMessageBase := by
  have same := configuration_specification distinct rpcMode rpcRequestTopic
    known
  have counted := sensible.counted rpcMode rpcRequestTopic
  have nodup : (loaded.specification network).registers.Nodup :=
    same ▸ counted.nodup
  have own : (loaded.specification network).registers.filter (fun other =>
      MqttObjectRegisterIdent.ofMessage network.name
        other.toModbusMessageBase =
          .ofMessage network.name poll.toModbusMessageBase) = [poll] := by
    refine filter_eq_singleton nodup listed (by simp) ?_
    intro other otherListed samePoll
    rw [← same] at listed otherListed
    exact counted.eq_of_ofMessage otherListed listed
      (of_decide_eq_true samePoll)
  have here (id : ObjectId) :
      ((loaded.specifications.flatMap fun spec =>
        (spec.registers.filter fun poll => (loaded.object id).hasRegisterIn
          spec.networkName poll.toModbusMessageBase).map fun poll =>
            (MqttObjectRegisterIdent.ofMessage spec.networkName
              poll.toModbusMessageBase, id)).filter fun entry => entry.1 =
                .ofMessage network.name poll.toModbusMessageBase).map
                  Prod.snd =
        if (loaded.object id).hasRegisterIn network.name
          poll.toModbusMessageBase then [id] else [] := by
    rw [specifications, List.flatMap_map, List.filter_flatMap,
      List.map_flatMap, flatMap_eq_of_unique (distinct.of_map _) known]
    · rw [specification_networkName, List.filter_map, List.map_map,
        List.filter_comm]
      dsimp only [Function.comp_def]
      rw [own]
      split <;> simp_all
    · intro other otherKnown different
      have names : other.name ≠ network.name := fun sameName =>
        different (List.inj_on_of_nodup_map distinct otherKnown known sameName)
      rw [List.map_eq_nil_iff, List.filter_eq_nil_iff]
      intro entry member matching
      obtain ⟨otherPoll, _, rfl⟩ := List.mem_map.mp member
      rw [specification_networkName] at matching
      exact names (congrArg MqttObjectRegisterIdent.networkName
        (of_decide_eq_true matching))
  rw [mappings, List.filter_flatMap, List.map_flatMap]
  simp only [here]
  exact flatMap_ite_eq_filter _ _

/-- The gateway starts with the tables that the loops fill. -/
theorem configuration_findObjects (sensible : loaded.Sensible)
    (ident : MqttObjectRegisterIdent) :
    (loaded.configuration rpcMode rpcRequestTopic).client.findObjects ident =
      (loaded.client rpcMode rpcRequestTopic).findObjects ident := by
  rw [findObjects_eq]
  by_cases shown : ∃ network ∈ loaded.networks,
      ∃ poll ∈ (loaded.specification network).registers,
        .ofMessage network.name poll.toModbusMessageBase = ident ∧
        ∃ id, id ∈ (loaded.configuration rpcMode rpcRequestTopic).objectsIn
          network.name poll.toModbusMessageBase
  · obtain ⟨network, known, poll, listed, rfl, id, member⟩ := shown
    have same := configuration_specification distinct rpcMode rpcRequestTopic
      known
    dsimp only
    rw [mappings_filter distinct rpcMode rpcRequestTopic sensible known listed,
      if_neg (List.ne_nil_of_mem member)]
    exact Configuration.findObjects_of_poll
      (sensible.counted rpcMode rpcRequestTopic)
      (List.mem_map.mpr ⟨network, known, rfl⟩) (same ▸ listed) member
  · have unmapped : loaded.mappings.filter (fun entry =>
        entry.1 = ident) = [] := by
      refine List.filter_eq_nil_iff.mpr ?_
      intro entry listed matching
      obtain ⟨below, spec, specListed, poll, pollListed, inside, same⟩ :=
        mem_mappings_iff.mp listed
      obtain ⟨network, known, rfl⟩ := List.mem_map.mp specListed
      rw [specification_networkName] at inside same
      exact shown ⟨network, known, poll, pollListed,
        same.trans (of_decide_eq_true matching), entry.2,
        List.mem_filter.mpr ⟨List.mem_range.mpr below, inside⟩⟩
    simp only [unmapped, List.map_nil, if_true]
    refine Option.map_eq_none_iff.mpr (List.find?_eq_none.mpr ?_)
    intro entry listed matching
    obtain ⟨flat, nonempty⟩ := List.mem_filter.mp listed
    obtain ⟨name, nameListed, mapped⟩ := List.mem_flatMap.mp flat
    obtain ⟨network, known, rfl⟩ := List.mem_map.mp nameListed
    obtain ⟨poll, pollListed, rfl⟩ := List.mem_map.mp mapped
    rw [configuration_specification distinct rpcMode rpcRequestTopic known]
      at pollListed
    have inhabited := List.exists_mem_of_ne_nil _ (by
      simpa using nonempty)
    exact shown ⟨network, known, poll, pollListed,
      of_decide_eq_true matching, inhabited⟩

end DistinctNames

theorem configuration_findObjects_meter : ∃ loaded,
    load numberLibraries meterFile = .ok loaded ∧ ∀ ident,
      (loaded.configuration .read "rpc").client.findObjects ident =
        (loaded.client .read "rpc").findObjects ident := by
  obtain ⟨loaded, loading, distinct, sensible⟩ := exists_loaded
    (show ((load numberLibraries meterFile).toOption.any fun loaded =>
      decide ((loaded.networks.map NetworkSettings.name).Nodup ∧
        loaded.Sensible)) = true by decide +kernel)
  exact ⟨loaded, loading,
    configuration_findObjects distinct .read "rpc" sensible⟩

end Loaded

end MqmGateway
