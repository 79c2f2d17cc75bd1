import MqmGateway.Gateway.ClientRuns
import MqmGateway.MqttClient.Keeping

/-!
# Objects told about a write

After a write the client updates the objects that were noted for the command
when the file was loaded.  After a failure it looks for objects of a poll that
starts with the first register of the command.  These are the same objects
only if there is such a poll and it serves the objects of the command.
-/

namespace MqmGateway

namespace MqttObject

def idents (object : MqttObject) : List MqttObjectRegisterIdent :=
  object.leaves.map Prod.fst

theorem hasRegisterIn_eq_idents (object : MqttObject) (networkName : String)
    (range : ModbusMessageBase) :
    object.hasRegisterIn networkName range =
      object.idents.any (MqttObjectDataNode.identIn networkName range) := by
  rw [hasRegisterIn_eq, idents, List.any_map]
  rfl

theorem idents_kept (idents : List MqttObjectRegisterIdent) :
    MqttClient.KeptByRounds fun object => object.idents = idents := by
  have updated (object : MqttObject) (leafUpdate : LeafUpdate) :
      (object.leaves.map leafUpdate.apply).map Prod.fst = object.idents := by
    rw [List.map_map]
    rfl
  refine ⟨?_, fun _ _ _ => id⟩
  intro object update same
  rw [← same, MqttObject.idents]
  cases update with
  | registerValues networkName slaveData =>
    rw [perform, leaves_updateRegisterValues, updated]
  | registersReadFailed networkName slaveData =>
    rw [perform, leaves_updateRegistersReadFailed, updated]
  | modbusNetworkState networkName isUp =>
    rw [perform, leaves_setModbusNetworkState, updated]

/-- The object shows a register that a failure marks. -/
def Touched (object : MqttObject) (networkName : String)
    (message : ModbusMessageBase) : Prop :=
  ∃ ident ∈ object.idents,
    ident.networkName = networkName ∧ ident.Near message

instance (object : MqttObject) (networkName : String)
    (message : ModbusMessageBase) :
    Decidable (object.Touched networkName message) :=
  inferInstanceAs (Decidable (∃ ident ∈ object.idents, _))

theorem touched_of_hasRegisterIn {object : MqttObject} {networkName : String}
    {range : ModbusMessageBase}
    (inside : object.hasRegisterIn networkName range = true) :
    object.Touched networkName range := by
  rw [hasRegisterIn_eq_idents] at inside
  obtain ⟨ident, listed, here⟩ := List.any_eq_true.mp inside
  simp only [MqttObjectDataNode.identIn, Bool.and_eq_true,
    decide_eq_true_eq, ModbusAddressRange.overlaps_eq_true_iff,
    MqttObjectRegisterIdent.asModbusAddressRange,
    ModbusAddressRange.lastRegister,
    ModbusAddressRange.firstRegister] at here
  obtain ⟨⟨slave, type, first, last⟩, network⟩ := here
  refine ⟨ident, listed, network, ?_, ?_⟩
  · simp [MqttObjectRegisterIdent.sameDevice, slave, type]
  · omega

theorem isAvailable_updateRegistersReadFailed (object : MqttObject)
    (networkName : String) (message : ModbusMessageBase) :
    (object.updateRegistersReadFailed networkName message).1.isAvailable =
      if object.Touched networkName message then .unavailable
      else object.isAvailable := by
  have marks := leafMarks_registersReadFailed networkName message
  rw [updateRegistersReadFailed, updateLeaves_changes]
  by_cases touched : object.Touched networkName message
  · obtain ⟨ident, shown, near⟩ := touched
    obtain ⟨leaf, listed, rfl⟩ := List.mem_map.mp shown
    have changes :=
      (LeafUpdate.registersReadFailed_changes networkName message leaf).mpr near
    rw [if_pos ⟨leaf.1, shown, near⟩,
      List.any_eq_true.mpr ⟨leaf, listed, changes⟩, updateAvailablityFlagIf,
      if_pos rfl, updateAvailablityFlag_of_unread _ (marks leaf changes)]
    rw [leaves_updateLeaves]
    exact List.mem_map_of_mem listed
  · have unchanged : object.leaves.any
        (LeafUpdate.registersReadFailed networkName message).changes =
          false := by
      rw [List.any_eq_false]
      intro leaf listed changes
      exact touched ⟨leaf.1, List.mem_map_of_mem listed,
        (LeafUpdate.registersReadFailed_changes networkName message leaf).mp
          changes⟩
    rw [if_neg touched, unchanged]
    rfl

end MqttObject

namespace MqttClient

variable (call : ProcessInput) {networkName : String}
  {message : ModbusMessageBase}

theorem sameFlag_allows (id : ObjectId) :
    AllowsPublishing id fun before after =>
      (after.store id).isAvailable = (before.store id).isAvailable := by
  refine ⟨fun _ => rfl, fun _ _ _ left right => right.trans left,
    fun _ _ => rfl, ?_⟩
  intro client payload time
  rw [setObject_self]

theorem processObjectFailed_flag (client : MqttClient) (first id : ObjectId) :
    ((processObjectFailed call networkName message first client).1.store
        id).isAvailable =
      if id = first ∧ (client.store id).Touched networkName message then
        .unavailable
      else (client.store id).isAvailable := by
  by_cases different : id ≠ first
  · rw [(processObjectFailed_owned call networkName message).others first id
      client different, if_neg (different ·.1)]
  obtain rfl := not_not.mp different
  have allows := sameFlag_allows id
  have published := Effect.Within.andThen allows.trans
    (publishState_allowed call allows false)
    (changeAvailability_allowed call allows
      ((client.store id).isAvailable ≠ ((client.store
        id).updateRegistersReadFailed networkName message).1.isAvailable))
    (client.setObject id ((client.store id).updateRegistersReadFailed
      networkName message).1)
  rw [processObjectFailed_eq, published, setObject_self,
    MqttObject.isAvailable_updateRegistersReadFailed]
  simp

theorem processObjectFailed_quiet {client : MqttClient} {id : ObjectId}
    (absent : (client.store id).Touched networkName message ∨
      (client.store id).isAvailable ≠ .available) :
    (processObjectFailed call networkName message id client).2 = none := by
  rw [(processObjectFailed_owned call networkName message).exception]
  refine if_pos (.inl ?_)
  rw [MqttObject.isAvailable_updateRegistersReadFailed]
  split
  · decide
  · rename_i apart
    exact absent.resolve_left apart

theorem processObjectFailed_touched (client : MqttClient)
    (first id : ObjectId) :
    ((processObjectFailed call networkName message first client).1.store
        id).Touched networkName message ↔
      (client.store id).Touched networkName message := by
  have kept := processObjectFailed_keeps
    (MqttObject.idents_kept (client.store id).idents) call networkName
    message first client id rfl
  rw [MqttObject.Touched, MqttObject.Touched, kept]

/-- A loop that ends without an exception marks the objects that show a
register near the failed ones, and no others. -/
theorem forEach_processObjectFailed {ids : List ObjectId}
    {client failed : MqttClient}
    (done : Effect.forEach (processObjectFailed call networkName message) ids
      client = (failed, none)) (id : ObjectId) :
    (failed.store id).isAvailable =
      if id ∈ ids ∧ (client.store id).Touched networkName message then
        .unavailable
      else (client.store id).isAvailable := by
  induction ids generalizing client with
  | nil =>
    cases done
    simp
  | cons first ids induction =>
    have kept := @processObjectFailed_touched call networkName message
      client first id
    have flag := @processObjectFailed_flag call networkName message client
      first id
    rw [Effect.forEach] at done
    cases stepped : processObjectFailed call networkName message first
        client with
    | mk next thrown =>
      rw [stepped] at kept flag
      cases thrown with
      | some exception =>
        rw [Effect.andThen_of_some stepped] at done
        cases done
      | none =>
        rw [Effect.andThen_of_none stepped] at done
        dsimp only at kept flag
        rw [induction done, flag]
        simp only [kept, List.mem_cons]
        by_cases touched :
          (client.store id).Touched networkName message
        · by_cases same : id = first
          · subst same
            simp [touched]
          · simp only [touched, same, false_or, and_true, if_false]
        · simp only [touched, and_false, if_false]

/-- A loop throws nothing if no object is left available. -/
theorem forEach_processObjectFailed_quiet {ids : List ObjectId}
    {client : MqttClient}
    (absent : ∀ id ∈ ids, (client.store id).Touched networkName message ∨
      (client.store id).isAvailable ≠ .available) :
    (Effect.forEach (processObjectFailed call networkName message) ids
      client).2 = none := by
  induction ids generalizing client with
  | nil => rfl
  | cons first ids induction =>
    obtain ⟨here, later⟩ := List.forall_mem_cons.mp absent
    have quiet := processObjectFailed_quiet call here
    have still : ∀ id ∈ ids,
        ((processObjectFailed call networkName message first
            client).1.store id).Touched networkName message ∨
          ((processObjectFailed call networkName message first
            client).1.store id).isAvailable ≠ .available := by
      intro id listed
      rw [processObjectFailed_touched, processObjectFailed_flag]
      by_cases touched : (client.store id).Touched networkName message
      · exact .inl touched
      · rw [if_neg (touched ·.2)]
        exact later id listed
    rw [Effect.forEach]
    cases stepped : processObjectFailed call networkName message first
        client with
    | mk next thrown =>
      rw [stepped] at quiet still
      cases quiet
      rw [Effect.andThen_of_none stepped]
      exact induction still

end MqttClient

namespace Loaded

variable {loaded : Loaded}

/-- The objects with a register among those of the command. -/
def overlapping (loaded : Loaded) (command : MqttObjectCommand) :
    List ObjectId :=
  (List.range loaded.objects.length).filter fun id =>
    (loaded.object id).hasRegisterIn command.modbusNetworkName
      command.toModbusMessageBase

/-- The object shows a register of a poll that starts with the first register
of the command. -/
def PolledFrom (loaded : Loaded) (command : MqttObjectCommand)
    (id : ObjectId) : Prop :=
  id < loaded.objects.length ∧
    ∃ spec ∈ loaded.specifications,
      spec.networkName = command.modbusNetworkName ∧
      ∃ poll ∈ spec.registers,
        (poll.slaveId = command.slaveId ∧
          poll.registerType = command.registerType ∧
          poll.register = command.register) ∧
        (loaded.object id).hasRegisterIn spec.networkName
          poll.toModbusMessageBase = true

/-- The objects of the command are polled from its first register, and the
other objects that are polled from there show no register near it. -/
structure Aligned (loaded : Loaded) (command : MqttObjectCommand) : Prop where
  polled : ∀ id ∈ loaded.overlapping command, loaded.PolledFrom command id
  apart : ∀ id, loaded.PolledFrom command id →
    id ∉ loaded.overlapping command →
    ¬(loaded.object id).Touched command.modbusNetworkName
      command.toModbusMessageBase

def servedFrom (loaded : Loaded) (command : MqttObjectCommand) :
    List ObjectId :=
  (loaded.mappings.filter fun entry => entry.1 =
    .ofMessage command.modbusNetworkName command.toModbusMessageBase).map
      Prod.snd

theorem mem_servedFrom_iff {command : MqttObjectCommand} {id : ObjectId} :
    id ∈ loaded.servedFrom command ↔ loaded.PolledFrom command id := by
  rw [servedFrom, List.mem_map]
  constructor
  · rintro ⟨⟨ident, _⟩, found, rfl⟩
    obtain ⟨mapped, same⟩ := List.mem_filter.mp found
    obtain ⟨below, spec, known, poll, listed, shown, rfl⟩ :=
      mem_mappings_iff.mp mapped
    obtain ⟨network, slave, register, type⟩ :=
      MqttObjectRegisterIdent.mk.inj (of_decide_eq_true same)
    exact ⟨below, spec, known, network, poll, listed,
      ⟨slave, type, register⟩, shown⟩
  · intro ⟨below, spec, known, network, poll, listed, first, shown⟩
    obtain ⟨slave, type, register⟩ := first
    refine ⟨(.ofMessage spec.networkName poll.toModbusMessageBase, id),
      List.mem_filter.mpr ⟨mem_mappings_iff.mpr
        ⟨below, spec, known, poll, listed, shown, rfl⟩, ?_⟩, rfl⟩
    simp only [MqttObjectRegisterIdent.ofMessage, network, decide_eq_true_eq,
      MqttObjectRegisterIdent.mk.injEq, true_and]
    exact ⟨slave, register, type⟩

open ModMqtt

variable {libraries : LoaderLibraries} {config : YamlNode}
  {rpcMode : RpcMode} {rpcRequestTopic : String}

theorem find_command (loading : load libraries config = .ok loaded)
    {command : MqttObjectCommand} (configured : command ∈ loaded.commands.2) :
    loaded.commands.2.find? (fun other =>
      other.commandId = command.commandId) = some command := by
  obtain ⟨modbusData, _, loading⟩ := exists_of_bind loading
  obtain ⟨objects, objectsLoaded, same⟩ := exists_of_bind loading
  cases same
  obtain ⟨sections, commandsLoaded⟩ := initObjects_commands objectsLoaded
  have distinct := (loadCommands_ids commandsLoaded).2
  have symmetric : Std.Symm fun left right : MqttObjectCommand =>
      left.commandId ≠ right.commandId := ⟨fun _ _ => Ne.symm⟩
  cases found : objects.commands.2.find? (fun other =>
      other.commandId = command.commandId) with
  | none =>
    have absent := List.find?_eq_none.mp found command configured
    simp at absent
  | some other =>
    have same : other.commandId = command.commandId := by
      simpa using List.find?_some found
    by_contra different
    refine distinct.forall (List.mem_of_find?_eq_some found) configured ?_
      same
    intro equal
    exact different (congrArg some equal)

theorem commandObjects_eq (loading : load libraries config = .ok loaded)
    {command : MqttObjectCommand} (configured : command ∈ loaded.commands.2) :
    ((loaded.client rpcMode rpcRequestTopic).commandObjects
      command.commandId).getD [] = loaded.overlapping command := by
  have noted : (loaded.client rpcMode rpcRequestTopic).commandObjects
      command.commandId =
        if (loaded.overlapping command).isEmpty then none
        else some (loaded.overlapping command) := by
    show (loaded.commands.2.find? _).bind _ = _
    rw [find_command loading configured]
    rfl
  rw [noted]
  split
  · rename_i none
    exact (List.isEmpty_iff.mp none).symm
  · rfl

theorem affectedByFailure_eq (loaded : Loaded) (command : MqttObjectCommand) :
    (loaded.client rpcMode rpcRequestTopic).affectedByFailure
        command.modbusNetworkName command.toModbusMessageBase =
      loaded.servedFrom command := by
  rw [MqttClient.affectedByFailure, findObjects_eq]
  dsimp only
  rw [← servedFrom]
  split
  · rename_i none
    exact none.symm
  · rfl

/-- The objects of the command and no others are marked as unavailable. -/
def MarksOverlapping (loaded : Loaded) (command : MqttObjectCommand)
    (client failed : MqttClient) : Prop :=
  ∀ id, (failed.store id).isAvailable =
    if id ∈ loaded.overlapping command then .unavailable
    else (client.store id).isAvailable

section Failures

variable {command : MqttObjectCommand} {requests : RequestLibraries}
  {client : MqttClient} {history : List Publication}

theorem writeFailed_eq (loading : load libraries config = .ok loaded)
    (configured : command ∈ loaded.commands.2)
    (run : Runs (MqttClient.step requests) (fun _ _ _ => True)
      (loaded.client rpcMode rpcRequestTopic) client history)
    (call : ProcessInput) :
    MqttClient.processModbusMessage call command.modbusNetworkName
        (.registerWriteFailed command.toModbusMessageBase) client =
      Effect.forEach (MqttClient.processObjectFailed call
        command.modbusNetworkName command.toModbusMessageBase)
        (loaded.servedFrom command) client := by
  have tables := MqttClient.run_sameTables run
  have positive := configuration_commandIds loading rpcMode rpcRequestTopic
    command configured
  have listed : client.affectedByFailure command.modbusNetworkName
      command.toModbusMessageBase = loaded.servedFrom command := by
    rw [← @affectedByFailure_eq rpcMode rpcRequestTopic,
      MqttClient.affectedByFailure, MqttClient.findObjects, tables.objects]
    rfl
  have unanswered : command.isRpc = false := by
    simp only [ModbusMessageBase.isRpc, decide_eq_false_iff_not]
    omega
  rw [MqttClient.processModbusMessage, if_neg (by simp [unanswered]),
    MqttClient.processRegistersOperationFailed, listed]

theorem touched_run {networkName : String} {message : ModbusMessageBase}
    (run : Runs (MqttClient.step requests) (fun _ _ _ => True)
      (loaded.client rpcMode rpcRequestTopic) client history)
    (id : ObjectId) :
    (client.store id).Touched networkName message ↔
      (loaded.object id).Touched networkName message := by
  have kept := MqttClient.run_keeps
    (MqttObject.idents_kept (loaded.object id).idents) run id rfl
  rw [MqttObject.Touched, MqttObject.Touched, kept]

theorem touched_of_overlapping {id : ObjectId}
    (overlaps : id ∈ loaded.overlapping command) :
    (loaded.object id).Touched command.modbusNetworkName
      command.toModbusMessageBase :=
  MqttObject.touched_of_hasRegisterIn (List.mem_filter.mp overlaps).2

theorem marks_of_aligned (aligned : loaded.Aligned command) (id : ObjectId) :
    (id ∈ loaded.servedFrom command ∧
        (loaded.object id).Touched command.modbusNetworkName
          command.toModbusMessageBase) ↔
      id ∈ loaded.overlapping command := by
  rw [mem_servedFrom_iff]
  constructor
  · intro ⟨polled, touched⟩
    by_contra outside
    exact aligned.apart id polled outside touched
  · intro overlaps
    exact ⟨aligned.polled id overlaps, touched_of_overlapping overlaps⟩

theorem object_notSet (loading : load libraries config = .ok loaded)
    (id : ObjectId) : (loaded.object id).isAvailable = .notSet := by
  rw [object, List.getD_eq_getElem?_getD]
  cases found : loaded.objects[id]? with
  | none => rfl
  | some object =>
    exact (object_fresh loading (List.mem_of_getElem? found)).flag

/-- A command that is written updates the objects with its registers.  If the
write fails, exactly the files that are aligned have the same objects marked
as unavailable, whenever the failure is handled to its end, which it is if no
other object is polled from the register of the command. -/
theorem write_outcomes_agree_iff (loading : load libraries config = .ok loaded)
    (configured : command ∈ loaded.commands.2) :
    (∀ client history, Runs (MqttClient.step requests) (fun _ _ _ => True)
        (loaded.client rpcMode rpcRequestTopic) client history →
      (client.commandObjects command.commandId).getD [] =
        loaded.overlapping command) ∧
    ((∀ client history call failed, Runs (MqttClient.step requests)
        (fun _ _ _ => True) (loaded.client rpcMode rpcRequestTopic) client
        history →
      MqttClient.processModbusMessage call command.modbusNetworkName
        (.registerWriteFailed command.toModbusMessageBase) client =
          (failed, none) →
      loaded.MarksOverlapping command client failed) ↔ loaded.Aligned command) ∧
    ((∀ id, loaded.PolledFrom command id → id ∈ loaded.overlapping command) →
      ∀ client history call, Runs (MqttClient.step requests)
        (fun _ _ _ => True) (loaded.client rpcMode rpcRequestTopic) client
        history →
      (MqttClient.processModbusMessage call command.modbusNetworkName
        (.registerWriteFailed command.toModbusMessageBase) client).2 =
          none) := by
  refine ⟨?_, ⟨?_, ?_⟩, ?_⟩
  · intro client history run
    rw [(MqttClient.run_sameTables run).commandObjects]
    exact commandObjects_eq loading configured
  · intro agree
    have initial : Runs (MqttClient.step requests) (fun _ _ _ => True)
      (loaded.client rpcMode rpcRequestTopic) _ [] := .start
    have flag (id : ObjectId) :
        ((loaded.client rpcMode rpcRequestTopic).store id).isAvailable =
          .notSet := object_notSet loading id
    have quiet := @MqttClient.forEach_processObjectFailed_quiet
      (MqttClient.refusing none) command.modbusNetworkName
      command.toModbusMessageBase (loaded.servedFrom command)
      (loaded.client rpcMode rpcRequestTopic) fun id _ => by simp [flag]
    have handled := writeFailed_eq loading configured initial
      (MqttClient.refusing none)
    cases done : Effect.forEach (MqttClient.processObjectFailed
        (MqttClient.refusing none) command.modbusNetworkName
        command.toModbusMessageBase) (loaded.servedFrom command)
        (loaded.client rpcMode rpcRequestTopic) with
    | mk failed thrown =>
      rw [done] at quiet handled
      cases quiet
      have marks (id : ObjectId) :=
        (MqttClient.forEach_processObjectFailed _ done id).symm.trans
          (agree _ _ _ failed initial handled id)
      simp only [flag] at marks
      refine ⟨fun id overlaps => ?_, fun id polled outside touched => ?_⟩
      · have marked := marks id
        rw [if_pos overlaps] at marked
        by_contra unpolled
        rw [if_neg fun both => unpolled (mem_servedFrom_iff.mp both.1)]
          at marked
        cases marked
      · have marked := marks id
        rw [if_neg outside, if_pos ⟨mem_servedFrom_iff.mpr polled, touched⟩]
          at marked
        cases marked
  · intro aligned client history call failed run done id
    rw [writeFailed_eq loading configured run] at done
    rw [MqttClient.forEach_processObjectFailed call done]
    simp only [touched_run run, marks_of_aligned aligned]
  · intro within client history call run
    rw [writeFailed_eq loading configured run]
    apply MqttClient.forEach_processObjectFailed_quiet
    intro id served
    rw [touched_run run]
    exact .inl (touched_of_overlapping
      (within id (mem_servedFrom_iff.mp served)))

end Failures

def commandFile (groups : List YamlNode) : YamlNode :=
  objectFile groups
    [("state", .map [("register", .scalar "2")]),
      ("commands", .map
        [("name", .scalar "set"), ("register", .scalar "2")])]

def polledClient (loaded : Loaded) (values : MsgRegisterValues) : MqttClient :=
  loaded.connectedClient.processed (.registerValues values)

theorem polledClient_run {values : MsgRegisterValues}
    (unthrown : (MqttClient.onConnect (MqttClient.refusing none)
      (loaded.client .disabled "")).2 = none)
    (quiet : (MqttClient.processModbusMessage (MqttClient.refusing none) "net"
      (.registerValues values) loaded.connectedClient).2 = none) :
    ∃ history, Runs (MqttClient.step noLibraries)
      (fun _ _ _ => True) (loaded.client .disabled "")
      (loaded.polledClient values) history :=
  ⟨_, .step (connectedClient_run unthrown) trivial
    (MqttClient.step_of_quiet quiet)⟩

/-- Without poll groups the object is polled and written at one register. -/
theorem write_outcomes_agree_single :
    ∃ (loaded : Loaded) (command : MqttObjectCommand)
      (client failed : MqttClient),
      load numberLibraries (commandFile []) = .ok loaded ∧
      ((client.store 0).isAvailable = .available ∧
        loaded.overlapping command = [0]) ∧
      MqttClient.processModbusMessage (MqttClient.refusing none)
        command.modbusNetworkName
        (.registerWriteFailed command.toModbusMessageBase) client =
          (failed, none) ∧
      loaded.MarksOverlapping command client failed := by
  obtain ⟨loaded, loading, unthrown, quiet, available, command, configured,
      served, shown⟩ := exists_loaded
    (show ((load numberLibraries (commandFile [])).toOption.any fun loaded =>
      decide (
        (MqttClient.onConnect (MqttClient.refusing none)
          (loaded.client .disabled "")).2 = none ∧
        (MqttClient.processModbusMessage (MqttClient.refusing none) "net"
          (.registerValues (.create 1 .holding 1 [5] 0 .auto))
          loaded.connectedClient).2 = none ∧
        ((loaded.polledClient
          (.create 1 .holding 1 [5] 0 .auto)).store 0).isAvailable =
            .available ∧
        ∃ command ∈ loaded.commands.2, loaded.servedFrom command = [0] ∧
          loaded.overlapping command = [0])) = true by decide +kernel)
  obtain ⟨history, run⟩ := polledClient_run unthrown quiet
  have same (id : ObjectId) :
      loaded.PolledFrom command id ↔ id ∈ loaded.overlapping command := by
    rw [← mem_servedFrom_iff, served, shown]
  have aligned : loaded.Aligned command :=
    ⟨fun id => (same id).mpr,
      fun id polled outside => absurd ((same id).mp polled) outside⟩
  obtain ⟨_, agree, unthrown⟩ := @write_outcomes_agree_iff loaded
    numberLibraries (commandFile []) .disabled "" command
    noLibraries loading configured
  have done := unthrown (fun id => (same id).mp) _ _
    (MqttClient.refusing none) run
  exact ⟨loaded, command, _, _, loading, ⟨available, shown⟩,
    Prod.ext rfl done, agree.mpr aligned _ _ _ _ run (Prod.ext rfl done)⟩

/-- A poll group starts one register before the command: its failure is not
told to the object that shows the register. -/
theorem failed_write_not_told :
    ∃ (loaded : Loaded) (client : MqttClient) (history : List Publication),
      load numberLibraries (commandFile [.map
        [("register", .scalar "1"), ("count", .scalar "2")]]) = .ok loaded ∧
      Runs (MqttClient.step noLibraries) (fun _ _ _ => True)
        (loaded.client .disabled "") client history ∧
      ∃ command ∈ loaded.commands.2, loaded.overlapping command = [0] ∧
        client.commandObjects command.commandId = some [0] ∧
        (client.store 0).isAvailable = .available ∧
        ((MqttClient.processModbusMessage (MqttClient.refusing none)
          command.modbusNetworkName
          (.registerWriteFailed command.toModbusMessageBase) client).1.store
            0).isAvailable = .available := by
  obtain ⟨loaded, loading, unthrown, quiet, told⟩ := exists_loaded
    (show ((load numberLibraries (commandFile [.map
      [("register", .scalar "1"), ("count", .scalar "2")]])).toOption.any
        fun loaded => decide (
          (MqttClient.onConnect (MqttClient.refusing none)
            (loaded.client .disabled "")).2 = none ∧
          (MqttClient.processModbusMessage (MqttClient.refusing none) "net"
            (.registerValues (.create 1 .holding 0 [5, 7] 0 .auto))
            loaded.connectedClient).2 = none ∧
          ∃ command ∈ loaded.commands.2,
            loaded.overlapping command = [0] ∧
            (loaded.polledClient (.create 1 .holding 0 [5, 7] 0
              .auto)).commandObjects command.commandId = some [0] ∧
            ((loaded.polledClient (.create 1 .holding 0 [5, 7] 0
              .auto)).store 0).isAvailable = .available ∧
            ((MqttClient.processModbusMessage (MqttClient.refusing none)
              command.modbusNetworkName
              (.registerWriteFailed command.toModbusMessageBase)
              (loaded.polledClient (.create 1 .holding 0 [5, 7] 0
                .auto))).1.store 0).isAvailable = .available)) = true by
                  decide +kernel)
  obtain ⟨history, run⟩ := polledClient_run unthrown quiet
  exact ⟨loaded, _, history, loading, run, told⟩

end Loaded

end MqmGateway
