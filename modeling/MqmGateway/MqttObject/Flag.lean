import MqmGateway.MqttObject

/-!
# The cached availability flag

An object stores whether it is available and computes the flag anew only if an
update reports a change, or if it is unavailable and values arrive.  Clearing
a read error is not reported as a change.  Still the stored flag is always the
one that the leaves give: an object with a read error is unavailable, and an
update that reports nothing leaves any other object as it is.
-/

namespace MqmGateway

namespace MqttObjectDataNode

mutual

theorem hasAllValues_eq : ∀ node : MqttObjectDataNode,
      node.hasAllValues = node.leaves.all fun leaf => leaf.2.hasValue
  | .scalar _ _ _ _ => by simp [hasAllValues, leaves]
  | .composite _ _ nodes _ => by
    rw [hasAllValues, leaves, nodesHaveValues_eq nodes]

theorem nodesHaveValues_eq : ∀ nodes : List MqttObjectDataNode,
      nodesHaveValues nodes = (nodeLeaves nodes).all fun leaf => leaf.2.hasValue
  | [] => rfl
  | node :: nodes => by
    rw [nodesHaveValues, nodeLeaves, List.all_append, hasAllValues_eq node,
      nodesHaveValues_eq nodes]

end

mutual

theorem update_eq_self {leafUpdate : LeafUpdate} : ∀ node : MqttObjectDataNode,
      (∀ leaf ∈ node.leaves, leafUpdate.apply leaf = leaf) →
      (node.update leafUpdate).1 = node
  | .scalar keyName converter ident register, unchanged => by
    have same := unchanged (ident, register) List.mem_cons_self
    rw [update]
    exact congrArg (scalar keyName converter ident) (congrArg Prod.snd same)
  | .composite keyName converter nodes outputAsList, unchanged => by
    rw [leaves] at unchanged
    rw [update, updateNodes_eq_self nodes unchanged]

theorem updateNodes_eq_self {leafUpdate : LeafUpdate} :
    ∀ nodes : List MqttObjectDataNode,
      (∀ leaf ∈ nodeLeaves nodes, leafUpdate.apply leaf = leaf) →
      (updateNodes leafUpdate nodes).1 = nodes
  | [], _ => rfl
  | node :: nodes, unchanged => by
    rw [nodeLeaves] at unchanged
    obtain ⟨here, later⟩ := List.forall_mem_append.mp unchanged
    rw [updateNodes, update_eq_self node here,
      updateNodes_eq_self nodes later]

end

end MqttObjectDataNode

namespace MqttObjectState

theorem hasAllValues_eq (state : MqttObjectState) :
    state.hasAllValues = state.leaves.all fun leaf => leaf.2.hasValue :=
  MqttObjectDataNode.nodesHaveValues_eq state.nodes

theorem update_eq_self {state : MqttObjectState} {leafUpdate : LeafUpdate}
    (unchanged : ∀ leaf ∈ state.leaves, leafUpdate.apply leaf = leaf) :
    (state.update leafUpdate).1 = state := by
  rw [update, MqttObjectDataNode.updateNodes_eq_self state.nodes unchanged]

end MqttObjectState

/-- The calls that change the leaves of an object. -/
inductive ObjectUpdate where
  | registerValues (networkName : String) (slaveData : MsgRegisterValues)
  | registersReadFailed (networkName : String) (slaveData : ModbusMessageBase)
  | modbusNetworkState (networkName : String) (isUp : Bool)

def ObjectUpdate.leafUpdate : ObjectUpdate → LeafUpdate
  | .registerValues networkName slaveData =>
    .registerValues networkName slaveData
  | .registersReadFailed networkName slaveData =>
    .registersReadFailed networkName slaveData
  | .modbusNetworkState networkName isUp =>
    .modbusNetworkState networkName isUp

namespace MqttObject

def perform (object : MqttObject) :
    ObjectUpdate → MqttObject × Option GatewayException
  | .registerValues networkName slaveData =>
    object.updateRegisterValues networkName slaveData
  | .registersReadFailed networkName slaveData =>
    object.updateRegistersReadFailed networkName slaveData
  | .modbusNetworkState networkName isUp =>
    object.setModbusNetworkState networkName isUp

/-- The object after a sequence of calls; a call that throws keeps what it has
changed. -/
def performAll (object : MqttObject) (updates : List ObjectUpdate) :
    MqttObject :=
  updates.foldl (fun object update => (object.perform update).1) object

theorem perform_fields (object : MqttObject) (update : ObjectUpdate) :
    ∃ isAvailable, (object.perform update).1 =
      { (object.updateLeaves update.leafUpdate).1 with isAvailable } := by
  cases update with
  | registerValues networkName slaveData =>
    exact updateAvailablityFlagIf_fields _ _
  | registersReadFailed networkName slaveData =>
    exact updateAvailablityFlagIf_fields _ _
  | modbusNetworkState networkName isUp =>
    exact updateAvailablityFlagIf_fields _ _

theorem perform_state (object : MqttObject) (update : ObjectUpdate) :
    (object.perform update).1.state =
      (object.state.update update.leafUpdate).1 := by
  obtain ⟨isAvailable, same⟩ := object.perform_fields update
  rw [same]
  rfl

/-- An object as the loader makes it. -/
structure Fresh (object : MqttObject) : Prop where
  flag : object.isAvailable = .notSet
  leaves : ∀ leaf ∈ object.leaves, leaf.2 = {}
  payload : object.lastPublishedPayload = []
  publishTime : object.lastPublishTime = none

/-- The converted availability value compared with the configured one.
Without an availability section the object is available. -/
def comparedFlag (object : MqttObject) :
    Except GatewayException AvailableFlag :=
  match object.availability.nodes with
  | [] => .ok .available
  | front :: _ => do
      let converted ← front.getConvertedValue
      let actual ← converted.getInt
      let expected ← object.availableValue.getInt
      .ok (if actual ≠ expected then .unavailable else .available)

def leafFlag (object : MqttObject) : Except GatewayException AvailableFlag :=
  if ∃ leaf ∈ object.leaves, leaf.2.readOk = false then
    .ok .unavailable
  else if ∃ leaf ∈ object.leaves, leaf.2.hasValue = false then
    .ok .notSet
  else
    object.comparedFlag

/-- The stored flag is the one that the leaves give, unless comparing the
availability value throws. -/
def UpToDate (object : MqttObject) : Prop :=
  ∀ flag, object.leafFlag = .ok flag → object.isAvailable = flag

theorem polling_iff (object : MqttObject) :
    (!object.availability.isPolling || !object.state.isPolling) = true ↔
      ∃ leaf ∈ object.leaves, leaf.2.readOk = false := by
  rw [MqttObjectState.isPolling_eq, MqttObjectState.isPolling_eq,
    ← Bool.not_and, ← List.all_append, Bool.not_eq_true', List.all_eq_false]
  simp only [leaves, List.mem_append, MqttObjectRegisterValue.isPolling,
    Bool.not_eq_true, or_comm]

theorem unset_iff (object : MqttObject) :
    (!object.availability.hasAllValues || !object.state.hasAllValues) = true ↔
      ∃ leaf ∈ object.leaves, leaf.2.hasValue = false := by
  rw [MqttObjectState.hasAllValues_eq, MqttObjectState.hasAllValues_eq,
    ← Bool.not_and, ← List.all_append, Bool.not_eq_true', List.all_eq_false]
  simp only [leaves, List.mem_append, Bool.not_eq_true, or_comm]

theorem getAvailableFlag_eq {object : MqttObject}
    (polling : object.availability.isPolling = true)
    (known : object.availability.hasAllValues = true) :
    object.availability.getAvailableFlag object.availableValue =
      object.comparedFlag := by
  rw [MqttObjectState.getAvailableFlag, comparedFlag]
  cases object.availability.nodes with
  | nil => rfl
  | cons front rest => simp [polling, known]

theorem updateAvailablityFlag_eq (object : MqttObject) :
    object.updateAvailablityFlag = match object.leafFlag with
      | .ok flag => ({ object with isAvailable := flag }, none)
      | .error exception => (object, some exception) := by
  rw [updateAvailablityFlag, leafFlag]
  by_cases stopped : (!object.availability.isPolling ||
      !object.state.isPolling) = true
  · rw [if_pos stopped, if_pos (object.polling_iff.mp stopped)]
  · rw [if_neg stopped, if_neg (mt object.polling_iff.mpr stopped)]
    by_cases unset : (!object.availability.hasAllValues ||
        !object.state.hasAllValues) = true
    · rw [if_pos unset, if_pos (object.unset_iff.mp unset)]
    · rw [if_neg unset, if_neg (mt object.unset_iff.mpr unset)]
      rewrite [getAvailableFlag_eq (by simp_all) (by simp_all)]
      rfl

theorem upToDate_updateAvailablityFlag (object : MqttObject) :
    object.updateAvailablityFlag.1.UpToDate := by
  rw [updateAvailablityFlag_eq]
  intro flag given
  cases computed : object.leafFlag with
  | ok stored =>
    rw [computed] at given
    exact Except.ok.inj (computed.symm.trans given)
  | error exception =>
    rw [computed] at given
    exact absurd (computed.symm.trans given) (by simp)

theorem UpToDate.recomputed {object : MqttObject} (upToDate : object.UpToDate) :
    object.updateAvailablityFlag.1.isAvailable = object.isAvailable := by
  rw [updateAvailablityFlag_eq]
  cases computed : object.leafFlag with
  | ok flag => exact (upToDate flag computed).symm
  | error exception => rfl

theorem UpToDate.readOk {object : MqttObject} (upToDate : object.UpToDate)
    (other : object.isAvailable ≠ .unavailable) :
    ∀ leaf ∈ object.leaves, leaf.2.readOk = true := by
  intro leaf listed
  by_contra unread
  apply other
  apply upToDate
  rw [leafFlag, if_pos ⟨leaf, listed, by simpa using unread⟩]

theorem updateLeaves_eq_self {object : MqttObject} {leafUpdate : LeafUpdate}
    (unchanged : ∀ leaf ∈ object.leaves, leafUpdate.apply leaf = leaf) :
    (object.updateLeaves leafUpdate).1 = object := by
  obtain ⟨state, availability⟩ := List.forall_mem_append.mp unchanged
  rw [updateLeaves, MqttObjectState.update_eq_self state,
    MqttObjectState.update_eq_self availability]

end MqttObject

namespace LeafUpdate

variable {networkName : String} {leaf : RegisterLeaf}

theorem apply_registerValues {slaveData : MsgRegisterValues}
    (readOk : leaf.2.readOk = true)
    (unreported : (registerValues networkName slaveData).changes leaf = false) :
    (registerValues networkName slaveData).apply leaf = leaf := by
  obtain ⟨ident, register⟩ := leaf
  rw [changes, registerValues] at unreported
  rw [apply, registerValues]
  dsimp only at unreported ⊢
  split at unreported
  · rename_i covered
    rw [if_pos covered]
    simp only [MqttObjectRegisterValue.setValue] at unreported ⊢
    split at unreported
    · cases unreported
    · rename_i same
      have value := not_not.mp same
      have known : register.hasValue = true := by simpa using unreported
      rw [← value, ← known]
      have stored : register.readOk = !false := readOk
      rw [MqttObjectRegisterValue.setReadError, ← stored]
  · rename_i outside
    rw [if_neg outside]

theorem apply_registersReadFailed {slaveData : ModbusMessageBase}
    (unreported : (registersReadFailed networkName slaveData).changes leaf =
      false) :
    (registersReadFailed networkName slaveData).apply leaf = leaf := by
  rw [changes, registersReadFailed] at unreported
  rw [apply, registersReadFailed]
  split at unreported
  · cases unreported
  · rename_i outside
    rw [if_neg outside]

theorem apply_modbusNetworkState {isUp : Bool}
    (unreported : (modbusNetworkState networkName isUp).changes leaf = false) :
    (modbusNetworkState networkName isUp).apply leaf = leaf := by
  rw [changes, modbusNetworkState] at unreported
  rw [apply, modbusNetworkState]
  split at unreported
  · cases unreported
  · rename_i outside
    rw [if_neg outside]

end LeafUpdate

namespace MqttObject

/-- A call either computes the flag anew or, if the object is up to date,
changes nothing at all. -/
theorem perform_cases {object : MqttObject} (upToDate : object.UpToDate)
    (update : ObjectUpdate) :
    object.perform update =
        (object.updateLeaves update.leafUpdate).1.updateAvailablityFlag ∨
      object.perform update = (object, none) := by
  have skipped (unchanged : ∀ leaf ∈ object.leaves,
      update.leafUpdate.apply leaf = leaf) :
      (object.updateLeaves update.leafUpdate).1 = object :=
    updateLeaves_eq_self unchanged
  have unreported (quiet : ¬(object.updateLeaves update.leafUpdate).2 = true) :
      ∀ leaf ∈ object.leaves, update.leafUpdate.changes leaf = false := by
    intro leaf listed
    rw [updateLeaves_changes, List.any_eq_true, not_exists] at quiet
    simpa using fun reported => quiet leaf ⟨listed, reported⟩
  cases update with
  | registerValues networkName slaveData =>
    rw [perform, updateRegisterValues, updateAvailablityFlagIf]
    split
    · exact .inl rfl
    · rename_i unneeded
      rw [Bool.or_eq_true, not_or, decide_eq_true_eq] at unneeded
      refine .inr (congrArg (·, none) (skipped fun leaf listed => ?_))
      exact LeafUpdate.apply_registerValues
        (upToDate.readOk unneeded.2 leaf listed)
        (unreported unneeded.1 leaf listed)
  | registersReadFailed networkName slaveData =>
    rw [perform, updateRegistersReadFailed, updateAvailablityFlagIf]
    split
    · exact .inl rfl
    · rename_i quiet
      exact .inr (congrArg (·, none) (skipped fun leaf listed =>
        LeafUpdate.apply_registersReadFailed (unreported quiet leaf listed)))
  | modbusNetworkState networkName isUp =>
    rw [perform, setModbusNetworkState, updateAvailablityFlagIf]
    split
    · exact .inl rfl
    · rename_i quiet
      exact .inr (congrArg (·, none) (skipped fun leaf listed =>
        LeafUpdate.apply_modbusNetworkState (unreported quiet leaf listed)))

theorem UpToDate.perform {object : MqttObject} (upToDate : object.UpToDate)
    (update : ObjectUpdate) : (object.perform update).1.UpToDate := by
  rcases perform_cases upToDate update with computed | skipped
  · rw [computed]
    exact upToDate_updateAvailablityFlag _
  · rw [skipped]
    exact upToDate

theorem Fresh.upToDate {object : MqttObject} (fresh : object.Fresh)
    (registers : object.leaves ≠ []) : object.UpToDate := by
  intro flag given
  obtain ⟨leaf, listed⟩ := List.exists_mem_of_ne_nil _ registers
  have unset : ∃ leaf ∈ object.leaves, leaf.2.hasValue = false :=
    ⟨leaf, listed, by rw [fresh.leaves leaf listed]⟩
  have readOk : ¬∃ leaf ∈ object.leaves, leaf.2.readOk = false := by
    rintro ⟨marked, known, unread⟩
    rw [fresh.leaves marked known] at unread
    cases unread
  rw [leafFlag, if_neg readOk, if_pos unset] at given
  cases given
  exact fresh.flag

theorem UpToDate.performAll {object : MqttObject} (upToDate : object.UpToDate)
    (updates : List ObjectUpdate) : (object.performAll updates).UpToDate := by
  induction updates generalizing object with
  | nil => exact upToDate
  | cons update updates induction => exact induction (upToDate.perform update)

/-- A register of slave 1 with the flag of another one: available if register
1 holds the number 1. -/
def meterObject : MqttObject :=
  let node (registerNumber : Int) : MqttObjectDataNode :=
    .scalar "" none
      { networkName := "net", slaveId := 1, registerNumber
        registerType := .holding } {}
  { MqttObject.create "meter" with
    state := { nodes := [node 0], outputAsList := false }
    availability := { nodes := [node 1], outputAsList := false } }

theorem meterObject_fresh : meterObject.Fresh := by
  refine ⟨rfl, ?_, rfl, rfl⟩
  decide

/-- Whatever is called on an object with registers, its stored flag is what
`updateAvailablityFlag` would compute: unavailable if a leaf has a read error,
otherwise not set if a leaf has no value, otherwise by comparison. -/
theorem stored_flag_eq_leafFlag {object : MqttObject} (fresh : object.Fresh)
    (registers : object.leaves ≠ []) (updates : List ObjectUpdate) :
    (object.performAll updates).updateAvailablityFlag.1.isAvailable =
        (object.performAll updates).isAvailable ∧
      ∀ flag, (object.performAll updates).leafFlag = .ok flag →
        (object.performAll updates).isAvailable = flag := by
  have upToDate := (fresh.upToDate registers).performAll updates
  exact ⟨upToDate.recomputed, upToDate⟩

def meterUpdates : List ObjectUpdate :=
  [.registerValues "net" (.create 1 .holding 0 [7, 1] 0 .auto),
    .registersReadFailed "net"
      { register := 0, count := 1, registerType := .holding, slaveId := 1
        commandId := 0 },
    .registerValues "net" (.create 1 .holding 0 [7, 1] 0 .auto)]

theorem stored_flag_eq_leafFlag_meter :
    ((meterObject.performAll (meterUpdates.take 2)).isAvailable = .unavailable ∧
      (meterObject.performAll meterUpdates).isAvailable = .available) ∧
    (meterObject.performAll meterUpdates).updateAvailablityFlag.1.isAvailable =
        (meterObject.performAll meterUpdates).isAvailable ∧
      ∀ flag, (meterObject.performAll meterUpdates).leafFlag = .ok flag →
        (meterObject.performAll meterUpdates).isAvailable = flag := by
  refine ⟨by decide, ?_⟩
  exact stored_flag_eq_leafFlag meterObject_fresh (by decide) meterUpdates

end MqttObject

end MqmGateway
