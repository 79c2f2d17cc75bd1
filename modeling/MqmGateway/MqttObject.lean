import MqmGateway.MqttValue
import MqmGateway.RegisterPoll

/-!
# MQTT objects

An object publishes a tree of registers, its state, and may have a second tree
that says whether the state is available.  The leaves remember the last value
of their register and whether it could be read.
-/

namespace MqmGateway

inductive AvailableFlag where
  | notSet
  | unavailable
  | available
deriving DecidableEq, Repr

structure MqttObjectRegisterIdent where
  networkName : String
  slaveId : Int
  registerNumber : Int
  registerType : RegisterType
deriving DecidableEq, Repr

namespace MqttObjectRegisterIdent

/-- The identifier of the first register of a message. -/
def ofMessage (networkName : String) (message : ModbusMessageBase) :
    MqttObjectRegisterIdent :=
  { networkName
    slaveId := message.slaveId
    registerNumber := message.register
    registerType := message.registerType }

def asModbusAddressRange (ident : MqttObjectRegisterIdent) :
    ModbusAddressRange :=
  { register := ident.registerNumber
    count := 1
    registerType := ident.registerType }

/-- The part of the tests of the update functions that is not about the
register number. -/
def sameDevice (ident : MqttObjectRegisterIdent) (networkName : String)
    (message : ModbusMessageBase) : Bool :=
  message.slaveId = ident.slaveId ∧
    message.registerType = ident.registerType ∧
    networkName = ident.networkName

end MqttObjectRegisterIdent

structure MqttObjectRegisterValue where
  readOk : Bool := true
  hasValue : Bool := false
  value : UInt16 := 0
deriving DecidableEq, Repr

namespace MqttObjectRegisterValue

def setValue (register : MqttObjectRegisterValue) (value : UInt16) :
    MqttObjectRegisterValue × Bool :=
  ({ register with hasValue := true, value },
    if register.value ≠ value then true else !register.hasValue)

def setReadError (register : MqttObjectRegisterValue) (flag : Bool) :
    MqttObjectRegisterValue :=
  { register with readOk := !flag }

def isPolling (register : MqttObjectRegisterValue) : Bool :=
  register.readOk

end MqttObjectRegisterValue

/-- A leaf of a data tree. -/
abbrev RegisterLeaf := MqttObjectRegisterIdent × MqttObjectRegisterValue

/-- What an update does to a leaf and whether it counts as a change. -/
abbrev LeafUpdate :=
  MqttObjectRegisterIdent → MqttObjectRegisterValue →
    MqttObjectRegisterValue × Bool

namespace LeafUpdate

/-- `MqttObjectDataNode::updateRegisterValues` on a scalar node. -/
def registerValues (networkName : String) (slaveData : MsgRegisterValues) :
    LeafUpdate := fun ident register =>
  if ident.sameDevice networkName slaveData.toModbusMessageBase ∧
      ident.registerNumber ≥ slaveData.register ∧
      ident.registerNumber ≤ slaveData.lastRegister then
    let index := ((ident.registerNumber - slaveData.register) % 65536).toNat
    let set := register.setValue (slaveData.registers.getD index 0)
    (set.1.setReadError false, set.2)
  else
    (register, false)

/-- `MqttObjectDataNode::updateRegistersReadFailed` on a scalar node.  The
distance from the first register of the message is unsigned. -/
def registersReadFailed (networkName : String)
    (slaveData : ModbusMessageBase) : LeafUpdate := fun ident register =>
  let index := (ident.registerNumber - slaveData.register).natAbs % 65536
  if ident.sameDevice networkName slaveData ∧ index < slaveData.count then
    (register.setReadError true, true)
  else
    (register, false)

/-- `MqttObjectDataNode::setModbusNetworkState` on a scalar node. -/
def modbusNetworkState (networkName : String) (isUp : Bool) : LeafUpdate :=
  fun ident register =>
    if networkName = ident.networkName ∧ register.isPolling ≠ isUp then
      (register.setReadError !isUp, true)
    else
      (register, false)

def apply (update : LeafUpdate) (leaf : RegisterLeaf) : RegisterLeaf :=
  (leaf.1, (update leaf.1 leaf.2).1)

def changes (update : LeafUpdate) (leaf : RegisterLeaf) : Bool :=
  (update leaf.1 leaf.2).2

end LeafUpdate

/-- A node of a data tree.  A composite node without children is what the
source would take for a scalar one without identifier. -/
inductive MqttObjectDataNode where
  | scalar (keyName : String) (converter : Option DataConverter)
      (ident : MqttObjectRegisterIdent) (value : MqttObjectRegisterValue)
  | composite (keyName : String) (converter : Option DataConverter)
      (nodes : List MqttObjectDataNode) (outputAsList : Bool)

namespace MqttObjectDataNode

def keyName : MqttObjectDataNode → String
  | .scalar keyName _ _ _ | .composite keyName _ _ _ => keyName

def isUnnamed (node : MqttObjectDataNode) : Bool :=
  node.keyName = ""

def converter : MqttObjectDataNode → Option DataConverter
  | .scalar _ converter _ _ | .composite _ converter _ _ => converter

def isScalar : MqttObjectDataNode → Bool
  | .scalar _ _ _ _ => true
  | .composite _ _ nodes _ => nodes.isEmpty

/-- The value of a composite node is never set. -/
def getRawValue : MqttObjectDataNode → UInt16
  | .scalar _ _ _ register => register.value
  | .composite _ _ _ _ => 0

def getConvertedValue (node : MqttObjectDataNode) :
    Except GatewayException MqttValue :=
  match node.converter with
  | some converter =>
    match node with
    | .scalar _ _ _ register => converter.toMqtt [register.value]
    | .composite _ _ nodes _ => converter.toMqtt (nodes.map getRawValue)
  | none => .ok (.int node.getRawValue.toNat)

mutual

/-- The leaves of a node, in the order the update functions visit them. -/
def leaves : MqttObjectDataNode → List RegisterLeaf
  | .scalar _ _ ident register => [(ident, register)]
  | .composite _ _ nodes _ => nodeLeaves nodes

def nodeLeaves : List MqttObjectDataNode → List RegisterLeaf
  | [] => []
  | node :: nodes => node.leaves ++ nodeLeaves nodes

end

mutual

/-- The recursion that the update functions of a node share. -/
def update (leafUpdate : LeafUpdate) :
    MqttObjectDataNode → MqttObjectDataNode × Bool
  | .scalar keyName converter ident register =>
    let updated := leafUpdate ident register
    (.scalar keyName converter ident updated.1, updated.2)
  | .composite keyName converter nodes outputAsList =>
    let updated := updateNodes leafUpdate nodes
    (.composite keyName converter updated.1 outputAsList, updated.2)

def updateNodes (leafUpdate : LeafUpdate) :
    List MqttObjectDataNode → List MqttObjectDataNode × Bool
  | [] => ([], false)
  | node :: nodes =>
    let updated := node.update leafUpdate
    let rest := updateNodes leafUpdate nodes
    (updated.1 :: rest.1, updated.2 || rest.2)

end

mutual

def isPolling : MqttObjectDataNode → Bool
  | .scalar _ _ _ register => register.isPolling
  | .composite _ _ nodes _ => nodesPolling nodes

def nodesPolling : List MqttObjectDataNode → Bool
  | [] => true
  | node :: nodes => node.isPolling && nodesPolling nodes

end

mutual

def hasAllValues : MqttObjectDataNode → Bool
  | .scalar _ _ _ register => register.hasValue
  | .composite _ _ nodes _ => nodesHaveValues nodes

def nodesHaveValues : List MqttObjectDataNode → Bool
  | [] => true
  | node :: nodes => node.hasAllValues && nodesHaveValues nodes

end

mutual

def hasRegisterIn (networkName : String) (range : ModbusMessageBase) :
    MqttObjectDataNode → Bool
  | .scalar _ _ ident _ =>
    if ident.slaveId ≠ range.slaveId then false
    else if !range.overlaps ident.asModbusAddressRange then false
    else if ident.networkName ≠ networkName then false
    else true
  | .composite _ _ nodes _ => nodesHaveRegisterIn networkName range nodes

def nodesHaveRegisterIn (networkName : String) (range : ModbusMessageBase) :
    List MqttObjectDataNode → Bool
  | [] => false
  | node :: nodes =>
    node.hasRegisterIn networkName range ||
      nodesHaveRegisterIn networkName range nodes

end

mutual

theorem leaves_update (leafUpdate : LeafUpdate) : ∀ node : MqttObjectDataNode,
      (node.update leafUpdate).1.leaves = node.leaves.map leafUpdate.apply
  | .scalar _ _ _ _ => rfl
  | .composite _ _ nodes _ => by
    rw [update, leaves, leaves, nodeLeaves_update leafUpdate nodes]

theorem nodeLeaves_update (leafUpdate : LeafUpdate) :
    ∀ nodes : List MqttObjectDataNode,
      nodeLeaves (updateNodes leafUpdate nodes).1 =
        (nodeLeaves nodes).map leafUpdate.apply
  | [] => rfl
  | node :: nodes => by
    rw [updateNodes, nodeLeaves, nodeLeaves, List.map_append,
      leaves_update leafUpdate node, nodeLeaves_update leafUpdate nodes]

end

mutual

theorem update_changes (leafUpdate : LeafUpdate) : ∀ node : MqttObjectDataNode,
      (node.update leafUpdate).2 = node.leaves.any leafUpdate.changes
  | .scalar _ _ _ _ => by simp [update, leaves, LeafUpdate.changes]
  | .composite _ _ nodes _ => by
    rw [update, leaves, updateNodes_changes leafUpdate nodes]

theorem updateNodes_changes (leafUpdate : LeafUpdate) :
    ∀ nodes : List MqttObjectDataNode, (updateNodes leafUpdate nodes).2 =
        (nodeLeaves nodes).any leafUpdate.changes
  | [] => rfl
  | node :: nodes => by
    rw [updateNodes, nodeLeaves, List.any_append,
      update_changes leafUpdate node, updateNodes_changes leafUpdate nodes]

end

mutual

theorem isPolling_eq : ∀ node : MqttObjectDataNode,
      node.isPolling = node.leaves.all fun leaf => leaf.2.isPolling
  | .scalar _ _ _ _ => by simp [isPolling, leaves]
  | .composite _ _ nodes _ => by
    rw [isPolling, leaves, nodesPolling_eq nodes]

theorem nodesPolling_eq : ∀ nodes : List MqttObjectDataNode,
      nodesPolling nodes = (nodeLeaves nodes).all fun leaf => leaf.2.isPolling
  | [] => rfl
  | node :: nodes => by
    rw [nodesPolling, nodeLeaves, List.all_append, isPolling_eq node,
      nodesPolling_eq nodes]

end

/-- The test that `hasRegisterIn` makes on a scalar node. -/
def identIn (networkName : String) (range : ModbusMessageBase)
    (ident : MqttObjectRegisterIdent) : Bool :=
  ident.slaveId = range.slaveId &&
    range.overlaps ident.asModbusAddressRange &&
    ident.networkName = networkName

mutual

theorem hasRegisterIn_eq (networkName : String) (range : ModbusMessageBase) :
    ∀ node : MqttObjectDataNode, node.hasRegisterIn networkName range =
        node.leaves.any fun leaf => identIn networkName range leaf.1
  | .scalar _ _ _ _ => by
    simp only [hasRegisterIn, leaves, List.any_cons, List.any_nil, identIn]
    split
    · simp_all
    · split
      · simp_all
      · split <;> simp_all
  | .composite _ _ nodes _ => by
    rw [hasRegisterIn, leaves, nodesHaveRegisterIn_eq networkName range nodes]

theorem nodesHaveRegisterIn_eq (networkName : String)
    (range : ModbusMessageBase) :
    ∀ nodes : List MqttObjectDataNode,
      nodesHaveRegisterIn networkName range nodes =
        (nodeLeaves nodes).any fun leaf => identIn networkName range leaf.1
  | [] => rfl
  | node :: nodes => by
    rw [nodesHaveRegisterIn, nodeLeaves, List.any_append,
      hasRegisterIn_eq networkName range node,
      nodesHaveRegisterIn_eq networkName range nodes]

end

end MqttObjectDataNode

/-- The nodes of a state or availability section. -/
structure MqttObjectState where
  nodes : List MqttObjectDataNode
  outputAsList : Bool

namespace MqttObjectState

def update (state : MqttObjectState) (leafUpdate : LeafUpdate) :
    MqttObjectState × Bool :=
  let updated := MqttObjectDataNode.updateNodes leafUpdate state.nodes
  ({ state with nodes := updated.1 }, updated.2)

def hasAllValues (state : MqttObjectState) : Bool :=
  MqttObjectDataNode.nodesHaveValues state.nodes

def isPolling (state : MqttObjectState) : Bool :=
  MqttObjectDataNode.nodesPolling state.nodes

def hasRegisterIn (state : MqttObjectState) (networkName : String)
    (range : ModbusMessageBase) : Bool :=
  MqttObjectDataNode.nodesHaveRegisterIn networkName range state.nodes

def getAvailableFlag (availability : MqttObjectState)
    (availableValue : MqttValue) : Except GatewayException AvailableFlag :=
  match availability.nodes with
  | [] => .ok .available
  | front :: _ =>
    if !availability.hasAllValues || !availability.isPolling then
      .ok .notSet
    else do
      let converted ← front.getConvertedValue
      let actual ← converted.getInt
      let expected ← availableValue.getInt
      .ok (if actual ≠ expected then .unavailable else .available)

def leaves (state : MqttObjectState) : List RegisterLeaf :=
  MqttObjectDataNode.nodeLeaves state.nodes

theorem leaves_update (state : MqttObjectState) (leafUpdate : LeafUpdate) :
    (state.update leafUpdate).1.leaves = state.leaves.map leafUpdate.apply :=
  MqttObjectDataNode.nodeLeaves_update leafUpdate state.nodes

theorem update_changes (state : MqttObjectState) (leafUpdate : LeafUpdate) :
    (state.update leafUpdate).2 = state.leaves.any leafUpdate.changes :=
  MqttObjectDataNode.updateNodes_changes leafUpdate state.nodes

theorem isPolling_eq (state : MqttObjectState) :
    state.isPolling = state.leaves.all fun leaf => leaf.2.isPolling :=
  MqttObjectDataNode.nodesPolling_eq state.nodes

end MqttObjectState

/-- `lastPublishTime` is `none` for the initial `time_point::min()`. -/
structure MqttObject where
  topic : String
  state : MqttObjectState
  availability : MqttObjectState
  availableValue : MqttValue
  isAvailable : AvailableFlag
  retain : Bool
  publishMode : PublishMode
  everyPollPeriod : Duration
  lastPublishedPayload : Payload
  lastPublishTime : Option Int

namespace MqttObject

/-- A new object without registers.  The loader always sets the publish mode
and the period, which the constructor leaves open. -/
def create (topic : String) : MqttObject :=
  { topic
    state := { nodes := [], outputAsList := false }
    availability := { nodes := [], outputAsList := false }
    availableValue := .int 1
    isAvailable := .notSet
    retain := true
    publishMode := .onChange
    everyPollPeriod := 0
    lastPublishedPayload := []
    lastPublishTime := none }

def stateTopic (object : MqttObject) : String :=
  object.topic ++ "/state"

def availabilityTopic (object : MqttObject) : String :=
  object.topic ++ "/availability"

/-- An exception of the availability converter leaves the flag as it was. -/
def updateAvailablityFlag (object : MqttObject) :
    MqttObject × Option GatewayException :=
  if !object.availability.isPolling || !object.state.isPolling then
    ({ object with isAvailable := .unavailable }, none)
  else if !object.availability.hasAllValues || !object.state.hasAllValues then
    ({ object with isAvailable := .notSet }, none)
  else
    match object.availability.getAvailableFlag object.availableValue with
    | .ok flag => ({ object with isAvailable := flag }, none)
    | .error exception => (object, some exception)

def updateAvailablityFlagIf (object : MqttObject) (needed : Bool) :
    MqttObject × Option GatewayException :=
  if needed then object.updateAvailablityFlag else (object, none)

/-- Update the leaves of both trees; the second component says whether any of
them changed. -/
def updateLeaves (object : MqttObject) (leafUpdate : LeafUpdate) :
    MqttObject × Bool :=
  let state := object.state.update leafUpdate
  let availability := object.availability.update leafUpdate
  ({ object with state := state.1, availability := availability.1 },
    state.2 || availability.2)

/-- `!mIsAvailable` holds for the flag `False` only, whose value is zero. -/
def updateRegisterValues (object : MqttObject) (networkName : String)
    (slaveData : MsgRegisterValues) : MqttObject × Option GatewayException :=
  let updated := object.updateLeaves (.registerValues networkName slaveData)
  updated.1.updateAvailablityFlagIf
    (updated.2 || object.isAvailable = .unavailable)

def updateRegistersReadFailed (object : MqttObject) (networkName : String)
    (slaveData : ModbusMessageBase) : MqttObject × Option GatewayException :=
  let updated :=
    object.updateLeaves (.registersReadFailed networkName slaveData)
  updated.1.updateAvailablityFlagIf updated.2

def setModbusNetworkState (object : MqttObject) (networkName : String)
    (isUp : Bool) : MqttObject × Option GatewayException :=
  let updated := object.updateLeaves (.modbusNetworkState networkName isUp)
  updated.1.updateAvailablityFlagIf updated.2

def hasRegisterIn (object : MqttObject) (networkName : String)
    (range : ModbusMessageBase) : Bool :=
  object.state.hasRegisterIn networkName range ||
    object.availability.hasRegisterIn networkName range

def needStateRepublish (object : MqttObject) (now : Int) : Bool :=
  match object.publishMode with
  | .onChange | .once => false
  | .everyPoll =>
    match object.lastPublishTime with
    | none => true
    | some last => last + object.everyPollPeriod ≤ now

def leaves (object : MqttObject) : List RegisterLeaf :=
  object.state.leaves ++ object.availability.leaves

theorem hasRegisterIn_eq (object : MqttObject) (networkName : String)
    (range : ModbusMessageBase) :
    object.hasRegisterIn networkName range = object.leaves.any fun leaf =>
        MqttObjectDataNode.identIn networkName range leaf.1 := by
  rw [hasRegisterIn, leaves, List.any_append]
  exact congrArg₂ _
    (MqttObjectDataNode.nodesHaveRegisterIn_eq networkName range _)
    (MqttObjectDataNode.nodesHaveRegisterIn_eq networkName range _)

theorem leaves_updateLeaves (object : MqttObject) (leafUpdate : LeafUpdate) :
    (object.updateLeaves leafUpdate).1.leaves =
      object.leaves.map leafUpdate.apply := by
  rw [leaves, leaves, List.map_append, ← MqttObjectState.leaves_update,
    ← MqttObjectState.leaves_update]
  rfl

theorem updateLeaves_changes (object : MqttObject) (leafUpdate : LeafUpdate) :
    (object.updateLeaves leafUpdate).2 =
      object.leaves.any leafUpdate.changes := by
  rw [leaves, List.any_append, ← MqttObjectState.update_changes,
    ← MqttObjectState.update_changes]
  rfl

theorem updateAvailablityFlagIf_fields (object : MqttObject) (needed : Bool) :
    ∃ isAvailable, (object.updateAvailablityFlagIf needed).1 =
      { object with isAvailable } := by
  rw [updateAvailablityFlagIf]
  split
  · rw [updateAvailablityFlag]
    split
    · exact ⟨.unavailable, rfl⟩
    · split
      · exact ⟨.notSet, rfl⟩
      · split
        · rename_i flag _
          exact ⟨flag, rfl⟩
        · exact ⟨object.isAvailable, rfl⟩
  · exact ⟨object.isAvailable, rfl⟩

theorem leaves_updateAvailablityFlagIf (object : MqttObject) (needed : Bool) :
    (object.updateAvailablityFlagIf needed).1.leaves = object.leaves := by
  obtain ⟨isAvailable, same⟩ := object.updateAvailablityFlagIf_fields needed
  rw [same]
  rfl

theorem leaves_updateRegisterValues (object : MqttObject)
    (networkName : String) (slaveData : MsgRegisterValues) :
    (object.updateRegisterValues networkName slaveData).1.leaves =
      object.leaves.map
        (LeafUpdate.registerValues networkName slaveData).apply := by
  rw [updateRegisterValues, leaves_updateAvailablityFlagIf, leaves_updateLeaves]

theorem leaves_updateRegistersReadFailed (object : MqttObject)
    (networkName : String) (slaveData : ModbusMessageBase) :
    (object.updateRegistersReadFailed networkName slaveData).1.leaves =
      object.leaves.map
        (LeafUpdate.registersReadFailed networkName slaveData).apply := by
  rw [updateRegistersReadFailed, leaves_updateAvailablityFlagIf, leaves_updateLeaves]

theorem leaves_setModbusNetworkState (object : MqttObject)
    (networkName : String) (isUp : Bool) :
    (object.setModbusNetworkState networkName isUp).1.leaves = object.leaves.map
        (LeafUpdate.modbusNetworkState networkName isUp).apply := by
  rw [setModbusNetworkState, leaves_updateAvailablityFlagIf, leaves_updateLeaves]

/-- Every leaf that the update changes is left with a read error. -/
def LeafMarks (leafUpdate : LeafUpdate) : Prop :=
  ∀ leaf, leafUpdate.changes leaf = true →
    (leafUpdate.apply leaf).2.isPolling = false

theorem updateAvailablityFlag_of_unread {object : MqttObject}
    {leaf : RegisterLeaf} (listed : leaf ∈ object.leaves)
    (unread : leaf.2.isPolling = false) :
    object.updateAvailablityFlag =
      ({ object with isAvailable := .unavailable }, none) := by
  have stopped : (!object.availability.isPolling || !object.state.isPolling) =
      true := by
    rw [MqttObjectState.isPolling_eq, MqttObjectState.isPolling_eq,
      ← Bool.not_and, ← List.all_append, Bool.not_eq_true',
      List.all_eq_false]
    refine ⟨leaf, ?_, by simp [unread]⟩
    rcases List.mem_append.mp listed with state | availability
    · exact List.mem_append_right _ state
    · exact List.mem_append_left _ availability
  rw [updateAvailablityFlag, if_pos stopped]

theorem updateAvailablityFlagIf_of_marks {leafUpdate : LeafUpdate}
    (marks : LeafMarks leafUpdate) (object : MqttObject) :
    ((object.updateLeaves leafUpdate).1.updateAvailablityFlagIf
      (object.updateLeaves leafUpdate).2).2 = none := by
  rw [updateAvailablityFlagIf]
  split
  · rename_i changed
    rw [updateLeaves_changes] at changed
    obtain ⟨leaf, listed, changes⟩ := List.any_eq_true.mp changed
    rw [updateAvailablityFlag_of_unread _ (marks leaf changes)]
    rw [leaves_updateLeaves]
    exact List.mem_map_of_mem listed
  · rfl

theorem leafMarks_registersReadFailed (networkName : String)
    (slaveData : ModbusMessageBase) :
    LeafMarks (.registersReadFailed networkName slaveData) := by
  intro leaf changes
  rw [LeafUpdate.changes, LeafUpdate.registersReadFailed] at changes
  rw [LeafUpdate.apply, LeafUpdate.registersReadFailed]
  dsimp only at changes ⊢
  split at changes
  · rename_i covered
    rw [if_pos covered]
    rfl
  · cases changes

theorem leafMarks_networkDown (networkName : String) :
    LeafMarks (.modbusNetworkState networkName false) := by
  intro leaf changes
  rw [LeafUpdate.changes, LeafUpdate.modbusNetworkState] at changes
  rw [LeafUpdate.apply, LeafUpdate.modbusNetworkState]
  split at changes
  · rename_i polled
    rw [if_pos polled]
    rfl
  · cases changes

end MqttObject

end MqmGateway
