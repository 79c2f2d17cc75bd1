import MqmGateway.Config.Trees
import MqmGateway.MqttObject.Flag

/-!
# RPC replies and published states

A read request is answered with the text that a poll of the same registers
would publish.  The loader gives an unnamed register with a count one of three
shapes, which updates keep; the text depends on the shape and on the values of
the leaves.
-/

namespace MqmGateway

namespace MqttObjectDataNode

def plain (leaf : RegisterLeaf) : MqttObjectDataNode :=
  .scalar "" none leaf.1 leaf.2

theorem nodeLeaves_plain (leaves : List RegisterLeaf) :
    nodeLeaves (leaves.map plain) = leaves := by
  induction leaves with
  | nil => rfl
  | cons leaf leaves induction =>
    rw [List.map_cons, nodeLeaves, induction]
    rfl

theorem updateNodes_plain (leafUpdate : LeafUpdate)
    (leaves : List RegisterLeaf) :
    (updateNodes leafUpdate (leaves.map plain)).1 =
      (leaves.map leafUpdate.apply).map plain := by
  induction leaves with
  | nil => rfl
  | cons leaf leaves induction =>
    rw [List.map_cons, updateNodes, induction]
    rfl

end MqttObjectDataNode

open MqttObjectDataNode

/-- The state of an unnamed register with a count and maybe a converter. -/
inductive RegisterState : Option DataConverter → List RegisterLeaf →
    MqttObjectState → Prop where
  | single (converter : Option DataConverter) (leaf : RegisterLeaf) :
      RegisterState converter [leaf]
        { nodes := [.scalar "" converter leaf.1 leaf.2]
          outputAsList := false }
  | converted (converter : DataConverter) (leaves : List RegisterLeaf)
      (asList : Bool) :
      RegisterState (some converter) leaves
        { nodes := [.composite "" (some converter) (leaves.map plain) asList]
          outputAsList := false }
  | listed (first second : RegisterLeaf) (leaves : List RegisterLeaf) :
      RegisterState none (first :: second :: leaves)
        { nodes := (first :: second :: leaves).map plain
          outputAsList := true }

namespace RegisterState

variable {converter : Option DataConverter} {leaves : List RegisterLeaf}
  {state : MqttObjectState}

theorem of_several (several : 2 ≤ leaves.length) : RegisterState none leaves
      { nodes := leaves.map plain, outputAsList := true } := by
  cases leaves with
  | nil => simp at several
  | cons first leaves =>
    cases leaves with
    | nil => simp at several
    | cons second leaves => exact .listed first second leaves

theorem leaves_eq (shape : RegisterState converter leaves state) :
    state.leaves = leaves := by
  cases shape with
  | single _ leaf => rfl
  | converted converter leaves asList =>
    change nodeLeaves (leaves.map plain) ++ [] = leaves
    rw [nodeLeaves_plain, List.append_nil]
  | listed first second leaves => exact nodeLeaves_plain _

theorem update (shape : RegisterState converter leaves state)
    (leafUpdate : LeafUpdate) :
    RegisterState converter (leaves.map leafUpdate.apply)
      (state.update leafUpdate).1 := by
  cases shape with
  | single converter leaf => exact .single converter (leafUpdate.apply leaf)
  | converted converter leaves asList =>
    have updated := RegisterState.converted converter
      (leaves.map leafUpdate.apply) asList
    rw [← updateNodes_plain] at updated
    exact updated
  | listed first second leaves =>
    have updated := RegisterState.listed (leafUpdate.apply first)
      (leafUpdate.apply second) (leaves.map leafUpdate.apply)
    rw [← List.map_cons, ← List.map_cons, ← updateNodes_plain] at updated
    exact updated

end RegisterState

namespace MqttObject

theorem performAll_registerState {object : MqttObject}
    {converter : Option DataConverter} {leaves : List RegisterLeaf}
    (shape : RegisterState converter leaves object.state)
    (updates : List ObjectUpdate) :
    RegisterState converter (object.performAll updates).state.leaves
      (object.performAll updates).state := by
  induction updates generalizing object leaves with
  | nil =>
    rw [performAll, List.foldl_nil, shape.leaves_eq]
    exact shape
  | cons update updates induction =>
    have updated := shape.update update.leafUpdate
    rw [← perform_state] at updated
    exact induction updated

end MqttObject

namespace MqttPayload

theorem generateNodes_plain (leaves : List RegisterLeaf) :
    generateNodes (leaves.map plain) =
      .ok (leaves.map fun leaf => intText leaf.2.value.toNat) := by
  induction leaves with
  | nil => rfl
  | cons leaf leaves induction =>
    rw [List.map_cons, generateNodes, induction]
    rfl

/-- A published state is the payload of the reply to a read. -/
theorem generate_eq_rpcPayload {object : MqttObject}
    {leaves : List RegisterLeaf} {pending : PendingRpcRequest}
    (shape : RegisterState pending.converter leaves object.state)
    (reads : pending.isWrite = false) :
    generate object = MqttClient.rpcPayload pending
      (leaves.map fun leaf => leaf.2.value) := by
  rw [generate, MqttClient.rpcPayload]
  generalize pending.converter = converter at shape
  generalize object.state = state at shape
  cases shape with
  | single converter leaf =>
    cases converter with
    | none => rfl
    | some converter =>
      simp only [reads]
      rfl
  | converted converter leaves asList =>
    have raw : (leaves.map plain).map getRawValue =
        leaves.map fun leaf => leaf.2.value := by
      rw [List.map_map]
      rfl
    have value : (MqttObjectDataNode.composite "" (some converter)
        (leaves.map plain) asList).getConvertedValue =
          converter.toMqtt (leaves.map fun leaf => leaf.2.value) := by
      rw [← raw]
      rfl
    simp [reads, value, isUnnamed, keyName, MqttObjectDataNode.converter]
  | listed first second leaves =>
    have texts := generateNodes_plain (first :: second :: leaves)
    simp only [generateJson, texts]
    simp [assembleJson, plain, isUnnamed, keyName, Except.map,
      Function.comp_def]

end MqttPayload

def freshRow (first : MqttObjectRegisterIdent) (count : Nat) :
    List RegisterLeaf :=
  (List.range count).map fun (offset : Nat) =>
    ({ first with registerNumber := first.registerNumber + offset }, {})

namespace MqttObject

def polledValue (ident : MqttObjectRegisterIdent) (value : UInt16) :
    ObjectUpdate :=
  .registerValues ident.networkName
    (.create ident.slaveId ident.registerType ident.registerNumber [value] 0
      .auto)

theorem polledValue_within (ident polled : MqttObjectRegisterIdent)
    (value : UInt16) :
    (ident.networkName = polled.networkName ∧
      ident.Within (MsgRegisterValues.create polled.slaveId
        polled.registerType polled.registerNumber [value] 0
        .auto).toModbusMessageBase) ↔ ident = polled := by
  obtain ⟨network, slave, number, type⟩ := ident
  obtain ⟨polledNetwork, polledSlave, polledNumber, polledType⟩ := polled
  simp only [MqttObjectRegisterIdent.Within, ModbusAddressRange.Covers,
    MsgRegisterValues.create, ModbusAddressRange.firstRegister,
    ModbusAddressRange.lastRegister, List.length_singleton,
    MqttObjectRegisterIdent.mk.injEq]
  constructor
  · rintro ⟨sameNetwork, sameSlave, sameType, first, last⟩
    exact ⟨sameNetwork, sameSlave.symm, by omega, sameType.symm⟩
  · rintro ⟨sameNetwork, sameSlave, sameNumber, sameType⟩
    exact ⟨sameNetwork, sameSlave.symm, sameType.symm, by omega, by omega⟩

theorem polledValue_apply (polled : MqttObjectRegisterIdent) (value : UInt16)
    (leaf : RegisterLeaf) :
    ((polledValue polled value).leafUpdate.apply leaf).2.value =
      if leaf.1 = polled then value else leaf.2.value := by
  rw [polledValue, ObjectUpdate.leafUpdate, LeafUpdate.registerValues_apply]
  simp only [polledValue_within]
  split
  · rename_i same
    rw [same]
    simp [MsgRegisterValues.create]
  · rfl

theorem leaves_performAll_concat (object : MqttObject)
    (updates : List ObjectUpdate) (update : ObjectUpdate) :
    (object.performAll (updates ++ [update])).state.leaves =
      (object.performAll updates).state.leaves.map update.leafUpdate.apply := by
  rw [performAll, List.foldl_append, List.foldl_cons, List.foldl_nil,
    perform_state, MqttObjectState.leaves_update]
  rfl

theorem leaves_polled (object : MqttObject)
    (values : MqttObjectRegisterIdent → UInt16)
    (polled : List MqttObjectRegisterIdent) :
    ((object.performAll (polled.map fun ident =>
      polledValue ident (values ident))).state.leaves.map
        fun leaf => (leaf.1, leaf.2.value)) =
      object.state.leaves.map fun leaf =>
        (leaf.1, if leaf.1 ∈ polled then values leaf.1 else leaf.2.value) := by
  induction polled using List.reverseRecOn with
  | nil => simp [performAll]
  | append_singleton polled last induction =>
    have step : ((fun leaf : RegisterLeaf => (leaf.1, leaf.2.value)) ∘
        (polledValue last (values last)).leafUpdate.apply) =
        (fun pair : MqttObjectRegisterIdent × UInt16 =>
          (pair.1, if pair.1 = last then values last else pair.2)) ∘
        fun leaf => (leaf.1, leaf.2.value) := by
      funext leaf
      simp only [Function.comp_apply, polledValue_apply]
      rfl
    rw [List.map_append, List.map_singleton, leaves_performAll_concat,
      List.map_map, step, ← List.map_map, induction, List.map_map]
    refine List.map_congr_left fun leaf _ => ?_
    by_cases same : leaf.1 = last
    · simp [same]
    · simp [same]

theorem exists_updates {object : MqttObject}
    {first : MqttObjectRegisterIdent} {values : List UInt16}
    (fresh : object.state.leaves = freshRow first values.length) :
    ∃ updates, (object.performAll updates).state.leaves.map
      (fun leaf => leaf.2.value) = values := by
  let chosen (ident : MqttObjectRegisterIdent) : UInt16 :=
    values.getD (ident.registerNumber - first.registerNumber).toNat 0
  have polled := congrArg (List.map Prod.snd) (leaves_polled object chosen
    (object.state.leaves.map Prod.fst))
  rw [List.map_map, List.map_map] at polled
  refine ⟨_, polled.trans ?_⟩
  rw [fresh]
  refine List.ext_getElem (by simp [freshRow]) fun offset inRow inValues => ?_
  simp [freshRow, chosen, inValues]

end MqttObject

namespace ModMqtt

open ConfigTools

variable {libraries : LoaderLibraries} {defaults : ObjectDefaults}

theorem addDataNodes_eq {nodes : List MqttObjectDataNode}
    (filled : nodes ≠ []) :
    nodes.foldl (fun state child => state.addDataNode child true)
      ({ nodes := [], outputAsList := false } : MqttObjectState) =
      { nodes, outputAsList := true } := by
  rw [MqttObjectState.mk.injEq]
  refine ⟨by rw [nodes_addDataNodes, List.nil_append], ?_⟩
  rw [← List.dropLast_append_getLast filled, List.foldl_append]
  rfl

variable {count : Nat} {converter : Option DataConverter} {refresh : Int}

theorem registerNode_several (converter : Option DataConverter)
    (first : MqttObjectRegisterIdent) (several : count ≠ 1) :
    registerNode "" converter first count =
      .composite "" converter ((freshRow first count).map plain)
        (decide (1 < count)) := by
  rw [registerNode, if_neg (by exact_mod_cast several), freshRow,
    List.map_map, Int.toNat_natCast]
  simp only [List.length_map, List.length_range]
  rfl

/-- What the file says about an unnamed register with a count. -/
structure UnnamedRegister (libraries : LoaderLibraries) (node : YamlNode)
    (count : Nat) (converter : Option DataConverter) : Prop where
  alone : node.member? "registers" = none
  unnamed : node.isNamed = false
  counted : (readOptionalValue libraries.asInt node "count").map
    (fun given => given.getD 1) = .ok (count : Int)
  positive : 1 ≤ count
  converted : readConverter libraries node = .ok converter

theorem UnnamedRegister.parsed {node : YamlNode} {everyPollRefresh : Int}
    {parsed : Parsed MqttObjectDataNode}
    (register : UnnamedRegister libraries node count converter)
    (parsing : parseObjectDataNode libraries defaults node refresh
      everyPollRefresh = .ok parsed) :
    ∃ first, parsed.value = registerNode "" converter first count := by
  obtain ⟨_, _, converted, _⟩ := parsed_fields parsing
  have unnamed := isUnnamed_of_parsed parsing
  cases parseObjectDataNode_parsed parsing with
  | group member => simp [register.alone] at member
  | @register own given first declaration name stored _ _ counted _ value _ =>
    refine ⟨first, ?_⟩
    have sameCount : given.getD 1 = (count : Int) := by
      have known := register.counted
      rw [counted] at known
      exact Except.ok.inj known
    have sameConverter : converter = stored := by
      rw [register.converted, value, registerNode_converter] at converted
      exact Except.ok.inj converted
    have noName : name = "" := by
      rw [register.unnamed, value, isUnnamed, registerNode_keyName]
        at unnamed
      simpa using unnamed
    rw [value, sameCount, sameConverter, noName]

theorem UnnamedRegister.state {members : List (String × YamlNode)}
    {parsed : Parsed MqttObjectState}
    (register : UnnamedRegister libraries (.map members) count converter)
    (parsing : parseState libraries defaults (some (.map members)) refresh =
      .ok parsed) :
    ∃ first, RegisterState converter (freshRow first count) parsed.value := by
  rw [parseState] at parsing
  obtain ⟨node, nodeParsed, same⟩ := exists_of_bind parsing
  cases same
  obtain ⟨first, value⟩ := register.parsed nodeParsed
  refine ⟨first, ?_⟩
  rw [value]
  by_cases one : count = 1
  · rw [one]
    have single := RegisterState.single converter (first, {})
    simpa [registerNode, freshRow, isScalar, MqttObjectState.addDataNode]
      using single
  · rw [registerNode_several converter first one]
    have several : 2 ≤ count := by
      have positive := register.positive
      omega
    cases converter with
    | some converter =>
      exact .converted converter (freshRow first count) _
    | none =>
      have listed : RegisterState none (freshRow first count)
          { nodes := (freshRow first count).map plain
            outputAsList := true } :=
        .of_several (by simpa [freshRow] using several)
      have filled : freshRow first count ≠ [] := by
        simp only [ne_eq, List.map_eq_nil_iff, freshRow, List.range_eq_nil]
        omega
      rw [← addDataNodes_eq (List.map_eq_nil_iff.not.mpr filled)] at listed
      simpa [MqttObjectDataNode.converter, isUnnamed, keyName, isScalar,
        MqttObjectDataNode.nodes, filled] using listed

end ModMqtt

namespace MqttClient

theorem publishRpcResponse_replies {client : MqttClient}
    {values : MsgRegisterValues} {pending : PendingRpcRequest}
    {payload : Payload}
    (waiting : client.pendingRpc values.commandId = some pending)
    (built : rpcPayload pending values.registers = .ok payload) :
    (publishRpcResponse values client).1.replies =
      client.replies ++ [(values.commandId,
        { responseTopic := pending.responseTopic
          payload
          correlationData := pending.correlationData
          error := none })] := by
  rw [publishRpcResponse, waiting]
  simp only [built]
  rfl

end MqttClient

open ModMqtt

/-- A read is answered with what the poll of an unnamed register publishes:
whenever the leaves hold the values read, and there are always polls after
which they do. -/
theorem rpcReply_eq_published {libraries : LoaderLibraries}
    {source : ObjectSource} {slaveName : String} {object : MqttObject}
    {declared : List Declaration} {members : List (String × YamlNode)}
    {converter : Option DataConverter} {values : MsgRegisterValues}
    {client : MqttClient} {pending : PendingRpcRequest}
    (parsing : parseObject libraries source slaveName = .ok (object, declared))
    (stated : source.data.member? "state" = some (.map members))
    (register : UnnamedRegister libraries (.map members)
      values.registers.length converter)
    (succeeds : ∀ given ∈ converter, ∃ value,
      given.toMqtt values.registers = .ok value)
    (waiting : client.pendingRpc values.commandId = some pending)
    (reads : pending.isWrite = false)
    (sameConverter : pending.converter = converter) :
    (∃ updates, (object.performAll updates).state.leaves.map
      (fun leaf => leaf.2.value) = values.registers) ∧
    ∀ updates, (object.performAll updates).state.leaves.map
        (fun leaf => leaf.2.value) = values.registers →
      ∃ payload,
        MqttPayload.generate (object.performAll updates) = .ok payload ∧
        (MqttClient.publishRpcResponse values client).1.replies =
          client.replies ++ [(values.commandId,
            { responseTopic := pending.responseTopic
              payload
              correlationData := pending.correlationData
              error := none })] := by
  obtain ⟨topic, retain, mode, state, availability, stateParsed, _, made, _⟩ :=
    parseObject_parts parsing
  rw [stated] at stateParsed
  obtain ⟨first, shape⟩ := register.state stateParsed
  have same : state.value = object.state := by rw [made]
  rw [same] at shape
  refine ⟨MqttObject.exists_updates shape.leaves_eq, ?_⟩
  intro updates held
  have reached := MqttObject.performAll_registerState shape updates
  rw [← sameConverter] at reached
  have agree := MqttPayload.generate_eq_rpcPayload reached reads
  rw [held] at agree
  have built : ∃ payload,
      MqttClient.rpcPayload pending values.registers = .ok payload := by
    rw [MqttClient.rpcPayload, sameConverter, reads]
    cases converter with
    | none => exact ⟨_, rfl⟩
    | some given =>
      obtain ⟨value, converted⟩ := succeeds given rfl
      exact ⟨value.getString, by simp [converted, Except.map]⟩
  obtain ⟨payload, built⟩ := built
  exact ⟨payload, agree.trans built,
    MqttClient.publishRpcResponse_replies waiting built⟩

def waitingClient : MqttClient :=
  { MqttClient.rpcClient with
    pendingRpc := fun _ => some
      { networkName := "net"
        responseTopic := "answer"
        correlationData := []
        slaveId := 1
        registerNumber := 0
        registerType := .holding
        count := 2
        isWrite := false
        converter := none } }

/-- Two registers without a converter. -/
theorem rpcReply_eq_published_pair : ∃ object declared updates,
    parseObject (treeLibraries true) (treeSource (.map
        [("register", .scalar "1"), ("count", .scalar "2")])) "" =
      .ok (object, declared) ∧
    MqttPayload.generate (object.performAll updates) = .ok "[7,8]".toList ∧
    (MqttClient.publishRpcResponse
        (.create 1 .holding 0 [7, 8] (-1) .auto) waitingClient).1.replies =
      [(-1, { responseTopic := "answer"
              payload := "[7,8]".toList
              correlationData := []
              error := none })] := by
  obtain ⟨object, declared, parsing, _⟩ := @exists_object true
    (.map [("register", .scalar "1"), ("count", .scalar "2")])
    (fun _ => true) (by decide +kernel)
  obtain ⟨⟨updates, held⟩, agree⟩ := @rpcReply_eq_published _ _ _ _ _ _ none
    (.create 1 .holding 0 [7, 8] (-1) .auto) waitingClient _ parsing rfl
    ⟨rfl, rfl, by decide +kernel, by decide, rfl⟩ (by simp) rfl rfl rfl
  obtain ⟨payload, published, replied⟩ := agree updates held
  have answered : (MqttClient.publishRpcResponse
      (.create 1 .holding 0 [7, 8] (-1) .auto) waitingClient).1.replies =
      [(-1, { responseTopic := "answer"
              payload := "[7,8]".toList
              correlationData := []
              error := none })] := by
    decide +kernel
  refine ⟨object, declared, updates, parsing, ?_, answered⟩
  rw [replied] at answered
  simp only [waitingClient, MqttClient.rpcClient, List.nil_append,
    List.cons.injEq, Prod.mk.injEq, RpcReply.mk.injEq] at answered
  rw [published, answered.1.2.2.1]

end MqmGateway
