import MqmGateway.Config.Objects

/-!
# What an object declares

The registers that an object shows are those the loader asks for, each with
the refresh in force where it stands in the file.
-/

namespace MqmGateway

namespace Declaration

def idents (declaration : Declaration) : List MqttObjectRegisterIdent :=
  (List.range declaration.poll.count.toNat).map fun (offset : Nat) =>
    { networkName := declaration.networkName
      slaveId := declaration.poll.slaveId
      registerNumber := declaration.poll.register + offset
      registerType := declaration.poll.registerType }

theorem mem_idents_iff {declaration : Declaration}
    {ident : MqttObjectRegisterIdent} :
    ident ∈ declaration.idents ↔ declaration.networkName = ident.networkName ∧
        declaration.poll.slaveId = ident.slaveId ∧
        declaration.poll.Covers ident.registerType ident.registerNumber := by
  rw [idents, List.mem_map]
  constructor
  · intro ⟨offset, below, same⟩
    have inside := List.mem_range.mp below
    cases same
    refine ⟨rfl, rfl, rfl, ?_, ?_⟩ <;>
      simp only [ModbusAddressRange.firstRegister,
        ModbusAddressRange.lastRegister] <;> omega
  · intro ⟨network, slave, type, first, last⟩
    simp only [ModbusAddressRange.firstRegister,
      ModbusAddressRange.lastRegister] at first last
    refine ⟨(ident.registerNumber - declaration.poll.register).toNat,
      List.mem_range.mpr (by omega), ?_⟩
    have number : declaration.poll.register +
        ((ident.registerNumber - declaration.poll.register).toNat : Int) =
          ident.registerNumber := by
      omega
    cases ident
    cases network
    cases slave
    cases type
    simp only [number]

end Declaration

theorem MqttObjectDataNode.nodeLeaves_eq_flatMap
    (nodes : List MqttObjectDataNode) :
    nodeLeaves nodes = nodes.flatMap leaves := by
  induction nodes with
  | nil => rfl
  | cons node nodes induction =>
    rw [nodeLeaves, induction, List.flatMap_cons]

namespace MqttObjectState

open MqttObjectDataNode

theorem leaves_addDataNode (state : MqttObjectState)
    (node : MqttObjectDataNode) (forceList : Bool) :
    (state.addDataNode node forceList).leaves =
      state.leaves ++ node.leaves := by
  simp [addDataNode, leaves, nodeLeaves_eq_flatMap]

theorem leaves_addDataNodes (state : MqttObjectState)
    (nodes : List MqttObjectDataNode) :
    (nodes.foldl (fun state node => state.addDataNode node true)
      state).leaves = state.leaves ++ nodeLeaves nodes := by
  induction nodes generalizing state with
  | nil => simp [nodeLeaves]
  | cons node nodes induction =>
    rw [List.foldl_cons, induction, leaves_addDataNode, nodeLeaves,
      List.append_assoc]

end MqttObjectState

namespace ModMqtt

open ConfigTools MqttObjectDataNode

/-- The data tree `node` shows the register `ident` and asks for it with the
refresh `inForce`, if it stands where `refresh` is in force. -/
inductive Configures (libraries : LoaderLibraries) (network : String)
    (slave : Int) : Int → YamlNode → MqttObjectRegisterIdent → Int → Prop where
  | register {refresh : Int} {node : YamlNode} {own : Option Int}
      {count : Option Int} {name : RegisterConfigName}
      {registerType : RegisterType} {offset : Nat}
      (single : node.member? "registers" = none)
      (given : readOptionalValue decodeMilliseconds node "refresh" = .ok own)
      (counted : readOptionalValue libraries.asInt node "count" = .ok count)
      (named : RegisterConfigName.parse node network slave = .ok name)
      (typed : parseRegisterType node = .ok registerType)
      (inside : offset < count.getD 1) :
      Configures libraries network slave refresh node
        { networkName := name.networkName
          slaveId := name.slaveId
          registerNumber := name.registerNumber + offset
          registerType }
        (own.getD refresh)
  | nested {refresh inForce : Int} {node item : YamlNode}
      {items : List YamlNode} {own : Option Int}
      {ident : MqttObjectRegisterIdent}
      (group : node.member? "registers" = some (.sequence items))
      (given : readOptionalValue decodeMilliseconds node "refresh" = .ok own)
      (listed : item ∈ items)
      (inner : Configures libraries network slave (own.getD refresh) item
        ident inForce) :
      Configures libraries network slave refresh node ident inForce

/-- The registers of the declared polls are the configured ones, with their
refreshes, and the leaves are these registers, not read yet. -/
structure Declares (configured : MqttObjectRegisterIdent → Int → Prop)
    (leaves : List RegisterLeaf) (declared : List Declaration) : Prop where
  leaves_eq : leaves =
    (declared.flatMap Declaration.idents).map fun ident => (ident, {})
  configured_iff : ∀ ident refresh, configured ident refresh ↔
    ∃ declaration ∈ declared, ident ∈ declaration.idents ∧
      declaration.poll.refreshMsec = refresh

namespace Declares

theorem nil : Declares (fun _ _ => False) [] [] := by
  refine ⟨rfl, ?_⟩
  intro ident refresh
  simp

theorem append {first second : MqttObjectRegisterIdent → Int → Prop}
    {firstLeaves secondLeaves : List RegisterLeaf}
    {firstDeclared secondDeclared : List Declaration}
    (left : Declares first firstLeaves firstDeclared)
    (right : Declares second secondLeaves secondDeclared) :
    Declares (fun ident refresh => first ident refresh ∨ second ident refresh)
      (firstLeaves ++ secondLeaves) (firstDeclared ++ secondDeclared) := by
  refine ⟨?_, ?_⟩
  · rw [left.leaves_eq, right.leaves_eq, List.flatMap_append, List.map_append]
  · intro ident refresh
    rw [left.configured_iff, right.configured_iff]
    simp only [List.mem_append, or_and_right, exists_or]

theorem congr {configured other : MqttObjectRegisterIdent → Int → Prop}
    {leaves : List RegisterLeaf} {declared : List Declaration}
    (declares : Declares configured leaves declared)
    (same : ∀ ident refresh, other ident refresh ↔ configured ident refresh) :
    Declares other leaves declared := by
  refine ⟨declares.leaves_eq, ?_⟩
  intro ident refresh
  rw [same, declares.configured_iff]

end Declares

variable {libraries : LoaderLibraries} {defaults : ObjectDefaults}

theorem parseRegistersMember_eq (members : List (String × YamlNode))
    (refresh everyPollRefresh : Int) :
    parseRegistersMember libraries defaults members refresh everyPollRefresh =
      ((YamlNode.map members).member? "registers").map fun value =>
        parseRegisters libraries defaults value refresh everyPollRefresh := by
  rw [YamlNode.member?]
  induction members with
  | nil => rw [parseRegistersMember]; rfl
  | cons entry rest induction =>
    obtain ⟨name, value⟩ := entry
    rw [parseRegistersMember]
    by_cases here : name = "registers"
    · rw [if_pos here, List.find?_cons_of_pos (by simpa using here)]
      rfl
    · rw [if_neg here, List.find?_cons_of_neg (by simpa using here)]
      exact induction

theorem parseObjectDataNode_eq (node : YamlNode)
    (refresh everyPollRefresh : Int) :
    parseObjectDataNode libraries defaults node refresh everyPollRefresh = (do
      let name ← readOptionalValue .ok node "name"
      let own ← readOptionalValue decodeMilliseconds node "refresh"
      let converter ← readConverter libraries node
      let shortest := (own.map (min · everyPollRefresh)).getD everyPollRefresh
      match node.member? "registers" with
      | some value => do
          let children ← parseRegisters libraries defaults value
            (own.getD refresh) shortest
          .ok { children with
            value := .composite (name.getD "") converter children.value
              (!children.value.isEmpty) }
      | none => do
          let count ← readOptionalValue libraries.asInt node "count"
          let (first, declaration) ← updateSpecification libraries.asserts
            defaults node (count.getD 1) (own.getD refresh)
          .ok
            { value := registerNode (name.getD "") converter first
                (count.getD 1)
              everyPollRefresh := shortest
              declared := [declaration] }) := by
  rw [parseObjectDataNode]
  cases node with
  | map members =>
    simp only [parseRegistersMember_eq]
    cases (YamlNode.map members).member? "registers" <;> rfl
  | _ => rfl

theorem ownRefresh_of {property : Int → Prop}
    (timespans : ∀ {text value}, decodeMilliseconds text = .ok value →
      property value)
    {node : YamlNode} {own : Option Int} {refresh : Int}
    (given : readOptionalValue decodeMilliseconds node "refresh" = .ok own)
    (inForce : property refresh) : property (own.getD refresh) := by
  rw [readOptionalValue] at given
  split at given
  · cases given
    exact inForce
  · rename_i text _
    cases decoded : decodeMilliseconds text with
    | error message =>
      rw [decoded] at given
      cases given
    | ok value =>
      rw [decoded] at given
      cases given
      exact timespans decoded
  · cases given

variable {node : YamlNode} {refresh everyPollRefresh : Int}
  {first : MqttObjectRegisterIdent} {declaration : Declaration}
  {items : List YamlNode}

theorem ownRefresh_valid {own : Option Int}
    (given : readOptionalValue decodeMilliseconds node "refresh" = .ok own)
    (valid : refresh ≠ MsgRegisterPoll.INVALID_REFRESH) :
    own.getD refresh ≠ MsgRegisterPoll.INVALID_REFRESH :=
  @ownRefresh_of (· ≠ MsgRegisterPoll.INVALID_REFRESH)
    decodeMilliseconds_ne_invalid node own refresh given valid

/-- What a successful `parseObjectDataNode` has read. -/
inductive ParsedNode (libraries : LoaderLibraries) (defaults : ObjectDefaults)
    (node : YamlNode) (refresh : Int) (parsed : Parsed MqttObjectDataNode) :
    Prop where
  | group {own : Option Int} {items : List YamlNode} {shortest : Int}
      {children : Parsed (List MqttObjectDataNode)} {name : String}
      {converter : Option DataConverter} {outputAsList : Bool}
      (member : node.member? "registers" = some (.sequence items))
      (given : readOptionalValue decodeMilliseconds node "refresh" = .ok own)
      (inner : parseRegisterList libraries defaults items (own.getD refresh)
        shortest = .ok children)
      (value : parsed.value =
        .composite name converter children.value outputAsList)
      (declared : parsed.declared = children.declared)
  | register {own count : Option Int} {first : MqttObjectRegisterIdent}
      {declaration : Declaration} {name : String}
      {converter : Option DataConverter}
      (member : node.member? "registers" = none)
      (given : readOptionalValue decodeMilliseconds node "refresh" = .ok own)
      (counted : readOptionalValue libraries.asInt node "count" = .ok count)
      (updated : updateSpecification libraries.asserts defaults node
        (count.getD 1) (own.getD refresh) = .ok (first, declaration))
      (value : parsed.value =
        registerNode name converter first (count.getD 1))
      (declared : parsed.declared = [declaration])

theorem parseObjectDataNode_parsed {parsed : Parsed MqttObjectDataNode}
    (parsing : parseObjectDataNode libraries defaults node refresh
      everyPollRefresh = .ok parsed) :
    ParsedNode libraries defaults node refresh parsed := by
  rw [parseObjectDataNode_eq] at parsing
  obtain ⟨name, _, parsing⟩ := exists_of_bind parsing
  obtain ⟨own, given, parsing⟩ := exists_of_bind parsing
  obtain ⟨converter, _, parsing⟩ := exists_of_bind parsing
  cases member : node.member? "registers" with
  | some value =>
    rw [member] at parsing
    obtain ⟨children, inner, same⟩ := exists_of_bind parsing
    cases same
    cases value with
    | sequence items =>
      rw [parseRegisters] at inner
      exact .group member given inner rfl rfl
    | _ => cases inner
  | none =>
    rw [member] at parsing
    obtain ⟨count, counted, parsing⟩ := exists_of_bind parsing
    obtain ⟨⟨first, declaration⟩, updated, same⟩ := exists_of_bind parsing
    cases same
    exact .register member given counted updated rfl rfl

theorem updateSpecification_read {asserts : Bool} {count : Int}
    (updated : updateSpecification asserts defaults node count refresh =
      .ok (first, declaration)) :
    ∃ name registerType,
      RegisterConfigName.parse node defaults.network defaults.slave = .ok name ∧
      parseRegisterType node = .ok registerType ∧
      first =
        { networkName := name.networkName
          slaveId := name.slaveId
          registerNumber := name.registerNumber
          registerType } ∧
      declaration =
        { networkName := name.networkName
          poll :=
            { register := name.registerNumber
              count
              registerType
              slaveId := name.slaveId
              refreshMsec := refresh
              publishMode := defaults.mode } } := by
  obtain ⟨name, named, updated⟩ := exists_of_bind updated
  obtain ⟨registerType, typed, updated⟩ := exists_of_bind updated
  obtain ⟨poll, checked, same⟩ := exists_of_bind updated
  cases same
  cases MsgRegisterPoll.eq_of_checked checked
  exact ⟨name, registerType, named, typed, rfl, rfl⟩

theorem leaves_registerNode {count : Int}
    (updated : updateSpecification libraries.asserts defaults node count refresh =
      .ok (first, declaration))
    (name : String) (converter : Option DataConverter) :
    (registerNode name converter first count).leaves =
      declaration.idents.map fun ident => (ident, {}) := by
  obtain ⟨name, registerType, _, _, rfl, rfl⟩ :=
    updateSpecification_read updated
  rw [registerNode, Declaration.idents]
  split
  · rename_i single
    cases single
    simp [leaves]
  · rw [leaves]
    induction List.range count.toNat with
    | nil => rfl
    | cons offset offsets induction =>
      simp only [List.map_cons, nodeLeaves, leaves, induction]
      rfl

theorem register_declares {own count : Option Int}
    (single : node.member? "registers" = none)
    (given : readOptionalValue decodeMilliseconds node "refresh" = .ok own)
    (counted : readOptionalValue libraries.asInt node "count" = .ok count)
    (updated : updateSpecification libraries.asserts defaults node
      (count.getD 1) (own.getD refresh) = .ok (first, declaration))
    (name : String) (converter : Option DataConverter) :
    Declares (Configures libraries defaults.network defaults.slave refresh node)
      (registerNode name converter first (count.getD 1)).leaves
      [declaration] := by
  refine ⟨?_, ?_⟩
  · rw [leaves_registerNode updated]
    simp
  · obtain ⟨register, registerType, named, typed, rfl, rfl⟩ :=
      updateSpecification_read updated
    intro ident inForce
    constructor
    · intro configures
      cases configures with
      | register _ given' counted' named' typed' inside =>
        cases given.symm.trans given'
        cases counted.symm.trans counted'
        cases named.symm.trans named'
        cases typed.symm.trans typed'
        refine ⟨_, List.mem_singleton_self _, ?_, rfl⟩
        exact List.mem_map.mpr
          ⟨_, List.mem_range.mpr (Int.lt_toNat.mpr inside), rfl⟩
      | nested group =>
        rw [single] at group
        cases group
    · intro ⟨declaration, listed, shown, refreshed⟩
      cases List.mem_singleton.mp listed
      obtain ⟨offset, below, rfl⟩ := List.mem_map.mp shown
      cases refreshed
      exact .register single given counted named typed
        (Int.lt_toNat.mp (List.mem_range.mp below))

/-- Data trees with what the parser makes of each of them. -/
def ParsedItems (libraries : LoaderLibraries) (defaults : ObjectDefaults)
    (refresh : Int) :
    List YamlNode → List (Parsed MqttObjectDataNode) → Prop :=
  List.Forall₂ fun item child => ∃ everyPollRefresh,
    parseObjectDataNode libraries defaults item refresh everyPollRefresh =
      .ok child

theorem parseRegisterList_items {children : Parsed (List MqttObjectDataNode)}
    (parsing : parseRegisterList libraries defaults items refresh
      everyPollRefresh = .ok children) :
    ∃ parsed, ParsedItems libraries defaults refresh items parsed ∧
      children.value = parsed.map Parsed.value ∧
      children.declared = parsed.flatMap Parsed.declared := by
  induction items generalizing everyPollRefresh children with
  | nil =>
    rw [parseRegisterList] at parsing
    cases parsing
    exact ⟨[], .nil, rfl, rfl⟩
  | cons item items induction =>
    rw [parseRegisterList] at parsing
    obtain ⟨child, childParsed, parsing⟩ := exists_of_bind parsing
    obtain ⟨rest, restParsed, same⟩ := exists_of_bind parsing
    cases same
    obtain ⟨parsed, others, values, declared⟩ := induction restParsed
    exact ⟨child :: parsed, .cons ⟨_, childParsed⟩ others, by simp [values],
      by simp [declared]⟩

theorem ParsedItems.declares {children : List (Parsed MqttObjectDataNode)}
    (parsed : ParsedItems libraries defaults refresh items children)
    (each : ∀ item ∈ items, ∀ {everyPollRefresh child},
      parseObjectDataNode libraries defaults item refresh everyPollRefresh =
        .ok child →
      Declares
        (Configures libraries defaults.network defaults.slave refresh item)
        child.value.leaves child.declared) :
    Declares (fun ident inForce => ∃ item ∈ items, Configures libraries
        defaults.network defaults.slave refresh item ident inForce)
      (children.flatMap fun child => child.value.leaves)
      (children.flatMap Parsed.declared) := by
  induction parsed with
  | nil => exact Declares.nil.congr (by simp)
  | cons first _ induction =>
    obtain ⟨everyPollRefresh, childParsed⟩ := first
    obtain ⟨here, later⟩ := List.forall_mem_cons.mp each
    exact ((here childParsed).append (induction later)).congr (by simp)

theorem sizeOf_member {value : YamlNode} {name : String}
    (member : node.member? name = some value) : sizeOf value < sizeOf node := by
  cases node with
  | map members =>
    obtain ⟨entry, found, rfl⟩ := Option.map_eq_some_iff.mp member
    have listed := List.sizeOf_lt_of_mem (List.mem_of_find?_eq_some found)
    obtain ⟨key, value⟩ := entry
    simp only [Prod.mk.sizeOf_spec] at listed
    simp only [YamlNode.map.sizeOf_spec]
    omega
  | _ => cases member

@[elab_as_elim]
theorem registers_induction {motive : YamlNode → Prop} (step : ∀ node, (∀ items,
      node.member? "registers" = some (.sequence items) →
        ∀ item ∈ items, motive item) → motive node)
    (node : YamlNode) : motive node := by
  apply step
  intro items member item listed
  exact registers_induction step item
termination_by sizeOf node
decreasing_by
  have inside := sizeOf_member member
  have below := List.sizeOf_lt_of_mem listed
  simp only [YamlNode.sequence.sizeOf_spec] at inside
  omega

/-- A data tree asks for the registers it shows. -/
theorem parseObjectDataNode_declares {parsed : Parsed MqttObjectDataNode}
    (parsing : parseObjectDataNode libraries defaults node refresh
      everyPollRefresh = .ok parsed) :
    Declares (Configures libraries defaults.network defaults.slave refresh node)
      parsed.value.leaves parsed.declared := by
  induction node using registers_induction
    generalizing refresh everyPollRefresh parsed with
  | step node induction =>
    cases parseObjectDataNode_parsed parsing with
    | @group own items _ children _ _ _ member given inner value declared =>
      obtain ⟨parsed, itemsParsed, values, asked⟩ :=
        parseRegisterList_items inner
      rw [value, declared, leaves, values, nodeLeaves_eq_flatMap,
        List.flatMap_map, asked]
      refine (itemsParsed.declares ?_).congr ?_
      · intro item listed everyPollRefresh child itemParsed
        exact induction items member item listed itemParsed
      intro ident inForce
      constructor
      · intro configures
        cases configures with
        | register single =>
          rw [member] at single
          cases single
        | nested group given' listed inner =>
          cases member.symm.trans group
          cases given.symm.trans given'
          exact ⟨_, listed, inner⟩
      · intro ⟨item, listed, inner⟩
        exact .nested member given listed inner
    | register member given counted updated value declared =>
      rw [value, declared]
      exact register_declares member given counted updated _ _

theorem Configures.valid {network : String} {slave inForce : Int}
    {ident : MqttObjectRegisterIdent}
    (configures : Configures libraries network slave refresh node ident inForce)
    (valid : refresh ≠ MsgRegisterPoll.INVALID_REFRESH) :
    inForce ≠ MsgRegisterPoll.INVALID_REFRESH := by
  induction configures with
  | register _ given => exact ownRefresh_valid given valid
  | nested _ given _ _ induction =>
    exact induction (ownRefresh_valid given valid)

def stateItems : Option YamlNode → List YamlNode
  | some (.map members) => [.map members]
  | some (.sequence items) => items
  | _ => []

theorem parseStateList_items {isUnnamed : Option Bool}
    {state : MqttObjectState} {parsed : Parsed MqttObjectState}
    (parsing : parseStateList libraries defaults items refresh
      everyPollRefresh isUnnamed state = .ok parsed) :
    ∃ children, ParsedItems libraries defaults refresh items children ∧
      parsed.value.leaves =
        state.leaves ++ children.flatMap (fun child => child.value.leaves) ∧
      parsed.declared = children.flatMap Parsed.declared := by
  induction items generalizing everyPollRefresh isUnnamed state parsed with
  | nil =>
    cases parsing
    exact ⟨[], .nil, (List.append_nil _).symm, rfl⟩
  | cons item items induction =>
    obtain ⟨child, childParsed, parsing⟩ := exists_of_bind parsing
    dsimp only at parsing
    split at parsing
    · cases parsing
    · obtain ⟨rest, restParsed, same⟩ := exists_of_bind parsing
      cases same
      obtain ⟨children, others, shown, declared⟩ := induction restParsed
      refine ⟨child :: children, .cons ⟨_, childParsed⟩ others, ?_, ?_⟩
      · simp [shown, MqttObjectState.leaves_addDataNode]
      · simp [declared]

theorem leaves_addDataNodes_of_grouping {node : MqttObjectDataNode}
    (grouping : (node.converter.isNone && node.isUnnamed &&
      !node.isScalar) = true) :
    (node.nodes.foldl (fun (state : MqttObjectState) child =>
      state.addDataNode child true)
      { nodes := [], outputAsList := false }).leaves = node.leaves := by
  rw [MqttObjectState.leaves_addDataNodes]
  cases node with
  | scalar name converter ident register => simp [isScalar] at grouping
  | composite name converter nodes outputAsList =>
    rw [leaves]
    rfl

theorem parseState_items {node : Option YamlNode}
    {parsed : Parsed MqttObjectState}
    (parsing : parseState libraries defaults node refresh = .ok parsed) :
    ∃ children,
      ParsedItems libraries defaults refresh (stateItems node) children ∧
      parsed.value.leaves = children.flatMap (fun child => child.value.leaves) ∧
      parsed.declared = children.flatMap Parsed.declared := by
  unfold parseState at parsing
  split at parsing
  · cases parsing
    exact ⟨[], .nil, rfl, rfl⟩
  · obtain ⟨child, childParsed, same⟩ := exists_of_bind parsing
    cases same
    refine ⟨[child], .cons ⟨_, childParsed⟩ .nil, ?_,
      (List.flatMap_singleton _ _).symm⟩
    rw [List.flatMap_singleton]
    dsimp only
    split
    · rename_i grouping
      exact leaves_addDataNodes_of_grouping grouping
    · rw [MqttObjectState.leaves_addDataNode]
      rfl
  · exact parseStateList_items parsing
  · cases parsing

theorem parseAvailability_items {node : Option YamlNode}
    {parsed : Parsed (MqttObjectState × MqttValue)}
    (parsing : parseAvailability libraries defaults node refresh = .ok parsed) :
    ∃ children, ParsedItems libraries defaults refresh node.toList children ∧
      parsed.value.1.leaves =
        children.flatMap (fun child => child.value.leaves) ∧
      parsed.declared = children.flatMap Parsed.declared := by
  cases node with
  | none =>
    cases parsing
    exact ⟨[], .nil, rfl, rfl⟩
  | some node =>
    obtain ⟨available, _, parsing⟩ := exists_of_bind parsing
    cases node with
    | map members =>
      obtain ⟨child, childParsed, parsing⟩ := exists_of_bind parsing
      split at parsing
      · cases parsing
      · cases parsing
        refine ⟨[child], .cons ⟨_, childParsed⟩ .nil, ?_,
          (List.flatMap_singleton _ _).symm⟩
        rw [List.flatMap_singleton]
        exact MqttObjectState.leaves_addDataNode _ _ _
    | _ => cases parsing

end ModMqtt

namespace ObjectSource

def items (source : ObjectSource) : List YamlNode :=
  ModMqtt.stateItems (source.data.member? "state") ++
    (source.data.member? "availability").toList

/-- The object shows the register and asks for it with that refresh. -/
def Configures (source : ObjectSource) (libraries : LoaderLibraries)
    (ident : MqttObjectRegisterIdent) (inForce : Int) : Prop :=
  ∃ item ∈ source.items, ModMqtt.Configures libraries source.network
    source.slave source.refresh item ident inForce

end ObjectSource

namespace ModMqtt

open ConfigTools

variable {libraries : LoaderLibraries} {slaveName : String → Int → String}

variable {source : ObjectSource} {name : String} {object : MqttObject}
  {declared : List Declaration} {networks : List String} {config : YamlNode}
  {loaded : LoadedObjects} {refresh : Int} {items : List YamlNode}

section

variable
  (parsing : parseObject libraries source name = .ok (object, declared))

include parsing

theorem parseObject_parts :
    ∃ topic retain mode state availability,
      parseState libraries ⟨source.network, source.slave, mode⟩
        (source.data.member? "state") source.refresh = .ok state ∧
      parseAvailability libraries ⟨source.network, source.slave, mode⟩
        (source.data.member? "availability") source.refresh = .ok availability ∧
      object =
        { MqttObject.create topic with
          state := state.value
          availability := availability.value.1
          availableValue := availability.value.2
          retain
          publishMode := mode
          everyPollPeriod := state.everyPollRefresh * 1000000 } ∧
      declared = state.declared ++ availability.declared := by
  obtain ⟨template, _, parsing⟩ := exists_of_bind parsing
  obtain ⟨topic, _, parsing⟩ := exists_of_bind parsing
  obtain ⟨retain, _, parsing⟩ := exists_of_bind parsing
  obtain ⟨mode, _, parsing⟩ := exists_of_bind parsing
  obtain ⟨state, stateParsed, parsing⟩ := exists_of_bind parsing
  obtain ⟨availability, availabilityParsed, same⟩ := exists_of_bind parsing
  cases same
  exact ⟨topic, _, mode, state, availability, stateParsed,
    availabilityParsed, rfl, rfl⟩

theorem parseObject_items :
    ∃ mode children, ParsedItems libraries ⟨source.network, source.slave, mode⟩
        source.refresh source.items children ∧
      object.leaves = children.flatMap (fun child => child.value.leaves) ∧
      declared = children.flatMap Parsed.declared := by
  obtain ⟨topic, retain, mode, state, availability, stateParsed,
    availabilityParsed, rfl, rfl⟩ := parseObject_parts parsing
  obtain ⟨stateChildren, stateItems, stateLeaves, stateDeclared⟩ :=
    parseState_items stateParsed
  obtain ⟨children, items, leaves, declared⟩ :=
    parseAvailability_items availabilityParsed
  refine ⟨mode, stateChildren ++ children,
    List.rel_append stateItems items, ?_, ?_⟩
  · rw [List.flatMap_append, ← stateLeaves, ← leaves]
    rfl
  · rw [List.flatMap_append, stateDeclared, declared]

theorem parseObject_declares :
    Declares (source.Configures libraries) object.leaves declared := by
  obtain ⟨mode, children, items, shown, asked⟩ := parseObject_items parsing
  rw [shown, asked]
  exact items.declares fun item _ _ _ itemParsed =>
    parseObjectDataNode_declares itemParsed

end

/-- An item of the section with the refresh in force for it. -/
structure InSection (refresh : Int) (items : List YamlNode)
    (source : ObjectSource) : Prop where
  listed : source.data ∈ items
  inForce : ∃ own,
    readOptionalValue decodeMilliseconds source.data "refresh" = .ok own ∧
      source.refresh = own.getD refresh

/-- What every new object preserves holds of all that is loaded. -/
theorem initObjects_induction
    (loading : initObjects libraries networks slaveName config = .ok loaded) :
    ∃ refresh publishMode items,
      objectsSection config = .ok (refresh, publishMode, items) ∧
      ∀ property : LoadedObjects → Prop, property {} →
        (∀ template, InSection refresh items template →
          ∀ slave loaded next, property loaded.1 →
          addObject libraries slaveName template loaded slave = .ok next →
          property next.1) →
        property loaded := by
  obtain ⟨⟨refresh, publishMode, items⟩, read, loading⟩ :=
    exists_of_bind loading
  refine ⟨refresh, publishMode, items, read, ?_⟩
  intro property initially preserved
  refine foldlM_preserves ?_ initially loading
  intro data listed loaded next before added
  obtain ⟨own, given, added⟩ := exists_of_bind added
  obtain ⟨names, _, added⟩ := exists_of_bind added
  obtain ⟨slaves, _, added⟩ := exists_of_bind added
  refine foldlM_preserves ?_ before added
  intro network _ loaded next before added
  rw [addNetwork] at added
  split at added
  · cases added
  · obtain ⟨last, looped, same⟩ := exists_of_bind added
    cases same
    let kept (state : LoadedObjects × List Int) : Prop := property state.1
    have start : kept (loaded, []) := before
    have done : kept last := by
      refine foldlM_preserves ?_ start looped
      intro range _ state next before added
      rw [addRange] at added
      split at added
      · cases added
      · refine foldlM_preserves ?_ before added
        intro slave _ state next before added
        exact preserved _ ⟨listed, own, given, rfl⟩ slave state next before
          added
    exact done

/-- The objects and the declared polls come from the same sources, one after
the other. -/
def Made (libraries : LoaderLibraries) (slaveName : String → Int → String)
    (refresh : Int) (items : List YamlNode) (loaded : LoadedObjects) : Prop :=
  ∃ parts : List (ObjectSource × MqttObject × List Declaration),
    loaded.objects = parts.map (fun part => part.2.1) ∧
    loaded.declared = parts.flatMap (fun part => part.2.2) ∧
    ∀ part ∈ parts, InSection refresh items part.1 ∧
      parseObject libraries part.1 (slaveName part.1.network part.1.slave) =
        .ok part.2

variable {template : ObjectSource} {next : LoadedObjects × List Int}
  {slave : Int} {publishMode : PublishMode}

theorem addObject_eq {loaded : LoadedObjects × List Int}
    (added : addObject libraries slaveName template loaded slave = .ok next) :
    ∃ object declared commands, parseObject libraries { template with slave }
        (slaveName template.network slave) = .ok (object, declared) ∧
      parseObjectCommands libraries.toConfigLibraries loaded.1.commands
        { topic := object.topic
          network := template.network
          slave
          commands := template.data.member? "commands" } = .ok commands ∧
      next.1 =
        { objects := loaded.1.objects ++ [object]
          declared := loaded.1.declared ++ declared
          commands } := by
  rw [addObject] at added
  split at added
  · cases added
  · obtain ⟨⟨object, declared⟩, parsed, added⟩ := exists_of_bind added
    dsimp only at added
    split at added
    · cases added
    · obtain ⟨commands, commandsParsed, same⟩ := exists_of_bind added
      cases same
      exact ⟨object, declared, commands, parsed, commandsParsed, rfl⟩

theorem Made.addObject (inSection : InSection refresh items template)
    {loaded : LoadedObjects × List Int}
    (made : Made libraries slaveName refresh items loaded.1)
    (added : addObject libraries slaveName template loaded slave =
      .ok next) : Made libraries slaveName refresh items next.1 := by
  obtain ⟨object, declared, commands, parsed, _, same⟩ := addObject_eq added
  obtain ⟨parts, objects, polls, each⟩ := made
  rw [same]
  refine ⟨parts ++ [({ template with slave }, object, declared)], ?_, ?_, ?_⟩
  · simp [objects]
  · simp [polls]
  · intro part listed
    rcases List.mem_append.mp listed with earlier | here
    · exact each part earlier
    · cases List.mem_singleton.mp here
      exact ⟨⟨inSection.listed, inSection.inForce⟩, parsed⟩

theorem initObjects_made
    (loading : initObjects libraries networks slaveName config = .ok loaded) :
    ∃ refresh publishMode items,
      objectsSection config = .ok (refresh, publishMode, items) ∧
      Made libraries slaveName refresh items loaded := by
  obtain ⟨refresh, publishMode, items, read, induction⟩ :=
    initObjects_induction loading
  refine ⟨refresh, publishMode, items, read, ?_⟩
  apply induction
  · exact ⟨[], rfl, rfl, by simp⟩
  · intro template inSection slave loaded next before added
    exact before.addObject inSection added

theorem initObjects_commands
    (loading : initObjects libraries networks slaveName config = .ok loaded) :
    ∃ sections, loadCommands libraries.toConfigLibraries sections =
      .ok loaded.commands.2 := by
  obtain ⟨_, _, _, _, induction⟩ := initObjects_induction loading
  have collected : ∃ sections : List CommandSection,
      sections.foldlM (parseObjectCommands libraries.toConfigLibraries)
        (1, []) = .ok loaded.commands := by
    apply induction
    · exact ⟨[], rfl⟩
    · intro template _ slave loaded next before added
      obtain ⟨sections, folded⟩ := before
      obtain ⟨object, _, commands, _, parsed, same⟩ := addObject_eq added
      refine ⟨sections ++ [
        { topic := object.topic
          network := template.network
          slave
          commands := template.data.member? "commands" }], ?_⟩
      rw [List.foldlM_append, folded, same]
      exact (bind_pure _).trans parsed
  obtain ⟨sections, folded⟩ := collected
  refine ⟨sections, ?_⟩
  rw [loadCommands, folded]
  rfl

theorem objectsSection_refresh {property : Int → Prop}
    (timespans : ∀ {text value}, decodeMilliseconds text = .ok value →
      property value)
    (fiveSeconds : property 5000) {refresh : Int}
    (read : objectsSection config = .ok (refresh, publishMode, items)) :
    property refresh := by
  rw [objectsSection] at read
  split at read
  · cases read
  · obtain ⟨given, own, read⟩ := exists_of_bind read
    obtain ⟨mode, _, read⟩ := exists_of_bind read
    split at read
    · cases read
    · cases read
      exact ownRefresh_of timespans own fiveSeconds
    · cases read

theorem objectsSection_valid
    (read : objectsSection config = .ok (refresh, publishMode, items)) :
    refresh ≠ MsgRegisterPoll.INVALID_REFRESH :=
  objectsSection_refresh decodeMilliseconds_ne_invalid (by decide) read

end ModMqtt

end MqmGateway
