import MqmGateway.Config.PollRouting

/-!
# The shape of data trees

A node without children must have a register, the children of a node all have
names or none has, and a converter is given the values of scalar children.
The loader does not see to any of this: it depends on the file.
-/

namespace MqmGateway

namespace MqttObjectDataNode

def sameNaming (nodes : List MqttObjectDataNode) : Bool :=
  nodes.all isUnnamed || nodes.all fun node => !node.isUnnamed

mutual

/-- Every node without children has a register, lists are named or unnamed
throughout and converters have scalar children. -/
def wellFormed : MqttObjectDataNode → Bool
  | .scalar _ _ _ _ => true
  | .composite _ converter nodes _ =>
    !nodes.isEmpty && sameNaming nodes &&
      (converter.isNone || nodes.all isScalar) && nodesWellFormed nodes

def nodesWellFormed : List MqttObjectDataNode → Bool
  | [] => true
  | node :: nodes => node.wellFormed && nodesWellFormed nodes

end

theorem sameNaming_of_agreed {nodes : List MqttObjectDataNode}
    {flag : Option Bool}
    (agreed : ∀ node ∈ nodes, some node.isUnnamed = flag) :
    sameNaming nodes = true := by
  rw [sameNaming, Bool.or_eq_true, List.all_eq_true, List.all_eq_true]
  cases flag with
  | none => exact .inl fun node listed => nomatch agreed node listed
  | some flag =>
    cases flag with
    | true => exact .inl fun node listed => Option.some.inj (agreed node listed)
    | false =>
      refine .inr fun node listed => ?_
      rw [Option.some.inj (agreed node listed)]
      rfl

theorem nodesWellFormed_eq (nodes : List MqttObjectDataNode) :
    nodesWellFormed nodes = nodes.all wellFormed := by
  induction nodes with
  | nil => rfl
  | cons node nodes induction =>
    rw [nodesWellFormed, List.all_cons, induction]

end MqttObjectDataNode

def MqttObjectState.wellFormed (state : MqttObjectState) : Bool :=
  MqttObjectDataNode.sameNaming state.nodes &&
    MqttObjectDataNode.nodesWellFormed state.nodes

namespace YamlNode

def isNamed (node : YamlNode) : Bool :=
  match node.member? "name" with
  | some (.scalar text) => text ≠ ""
  | _ => false

def SameNaming (items : List YamlNode) : Prop :=
  (∀ item ∈ items, item.isNamed = false) ∨
    ∀ item ∈ items, item.isNamed = true

end YamlNode

namespace ModMqtt

open ConfigTools MqttObjectDataNode

def SingleRegister (libraries : LoaderLibraries) (node : YamlNode) : Prop :=
  node.member? "registers" = none ∧
    ∃ count, readOptionalValue libraries.asInt node "count" = .ok count ∧
      count.getD 1 = 1

/-- A data tree of the file: at least one register, lists that are not empty
and are named or unnamed throughout, and converters of registers only. -/
inductive Regular (libraries : LoaderLibraries) : YamlNode → Prop where
  | register {node : YamlNode} {count : Option Int}
      (single : node.member? "registers" = none)
      (counted : readOptionalValue libraries.asInt node "count" = .ok count)
      (positive : 1 ≤ count.getD 1) : Regular libraries node
  | group {node : YamlNode} {items : List YamlNode}
      (member : node.member? "registers" = some (.sequence items))
      (filled : items ≠ []) (names : YamlNode.SameNaming items)
      (plain : (node.member? "converter").isSome = true →
        ∀ item ∈ items, SingleRegister libraries item)
      (inner : ∀ item ∈ items, Regular libraries item) :
      Regular libraries node

variable {libraries : LoaderLibraries} {defaults : ObjectDefaults}

@[simp] theorem registerNode_keyName (name : String)
    (converter : Option DataConverter) (first : MqttObjectRegisterIdent)
    (count : Int) :
    (registerNode name converter first count).keyName = name := by
  rw [registerNode]
  split <;> rfl

@[simp] theorem registerNode_converter (name : String)
    (converter : Option DataConverter) (first : MqttObjectRegisterIdent)
    (count : Int) :
    (registerNode name converter first count).converter = converter := by
  rw [registerNode]
  split <;> rfl

theorem registerNode_isScalar (name : String)
    (converter : Option DataConverter) (first : MqttObjectRegisterIdent)
    {count : Int} (positive : 1 ≤ count) :
    (registerNode name converter first count).isScalar = true ↔ count = 1 := by
  rw [registerNode]
  split
  · rename_i one
    simp [isScalar, one]
  · rename_i several
    simp only [isScalar, several, iff_false]
    simp
    omega

theorem registerNode_wellFormed (name : String)
    (converter : Option DataConverter) (first : MqttObjectRegisterIdent)
    (count : Int) :
    (registerNode name converter first count).wellFormed = true ↔
      1 ≤ count := by
  rw [registerNode]
  split
  · rename_i one
    simp [wellFormed, one]
  · rename_i several
    have children : ∀ test : MqttObjectDataNode → Bool,
        (∀ ident, test (.scalar "" none ident {}) = true) →
        ((List.range count.toNat).map fun (offset : Nat) =>
          MqttObjectDataNode.scalar "" none
            { first with registerNumber := first.registerNumber + offset }
            {}).all test = true := by
      intro test holds
      simp [holds]
    simp only [wellFormed, nodesWellFormed_eq, sameNaming,
      children isUnnamed (fun _ => rfl), children isScalar (fun _ => rfl),
      children wellFormed (fun _ => by rw [wellFormed]), Bool.or_true,
      Bool.true_or, Bool.and_true]
    simp
    omega

variable {node : YamlNode} {refresh everyPollRefresh : Int}
  {parsed : Parsed MqttObjectDataNode} {items : List YamlNode}
  {children : Parsed (List MqttObjectDataNode)}

section

variable (parsing : parseObjectDataNode libraries defaults node refresh
    everyPollRefresh = .ok parsed)

include parsing

theorem parsed_fields :
    ∃ name, readOptionalValue .ok node "name" = .ok name ∧
      readConverter libraries node = .ok parsed.value.converter ∧
      parsed.value.keyName = name.getD "" := by
  rw [parseObjectDataNode_eq] at parsing
  obtain ⟨name, named, parsing⟩ := exists_of_bind parsing
  obtain ⟨own, _, parsing⟩ := exists_of_bind parsing
  obtain ⟨converter, converted, parsing⟩ := exists_of_bind parsing
  refine ⟨name, named, ?_⟩
  rw [converted]
  cases member : node.member? "registers" with
  | some value =>
    rw [member] at parsing
    obtain ⟨children, _, same⟩ := exists_of_bind parsing
    cases same
    exact ⟨rfl, rfl⟩
  | none =>
    rw [member] at parsing
    obtain ⟨count, _, parsing⟩ := exists_of_bind parsing
    obtain ⟨⟨first, declaration⟩, _, same⟩ := exists_of_bind parsing
    cases same
    simp

theorem isUnnamed_of_parsed :
    parsed.value.isUnnamed = !node.isNamed := by
  obtain ⟨name, named, _, same⟩ := parsed_fields parsing
  rw [isUnnamed, same, YamlNode.isNamed]
  rw [readOptionalValue] at named
  split at named
  · rename_i missing
    cases named
    rw [missing]
    rfl
  · rename_i text found
    cases named
    rw [found]
    simp
  · cases named

theorem converter_of_parsed :
    parsed.value.converter.isSome = (node.member? "converter").isSome := by
  obtain ⟨_, _, converted, _⟩ := parsed_fields parsing
  rw [readConverter] at converted
  split at converted
  · rename_i missing
    rw [missing, ← Except.ok.inj converted]
    rfl
  · rename_i given found
    cases created : createConverter libraries.toConfigLibraries given with
    | error message =>
      rw [created] at converted
      cases converted
    | ok converter =>
      rw [created] at converted
      rw [found, ← Except.ok.inj converted]
      rfl

end

theorem ParsedItems.all_iff {children : List (Parsed MqttObjectDataNode)}
    (parsed : ParsedItems libraries defaults refresh items children)
    {test : MqttObjectDataNode → Bool} {holds : YamlNode → Prop}
    (each : ∀ item ∈ items, ∀ {everyPollRefresh child},
      parseObjectDataNode libraries defaults item refresh everyPollRefresh =
        .ok child → (test child.value = true ↔ holds item)) :
    (children.map Parsed.value).all test = true ↔
      ∀ item ∈ items, holds item := by
  induction parsed with
  | nil => simp
  | cons first _ induction =>
    obtain ⟨everyPollRefresh, childParsed⟩ := first
    obtain ⟨here, later⟩ := List.forall_mem_cons.mp each
    rw [List.map_cons, List.all_cons, Bool.and_eq_true, here childParsed,
      induction later, List.forall_mem_cons]

theorem parseRegisterList_all
    {test : MqttObjectDataNode → Bool} {holds : YamlNode → Prop}
    (each : ∀ item ∈ items, ∀ {refresh everyPollRefresh parsed},
      parseObjectDataNode libraries defaults item refresh everyPollRefresh =
        .ok parsed → (test parsed.value = true ↔ holds item))
    (parsing : parseRegisterList libraries defaults items refresh
      everyPollRefresh = .ok children) :
    children.value.all test = true ↔ ∀ item ∈ items, holds item := by
  obtain ⟨parsed, itemsParsed, values, _⟩ := parseRegisterList_items parsing
  rw [values]
  exact itemsParsed.all_iff fun item listed _ _ itemParsed =>
    each item listed itemParsed

theorem parseRegisterList_eq_nil
    (parsing : parseRegisterList libraries defaults items refresh
      everyPollRefresh = .ok children) :
    children.value = [] ↔ items = [] := by
  obtain ⟨parsed, itemsParsed, values, _⟩ := parseRegisterList_items parsing
  rw [values]
  cases itemsParsed <;> simp

theorem parseRegisterList_sameNaming
    (parsing : parseRegisterList libraries defaults items refresh
      everyPollRefresh = .ok children) :
    sameNaming children.value = true ↔ YamlNode.SameNaming items := by
  rw [sameNaming, YamlNode.SameNaming, Bool.or_eq_true]
  refine or_congr (parseRegisterList_all ?_ parsing)
    (parseRegisterList_all ?_ parsing)
  · intro item _ refresh everyPollRefresh parsed itemParsed
    rw [isUnnamed_of_parsed itemParsed]
    simp
  · intro item _ refresh everyPollRefresh parsed itemParsed
    rw [isUnnamed_of_parsed itemParsed]
    simp

/-- Of regular items, those for one register are the scalar ones. -/
theorem isScalar_of_regular
    (parsing : parseObjectDataNode libraries defaults node refresh
      everyPollRefresh = .ok parsed) (regular : Regular libraries node) :
    parsed.value.isScalar = true ↔ SingleRegister libraries node := by
  cases parseObjectDataNode_parsed parsing with
  | @group own items _ children _ _ _ member given inner value declared =>
    rw [value, isScalar, List.isEmpty_iff, parseRegisterList_eq_nil inner]
    cases regular with
    | register single =>
      rw [member] at single
      cases single
    | group member' filled =>
      cases member.symm.trans member'
      refine iff_of_false filled ?_
      rintro ⟨single, _⟩
      rw [member] at single
      cases single
  | register member given counted updated value declared =>
    rw [value]
    cases regular with
    | register _ counted' positive =>
      cases counted.symm.trans counted'
      rw [registerNode_isScalar _ _ _ positive]
      constructor
      · intro one
        exact ⟨member, _, counted, one⟩
      · rintro ⟨_, count, counted', one⟩
        cases counted.symm.trans counted'
        exact one
    | group member' =>
      rw [member] at member'
      cases member'

/-- What the parser makes of a data tree is well formed if and only if the
tree is regular. -/
theorem parseObjectDataNode_wellFormed
    (parsing : parseObjectDataNode libraries defaults node refresh
      everyPollRefresh = .ok parsed) :
    parsed.value.wellFormed = true ↔ Regular libraries node := by
  induction node using registers_induction
    generalizing refresh everyPollRefresh parsed with
  | step node induction =>
    have converter := converter_of_parsed parsing
    cases parseObjectDataNode_parsed parsing with
    | @group own items _ children _ used _ member given inner value declared =>
      have each : ∀ item ∈ items, ∀ {refresh everyPollRefresh parsed},
          parseObjectDataNode libraries defaults item refresh
            everyPollRefresh = .ok parsed →
          (parsed.value.wellFormed = true ↔ Regular libraries item) := by
        intro item listed refresh everyPollRefresh parsed itemParsed
        exact induction items member item listed itemParsed
      have regular := parseRegisterList_all each inner
      have scalars (inside : ∀ item ∈ items, Regular libraries item) :
          children.value.all isScalar = true ↔
            ∀ item ∈ items, SingleRegister libraries item :=
        parseRegisterList_all (fun item listed _ _ _ itemParsed =>
          isScalar_of_regular itemParsed (inside item listed)) inner
      have isUsed : used.isSome = (node.member? "converter").isSome := by
        rw [← converter, value]
        rfl
      rw [value, wellFormed, nodesWellFormed_eq]
      simp only [Bool.and_eq_true, Bool.not_eq_true',
        List.isEmpty_eq_false_iff, Bool.or_eq_true,
        parseRegisterList_sameNaming inner, regular]
      rw [Ne, parseRegisterList_eq_nil inner]
      constructor
      · rintro ⟨⟨⟨filled, names⟩, plain⟩, inside⟩
        refine .group member filled names ?_ inside
        intro converts
        rw [← isUsed] at converts
        rcases plain with none | all
        · rw [Option.isNone_iff_eq_none] at none
          rw [none] at converts
          cases converts
        · exact (scalars inside).mp all
      · intro regular
        cases regular with
        | register single =>
          rw [member] at single
          cases single
        | group member' filled names plain inside =>
          cases member.symm.trans member'
          refine ⟨⟨⟨filled, names⟩, ?_⟩, inside⟩
          rw [← isUsed] at plain
          rw [scalars inside]
          cases used with
          | none => exact .inl rfl
          | some converter => exact .inr (plain rfl)
    | register member given counted updated value declared =>
      rw [value, registerNode_wellFormed]
      constructor
      · intro positive
        exact .register member counted positive
      · intro regular
        cases regular with
        | register _ counted' positive =>
          cases counted.symm.trans counted'
          exact positive
        | group member' =>
          rw [member] at member'
          cases member'

/-- The elements of a `state` agree in having names, and each is made from
its own item. -/
theorem parseStateList_wellFormed {flag : Option Bool}
    {state : MqttObjectState} {parsed : Parsed MqttObjectState}
    (agreed : ∀ node ∈ state.nodes, some node.isUnnamed = flag)
    (parsing : parseStateList libraries defaults items refresh
      everyPollRefresh flag state = .ok parsed) :
    parsed.value.wellFormed = true ↔ nodesWellFormed state.nodes = true ∧
        ∀ item ∈ items, Regular libraries item := by
  induction items generalizing everyPollRefresh flag state parsed with
  | nil =>
    cases parsing
    simp [MqttObjectState.wellFormed, sameNaming_of_agreed agreed]
  | cons item items induction =>
    obtain ⟨child, childParsed, parsing⟩ := exists_of_bind parsing
    dsimp only at parsing
    split at parsing
    · cases parsing
    · rename_i fits
      obtain ⟨rest, restParsed, same⟩ := exists_of_bind parsing
      cases same
      have still : ∀ node ∈ (state.addDataNode child.value
          (flag.getD child.value.isUnnamed)).nodes,
          some node.isUnnamed = some (flag.getD child.value.isUnnamed) := by
        intro node listed
        rcases List.mem_append.mp listed with earlier | here
        · rw [← agreed node earlier]
          rfl
        · rw [List.mem_singleton.mp here]
          exact congrArg some (not_not.mp fits)
      rw [induction still restParsed, List.forall_mem_cons,
        ← parseObjectDataNode_wellFormed childParsed, ← and_assoc,
        MqttObjectState.addDataNode, nodesWellFormed_eq,
        nodesWellFormed_eq]
      simp

theorem wellFormed_addDataNode (node : MqttObjectDataNode) (forceList : Bool) :
    (MqttObjectState.addDataNode { nodes := [], outputAsList := false } node
      forceList).wellFormed = node.wellFormed := by
  rw [MqttObjectState.wellFormed, MqttObjectState.addDataNode,
    nodesWellFormed_eq, sameNaming]
  cases node.isUnnamed <;> simp_all

theorem nodes_addDataNodes (state : MqttObjectState)
    (nodes : List MqttObjectDataNode) :
    (nodes.foldl (fun state child => state.addDataNode child true)
      state).nodes = state.nodes ++ nodes := by
  induction nodes generalizing state with
  | nil => simp
  | cons node nodes induction =>
    rw [List.foldl_cons, induction, MqttObjectState.addDataNode,
      List.append_assoc]
    rfl

theorem wellFormed_addDataNodes {node : MqttObjectDataNode}
    {empty : MqttObjectState} (unused : empty.nodes = [])
    (grouping : (node.converter.isNone && node.isUnnamed &&
      !node.isScalar) = true) :
    (node.nodes.foldl (fun state child => state.addDataNode child true)
      empty).wellFormed = node.wellFormed := by
  rw [MqttObjectState.wellFormed, nodes_addDataNodes, unused,
    List.nil_append]
  cases node with
  | scalar name converter ident register => simp [isScalar] at grouping
  | composite name converter nodes outputAsList =>
    simp only [Bool.and_eq_true, MqttObjectDataNode.converter,
      isScalar] at grouping
    rw [wellFormed, MqttObjectDataNode.nodes, grouping.2, grouping.1.1,
      Bool.true_and, Bool.true_or, Bool.and_true]

theorem parseState_wellFormed {node : Option YamlNode}
    {parsed : Parsed MqttObjectState}
    (parsing : parseState libraries defaults node refresh = .ok parsed) :
    parsed.value.wellFormed = true ↔
      ∀ item ∈ stateItems node, Regular libraries item := by
  unfold parseState at parsing
  split at parsing
  · cases parsing
    simp [stateItems, MqttObjectState.wellFormed, sameNaming,
      nodesWellFormed]
  · obtain ⟨child, childParsed, same⟩ := exists_of_bind parsing
    cases same
    rw [stateItems, List.forall_mem_singleton,
      ← parseObjectDataNode_wellFormed childParsed]
    dsimp only
    split
    · rename_i grouping
      rw [wellFormed_addDataNodes rfl grouping]
    · rw [wellFormed_addDataNode]
  · rw [parseStateList_wellFormed (by simp) parsing]
    simp [stateItems, nodesWellFormed]
  · cases parsing

theorem parseAvailability_wellFormed {node : Option YamlNode}
    {parsed : Parsed (MqttObjectState × MqttValue)}
    (parsing : parseAvailability libraries defaults node refresh = .ok parsed) :
    parsed.value.1.wellFormed = true ↔
      ∀ item ∈ node.toList, Regular libraries item := by
  cases node with
  | none =>
    cases parsing
    simp [MqttObjectState.wellFormed, sameNaming, nodesWellFormed]
  | some node =>
    obtain ⟨available, _, parsing⟩ := exists_of_bind parsing
    cases node with
    | map members =>
      obtain ⟨child, childParsed, parsing⟩ := exists_of_bind parsing
      split at parsing
      · cases parsing
      · cases parsing
        rw [wellFormed_addDataNode,
          parseObjectDataNode_wellFormed childParsed]
        simp
    | _ => cases parsing

/-- The trees of an object that is accepted are well formed if and only if
those of the file are regular. -/
theorem objectTrees_wellFormed_iff {source : ObjectSource} {name : String}
    {object : MqttObject} {declared : List Declaration}
    (parsing : parseObject libraries source name = .ok (object, declared)) :
    (object.state.wellFormed = true ∧ object.availability.wellFormed = true) ↔
      ∀ item ∈ source.items, Regular libraries item := by
  obtain ⟨topic, retain, mode, state, availability, stateParsed,
    availabilityParsed, rfl, rfl⟩ := parseObject_parts parsing
  rw [ObjectSource.items, List.forall_mem_append,
    ← parseState_wellFormed stateParsed,
    ← parseAvailability_wellFormed availabilityParsed]

def treeSource (state : YamlNode) : ObjectSource :=
  { data := .map [("topic", .scalar "meter"), ("state", state)]
    network := "net"
    slave := 1
    refresh := 1000
    publishMode := .onChange }

def treeLibraries (asserts : Bool) : LoaderLibraries :=
  { Loaded.numberLibraries with
    asserts
    createConverter := fun _ => .ok
      { toMqtt := fun registers => .ok (.int registers.length)
        toModbus := fun _ _ => .error .conv } }

theorem exists_object (asserts : Bool) {state : YamlNode}
    {property : MqttObject → Bool}
    (checked : (parseObject (treeLibraries asserts) (treeSource state)
      "").toOption.any (fun result => property result.1) = true) :
    ∃ object declared, parseObject (treeLibraries asserts) (treeSource state)
      "" = .ok (object, declared) ∧ property object = true := by
  obtain ⟨⟨object, declared⟩, parsing, holds⟩ :=
    exists_of_toOption_any checked
  exact ⟨object, declared, parsing, holds⟩

def registerItem (number : String) : YamlNode :=
  .map [("register", .scalar number)]

theorem objectTrees_wellFormed_pair : ∃ object declared,
    parseObject (treeLibraries true) (treeSource (.map
        [("converter", .scalar "sum()"),
          ("registers", .sequence [registerItem "1", registerItem "2"])])) "" =
      .ok (object, declared) ∧
    (object.state.wellFormed && object.availability.wellFormed) = true ∧
    ((object.state.wellFormed = true ∧ object.availability.wellFormed = true) ↔
      ∀ item ∈ (treeSource (.map [("converter", .scalar "sum()"),
          ("registers", .sequence [registerItem "1", registerItem "2"])])).items,
        Regular (treeLibraries true) item) := by
  obtain ⟨object, declared, parsing, wellFormed⟩ := @exists_object true
    (.map [("converter", .scalar "sum()"),
      ("registers", .sequence [registerItem "1", registerItem "2"])])
    (fun object => object.state.wellFormed && object.availability.wellFormed)
    (by decide +kernel)
  exact ⟨object, declared, parsing, wellFormed,
    objectTrees_wellFormed_iff parsing⟩

/-- An empty list, a list that is named in part and a converter of a list are
all accepted, and without assertions a count of zero. -/
theorem malformed_trees_accepted :
    (∃ object declared, parseObject (treeLibraries true) (treeSource (.map
        [("registers", .sequence [])])) "" = .ok (object, declared) ∧
      object.state.wellFormed = false) ∧
    (∃ object declared, parseObject (treeLibraries false) (treeSource (.map
        [("register", .scalar "1"), ("count", .scalar "0")])) "" =
          .ok (object, declared) ∧ object.state.wellFormed = false) ∧
    (∃ object declared, parseObject (treeLibraries true) (treeSource (.map
        [("registers", .sequence [registerItem "1",
          .map [("name", .scalar "second"), ("register", .scalar "2")]])]))
        "" = .ok (object, declared) ∧ object.state.wellFormed = false) ∧
    ∃ object declared, parseObject (treeLibraries true) (treeSource (.map
        [("converter", .scalar "sum()"), ("registers", .sequence
          [.map [("registers", .sequence [registerItem "1"])]])])) "" =
          .ok (object, declared) ∧ object.state.wellFormed = false := by
  have malformed (asserts : Bool) {state : YamlNode}
      (checked : (parseObject (treeLibraries asserts) (treeSource state)
        "").toOption.any (fun result => !result.1.state.wellFormed) = true) :
      ∃ object declared, parseObject (treeLibraries asserts)
        (treeSource state) "" = .ok (object, declared) ∧
          object.state.wellFormed = false := by
    obtain ⟨object, declared, parsing, failing⟩ := @exists_object asserts
      state (fun object => !object.state.wellFormed) checked
    exact ⟨object, declared, parsing, by simpa using failing⟩
  refine ⟨malformed true ?_, malformed false ?_, malformed true ?_,
    malformed true ?_⟩
  all_goals decide +kernel

end ModMqtt

end MqmGateway
