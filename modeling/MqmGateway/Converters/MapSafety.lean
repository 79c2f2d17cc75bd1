import MqmGateway.Converters.MapRenderings

/-!
# What the map parser does on every text

The stack of states is bounded: below a key, a value or an escape there is
only the state the parser began with.  A closing brace behind an integer and a
space pops that state too, and a text may end inside of a mapping.
-/

namespace MqmGateway

namespace MapParser

variable {parser next : MapParser} {char : Char}

theorem addMapping_added (added : parser.addMapping = .ok next) :
    ∃ register, registerValue parser.key = .ok register ∧
      New parser.mappings ⟨register, parser.mqttValue⟩ ∧ next =
        { currentState := parser.currentState.tail
          mappings := parser.mappings ++ [⟨register, parser.mqttValue⟩] } := by
  rw [addMapping] at added
  split at added
  · cases added
  · obtain ⟨register, read, added⟩ := exists_of_bind added
    split at added
    · cases added
    · rename_i newRegister
      split at added
      · cases added
      · rename_i newValue
        cases added
        exact ⟨register, read, ⟨newRegister, newValue⟩, rfl⟩

theorem step_mappings (ran : parser.step char = .ok next) :
    next.mappings = parser.mappings ∨ parser.addMapping = .ok next := by
  simp only [step, scanChar, keyChar, valueChar, addEscapedChar] at ran
  repeat' split at ran
  all_goals first
    | exact .inr ran
    | cases ran <;> exact .inl rfl

/-- The stacks that occur, with what has been read of a mapping in each. -/
inductive Shape (parser : MapParser) : Prop where
  | scanning (stack : parser.currentState = [.scan])
      (idle : parser.key = [] → parser.value = [] ∧ parser.valueType = .none)
      (unquoted : parser.valueType ≠ .string)
  | inKey (stack : parser.currentState = [.key, .scan])
      (unread : parser.value = [] ∧ parser.valueType = .none)
  | inValue (stack : parser.currentState = [.value, .scan])
      (keyed : parser.key ≠ [])
  | escaped (stack : parser.currentState = [.escape, .value, .scan])
      (keyed : parser.key ≠ [])
  | ended (stack : parser.currentState = []) (finished : parser.key = [])
      (unread : parser.value = [] ∧ parser.valueType = .none)

namespace Shape

theorem between (mappings : List Mapping) :
    Shape ⟨[.scan], .none, [], [], mappings⟩ :=
  .scanning rfl (fun _ => ⟨rfl, rfl⟩) (by simp)

theorem keyed {type : MapValueType} {first : Char} {rest value : Payload}
    {mappings : List Mapping} (unquoted : type ≠ .string) :
    Shape ⟨[.scan], type, first :: rest, value, mappings⟩ :=
  .scanning rfl (fun empty => absurd empty (List.cons_ne_nil _ _)) unquoted

theorem initial : ({} : MapParser).Shape :=
  between []

end Shape

def isKeyChar (char : Char) : Bool :=
  isDecimal char || char = 'x'

/-- Where a text ends, read as mappings from left to right. -/
inductive Position where
  | between
  | opened
  | key
  | keyed
  | word
  | number
  | spaced
  | quoted
  | escaped (inside : Position)
  | closed
deriving DecidableEq, Repr

/-- Keys are digits and `x`, perhaps behind a quote, up to a space or a colon.
A value in quotes ends with the second one, a number with the comma or brace
that follows it, or with the brace that follows it behind a space.  `none` are
characters that cannot stand at their place. -/
def Position.after : Position → Char → Option Position
  | .between, char =>
    match MapChar.of char with
    | .openBrace | .closeBrace | .space | .comma => some .between
    | .quote => some .opened
    | .other => if isDecimal char then some .key else none
    | .backslash | .colon => none
  | .opened, char =>
    match MapChar.of char with
    | .space | .colon => some .between
    | .other => if isKeyChar char then some .key else none
    | _ => none
  | .key, char =>
    match MapChar.of char with
    | .space | .colon => some .keyed
    | .other => if isKeyChar char then some .key else none
    | _ => none
  | .keyed, char =>
    match MapChar.of char with
    | .openBrace | .closeBrace | .space | .comma | .colon => some .keyed
    | .quote => some .quoted
    | .other => some (if isDecimal char then .number else .word)
    | .backslash => none
  | .word, char =>
    match MapChar.of char with
    | .openBrace | .space | .comma | .colon => some .word
    | .quote => some .quoted
    | .other => some (if isDecimal char then .number else .word)
    | .backslash => some (.escaped .word)
    | .closeBrace => none
  | .number, char =>
    match MapChar.of char with
    | .openBrace | .colon | .other => some .number
    | .closeBrace | .comma => some .between
    | .space => some .spaced
    | .backslash => some (.escaped .number)
    | .quote => none
  | .spaced, char =>
    match MapChar.of char with
    | .openBrace | .space | .comma | .colon => some .spaced
    | .closeBrace => some .closed
    | .quote => some .quoted
    | .other => some .number
    | .backslash => none
  | .quoted, char =>
    match MapChar.of char with
    | .openBrace | .space | .comma | .colon | .other => some .quoted
    | .quote => some .between
    | .backslash => some (.escaped .quoted)
    | .closeBrace => none
  | .escaped inside, _ => some inside
  | .closed, _ => none

def position (parser : MapParser) : Position :=
  let inValue : Position :=
    match parser.valueType with
    | .none => .word
    | .int => .number
    | .string => .quoted
  match parser.currentState with
  | [] => .closed
  | .scan :: _ =>
    if parser.key = [] then .between
    else if parser.valueType = .int then .spaced
    else .keyed
  | .key :: _ => if parser.key = [] then .opened else .key
  | .value :: _ => inValue
  | .escape :: _ => .escaped inValue

section Positions

variable {type : MapValueType} {key value : Payload} {mappings : List Mapping}

theorem after_scanChar
    (idle : key = [] → value = [] ∧ type = .none) (unquoted : type ≠ .string)
    (ran : scanChar ⟨[.scan], type, key, value, mappings⟩ char = .ok next) :
    next.Shape ∧ (position ⟨[.scan], type, key, value, mappings⟩).after char =
      some next.position := by
  rw [scanChar] at ran
  cases key with
  | nil =>
    obtain ⟨rfl, rfl⟩ := idle rfl
    change _ ∧ Position.after .between char = _
    rw [Position.after]
    cases kind : MapChar.of char <;> cases digit : isDecimal char <;>
      simp only [kind, digit, reduceCtorEq, if_true, if_false] at ran ⊢
    all_goals
      cases ran
      first
      | exact ⟨.between _, rfl⟩
      | exact ⟨.inKey rfl ⟨rfl, rfl⟩, rfl⟩
  | cons first rest =>
    cases type with
    | int =>
      change _ ∧ Position.after .spaced char = _
      rw [Position.after]
      cases kind : MapChar.of char <;>
        simp only [kind, reduceCtorEq, if_true, if_false] at ran ⊢
      case closeBrace =>
        obtain ⟨_, _, _, rfl⟩ := addMapping_added ran
        exact ⟨.ended rfl rfl ⟨rfl, rfl⟩, rfl⟩
      all_goals
        cases ran
        first
        | exact ⟨.keyed (by simp), rfl⟩
        | exact ⟨.inValue rfl (List.cons_ne_nil _ _), rfl⟩
    | none =>
      change _ ∧ Position.after .keyed char = _
      rw [Position.after]
      cases kind : MapChar.of char <;> cases digit : isDecimal char <;>
        simp only [kind, digit, digitType, reduceCtorEq, if_true,
          if_false, and_true, and_false] at ran ⊢
      all_goals
        cases ran
        first
        | exact ⟨.keyed (by simp), rfl⟩
        | exact ⟨.inValue rfl (List.cons_ne_nil _ _), rfl⟩
    | string => exact absurd rfl unquoted

theorem after_keyChar
    (ran : keyChar ⟨[.key, .scan], .none, key, [], mappings⟩ char = .ok next) :
    next.Shape ∧ (position ⟨[.key, .scan], .none, key, [], mappings⟩).after
      char = some next.position := by
  have digits : (isDecimal char = true ∨ char = 'x') ↔
      isKeyChar char = true := by
    simp [isKeyChar]
  simp only [keyChar, digits] at ran
  cases key with
  | nil =>
    change _ ∧ Position.after .opened char = _
    rw [Position.after]
    cases kind : MapChar.of char <;> cases digit : isKeyChar char <;>
      simp only [kind, digit, reduceCtorEq, if_true, if_false] at ran ⊢
    all_goals
      cases ran
      first
      | exact ⟨.between _, rfl⟩
      | exact ⟨.inKey rfl ⟨rfl, rfl⟩, rfl⟩
  | cons first rest =>
    change _ ∧ Position.after .key char = _
    rw [Position.after]
    cases kind : MapChar.of char <;> cases digit : isKeyChar char <;>
      simp only [kind, digit, reduceCtorEq, if_true, if_false] at ran ⊢
    all_goals
      cases ran
      first
      | exact ⟨.keyed (by simp), rfl⟩
      | exact ⟨.inKey rfl ⟨rfl, rfl⟩, rfl⟩

theorem after_valueChar (keyed : key ≠ [])
    (ran : valueChar ⟨[.value, .scan], type, key, value, mappings⟩ char =
      .ok next) :
    next.Shape ∧ (position ⟨[.value, .scan], type, key, value, mappings⟩).after
      char = some next.position := by
  obtain ⟨first, rest, rfl⟩ := List.exists_cons_of_ne_nil keyed
  rw [valueChar] at ran
  cases type with
  | int =>
    change _ ∧ Position.after .number char = _
    rw [Position.after]
    cases kind : MapChar.of char <;>
      simp only [kind, reduceCtorEq] at ran ⊢
    case closeBrace | comma =>
      obtain ⟨_, _, _, rfl⟩ := addMapping_added ran
      exact ⟨.between _, rfl⟩
    all_goals
      cases ran
      first
      | exact ⟨.inValue rfl (List.cons_ne_nil _ _), rfl⟩
      | exact ⟨.keyed (by simp), rfl⟩
      | exact ⟨.escaped rfl (List.cons_ne_nil _ _), rfl⟩
  | none =>
    change _ ∧ Position.after .word char = _
    rw [Position.after]
    cases kind : MapChar.of char <;> cases digit : isDecimal char <;>
      simp only [kind, digit, digitType, reduceCtorEq, if_true, if_false,
        and_true, and_false] at ran ⊢
    all_goals
      cases ran
      first
      | exact ⟨.inValue rfl (List.cons_ne_nil _ _), rfl⟩
      | exact ⟨.escaped rfl (List.cons_ne_nil _ _), rfl⟩
  | string =>
    change _ ∧ Position.after .quoted char = _
    rw [Position.after]
    cases kind : MapChar.of char <;>
      simp only [kind, reduceCtorEq] at ran ⊢
    case quote =>
      obtain ⟨_, _, _, rfl⟩ := addMapping_added ran
      exact ⟨.between _, rfl⟩
    all_goals
      cases ran
      first
      | exact ⟨.inValue rfl (List.cons_ne_nil _ _), rfl⟩
      | exact ⟨.escaped rfl (List.cons_ne_nil _ _), rfl⟩

end Positions

/-- A character keeps the shape and moves the position. -/
theorem Shape.after (shape : parser.Shape)
    (ran : parser.step char = .ok next) :
    next.Shape ∧ parser.position.after char = some next.position := by
  obtain ⟨stack, type, key, value, mappings⟩ := parser
  cases shape with
  | scanning stack idle unquoted =>
    cases stack
    exact after_scanChar idle unquoted ran
  | inKey stack unread =>
    obtain ⟨unread, untyped⟩ := unread
    cases stack
    cases unread
    cases untyped
    exact after_keyChar ran
  | inValue stack keyed =>
    cases stack
    exact after_valueChar keyed ran
  | escaped stack keyed =>
    cases stack
    cases ran
    exact ⟨.inValue rfl keyed, rfl⟩
  | ended stack =>
    cases stack
    cases ran

theorem Shape.reads {text : Payload} (shape : parser.Shape)
    (ran : parser.Reads text next) : next.Shape :=
  foldlM_preserves (fun _ _ _ _ before first => (before.after first).1) shape
    ran

theorem Reads.position {data : Payload} (shape : parser.Shape)
    (ran : parser.Reads data next) :
    data.foldlM Position.after parser.position = some next.position := by
  induction data generalizing parser with
  | nil =>
    cases ran
    rfl
  | cons char data induction =>
    obtain ⟨middle, first, rest⟩ := exists_of_bind ran
    obtain ⟨shape, moved⟩ := shape.after first
    rw [List.foldlM_cons, moved]
    exact induction shape rest

variable {data : Payload}

end MapParser

end MqmGateway
