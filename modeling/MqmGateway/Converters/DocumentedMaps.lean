import MqmGateway.Converters.MapSafety

/-!
# Which documented maps are read back

A space behind an integer leaves it pending: what follows is read into its
value, up to a string, a comma or a brace.  So a map loses a mapping with every
such integer, and no later one makes up for it.
-/

namespace MqmGateway

namespace KeyText

variable {key : Payload} {value : Nat} {char : Char} {register : UInt16}

theorem cases_of_mem (text : KeyText key value) (listed : char ∈ key) :
    isDigitOf 16 char = true ∨ char = 'x' := by
  cases text with
  | decimal _ decimal =>
    exact .inl (isDigitOf_mono (by decide) (decimal char listed))
  | hexadecimal _ digits =>
    rcases List.mem_cons.mp listed with rfl | later
    · exact .inl rfl
    · exact (List.mem_cons.mp later).symm.imp_left (digits char)

theorem other (text : KeyText key value) (listed : char ∈ key) :
    MapChar.of char = .other := by
  rcases text.cases_of_mem listed with digit | rfl
  · exact MapParser.of_isDigitOf digit
  · rfl

theorem cString_eq (text : KeyText key value) : cString key = key := by
  refine cString_of_whole fun char listed => ?_
  rcases text.cases_of_mem listed with digit | rfl
  · exact ne_null_of_isDigitOf digit
  · decide

theorem constant_le {constant : Nat} (text : KeyText key value)
    (read : Constant key constant) : constant ≤ value := by
  cases text with
  | decimal _ decimal => exact (value_of_constant read decimal).1
  | hexadecimal _ _ =>
    cases read with
    | hexadecimal => exact le_refl _
    | octal octal => exact absurd (octal 'x' List.mem_cons_self) (by decide)
    | decimal nonzero => exact absurd rfl nonzero

theorem registerValue_of_constant {constant : Nat} (text : KeyText key value)
    (read : Constant key constant) (small : value < 65536) :
    MapParser.registerValue key = .ok (UInt16.ofNat constant) := by
  have bound := text.constant_le read
  have literal : Literal Constant key constant := .plain read
  have trimmed := literal.dropWhile_isSpace fun _ _ => Constant.starts
  rw [MapParser.registerValue, text.cString_eq, MqttValue.getInt_of_literal
    (by rwa [text.cString_eq, trimmed]),
    toInt32_clampLong_eq_iff.mpr (by omega)]
  dsimp only
  rw [if_neg (by omega)]
  refine congrArg Except.ok (UInt16.toNat_inj.mp ?_)
  simp [UInt16.ofInt]
  omega

/-- The parser reads the value of a key exactly if it is that of the key as a
constant of C. -/
theorem registerValue_iff (text : KeyText key register.toNat) :
    MapParser.registerValue key = .ok register ↔
      Constant key register.toNat := by
  have small := register.toNat_lt
  constructor
  · intro read
    obtain ⟨first, rest, rfl⟩ := List.exists_cons_of_ne_nil text.ne_nil
    have digit : isDigitOf 10 first = true := text.head_isDecimal
    obtain ⟨trimmed, unsigned⟩ := @bare_of_isDigitOf 10 first rest digit
    by_cases literal : ∃ value, Literal Constant (first :: rest) value
    · obtain ⟨number, literal⟩ := literal
      obtain ⟨magnitude, constant, rfl⟩ :=
        (literal_iff fun _ _ => Constant.head?).mp literal
      rw [unsigned] at constant
      have bound : magnitude < UInt16.size :=
        (text.constant_le constant).trans_lt small
      cases (text.registerValue_of_constant constant small).symm.trans read
      rwa [UInt16.toNat_ofNat_of_lt' bound]
    · rw [MapParser.registerValue, text.cString_eq,
        MqttValue.getInt_of_no_literal (by simp [text.cString_eq])
          (by rwa [text.cString_eq, trimmed])] at read
      cases read
  · intro constant
    rw [text.registerValue_of_constant constant small, UInt16.ofNat_toNat]

end KeyText

namespace MapParser

variable {parser next last : MapParser} {mappings result : List Mapping}
  {key value front back : Payload} {char : Char}

/-- The parser has these mappings at the end of the text. -/
def Yields (parser : MapParser) (text : Payload) (result : List Mapping) :
    Prop :=
  ∃ last, parser.Reads text last ∧ last.mappings = result

theorem Reads.yields_append (first : parser.Reads front next) :
    parser.Yields (front ++ back) result ↔ next.Yields back result := by
  simp only [Yields, Reads, List.foldlM_append,
    show front.foldlM step parser = .ok next from first]
  rfl

theorem Reads.yields (first : parser.Reads front next) :
    parser.Yields front result ↔ next.mappings = result := by
  simp [Yields, show parser.Reads front _ ↔ _ = _ from Iff.rfl,
    show front.foldlM step parser = .ok next from first]

theorem yields_cons : parser.Yields (char :: back) result ↔
      ∃ next, parser.step char = .ok next ∧ next.Yields back result := by
  constructor
  · rintro ⟨last, ran, same⟩
    obtain ⟨next, first, rest⟩ := exists_of_bind ran
    exact ⟨next, first, last, rest, same⟩
  · rintro ⟨next, first, last, rest, same⟩
    exact ⟨last, .cons first rest, same⟩

theorem parse_eq_ok_iff {text : Payload} :
    parse text = .ok result ↔ (between []).Yields text result := by
  constructor
  · intro parsed
    obtain ⟨last, ran, same⟩ := exists_of_bind parsed
    exact ⟨last, ran, Except.ok.inj same⟩
  · rintro ⟨last, ran, same⟩
    rw [parse, show List.foldlM step {} text = _ from ran]
    exact congrArg Except.ok same

theorem Yields.extends (yields : parser.Yields back result) :
    parser.mappings <+: result := by
  induction back generalizing parser with
  | nil =>
    obtain ⟨last, ran, rfl⟩ := yields
    cases ran
    exact List.prefix_rfl
  | cons char back induction =>
    obtain ⟨next, first, rest⟩ := yields_cons.mp yields
    rcases step_mappings first with same | added
    · exact same ▸ induction rest
    · obtain ⟨_, _, _, rfl⟩ := addMapping_added added
      exact (List.prefix_append _ _).trans (induction rest)

/-- What is added next is what stands there in the end. -/
theorem yields_added {mapping : Mapping} {others : List Mapping}
    (adds : parser.step char = parser.addMapping) (filled : parser.key ≠ [])
    (new : New parser.mappings mapping) :
    parser.Yields (char :: back) (parser.mappings ++ mapping :: others) ↔
      (registerValue parser.key = .ok mapping.registerValue ∧
        parser.mqttValue = mapping.mqttValue) ∧
      Yields
        { currentState := parser.currentState.tail
          mappings := parser.mappings ++ [mapping] } back
        (parser.mappings ++ mapping :: others) := by
  rw [yields_cons, adds]
  constructor
  · rintro ⟨next, added, rest⟩
    obtain ⟨register, read, _, rfl⟩ := addMapping_added added
    have kept := rest.extends
    rw [List.prefix_append_right_inj, List.cons_prefix_cons] at kept
    obtain ⟨rfl, _⟩ := kept
    exact ⟨⟨read, rfl⟩, rest⟩
  · rintro ⟨⟨read, same⟩, rest⟩
    exact ⟨_, addMapping_ok filled read same new, rest⟩

theorem keyChars_of_yields {rest : Payload}
    (others : ∀ char ∈ rest, MapChar.of char = .other)
    (yields : ((keyed mappings key).push .key).Yields (rest ++ back) result) :
    ∀ char ∈ rest, isDecimal char = true ∨ char = 'x' := by
  induction rest generalizing key with
  | nil => exact List.forall_mem_nil _
  | cons char rest induction =>
    obtain ⟨here, later⟩ := List.forall_mem_cons.mp others
    obtain ⟨next, taken, yields⟩ := yields_cons.mp yields
    change keyChar _ char = _ at taken
    simp only [keyChar, here] at taken
    split at taken
    · rename_i valid
      cases taken
      exact List.forall_mem_cons.mpr
        ⟨valid, @induction (key ++ [char]) later yields⟩
    · cases taken

theorem reads_quoted {text : Payload} (started : parser.step '"' =
      .ok (valued mappings key .string value)) :
    parser.Reads ('"' :: escapeText text)
      (valued mappings key .string (value ++ text)) :=
  .cons started (reads_escapeText value text)

theorem exists_of_quoted {text : Payload} (started : parser.step '"' =
      .ok (valued mappings key .string value))
    (yields : parser.Yields ('"' :: escapeText text ++ '"' :: back) result) :
    ∃ mapping, (between (mappings ++ [mapping])).Yields back result := by
  obtain ⟨next, added, rest⟩ :=
    yields_cons.mp ((reads_quoted started).yields_append.mp yields)
  obtain ⟨_, _, _, rfl⟩ := addMapping_added added
  exact ⟨_, rest⟩

/-- The parser behind the spaces that follow an integer. -/
def waiting (mappings : List Mapping) (key value : Payload) : MapParser :=
  { valueType := .int, key, value, mappings }

/-- An integer has been begun and not been added. -/
def Pending (mappings : List Mapping) (parser : MapParser) : Prop :=
  ∃ key value, key ≠ [] ∧ (parser = waiting mappings key value ∨
    parser = valued mappings key .int value)

/-- Characters that a pending integer takes. -/
def Plain (text : Payload) : Prop :=
  ∀ char ∈ text, MapChar.of char = .other ∨ char = ' ' ∨ char = ':'

theorem plain_spaces (count : Nat) : Plain (spaces count) :=
  fun _ listed => .inr (.inl (List.eq_of_mem_replicate listed))

namespace Pending

theorem step (pending : Pending mappings parser)
    (plain : MapChar.of char = .other ∨ char = ' ' ∨ char = ':') :
    ∃ next, parser.step char = .ok next ∧ Pending mappings next := by
  obtain ⟨key, value, filled, rfl | rfl⟩ := pending
  · rcases plain with other | rfl | rfl
    · refine ⟨valued mappings key .int (value ++ [char]), ?_, key, _, filled,
        .inr rfl⟩
      change scanChar _ char = _
      simp [scanChar, other, waiting, valued, filled, digitType, push,
        addToValue]
    · exact ⟨_, rfl, key, value, filled, .inl rfl⟩
    · exact ⟨_, if_neg filled, key, value, filled, .inl rfl⟩
  · rcases plain with other | rfl | rfl
    · refine ⟨valued mappings key .int (value ++ [char]), ?_, key, _, filled,
        .inr rfl⟩
      change valueChar _ char = _
      simp [valueChar, other, valued, digitType, addToValue]
    · exact ⟨_, rfl, key, value, filled, .inl rfl⟩
    · exact ⟨_, rfl, key, _, filled, .inr rfl⟩

theorem reads {text : Payload} (pending : Pending mappings parser)
    (plain : Plain text) :
    ∃ next, parser.Reads text next ∧ Pending mappings next := by
  induction text generalizing parser with
  | nil => exact ⟨parser, .refl parser, pending⟩
  | cons char text induction =>
    obtain ⟨here, later⟩ := List.forall_mem_cons.mp plain
    obtain ⟨middle, first, kept⟩ := pending.step here
    obtain ⟨next, rest, pending⟩ := induction kept later
    exact ⟨next, .cons first rest, pending⟩

theorem mappings_eq (pending : Pending mappings parser) :
    parser.mappings = mappings := by
  obtain ⟨_, _, _, rfl | rfl⟩ := pending <;> rfl

theorem yields_spaces (pending : Pending mappings parser) (count : Nat) :
    parser.Yields (spaces count) result ↔ mappings = result := by
  obtain ⟨next, reads, kept⟩ := pending.reads (plain_spaces count)
  rw [reads.yields, kept.mappings_eq]

end Pending

theorem yields_ended {after : Nat} :
    Yields { currentState := [], mappings } (spaces after) result ↔
      after = 0 ∧ mappings = result := by
  cases after with
  | zero => exact (Reads.refl _).yields.trans (by simp)
  | succ after =>
    refine iff_of_false (fun yields => ?_) (by simp)
    obtain ⟨_, refused, _⟩ := yields_cons.mp yields
    cases refused

/-- One mapping at most has been added or begun. -/
def Behind (mappings : List Mapping) (parser : MapParser) : Prop :=
  (∃ mapping, parser = between (mappings ++ [mapping])) ∨
    Pending mappings parser

namespace Behind

theorem closing {braces : Bool} {after : Nat} (behind : Behind mappings parser)
    (yields : parser.Yields
      (MapElement.closingBrace braces ++ spaces after) result) :
    result.length ≤ mappings.length + 1 := by
  rcases behind with ⟨mapping, rfl⟩ | pending
  · rw [(MapElement.reads_closingBrace braces _).yields_append,
      (reads_spaces rfl after).yields] at yields
    simp [← yields, between]
  · cases braces with
    | false =>
      cases (pending.yields_spaces after).mp yields
      exact Nat.le_succ _
    | true =>
      obtain ⟨next, taken, rest⟩ := yields_cons.mp yields
      obtain ⟨key, value, _, rfl | rfl⟩ := pending
      · obtain ⟨_, _, _, rfl⟩ := addMapping_added taken
        simp [← (yields_ended.mp rest).2, waiting]
      · obtain ⟨_, _, _, rfl⟩ := addMapping_added taken
        simp [← (reads_spaces rfl after).yields.mp rest, valued]

theorem comma (behind : Behind mappings parser)
    (yields : parser.Yields (',' :: back) result) : ∃ next added,
      (next = between added ∨ Pending added next) ∧
      added.length ≤ mappings.length + 1 ∧ next.Yields back result := by
  obtain ⟨next, taken, rest⟩ := yields_cons.mp yields
  rcases behind with ⟨mapping, rfl⟩ | ⟨key, value, filled, rfl | rfl⟩
  · cases taken
    exact ⟨_, _, .inl rfl, by simp, rest⟩
  · cases taken
    exact ⟨_, mappings, .inr ⟨key, value, filled, .inl rfl⟩, by simp, rest⟩
  · obtain ⟨_, _, _, rfl⟩ := addMapping_added taken
    exact ⟨_, _, .inl rfl, by simp [valued], rest⟩

end Behind

theorem atoi_of_literal {text : Payload} {value : Int}
    (literal : Literal DecimalConstant text value)
    (lower : -2147483648 ≤ value) (upper : value ≤ 2147483647) :
    atoi text = value := by
  have trimmed :=
    literal.dropWhile_isSpace fun _ _ => DecimalConstant.starts
  rw [atoi, strtoll_of_literal (trimmed.symm ▸ literal),
    toInt32_clampLong_eq_iff.mpr ⟨lower, upper⟩]

theorem plain_of_literal {text : Payload} {value : Int}
    (literal : Literal DecimalConstant text value) : Plain text := by
  have digits {digits : Payload} {magnitude : Nat}
      (constant : DecimalConstant digits magnitude) : Plain digits :=
    fun char listed => .inl
      (of_isDigitOf ((decimalConstant_iff.mp constant).2.1 char listed))
  cases literal with
  | plain constant => exact digits constant
  | plus constant | minus constant =>
    exact List.forall_mem_cons.mpr ⟨.inl rfl, digits constant⟩

end MapParser

namespace MapElement

open MapParser

variable {element : MapElement} {mappings others result : List Mapping}
  {parser : MapParser} {back : Payload}

/-- The parser keeps the register and the value of the element. -/
structure Kept (element : MapElement) : Prop where
  register : registerValue element.key = .ok element.mapping.registerValue
  whole : ∀ text, element.mapping.mqttValue = .str text → cString text = text

theorem readable_iff : element.Readable ↔ (∀ char ∈ element.key,
      isDecimal char = true ∨ char = 'x') ∧ element.Kept := by
  constructor
  · rintro ⟨digits, constant, whole⟩
    exact ⟨digits, element.keyText.registerValue_iff.mpr constant,
      fun text same => cString_eq_self_iff.mpr (whole text same)⟩
  · rintro ⟨digits, register, whole⟩
    exact ⟨digits, element.keyText.registerValue_iff.mp register,
      fun text same => cString_eq_self_iff.mp (whole text same)⟩

theorem plain_front : Plain element.front := by
  intro char listed
  simp only [front, spaces, List.mem_append, List.mem_cons,
    List.mem_replicate] at listed
  rcases listed with ⟨_, blank⟩ | inKey | ⟨_, blank⟩ | colon | ⟨_, blank⟩
  · exact .inr (.inl blank)
  · exact .inl (element.keyText.other inKey)
  · exact .inr (.inl blank)
  · exact .inr (.inr colon)
  · exact .inr (.inl blank)

theorem yields_text : (between mappings).Yields (element.text ++ back) result ↔
      (∀ char ∈ element.key, isDecimal char = true ∨ char = 'x') ∧
      (keyed mappings element.key).Yields
        (element.value ++ (spaces element.afterValue ++ back)) result := by
  rw [text, List.append_assoc, List.append_assoc]
  have toValue := @reads_toValue element mappings
  refine ⟨fun yields => ?_,
    fun ⟨digits, yields⟩ => (toValue digits).yields_append.mpr yields⟩
  have digits : ∀ char ∈ element.key, isDecimal char = true ∨ char = 'x' := by
    have text := element.keyText
    rw [front, List.append_assoc,
      (reads_spaces rfl element.beforeKey).yields_append,
      List.append_assoc] at yields
    generalize element.key = key at text yields
    obtain ⟨first, rest, rfl⟩ := List.exists_cons_of_ne_nil text.ne_nil
    have digit : isDecimal first = true := text.head_isDecimal
    obtain ⟨next, taken, inKey⟩ := yields_cons.mp yields
    cases (step_key digit).symm.trans taken
    exact List.forall_mem_cons.mpr ⟨.inl digit, keyChars_of_yields
      (fun char listed => text.other (List.mem_cons_of_mem _ listed)) inKey⟩
  exact ⟨digits, (toValue digits).yields_append.mp yields⟩

theorem step_quote (element : MapElement) (mappings : List Mapping) :
    (keyed mappings element.key).step '"' =
      .ok (valued mappings element.key .string []) :=
  if_neg element.keyText.ne_nil

theorem value_cases (element : MapElement) :
    (element.isInt = true ∧ Plain element.value ∧
      (MqttVariant.int (atoi element.value) = element.mapping.mqttValue) ∧
      ∀ mappings, (keyed mappings element.key).Reads element.value
        (valued mappings element.key .int element.value)) ∨
    element.isInt = false ∧ ∃ text, element.mapping.mqttValue = .str text ∧
      element.value = '"' :: escapeText text ++ ['"'] := by
  have filled := element.keyText.ne_nil
  obtain ⟨⟨registerValue, mqttValue⟩, key, value, beforeKey, afterKey,
    beforeValue, afterValue, keyText, valueText⟩ := element
  cases valueText with
  | int literal lower upper =>
    exact .inl ⟨rfl, plain_of_literal literal,
      congrArg MqttVariant.int (atoi_of_literal literal lower upper),
      fun _ => reads_int filled literal⟩
  | string text => exact .inr ⟨rfl, text, rfl, rfl⟩

theorem pending_value (element : MapElement) (mappings : List Mapping) :
    Pending mappings (valued mappings element.key .int element.value) :=
  ⟨_, _, element.keyText.ne_nil, .inr rfl⟩

theorem behind_of_yields
    (start : parser = between mappings ∨ Pending mappings parser)
    (yields : parser.Yields (element.text ++ back) result) :
    ∃ next, Behind mappings next ∧ next.Yields back result := by
  rcases start with rfl | pending
  · obtain ⟨_, yields⟩ := yields_text.mp yields
    rcases element.value_cases with
      ⟨_, _, _, reads⟩ | ⟨_, text, _, quoted⟩
    · obtain ⟨next, spaced, kept⟩ := (element.pending_value mappings).reads
        (plain_spaces element.afterValue)
      exact ⟨next, .inr kept, spaced.yields_append.mp
        ((reads mappings).yields_append.mp yields)⟩
    · rw [quoted, List.append_assoc] at yields
      obtain ⟨mapping, rest⟩ :=
        exists_of_quoted (element.step_quote mappings) yields
      exact ⟨_, .inl ⟨mapping, rfl⟩, (reads_spaces rfl _).yields_append.mp rest⟩
  · rw [text, List.append_assoc, List.append_assoc] at yields
    obtain ⟨middle, front, kept⟩ := pending.reads element.plain_front
    have yields := front.yields_append.mp yields
    rcases element.value_cases with ⟨_, plain, _⟩ | ⟨_, text, _, quoted⟩
    · obtain ⟨next, reads, kept⟩ := kept.reads
        (List.forall_mem_append.mpr ⟨plain, plain_spaces element.afterValue⟩)
      rw [← List.append_assoc] at yields
      exact ⟨next, .inr kept, reads.yields_append.mp yields⟩
    · rw [quoted, List.append_assoc] at yields
      obtain ⟨key, value, filled, rfl | rfl⟩ := kept
      · have started : (waiting mappings key value).step '"' =
            .ok (valued mappings key .string value) := if_neg filled
        obtain ⟨mapping, rest⟩ := exists_of_quoted started yields
        exact ⟨_, .inl ⟨mapping, rfl⟩,
          (reads_spaces rfl _).yields_append.mp rest⟩
      · obtain ⟨_, refused, _⟩ := yields_cons.mp yields
        cases refused

/-- An integer stays in its value, unless spaces follow it. -/
theorem yields_number (number : element.isInt = true)
    (mappings : List Mapping) : ∃ parser,
      (parser = waiting mappings element.key element.value ∧
          element.afterValue ≠ 0 ∨
        parser = valued mappings element.key .int element.value ∧
          element.afterValue = 0) ∧
      ∀ back result, (keyed mappings element.key).Yields
          (element.value ++ (spaces element.afterValue ++ back)) result ↔
        parser.Yields back result := by
  rcases element.value_cases with ⟨_, _, _, reads⟩ | ⟨word, _⟩
  · cases element.afterValue with
    | zero =>
      exact ⟨_, .inr ⟨rfl, rfl⟩, fun _ _ => (reads mappings).yields_append⟩
    | succ count =>
      have spaced : (valued mappings element.key .int element.value).Reads
          (spaces (count + 1)) (waiting mappings element.key element.value) :=
        .cons rfl (reads_spaces rfl count)
      exact ⟨_, .inl ⟨rfl, Nat.succ_ne_zero _⟩, fun _ _ =>
        (reads mappings).yields_append.trans spaced.yields_append⟩
  · rw [number] at word
    cases word

section Added

variable (new : New mappings element.mapping)

include new

theorem yields_string (word : element.isInt = false) :
    (keyed mappings element.key).Yields (element.value ++ back)
        (mappings ++ element.mapping :: others) ↔ element.Kept ∧
      (between (mappings ++ [element.mapping])).Yields back
        (mappings ++ element.mapping :: others) := by
  rcases element.value_cases with ⟨number, _⟩ | ⟨_, text, isText, quoted⟩
  · rw [word] at number
    cases number
  · rw [quoted, List.append_assoc, (reads_quoted
      (element.step_quote mappings)).yields_append]
    refine (@yields_added (valued mappings element.key .string text) _ _
      element.mapping others rfl element.keyText.ne_nil new).trans
      (and_congr_left' ?_)
    have same : (valued mappings element.key .string text).mqttValue =
      .str (cString text) := rfl
    rw [same, isText]
    refine ⟨fun ⟨read, whole⟩ => ⟨read, fun other isOther => ?_⟩,
      fun ⟨read, whole⟩ => ⟨read, congrArg _ (whole text isText)⟩⟩
    cases isText.symm.trans isOther
    exact MqttVariant.str.inj whole

theorem yields_int (number : element.isInt = true)
    (holds : parser = waiting mappings element.key element.value ∨
      parser = valued mappings element.key .int element.value)
    {char : Char} (adds : parser.step char = parser.addMapping) :
    parser.Yields (char :: back) (mappings ++ element.mapping :: others) ↔
      element.Kept ∧ Yields
        { currentState := parser.currentState.tail
          mappings := mappings ++ [element.mapping] } back
        (mappings ++ element.mapping :: others) := by
  rcases element.value_cases with ⟨_, _, same, _⟩ | ⟨word, _⟩
  · have kept : registerValue element.key = .ok element.mapping.registerValue ∧
        MqttVariant.int (atoi element.value) = element.mapping.mqttValue ↔
          element.Kept := by
      refine ⟨fun ⟨read, _⟩ => ⟨read, fun text isText => ?_⟩,
        fun ⟨read, _⟩ => ⟨read, same⟩⟩
      cases same.trans isText
    rcases holds with rfl | rfl
    · exact (yields_added adds element.keyText.ne_nil new).trans
        (and_congr_left' kept)
    · exact (yields_added adds element.keyText.ne_nil new).trans
        (and_congr_left' kept)
  · rw [number] at word
    cases word

theorem yields_last (braces : Bool) (after : Nat) :
    (keyed mappings element.key).Yields (element.value ++
        (spaces element.afterValue ++ (closingBrace braces ++ spaces after)))
        (mappings ++ [element.mapping]) ↔ element.Kept ∧
      (element.isInt = true →
        braces = true ∧ (element.afterValue = 0 ∨ after = 0)) := by
  cases number : element.isInt with
  | false =>
    rw [yields_string new number]
    refine and_congr_right' (iff_of_true ?_ (by simp))
    exact ((reads_spaces rfl _).append ((reads_closingBrace braces _).append
      (reads_spaces rfl after))).yields.mpr rfl
  | true =>
    obtain ⟨parser, holds, same⟩ := yields_number number mappings
    rw [same]
    cases braces with
    | false =>
      have pending : Pending mappings parser :=
        ⟨_, _, element.keyText.ne_nil, holds.imp And.left And.left⟩
      exact (pending.yields_spaces after).trans (by simp)
    | true =>
      rcases holds with ⟨rfl, spaced⟩ | ⟨rfl, tight⟩
      · refine (yields_int new number (.inl rfl) rfl).trans
          (and_congr_right' (yields_ended.trans ?_))
        simp [spaced]
      · refine (yields_int new number (.inr rfl) rfl).trans
          (and_congr_right' (iff_of_true ?_ fun _ => ⟨rfl, .inl tight⟩))
        exact (reads_spaces rfl after).yields.mpr rfl

theorem yields_inner (lost : ¬(waiting mappings element.key
      element.value).Yields back (mappings ++ element.mapping :: others)) :
    (keyed mappings element.key).Yields (element.value ++
        (spaces element.afterValue ++ ',' :: back))
        (mappings ++ element.mapping :: others) ↔ element.Kept ∧
      (element.isInt = true → element.afterValue = 0) ∧
      (between (mappings ++ [element.mapping])).Yields back
        (mappings ++ element.mapping :: others) := by
  cases number : element.isInt with
  | false =>
    rw [yields_string new number, (reads_spaces rfl _).yields_append]
    refine and_congr_right' (yields_cons.trans ?_)
    simp [between, step, scanChar, MapChar.of]
  | true =>
    obtain ⟨parser, ⟨rfl, spaced⟩ | ⟨rfl, tight⟩, same⟩ :=
      yields_number number mappings
    · rw [same]
      refine iff_of_false (fun yields => ?_) fun kept => spaced (kept.2.1 rfl)
      obtain ⟨_, taken, rest⟩ := yields_cons.mp yields
      cases taken
      exact lost rest
    · rw [same]
      refine (yields_int new number (.inr rfl) rfl).trans
        (and_congr_right' ?_)
      exact ⟨fun rest => ⟨fun _ => tight, rest⟩, And.right⟩

end Added

end MapElement

namespace MapText

open MapParser MapElement

variable {elements : List MapElement} {before result : List Mapping}
  {parser : MapParser} {braces : Bool} {after : Nat}

theorem content_singleton (element : MapElement) :
    content [element] braces after =
      element.text ++ (closingBrace braces ++ spaces after) := by
  simp [content]

theorem content_cons_cons (element second : MapElement) :
    content (element :: second :: elements) braces after =
      element.text ++ (',' :: content (second :: elements) braces after) := by
  simp [content]

/-- Every element adds one mapping at most, and none makes up for a pending
one. -/
theorem length_le_of_yields (element : MapElement)
    (start : parser = between before ∨ Pending before parser)
    (yields : parser.Yields (content (element :: elements) braces after)
      result) :
    result.length ≤ before.length + (element :: elements).length := by
  induction elements generalizing element before parser with
  | nil =>
    rw [content_singleton] at yields
    obtain ⟨next, behind, rest⟩ := behind_of_yields start yields
    exact behind.closing rest
  | cons second elements induction =>
    rw [content_cons_cons] at yields
    obtain ⟨next, behind, rest⟩ := behind_of_yields start yields
    obtain ⟨further, added, start, short, rest⟩ := behind.comma rest
    have bound := induction second start rest
    simp only [List.length_cons] at bound ⊢
    omega

theorem not_mem_of_nodup {α β : Type} {front back : List α} {item : α}
    {field : α → β} (distinct : ((front ++ item :: back).map field).Nodup) :
    field item ∉ front.map field := by
  rw [List.map_append, List.map_cons] at distinct
  intro listed
  exact List.disjoint_of_nodup_append distinct listed List.mem_cons_self

/-- The elements leave behind their mappings exactly if all are accepted. -/
theorem yields_elements
    (registers : ((before ++ elements.map MapElement.mapping).map
      Mapping.registerValue).Nodup)
    (values : ((before ++ elements.map MapElement.mapping).map
      Mapping.mqttValue).Nodup) :
    (between before).Yields (content elements braces after)
        (before ++ elements.map MapElement.mapping) ↔
      (∀ element ∈ elements, element.Readable) ∧
      (∀ element ∈ elements.dropLast, element.isInt = true →
        element.afterValue = 0) ∧
      ∀ element ∈ elements.getLast?, element.isInt = true →
        braces = true ∧ (element.afterValue = 0 ∨ after = 0) := by
  induction elements generalizing before with
  | nil =>
    refine iff_of_true ?_ (by simp)
    exact ((reads_closingBrace braces before).append
      (reads_spaces rfl after)).yields.mpr (List.append_nil before).symm
  | cons element elements induction =>
    have new : New before element.mapping :=
      ⟨not_mem_of_nodup registers, not_mem_of_nodup values⟩
    cases elements with
    | nil =>
      rw [content_singleton, yields_text, List.map_singleton,
        yields_last new braces after]
      simp [readable_iff, and_assoc]
    | cons second elements =>
      have lost : ¬(waiting before element.key element.value).Yields
          (content (second :: elements) braces after)
          (before ++ (element :: second :: elements).map
            MapElement.mapping) := by
        intro yields
        have short := length_le_of_yields second
          (.inr ⟨_, _, element.keyText.ne_nil, .inl rfl⟩) yields
        simp at short
      rw [content_cons_cons, yields_text]
      refine (and_congr_right' (yields_inner new lost)).trans ?_
      have later := @induction (before ++ [element.mapping])
        (by simpa using registers) (by simpa using values)
      rw [List.append_assoc, List.singleton_append] at later
      rw [later]
      simp only [readable_iff, List.forall_mem_cons, List.dropLast_cons_cons,
        List.getLast?_cons_cons]
      tauto

/-- A documented text is read back exactly if it is accepted. -/
theorem documented_map_parsed_iff (map : MapText)
    (registers : (map.mappings.map Mapping.registerValue).Nodup)
    (values : (map.mappings.map Mapping.mqttValue).Nodup) :
    MapParser.parse map.text = .ok map.mappings ↔ map.Accepted := by
  have opened : (between []).Reads (openingBrace map.braces) (between []) := by
    cases map.braces with
    | false => exact .refl _
    | true => exact .cons rfl (.refl _)
  have front : (between []).Reads
      (spaces map.before ++ (openingBrace map.braces ++ spaces map.inside))
      (between []) :=
    .append (reads_spaces rfl _) (.append opened (reads_spaces rfl _))
  rw [parse_eq_ok_iff, text, front.yields_append]
  refine (@yields_elements _ [] _ _ registers values).trans ⟨?_, ?_⟩
  · rintro ⟨readable, inner, last⟩
    exact ⟨readable, inner, last⟩
  · rintro ⟨readable, inner, last⟩
    exact ⟨readable, inner, last⟩

/-- A mapping to an integer without spaces before its value. -/
def intElement (register : UInt16) (key value : Payload) (afterValue : Nat)
    (keyText : KeyText key register.toNat)
    (decimal : value.all (isDigitOf 10) = true) (filled : value ≠ [])
    (upper : digitsValue 10 value ≤ 2147483647) : MapElement :=
  { mapping :=
      { registerValue := register
        mqttValue := .int (digitsValue 10 value) }
    key
    value
    afterValue
    keyText
    valueText := .int (.plain (decimalConstant_iff.mpr
      ⟨filled, List.all_eq_true.mp decimal, rfl⟩)) (by omega) (by omega) }

def elevenElement (afterValue : Nat) : MapElement :=
  intElement 1 ['1'] ['1', '1'] afterValue
    (.decimal (by decide) (List.all_eq_true.mp rfl)) rfl (by decide)
    (by decide)

def secondElement : MapElement :=
  intElement 2 ['2'] ['2', '2'] 0
    (.decimal (by decide) (List.all_eq_true.mp rfl)) rfl (by decide)
    (by decide)

def letterElement : MapElement :=
  intElement 171 ['0', 'x', 'A', 'B'] ['1'] 0
    (.hexadecimal (by decide) (List.all_eq_true.mp rfl)) rfl (by decide)
    (by decide)

def octalElement : MapElement :=
  intElement 10 ['0', '1', '0'] ['1'] 0
    (.decimal (by decide) (List.all_eq_true.mp rfl)) rfl (by decide)
    (by decide)

def nullElement : MapElement :=
  { mapping := { registerValue := 2, mqttValue := .str ['a', '\x00'] }
    key := ['2']
    value := '"' :: escapeText ['a', '\x00'] ++ ['"']
    keyText := .decimal (by decide) (List.all_eq_true.mp rfl)
    valueText := .string _ }

def colonElement : MapElement :=
  { mapping := { registerValue := 2, mqttValue := .str ['a', ':', 'b'] }
    key := ['0', 'x', '2']
    value := '"' :: escapeText ['a', ':', 'b'] ++ ['"']
    beforeKey := 1
    beforeValue := 1
    afterValue := 1
    keyText := .hexadecimal (by decide) (List.all_eq_true.mp rfl)
    valueText := .string _ }

theorem documented_map_parsed_mixed : ∃ map : MapText, map.Accepted ∧
      map.text = "\x7b1:11, 0x2: \"a\\:b\" \x7d".toList ∧
      MapParser.parse map.text =
        .ok [⟨1, .int 11⟩, ⟨2, .str "a:b".toList⟩] := by
  have eleven : (elevenElement 0).Readable :=
    { digits := by simp [elevenElement, intElement, isDecimal, isDigitOf,
        digitValue]
      constant := .decimal (by decide) (List.all_eq_true.mp rfl)
      whole := nofun }
  have colon : colonElement.Readable :=
    { digits := by simp [colonElement, isDecimal, isDigitOf, digitValue]
      constant := .hexadecimal (.inl rfl) (by decide)
        (List.all_eq_true.mp rfl)
      whole := by
        intro text same
        obtain rfl := MqttVariant.str.inj same
        simp }
  let map : MapText := ⟨[elevenElement 0, colonElement], true, 0, 0, 0⟩
  have accepted : map.Accepted :=
    { readable := by
        simp only [map, List.forall_mem_cons]
        exact ⟨eleven, colon, List.forall_mem_nil _⟩
      inner := by decide
      last := by decide }
  have same : map.mappings = [⟨1, .int 11⟩, ⟨2, .str "a:b".toList⟩] := by
    decide +kernel
  refine ⟨map, accepted, by decide +kernel, ?_⟩
  rw [← same]
  exact (documented_map_parsed_iff map (by decide +kernel)
    (by decide +kernel)).mpr accepted

/-- Maps with a key that is refused or taken for an octal number, a string that
is cut, and integers that are lost, joined or closed behind a space. -/
theorem documented_maps_misread :
    (∃ map : MapText, map.text = "\x7b0xAB:1\x7d".toList ∧
      map.mappings = [⟨171, .int 1⟩] ∧
      MapParser.parse map.text = .error (.conv "Invalid char 65 in int key")) ∧
    (∃ map : MapText, map.text = "\x7b010:1\x7d".toList ∧
      map.mappings = [⟨10, .int 1⟩] ∧
      MapParser.parse map.text = .ok [⟨8, .int 1⟩]) ∧
    (∃ map : MapText, map.text = "2:\"a\x00\"".toList ∧
      map.mappings = [⟨2, .str ['a', '\x00']⟩] ∧
      MapParser.parse map.text = .ok [⟨2, .str ['a']⟩]) ∧
    (∃ map : MapText, map.text = "1:11".toList ∧
      map.mappings = [⟨1, .int 11⟩] ∧ MapParser.parse map.text = .ok []) ∧
    (∃ map : MapText, map.text = "\x7b1:11 ,2:22\x7d".toList ∧
      map.mappings = [⟨1, .int 11⟩, ⟨2, .int 22⟩] ∧
      MapParser.parse map.text = .ok [⟨1, .int 112⟩]) ∧
    ∃ map : MapText, map.text = "\x7b1:11 \x7d ".toList ∧
      map.mappings = [⟨1, .int 11⟩] ∧
      MapParser.parse map.text = .error .undefined := by
  refine ⟨⟨⟨[letterElement], true, 0, 0, 0⟩, ?_, ?_, ?_⟩,
    ⟨⟨[octalElement], true, 0, 0, 0⟩, ?_, ?_, ?_⟩,
    ⟨⟨[nullElement], false, 0, 0, 0⟩, ?_, ?_, ?_⟩,
    ⟨⟨[elevenElement 0], false, 0, 0, 0⟩, ?_, ?_, ?_⟩,
    ⟨⟨[elevenElement 1, secondElement], true, 0, 0, 0⟩, ?_, ?_, ?_⟩,
    ⟨⟨[elevenElement 1], true, 0, 0, 1⟩, ?_, ?_, ?_⟩⟩
  all_goals decide +kernel

end MapText

end MqmGateway
