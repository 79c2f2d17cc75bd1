import Mathlib.Data.List.Nodup
import MqmGateway.Converters.MapParser
import MqmGateway.Library.Fallible
import MqmGateway.MqttValue.Literals

/-!
# Maps in their documented form

The texts that the documentation allows for a list of mappings, and what
`MapParser` makes of them.  Mappings are added when a quote, a comma or a
brace ends their value; the space behind an integer ends the value without
adding it.
-/

namespace MqmGateway

namespace MapParser

/-- The characters of the text take the parser from one state to another. -/
def Reads (parser : MapParser) (text : Payload) (next : MapParser) : Prop :=
  text.foldlM step parser = .ok next

namespace Reads

variable {parser next last : MapParser}

theorem refl (parser : MapParser) : parser.Reads [] parser :=
  rfl

theorem cons {char : Char} {text : Payload}
    (first : parser.step char = .ok next) (rest : next.Reads text last) :
    parser.Reads (char :: text) last :=
  foldlM_cons_ok first rest

theorem append {front back : Payload} (first : parser.Reads front next)
    (rest : next.Reads back last) : parser.Reads (front ++ back) last :=
  foldlM_append_ok first rest

end Reads

variable {char : Char} {parser : MapParser} {value : Payload}

theorem of_isDigitOf {base : Nat} (digit : isDigitOf base char = true) :
    MapChar.of char = .other := by
  have different (special : Char) (none : digitValue special = none) :
      char ≠ special := by
    rintro rfl
    rw [isDigitOf, none] at digit
    cases digit
  rw [MapChar.of, if_neg (different _ rfl), if_neg (different _ rfl),
    if_neg (different _ rfl), if_neg (different _ rfl),
    if_neg (different _ rfl), if_neg (different _ rfl),
    if_neg (different _ rfl)]

def between (mappings : List Mapping) : MapParser :=
  { mappings }

def keyed (mappings : List Mapping) (key : Payload) : MapParser :=
  { key, mappings }

def spaces (count : Nat) : Payload :=
  List.replicate count ' '

variable {mappings : List Mapping} {key : Payload}

theorem reads_spaces {below : List MapState}
    (scanning : parser.currentState = .scan :: below) (count : Nat) :
    parser.Reads (spaces count) parser := by
  induction count with
  | zero => exact .refl parser
  | succ count induction =>
    refine .cons ?_ induction
    rw [step, scanning]
    rfl

/-- A key that the parser takes character by character. -/
def KeyChars (key : Payload) : Prop :=
  key.head?.any isDecimal = true ∧
    ∀ char ∈ key, isDecimal char = true ∨ char = 'x'

theorem reads_keyChars {rest : Payload}
    (chars : ∀ char ∈ rest, isDecimal char = true ∨ char = 'x') :
    ((keyed mappings key).push .key).Reads rest
      ((keyed mappings (key ++ rest)).push .key) := by
  induction rest generalizing key with
  | nil =>
    rw [List.append_nil]
    exact .refl _
  | cons char rest induction =>
    obtain ⟨here, later⟩ := List.forall_mem_cons.mp chars
    have kind : MapChar.of char = .other := by
      rcases here with digit | rfl
      · exact of_isDigitOf digit
      · rfl
    have taken : ((keyed mappings key).push .key).step char =
        .ok ((keyed mappings (key ++ [char])).push .key) := by
      change keyChar _ char = _
      simp only [keyChar, kind, if_pos here]
      rfl
    have result := Reads.cons taken (induction later)
    rwa [List.append_assoc] at result

theorem step_key (digit : isDecimal char = true) :
    (between mappings).step char =
      .ok ((keyed mappings [char]).push .key) := by
  change scanChar _ char = _
  simp only [scanChar, of_isDigitOf digit, digit]
  rfl

theorem reads_key (chars : KeyChars key) :
    (between mappings).Reads key ((keyed mappings key).push .key) := by
  obtain ⟨first, all⟩ := chars
  cases key with
  | nil => cases first
  | cons char rest =>
    have digit : isDecimal char = true := by simpa using first
    exact .cons (step_key digit) (@reads_keyChars mappings [char] rest
      (List.forall_mem_cons.mp all).2)

theorem reads_colon (given : key ≠ []) (before after : Nat) :
    ((keyed mappings key).push .key).Reads
      (spaces before ++ ':' :: spaces after) (keyed mappings key) := by
  have scanned : (keyed mappings key).step ':' = .ok (keyed mappings key) := by
    change scanChar _ ':' = _
    exact if_neg given
  cases before with
  | zero => exact .cons rfl (reads_spaces rfl after)
  | succ before =>
    exact .cons rfl (.append (reads_spaces rfl before)
      (.cons scanned (reads_spaces rfl after)))

def valued (mappings : List Mapping) (key : Payload)
    (valueType : MapValueType) (value : Payload) : MapParser :=
  { currentState := [.value, .scan], valueType, key, value, mappings }

def specials : Payload :=
  "\x7b\x7d:,\"\\".toList

def escapeChar (char : Char) : Payload :=
  if char ∈ specials then ['\\', char] else [char]

def escapeText (text : Payload) : Payload :=
  text.flatMap escapeChar

theorem of_plain (plain : char ∉ specials)
    (filled : char ≠ ' ') : MapChar.of char = .other := by
  have different {special : Char} (listed : special ∈ specials) :
      char ≠ special := by
    rintro rfl
    exact plain listed
  rw [MapChar.of, if_neg (different (by decide)),
    if_neg (different (by decide)), if_neg (different (by decide)),
    if_neg (different (by decide)), if_neg filled,
    if_neg (different (by decide)), if_neg (different (by decide))]

theorem step_plain (plain : char ∉ specials) :
    (valued mappings key .string value).step char =
      .ok (valued mappings key .string (value ++ [char])) := by
  change valueChar _ char = _
  by_cases blank : char = ' '
  · subst blank
    rfl
  · simp [valueChar, of_plain plain blank, valued, digitType, addToValue]

theorem reads_escapeChar (value : Payload) (char : Char) :
    (valued mappings key .string value).Reads (escapeChar char)
      (valued mappings key .string (value ++ [char])) := by
  rw [escapeChar]
  split
  · exact .cons rfl (.cons rfl (.refl _))
  · rename_i plain
    exact .cons (step_plain plain) (.refl _)

theorem reads_escapeText (value text : Payload) :
    (valued mappings key .string value).Reads (escapeText text)
      (valued mappings key .string (value ++ text)) := by
  induction text generalizing value with
  | nil =>
    rw [List.append_nil]
    exact .refl _
  | cons char text induction =>
    have rest := induction (value ++ [char])
    rw [List.append_assoc] at rest
    exact .append (reads_escapeChar value char) rest

theorem reads_digits {valueType : MapValueType} {digits : Payload}
    (number : valueType ≠ .string) (given : digits ≠ [])
    (decimal : ∀ digit ∈ digits, isDecimal digit = true) :
    (valued mappings key valueType value).Reads digits
      (valued mappings key .int (value ++ digits)) := by
  induction digits generalizing valueType value with
  | nil => exact absurd rfl given
  | cons digit digits induction =>
    obtain ⟨here, later⟩ := List.forall_mem_cons.mp decimal
    have taken : (valued mappings key valueType value).step digit =
        .ok (valued mappings key .int (value ++ [digit])) := by
      change valueChar _ digit = _
      cases valueType with
      | string => exact absurd rfl number
      | _ => simp [valueChar, of_isDigitOf here, valued, digitType, here,
          addToValue]
    by_cases rest : digits = []
    · subst rest
      exact .cons taken (.refl _)
    · have result : (valued mappings key .int (value ++ [digit])).Reads
          digits (valued mappings key .int (value ++ [digit] ++ digits)) :=
        induction (by simp) rest later
      rw [List.append_assoc] at result
      exact .cons taken result

theorem step_first (given : key ≠ []) (other : MapChar.of char = .other) :
    (keyed mappings key).step char = .ok (valued mappings key
      (if isDecimal char then .int else .none) [char]) := by
  change scanChar _ char = _
  simp [scanChar, other, keyed, valued, given, digitType, push, addToValue]

theorem reads_int {text : Payload} {value : Int} (given : key ≠ [])
    (literal : Literal DecimalConstant text value) :
    (keyed mappings key).Reads text (valued mappings key .int text) := by
  have signed {sign : Char} {digits : Payload} {magnitude : Nat}
      (other : MapChar.of sign = .other) (letter : isDecimal sign = false)
      (constant : DecimalConstant digits magnitude) :
      (keyed mappings key).Reads (sign :: digits)
        (valued mappings key .int (sign :: digits)) := by
    obtain ⟨filled, decimal, _⟩ := decimalConstant_iff.mp constant
    refine .cons (step_first given other) ?_
    rw [letter]
    exact reads_digits (by simp) filled decimal
  cases literal with
  | plus constant => exact signed rfl rfl constant
  | minus constant => exact signed rfl rfl constant
  | plain constant =>
    cases constant with
    | @digits first digits decimal =>
      obtain ⟨here, later⟩ := List.forall_mem_cons.mp decimal
      refine .cons (step_first given (of_isDigitOf here)) ?_
      rw [show isDecimal first = true from here]
      by_cases rest : digits = []
      · subst rest
        exact .refl _
      · exact reads_digits (by simp) rest later

/-- A mapping whose register and value are not mapped yet. -/
structure New (mappings : List Mapping) (mapping : Mapping) : Prop where
  register : mapping.registerValue ∉ mappings.map Mapping.registerValue
  value : mapping.mqttValue ∉ mappings.map Mapping.mqttValue

theorem addMapping_ok {mapping : Mapping} (given : parser.key ≠ [])
    (register : registerValue parser.key = .ok mapping.registerValue)
    (value : parser.mqttValue = mapping.mqttValue)
    (new : New parser.mappings mapping) :
    parser.addMapping = .ok
      { currentState := parser.currentState.tail
        mappings := parser.mappings ++ [mapping] } := by
  rw [addMapping, if_neg given, register]
  change (if _ then _ else _) = _
  rw [if_neg new.register, value, if_neg new.value]

end MapParser

/-- A register value, decimal or hexadecimal. -/
inductive KeyText : Payload → Nat → Prop where
  | decimal {digits : Payload} : digits ≠ [] →
      (∀ digit ∈ digits, isDigitOf 10 digit = true) →
      KeyText digits (digitsValue 10 digits)
  | hexadecimal {digits : Payload} : digits ≠ [] →
      (∀ digit ∈ digits, isDigitOf 16 digit = true) →
      KeyText ('0' :: 'x' :: digits) (digitsValue 16 digits)

namespace KeyText

variable {key : Payload} {value : Nat}

theorem head_isDecimal (text : KeyText key value) :
    key.head?.any isDecimal = true := by
  cases text with
  | decimal filled decimal =>
    cases key with
    | nil => exact absurd rfl filled
    | cons digit digits => exact decimal digit List.mem_cons_self
  | hexadecimal => rfl

theorem ne_nil (text : KeyText key value) : key ≠ [] := by
  cases text with
  | decimal filled => exact filled
  | hexadecimal => simp

end KeyText

/-- An integer of 32 bits, or a string in quotes. -/
inductive ValueText : Payload → MqttVariant → Prop where
  | int {text : Payload} {value : Int} :
      Literal DecimalConstant text value →
      -2147483648 ≤ value → value ≤ 2147483647 →
      ValueText text (.int value)
  | string (text : Payload) :
      ValueText ('"' :: MapParser.escapeText text ++ ['"']) (.str text)

/-- One mapping of a text, with the spaces around its key and its value. -/
structure MapElement where
  mapping : Mapping
  key : Payload
  value : Payload
  beforeKey : Nat := 0
  afterKey : Nat := 0
  beforeValue : Nat := 0
  afterValue : Nat := 0
  keyText : KeyText key mapping.registerValue.toNat
  valueText : ValueText value mapping.mqttValue

namespace MapElement

open MapParser

def front (element : MapElement) : Payload :=
  spaces element.beforeKey ++ (element.key ++
    (spaces element.afterKey ++ ':' :: spaces element.beforeValue))

def text (element : MapElement) : Payload :=
  element.front ++ (element.value ++ spaces element.afterValue)

def isInt (element : MapElement) : Bool :=
  match element.mapping.mqttValue with
  | .int _ => true
  | .str _ => false

/-- The parser can read the key and keep the value: a hexadecimal key has no
letters, a decimal one is not taken for an octal one, and a string has no null
byte. -/
structure Readable (element : MapElement) : Prop where
  digits : ∀ char ∈ element.key, isDecimal char = true ∨ char = 'x'
  constant : Constant element.key element.mapping.registerValue.toNat
  whole : ∀ text, element.mapping.mqttValue = .str text →
    ∀ char ∈ text, char.toNat ≠ 0

def openingBrace (braces : Bool) : Payload :=
  if braces then ['\x7b'] else []

def closingBrace (braces : Bool) : Payload :=
  if braces then ['\x7d'] else []

variable {element : MapElement} {mappings : List Mapping}

theorem reads_toValue
    (digits : ∀ char ∈ element.key, isDecimal char = true ∨ char = 'x') :
    (between mappings).Reads element.front (keyed mappings element.key) := by
  have filled := element.keyText.ne_nil
  exact .append (reads_spaces rfl _) (.append
    (reads_key ⟨element.keyText.head_isDecimal, digits⟩)
    (reads_colon filled _ _))

theorem reads_closingBrace (braces : Bool) (mappings : List Mapping) :
    (between mappings).Reads (closingBrace braces) (between mappings) := by
  cases braces with
  | false => exact .refl _
  | true => exact .cons rfl (.refl _)

end MapElement

/-- A list of mappings in its documented form. -/
structure MapText where
  elements : List MapElement
  braces : Bool
  before : Nat
  inside : Nat
  after : Nat

namespace MapText

open MapParser MapElement

/-- The elements of a map and what follows them. -/
def content (elements : List MapElement) (braces : Bool) (after : Nat) :
    Payload :=
  List.intercalate [','] (elements.map MapElement.text) ++
    (closingBrace braces ++ spaces after)

def text (map : MapText) : Payload :=
  (spaces map.before ++ (openingBrace map.braces ++ spaces map.inside)) ++
    content map.elements map.braces map.after

def mappings (map : MapText) : List Mapping :=
  map.elements.map MapElement.mapping

/-- Integers are followed by a comma or a brace at once.  Spaces may come
before the closing brace if nothing follows it. -/
structure Accepted (map : MapText) : Prop where
  readable : ∀ element ∈ map.elements, element.Readable
  inner : ∀ element ∈ map.elements.dropLast, element.isInt = true →
    element.afterValue = 0
  last : ∀ element ∈ map.elements.getLast?, element.isInt = true →
    map.braces = true ∧ (element.afterValue = 0 ∨ map.after = 0)

end MapText

end MqmGateway
