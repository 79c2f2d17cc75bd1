import MqmGateway.MqttValue

/-!
# Maps of register values

`std.map` is given its map as a text, which `MapParser` reads character by
character with a stack of states.
-/

namespace MqmGateway

/-- What a register value is mapped to. -/
inductive MqttVariant where
  | int (value : Int)
  | str (text : Payload)
deriving DecidableEq, Repr

structure Mapping where
  registerValue : UInt16
  mqttValue : MqttVariant
deriving DecidableEq, Repr

inductive MapState where
  | scan
  | key
  | escape
  | value
deriving DecidableEq, Repr

inductive MapValueType where
  | none
  | int
  | string
deriving DecidableEq, Repr

/-- A `ConvException` with its text, or the top of an empty stack. -/
inductive MapParserFailure where
  | conv (what : String)
  | undefined
deriving DecidableEq, Repr

/-- The characters that the parser tells apart. -/
inductive MapChar where
  | openBrace
  | closeBrace
  | backslash
  | quote
  | space
  | colon
  | comma
  | other
deriving DecidableEq, Repr

def MapChar.of (char : Char) : MapChar :=
  if char = '\x7b' then .openBrace
  else if char = '\x7d' then .closeBrace
  else if char = '\\' then .backslash
  else if char = '"' then .quote
  else if char = ' ' then .space
  else if char = ':' then .colon
  else if char = ',' then .comma
  else .other

def isDecimal (char : Char) : Bool :=
  isDigitOf 10 char

/-- `std::atoi`: what stands behind the number is ignored. -/
def atoi (text : Payload) : Int :=
  toInt32 (strtoll text).1

/-- `std::to_string` of a character, which is a signed byte. -/
def charCode (char : Char) : String :=
  String.ofList (intText
    (if char.toNat < 128 then char.toNat else char.toNat - 256))

structure MapParser where
  currentState : List MapState := [.scan]
  valueType : MapValueType := .none
  key : Payload := []
  value : Payload := []
  mappings : List Mapping := []
deriving DecidableEq, Repr

namespace MapParser

def push (parser : MapParser) (state : MapState) : MapParser :=
  { parser with currentState := state :: parser.currentState }

def pop (parser : MapParser) : MapParser :=
  { parser with currentState := parser.currentState.tail }

def addToKey (parser : MapParser) (char : Char) : MapParser :=
  { parser with key := parser.key ++ [char] }

def addToValue (parser : MapParser) (char : Char) : MapParser :=
  { parser with value := parser.value ++ [char] }

def registerValue (key : Payload) : Except MapParserFailure UInt16 :=
  match (MqttValue.binary (cString key)).getInt with
  | .error _ =>
    .error (.conv ("Cannot convert " ++ String.ofList (cString key) ++
      " to int"))
  | .ok value =>
    if value < 0 ∨ 65535 < value then
      .error (.conv ("Conversion failed, value " ++
        String.ofList (intText value) ++ " out of range"))
    else
      .ok (UInt16.ofInt value)

/-- The value that has been read; strings are cut at a null byte. -/
def mqttValue (parser : MapParser) : MqttVariant :=
  if parser.valueType = .int then
    .int (atoi parser.value)
  else
    .str (cString parser.value)

/-- The state that is popped may be the last one. -/
def addMapping (parser : MapParser) : Except MapParserFailure MapParser :=
  if parser.key = [] then
    .error (.conv "Internal parser error: register value cannot be empty")
  else do
    let regVal ← registerValue parser.key
    if regVal ∈ parser.mappings.map Mapping.registerValue then
      .error (.conv ("Register value " ++ String.ofList parser.key ++
        " already mapped"))
    else if parser.mqttValue ∈ parser.mappings.map Mapping.mqttValue then
      .error (.conv ("Mqtt value " ++ String.ofList parser.value ++
        " already mapped"))
    else
      .ok
        { currentState := parser.currentState.tail
          valueType := .none
          key := []
          value := []
          mappings := parser.mappings ++
            [{ registerValue := regVal, mqttValue := parser.mqttValue }] }

/-- The escape ends, and the state below it takes the character. -/
def addEscapedChar (parser : MapParser) (char : Char) :
    Except MapParserFailure MapParser :=
  let popped := parser.pop
  let invalid (state : String) : MapParserFailure :=
    .conv ("Internal parser error: invalid state " ++ state ++
      " when adding escaped char " ++ String.ofList [char])
  match popped.currentState with
  | [] => .error .undefined
  | .key :: _ => .ok (popped.addToKey char)
  | .value :: _ => .ok (popped.addToValue char)
  | .scan :: _ => .error (invalid "0")
  | .escape :: _ => .error (invalid "2")

def notInKey (char : String) : MapParserFailure :=
  .conv (char ++ " in map key is not allowed, must be an uint16_value")

/-- A value of unknown type is an integer from its first digit on. -/
def digitType (parser : MapParser) (char : Char) : MapValueType :=
  if parser.valueType = .none ∧ isDecimal char then
    .int
  else
    parser.valueType

def scanChar (parser : MapParser) (char : Char) :
    Except MapParserFailure MapParser :=
  match MapChar.of char with
  | .openBrace | .space | .comma => .ok parser
  | .closeBrace =>
    if parser.valueType = .int then parser.addMapping else .ok parser
  | .backslash => .error (notInKey "\\")
  | .quote =>
    if parser.key = [] then
      .ok (parser.push .key)
    else
      .ok { parser.push .value with valueType := .string }
  | .colon =>
    if parser.key = [] then
      .error (.conv ("Key " ++ toString (parser.mappings.length + 1) ++
        " is empty"))
    else
      .ok parser
  | .other =>
    if parser.key = [] then
      if isDecimal char then
        .ok ((parser.push .key).addToKey char)
      else
        .error (.conv "string key should start with \"")
    else
      .ok { (parser.push .value).addToValue char with
        valueType := parser.digitType char }

def keyChar (parser : MapParser) (char : Char) :
    Except MapParserFailure MapParser :=
  match MapChar.of char with
  | .openBrace => .error (notInKey "\x7b")
  | .closeBrace => .error (notInKey "\x7d")
  | .backslash => .error (notInKey "\\")
  | .quote => .error (notInKey "\"")
  | .space | .colon => .ok parser.pop
  | .comma => .error (notInKey ",")
  | .other =>
    if isDecimal char ∨ char = 'x' then
      .ok (parser.addToKey char)
    else
      .error (.conv ("Invalid char " ++ charCode char ++ " in int key"))

/-- A closing brace in a string is added to the value, but the branch goes on
to the exception. -/
def valueChar (parser : MapParser) (char : Char) :
    Except MapParserFailure MapParser :=
  match MapChar.of char, parser.valueType with
  | .openBrace, _ | .colon, _ => .ok (parser.addToValue char)
  | .closeBrace, .int | .comma, .int | .quote, .string => parser.addMapping
  | .closeBrace, _ =>
    .error (.conv
      "Internal parser error: unknown value type on closing brace")
  | .backslash, _ => .ok (parser.push .escape)
  | .quote, .none => .ok { parser with valueType := .string }
  | .quote, .int => .error (.conv "\" in int value is not allowed")
  | .space, .int => .ok parser.pop
  | .space, .none => .ok parser
  | .space, .string | .comma, _ => .ok (parser.addToValue char)
  | .other, _ =>
    .ok { parser.addToValue char with valueType := parser.digitType char }

/-- One round of the loop of `parse`, sorted by state. -/
def step (parser : MapParser) (char : Char) :
    Except MapParserFailure MapParser :=
  match parser.currentState with
  | [] => .error .undefined
  | .scan :: _ => parser.scanChar char
  | .key :: _ => parser.keyChar char
  | .escape :: _ => parser.addEscapedChar char
  | .value :: _ => parser.valueChar char

/-- The mappings at the end of the text, whatever the parser is in the middle
of. -/
def parse (data : Payload) : Except MapParserFailure (List Mapping) := do
  let parser ← data.foldlM step {}
  .ok parser.mappings

end MapParser

end MqmGateway
