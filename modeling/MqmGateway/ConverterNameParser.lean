import Mathlib.Data.List.DropRight
import MqmGateway.MqttValue

/-!
# Converter calls

The text `plugin.converter(arguments)` of a configuration or a request, and
the arguments in it.  Errors are the texts of the exceptions.
-/

namespace MqmGateway

inductive ConverterArgType where
  | int
  | string
  | double
  | bool
deriving DecidableEq, Repr

/-- A declared argument; the default is kept as a text. -/
structure ConverterArg where
  name : Payload
  argType : ConverterArgType
  defaultValue : Payload
deriving DecidableEq, Repr

abbrev ConverterArgs := List ConverterArg

namespace ConverterArg

def sSwapBytesArgName : Payload := "swap_bytes".toList

def sLowFirstArgName : Payload := "low_first".toList

/-- A flag: the overload for integers stores the number. -/
def flag (name : Payload) (defValue : Bool) : ConverterArg :=
  { name, argType := .bool, defaultValue := intText defValue.toNat }

end ConverterArg

structure ConverterArgValue where
  argName : Payload
  argType : ConverterArgType
  value : Payload
deriving DecidableEq, Repr

/-- `true`, `TRUE` and `1`, or `false`, `FALSE` and `0`. -/
def ConverterArgValue.asBool (value : ConverterArgValue) : Except String Bool :=
  if value.value ∈ ["true".toList, "TRUE".toList, "1".toList] then
    .ok true
  else if value.value ∈ ["false".toList, "FALSE".toList, "0".toList] then
    .ok false
  else
    .error (String.ofList value.argName ++
      " value cannot be converted to bool")

/-- The values of the declared arguments, one for each name. -/
structure ConverterArgValues where
  values : List ConverterArgValue
deriving DecidableEq, Repr

namespace ConverterArgValues

/-- A name that is declared twice keeps its first declaration. -/
def create (args : ConverterArgs) : ConverterArgValues :=
  { values := args.foldl (fun values arg =>
      if arg.name ∈ values.map ConverterArgValue.argName then
        values
      else
        values ++ [{ argName := arg.name
                     argType := arg.argType
                     value := arg.defaultValue }]) [] }

def count (values : ConverterArgValues) : Nat :=
  values.values.length

def getArgValue (values : ConverterArgValues) (name : Payload) :
    Except String ConverterArgValue :=
  match values.values.find? fun value => value.argName = name with
  | none => .error ("no value for " ++ String.ofList name)
  | some value => .ok value

def setArgValue (values : ConverterArgValues) (name value : Payload) :
    Except String ConverterArgValues :=
  if name ∈ values.values.map ConverterArgValue.argName then
    .ok
      { values := values.values.map fun given =>
          if given.argName = name then { given with value } else given }
  else
    .error ("Wrong parameter name " ++ String.ofList name)

end ConverterArgValues

inductive ArgParserState where
  | scan
  | argValue
  | escape
deriving DecidableEq, Repr

/-- `ConverterArgParser` together with the variables of its `parse`.
`pushed` is the stack above the first `scan`, which is never popped, and
`nextArgs` are the arguments from the iterator on. -/
structure ConverterArgParser where
  args : ConverterArgs
  useArgOrder : Bool := true
  pushed : List ArgParserState := []
  argName : Payload := []
  argValue : Payload := []
  nextArgs : ConverterArgs
  processedArgs : List Payload := []
  strDelimiter : Option Char := none
  values : ConverterArgValues
deriving DecidableEq, Repr

namespace ConverterArgParser

def create (args : ConverterArgs) : ConverterArgParser :=
  { args, nextArgs := args, values := .create args }

def top (parser : ConverterArgParser) : ArgParserState :=
  parser.pushed.head?.getD .scan

def push (parser : ConverterArgParser) (state : ArgParserState) :
    ConverterArgParser :=
  { parser with pushed := state :: parser.pushed }

def pop (parser : ConverterArgParser) : ConverterArgParser :=
  { parser with pushed := parser.pushed.tail }

def addChar (parser : ConverterArgParser) (char : Char) : ConverterArgParser :=
  { parser with argValue := parser.argValue ++ [char] }

/-- An error is reported with the name that is known when it is thrown. -/
def settingError (argName : Payload) (what : String) : String :=
  "Error setting argument " ++ String.ofList argName ++ ":" ++ what

/-- The argument is named, or the next one of the declared order. -/
def chooseArg (parser : ConverterArgParser) :
    Except String ConverterArgParser :=
  if parser.argName ≠ [] then
    .ok { parser with useArgOrder := false }
  else if !parser.useArgOrder then
    .error (settingError []
      ("Cannot use positional argument after named argument " ++
        toString parser.args.length))
  else
    match parser.nextArgs with
    | [] =>
      .error (settingError []
        ("Too many arguments provided, need " ++
          toString parser.args.length))
    | next :: rest =>
      .ok { parser with argName := next.name, nextArgs := rest }

def setArgValue (parser : ConverterArgParser) :
    Except String ConverterArgParser := do
  let chosen ← parser.chooseArg
  if chosen.argName ∈ chosen.processedArgs then
    .error (settingError chosen.argName
      (String.ofList chosen.argName ++ " already set"))
  else
    let values ← (chosen.values.setArgValue chosen.argName
      chosen.argValue).mapError (settingError chosen.argName)
    .ok
      { chosen with
        values
        processedArgs := chosen.processedArgs ++ [chosen.argName]
        argName := []
        argValue := [] }

/-- The number of the next argument in a message, which is always one more
than the number of declared names. -/
def nextNumber (parser : ConverterArgParser) : String :=
  toString (parser.values.count + 1)

def scanChar (parser : ConverterArgParser) (char : Char) :
    Except String ConverterArgParser :=
  match char with
  | '\\' => .ok (parser.push .escape)
  | '=' =>
    if parser.argValue = [] then
      .error ("Missing name for argument " ++ parser.nextNumber)
    else if parser.argName ≠ [] then
      .error ("Name for argument " ++ parser.nextNumber ++
        " already set to " ++ String.ofList parser.argName)
    else
      .ok { parser with argName := parser.argValue, argValue := [] }
  | ',' =>
    if parser.argValue = [] then
      .error ("Argument " ++ parser.nextNumber ++ " is empty")
    else
      parser.setArgValue
  | '"' | '\'' =>
    .ok { parser.push .argValue with strDelimiter := some char }
  | ' ' => .ok parser
  | _ => .ok (parser.addChar char)

/-- One round of the loop of `parse`, sorted by state. -/
def step (parser : ConverterArgParser) (char : Char) :
    Except String ConverterArgParser :=
  match parser.top with
  | .scan => parser.scanChar char
  | .argValue =>
    if char = '=' ∧ parser.strDelimiter = none then
      .error ("Name for argument " ++ parser.nextNumber ++
        " cannot be quoted")
    else if parser.strDelimiter = some char then
      .ok { parser.pop with strDelimiter := none }
    else
      .ok (parser.addChar char)
  | .escape => .ok (parser.addChar char).pop

/-- A name without a value at the end is dropped. -/
def finish (parser : ConverterArgParser) : Except String ConverterArgValues :=
  match parser.top with
  | .scan =>
    if parser.argValue = [] then
      .ok parser.values
    else
      parser.setArgValue.map ConverterArgParser.values
  | .argValue =>
    .error ("Argument " ++ toString parser.values.count ++
      " is an unterminated string")
  | .escape =>
    .error ("Argument " ++ toString parser.values.count ++
      " has an invalid escape sequence")

end ConverterArgParser

structure ConverterSpecification where
  plugin : Payload
  converter : Payload
  arguments : Payload
deriving DecidableEq, Repr

def trim (text : Payload) : Payload :=
  (text.rdropWhile isSpace).dropWhile isSpace

namespace ConverterNameParser

/-- The class `[a-z0-9]`. -/
def isNameChar (char : Char) : Bool :=
  'a' ≤ char ∧ char ≤ 'z' ∨ '0' ≤ char ∧ char ≤ '9'

/-- The part of `RE_CONV` behind the names, `\s?\((.*)\)`.  A dot matches
everything but line ends. -/
def matchArguments (text : Payload) : Option Payload :=
  let unspaced :=
    match text with
    | char :: rest => if isSpace char then rest else text
    | [] => []
  match unspaced with
  | '(' :: rest =>
    let arguments := rest.dropLast
    if rest.getLast? = some ')' ∧ '\n' ∉ arguments ∧ '\r' ∉ arguments then
      some arguments
    else
      none
  | _ => none

/-- `RE_CONV`, `([a-z0-9]+)\.([a-z0-9]+)\s?\((.*)\)`, for the whole text.  No
character that may follow a name belongs to it, so both are read as far as
they go. -/
def matchConv (text : Payload) : Option ConverterSpecification :=
  let plugin := text.takeWhile isNameChar
  match text.dropWhile isNameChar with
  | '.' :: rest =>
    let converter := rest.takeWhile isNameChar
    if plugin = [] ∨ converter = [] then
      none
    else
      (matchArguments (rest.dropWhile isNameChar)).map fun arguments =>
        { plugin, converter, arguments }
  | _ => none

/-- The trimmed text is matched up to its first zero byte. -/
def parse (spec : Payload) : Except String ConverterSpecification :=
  match matchConv ((trim spec).takeWhile fun char => char.toNat ≠ 0) with
  | some specification => .ok specification
  | none =>
    .error ("Supply converter spec in form: " ++
      "plugin.converter(value1, param=value2, …)")

def parseArgs (args : ConverterArgs) (arguments : Payload) :
    Except String ConverterArgValues := do
  let parser ← arguments.foldlM ConverterArgParser.step (.create args)
  parser.finish

end ConverterNameParser

end MqmGateway
