import MqmGateway.Config

/-!
# Values of the configuration

The conversions of YAML scalars that the loader declares itself: timespans,
lists of names and lists of address ranges.
-/

namespace MqmGateway

/-- The libraries behind the other conversions; `asserts` is false for a build
with `NDEBUG`. -/
structure LoaderLibraries extends ConfigLibraries where
  asserts : Bool
  asBool : String → Except String Bool
  asUnsignedShort : String → Except String Nat
  asChar : String → Except String Char

namespace ConfigTools

/-- A value that is there and converted; the text of a missing one is that of
`readRequiredValue`. -/
def readRequired {α : Type} (decode : String → Except String α)
    (parent : YamlNode) (name : String) : Except String α :=
  (readRequiredValue parent name).bind decode

/-- `std::chrono::milliseconds` of a text `([0-9]+)(ms|s|min)`, up to its
first null byte.  The product is computed in an `int`. -/
def decodeMilliseconds (text : String) : Except String Int :=
  let chars := cString text.toList
  let digits := chars.takeWhile (isDigitOf 10)
  let scale : Option Int :=
    match String.ofList (chars.dropWhile (isDigitOf 10)) with
    | "ms" => some 1
    | "s" => some 1000
    | "min" => some 60000
    | _ => none
  match digits, scale with
  | [], _ | _, none => .error "Invalid time specification"
  | _, some scale => do
      let value ← RegisterConfigName.decimal digits
      .ok (toInt32 (value * scale))

/-- The pieces that `std::getline` takes from a text up to each comma: nothing
follows a comma at the end. -/
def segments (text : List Char) : List (List Char) :=
  let pieces := text.splitOn ','
  if pieces.getLast? = some [] then pieces.dropLast else pieces

/-- `std::vector<std::string>`: names between commas. -/
def decodeNames (text : String) : Except String (List String) :=
  .ok ((segments text.toList).map fun name =>
    String.ofList (RegisterConfigName.trim name))

/-- `std::stoi` in base ten, which must use up the text. -/
def toNumber (text : List Char) : Except String Int :=
  let trimmed := text.dropWhile isSpace
  let negative := trimmed.head? = some '-'
  let unsigned :=
    if negative ∨ trimmed.head? = some '+' then trimmed.tail else trimmed
  let digits := unsigned.takeWhile (isDigitOf 10)
  let rest := unsigned.dropWhile (isDigitOf 10)
  let magnitude := digits.foldl
    (fun value digit => value * 10 + ((digitValue digit).getD 0 : Int)) 0
  let value := if negative then -magnitude else magnitude
  if digits.isEmpty then
    .error ("Conversion to number or number list failed for [" ++
      String.ofList text ++ "]")
  else if value < -2147483648 ∨ 2147483647 < value then
    .error "Conversion to number or number list contains number that is out of range"
  else if !rest.isEmpty then
    .error ("Conversion to number failed, unknown char at " ++
      toString (text.length - rest.length) ++ " position in " ++
      String.ofList text)
  else
    .ok value

/-- `\s*([0-9]+)-([0-9]+)\s*` -/
def matchRange (text : List Char) : Option (List Char × List Char) :=
  let start := text.dropWhile isSpace
  let first := start.takeWhile (isDigitOf 10)
  match start.dropWhile (isDigitOf 10) with
  | '-' :: tail =>
    let second := tail.takeWhile (isDigitOf 10)
    let rest := tail.dropWhile (isDigitOf 10)
    if !first.isEmpty && !second.isEmpty && rest.all isSpace then
      some (first, second)
    else
      none
  | _ => none

/-- One element of a list of addresses; a single number is a range of one.
The expression sees the text up to its first null byte. -/
def decodeAddress (segment : List Char) : Except String (Int × Int) :=
  match matchRange (cString segment) with
  | some (first, second) => do
      let low ← toNumber first
      let high ← toNumber second
      .ok (low, high)
  | none => do
      let address ← toNumber segment
      .ok (address, address)

/-- `std::vector<std::pair<int,int>>` -/
def decodeAddresses (text : String) : Except String (List (Int × Int)) :=
  (segments text.toList).mapM decodeAddress

theorem decimal_bounds {digits : List Char} {value : Int}
    (read : RegisterConfigName.decimal digits = .ok value) :
    0 ≤ value ∧ value ≤ 2147483647 := by
  rw [RegisterConfigName.decimal] at read
  split at read
  · cases read
  · rename_i small
    cases read
    exact ⟨by omega, by omega⟩

theorem decodeMilliseconds_bounds {text : String} {value : Int}
    (decoded : decodeMilliseconds text = .ok value) :
    -2147483648 ≤ value ∧ value ≤ 2147483647 := by
  rw [decodeMilliseconds] at decoded
  split at decoded
  · cases decoded
  · cases decoded
  · obtain ⟨number, _, same⟩ := exists_of_bind decoded
    cases same
    exact toInt32_bounds _

example : decodeMilliseconds "5min" = .ok 300000 := by decide

theorem decodeMilliseconds_ne_invalid {text : String} {refresh : Int}
    (decoded : decodeMilliseconds text = .ok refresh) :
    refresh ≠ MsgRegisterPoll.INVALID_REFRESH := by
  have scaled {digits : List Char} {scale : Int}
      (units : scale = 1 ∨ scale = 1000 ∨ scale = 60000)
      (product : (do
        let value ← RegisterConfigName.decimal digits
        .ok (toInt32 (value * scale))) = Except.ok refresh) :
      refresh ≠ MsgRegisterPoll.INVALID_REFRESH := by
    cases read : RegisterConfigName.decimal digits with
    | error message =>
      rw [read] at product
      cases product
    | ok value =>
      rw [read] at product
      cases product
      have bounds := decimal_bounds read
      rw [toInt32, MsgRegisterPoll.INVALID_REFRESH]
      rcases units with rfl | rfl | rfl <;> omega
  rw [decodeMilliseconds] at decoded
  split at decoded
  · cases decoded
  · cases decoded
  · rename_i scale given _
    refine scaled ?_ decoded
    split at given <;> cases given <;> simp

end ConfigTools

end MqmGateway
