import MqmGateway.MqttObject

/-!
# State payloads

The text published for an object: the value itself for a single unnamed value,
a JSON document otherwise.
-/

namespace MqmGateway

namespace MqttPayload

def hexDigit (digit : Nat) : Char :=
  (Nat.digitChar digit).toUpper

/-- The escapes of rapidjson's `Writer`. -/
def escapeChar (char : Char) : Payload :=
  match char.toNat with
  | 8 => ['\\', 'b']
  | 9 => ['\\', 't']
  | 10 => ['\\', 'n']
  | 12 => ['\\', 'f']
  | 13 => ['\\', 'r']
  | 34 => ['\\', '"']
  | 92 => ['\\', '\\']
  | code =>
    if code < 32 then
      ['\\', 'u', '0', '0', hexDigit (code / 16), hexDigit (code % 16)]
    else
      [char]

def jsonString (text : Payload) : Payload :=
  '"' :: text.flatMap escapeChar ++ ['"']

def jsonArray (elements : List Payload) : Payload :=
  '[' :: List.intercalate [','] elements ++ [']']

def jsonObject (members : List (Payload × Payload)) : Payload :=
  '\x7b' :: List.intercalate [',']
    (members.map fun member => jsonString member.1 ++ ':' :: member.2) ++
      ['\x7d']

def createConvertedValue : MqttValue → Payload
  | .int value | .int64 value => intText value
  | .double _ json _ => json
  | .binary bytes => jsonString bytes

def assembleJson (nodes : List MqttObjectDataNode) (outputAsList : Bool)
    (texts : Except GatewayException (List Payload)) :
    Except GatewayException Payload :=
  match nodes with
  | [] => .error .undefined
  | front :: rest =>
    if !front.isUnnamed then
      texts.map fun values =>
        jsonObject ((nodes.map (·.keyName.toList)).zip values)
    else if outputAsList || !rest.isEmpty && front.isUnnamed then
      texts.map jsonArray
    else
      front.getConvertedValue.map createConvertedValue

mutual

def generateNode : MqttObjectDataNode → Except GatewayException Payload
  | .scalar keyName converter ident register =>
    (MqttObjectDataNode.getConvertedValue
      (.scalar keyName converter ident register)).map createConvertedValue
  | .composite keyName converter nodes outputAsList =>
    if nodes.isEmpty || converter.isSome then
      (MqttObjectDataNode.getConvertedValue
        (.composite keyName converter nodes outputAsList)).map
          createConvertedValue
    else
      assembleJson nodes outputAsList (generateNodes nodes)

def generateNodes :
    List MqttObjectDataNode → Except GatewayException (List Payload)
  | [] => .ok []
  | node :: nodes =>
    match generateNode node, generateNodes nodes with
    | .ok text, .ok texts => .ok (text :: texts)
    | .error exception, _ => .error exception
    | .ok _, .error exception => .error exception

end

def generateJson (nodes : List MqttObjectDataNode) (outputAsList : Bool) :
    Except GatewayException Payload :=
  assembleJson nodes outputAsList (generateNodes nodes)

def generate (object : MqttObject) : Except GatewayException Payload :=
  match object.state.nodes with
  | [] => .error .undefined
  | single :: _ =>
    if !object.state.outputAsList && single.isUnnamed &&
        (single.isScalar || single.converter.isSome) then
      single.getConvertedValue.map MqttValue.getString
    else
      generateJson object.state.nodes object.state.outputAsList

end MqttPayload

end MqmGateway
