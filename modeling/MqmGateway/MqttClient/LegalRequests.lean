import MqmGateway.ModbusContext
import MqmGateway.MqttClient.Requests

/-!
# RPC requests as modbus requests

A request goes out as a read, as a write of raw values or as a write through a
converter.  The range of the count is checked for the first and the last of
these only, and the register number is taken as it was parsed.
-/

namespace MqmGateway

namespace ModbusRequest

/-- A range of registers that exists, of a length that fits into one modbus
message. -/
def Readable (message : ModbusMessageBase) : Prop :=
  1 ≤ message.count ∧
    message.count ≤ MqttClient.rpcMaxCount message.registerType ∧
    0 ≤ message.register ∧ message.register + message.count ≤ 65536

def Legal : ModbusRequest → Prop
  | .read message => Readable message
  | .write message =>
    Readable message.toModbusMessageBase ∧
      message.registers.length = message.count ∧
      (message.registerType = .coil ∨ message.registerType = .holding)
  | .mqttNetworkState _ | .pollSpecification _ => False

end ModbusRequest

namespace MqttClient

variable {libraries : RequestLibraries} {client : MqttClient}
  {payload : Payload} {request : RpcRequest}

/-- How many registers a document is about, and what it writes to them. -/
inductive Asks (libraries : RequestLibraries) (document : JsonValue)
    (type : RegisterType) :
    Option DataConverter → Int → Option (List UInt16) → Prop where
  | read {converter : Option DataConverter} {count : Int} :
      document.member? "value" = none →
      rpcCount document type = .ok count →
      Asks libraries document type converter count none
  | register {value : JsonValue} {register : UInt16} :
      document.member? "value" = some value →
      value.asUInt16? = some register →
      Asks libraries document type none 1 (some [register])
  | registers {elements : List JsonValue} {values : List UInt16} :
      document.member? "value" = some (.array elements) →
      elements.mapM JsonValue.asUInt16? = some values →
      Asks libraries document type none elements.length (some values)
  | converted {converter : DataConverter} {value : JsonValue} {count : Int}
      {values : List UInt16} :
      document.member? "value" = some value →
      rpcCount document type = .ok count →
      rpcConvertedValues libraries converter value count = .ok values →
      Asks libraries document type (some converter) count (some values)

/-- The members of a document that a client accepts as this request. -/
structure Accepted (libraries : RequestLibraries) (client : MqttClient)
    (document : JsonValue) (request : RpcRequest) : Prop where
  network : (document.member? "network").bind JsonValue.asString? =
    some request.networkName
  known : request.networkName ∈ client.networks
  slave : (document.member? "slave").bind JsonValue.asInt? =
    some request.slaveId
  register : ∃ text,
    (document.member? "register").bind JsonValue.asString? = some text ∧
      registerNumberFromString text = .ok request.registerNumber
  type : rpcRegisterType document = .ok request.registerType
  converter : rpcConverter libraries document = .ok request.converter
  writes : ∀ value, document.member? "value" = some value →
    client.rpcMode = .readWrite ∧ request.registerType.writable = true
  asks : Asks libraries document request.registerType request.converter
    request.count request.writeValues

variable {document value : JsonValue} {type : RegisterType}
  {values : List UInt16}

theorem requiredMember_eq_ok_iff {α : Type}
    {name : String} {read : JsonValue → Option α} {value : α} :
    requiredMember document name read = .ok value ↔
      (document.member? name).bind read = some value := by
  rw [requiredMember]
  cases (document.member? name).bind read <;> simp

theorem not_readOnly_iff :
    ¬(type = .bit ∨ type = .input) ↔ type.writable = true := by
  cases type <;> simp [RegisterType.writable]

theorem length_of_mapM {α β : Type} {read : α → Option β} {items : List α}
    {values : List β} (all : items.mapM read = some values) :
    values.length = items.length := by
  induction items generalizing values with
  | nil =>
    cases all
    rfl
  | cons item items induction =>
    rw [List.mapM_cons] at all
    obtain ⟨value, _, all⟩ := Option.bind_eq_some_iff.mp all
    obtain ⟨rest, others, same⟩ := Option.bind_eq_some_iff.mp all
    cases same
    rw [List.length_cons, List.length_cons, induction others]

theorem asks_of_rpcRawValues (given : document.member? "value" = some value)
    (read : rpcRawValues value = .ok values) :
    Asks libraries document type none values.length (some values) := by
  cases value with
  | array elements =>
    rw [rpcRawValues] at read
    split at read
    · rename_i all
      cases read
      rw [length_of_mapM all]
      exact .registers given all
    · cases read
  | string _ | integer _ | double _ | object _ | other =>
    simp only [rpcRawValues] at read
    split at read
    · rename_i register
      cases read
      exact .register given register
    · cases read

theorem rpcRawValues_of_register {register : UInt16}
    (single : value.asUInt16? = some register) :
    rpcRawValues value = .ok [register] := by
  cases value with
  | integer _ => simp only [rpcRawValues, single]
  | array _ | string _ | double _ | object _ | other => cases single

/-- The checks accept exactly the documents with these members. -/
theorem parseRpcRequest_eq_ok_iff :
    parseRpcRequest libraries client payload = .ok request ↔
      ∃ document, libraries.parseJson payload = .ok document ∧
        Accepted libraries client document request := by
  constructor
  · intro parsed
    unfold parseRpcRequest at parsed
    simp only [bind, Except.bind] at parsed
    repeat' split at parsed
    all_goals cases parsed
    all_goals
      refine ⟨_, by assumption,
        requiredMember_eq_ok_iff.mp (by assumption),
        not_not.mp (by assumption),
        requiredMember_eq_ok_iff.mp (by assumption),
        ⟨_, requiredMember_eq_ok_iff.mp (by assumption), by assumption⟩,
        by assumption, by assumption, ?_, ?_⟩
    · rename_i absent _ _ _
      intro value given
      rw [absent] at given
      cases given
    · exact .read (by assumption) (by assumption)
    · exact fun _ _ => ⟨not_not.mp (by assumption),
        not_readOnly_iff.mp (by assumption)⟩
    · exact asks_of_rpcRawValues (by assumption) (by assumption)
    · exact fun _ _ => ⟨not_not.mp (by assumption),
        not_readOnly_iff.mp (by assumption)⟩
    · exact .converted (by assumption) (by assumption) (by assumption)
  · intro ⟨document, json, accepted⟩
    cases document with
    | object members =>
      obtain ⟨text, given, number⟩ := accepted.register
      have known := accepted.known
      have writes {value : JsonValue}
          (given : JsonValue.member? (.object members) "value" =
            some value) :
          client.rpcMode = .readWrite ∧
            ¬(request.registerType = .bit ∨
              request.registerType = .input) :=
        (accepted.writes value given).imp id not_readOnly_iff.mpr
      have asks := accepted.asks
      rw [parseRpcRequest, json]
      simp only [bind, Except.bind,
        requiredMember_eq_ok_iff.mpr accepted.network,
        requiredMember_eq_ok_iff.mpr accepted.slave,
        requiredMember_eq_ok_iff.mpr given, number, accepted.type,
        accepted.converter]
      rw [if_neg (not_not.mpr known)]
      obtain ⟨name, slave, number, type, count, converter, values⟩ := request
      dsimp only at *
      cases asks with
      | read absent counted => simp only [absent, counted]
      | register given single =>
        obtain ⟨enabled, writable⟩ := writes given
        simp only [given, enabled, writable,
          rpcRawValues_of_register single]
        rfl
      | registers given all =>
        obtain ⟨enabled, writable⟩ := writes given
        simp only [given, enabled, writable, rpcRawValues, all,
          length_of_mapM all]
        rfl
      | converted given counted converted =>
        obtain ⟨enabled, writable⟩ := writes given
        simp only [given, enabled, writable, counted, converted]
        rfl
    | string _ | integer _ | double _ | array _ | other =>
      cases accepted.network

theorem rpcCount_bounds
    {count : Int} (counted : rpcCount document type = .ok count) :
    1 ≤ count ∧ count ≤ rpcMaxCount type := by
  rw [rpcCount] at counted
  split at counted
  · cases counted
    cases type <;> decide
  · split at counted
    · cases counted
    · split at counted
      · cases counted
      · rename_i inRange
        cases counted
        omega

theorem rpcConvertedValues_length {converter : DataConverter} {count : Int}
    (converted : rpcConvertedValues libraries converter value count =
      .ok values) : (values.length : Int) = count := by
  simp only [rpcConvertedValues, bind, Except.bind] at converted
  split at converted
  · cases converted
  · split at converted
    · cases converted
    · split at converted
      · cases converted
      · rename_i same
        cases converted
        exact not_not.mp same

theorem parseRpcRequest_writes
    (parsed : parseRpcRequest libraries client payload = .ok request)
    (written : request.writeValues = some values) :
    (values.length : Int) = request.count ∧
      request.registerType.writable = true := by
  obtain ⟨document, _, accepted⟩ := parseRpcRequest_eq_ok_iff.mp parsed
  have asks := accepted.asks
  rw [written] at asks
  generalize request.count = count at asks
  generalize request.converter = converter at asks
  cases asks with
  | register given _ => exact ⟨rfl, (accepted.writes _ given).2⟩
  | registers given all =>
    rw [length_of_mapM all]
    exact ⟨rfl, (accepted.writes _ given).2⟩
  | converted given _ converted =>
    exact ⟨rpcConvertedValues_length converted,
      (accepted.writes _ given).2⟩

/-- The registers of a request exist, and an array that it writes has a legal
length. -/
def InBounds (document : JsonValue) (request : RpcRequest) : Prop :=
  0 ≤ request.registerNumber ∧
    request.registerNumber + request.count ≤ 65536 ∧
    ∀ elements, document.member? "value" = some (.array elements) →
      1 ≤ elements.length ∧
        (elements.length : Int) ≤ rpcMaxCount request.registerType

theorem count_bounds_iff
    (accepted : Accepted libraries client document request) :
    1 ≤ request.count ∧ request.count ≤ rpcMaxCount request.registerType ↔
      ∀ elements, document.member? "value" = some (.array elements) →
        1 ≤ elements.length ∧
          (elements.length : Int) ≤ rpcMaxCount request.registerType := by
  have asks := accepted.asks
  generalize request.count = count at asks
  generalize request.converter = converter at asks
  generalize request.writeValues = values at asks
  cases asks with
  | read absent counted =>
    refine iff_of_true (rpcCount_bounds counted) ?_
    intro elements given
    rw [absent] at given
    cases given
  | @register value _ given single =>
    refine iff_of_true ?_ ?_
    · cases request.registerType <;> decide
    · intro elements array
      cases given.symm.trans array
      cases single
  | @registers elements _ given all =>
    constructor
    · intro bounds others array
      cases given.symm.trans array
      exact ⟨by exact_mod_cast bounds.1, bounds.2⟩
    · intro fits
      obtain ⟨atLeast, atMost⟩ := fits elements given
      exact ⟨by exact_mod_cast atLeast, atMost⟩
  | converted given counted converted =>
    refine iff_of_true (rpcCount_bounds counted) ?_
    intro elements array
    cases given.symm.trans array
    cases converted

theorem message_legal_iff
    (parsed : parseRpcRequest libraries client payload = .ok request)
    (accepted : Accepted libraries client document request) (id : Int) :
    (request.message id).Legal ↔ InBounds document request := by
  rw [InBounds, ← count_bounds_iff accepted, RpcRequest.message]
  split
  · rename_i values written
    obtain ⟨length, writable⟩ := parseRpcRequest_writes parsed written
    have legalType : request.registerType = .coil ∨
        request.registerType = .holding := by
      cases type : request.registerType <;>
        simp [type, RegisterType.writable] at writable ⊢
    rw [← length]
    constructor
    · intro ⟨⟨atLeast, atMost, placed, ends⟩, _⟩
      exact ⟨placed, ends, atLeast, atMost⟩
    · intro ⟨placed, ends, atLeast, atMost⟩
      exact ⟨⟨atLeast, atMost, placed, ends⟩, rfl, legalType⟩
  · constructor
    · intro ⟨atLeast, atMost, placed, ends⟩
      exact ⟨placed, ends, atLeast, atMost⟩
    · intro ⟨placed, ends, atLeast, atMost⟩
      exact ⟨atLeast, atMost, placed, ends⟩

/-- What goes out is legal; what is refused is answered with an error and
leaves everything else as it was. -/
def LegalOrRefused (libraries : RequestLibraries) (client : MqttClient)
    (payload : Payload) (responseTopic : String) (correlationData : Payload) :
    Prop :=
  (∀ network message,
    (handleRpcRequest libraries client payload responseTopic
      correlationData).2 = some (network, message) → message.Legal) ∧
  ((handleRpcRequest libraries client payload responseTopic
      correlationData).2 = none →
    ∃ errorMsg, (handleRpcRequest libraries client payload responseTopic
        correlationData).1 =
      { client with
        replies := client.replies ++ [(0,
          { responseTopic
            payload := []
            correlationData
            error := some errorMsg })] })

theorem rpc_requests_legal_iff (libraries : RequestLibraries)
    (client : MqttClient) (payload : Payload) (responseTopic : String)
    (correlationData : Payload) :
    LegalOrRefused libraries client payload responseTopic correlationData ↔
      responseTopic ≠ "" ∧
        ∀ document request, libraries.parseJson payload = .ok document →
          Accepted libraries client document request →
          InBounds document request := by
  rw [LegalOrRefused, handleRpcRequest]
  by_cases unanswered : responseTopic = ""
  · rw [if_pos unanswered]
    refine iff_of_false ?_ (fun condition => condition.1 unanswered)
    rintro ⟨_, refused⟩
    obtain ⟨_, same⟩ := refused rfl
    have lengths := congrArg (fun client => client.replies.length) same
    simp at lengths
  rw [if_neg unanswered]
  simp only [ne_eq, unanswered, not_false_eq_true, true_and]
  cases parsed : parseRpcRequest libraries client payload with
  | error errorMsg =>
    refine iff_of_true ⟨?_, fun _ => ⟨errorMsg, rfl⟩⟩ ?_
    · intro _ _ sent
      cases sent
    · intro document request json accepted
      rw [parseRpcRequest_eq_ok_iff.mpr ⟨document, json, accepted⟩] at parsed
      cases parsed
  | ok request =>
    obtain ⟨document, json, accepted⟩ := parseRpcRequest_eq_ok_iff.mp parsed
    have legal := message_legal_iff parsed accepted client.takeRpcId
    constructor
    · intro ⟨sent, _⟩ second again same given
      cases json.symm.trans same
      rw [parseRpcRequest_eq_ok_iff.mpr ⟨_, json, given⟩] at parsed
      cases parsed
      exact legal.mp (sent _ _ rfl)
    · intro bounds
      refine ⟨?_, fun refused => ?_⟩
      · intro network message sent
        cases sent
        exact legal.mpr (bounds document request json accepted)
      · cases refused

def documentLibraries (document : JsonValue) : RequestLibraries :=
  { parseJson := fun _ => .ok document
    createConverter := fun _ => .error "no converter"
    describe := fun _ => "" }

def rpcClient : MqttClient :=
  { isConnected := true
    networks := ["net"]
    objects := []
    commandObjects := fun _ => none
    store := fun _ => .create ""
    commands := []
    rpcMode := .readWrite
    rpcRequestTopic := "rpc"
    nextRpcId := 0
    pendingRpc := fun _ => none
    published := []
    replies := [] }

def writeDocument (register : String) (value : JsonValue) : JsonValue :=
  .object [("network", .string "net"), ("slave", .integer 1),
    ("register", .string register), ("value", value)]

/-- Nothing is written to a register that does not exist. -/
theorem rpc_request_illegal :
    (handleRpcRequest (documentLibraries (writeDocument "-5" (.array [])))
        rpcClient [] "answer" []).2 =
      some ("net", .write (.create 1 .holding (-6) [] (-1) .auto)) ∧
    ¬ModbusRequest.Legal (.write (.create 1 .holding (-6) [] (-1) .auto)) := by
  refine ⟨by decide +kernel, ?_⟩
  rintro ⟨⟨atLeast, _⟩, _⟩
  exact absurd atLeast (by decide)

end MqttClient

end MqmGateway
