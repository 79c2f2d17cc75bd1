import MqmGateway.MqttClient.Frame

/-!
# Replies to RPC requests

A message from a modbus thread answers the request that waits under its id.
The reply is determined by what the client remembered of the request and by
the message.
-/

namespace MqmGateway

def QueueItem.header : QueueItem → Option ModbusMessageBase
  | .registerValues message => some message.toModbusMessageBase
  | .registerReadFailed message | .registerWriteFailed message => some message
  | .modbusNetworkState _ _ => none

namespace MqttClient

/-- What is replied to a pending request when its result arrives. -/
def replyTo (pending : PendingRpcRequest) (item : QueueItem) : RpcReply :=
  let failure (error : String) : RpcReply :=
    { responseTopic := pending.responseTopic
      payload := []
      correlationData := pending.correlationData
      error := some error }
  match item with
  | .registerValues values =>
    match rpcPayload pending values.registers with
    | .error _ => failure "internal error"
    | .ok payload =>
      { responseTopic := pending.responseTopic
        payload
        correlationData := pending.correlationData
        error := none }
  | _ =>
    failure (if pending.isWrite then "modbus write failed"
      else "modbus read failed")

/-- Reply to the request that waits under the id, if there is one, and forget
it. -/
def answer (commandId : Int) (item : QueueItem) (client : MqttClient) :
    MqttClient :=
  match client.pendingRpc commandId with
  | none => client
  | some pending =>
    { client.erasePending commandId with
      replies := client.replies ++ [(commandId, replyTo pending item)] }

theorem replyTo_address (pending : PendingRpcRequest) (item : QueueItem) :
    (replyTo pending item).responseTopic = pending.responseTopic ∧
      (replyTo pending item).correlationData = pending.correlationData := by
  unfold replyTo
  dsimp only
  split
  · split <;> exact ⟨rfl, rfl⟩
  · exact ⟨rfl, rfl⟩

variable {pending : PendingRpcRequest} {item : QueueItem}

theorem replyTo_error (succeeded : (replyTo pending item).error = none) :
    ∃ values, item = .registerValues values ∧
      rpcPayload pending values.registers =
        .ok (replyTo pending item).payload := by
  unfold replyTo at succeeded ⊢
  cases item with
  | registerValues values =>
    dsimp only at succeeded ⊢
    cases converted : rpcPayload pending values.registers with
    | error exception =>
      rw [converted] at succeeded
      cases succeeded
    | ok payload => exact ⟨values, rfl, converted⟩
  | _ => cases succeeded

theorem replyTo_failure (pending : PendingRpcRequest)
    (failure : ∀ values, item ≠ .registerValues values) :
    (replyTo pending item).error ≠ none ∧ (replyTo pending item).payload = [] := by
  cases item with
  | registerValues values => exact absurd rfl (failure values)
  | _ => exact ⟨Option.some_ne_none _, rfl⟩

/-- The converter of a read makes a text of the values. -/
def converts (pending : PendingRpcRequest) (registers : List UInt16) : Bool :=
  match pending.converter with
  | none => true
  | some converter =>
    pending.isWrite ||
      match converter.toMqtt registers with
      | .error _ => false
      | .ok value => !value.getString.isEmpty

/-- The reply to a success has a payload. -/
theorem rpcPayload_of_converts
    {registers : List UInt16} (converted : converts pending registers = true) :
    ∃ payload, rpcPayload pending registers = .ok payload ∧ payload ≠ [] := by
  have texts : ∀ text ∈ registers.map (fun value : UInt16 =>
      intText value.toNat), text ≠ [] := by
    intro text listed
    obtain ⟨register, _, rfl⟩ := List.mem_map.mp listed
    exact intText_ne_nil _
  unfold converts at converted
  unfold rpcPayload
  generalize registers.map (fun value : UInt16 => intText value.toNat) = raw
    at texts ⊢
  cases chosen : pending.converter with
  | none =>
    refine ⟨_, rfl, ?_⟩
    split
    · exact texts _ List.mem_cons_self
    · exact List.cons_ne_nil _ _
  | some converter =>
    rw [chosen] at converted
    cases written : pending.isWrite with
    | true =>
      refine ⟨_, rfl, ?_⟩
      split
      · exact texts _ List.mem_cons_self
      · exact List.cons_ne_nil _ _
    | false =>
      rw [written] at converted
      dsimp only at converted ⊢
      cases result : converter.toMqtt registers with
      | error exception =>
        rw [result] at converted
        cases converted
      | ok value =>
        rw [result] at converted
        refine ⟨value.getString, rfl, ?_⟩
        intro empty
        simp [empty] at converted

theorem replyTo_values {values : MsgRegisterValues}
    (converted : converts pending values.registers = true) :
    (replyTo pending (.registerValues values)).error = none ∧
      (replyTo pending (.registerValues values)).payload ≠ [] := by
  obtain ⟨payload, same, nonempty⟩ := rpcPayload_of_converts converted
  unfold replyTo
  dsimp only
  rw [same]
  exact ⟨rfl, nonempty⟩

theorem publishRpcResponse_eq (values : MsgRegisterValues)
    (client : MqttClient) :
    (publishRpcResponse values client).1 =
      client.answer values.commandId (.registerValues values) := by
  unfold publishRpcResponse answer
  cases client.pendingRpc values.commandId with
  | none => rfl
  | some pending =>
    unfold replyTo
    dsimp only
    cases rpcPayload pending values.registers <;> rfl

theorem publishRpcError_eq (slaveData : ModbusMessageBase) (client : MqttClient)
    (failed : item = .registerReadFailed slaveData ∨
      item = .registerWriteFailed slaveData) :
    (publishRpcError slaveData client).1 =
      client.answer slaveData.commandId item := by
  unfold publishRpcError answer
  cases client.pendingRpc slaveData.commandId with
  | none => rfl
  | some pending => rcases failed with rfl | rfl <;> rfl

theorem respond_cases (item : QueueItem) (client : MqttClient) :
    (respond item client).1 = client ∨
      ∃ header, item.header = some header ∧ header.isRpc = true ∧
        (respond item client).1 = client.answer header.commandId item := by
  cases item with
  | registerValues message =>
    rw [respond]
    split
    · rename_i asked
      exact .inr ⟨_, rfl, asked.2.1, publishRpcResponse_eq message client⟩
    · exact .inl rfl
  | registerReadFailed message =>
    rw [respond]
    split
    · rename_i asked
      exact .inr ⟨message, rfl, asked,
        publishRpcError_eq message client (.inl rfl)⟩
    · exact .inl rfl
  | registerWriteFailed message =>
    rw [respond]
    split
    · rename_i asked
      exact .inr ⟨message, rfl, asked,
        publishRpcError_eq message client (.inr rfl)⟩
    · exact .inl rfl
  | modbusNetworkState name isUp => exact .inl rfl

theorem respond_eq {client : MqttClient}
    {header : ModbusMessageBase} (online : client.isConnected = true)
    (known : item.header = some header) (asked : header.isRpc = true)
    (free : client.commandObjects header.commandId = none) :
    (respond item client).1 = client.answer header.commandId item := by
  cases item with
  | registerValues message =>
    cases known
    rw [respond, if_pos ⟨online, asked, by rw [free]; rfl⟩]
    exact publishRpcResponse_eq message client
  | registerReadFailed message =>
    cases known
    rw [respond, if_pos asked]
    exact publishRpcError_eq header client (.inl rfl)
  | registerWriteFailed message =>
    cases known
    rw [respond, if_pos asked]
    exact publishRpcError_eq header client (.inr rfl)
  | modbusNetworkState name isUp => cases known

theorem answer_cases (commandId : Int) (item : QueueItem)
    (client : MqttClient) :
    client.pendingRpc commandId = none ∧ client.answer commandId item = client ∨
      ∃ pending, client.pendingRpc commandId = some pending ∧
        client.answer commandId item =
          { client.erasePending commandId with
            replies :=
              client.replies ++ [(commandId, replyTo pending item)] } := by
  unfold answer
  cases waiting : client.pendingRpc commandId with
  | none => exact .inl ⟨rfl, rfl⟩
  | some pending => exact .inr ⟨pending, rfl, rfl⟩

end MqttClient

end MqmGateway
