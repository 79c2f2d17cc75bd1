import MqmGateway.Gateway.Routing

/-!
# An RPC read in place of a poll

The scheduler defers every poll whose registers an RPC read covers.  The
client looks for objects under the first register of the read only.  A poll
that starts at another register is deferred without its objects being told.
-/

namespace MqmGateway

namespace MqttClient

variable (input : ProcessInput)

/-- The objects that the loop comes to: up to the first one that something
goes wrong with. -/
def served (networkName : String) (slaveData : MsgRegisterValues)
    (client : MqttClient) (ids : List ObjectId) : List ObjectId :=
  let quiet (id : ObjectId) : Bool :=
    (valuesFailure input networkName slaveData id (client.store id)).isNone
  ids.takeWhile quiet ++ (ids.dropWhile quiet).take 1

/-- The objects that the loop comes to are updated, and no others. -/
theorem processRegisterValues_served {client : MqttClient}
    (distinct : client.DistinctLists) {networkName : String}
    {slaveData : MsgRegisterValues} {ids : List ObjectId}
    (connected : client.isConnected = true)
    (found : client.affectedByValues networkName slaveData = some ids)
    (id : ObjectId) :
    if id ∈ client.served input networkName slaveData ids then
      UpdatesLeaves (.registerValues networkName slaveData) id (client.store id)
        ((processRegisterValues input networkName slaveData client).1.store id)
    else
      (processRegisterValues input networkName slaveData client).1.store id =
        client.store id := by
  obtain ⟨thrown, ended, _⟩ :=
    processRegisterValues_ends input distinct connected found
  cases ended with
  | finished quiet handled untouched =>
    have passes : ∀ id ∈ ids, (valuesFailure input networkName slaveData id
        (client.store id)).isNone = true := by
      intro id listed
      rw [quiet id listed]
      rfl
    have all : client.served input networkName slaveData ids = ids := by
      rw [served, List.takeWhile_eq_self_iff.mpr passes,
        List.dropWhile_eq_nil_iff.mpr passes]
      exact List.append_nil ids
    rw [all]
    split
    · rename_i listed
      exact handled id listed
    · rename_i absent
      exact untouched id absent
  | @stopped front rest stop exception split quiet throwing handled
      untouched =>
      have passes : ∀ id ∈ front, (valuesFailure input networkName slaveData
          id (client.store id)).isNone = true := by
        intro id listed
        rw [quiet id listed]
        rfl
      have some : client.served input networkName slaveData ids =
          front ++ [stop] := by
        rw [served, split, List.takeWhile_append_of_pos passes,
          List.dropWhile_append_of_pos passes]
        simp [throwing]
      rw [some]
      split
      · rename_i listed
        exact handled id listed
      · rename_i absent
        exact untouched id absent

end MqttClient

/-- The leaves of the object in the range of the poll hold what was read. -/
def RegisterPoll.ShownBy (poll : RegisterPoll) (name : String)
    (contents : Int → UInt16) (object : MqttObject) : Prop :=
  ∀ leaf ∈ object.leaves, leaf.1.networkName = name →
    leaf.1.Within poll.header →
    leaf.2 =
      { readOk := true
        hasValue := true
        value := contents leaf.1.registerNumber }

instance (poll : RegisterPoll) (name : String) (contents : Int → UInt16)
    (object : MqttObject) : Decidable (poll.ShownBy name contents object) :=
  inferInstanceAs (Decidable (∀ _ ∈ _, _))

namespace ModbusScheduler

/-- `notifyRpcRead` gives the poll the times of the completed read. -/
def Defers (registerMap : OrderedMap Int (List RegisterPoll))
    (completed poll : RegisterPoll) : Prop :=
  poll ∈ registerMap.getD completed.slaveId [] ∧
    stoodInFor completed poll = true

instance (registerMap : OrderedMap Int (List RegisterPoll))
    (completed poll : RegisterPoll) :
    Decidable (Defers registerMap completed poll) :=
  inferInstanceAs (Decidable (_ ∧ _))

end ModbusScheduler

namespace MqttClient

/-- The objects that `mObjects` lists for the registers of the poll. -/
def registeredFor (client : MqttClient) (name : String)
    (poll : RegisterPoll) : List ObjectId :=
  (client.findObjects (.ofMessage name poll.header)).getD []

/-- Processing the result of `read` gives the objects of `poll` the values that
were read. -/
def StandsIn (input : ProcessInput) (name : String) (read poll : RegisterPoll)
    (values : List UInt16) (contents : Int → UInt16) (client : MqttClient) :
    Prop :=
  ∀ id ∈ client.registeredFor name poll,
    poll.ShownBy name contents ((processRegisterValues input name
      (read.valuesMessage values) client).1.store id)

/-- The objects of `poll` are also listed under the first register of `read`,
and nothing goes wrong with an object listed before them; others already show
what was read. -/
def SharesObjects (input : ProcessInput) (name : String)
    (read poll : RegisterPoll) (values : List UInt16)
    (contents : Int → UInt16) (client : MqttClient) : Prop :=
  ∀ id ∈ client.registeredFor name poll,
    (client.isConnected = true ∧
      id ∈ client.served input name (read.valuesMessage values)
        (client.registeredFor name read)) ∨
    poll.ShownBy name contents (client.store id)

instance (input : ProcessInput) (name : String) (read poll : RegisterPoll)
    (values : List UInt16) (contents : Int → UInt16) (client : MqttClient) :
    Decidable (client.StandsIn input name read poll values contents) :=
  inferInstanceAs (Decidable (∀ _ ∈ _, _))

instance (input : ProcessInput) (name : String) (read poll : RegisterPoll)
    (values : List UInt16) (contents : Int → UInt16) (client : MqttClient) :
    Decidable (client.SharesObjects input name read poll values contents) :=
  inferInstanceAs (Decidable (∀ _ ∈ _, _))

/-- A read of the registers of the poll, applied to an object. -/
theorem shownBy_of_updatesLeaves {name : String} {read poll : RegisterPoll}
    (covers : ModbusScheduler.stoodInFor read poll = true)
    (short : read.registerCount ≤ 65536) {answer : ModbusAnswer}
    {values : List UInt16}
    (success : ModbusContext.readModbusRegisters read read.registerCount
      answer = .ok values)
    {id : ObjectId} {before after : MqttObject}
    (updates : UpdatesLeaves
      (.registerValues name (read.valuesMessage values)) id before after) :
    poll.ShownBy name answer.contents after := by
  have read_eq : values = (List.range read.registerCount).map
      fun index : Nat => answer.contents (read.register + index) := by
    rw [ModbusContext.readModbusRegisters] at success
    split at success
    · cases success
    · cases success
      rfl
  have length : values.length = read.registerCount := by
    rw [read_eq, List.length_map, List.length_range]
  simp only [ModbusScheduler.stoodInFor, decide_eq_true_eq] at covers
  obtain ⟨sameSlave, sameType, starts, ends⟩ := covers
  intro leaf listed network within
  rw [updates] at listed
  obtain ⟨old, _, rfl⟩ := List.mem_map.mp listed
  obtain ⟨slave, type, first, last⟩ := within
  simp only [RegisterPoll.header, ModbusAddressRange.firstRegister,
    ModbusAddressRange.lastRegister, LeafUpdate.apply] at slave type first last
  have inMessage : old.1.Within
      (read.valuesMessage values).toModbusMessageBase := by
    refine ⟨sameSlave.trans slave, sameType.trans type, ?_, ?_⟩ <;>
      simp only [RegisterPoll.valuesMessage, MsgRegisterValues.create,
        ModbusAddressRange.firstRegister, ModbusAddressRange.lastRegister,
        length] <;> omega
  have told := (old.1.within_iff _).mpr inMessage
  have ownNetwork : old.1.networkName = name := network
  rw [ownNetwork] at told
  have index : ((old.1.registerNumber - read.register) % 65536).toNat =
      (old.1.registerNumber - read.register).toNat := by
    omega
  have value : values.getD (old.1.registerNumber - read.register).toNat 0 =
      answer.contents old.1.registerNumber := by
    have below : (old.1.registerNumber - read.register).toNat <
        read.registerCount := by
      omega
    have number : read.register +
        ((old.1.registerNumber - read.register).toNat : Int) =
          old.1.registerNumber := by
      omega
    rw [read_eq, List.getD_eq_getElem?_getD, List.getElem?_map,
      List.getElem?_range below, Option.map_some, Option.getD_some, number]
  simp only [LeafUpdate.apply, LeafUpdate.registerValues, if_pos told]
  simp only [RegisterPoll.valuesMessage, MsgRegisterValues.create, index,
    value, MqttObjectRegisterValue.setValue,
    MqttObjectRegisterValue.setReadError, Bool.not_false]

/-- An RPC read stands in for a poll that it defers just if the objects of the
poll are found under the first register of the read. -/
theorem standsIn_iff_sharesObjects {libraries : RequestLibraries}
    {config : Configuration} {client : MqttClient}
    (tables : config.client.SameTables client)
    (commandIds : ∀ command ∈ config.commands, 0 < command.commandId)
    {name : String} {message : ModbusMessageBase}
    (offered : Offered libraries config.client name (.read message))
    {owner : ModbusThread} {answer : ModbusAnswer} {values : List UInt16}
    (success : ModbusContext.readModbusRegisters (owner.requestedPoll message)
      (owner.requestedPoll message).registerCount answer = .ok values)
    {registerMap : OrderedMap Int (List RegisterPoll)} {poll : RegisterPoll}
    (deferred : ModbusScheduler.Defers registerMap
      (owner.requestedPoll message) poll)
    (input : ProcessInput) :
    client.StandsIn input name (owner.requestedPoll message) poll values
        answer.contents ↔
      client.SharesObjects input name (owner.requestedPoll message) poll values
        answer.contents := by
  have negative := offered.read_isRpc
  have short : (owner.requestedPoll message).registerCount ≤ 65536 := by
    have bounds := offered.read_count
    have count : (owner.requestedPoll message).registerCount =
        message.count.toNat := rfl
    omega
  have found : client.affectedByValues name
      ((owner.requestedPoll message).valuesMessage values) =
        some (client.registeredFor name (owner.requestedPoll message)) := by
    have unlisted : client.commandObjects message.commandId = none := by
      rw [tables.commandObjects]
      refine Option.bind_eq_none_iff.mpr ?_
      intro command listed
      have positive := commandIds command (List.mem_of_find?_eq_some listed)
      have same : command.commandId = message.commandId := by
        simpa using List.find?_some listed
      omega
    have id : ((owner.requestedPoll message).valuesMessage values).commandId =
        message.commandId := rfl
    have asked : ((owner.requestedPoll message).valuesMessage
        values).hasCommandId = true := by
      simp only [ModbusMessageBase.hasCommandId, id, decide_eq_true_eq]
      omega
    have isRpc : ((owner.requestedPoll message).valuesMessage values).isRpc =
        true := by
      simp only [ModbusMessageBase.isRpc, id, decide_eq_true_eq]
      omega
    simp only [affectedByValues, asked, id, unlisted, isRpc, if_true]
    rfl
  have distinct := Configuration.distinctLists tables
  refine forall₂_congr ?_
  intro id listed
  by_cases connected : client.isConnected = true
  · have told := processRegisterValues_served input distinct connected
      found id
    split at told
    · rename_i comes
      exact ⟨fun _ => .inl ⟨connected, comes⟩, fun _ =>
        shownBy_of_updatesLeaves deferred.2 short success told⟩
    · rename_i misses
      rw [told]
      exact ⟨.inr, fun shares => shares.resolve_left fun both =>
        misses both.2⟩
  · have dropped : processRegisterValues input name
        ((owner.requestedPoll message).valuesMessage values) client =
          (client, none) := by
      rw [processRegisterValues, if_pos (by simp [connected])]
    rw [dropped]
    exact ⟨.inr, fun shares => shares.resolve_left fun both =>
      connected both.1⟩

def gaugePoll : MsgRegisterPoll :=
  { register := 5
    count := 1
    registerType := .holding
    slaveId := 1
    refreshMsec := 1000
    publishMode := .onChange }

def gaugeConfig : Configuration :=
  { networks := [{ name := "net" }]
    polls := fun name => if name = "net" then [gaugePoll] else []
    objects := [registerObject "gauge" none 5]
    commands := []
    rpcMode := .read
    rpcRequestTopic := "gateway/rpc/modbus_request" }

def gaugeClient : MqttClient :=
  { gaugeConfig.client with isConnected := true }

def gaugeThread : ModbusThread :=
  gaugeConfig.thread 0 (fun _ => 0) "net"

def gaugeRegister : RegisterPoll :=
  gaugeThread.specifiedPoll gaugePoll 0

def gaugeMap : OrderedMap Int (List RegisterPoll) :=
  ModbusThread.bySlave
    (gaugeThread.specifiedPolls (gaugeConfig.specification "net"))

def askingFor (register : String) (count : Int) : RequestLibraries :=
  { parseJson := fun _ => .ok (.object
      [("network", .string "net"), ("slave", .integer 1),
        ("register", .string register), ("count", .integer count)])
    createConverter := fun _ => .error "no converter"
    describe := fun _ => "" }

def askedRead (register count : Int) : ModbusMessageBase :=
  { register
    count
    registerType := .holding
    slaveId := 1
    commandId := -1 }

theorem asked_offered {register : String} {count number : Int}
    {request : RpcRequest}
    (parsed : parseRpcRequest (askingFor register count) gaugeConfig.client
      [] = .ok request)
    (network : request.networkName = "net")
    (asks : request.message (-1) = .read (askedRead number count)) :
    Offered (askingFor register count) gaugeConfig.client "net"
      (.read (askedRead number count)) := by
  refine ⟨gaugeConfig.client,
    { topic := "gateway/rpc/modbus_request"
      payload := []
      responseTopic := "reply"
      correlationData := [] },
    gaugeConfig.client.addPending request "reply" [], .refl _, le_refl _, ?_⟩
  rw [← network, ← asks]
  exact .rpc (by decide) parsed

def sevens : ModbusAnswer :=
  { fails := false
    contents := fun _ => 7 }

theorem standsIn_same_start : ModbusScheduler.Defers gaugeMap
        (gaugeThread.requestedPoll (askedRead 5 2)) gaugeRegister ∧
      gaugeClient.StandsIn (refusing none) "net"
        (gaugeThread.requestedPoll (askedRead 5 2)) gaugeRegister [7, 7]
        sevens.contents := by
  have deferred : ModbusScheduler.Defers gaugeMap
      (gaugeThread.requestedPoll (askedRead 5 2)) gaugeRegister := by
    decide +kernel
  have tables : gaugeConfig.client.SameTables gaugeClient :=
    ⟨rfl, rfl, rfl, rfl⟩
  have offered : Offered (askingFor "6" 2) gaugeConfig.client "net"
      (.read (askedRead 5 2)) :=
    asked_offered rfl rfl rfl
  have success : ModbusContext.readModbusRegisters
      (gaugeThread.requestedPoll (askedRead 5 2)) 2 sevens = .ok [7, 7] := rfl
  refine ⟨deferred, (standsIn_iff_sharesObjects tables ?_ offered success
    deferred (refusing none)).mpr ?_⟩
  · intro command listed
    cases listed
  · decide +kernel

/-- Registers 4 to 6 are read instead of the poll, and its object is not
updated. -/
theorem wider_read_misses_object :
    Offered (askingFor "5" 3) gaugeConfig.client "net" (.read (askedRead 4 3)) ∧
      ModbusContext.readModbusRegisters
        (gaugeThread.requestedPoll (askedRead 4 3)) 3 sevens = .ok [7, 7, 7] ∧
      ModbusScheduler.Defers gaugeMap
        (gaugeThread.requestedPoll (askedRead 4 3)) gaugeRegister ∧
      gaugeClient.registeredFor "net" gaugeRegister = [0] ∧
      ¬gaugeClient.StandsIn (refusing none) "net"
        (gaugeThread.requestedPoll (askedRead 4 3)) gaugeRegister [7, 7, 7]
        sevens.contents := by
  refine ⟨asked_offered rfl rfl rfl, rfl, ?_⟩
  decide +kernel

end MqttClient

end MqmGateway
