import MqmGateway.Gateway.Leaves
import MqmGateway.Gateway.WriteTypes

/-!
# The values that objects show

Scheduled polls, RPC reads and writes all tell objects the values of
registers, and a poll keeps quiet about values it has reported before.  As long
as no poll keeps quiet about values that the objects were told differently in
the meantime, an object shows what the last read of a register returned.
-/

namespace MqmGateway

/-- The value that a message carries for the register. -/
def QueueItem.valueFor (ident : MqttObjectRegisterIdent) :
    QueueItem → Option UInt16
  | .registerValues message =>
    if ident.Within message.toModbusMessageBase then
      some (message.registers.getD
        ((ident.registerNumber - message.register) % 65536).toNat 0)
    else
      none
  | _ => none

def MqttObjectRegisterValue.known (register : MqttObjectRegisterValue) :
    Option UInt16 :=
  if register.hasValue then some register.value else none

theorem observes_known (ident : MqttObjectRegisterIdent) :
    Observes ident (·.known) fun item => (item.valueFor ident).map some := by
  intro item value
  dsimp only
  cases item with
  | registerValues message =>
    rw [MqttClient.leafUpdate, LeafUpdate.registerValues,
      QueueItem.valueFor]
    by_cases within : ident.Within message.toModbusMessageBase
    · rw [if_pos ((ident.within_iff _).mpr within), if_pos within]
      rfl
    · rw [if_neg (mt (ident.within_iff _).mp within), if_neg within]
      rfl
  | registerReadFailed message | registerWriteFailed message =>
    rw [MqttClient.leafUpdate, LeafUpdate.registersReadFailed]
    split <;> rfl
  | modbusNetworkState name isUp =>
    rw [MqttClient.leafUpdate, LeafUpdate.modbusNetworkState]
    split <;> rfl

namespace Configuration

/-- The value that the messages last told a leaf of an object. -/
def latestValue (config : Configuration) (id : ObjectId)
    (ident : MqttObjectRegisterIdent) (items : List QueueItem) :
    Option UInt16 :=
  latest (config.tells id ident (QueueItem.valueFor ident)) items

/-- What the messages told each object last about the registers of the poll
are these values. -/
def Agrees (config : Configuration) (name : String) (items : List QueueItem)
    (reg : RegisterPoll) (values : List UInt16) : Prop :=
  ∀ id < config.objects.length, ∀ leaf ∈ (config.object id).leaves,
    leaf.1.networkName = name → leaf.1.Within reg.header →
    config.latestValue id leaf.1 items =
      values[(leaf.1.registerNumber - reg.register).toNat]?

instance (config : Configuration) (name : String) (items : List QueueItem)
    (reg : RegisterPoll) (values : List UInt16) :
    Decidable (config.Agrees name items reg values) :=
  inferInstanceAs (Decidable (∀ id < _, ∀ leaf ∈ _, _ → _ → _))

end Configuration

/-- A command that read or wrote the register, with the values. -/
def ExecutorEvent.touch (ident : MqttObjectRegisterIdent) :
    ExecutorEvent → Option (RegisterCommand × List UInt16)
  | .issued command (.ok values) _ =>
    if ident.Within command.header then some (command, values) else none
  | _ => none

theorem ExecutorEvent.touch_of_quiet {event : ExecutorEvent}
    (quiet : event.isTraffic = false) (ident : MqttObjectRegisterIdent) :
    event.touch ident = none := by
  cases event with
  | issued command outcome retriesLeft => cases quiet
  | _ => rfl

theorem RegisterPoll.valuesMessage_range {reg : RegisterPoll}
    {values : List UInt16} (length : values.length = reg.registerCount) :
    (reg.valuesMessage values).toModbusMessageBase = reg.header := by
  rw [RegisterPoll.header, ← length]
  rfl

namespace ModbusExecutor

variable {executor next : ModbusExecutor} {input : ExecuteInput}
  {events : List ExecutorEvent}

theorem touch_cases {returned : Except ModbusException Duration}
    (executed : executor.executeNext input = some (next, events, returned))
    (ident : MqttObjectRegisterIdent) :
    (∀ event ∈ events, event.touch ident = none) ∨
    ∃ command values retriesLeft,
      .issued command (.ok values) retriesLeft ∈ events ∧
      ident.Within command.header ∧
      ∀ front, latest (·.touch ident) (front ++ events) =
        some (command, values) := by
  rcases latest_issued (·.touch ident) (fun _ _ => rfl) executed with
    untouched | ⟨command, outcome, retriesLeft, touch, issued, touched, newest⟩
  · exact .inl untouched
  · right
    cases outcome with
    | ok values =>
      have inside : (if ident.Within command.header then
          some (command, values) else none) = some touch := touched
      split at inside
      · rename_i within
        cases inside
        exact ⟨command, values, retriesLeft, issued, within,
          latest_append_of_latest newest⟩
      · cases inside
    | failed => cases touched
    | threw => cases touched

/-- A command that does not touch a register says nothing about its value. -/
theorem Execution.valueFor_untouched {ident : MqttObjectRegisterIdent}
    (execution : Execution executor input next events)
    (lengths : ∀ reg, (executor.polls reg).lastValues.length =
      reg.registerCount)
    (echoes : ∀ cmd, 0 < executor.commands.pendingCount (.write cmd) →
      ∃ message, cmd.returnMessage = some message ∧
        message.toModbusMessageBase = cmd.failedMessage)
    (untouched : ∀ event ∈ events, event.touch ident = none) :
    ∀ item ∈ events.filterMap (·.sentItem), item.valueFor ident = none := by
  have outside {command : RegisterCommand} {values : List UInt16}
      {retriesLeft : Nat}
      (none : (ExecutorEvent.issued command (.ok values) retriesLeft).touch
        ident = none) : ¬ident.Within command.header := by
    intro within
    rw [ExecutorEvent.touch, if_pos within] at none
    cases none
  intro item listed
  obtain ⟨command, sent⟩ := ExecutorEvent.exists_sent listed
  cases execution.report sent with
  | @read reg values retriesLeft issued length =>
    apply if_neg
    rw [RegisterPoll.valuesMessage_range (length.trans (lengths reg))]
    exact outside (untouched _ issued)
  | @written cmd message retriesLeft issued returned =>
    obtain ⟨echo, same, header⟩ := echoes cmd (execution.pending issued)
    cases returned.symm.trans same
    apply if_neg
    change ¬ident.Within message.toModbusMessageBase
    rw [header]
    exact outside (untouched _ issued)
  | readFailed _ _ _ | writeFailed _ _ => rfl

end ModbusExecutor

namespace Gateway

/-- In a state without waiting messages, a register that was last touched by a
scheduled read is shown with the value of that read. -/
def Coherent (gateway : Gateway) (name : String)
    (history : List GatewayEvent) : Prop :=
  (gateway.threads name).fromModbus = [] →
  ∀ reg, (gateway.threads name).Scheduled reg →
  ∀ ident : MqttObjectRegisterIdent, ident.networkName = name →
  ident.Within reg.header →
  ∀ values, latest (·.touch ident) (busHistory name history) =
    some (.poll reg, values) →
  ∀ id value, (ident, value) ∈ (gateway.client.store id).leaves →
    value.hasValue = true ∧
      values[(ident.registerNumber - reg.register).toNat]? = some value.value

/-- A scheduled read that is not reported finds values that the objects were
told last, and messages are processed without disturbance. -/
def ReadsAgree (config : Configuration) (name : String) (gateway : Gateway)
    (history : List GatewayEvent) : GatewayInput → Prop
  | .thread network (.execute call) =>
    network = name →
    ∀ reg ∈ (gateway.threads name).executor.duePoll call.delayCheck,
      call.answer.fails = false →
      ¬reg.Reports ((gateway.threads name).executor.polls reg)
        (gateway.threads name).executor.initialPoll
        (reg.valuesIn ((gateway.threads name).executor.polls reg)
          call.answer.contents) →
      config.Agrees name (sentItems name history) reg
        ((gateway.threads name).executor.polls reg).lastValues
  | .process network call =>
    network = name →
    ∀ item ∈ (gateway.threads name).fromModbus.head?,
      MqttClient.Undisturbed call name item gateway.client
  | _ => True

instance (config : Configuration) (name : String) (gateway : Gateway)
    (history : List GatewayEvent) (input : GatewayInput) :
    Decidable (ReadsAgree config name gateway history input) := by
  refine input.casesOn ?_ ?_ ?_ ?_ fun _ input =>
    input.casesOn ?_ ?_ ?_ ?_ ?_ ?_ <;>
  intros <;> dsimp only [ReadsAgree] <;> infer_instance

variable {libraries : RequestLibraries} {config : Configuration} {now : Int}
  {created : RegisterPoll → Int} {gateway : Gateway}
  {history : List GatewayEvent} {name : String}

theorem quiet_values {events : List GatewayEvent}
    (quiet : ∀ event ∈ threadHistory name events, event.isTraffic = false)
    (ident : MqttObjectRegisterIdent) :
    (∀ event ∈ busHistory name events, event.touch ident = none) ∧
      ∀ item ∈ sentItems name events, item.valueFor ident = none := by
  constructor
  · intro event listed
    rw [busHistory_eq] at listed
    obtain ⟨happened, member, same⟩ := List.mem_filterMap.mp listed
    cases happened with
    | bus logged =>
      cases same
      exact ExecutorEvent.touch_of_quiet (quiet _ member) ident
    | networkState isUp => cases same
  · intro item listed
    rw [sentItems_eq] at listed
    obtain ⟨happened, member, sent⟩ := List.mem_filterMap.mp listed
    obtain ⟨_, _, rfl⟩ := sentItem_of_quiet (quiet _ member) sent
    rfl

variable {reg : RegisterPoll} {values : List UInt16} {id : ObjectId}
  {leaf : RegisterLeaf}

/-- After a scheduled read the objects were told last what it found: it is
reported, or they knew it. -/
theorem latestValue_of_read (wellFormed : config.WellFormed)
    {allowed : Gateway → List GatewayEvent → GatewayInput → Prop}
    (run : Runs (step libraries) allowed (start config now created) gateway
      history) (known : name ∈ gateway.client.networks) {call : ExecuteInput}
    {next : ModbusExecutor} {logged : List ExecutorEvent}
    {returned : Except ModbusException Duration}
    (executed : (gateway.threads name).executor.executeNext call =
      some (next, logged, returned))
    (scheduled : reg.isRpc = false) {retriesLeft : Nat}
    (issued : .issued (.poll reg) (.ok values) retriesLeft ∈ logged)
    (permitted : ReadsAgree config name gateway history
      (.thread name (.execute call)))
    (shown : leaf ∈ (config.object id).leaves)
    (network : leaf.1.networkName = name) (within : leaf.1.Within reg.header) :
    ∃ value,
      values[(leaf.1.registerNumber - reg.register).toNat]? = some value ∧
      config.latestValue id leaf.1
        (sentItems name history ++ logged.filterMap (·.sentItem)) =
          some value := by
  have execution := ModbusExecutor.executeNext_execution executed
  have specified := (run_origins run name).specified
    (execution.pending issued) scheduled
  obtain ⟨lower, address, offset⟩ := specified.offset wellFormed within
  obtain ⟨answers, same⟩ := execution.answered issued
  have length := (execution.values_length issued).trans
    (run_lastValues_length run name reg)
  have inside : (leaf.1.registerNumber - reg.register).toNat <
      values.length := by omega
  refine ⟨values[(leaf.1.registerNumber - reg.register).toNat],
    List.getElem?_eq_getElem inside, ?_⟩
  rcases execution.of_read issued with
    ⟨_, rfl, _, _⟩ | ⟨suppressed, rfl, _, _⟩
  · have covered : leaf.1.Within reg.header := within
    rw [run_networks run] at known
    have concerned := specified.concerned wellFormed known shown network
      within values
    apply latest_append_of_some
    rw [Configuration.tells, network, if_pos concerned, QueueItem.valueFor,
      RegisterPoll.valuesMessage_range length, if_pos covered]
    change some (values.getD ((leaf.1.registerNumber - reg.register) %
      65536).toNat 0) = _
    rw [Int.emod_eq_of_lt lower address, List.getD_eq_getElem?_getD,
      List.getElem?_eq_getElem inside]
    rfl
  · rw [scheduled, Bool.or_false] at suppressed
    have remembered : values =
        ((gateway.threads name).executor.polls reg).lastValues := by
      by_contra different
      exact suppressed (.inl (Ne.symm different))
    have agrees := permitted rfl reg
      (ModbusExecutor.duePoll_of_issued executed scheduled issued) answers
      (same ▸ suppressed)
    rw [← remembered] at agrees
    rw [List.filterMap_cons_none rfl, List.filterMap_nil, List.append_nil,
      ← List.getElem?_eq_getElem inside]
    exact agrees id (Configuration.lt_of_leaf shown) leaf shown network within

/-- The last message about a register that a scheduled read touched last
carries the value of that read. -/
theorem run_latestValue (wellFormed : config.WellFormed)
    (run : Runs (step libraries) (ReadsAgree config name)
      (start config now created) gateway history)
    (shown : leaf ∈ (config.object id).leaves)
    (network : leaf.1.networkName = name)
    (scheduled : reg.isRpc = false)
    (last : latest (·.touch leaf.1) (busHistory name history) =
      some (.poll reg, values)) :
    ∃ value,
      values[(leaf.1.registerNumber - reg.register).toNat]? = some value ∧
      config.latestValue id leaf.1 (sentItems name history) = some value := by
  induction run with
  | start => cases last
  | @step gateway next history events input before permitted stepped
      induction =>
      have unchanged
          (untouched : ∀ event ∈ busHistory name events,
            event.touch leaf.1 = none)
          (silent : ∀ item ∈ sentItems name events,
            item.valueFor leaf.1 = none) :
          ∃ value, values[(leaf.1.registerNumber - reg.register).toNat]? =
              some value ∧
            config.latestValue id leaf.1
              (sentItems name (history ++ events)) = some value := by
        rw [busHistory_append, latest_append_of_none untouched] at last
        rw [Configuration.latestValue, sentItems_append,
          latest_append_of_none fun item listed =>
            config.tells_of_none id leaf.1 (silent item listed)]
        exact induction last
      rcases (step_cases stepped).traffic name with
        ⟨call, executor, logged, returned, rfl, known, executed, happened, _⟩ |
        ⟨quiet, _⟩
      · have origins := run_origins before name
        have lengths := run_lastValues_length before name
        have execution := ModbusExecutor.executeNext_execution executed
        obtain ⟨bus, sent⟩ := busHistory_of_bus happened
        rcases ModbusExecutor.touch_cases executed leaf.1 with
          untouched | ⟨command, read, retriesLeft, issued, within, newest⟩
        · apply unchanged
          · rwa [bus]
          · rw [sent]
            exact execution.valueFor_untouched lengths
              (fun _ pending => (origins.commands _ pending).headed) untouched
        · rw [busHistory_append, bus, newest] at last
          cases last
          rw [sentItems_append, sent]
          exact latestValue_of_read wellFormed before known executed scheduled
            issued permitted shown network within
      · obtain ⟨untouched, silent⟩ := quiet_values quiet leaf.1
        exact unchanged untouched silent

/-- While every scheduled read that is not reported finds what the objects
were told last, objects show what was read. -/
theorem coherent_of_readsAgree (wellFormed : config.WellFormed)
    (run : Runs (step libraries) (ReadsAgree config name)
      (start config now created) gateway history) :
    gateway.Coherent name history := by
  intro drained reg scheduled ident network within values last id value listed
  have specified := (run_origins run name).scheduled reg scheduled
  obtain ⟨⟨_, fresh⟩, shown, same⟩ := run_leaf run listed
  cases same
  have shows : value.known =
      config.latestValue id ident (processedItems name history) := by
    have calm : ∀ gateway history call item rest,
        ReadsAgree config name gateway history
          (.process ident.networkName call) →
        (gateway.threads ident.networkName).fromModbus = item :: rest →
        MqttClient.Undisturbed call ident.networkName item gateway.client := by
      intro gateway history call item rest permitted queued
      rw [network] at permitted queued ⊢
      exact permitted rfl item (by rw [queued]; rfl)
    have observed := run_observed wellFormed (observes_known ident) calm run
      listed
    rw [Configuration.tells_map, latest_map, network] at observed
    rw [observed, Configuration.latestValue]
    cases latest (config.tells id ident (QueueItem.valueFor ident))
      (processedItems name history) <;> rfl
  have processed := run_queue run name
  rw [drained, List.append_nil] at processed
  obtain ⟨shownValue, read, told⟩ := run_latestValue wellFormed run shown
    network (by simp [RegisterPoll.isRpc, specified.commandId]) last
  rw [processed, ← shows, MqttObjectRegisterValue.known] at told
  split at told
  · rename_i valued
    cases told
    exact ⟨valued, read⟩
  · cases told

def meterPoll : MsgRegisterPoll :=
  { register := 0
    count := 1
    registerType := .holding
    slaveId := 1
    refreshMsec := 1000
    publishMode := .onChange }

def meterConfig : Configuration :=
  { networks := [{ name := "net" }]
    polls := fun name => if name = "net" then [meterPoll] else []
    objects := [MqttClient.registerObject "meter" none 0]
    commands := [boilerCommand .holding]
    rpcMode := .disabled
    rpcRequestTopic := "" }

theorem meterConfig_wellFormed : meterConfig.WellFormed := by
  refine ⟨?_, ?_, ?_, ?_⟩
  · intro network listed poll member
    cases List.mem_singleton.mp listed
    cases member
  · intro name poll listed
    have declared : poll ∈ if name = "net" then [meterPoll] else [] := listed
    split at declared
    · cases List.mem_singleton.mp declared
      decide
    · cases declared
  · intro command listed
    cases List.mem_singleton.mp listed
    decide
  · intro object listed leaf member
    cases List.mem_singleton.mp listed
    cases List.mem_singleton.mp member
    rfl

def meterRegister : RegisterPoll :=
  (meterConfig.thread 0 (fun _ => 0) "net").specifiedPoll meterPoll 0

def meterStart : List GatewayInput :=
  [.brokerConnected quietBroker,
    .thread "net" (.dispatch true 0),
    .thread "net" (.dispatch true 0),
    .thread "net" (.connect 0),
    .thread "net" (.execute (answering fun _ => 5)),
    .process "net" quietBroker,
    .process "net" quietBroker]

def meterSet : List GatewayInput :=
  [.message
      { topic := "boiler/set"
        payload := ['7']
        responseTopic := ""
        correlationData := [] },
    .thread "net" (.dispatch true 0),
    .thread "net" (.execute (answering fun _ => 5)),
    .process "net" quietBroker]

def meterReadAgain : List GatewayInput :=
  [.thread "net" (.poll 2000000000 2000000000),
    .thread "net" (.execute (answering fun _ => 5))]

theorem coherent_unreported_read : ∃ gateway history,
      Runs (step plainLibraries.toRequestLibraries)
        (ReadsAgree meterConfig "net") (start meterConfig 0 fun _ => 0)
        gateway history ∧
      (busHistory "net" history).count
        (.issued (.poll meterRegister) (.ok [5]) 1) = 2 ∧
      (sentItems "net" history).length = 2 ∧
      gateway.Coherent "net" history := by
  obtain ⟨gateway, history, run, reads, sent⟩ := Runs.exists_of_replay
    (meterStart ++ meterReadAgain)
    (fun _ history =>
      (busHistory "net" history).count
        (.issued (.poll meterRegister) (.ok [5]) 1) = 2 ∧
      (sentItems "net" history).length = 2)
    (show (Runs.replay (step plainLibraries.toRequestLibraries)
      (ReadsAgree meterConfig "net") _
      (start meterConfig 0 fun _ => 0, [])).any _ = true by decide +kernel)
  exact ⟨gateway, history, run, reads, sent,
    coherent_of_readsAgree meterConfig_wellFormed run⟩

/-- The register is set to 7 and the device returns to 5.  The poll remembers
5 and does not report it: the object goes on showing 7. -/
theorem write_hides_read : ∃ gateway history,
      Runs (step plainLibraries.toRequestLibraries) (fun _ _ _ => True)
        (start meterConfig 0 fun _ => 0) gateway history ∧
      (gateway.client.store 0).leaves.map (fun leaf => leaf.2.value) = [7] ∧
      ¬gateway.Coherent "net" history := by
  obtain ⟨gateway, history, run, drained, polled, touched, shown⟩ :=
    Runs.exists_of_replay (meterStart ++ meterSet ++ meterReadAgain)
      (fun gateway history =>
        (gateway.threads "net").fromModbus = [] ∧
        (gateway.threads "net").registerMap.entries = [(1, [meterRegister])] ∧
        latest (·.touch (.ofMessage "net" meterPoll.toModbusMessageBase))
          (busHistory "net" history) = some (.poll meterRegister, [5]) ∧
        (gateway.client.store 0).leaves =
          [(.ofMessage "net" meterPoll.toModbusMessageBase,
            { readOk := true, hasValue := true, value := 7 })])
      (show (Runs.replay (step plainLibraries.toRequestLibraries)
        (fun _ _ _ => True) _ (start meterConfig 0 fun _ => 0, [])).any _ =
          true by decide +kernel)
  refine ⟨gateway, history, run, by rw [shown]; rfl, ?_⟩
  intro coherent
  have scheduled : (gateway.threads "net").Scheduled meterRegister := by
    refine ⟨(1, [meterRegister]), ?_, by simp⟩
    rw [polled]
    simp
  have agrees := (coherent drained meterRegister scheduled _ rfl (by decide)
    [5] touched 0 { readOk := true, hasValue := true, value := 7 }
    (by rw [shown]; simp)).2
  revert agrees
  decide

end Gateway

end MqmGateway
