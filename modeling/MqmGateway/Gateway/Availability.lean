import MqmGateway.Gateway.Coherence
import MqmGateway.Gateway.Schedule

/-!
# Recovery from read errors

A leaf is marked with a read error by failed reads and writes and when the
network goes down; only register values clear the mark.  A poll that keeps
quiet about unchanged values therefore leaves it as it is.
-/

namespace MqmGateway

/-- Whether a message leaves the register marked with a read error. -/
def QueueItem.markFor (ident : MqttObjectRegisterIdent) :
    QueueItem → Option Bool
  | .registerValues message =>
    if ident.Within message.toModbusMessageBase then some false else none
  | .registerReadFailed message | .registerWriteFailed message =>
    if ident.Near message then some true else none
  | .modbusNetworkState network isUp =>
    if network = ident.networkName then some (!isUp) else none

theorem observes_polling (ident : MqttObjectRegisterIdent) :
    Observes ident (·.isPolling) fun item => (item.markFor ident).map not := by
  intro item value
  dsimp only
  have failed (message : ModbusMessageBase) :
      (LeafUpdate.registersReadFailed ident.networkName message ident
        value).1.isPolling =
          (((if ident.Near message then some true else none).map
            not).getD value.isPolling) := by
    change (if ident.Near message then (value.setReadError true, true)
      else (value, false)).1.isPolling = _
    split <;> rfl
  cases item with
  | registerValues message =>
    rw [MqttClient.leafUpdate, LeafUpdate.registerValues, QueueItem.markFor]
    by_cases within : ident.Within message.toModbusMessageBase
    · rw [if_pos ((ident.within_iff _).mpr within), if_pos within]
      rfl
    · rw [if_neg (mt (ident.within_iff _).mp within), if_neg within]
      rfl
  | registerReadFailed message => exact failed message
  | registerWriteFailed message => exact failed message
  | modbusNetworkState network isUp =>
    rw [MqttClient.leafUpdate, LeafUpdate.modbusNetworkState,
      QueueItem.markFor]
    by_cases own : network = ident.networkName
    · rw [if_pos own]
      split
      · cases isUp <;> rfl
      · rename_i unchanged
        have same : value.isPolling = isUp :=
          not_not.mp fun different => unchanged ⟨own, different⟩
        rw [same]
        cases isUp <;> rfl
    · rw [if_neg own, if_neg fun both => own both.1]
      rfl

/-- The mark that the messages last left on a leaf of an object. -/
def Configuration.latestMark (config : Configuration) (id : ObjectId)
    (ident : MqttObjectRegisterIdent) (items : List QueueItem) : Option Bool :=
  latest (config.tells id ident (QueueItem.markFor ident)) items

/-- What says whether the poll works: its own reads, and the failures it has
to recover from. -/
def ThreadEvent.health (reg : RegisterPoll) : ThreadEvent → Option Bool
  | .bus (.issued (.poll read) outcome _) =>
    if read = reg then some outcome.isOk else none
  | .bus (.issued (.write cmd) .failed _) =>
    if cmd.slaveId = reg.slaveId ∧
        reg.header.overlaps cmd.failedMessage.toModbusAddressRange then
      some false
    else
      none
  | .networkState false => some false
  | _ => none

namespace ModbusExecutor

/-- Only a failed command leaves a mark, and the message is about the registers
of the command. -/
theorem Execution.markFor_failed {executor next : ModbusExecutor}
    {input : ExecuteInput} {events : List ExecutorEvent}
    {ident : MqttObjectRegisterIdent}
    (execution : Execution executor input next events)
    (lengths : ∀ reg, (executor.polls reg).lastValues.length =
      reg.registerCount)
    (ids : ∀ reg, 0 < executor.commands.pendingCount (.poll reg) →
      reg.isRpc = false → reg.commandId = 0)
    {item : QueueItem} (sent : item ∈ events.filterMap (·.sentItem))
    (marks : item.markFor ident = some true) :
    ∃ command retriesLeft, .issued command .failed retriesLeft ∈ events ∧
      input.answer.fails = true ∧
      (item = .registerReadFailed command.header ∨
        item = .registerWriteFailed command.header) := by
  have unmarked (message : MsgRegisterValues) :
      (QueueItem.registerValues message).markFor ident ≠ some true := by
    rw [QueueItem.markFor]
    split <;> simp
  obtain ⟨command, sent⟩ := ExecutorEvent.exists_sent sent
  cases execution.report sent with
  | read _ _ | written _ _ => exact absurd marks (unmarked _)
  | @readFailed reg commandId retriesLeft fails issued told =>
    refine ⟨.poll reg, retriesLeft, issued, fails, .inl ?_⟩
    have same : commandId = reg.commandId := by
      rcases told with ⟨scheduled, rfl⟩ | ⟨same, _⟩
      · exact (ids reg (execution.pending issued) scheduled).symm
      · exact same
    rw [same, RegisterPoll.failedMessage, lengths]
    rfl
  | @writeFailed cmd retriesLeft fails issued =>
    exact ⟨.write cmd, retriesLeft, issued, fails, .inr rfl⟩

end ModbusExecutor

namespace Configuration

/-- No register of the poll was left marked by the messages. -/
def Unmarked (config : Configuration) (name : String) (items : List QueueItem)
    (reg : RegisterPoll) : Prop :=
  ∀ id < config.objects.length, ∀ leaf ∈ (config.object id).leaves,
    leaf.1.networkName = name → leaf.1.Within reg.header →
    config.latestMark id leaf.1 items ≠ some true

instance (config : Configuration) (name : String) (items : List QueueItem)
    (reg : RegisterPoll) : Decidable (config.Unmarked name items reg) :=
  inferInstanceAs (Decidable (∀ id < _, ∀ leaf ∈ _, _ → _ → _ ≠ _))

theorem scheduled_of_concerned {config : Configuration} {name : String}
    {message : ModbusMessageBase} {id : ObjectId}
    (concerned : id ∈ config.concerned name (.registerReadFailed message)) :
    message.isRpc = false := by
  by_contra rpc
  have none : config.concerned name (.registerReadFailed message) = [] :=
    if_pos (by simpa using rpc)
  rw [none] at concerned
  cases concerned

/-- A failure on the range marks registers of the range only. -/
def MarksOwn (config : Configuration) (name : String)
    (range : ModbusMessageBase) : Prop :=
  ∀ id ∈ config.concerned name (.registerReadFailed range),
    ∀ leaf ∈ (config.object id).leaves, leaf.1.networkName = name →
    leaf.1.Near range → leaf.1.Within range

instance (config : Configuration) (name : String) (range : ModbusMessageBase) :
    Decidable (config.MarksOwn name range) :=
  inferInstanceAs (Decidable (∀ id ∈ _, ∀ leaf ∈ _, _ → _ → _))

end Configuration

namespace Gateway

/-- In a state without waiting messages, no register of a poll that works is
marked with a read error. -/
def Recovered (gateway : Gateway) (name : String)
    (history : List GatewayEvent) : Prop :=
  (gateway.threads name).fromModbus = [] →
  ∀ reg, (gateway.threads name).Scheduled reg →
  latest (·.health reg) (threadHistory name history) = some true →
  ∀ id, ∀ leaf ∈ (gateway.client.store id).leaves,
    leaf.1.networkName = name → leaf.1.Within reg.header →
    leaf.2.isPolling = true

/-- A scheduled read that is not reported finds no register marked, a failed
command marks no register outside its range, and messages are processed
without disturbance. -/
def MarksAgree (config : Configuration) (name : String) (gateway : Gateway)
    (history : List GatewayEvent) : GatewayInput → Prop
  | .thread network (.execute call) =>
    network = name →
    (∀ reg ∈ (gateway.threads name).executor.duePoll call.delayCheck,
      call.answer.fails = false →
      ¬reg.Reports ((gateway.threads name).executor.polls reg)
        (gateway.threads name).executor.initialPoll
        (reg.valuesIn ((gateway.threads name).executor.polls reg)
          call.answer.contents) →
      config.Unmarked name (sentItems name history) reg) ∧
    (call.answer.fails = true →
      ∀ command ∈ (gateway.threads name).executor.due call.delayCheck,
        config.MarksOwn name command.header)
  | .process network call =>
    network = name →
    ∀ item ∈ (gateway.threads name).fromModbus.head?,
      MqttClient.Undisturbed call name item gateway.client
  | _ => True

instance (config : Configuration) (name : String) (gateway : Gateway)
    (history : List GatewayEvent) (input : GatewayInput) :
    Decidable (MarksAgree config name gateway history input) := by
  refine input.casesOn ?_ ?_ ?_ ?_ fun _ input =>
    input.casesOn ?_ ?_ ?_ ?_ ?_ ?_ <;>
  intros <;> dsimp only [MarksAgree] <;> infer_instance

variable {libraries : RequestLibraries} {config : Configuration} {now : Int}
  {created : RegisterPoll → Int} {gateway : Gateway}
  {history : List GatewayEvent} {name : String}

theorem tells_networkUp {β : Type} (config : Configuration) (id : ObjectId)
    (ident : MqttObjectRegisterIdent) (told : QueueItem → Option β)
    (network : String) :
    config.tells id ident told (.modbusNetworkState network true) = none :=
  if_neg (by simp [Configuration.concerned, MqttClient.affected])

variable {reg : RegisterPoll} {id : ObjectId} {leaf : RegisterLeaf}
  {allowed : Gateway → List GatewayEvent → GatewayInput → Prop}

theorem quiet_marks {events : List GatewayEvent}
    (quiet : ∀ event ∈ threadHistory name events, event.isTraffic = false)
    (unrelated : ∀ event ∈ threadHistory name events, event.health reg = none)
    (id : ObjectId) (ident : MqttObjectRegisterIdent) :
    ∀ item ∈ sentItems name events,
      config.tells id ident (QueueItem.markFor ident) item = none := by
  intro item listed
  rw [sentItems_eq] at listed
  obtain ⟨event, happened, sent⟩ := List.mem_filterMap.mp listed
  obtain ⟨isUp, rfl, rfl⟩ := sentItem_of_quiet (quiet event happened) sent
  cases isUp with
  | true => exact tells_networkUp config id ident _ name
  | false => cases unrelated _ happened

theorem read_of_health {event : ThreadEvent}
    (works : event.health reg = some true) :
    ∃ values retriesLeft,
      event = .bus (.issued (.poll reg) (.ok values) retriesLeft) := by
  unfold ThreadEvent.health at works
  split at works
  · rename_i read outcome retriesLeft
    split at works
    · rename_i same
      subst same
      cases outcome with
      | ok values => exact ⟨values, retriesLeft, rfl⟩
      | failed => cases works
      | threw => cases works
    · cases works
  · split at works <;> cases works
  · cases works
  · cases works

variable {retriesLeft : Nat} {call : ExecuteInput} {next : ModbusExecutor}
  {logged : List ExecutorEvent} {returned : Except ModbusException Duration}

/-- A failed command that a poll does not have to recover from leaves no mark on
its registers. -/
theorem unmarked_of_failure (wellFormed : config.WellFormed)
    {thread : ModbusThread} {bus : List ExecutorEvent}
    (schedule : thread.Schedule (config.specification name) bus)
    (scheduled : thread.Scheduled reg)
    {command : RegisterCommand}
    (pending : 0 < thread.executor.commands.pendingCount command)
    (unrelated : (ThreadEvent.bus
      (.issued command .failed retriesLeft)).health reg = none)
    (own : config.MarksOwn name command.header)
    (shown : leaf ∈ (config.object id).leaves)
    (network : leaf.1.networkName = name) (within : leaf.1.Within reg.header)
    (concerned : id ∈ config.concerned name
      (.registerReadFailed command.header)) :
    ¬leaf.1.Near command.header := by
  intro near
  have covered := own id concerned leaf shown network near
  cases command with
  | poll other =>
    have polled : other.isRpc = false :=
      Configuration.scheduled_of_concerned concerned
    have same := schedule.unique wellFormed
      (schedule.pending other polled pending) scheduled covered within
    rw [ThreadEvent.health, if_pos same] at unrelated
    cases unrelated
  | write cmd =>
    obtain ⟨slave, type, first, last⟩ := covered
    obtain ⟨regSlave, regType, regFirst, regLast⟩ := within
    have overlaps : reg.header.overlaps
        cmd.failedMessage.toModbusAddressRange = true :=
      ModbusAddressRange.overlaps_eq_true_iff.mpr
        ⟨regType.trans type.symm, regFirst.trans last, first.trans regLast⟩
    have slaves : cmd.slaveId = reg.slaveId := slave.trans regSlave.symm
    rw [ThreadEvent.health, if_pos ⟨slaves, overlaps⟩] at unrelated
    cases unrelated

/-- Executing a command that says nothing about a poll marks none of its
registers. -/
theorem unmarked_of_execution (wellFormed : config.WellFormed)
    (run : Runs (step libraries) allowed (start config now created) gateway
      history)
    (executed : (gateway.threads name).executor.executeNext call =
      some (next, logged, returned))
    (scheduled : (gateway.threads name).Scheduled reg)
    (unrelated : ∀ event ∈ logged, (ThreadEvent.bus event).health reg = none)
    (own : call.answer.fails = true →
      ∀ command ∈ (gateway.threads name).executor.due call.delayCheck,
        config.MarksOwn name command.header)
    (shown : leaf ∈ (config.object id).leaves)
    (network : leaf.1.networkName = name) (within : leaf.1.Within reg.header) :
    ∀ item ∈ logged.filterMap (·.sentItem),
      config.tells id leaf.1 (QueueItem.markFor leaf.1) item ≠ some true := by
  intro item listed marks
  rw [Configuration.tells] at marks
  split at marks
  · rename_i concerned
    have execution := ModbusExecutor.executeNext_execution executed
    obtain ⟨command, retriesLeft, failed, fails, same⟩ :=
      execution.markFor_failed (run_lastValues_length run name)
        (fun _ pending scheduled =>
          ((run_origins run name).specified pending scheduled).commandId)
        listed marks
    have near : leaf.1.Near command.header := by
      by_contra far
      rcases same with rfl | rfl <;> simp [QueueItem.markFor, far] at marks
    have reaches : id ∈ config.concerned name
        (.registerReadFailed command.header) := by
      rw [network] at concerned
      rcases same with rfl | rfl <;> exact concerned
    exact unmarked_of_failure wellFormed (run_schedule run name) scheduled
      (execution.pending failed) (unrelated _ failed)
      (own fails command (ModbusExecutor.due_of_issued executed failed)) shown
      network within reaches near
  · cases marks

/-- A successful read that is reported clears the marks of its registers. -/
theorem unmarked_of_read (wellFormed : config.WellFormed)
    (run : Runs (step libraries) allowed (start config now created) gateway
      history) (known : name ∈ gateway.client.networks)
    (executed : (gateway.threads name).executor.executeNext call =
      some (next, logged, returned))
    (polled : reg.isRpc = false) {values : List UInt16}
    (issued : .issued (.poll reg) (.ok values) retriesLeft ∈ logged)
    (unreported : ∀ reg ∈
        (gateway.threads name).executor.duePoll call.delayCheck,
      call.answer.fails = false →
      ¬reg.Reports ((gateway.threads name).executor.polls reg)
        (gateway.threads name).executor.initialPoll
        (reg.valuesIn ((gateway.threads name).executor.polls reg)
          call.answer.contents) →
      config.Unmarked name (sentItems name history) reg)
    (shown : leaf ∈ (config.object id).leaves)
    (network : leaf.1.networkName = name) (within : leaf.1.Within reg.header) :
    config.latestMark id leaf.1
      (sentItems name history ++ logged.filterMap (·.sentItem)) ≠
        some true := by
  have execution := ModbusExecutor.executeNext_execution executed
  have specified := (run_origins run name).specified
    (execution.pending issued) polled
  obtain ⟨answers, read⟩ := execution.answered issued
  rcases execution.of_read issued with
    ⟨_, rfl, _, _⟩ | ⟨suppressed, rfl, _, _⟩
  · have length := (execution.values_length issued).trans
      (run_lastValues_length run name reg)
    rw [run_networks run] at known
    have concerned := specified.concerned wellFormed known shown network within
      values
    have cleared : config.tells id leaf.1 (QueueItem.markFor leaf.1)
        (.registerValues (reg.valuesMessage values)) = some false := by
      rw [Configuration.tells, network, if_pos concerned, QueueItem.markFor,
        RegisterPoll.valuesMessage_range length, if_pos within]
    change latest _ (sentItems name history ++
      [.registerValues (reg.valuesMessage values)]) ≠ some true
    rw [latest_append_of_some cleared]
    simp
  · rw [polled, Bool.or_false] at suppressed
    have unmarked := unreported reg
      (ModbusExecutor.duePoll_of_issued executed polled issued) answers
      (read ▸ suppressed)
    rw [List.filterMap_cons_none rfl, List.filterMap_nil, List.append_nil]
    exact unmarked id (Configuration.lt_of_leaf shown) leaf shown network within

theorem scheduled_of_health
    (run : Runs (step libraries) allowed (start config now created) gateway
      history) (polled : reg.isRpc = false)
    (healthy : latest (·.health reg) (threadHistory name history) =
      some true) : (gateway.threads name).Scheduled reg := by
  obtain ⟨event, listed, works⟩ := exists_of_latest healthy
  obtain ⟨values, retriesLeft, rfl⟩ := read_of_health works
  apply (run_schedule run name).issued reg (.ok values) retriesLeft polled
  rw [busHistory_eq]
  exact List.mem_filterMap.mpr ⟨_, listed, rfl⟩

/-- The last message about the mark of a register of a poll that works did not
leave it marked. -/
theorem run_latestMark (wellFormed : config.WellFormed)
    (run : Runs (step libraries) (MarksAgree config name)
      (start config now created) gateway history)
    (shown : leaf ∈ (config.object id).leaves)
    (network : leaf.1.networkName = name)
    (polled : reg.isRpc = false) (within : leaf.1.Within reg.header)
    (healthy : latest (·.health reg) (threadHistory name history) = some true) :
    config.latestMark id leaf.1 (sentItems name history) ≠ some true := by
  induction run with
  | start => cases healthy
  | @step gateway next history events input before permitted stepped
      induction =>
      rw [Configuration.latestMark, sentItems_append]
      rw [threadHistory_append] at healthy
      rcases (step_cases stepped).traffic name with
        ⟨call, executor, logged, returned, rfl, known, executed, happened, _⟩ |
        ⟨quiet, _⟩
      · obtain ⟨unreported, failing⟩ := permitted rfl
        rw [happened] at healthy
        rw [(busHistory_of_bus happened).2]
        rcases ModbusExecutor.latest_issued
          (fun event => (ThreadEvent.bus event).health reg) (fun _ _ => rfl)
          executed with
          unrelated | ⟨command, outcome, retriesLeft, works, issued, health,
            newest⟩
        · have earlier : latest (·.health reg) (threadHistory name history) =
              some true := by
            rwa [latest_append_of_none] at healthy
            intro event listed
            obtain ⟨_, member, rfl⟩ := List.mem_map.mp listed
            exact unrelated _ member
          have scheduled := scheduled_of_health before polled earlier
          intro marked
          rw [latest_append] at marked
          cases told : latest (config.tells id leaf.1
              (QueueItem.markFor leaf.1))
              (logged.filterMap (·.sentItem)) with
          | none =>
            rw [told] at marked
            exact induction earlier marked
          | some mark =>
            rw [told] at marked
            cases marked
            obtain ⟨item, listed, marks⟩ := exists_of_latest told
            exact unmarked_of_execution wellFormed before executed scheduled
              unrelated failing shown network within item listed marks
        · have current : works = true := by
            rw [latest_append_of_latest
              ((latest_translate _ _ _).trans newest)] at healthy
            exact Option.some.inj healthy
          subst current
          obtain ⟨values, _, same⟩ := read_of_health health
          cases same
          exact unmarked_of_read wellFormed before known executed polled issued
            unreported shown network within
      · cases told : latest (·.health reg) (threadHistory name events) with
        | none =>
          have unrelated := latest_eq_none_iff.mp told
          rw [latest_append_of_none
            (quiet_marks quiet unrelated id leaf.1)]
          rw [latest_append_of_none unrelated] at healthy
          exact induction healthy
        | some works =>
          rw [latest_append_of_latest told] at healthy
          cases healthy
          obtain ⟨event, listed, works⟩ := exists_of_latest told
          obtain ⟨values, retriesLeft, rfl⟩ := read_of_health works
          cases quiet _ listed

/-- While no scheduled read keeps quiet about a register that is marked, and no
failure marks registers of other commands, polls that work have recovered. -/
theorem recovered_of_marksAgree (wellFormed : config.WellFormed)
    (run : Runs (step libraries) (MarksAgree config name)
      (start config now created) gateway history) :
    gateway.Recovered name history := by
  intro drained reg scheduled healthy id leaf listed network within
  obtain ⟨ident, value⟩ := leaf
  have specified := (run_origins run name).scheduled reg scheduled
  have polled : reg.isRpc = false := by
    simp [RegisterPoll.isRpc, specified.commandId]
  obtain ⟨⟨_, fresh⟩, shown, same⟩ := run_leaf run listed
  cases same
  have calm : ∀ gateway history call item rest,
      MarksAgree config name gateway history
        (.process ident.networkName call) →
      (gateway.threads ident.networkName).fromModbus = item :: rest →
      MqttClient.Undisturbed call ident.networkName item gateway.client := by
    intro gateway history call item rest permitted queued
    rw [network] at permitted queued ⊢
    exact permitted rfl item (by rw [queued]; rfl)
  have observed := run_observed wellFormed (observes_polling ident) calm run
    listed
  rw [Configuration.tells_map, latest_map, network] at observed
  have processed := run_queue run name
  rw [drained, List.append_nil] at processed
  have unmarked := run_latestMark wellFormed run shown network polled within
    healthy
  rw [processed, Configuration.latestMark] at unmarked
  rw [observed]
  cases told : latest (config.tells id ident (QueueItem.markFor ident))
      (processedItems name history) with
  | none => rfl
  | some mark =>
    rw [told] at unmarked
    cases mark with
    | true => exact absurd rfl unmarked
    | false => rfl

/-- The connection is lost and made again; the read after that returns what
the first one did. -/
def meterReconnect : List GatewayInput :=
  [.thread "net" .disconnect,
    .process "net" quietBroker,
    .thread "net" (.connect 1000),
    .thread "net" (.execute (answering fun _ => 5)),
    .process "net" quietBroker,
    .process "net" quietBroker]

theorem recovered_after_reconnect : ∃ gateway history,
      Runs (step plainLibraries.toRequestLibraries)
        (MarksAgree meterConfig "net") (start meterConfig 0 fun _ => 0)
        gateway history ∧
      .thread "net" (.networkState false) ∈ history ∧
      latest (·.health meterRegister) (threadHistory "net" history) =
        some true ∧
      gateway.Recovered "net" history := by
  obtain ⟨gateway, history, run, lost, works⟩ := Runs.exists_of_replay
    (meterStart ++ meterReconnect)
    (fun _ history =>
      .thread "net" (.networkState false) ∈ history ∧
      latest (·.health meterRegister) (threadHistory "net" history) =
        some true)
    (show (Runs.replay (step plainLibraries.toRequestLibraries)
      (MarksAgree meterConfig "net") _
      (start meterConfig 0 fun _ => 0, [])).any _ = true by decide +kernel)
  exact ⟨gateway, history, run, lost, works,
    recovered_of_marksAgree meterConfig_wellFormed run⟩

def meterSetFails : List GatewayInput :=
  [.message
      { topic := "boiler/set"
        payload := ['7']
        responseTopic := ""
        correlationData := [] },
    .thread "net" (.dispatch true 0),
    .thread "net" (.execute silentDevice),
    .thread "net" (.execute silentDevice),
    .thread "net" (.execute silentDevice),
    .process "net" quietBroker,
    .process "net" quietBroker,
    .process "net" quietBroker]

/-- The failed write marks the register.  The next read finds the value that
the poll remembers and is not reported: the object stays marked. -/
theorem failed_write_leaves_mark : ∃ gateway history,
      Runs (step plainLibraries.toRequestLibraries) (fun _ _ _ => True)
        (start meterConfig 0 fun _ => 0) gateway history ∧
      (gateway.client.store 0).leaves.map (fun leaf => leaf.2.isPolling) =
        [false] ∧
      ¬gateway.Recovered "net" history := by
  obtain ⟨gateway, history, run, drained, polled, works, shown⟩ :=
    Runs.exists_of_replay (meterStart ++ meterSetFails ++ meterReadAgain)
      (fun gateway history =>
        (gateway.threads "net").fromModbus = [] ∧
        (gateway.threads "net").registerMap.entries = [(1, [meterRegister])] ∧
        latest (·.health meterRegister) (threadHistory "net" history) =
          some true ∧
        (gateway.client.store 0).leaves =
          [(.ofMessage "net" meterPoll.toModbusMessageBase,
            { readOk := false, hasValue := true, value := 5 })])
      (show (Runs.replay (step plainLibraries.toRequestLibraries)
        (fun _ _ _ => True) _ (start meterConfig 0 fun _ => 0, [])).any _ =
          true by decide +kernel)
  refine ⟨gateway, history, run, by rw [shown]; rfl, ?_⟩
  intro recovered
  have scheduled : (gateway.threads "net").Scheduled meterRegister := by
    refine ⟨(1, [meterRegister]), ?_, by simp⟩
    rw [polled]
    simp
  have polling := recovered drained meterRegister scheduled works 0
    (.ofMessage "net" meterPoll.toModbusMessageBase,
      { readOk := false, hasValue := true, value := 5 })
    (by rw [shown]; simp) rfl (by decide)
  cases polling

end Gateway

end MqmGateway
