import MqmGateway.Executor.Pending
import MqmGateway.Library.Latest

/-!
# What executing a command sends

Only `executeNext` reads or writes registers, changes what a poll remembers
and sends messages.  The lemmas here say once what it can do.
-/

namespace MqmGateway

/-- Events of the bus and of the queue to the main thread. -/
def ExecutorEvent.isTraffic : ExecutorEvent → Bool
  | .issued _ _ _ | .sent _ _ => true
  | _ => false

namespace RegisterPoll

/-- The values a device with these contents returns for the poll. -/
def valuesIn (poll : RegisterPoll) (state : RegisterPollState)
    (contents : Int → UInt16) : List UInt16 :=
  (List.range state.lastValues.length).map fun index : Nat =>
    contents (poll.register + index)

@[simp] theorem valuesIn_length (poll : RegisterPoll)
    (state : RegisterPollState) (contents : Int → UInt16) :
    (poll.valuesIn state contents).length = state.lastValues.length := by
  simp [valuesIn]

/-- The test of `pollRegisters` for sending the values it read. -/
def Reports (poll : RegisterPoll) (state : RegisterPollState)
    (forceSend : Bool) (values : List UInt16) : Prop :=
  state.lastValues ≠ values ∨ forceSend = true ∨
    poll.publishMode = .everyPoll ∨ state.readErrors ≠ 0

instance (poll : RegisterPoll) (state : RegisterPollState) (forceSend : Bool)
    (values : List UInt16) :
    Decidable (poll.Reports state forceSend values) :=
  inferInstanceAs (Decidable (_ ∨ _))

end RegisterPoll

namespace ModbusExecutor

/-- How `pollRegisters` ends. -/
inductive PollResult (reg : RegisterPoll) (state : RegisterPollState)
    (forceSend : Bool) (input : ExecuteInput) :
    RegisterPollState × CallOutcome × List QueueItem → Prop where
  | reported {next : RegisterPollState} {values : List UInt16} :
      input.answer.fails = false →
      values = reg.valuesIn state input.answer.contents →
      reg.Reports state forceSend values →
      next.lastValues = values →
      next.readErrors = 0 →
      PollResult reg state forceSend input
        (next, .ok values, [.registerValues (reg.valuesMessage values)])
  | suppressed {next : RegisterPollState} {values : List UInt16} :
      input.answer.fails = false →
      values = reg.valuesIn state input.answer.contents →
      ¬reg.Reports state forceSend values →
      next.lastValues = state.lastValues →
      next.readErrors = state.readErrors →
      PollResult reg state forceSend input (next, .ok values, [])
  | failed {next : RegisterPollState} {messages : List QueueItem} :
      input.answer.fails = true →
      next.lastValues = state.lastValues →
      messages = [] ∨ reg.isRpc = false ∧
        messages = [.registerReadFailed (reg.failedMessage state 0)] →
      PollResult reg state forceSend input (next, .failed, messages)

theorem handleRegisterReadError_messages (reg : RegisterPoll)
    (state : RegisterPollState) (input : ExecuteInput) :
    (handleRegisterReadError reg state input).2 = [] ∨
      reg.isRpc = false ∧ (handleRegisterReadError reg state input).2 =
        [.registerReadFailed (reg.failedMessage state 0)] := by
  rw [handleRegisterReadError]
  dsimp only
  split
  · exact .inl rfl
  · rename_i scheduled
    have notRpc : reg.isRpc = false := by simpa using scheduled
    dsimp only
    split <;> split <;> first
      | exact .inl rfl
      | exact .inr ⟨notRpc, rfl⟩

theorem pollRegisters_result (reg : RegisterPoll) (state : RegisterPollState)
    (forceSend : Bool) (input : ExecuteInput) :
    PollResult reg state forceSend input
      (pollRegisters reg state forceSend input) := by
  rw [pollRegisters]
  dsimp only
  split
  · rename_i values read
    rw [ModbusContext.readModbusRegisters] at read
    split at read
    · cases read
    · rename_i answered
      have answers : input.answer.fails = false := by simpa using answered
      cases read
      split
      · rename_i reports
        exact .reported answers rfl reports rfl rfl
      · rename_i quiet
        exact .suppressed answers rfl quiet rfl rfl
  · rename_i error read
    rw [ModbusContext.readModbusRegisters] at read
    split at read
    · rename_i fails
      obtain ⟨_, kept, _⟩ := handleRegisterReadError_state reg
        { state with lastReadStartTime := input.readStart } input
      exact .failed fails kept (handleRegisterReadError_messages reg _ input)
    · cases read

/-- How `writeRegisters` ends. -/
inductive WriteResult (cmd : RegisterWrite) (input : ExecuteInput) :
    CallOutcome × List QueueItem → Prop where
  | written :
      input.answer.fails = false →
      WriteResult cmd input (.ok cmd.values,
        cmd.returnMessage.toList.map fun message =>
          .registerValues { message with registers := cmd.values })
  | failed :
      input.answer.fails = true →
      WriteResult cmd input
        (.failed, [.registerWriteFailed cmd.failedMessage])
  | threw : WriteResult cmd input (.threw, [])

theorem writeRegisters_result (cmd : RegisterWrite) (input : ExecuteInput) :
    WriteResult cmd input (writeRegisters cmd input) := by
  rw [writeRegisters]
  cases written : ModbusContext.writeModbusRegisters cmd input.answer with
  | ok done =>
    refine .written ?_
    rw [ModbusContext.writeModbusRegisters] at written
    cases type : cmd.registerType <;> simp [type] at written
    all_goals exact written
  | error exception =>
    cases exception with
    | write => exact .failed (ModbusContext.fails_of_write_error written)
    | read => exact .threw
    | context => exact .threw

/-- The message `sendCommand` itself sends when an RPC read finally fails. -/
def finalFailure (reg : RegisterPoll) (state : RegisterPollState)
    (retriesLeft : Nat) : List QueueItem :=
  if state.lastReadOk = false ∧ retriesLeft = 0 ∧ reg.isRpc = true then
    [.registerReadFailed (reg.failedMessage state reg.commandId)]
  else
    []

/-- What one `executeNext` does to the polls and what it logs. -/
inductive Execution (executor : ModbusExecutor) (input : ExecuteInput) :
    ModbusExecutor → List ExecutorEvent → Prop where
  | quiet {next : ModbusExecutor} :
      next.polls = executor.polls →
      Execution executor input next []
  | read {next : ModbusExecutor} {reg : RegisterPoll}
      {state : RegisterPollState} {outcome : CallOutcome}
      {messages : List QueueItem} {retriesLeft : Nat} :
      0 < executor.commands.pendingCount (.poll reg) →
      PollResult reg (executor.polls reg)
        (executor.initialPoll || reg.isRpc) input (state, outcome, messages) →
      state.lastReadOk = outcome.isOk →
      next.polls = Function.update executor.polls reg state →
      Execution executor input next
        (.issued (.poll reg) outcome retriesLeft ::
          (messages ++ finalFailure reg state retriesLeft).map
            (ExecutorEvent.sent (.poll reg)))
  | write {next : ModbusExecutor} {cmd : RegisterWrite} {retriesLeft : Nat} :
      0 < executor.commands.pendingCount (.write cmd) →
      next.polls = executor.polls →
      Execution executor input next
        (.issued (.write cmd) (writeRegisters cmd input).1 retriesLeft ::
          (writeRegisters cmd input).2.map (ExecutorEvent.sent (.write cmd)))

variable {executor next ready : ModbusExecutor} {command : RegisterCommand}
  {input : ExecuteInput} {events : List ExecutorEvent}
  {returned : Except ModbusException Duration} {reg : RegisterPoll}
  {outcome : CallOutcome} {retriesLeft : Nat} {now : Int}

theorem popCurrent_polls {slaveId : Int}
    (popped : executor.popCurrent slaveId = some next) :
    next.polls = executor.polls ∧ next.initialPoll = executor.initialPoll := by
  obtain ⟨_, _, stored⟩ := Option.map_eq_some_iff.mp popped
  cases stored
  exact ⟨rfl, rfl⟩

theorem takeNext_polls (taken : executor.takeNext = some (.proceed ready)) :
    ready.polls = executor.polls ∧
      ready.initialPoll = executor.initialPoll := by
  rw [takeNext] at taken
  split at taken
  · split at taken
    · split at taken
      · cases taken
      · split at taken
        · obtain ⟨popped, popping, same⟩ := Option.map_eq_some_iff.mp taken
          cases same
          obtain ⟨left, reset⟩ := popped.resetCommandsCounter_eq false
          obtain ⟨polls, initial⟩ := popCurrent_polls popping
          rw [reset]
          exact ⟨polls, initial⟩
        · cases taken
    · obtain ⟨popped, popping, same⟩ := Option.map_eq_some_iff.mp taken
      cases same
      exact popCurrent_polls popping
  · cases taken
    exact ⟨rfl, rfl⟩

theorem startCommand_polls (executor : ModbusExecutor)
    (command : RegisterCommand) :
    (executor.startCommand command).polls = executor.polls ∧
      (executor.startCommand command).initialPoll = executor.initialPoll := by
  rw [startCommand]
  split <;> exact ⟨rfl, rfl⟩

@[simp] theorem finishInitialPoll_polls (executor : ModbusExecutor) :
    executor.finishInitialPoll.polls = executor.polls := by
  rw [finishInitialPoll]
  split <;> rfl

theorem PollResult.lastReadOk_eq {reg : RegisterPoll}
    {state : RegisterPollState} {forceSend : Bool} {input : ExecuteInput} :
    (pollRegisters reg state forceSend input).1.lastReadOk =
      (pollRegisters reg state forceSend input).2.1.isOk := by
  rcases pollRegisters_outcome reg state forceSend input with
    ⟨values, succeeded, readOk⟩ | ⟨failed, readFailed⟩
  · rw [succeeded, readOk]
    rfl
  · rw [failed, readFailed]
    rfl

theorem sendPoll_execution (executor : ModbusExecutor) (reg : RegisterPoll)
    (input : ExecuteInput) :
    ∃ state outcome, ∃ messages : List QueueItem,
      PollResult reg (executor.polls reg)
        (executor.initialPoll || reg.isRpc) input (state, outcome, messages) ∧
      state.lastReadOk = outcome.isOk ∧
      (executor.sendPoll reg input).1.polls =
        Function.update executor.polls reg state ∧
      (executor.sendPoll reg input).2 = (outcome,
        .issued (.poll reg) outcome executor.readRetryCount ::
          (messages ++ finalFailure reg state executor.readRetryCount).map
            (ExecutorEvent.sent (.poll reg))) := by
  have result := pollRegisters_result reg (executor.polls reg)
    (executor.initialPoll || reg.isRpc) input
  have readOk := @PollResult.lastReadOk_eq reg (executor.polls reg)
    (executor.initialPoll || reg.isRpc) input
  rw [sendPoll]
  generalize pollRegisters reg (executor.polls reg)
    (executor.initialPoll || reg.isRpc) input = called at result readOk ⊢
  obtain ⟨state, outcome, messages⟩ := called
  refine ⟨state, outcome, messages, result, readOk, ?_⟩
  dsimp only
  split
  · rename_i succeeded
    exact ⟨rfl, by simp [finalFailure, succeeded]⟩
  · rename_i failed
    split
    · rename_i retries
      exact ⟨rfl, by simp [finalFailure, retries]⟩
    · rename_i exhausted
      have none : executor.readRetryCount = 0 := by simpa using exhausted
      split
      · rename_i rpc
        exact ⟨rfl, by simp [finalFailure, failed, none, rpc]⟩
      · rename_i scheduled
        exact ⟨rfl, by simp [finalFailure, scheduled]⟩

theorem sendWrite_execution (executor : ModbusExecutor) (cmd : RegisterWrite)
    (input : ExecuteInput) :
    (executor.sendWrite cmd input).1.polls = executor.polls ∧
      (executor.sendWrite cmd input).2.2 =
        .issued (.write cmd) (writeRegisters cmd input).1
            executor.writeRetryCount ::
          (writeRegisters cmd input).2.map (ExecutorEvent.sent (.write cmd)) := by
  rw [sendWrite]
  generalize writeRegisters cmd input = result
  obtain ⟨called, messages⟩ := result
  cases called with
  | threw => exact ⟨rfl, rfl⟩
  | failed =>
    dsimp only
    split <;> exact ⟨rfl, rfl⟩
  | ok values => exact ⟨rfl, rfl⟩

theorem pendingCount_of_takeNext
    (taken : executor.takeNext = some (.proceed ready))
    (waiting : ready.waitingCommand = some command) :
    0 < executor.commands.pendingCount command := by
  have balanced := trace_balance (takeNext_trace taken) command
  have held : ready.commands.waiting = some command := waiting
  have positive : 0 < ready.commands.pendingCount command := by
    rw [CommandStore.pendingCount, held, Option.toList_some,
      List.count_singleton_self]
    omega
  simp only [List.countP_nil, List.count_nil] at balanced
  omega

theorem sendCommand_execution
    (taken : executor.takeNext = some (.proceed ready))
    (waiting : ready.waitingCommand = some command)
    (polls : next.polls = (ready.sendCommand command input).1.polls) :
    Execution executor input next (ready.sendCommand command input).2.2 := by
  have pending := pendingCount_of_takeNext taken waiting
  obtain ⟨takenPolls, takenInitial⟩ := takeNext_polls taken
  obtain ⟨startedPolls, startedInitial⟩ := ready.startCommand_polls command
  cases command with
  | poll reg =>
    obtain ⟨state, outcome, messages, result, readOk, updated, logged⟩ :=
      (ready.startCommand (.poll reg)).sendPoll_execution reg input
    rw [startedPolls, takenPolls, startedInitial, takenInitial] at result
    rw [startedPolls, takenPolls] at updated
    rw [sendCommand] at polls ⊢
    rw [logged]
    exact .read pending result readOk (polls.trans updated)
  | write cmd =>
    obtain ⟨kept, logged⟩ :=
      (ready.startCommand (.write cmd)).sendWrite_execution cmd input
    rw [startedPolls, takenPolls] at kept
    rw [sendCommand] at polls ⊢
    rw [logged]
    exact .write pending (polls.trans kept)

theorem executeNext_execution
    (executed : executor.executeNext input = some (next, events, returned)) :
    Execution executor input next events := by
  rw [executeNext] at executed
  split at executed
  · cases executed
  · cases executed
    exact .quiet rfl
  · rename_i ready taken
    split at executed
    · cases executed
      apply Execution.quiet
      rw [finishInitialPoll_polls]
      exact (takeNext_polls taken).1
    · rename_i command waiting
      dsimp only at executed
      split at executed
      · cases executed
        exact .quiet (takeNext_polls taken).1
      · split at executed
        · rename_i sent same
          cases executed
          have execution := sendCommand_execution taken waiting
            (show next.polls = (ready.sendCommand command input).1.polls by
              rw [same])
          rw [same] at execution
          exact execution
        · rename_i sent outcome logged _ same
          cases executed
          have execution := sendCommand_execution taken waiting
            (show sent.finishInitialPoll.polls =
              (ready.sendCommand command input).1.polls by
                rw [finishInitialPoll_polls, same])
          rw [same] at execution
          exact execution

theorem finalFailure_of_ok {state : RegisterPollState}
    (readOk : state.lastReadOk = true) (retriesLeft : Nat) :
    finalFailure reg state retriesLeft = [] := by
  simp [finalFailure, readOk]

variable {source : RegisterCommand} {messages : List QueueItem}
  {item : QueueItem} {values : List UInt16}
  {registers : OrderedMap Int (List RegisterPoll)} {initialPoll : Bool}

theorem eq_of_issued {logged : CallOutcome} {left : Nat}
    (issued : .issued command outcome retriesLeft ∈
      .issued source logged left :: messages.map (ExecutorEvent.sent source)) :
    command = source ∧ outcome = logged ∧ retriesLeft = left := by
  rcases List.mem_cons.mp issued with here | later
  · cases here
    exact ⟨rfl, rfl, rfl⟩
  · obtain ⟨_, _, impossible⟩ := List.mem_map.mp later
    cases impossible

theorem mem_of_sent
    (sent : .sent command item ∈ .issued source outcome retriesLeft ::
      messages.map (ExecutorEvent.sent source)) :
    command = source ∧ item ∈ messages := by
  rcases List.mem_cons.mp sent with impossible | later
  · cases impossible
  · obtain ⟨message, listed, same⟩ := List.mem_map.mp later
    cases same
    exact ⟨rfl, listed⟩

/-- The messages that executing a command can send, each with the call it tells
about. -/
inductive Report (executor : ModbusExecutor) (input : ExecuteInput)
    (events : List ExecutorEvent) : RegisterCommand → QueueItem → Prop where
  | read {reg : RegisterPoll} {values : List UInt16} {retriesLeft : Nat} :
      .issued (.poll reg) (.ok values) retriesLeft ∈ events →
      values.length = (executor.polls reg).lastValues.length →
      Report executor input events (.poll reg)
        (.registerValues (reg.valuesMessage values))
  | readFailed {reg : RegisterPoll} {commandId : Int} {retriesLeft : Nat} :
      input.answer.fails = true →
      .issued (.poll reg) .failed retriesLeft ∈ events →
      reg.isRpc = false ∧ commandId = 0 ∨
        commandId = reg.commandId ∧ retriesLeft = 0 →
      Report executor input events (.poll reg) (.registerReadFailed
        (reg.failedMessage (executor.polls reg) commandId))
  | written {cmd : RegisterWrite} {message : MsgRegisterValues}
      {retriesLeft : Nat} :
      .issued (.write cmd) (.ok cmd.values) retriesLeft ∈ events →
      cmd.returnMessage = some message →
      Report executor input events (.write cmd)
        (.registerValues { message with registers := cmd.values })
  | writeFailed {cmd : RegisterWrite} {retriesLeft : Nat} :
      input.answer.fails = true →
      .issued (.write cmd) .failed retriesLeft ∈ events →
      Report executor input events (.write cmd)
        (.registerWriteFailed cmd.failedMessage)

theorem Execution.report (execution : Execution executor input next events)
    (sent : .sent command item ∈ events) :
    Report executor input events command item := by
  cases execution with
  | quiet _ => cases sent
  | @read reg state outcome messages retriesLeft _ result readOk _ =>
    obtain ⟨rfl, listed⟩ := mem_of_sent sent
    cases result with
    | reported _ same _ _ _ =>
      rw [finalFailure_of_ok readOk, List.append_nil] at listed
      cases List.mem_singleton.mp listed
      exact .read List.mem_cons_self (by rw [same, RegisterPoll.valuesIn_length])
    | suppressed _ _ _ _ _ =>
      rw [finalFailure_of_ok readOk] at listed
      cases listed
    | failed fails kept answered =>
      rcases List.mem_append.mp listed with polled | final
      · rcases answered with rfl | ⟨scheduled, rfl⟩
        · cases polled
        · cases List.mem_singleton.mp polled
          exact .readFailed fails List.mem_cons_self
            (.inl ⟨scheduled, rfl⟩)
      · rw [finalFailure] at final
        split at final
        · rename_i last
          rw [List.mem_singleton.mp final, RegisterPoll.failedMessage, kept]
          exact .readFailed fails List.mem_cons_self
            (.inr ⟨rfl, last.2.1⟩)
        · cases final
  | @write cmd retriesLeft _ _ =>
    obtain ⟨rfl, listed⟩ := mem_of_sent sent
    have result := writeRegisters_result cmd input
    generalize writeRegisters cmd input = called at result listed ⊢
    cases result with
    | written _ =>
      obtain ⟨message, returned, rfl⟩ := List.mem_map.mp listed
      exact .written List.mem_cons_self (Option.mem_toList.mp returned)
    | failed fails =>
      cases List.mem_singleton.mp listed
      exact .writeFailed fails List.mem_cons_self
    | threw => cases listed

/-- What one picks out of the events of an `executeNext`, messages apart, is
about the one command it executes. -/
theorem latest_issued {β : Type} (choose : ExecutorEvent → Option β)
    (ignores : ∀ command item, choose (.sent command item) = none)
    (executed : executor.executeNext input = some (next, events, returned)) :
    (∀ event ∈ events, choose event = none) ∨
    ∃ command outcome retriesLeft value,
      .issued command outcome retriesLeft ∈ events ∧
      choose (.issued command outcome retriesLeft) = some value ∧
      latest choose events = some value := by
  rcases executeNext_events executed with
    rfl | ⟨ready, command, _, _, _, rfl⟩
  · exact .inl (by simp)
  · obtain ⟨retriesLeft, messages, logged⟩ :=
      ready.sendCommand_events command input
    rw [logged]
    generalize (ready.sendCommand command input).2.1 = outcome
    have silent : ∀ event ∈ messages.map (ExecutorEvent.sent command),
        choose event = none := by
      intro event listed
      obtain ⟨item, _, rfl⟩ := List.mem_map.mp listed
      exact ignores command item
    cases chosen : choose (.issued command outcome retriesLeft) with
    | none =>
      left
      intro event listed
      rcases List.mem_cons.mp listed with rfl | sent
      · exact chosen
      · exact silent event sent
    | some value =>
      refine .inr ⟨command, outcome, retriesLeft, value, by simp, chosen, ?_⟩
      have first : latest choose
          ([.issued command outcome retriesLeft] ++
            messages.map (ExecutorEvent.sent command)) =
          latest choose [.issued command outcome retriesLeft] :=
        latest_append_of_none silent
      rw [latest_singleton, chosen] at first
      exact first

/-- The command that `executeNext` executes if it is called at `now`. -/
def due (executor : ModbusExecutor) (now : Int) : Option RegisterCommand :=
  match executor.takeNext with
  | some (.proceed ready) =>
    ready.waitingCommand.filter fun command =>
      ready.delayLeft command now ≤ 0
  | _ => none

theorem due_of_issued
    (executed : executor.executeNext input = some (next, events, returned))
    (issued : .issued command outcome retriesLeft ∈ events) :
    executor.due input.delayCheck = some command := by
  rcases executeNext_events executed with
    rfl | ⟨ready, sent, taken, waiting, elapsed, rfl⟩
  · cases issued
  · obtain ⟨retries, messages, logged⟩ := ready.sendCommand_events sent input
    rw [logged] at issued
    obtain ⟨rfl, _, _⟩ := eq_of_issued issued
    rw [due, taken]
    simp [waiting, Option.filter, elapsed]

/-- The scheduled poll that `executeNext` reads if it is called at `now`. -/
def duePoll (executor : ModbusExecutor) (now : Int) : Option RegisterPoll :=
  match executor.due now with
  | some (.poll reg) => if reg.isRpc then none else some reg
  | _ => none

theorem duePoll_of_issued
    (executed : executor.executeNext input = some (next, events, returned))
    (scheduled : reg.isRpc = false)
    (issued : .issued (.poll reg) outcome retriesLeft ∈ events) :
    executor.duePoll input.delayCheck = some reg := by
  rw [duePoll, due_of_issued executed issued]
  simp [scheduled]

theorem Execution.pending (execution : Execution executor input next events)
    (issued : .issued command outcome retriesLeft ∈ events) :
    0 < executor.commands.pendingCount command := by
  cases execution with
  | quiet _ => cases issued
  | read pending _ _ _ | write pending _ =>
    obtain ⟨rfl, _, _⟩ := eq_of_issued issued
    exact pending

theorem Execution.not_accepted
    (execution : Execution executor input next events)
    (command : RegisterCommand) : .accepted command ∉ events := by
  intro accepted
  cases execution with
  | quiet _ => cases accepted
  | read _ _ _ _ | write _ _ => simp at accepted

theorem Execution.lastValues_length
    (execution : Execution executor input next events) (reg : RegisterPoll) :
    (next.polls reg).lastValues.length =
      (executor.polls reg).lastValues.length := by
  cases execution with
  | quiet polls => rw [polls]
  | write _ polls => rw [polls]
  | @read executed state outcome messages retriesLeft _ result _ polls =>
    rw [polls]
    by_cases same : reg = executed
    · subst same
      rw [Function.update_self]
      cases result with
      | reported _ read _ updated _ =>
        rw [updated, read, RegisterPoll.valuesIn_length]
      | suppressed _ _ _ kept _ => rw [kept]
      | failed _ kept _ => rw [kept]
    · rw [Function.update_of_ne same]

theorem Execution.answered {executor next : ModbusExecutor}
    {input : ExecuteInput} {events : List ExecutorEvent} {reg : RegisterPoll}
    {values : List UInt16} {retriesLeft : Nat}
    (execution : Execution executor input next events)
    (read : .issued (.poll reg) (.ok values) retriesLeft ∈ events) :
    input.answer.fails = false ∧
      values = reg.valuesIn (executor.polls reg) input.answer.contents := by
  cases execution with
  | quiet _ => cases read
  | write _ _ => simp at read
  | @read executed state outcome messages logged _ result _ _ =>
    obtain ⟨same, rfl, _⟩ := eq_of_issued read
    cases same
    cases result with
    | reported answers same _ _ _ => exact ⟨answers, same⟩
    | suppressed answers same _ _ _ => exact ⟨answers, same⟩

theorem Execution.values_length
    (execution : Execution executor input next events)
    (read : .issued (.poll reg) (.ok values) retriesLeft ∈ events) :
    values.length = (executor.polls reg).lastValues.length := by
  rw [(execution.answered read).2, RegisterPoll.valuesIn_length]

theorem Execution.of_read (execution : Execution executor input next events)
    (read : .issued (.poll reg) (.ok values) retriesLeft ∈ events) :
    (reg.Reports (executor.polls reg) (executor.initialPoll || reg.isRpc)
        values ∧
      events = [.issued (.poll reg) (.ok values) retriesLeft,
        .sent (.poll reg) (.registerValues (reg.valuesMessage values))] ∧
      (next.polls reg).lastValues = values ∧
      (next.polls reg).readErrors = 0) ∨
    (¬reg.Reports (executor.polls reg) (executor.initialPoll || reg.isRpc)
        values ∧
      events = [.issued (.poll reg) (.ok values) retriesLeft] ∧
      (next.polls reg).lastValues = (executor.polls reg).lastValues ∧
      (next.polls reg).readErrors = (executor.polls reg).readErrors) := by
  cases execution with
  | quiet polls => cases read
  | write _ polls => simp at read
  | @read executed state outcome messages logged _ result readOk polls =>
    obtain ⟨same, rfl, rfl⟩ := eq_of_issued read
    cases same
    rw [finalFailure_of_ok readOk, List.append_nil, polls,
      Function.update_self]
    cases result with
    | reported _ _ reports updated cleared =>
      exact .inl ⟨reports, rfl, updated, cleared⟩
    | suppressed _ _ quiet kept errors =>
      exact .inr ⟨quiet, rfl, kept, errors⟩

theorem elect_polls {period : Duration} {slaves : List Int}
    {currentDiff : Duration}
    (elected : elect period slaves currentDiff executor =
      some (next, events)) : next.polls = executor.polls := by
  have rounds := elect_rounds elected
  clear elected
  induction rounds with
  | refl => rfl
  | tail _ round kept =>
    cases round with
    | searched _ _ => exact kept
    | took _ _ _ => exact kept

theorem chooseCommand_polls {firstAdded : Int}
    (chosen : executor.chooseCommand firstAdded now = some (next, events)) :
    next.polls = executor.polls := by
  rw [chooseCommand] at chosen
  obtain ⟨left, reset⟩ := resetCommandsCounter_eq
    { executor with currentSlaveQueue := some firstAdded } false
  rw [reset] at chosen
  split at chosen
  · cases chosen
  · rename_i election
    have elected := elect_polls election
    split at chosen
    · obtain ⟨popped, popping, same⟩ := Option.map_eq_some_iff.mp chosen
      cases same
      exact (popCurrent_polls popping).1.trans elected
    · cases chosen
      exact elected

theorem addPollList_polls
    (added : executor.addPollList registers initialPoll now =
      some (next, events)) : next.polls = executor.polls := by
  have enqueued (initialPoll : Bool) :
      ({ executor with initialPoll }.enqueuePolls registers.entries).1.polls =
        executor.polls := by
    obtain ⟨slaveQueues, same⟩ := enqueuePolls_eq
      { executor with initialPoll } registers.entries
    rw [same]
  cases addPollList_added added with
  | ignored _ _ => rfl
  | queued _ _ => exact enqueued _
  | chosen _ _ _ choice =>
    exact (chooseCommand_polls choice).trans (enqueued _)

theorem addReadCommand_polls (executor : ModbusExecutor) (reg : RegisterPoll) :
    (executor.addReadCommand reg).1.polls = executor.polls := by
  rw [addReadCommand]
  split
  · rw [(resetCommandsCounter_eq _ _).choose_spec]
    rfl
  · rfl

theorem addWriteCommand_polls (executor : ModbusExecutor)
    (cmd : RegisterWrite) (endAnswer : Bool) :
    (executor.addWriteCommand cmd endAnswer).1.polls = executor.polls := by
  rw [addWriteCommand]
  dsimp only
  split
  · rw [(resetCommandsCounter_eq _ _).choose_spec]
    dsimp only
    split <;> rfl
  · split
    · rw [(resetCommandsCounter_eq _ _).choose_spec]
      rfl
    · rfl

theorem not_isTraffic_of_addsPoll (reg : RegisterPoll) {event : ExecutorEvent}
    (adds : event.addsPoll reg) : event.isTraffic = false := by
  rcases adds with rfl | rfl <;> rfl

theorem addPollList_quiet
    (added : executor.addPollList registers initialPoll now =
      some (next, events)) :
    ∀ event ∈ events, event.isTraffic = false := by
  intro event logged
  rcases addPollList_logs added logged with
    ⟨_, _, _, _, adds⟩ | ⟨_, rfl⟩
  · exact not_isTraffic_of_addsPoll _ adds
  · rfl

/-- Every call either executes a command or leaves the polls and the bus
alone. -/
theorem step_execution {call : ExecutorCall}
    (stepped : executor.step call = some (next, events)) :
    (∃ input, call = .executeNext input ∧
        Execution executor input next events) ∨
      next.polls = executor.polls ∧
        ∀ event ∈ events, event.isTraffic = false := by
  cases call with
  | setupInitialPoll registers now =>
    exact .inr ⟨addPollList_polls stepped, addPollList_quiet stepped⟩
  | addPollList registers now =>
    exact .inr ⟨addPollList_polls stepped, addPollList_quiet stepped⟩
  | addReadCommand reg =>
    have same : executor.addReadCommand reg = (next, events) :=
      Option.some.inj stepped
    have polls := executor.addReadCommand_polls reg
    rw [same] at polls
    refine .inr ⟨polls, ?_⟩
    intro event logged
    apply not_isTraffic_of_addsPoll reg
    apply addReadCommand_logs
    rwa [same]
  | addWriteCommand cmd endAnswer =>
    have polls := executor.addWriteCommand_polls cmd endAnswer
    have logged : [.accepted (.write cmd)] = events :=
      congrArg Prod.snd (Option.some.inj stepped)
    rw [Option.some.inj stepped] at polls
    refine .inr ⟨polls, ?_⟩
    simp [← logged, ExecutorEvent.isTraffic]
  | executeNext input =>
    obtain ⟨⟨last, logged, returned⟩, executed, same⟩ :=
      Option.map_eq_some_iff.mp stepped
    cases same
    exact .inl ⟨input, rfl, executeNext_execution executed⟩

end ModbusExecutor

end MqmGateway
