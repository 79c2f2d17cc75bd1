import MqmGateway.Executor.Execution

/-!
# What a call does to the fields of the executor

The moves follow the pending commands.  Here the calls are taken apart with
the other fields in view: the current queue, the two counters, the last
command and the time it ended.  Every later invariant of these fields is a
case analysis over the relations below.
-/

namespace MqmGateway

namespace RegisterCommand

/-- Reads always reach the device, writes if there is a modbus function for
the kind of register. -/
def sendable : RegisterCommand → Bool
  | .poll _ => true
  | .write cmd => cmd.registerType.writable

def retries : RegisterCommand → Nat
  | .poll reg => reg.maxReadRetryCount
  | .write cmd => cmd.maxWriteRetryCount

end RegisterCommand

namespace ModbusExecutor

/-- The counter that failures of the command take from. -/
def retriesLeft (executor : ModbusExecutor) : RegisterCommand → Nat
  | .poll _ => executor.readRetryCount
  | .write _ => executor.writeRetryCount

/-- What the counter goes back to after a success. -/
def maxRetries (executor : ModbusExecutor) : RegisterCommand → Nat
  | .poll _ => executor.maxReadRetryCount
  | .write _ => executor.maxWriteRetryCount

theorem retriesLeft_startCommand (executor : ModbusExecutor)
    (command : RegisterCommand) :
    (executor.startCommand command).retriesLeft command =
      if executor.lastCommand = some command then
        executor.retriesLeft command
      else
        command.retries := by
  rw [startCommand]
  by_cases again : executor.lastCommand = some command
  · rw [if_neg (by simpa using again), if_pos again]
  · rw [if_pos again, if_neg again]
    cases command <;> rfl

theorem maxRetries_startCommand (executor : ModbusExecutor)
    (command : RegisterCommand) :
    (executor.startCommand command).maxRetries command =
      if executor.lastCommand = some command then
        executor.maxRetries command
      else
        command.retries := by
  rw [startCommand]
  by_cases again : executor.lastCommand = some command
  · rw [if_neg (by simpa using again), if_pos again]
  · rw [if_pos again, if_neg again]
    cases command <;> rfl

theorem startCommand_eq (executor : ModbusExecutor)
    (command : RegisterCommand) :
    ∃ maxReadRetryCount readRetryCount maxWriteRetryCount writeRetryCount,
      executor.startCommand command =
        { executor with
          maxReadRetryCount, readRetryCount
          maxWriteRetryCount, writeRetryCount } := by
  rw [startCommand]
  split
  · exact ⟨_, _, _, _, rfl⟩
  · exact ⟨executor.maxReadRetryCount, executor.readRetryCount,
      executor.maxWriteRetryCount, executor.writeRetryCount, rfl⟩

theorem finishInitialPoll_eq (executor : ModbusExecutor) :
    ∃ initialPoll, executor.finishInitialPoll =
      { executor with initialPoll } := by
  rw [finishInitialPoll]
  split
  · exact ⟨false, rfl⟩
  · exact ⟨executor.initialPoll, rfl⟩

/-- How the execution of a command ends for an executor that has started it. -/
inductive Sending (started : ModbusExecutor) (command : RegisterCommand)
    (input : ExecuteInput) : ModbusExecutor → CallOutcome → Prop where
  | threw :
      command.sendable = false →
      Sending started command input started .threw
  | retried {polls : RegisterPoll → RegisterPollState}
      {readRetryCount writeRetryCount : Nat} {next : ModbusExecutor} :
      next =
        { started with
          polls, readRetryCount, writeRetryCount
          lastCommand := some command
          lastCommandTime := input.finish } →
      started.retriesLeft command = next.retriesLeft command + 1 →
      Sending started command input next .failed
  | finished {polls : RegisterPoll → RegisterPollState}
      {readRetryCount writeRetryCount : Nat} {writeCommandsQueued : Int}
      {next : ModbusExecutor} {outcome : CallOutcome} :
      next =
        { started with
          polls, readRetryCount, writeRetryCount, writeCommandsQueued
          lastCommand := some command
          lastCommandTime := input.finish
          waitingCommand := none
          commandsLeft := started.commandsLeft - 1 } →
      outcome.finishes (started.retriesLeft command) = true →
      next.retriesLeft command =
        (if outcome.isOk then started.maxRetries command else 0) →
      Sending started command input next outcome

namespace Sending

variable {started sent : ModbusExecutor} {command : RegisterCommand}
  {input : ExecuteInput} {outcome : CallOutcome}

theorem queues (sending : Sending started command input sent outcome) :
    sent.slaveQueues = started.slaveQueues ∧
      sent.currentSlaveQueue = started.currentSlaveQueue := by
  cases sending with
  | threw _ => exact ⟨rfl, rfl⟩
  | retried same _ => simp [same]
  | finished same _ _ => simp [same]

theorem returns (sending : Sending started command input sent outcome)
    (sendable : command.sendable = true) : outcome ≠ .threw := by
  cases sending with
  | threw refused => simp [refused] at sendable
  | retried _ _ => simp
  | finished _ finishes _ =>
    intro threw
    subst threw
    cases finishes

end Sending

variable {started : ModbusExecutor} {reg : RegisterPoll} {cmd : RegisterWrite}
  {slaveId firstAdded : Int} {returned : Except ModbusException Duration}
  {initialPoll : Bool} {call : ExecutorCall}

theorem sendPoll_sending (waiting : started.waitingCommand = some (.poll reg))
    (input : ExecuteInput) :
    Sending started (.poll reg) input (started.sendPoll reg input).1
      (started.sendPoll reg input).2.1 := by
  have outcome := pollRegisters_outcome reg (started.polls reg)
    (started.initialPoll || reg.isRpc) input
  rw [sendPoll]
  generalize pollRegisters reg (started.polls reg)
    (started.initialPoll || reg.isRpc) input = result at outcome ⊢
  obtain ⟨state, called, messages⟩ := result
  dsimp only at outcome ⊢
  rcases outcome with ⟨values, rfl, readOk⟩ | ⟨rfl, readFailed⟩
  · rw [if_pos readOk, releaseCommand, waiting]
    exact .finished rfl rfl rfl
  · rw [if_neg (by simp [readFailed])]
    split
    · rename_i some
      apply Sending.retried
      · rw [← waiting]
      · exact (Nat.succ_pred_eq_of_ne_zero some).symm
    · rename_i exhausted
      have none : started.readRetryCount = 0 := by simpa using exhausted
      have finishes : CallOutcome.failed.finishes
          (started.retriesLeft (.poll reg)) = true := decide_eq_true none
      have released {last : ModbusExecutor}
          (same : last = { started with
            polls := Function.update started.polls reg state
            lastCommandTime := input.finish }.releaseCommand) :
          Sending started (.poll reg) input last .failed := by
        rw [releaseCommand, waiting] at same
        refine .finished same finishes ?_
        rw [same]
        exact none
      split
      · exact released rfl
      · exact released rfl

variable {input : ExecuteInput} {executor next ready : ModbusExecutor}
  {events : List ExecutorEvent} {now : Int}

theorem writeRegisters_threw : (writeRegisters cmd input).1 = .threw ↔
      cmd.registerType.writable = false := by
  rw [writeRegisters, ModbusContext.writeModbusRegisters]
  cases cmd.registerType <;> cases input.answer.fails <;>
    simp [RegisterType.writable]

theorem sendWrite_sending (waiting : started.waitingCommand = some (.write cmd))
    (input : ExecuteInput) :
    Sending started (.write cmd) input (started.sendWrite cmd input).1
      (started.sendWrite cmd input).2.1 := by
  have threw : (writeRegisters cmd input).1 = .threw →
      (RegisterCommand.write cmd).sendable = false :=
    writeRegisters_threw.mp
  rw [sendWrite]
  generalize writeRegisters cmd input = result at threw ⊢
  obtain ⟨called, messages⟩ := result
  cases called with
  | threw => exact .threw (threw rfl)
  | failed =>
    dsimp only
    split
    · rename_i some
      apply Sending.retried
      · rw [← waiting]
      · exact (Nat.succ_pred_eq_of_ne_zero some).symm
    · rename_i exhausted
      have none : started.writeRetryCount = 0 := by simpa using exhausted
      rw [releaseCommand, waiting]
      exact .finished rfl (decide_eq_true none) none
  | ok values =>
    dsimp only
    rw [releaseCommand, waiting]
    exact .finished rfl rfl rfl

theorem sendCommand_sending {command : RegisterCommand}
    (waiting : executor.waitingCommand = some command)
    (input : ExecuteInput) :
    Sending (executor.startCommand command) command input
      (executor.sendCommand command input).1
      (executor.sendCommand command input).2.1 := by
  have held : (executor.startCommand command).waitingCommand =
      some command := by
    obtain ⟨_, _, _, _, started⟩ := executor.startCommand_eq command
    rw [started]
    exact waiting
  cases command with
  | poll reg => exact sendPoll_sending held input
  | write cmd => exact sendWrite_sending held input

theorem sendCommand_logs (executor : ModbusExecutor)
    (command : RegisterCommand) (input : ExecuteInput) :
    ∃ messages : List QueueItem, (executor.sendCommand command input).2.2 =
        .issued command (executor.sendCommand command input).2.1
            ((executor.startCommand command).retriesLeft command) ::
          messages.map (ExecutorEvent.sent command) := by
  cases command with
  | poll reg =>
    obtain ⟨state, outcome, messages, _, _, _, logged⟩ :=
      (executor.startCommand (.poll reg)).sendPoll_execution reg input
    rw [sendCommand, logged]
    exact ⟨_, rfl⟩
  | write cmd =>
    obtain ⟨retriesLeft, messages, logged⟩ :=
      (executor.startCommand (.write cmd)).sendWrite_events cmd input
    have executed :=
      ((executor.startCommand (.write cmd)).sendWrite_execution cmd input).2
    rw [sendCommand]
    rw [logged] at executed
    have same := (ExecutorEvent.issued.inj (List.cons.inj executed).1).2.2
    refine ⟨messages, ?_⟩
    rw [logged, same]
    rfl

/-- What the first part of `executeNext` leaves.  `taken`: the next command of
a queue is in the slot, which was empty. -/
inductive Taken (executor : ModbusExecutor) : ModbusExecutor → Prop where
  | kept :
      (executor.waitingCommand = none → executor.currentSlaveQueue = none) →
      Taken executor executor
  | continued {current : Int} {command : RegisterCommand}
      {queue : ModbusRequestsQueues} :
      executor.waitingCommand = none →
      executor.currentSlaveQueue = some current →
      executor.commandsLeft ≠ 0 →
      (executor.slaveQueue current).popNext = some (command, queue) →
      Taken executor
        { executor.setSlaveQueue current queue with
          currentSlaveQueue := some current
          waitingCommand := some command }
  | moved {current slaveId : Int} {command : RegisterCommand}
      {queue : ModbusRequestsQueues} {left : Nat} :
      executor.waitingCommand = none →
      executor.currentSlaveQueue = some current →
      (executor.commandsLeft = 0 ∨
        (executor.slaveQueue current).empty = true) →
      searchQueue current executor.slaveQueues.entries executor.searchRounds
        (executor.slaveQueues.after current) = some slaveId →
      (executor.slaveQueue slaveId).popNext = some (command, queue) →
      0 < left →
      Taken executor
        { executor.setSlaveQueue slaveId queue with
          currentSlaveQueue := some slaveId
          waitingCommand := some command
          commandsLeft := left }

theorem resetCommandsCounter_of_current
    (current : executor.currentSlaveQueue = some slaveId)
    (endAnswer : Bool) :
    ∃ left, 0 < left ∧ executor.resetCommandsCounter endAnswer =
      { executor with commandsLeft := left } := by
  rw [resetCommandsCounter, current]
  dsimp only
  split
  · exact ⟨_, by decide, rfl⟩
  · rename_i some
    refine ⟨_, ?_, rfl⟩
    have positive : 0 < (executor.slaveQueue slaveId).pollQueue.length :=
      List.length_pos_iff.mpr (by simpa using some)
    omega

theorem popCurrent_eq_some (popped : executor.popCurrent slaveId = some next) :
    ∃ command queue,
      (executor.slaveQueue slaveId).popNext = some (command, queue) ∧
      next =
        { executor.setSlaveQueue slaveId queue with
          currentSlaveQueue := some slaveId
          waitingCommand := some command } := by
  obtain ⟨⟨command, queue⟩, popping, stored⟩ :=
    Option.map_eq_some_iff.mp popped
  exact ⟨command, queue, popping, stored.symm⟩

theorem takeNext_taken (taken : executor.takeNext = some (.proceed ready)) :
    Taken executor ready := by
  rw [takeNext] at taken
  split at taken
  · rename_i current idle here
    split at taken
    · rename_i leaves
      split at taken
      · cases taken
      · rename_i slaveId found
        split at taken
        · obtain ⟨popped, popping, same⟩ := Option.map_eq_some_iff.mp taken
          obtain ⟨command, queue, fromQueue, rfl⟩ :=
            popCurrent_eq_some popping
          obtain ⟨left, positive, reset⟩ := resetCommandsCounter_of_current
            (show { executor.setSlaveQueue slaveId queue with
              currentSlaveQueue := some slaveId
              waitingCommand := some command }.currentSlaveQueue =
                some slaveId from rfl) false
          rw [reset] at same
          cases same
          exact .moved idle here leaves found fromQueue positive
        · cases taken
    · rename_i stays
      obtain ⟨popped, popping, same⟩ := Option.map_eq_some_iff.mp taken
      obtain ⟨command, queue, fromQueue, rfl⟩ := popCurrent_eq_some popping
      cases same
      exact .continued idle here (not_or.mp stays).1 fromQueue
  · rename_i notSearching
    cases taken
    apply Taken.kept
    intro idle
    cases current : executor.currentSlaveQueue with
    | none => rfl
    | some slaveId => exact (notSearching slaveId idle current).elim

/-- What one `executeNext` does. -/
inductive Executed (executor : ModbusExecutor) (input : ExecuteInput) :
    ModbusExecutor → List ExecutorEvent → Prop where
  | nothing :
      executor.takeNext = some .nothing →
      Executed executor input executor []
  | idle {ready : ModbusExecutor} {initialPoll : Bool} :
      executor.takeNext = some (.proceed ready) →
      ready.waitingCommand = none →
      Executed executor input { ready with initialPoll } []
  | waits {ready : ModbusExecutor} {command : RegisterCommand} :
      executor.takeNext = some (.proceed ready) →
      ready.waitingCommand = some command →
      0 < ready.delayLeft command input.delayCheck →
      Executed executor input ready []
  | sends {ready sent : ModbusExecutor} {initialPoll : Bool}
      {command : RegisterCommand} {outcome : CallOutcome}
      {messages : List QueueItem} :
      executor.takeNext = some (.proceed ready) →
      ready.waitingCommand = some command →
      ready.delayLeft command input.delayCheck ≤ 0 →
      executor.due input.delayCheck = some command →
      Sending (ready.startCommand command) command input sent outcome →
      Executed executor input { sent with initialPoll }
        (.issued command outcome
            ((ready.startCommand command).retriesLeft command) ::
          messages.map (ExecutorEvent.sent command))

theorem executeNext_executed
    (executed : executor.executeNext input = some (next, events, returned)) :
    Executed executor input next events := by
  rw [executeNext] at executed
  split at executed
  · cases executed
  · rename_i nothing
    cases executed
    exact .nothing nothing
  · rename_i ready taking
    split at executed
    · rename_i empty
      cases executed
      obtain ⟨initialPoll, same⟩ := ready.finishInitialPoll_eq
      rw [same]
      exact .idle taking empty
    · rename_i command waiting
      dsimp only at executed
      split at executed
      · rename_i early
        cases executed
        exact .waits taking waiting early
      · rename_i elapsed
        have due : executor.due input.delayCheck = some command := by
          rw [ModbusExecutor.due, taking]
          simpa [waiting, Option.filter] using elapsed
        have sending := sendCommand_sending waiting input
        obtain ⟨messages, logged⟩ := ready.sendCommand_logs command input
        split at executed
        · rename_i same
          cases executed
          rw [same] at sending logged
          rw [show events = _ from logged]
          exact .sends taking waiting (not_lt.mp elapsed) due sending
        · rename_i sent _ _ _ same
          cases executed
          rw [same] at sending logged
          rw [show events = _ from logged]
          obtain ⟨initialPoll, finished⟩ := sent.finishInitialPoll_eq
          rw [finished]
          exact .sends taking waiting (not_lt.mp elapsed) due sending

theorem Taken.eq (taken : Taken executor ready) :
    ∃ slaveQueues currentSlaveQueue waitingCommand commandsLeft, ready =
        { executor with
          slaveQueues, currentSlaveQueue, waitingCommand, commandsLeft } := by
  cases taken with
  | kept _ => exact ⟨_, _, _, _, rfl⟩
  | continued _ _ _ _ =>
    exact ⟨_, _, _, executor.commandsLeft, rfl⟩
  | moved _ _ _ _ _ _ => exact ⟨_, _, _, _, rfl⟩

section Induction

variable (property : ModbusExecutor → Prop)
  (searched : ∀ (executor : ModbusExecutor) (slaveId : Int)
    (queue : ModbusRequestsQueues),
    queue.pollQueue = (executor.slaveQueue slaveId).pollQueue →
    queue.writeQueue = (executor.slaveQueue slaveId).writeQueue →
    property executor → property (executor.setSlaveQueue slaveId queue))
  (took : ∀ (executor : ModbusExecutor) (slaveId : Int)
    (queue : ModbusRequestsQueues) (reg : RegisterPoll)
    (before after : List RegisterPoll),
    (executor.slaveQueue slaveId).pollQueue = before ++ reg :: after →
    queue.pollQueue = before ++ after →
    queue.writeQueue = (executor.slaveQueue slaveId).writeQueue →
    property executor → property
      { executor.setSlaveQueue slaveId queue with
        waitingCommand := some (.poll reg)
        currentSlaveQueue := some slaveId })

include searched took

theorem elect_induction {period : Duration} {slaves : List Int}
    {currentDiff : Duration}
    (elected : elect period slaves currentDiff executor =
      some (next, events)) (initially : property executor) :
    property next := by
  have rounds := elect_rounds elected
  clear elected
  induction rounds with
  | refl => exact initially
  | tail _ round induction =>
    cases round with
    | searched polls writes => exact searched _ _ _ polls writes induction
    | took polls remaining writes =>
      exact took _ _ _ _ _ _ polls remaining writes induction

/-- The same for `chooseCommand`, which sets the counter for the first queue,
holds the election and falls back on the next command of that queue. -/
theorem chooseCommand_induction
    (popped : ∀ (executor : ModbusExecutor) (slaveId : Int)
      (queue : ModbusRequestsQueues) (command : RegisterCommand),
      (executor.slaveQueue slaveId).popNext = some (command, queue) →
      property executor → property
        { executor.setSlaveQueue slaveId queue with
          waitingCommand := some command
          currentSlaveQueue := some slaveId })
    (chosen : executor.chooseCommand firstAdded now = some (next, events))
    (initially : ∀ left, 0 < left → property
      { executor with
        currentSlaveQueue := some firstAdded
        commandsLeft := left }) :
    property next := by
  rw [chooseCommand] at chosen
  obtain ⟨left, positive, reset⟩ := resetCommandsCounter_of_current
    (show { executor with
      currentSlaveQueue := some firstAdded }.currentSlaveQueue =
        some firstAdded from rfl) false
  rw [reset] at chosen
  split at chosen
  · cases chosen
  · rename_i election
    have elected := elect_induction property searched took election
      (initially left positive)
    split at chosen
    · obtain ⟨last, popping, combined⟩ := Option.map_eq_some_iff.mp chosen
      cases combined
      obtain ⟨command, queue, fromQueue, rfl⟩ := popCurrent_eq_some popping
      exact popped _ _ _ _ fromQueue elected
    · cases chosen
      exact elected

end Induction

/-- The fields of the last command are those of another executor. -/
structure SameLast (executor next : ModbusExecutor) : Prop where
  lastCommand : next.lastCommand = executor.lastCommand
  lastCommandTime : next.lastCommandTime = executor.lastCommandTime
  retriesLeft : next.retriesLeft = executor.retriesLeft
  maxRetries : next.maxRetries = executor.maxRetries

theorem SameLast.refl (executor : ModbusExecutor) :
    SameLast executor executor :=
  ⟨rfl, rfl, rfl, rfl⟩

theorem SameLast.trans {middle : ModbusExecutor}
    (first : SameLast executor middle) (second : SameLast middle next) :
    SameLast executor next :=
  ⟨second.lastCommand.trans first.lastCommand,
    second.lastCommandTime.trans first.lastCommandTime,
    second.retriesLeft.trans first.retriesLeft,
    second.maxRetries.trans first.maxRetries⟩

theorem SameLast.of_eq {slaveQueues : OrderedMap Int ModbusRequestsQueues}
    {currentSlaveQueue : Option Int} {commandsLeft : Nat}
    {writeCommandsQueued : Int} {waitingCommand : Option RegisterCommand}
    (same : next =
      { executor with
        slaveQueues, currentSlaveQueue, commandsLeft, writeCommandsQueued
        waitingCommand, initialPoll }) : SameLast executor next := by
  rw [same]
  exact ⟨rfl, rfl, rfl, rfl⟩

theorem Taken.sameLast
    (taken : Taken executor ready) : SameLast executor ready := by
  obtain ⟨_, _, _, _, same⟩ := taken.eq
  exact .of_eq same

theorem chooseCommand_sameLast
    (chosen : executor.chooseCommand firstAdded now = some (next, events)) :
    SameLast executor next := by
  apply chooseCommand_induction (SameLast executor) _ _ _ chosen
  · intro left _
    exact .of_eq rfl
  · intro reached slaveId queue _ _ same
    exact same.trans (.of_eq rfl)
  · intro reached _ _ _ _ _ _ _ _ same
    exact same.trans (.of_eq rfl)
  · intro reached _ _ _ _ same
    exact same.trans (.of_eq rfl)

theorem addPollList_sameLast {registers : OrderedMap Int (List RegisterPoll)}
    (added : executor.addPollList registers initialPoll now =
      some (next, events)) : SameLast executor next := by
  have enqueued (initialPoll : Bool) : SameLast executor
      ({ executor with initialPoll }.enqueuePolls registers.entries).1 := by
    obtain ⟨slaveQueues, same⟩ :=
      { executor with initialPoll }.enqueuePolls_eq registers.entries
    exact .of_eq same
  cases addPollList_added added with
  | ignored _ _ => exact .refl executor
  | @queued initialPoll _ _ => exact enqueued initialPoll
  | @chosen initialPoll _ _ _ _ _ _ _ choice =>
    exact (enqueued initialPoll).trans (chooseCommand_sameLast choice)

theorem addReadCommand_sameLast (executor : ModbusExecutor)
    (reg : RegisterPoll) :
    SameLast executor (executor.addReadCommand reg).1 := by
  rw [addReadCommand]
  split
  · rw [(resetCommandsCounter_eq _ _).choose_spec]
    exact .of_eq rfl
  · exact .of_eq rfl

theorem addWriteCommand_sameLast (executor : ModbusExecutor)
    (cmd : RegisterWrite) (endAnswer : Bool) :
    SameLast executor (executor.addWriteCommand cmd endAnswer).1 := by
  rw [addWriteCommand]
  dsimp only
  split
  · rw [(resetCommandsCounter_eq _ _).choose_spec]
    dsimp only
    split <;> exact .of_eq rfl
  · split
    · rw [(resetCommandsCounter_eq _ _).choose_spec]
      exact .of_eq rfl
    · exact .of_eq rfl

theorem step_sameLast (stepped : executor.step call = some (next, events)) :
    (∃ input, call = .executeNext input ∧ Executed executor input next events) ∨
      (∀ input, call ≠ .executeNext input) ∧ SameLast executor next := by
  cases call with
  | setupInitialPoll registers now =>
    exact .inr ⟨by simp, addPollList_sameLast stepped⟩
  | addPollList registers now =>
    exact .inr ⟨by simp, addPollList_sameLast stepped⟩
  | addReadCommand reg =>
    have same := executor.addReadCommand_sameLast reg
    rw [Option.some.inj stepped] at same
    exact .inr ⟨by simp, same⟩
  | addWriteCommand cmd endAnswer =>
    have same := executor.addWriteCommand_sameLast cmd endAnswer
    rw [Option.some.inj stepped] at same
    exact .inr ⟨by simp, same⟩
  | executeNext input =>
    obtain ⟨⟨last, logged, returned⟩, executed, same⟩ :=
      Option.map_eq_some_iff.mp stepped
    cases same
    exact .inl ⟨input, rfl, executeNext_executed executed⟩

theorem Execution.lastReadOk (execution : Execution executor input next events)
    {outcome : CallOutcome} {retriesLeft : Nat}
    (issued : .issued (.poll reg) outcome retriesLeft ∈ events) :
    (next.polls reg).lastReadOk = outcome.isOk := by
  cases execution with
  | quiet _ => cases issued
  | read _ _ noted polls =>
    rcases List.mem_cons.mp issued with same | later
    · cases same
      rw [polls, Function.update_self]
      exact noted
    · simp at later
  | write _ _ => simp at issued

/-- A busy slot keeps its command until it is executed or a write takes the
fast path. -/
theorem step_keepsSlot (stepped : executor.step call = some (next, events))
    (other : ∀ input, call ≠ .executeNext input)
    (slow : ∀ cmd endAnswer, call = .addWriteCommand cmd endAnswer →
      executor.writeCommandsQueued ≠ 0)
    (busy : executor.waitingCommand ≠ none) :
    next.waitingCommand = executor.waitingCommand := by
  have added {registers : OrderedMap Int (List RegisterPoll)}
      (adding : Added executor registers next events) :
      next.waitingCommand = executor.waitingCommand := by
    cases adding with
    | ignored _ _ => rfl
    | queued _ _ =>
      rw [(enqueuePolls_eq _ _).choose_spec]
    | chosen _ done _ _ =>
      simp [allDone, busy] at done
  cases call with
  | setupInitialPoll registers now => exact added (addPollList_added stepped)
  | addPollList registers now => exact added (addPollList_added stepped)
  | addReadCommand reg =>
    have same : next = (executor.addReadCommand reg).1 :=
      (congrArg Prod.fst (Option.some.inj stepped)).symm
    rw [same, addReadCommand]
    split
    · rw [(resetCommandsCounter_eq _ _).choose_spec]
      rfl
    · rfl
  | addWriteCommand cmd endAnswer =>
    have same : next = (executor.addWriteCommand cmd endAnswer).1 :=
      (congrArg Prod.fst (Option.some.inj stepped)).symm
    rw [same, addWriteCommand, if_neg (slow cmd endAnswer rfl)]
    dsimp only
    split
    · rw [(resetCommandsCounter_eq _ _).choose_spec]
      rfl
    · rfl
  | executeNext input => exact (other input rfl).elim

end ModbusExecutor

end MqmGateway
