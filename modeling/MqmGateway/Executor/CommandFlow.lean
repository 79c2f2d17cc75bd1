import MqmGateway.ModbusExecutor

/-!
# How commands move through the executor

Every call on the executor is a sequence of a few elementary moves of commands
between the queues, the waiting slot and the bus.  The moves say once what a
call can do to the pending commands; what they preserve holds of every run.
-/

namespace MqmGateway

/-- The pending commands and the write counter. -/
structure CommandStore where
  queues : OrderedMap Int ModbusRequestsQueues
  waiting : Option RegisterCommand
  writesQueued : Int

namespace CommandStore

def queue (store : CommandStore) (slaveId : Int) : ModbusRequestsQueues :=
  store.queues.getD slaveId {}

def setQueue (store : CommandStore) (slaveId : Int)
    (queue : ModbusRequestsQueues) : CommandStore :=
  { store with queues := store.queues.set slaveId queue }

/-- Put a command into the waiting slot, or empty it. -/
def hold (store : CommandStore) (waiting : Option RegisterCommand) :
    CommandStore :=
  { store with waiting }

def setCount (store : CommandStore) (writesQueued : Int) : CommandStore :=
  { store with writesQueued }

@[simp] theorem setQueue_waiting (store : CommandStore) (slaveId : Int)
    (queue : ModbusRequestsQueues) :
    (store.setQueue slaveId queue).waiting = store.waiting := rfl

@[simp] theorem setQueue_writesQueued (store : CommandStore) (slaveId : Int)
    (queue : ModbusRequestsQueues) :
    (store.setQueue slaveId queue).writesQueued = store.writesQueued := rfl

@[simp] theorem hold_writesQueued (store : CommandStore)
    (waiting : Option RegisterCommand) :
    (store.hold waiting).writesQueued = store.writesQueued := rfl

@[simp] theorem setCount_writesQueued (store : CommandStore)
    (writesQueued : Int) :
    (store.setCount writesQueued).writesQueued = writesQueued := rfl

@[simp] theorem hold_waiting (store : CommandStore)
    (waiting : Option RegisterCommand) :
    (store.hold waiting).waiting = waiting := rfl

@[simp] theorem hold_queue (store : CommandStore)
    (waiting : Option RegisterCommand) (slaveId : Int) :
    (store.hold waiting).queue slaveId = store.queue slaveId := rfl

@[simp] theorem setCount_waiting (store : CommandStore) (writesQueued : Int) :
    (store.setCount writesQueued).waiting = store.waiting := rfl

@[simp] theorem setCount_queue (store : CommandStore) (writesQueued : Int)
    (slaveId : Int) :
    (store.setCount writesQueued).queue slaveId = store.queue slaveId := rfl

@[simp] theorem queue_setQueue (store : CommandStore) (slaveId other : Int)
    (queue : ModbusRequestsQueues) :
    (store.setQueue slaveId queue).queue other =
      if other = slaveId then queue else store.queue other := by
  simp [CommandStore.queue, setQueue]

@[simp] theorem setQueue_setQueue (store : CommandStore) (slaveId : Int)
    (first second : ModbusRequestsQueues) :
    (store.setQueue slaveId first).setQueue slaveId second =
      store.setQueue slaveId second := by
  simp [setQueue]

end CommandStore

namespace CallOutcome

/-- After a call with this outcome the executor lets go of the command. -/
def finishes (outcome : CallOutcome) (retriesLeft : Nat) : Bool :=
  match outcome with
  | .ok _ => true
  | .failed => retriesLeft = 0
  | .threw => false

def isOk : CallOutcome → Bool
  | .ok _ => true
  | _ => false

end CallOutcome

/-- A successful write takes one off the write counter. -/
def RegisterCommand.writeDone (command : RegisterCommand)
    (outcome : CallOutcome) : Int :=
  if !command.isPoll && outcome.isOk then 1 else 0

/-- The elementary moves.  A queue that changes is given as a whole; the
premises fix its two deques and leave its iterator and its turn flag open. -/
inductive Move : CommandStore → List ExecutorEvent → CommandStore → Prop where
  | retune {store : CommandStore} {slaveId : Int}
      {queue : ModbusRequestsQueues} :
      queue.pollQueue = (store.queue slaveId).pollQueue →
      queue.writeQueue = (store.queue slaveId).writeQueue →
      Move store [] (store.setQueue slaveId queue)
  | enqueuePoll {store : CommandStore} {slaveId : Int}
      {queue : ModbusRequestsQueues} {reg : RegisterPoll} :
      reg ∉ (store.queue slaveId).pollQueue →
      queue.pollQueue = (store.queue slaveId).pollQueue ++ [reg] →
      queue.writeQueue = (store.queue slaveId).writeQueue →
      Move store [.accepted (.poll reg)] (store.setQueue slaveId queue)
  | skipPoll {store : CommandStore} {slaveId : Int} {reg : RegisterPoll} :
      reg ∈ (store.queue slaveId).pollQueue →
      Move store [.duplicate (.poll reg)] store
  | takePoll {store : CommandStore} {slaveId : Int}
      {queue : ModbusRequestsQueues} {reg : RegisterPoll}
      {before after : List RegisterPoll} :
      (∀ cmd, store.waiting ≠ some (.write cmd)) →
      (store.queue slaveId).pollQueue = before ++ reg :: after →
      queue.pollQueue = before ++ after →
      queue.writeQueue = (store.queue slaveId).writeQueue →
      Move store (store.waiting.toList.map .displaced)
        ((store.setQueue slaveId queue).hold (some (.poll reg)))
  | takeWrite {store : CommandStore} {slaveId : Int}
      {queue : ModbusRequestsQueues} {cmd : RegisterWrite} :
      store.waiting = none →
      (store.queue slaveId).writeQueue = cmd :: queue.writeQueue →
      queue.pollQueue = (store.queue slaveId).pollQueue →
      Move store []
        ((store.setQueue slaveId queue).hold (some (.write cmd)))
  | jumpWrite {store : CommandStore} {cmd : RegisterWrite} :
      store.writesQueued = 0 →
      store.waiting = none →
      Move store [.accepted (.write cmd)]
        ((store.hold (some (.write cmd))).setCount (store.writesQueued + 1))
  | preempt {store : CommandStore} {cmd : RegisterWrite}
      {waiting : RegisterCommand} :
      store.writesQueued = 0 →
      store.waiting = some waiting →
      Move store [.accepted (.write cmd)]
        (((store.setQueue cmd.slaveId
          ((store.queue cmd.slaveId).readdCommand waiting)).hold
            (some (.write cmd))).setCount (store.writesQueued + 1))
  | enqueueWrite {store : CommandStore} {cmd : RegisterWrite} :
      store.writesQueued ≠ 0 →
      Move store [.accepted (.write cmd)]
        ((store.setQueue cmd.slaveId
          ((store.queue cmd.slaveId).addWriteCommand cmd)).setCount
            (store.writesQueued + 1))
  | attempt {store : CommandStore} {command : RegisterCommand}
      {outcome : CallOutcome} {retriesLeft : Nat} :
      store.waiting = some command →
      outcome.finishes retriesLeft = false →
      Move store [.issued command outcome retriesLeft] store
  | finish {store : CommandStore} {command : RegisterCommand}
      {outcome : CallOutcome} {retriesLeft : Nat} {writesQueued : Int} :
      store.waiting = some command →
      outcome.finishes retriesLeft = true →
      writesQueued = store.writesQueued - command.writeDone outcome →
      Move store [.issued command outcome retriesLeft]
        ((store.hold none).setCount writesQueued)
  | send {store : CommandStore} {source : RegisterCommand}
      {item : QueueItem} :
      Move store [.sent source item] store

theorem Move.short {store next : CommandStore} {events : List ExecutorEvent}
    (moved : Move store events next) : events.length ≤ 1 := by
  cases moved with
  | takePoll =>
    rw [List.length_map]
    cases store.waiting <;> simp
  | _ => simp

theorem sends_trace (store : CommandStore) (source : RegisterCommand)
    (messages : List QueueItem) :
    Trace Move store (messages.map (ExecutorEvent.sent source)) store := by
  induction messages with
  | nil => exact .refl
  | cons item messages induction => exact .cons .send induction

theorem addPollList_trace {store : CommandStore} {slaveId : Int}
    {queue : ModbusRequestsQueues} (stored : store.queue slaveId = queue)
    (pollList : List RegisterPoll) :
    Trace Move store (queue.addPollList pollList).2
      (store.setQueue slaveId (queue.addPollList pollList).1) := by
  induction pollList generalizing store queue with
  | nil =>
    apply Trace.single
    apply Move.retune
    · rw [stored, ModbusRequestsQueues.addPollList]
    · rw [stored, ModbusRequestsQueues.addPollList]
  | cons reg pollList induction =>
    rw [ModbusRequestsQueues.addPollList]
    split
    · rename_i member
      rw [← stored] at member
      exact .cons (.skipPoll member) (induction stored)
    · rename_i fresh
      rw [← stored] at fresh
      let added := { queue with pollQueue := queue.pollQueue ++ [reg] }
      have enqueued : Move store [.accepted (.poll reg)]
          (store.setQueue slaveId added) := by
        apply Move.enqueuePoll fresh
        · rw [stored]
        · rw [stored]
      have rest := induction
        (show (store.setQueue slaveId added).queue slaveId = added by simp)
      rw [CommandStore.setQueue_setQueue] at rest
      exact .cons enqueued rest

def ExecutorEvent.addsPoll (reg : RegisterPoll) (event : ExecutorEvent) :
    Prop :=
  event = .accepted (.poll reg) ∨ event = .duplicate (.poll reg)

theorem ModbusRequestsQueues.addPollList_logs (queue : ModbusRequestsQueues)
    (pollList : List RegisterPoll) {event : ExecutorEvent}
    (logged : event ∈ (queue.addPollList pollList).2) :
    ∃ reg ∈ pollList, event.addsPoll reg := by
  induction pollList generalizing queue with
  | nil => cases logged
  | cons reg pollList induction =>
    have later {queue : ModbusRequestsQueues}
        (rest : event ∈ (queue.addPollList pollList).2) :
        ∃ added ∈ reg :: pollList, event.addsPoll added := by
      obtain ⟨added, listed, adds⟩ := induction queue rest
      exact ⟨added, List.mem_cons_of_mem reg listed, adds⟩
    rw [addPollList] at logged
    split at logged
    · rcases List.mem_cons.mp logged with here | rest
      · exact ⟨reg, List.mem_cons_self, .inr here⟩
      · exact later rest
    · rcases List.mem_cons.mp logged with here | rest
      · exact ⟨reg, List.mem_cons_self, .inl here⟩
      · exact later rest

namespace ModbusExecutor

def commands (executor : ModbusExecutor) : CommandStore :=
  { queues := executor.slaveQueues
    waiting := executor.waitingCommand
    writesQueued := executor.writeCommandsQueued }

@[simp] theorem resetCommandsCounter_commands (executor : ModbusExecutor)
    (endAnswer : Bool) :
    (executor.resetCommandsCounter endAnswer).commands = executor.commands := by
  obtain ⟨left, same⟩ := executor.resetCommandsCounter_eq endAnswer
  rw [same]
  rfl

@[simp] theorem finishInitialPoll_commands (executor : ModbusExecutor) :
    executor.finishInitialPoll.commands = executor.commands := by
  rw [finishInitialPoll]
  split <;> rfl

@[simp] theorem startCommand_commands (executor : ModbusExecutor)
    (command : RegisterCommand) :
    (executor.startCommand command).commands = executor.commands := by
  rw [startCommand]
  split <;> rfl

theorem enqueuePolls_trace (executor : ModbusExecutor)
    (registers : List (Int × List RegisterPoll)) :
    Trace Move executor.commands (executor.enqueuePolls registers).2
      (executor.enqueuePolls registers).1.commands := by
  induction registers generalizing executor with
  | nil => exact .refl
  | cons entry registers induction =>
    obtain ⟨slaveId, pollList⟩ := entry
    let added := (executor.slaveQueue slaveId).addPollList pollList
    have here : Trace Move executor.commands added.2
        (executor.setSlaveQueue slaveId added.1).commands :=
      addPollList_trace rfl pollList
    exact here.trans (induction _)

/-- What the election does with the queue of one slave: it only looks for a
poll, or it takes one and displaces what waits. -/
inductive ElectionRound :
    ModbusExecutor → List ExecutorEvent → ModbusExecutor → Prop where
  | searched {executor : ModbusExecutor} {slaveId : Int}
      {queue : ModbusRequestsQueues} :
      queue.pollQueue = (executor.slaveQueue slaveId).pollQueue →
      queue.writeQueue = (executor.slaveQueue slaveId).writeQueue →
      ElectionRound executor [] (executor.setSlaveQueue slaveId queue)
  | took {executor : ModbusExecutor} {slaveId : Int}
      {queue : ModbusRequestsQueues} {reg : RegisterPoll}
      {before after : List RegisterPoll} :
      (executor.slaveQueue slaveId).pollQueue = before ++ reg :: after →
      queue.pollQueue = before ++ after →
      queue.writeQueue = (executor.slaveQueue slaveId).writeQueue →
      ElectionRound executor
        (executor.waitingCommand.toList.map .displaced)
        { executor.setSlaveQueue slaveId queue with
          waitingCommand := some (.poll reg)
          currentSlaveQueue := some slaveId }

variable {period currentDiff : Duration} {slaves : List Int}
  {executor next : ModbusExecutor} {events : List ExecutorEvent} {now : Int}
  {registers : OrderedMap Int (List RegisterPoll)} {initialPoll : Bool}
  {event : ExecutorEvent}

theorem elect_rounds (elected : elect period slaves currentDiff executor =
      some (next, events)) :
    Trace ElectionRound executor events next := by
  induction slaves generalizing currentDiff executor next events with
  | nil =>
    cases elected
    exact .refl
  | cons slaveId slaves induction =>
    rw [elect] at elected
    dsimp only at elected
    split at elected
    · split at elected
      · split at elected
        · cases elected
        · rename_i reg queue popped
          obtain ⟨before, after, polls, remaining, writes⟩ :=
            ModbusRequestsQueues.popFirstWithDelay_eq_some popped
          simp only [ModbusRequestsQueues.findForSilencePeriod_pollQueue,
            ModbusRequestsQueues.findForSilencePeriod_writeQueue]
            at polls writes
          have taken := Trace.single
            (ElectionRound.took polls remaining writes)
          split at elected
          · cases elected
            exact taken
          · obtain ⟨⟨last, later⟩, rest, combined⟩ :=
              Option.map_eq_some_iff.mp elected
            cases combined
            exact taken.trans (induction rest)
      · refine (Trace.single (.searched ?_ ?_)).trans (induction elected)
        · exact ModbusRequestsQueues.findForSilencePeriod_pollQueue ..
        · exact ModbusRequestsQueues.findForSilencePeriod_writeQueue ..
    · exact induction elected

theorem elect_trace
    (noWrite : ∀ cmd, executor.waitingCommand ≠ some (.write cmd))
    (elected : elect period slaves currentDiff executor = some (next, events)) :
    Trace Move executor.commands events next.commands := by
  have both : (∀ cmd, next.waitingCommand ≠ some (.write cmd)) ∧
      Trace Move executor.commands events next.commands := by
    have rounds := elect_rounds elected
    clear elected
    induction rounds with
    | refl => exact ⟨noWrite, .refl⟩
    | tail _ round induction =>
      obtain ⟨noWrite, front⟩ := induction
      cases round with
      | searched polls writes =>
        exact ⟨noWrite, front.tail (Move.retune polls writes)⟩
      | took polls remaining writes =>
        exact ⟨by simp, front.tail
          (Move.takePoll noWrite polls remaining writes)⟩
  exact both.2

theorem popCurrent_trace {slaveId : Int} (idle : executor.waitingCommand = none)
    (popped : executor.popCurrent slaveId = some next) :
    Trace Move executor.commands [] next.commands := by
  obtain ⟨⟨command, queue⟩, taken, stored⟩ := Option.map_eq_some_iff.mp popped
  cases stored
  rcases ModbusRequestsQueues.popNext_eq_some taken with
    ⟨reg, rfl, polls, writes⟩ | ⟨cmd, rfl, writes, polls⟩
  · have noWrite : ∀ cmd, executor.commands.waiting ≠ some (.write cmd) := by
      simp [commands, idle]
    have front : (executor.commands.queue slaveId).pollQueue =
        [] ++ reg :: queue.pollQueue := polls
    have moved := Trace.single (Move.takePoll noWrite front rfl writes)
    have nothingDisplaced : executor.commands.waiting.toList.map
        ExecutorEvent.displaced = [] := by
      simp [commands, idle]
    rw [nothingDisplaced] at moved
    exact moved
  · exact .single (Move.takeWrite idle writes polls)

variable {reg : RegisterPoll} {cmd : RegisterWrite}
  {input : ExecuteInput} {returned : Except ModbusException Duration}
  {call : ExecutorCall}

theorem chooseCommand_trace {firstAdded : Int}
    (idle : executor.waitingCommand = none)
    (chosen : executor.chooseCommand firstAdded now = some (next, events)) :
    Trace Move executor.commands events next.commands := by
  rw [chooseCommand] at chosen
  split at chosen
  · cases chosen
  · rename_i elected displaced election
    obtain ⟨left, same⟩ := resetCommandsCounter_eq
      { executor with currentSlaveQueue := some firstAdded } false
    rw [same] at election
    have electing := elect_trace (by simp [idle]) election
    split at chosen
    · rename_i stillIdle current
      obtain ⟨popped, popping, combined⟩ := Option.map_eq_some_iff.mp chosen
      cases combined
      have both := electing.trans (popCurrent_trace stillIdle popping)
      rw [List.append_nil] at both
      exact both
    · cases chosen
      exact electing

theorem enqueuePolls_eq (executor : ModbusExecutor)
    (registers : List (Int × List RegisterPoll)) :
    ∃ slaveQueues, (executor.enqueuePolls registers).1 =
      { executor with slaveQueues } := by
  induction registers generalizing executor with
  | nil => exact ⟨executor.slaveQueues, rfl⟩
  | cons entry registers induction =>
    obtain ⟨slaveQueues, same⟩ := induction (executor.setSlaveQueue entry.1
      ((executor.slaveQueue entry.1).addPollList entry.2).1)
    exact ⟨slaveQueues, same⟩

/-- What adding a poll list does. -/
inductive Added (executor : ModbusExecutor)
    (registers : OrderedMap Int (List RegisterPoll)) :
    ModbusExecutor → List ExecutorEvent → Prop where
  | ignored :
      executor.initialPoll = true →
      executor.pollDone = false →
      Added executor registers executor []
  | queued {initialPoll : Bool} :
      (executor.initialPoll = true → executor.pollDone = true) →
      (executor.allDone = true → firstAdded registers = none) →
      Added executor registers
        ({ executor with initialPoll }.enqueuePolls registers.entries).1
        ({ executor with initialPoll }.enqueuePolls registers.entries).2
  | chosen {initialPoll : Bool} {slaveId now : Int} {next : ModbusExecutor}
      {events : List ExecutorEvent} :
      (executor.initialPoll = true → executor.pollDone = true) →
      executor.allDone = true →
      firstAdded registers = some slaveId →
      ({ executor with initialPoll }.enqueuePolls
        registers.entries).1.chooseCommand slaveId now =
          some (next, events) →
      Added executor registers next
        (({ executor with initialPoll }.enqueuePolls registers.entries).2 ++
          events)

theorem addPollList_added
    (added : executor.addPollList registers initialPoll now =
      some (next, events)) : Added executor registers next events := by
  rw [addPollList] at added
  split at added
  · rename_i busy
    cases added
    obtain ⟨initial, polling⟩ := Bool.and_eq_true_iff.mp busy
    exact .ignored initial (by simpa using polling)
  · rename_i accepts
    have ready : executor.initialPoll = true → executor.pollDone = true := by
      simpa using accepts
    have queued (rests : executor.allDone = true →
        firstAdded registers = none) :
        Added executor registers
          ({ executor with
            initialPoll := executor.initialPoll || initialPoll }.enqueuePolls
              registers.entries).1 _ :=
      .queued ready rests
    dsimp only at added
    split at added
    · rename_i nothing
      rw [Option.some.inj added] at queued
      exact queued fun _ => nothing
    · rename_i slaveId found
      split at added
      · rename_i done
        obtain ⟨⟨last, later⟩, choice, combined⟩ :=
          Option.map_eq_some_iff.mp added
        cases combined
        exact .chosen ready done found choice
      · rename_i busy
        rw [Option.some.inj added] at queued
        exact queued fun done => (busy done).elim

theorem addPollList_trace
    (added : executor.addPollList registers initialPoll now =
      some (next, events)) :
    Trace Move executor.commands events next.commands := by
  have enqueuing (initialPoll : Bool) := enqueuePolls_trace
    { executor with initialPoll } registers.entries
  cases addPollList_added added with
  | ignored _ _ => exact .refl
  | @queued initialPoll _ _ => exact enqueuing initialPoll
  | @chosen initialPoll _ _ _ _ _ done _ choice =>
    refine (enqueuing initialPoll).trans (chooseCommand_trace ?_ choice)
    obtain ⟨slaveQueues, same⟩ := enqueuePolls_eq
      { executor with initialPoll } registers.entries
    rw [same]
    exact Option.isNone_iff_eq_none.mp (Bool.and_eq_true_iff.mp done).1

theorem addReadCommand_trace (executor : ModbusExecutor)
    (command : RegisterPoll) :
    Trace Move executor.commands (executor.addReadCommand command).2
      (executor.addReadCommand command).1.commands := by
  have added := MqmGateway.addPollList_trace
    (rfl : executor.commands.queue command.slaveId =
      executor.slaveQueue command.slaveId) [command]
  rw [addReadCommand]
  split
  · rw [resetCommandsCounter_commands]
    exact added
  · exact added

theorem addWriteCommand_trace (executor : ModbusExecutor)
    (command : RegisterWrite) (endAnswer : Bool) :
    Trace Move executor.commands (executor.addWriteCommand command endAnswer).2
      (executor.addWriteCommand command endAnswer).1.commands := by
  apply Trace.single
  have counted (added : ModbusExecutor) :
      { added with
        writeCommandsQueued := added.writeCommandsQueued + 1 }.commands =
        { added.commands with
          writesQueued := added.commands.writesQueued + 1 } := rfl
  rw [addWriteCommand]
  dsimp only
  rw [counted]
  split
  · rename_i noneQueued
    rw [resetCommandsCounter_commands]
    cases waiting : executor.waitingCommand with
    | none => exact .jumpWrite noneQueued waiting
    | some preempted => exact .preempt noneQueued waiting
  · rename_i someQueued
    split
    · rw [resetCommandsCounter_commands]
      exact .enqueueWrite someQueued
    · exact .enqueueWrite someQueued

theorem handleRegisterReadError_state (reg : RegisterPoll)
    (state : RegisterPollState) (input : ExecuteInput) :
    (handleRegisterReadError reg state input).1.lastReadOk = false ∧
      (handleRegisterReadError reg state input).1.lastValues =
        state.lastValues ∧
      (handleRegisterReadError reg state input).1.lastReadStartTime =
        state.lastReadStartTime := by
  rw [handleRegisterReadError]
  dsimp only
  split
  · exact ⟨rfl, rfl, rfl⟩
  · dsimp only
    split <;> exact ⟨rfl, rfl, rfl⟩

theorem pollRegisters_outcome (reg : RegisterPoll) (state : RegisterPollState)
    (forceSend : Bool) (input : ExecuteInput) :
    (∃ values, (pollRegisters reg state forceSend input).2.1 = .ok values ∧
        (pollRegisters reg state forceSend input).1.lastReadOk = true) ∨
      ((pollRegisters reg state forceSend input).2.1 = .failed ∧
        (pollRegisters reg state forceSend input).1.lastReadOk = false) := by
  rw [pollRegisters]
  dsimp only
  split
  · rename_i values read
    left
    refine ⟨values, ?_⟩
    split <;> exact ⟨rfl, rfl⟩
  · right
    exact ⟨rfl, (handleRegisterReadError_state reg _ input).1⟩

theorem sendPoll_trace (waiting : executor.commands.waiting = some (.poll reg))
    (input : ExecuteInput) :
    Trace Move executor.commands (executor.sendPoll reg input).2.2
      (executor.sendPoll reg input).1.commands := by
  have outcome := pollRegisters_outcome reg (executor.polls reg)
    (executor.initialPoll || reg.isRpc) input
  rw [sendPoll]
  generalize pollRegisters reg (executor.polls reg)
    (executor.initialPoll || reg.isRpc) input = result at outcome ⊢
  obtain ⟨state, called, messages⟩ := result
  have released {outcome : CallOutcome}
      (finishes : outcome.finishes executor.readRetryCount = true)
      (events : List ExecutorEvent)
      (later : Trace Move { executor.commands with waiting := none } events
        { executor.commands with waiting := none }) :
      Trace Move executor.commands
        (.issued (.poll reg) outcome executor.readRetryCount :: events)
        { executor.commands with waiting := none } := by
    refine .cons (.finish waiting finishes ?_) later
    simp [RegisterCommand.writeDone, RegisterCommand.isPoll]
  rcases outcome with ⟨values, succeeded, readOk⟩ | ⟨failed, readFailed⟩
  · dsimp only at succeeded readOk ⊢
    subst succeeded
    rw [if_pos readOk]
    exact released rfl _ (sends_trace _ _ _)
  · dsimp only at failed readFailed ⊢
    subst failed
    rw [if_neg (by simp [readFailed])]
    split
    · rename_i retriesLeft
      refine .cons (.attempt waiting ?_) (sends_trace _ _ _)
      simpa [CallOutcome.finishes] using retriesLeft
    · rename_i exhausted
      have finishes : CallOutcome.failed.finishes executor.readRetryCount =
          true := by
        simpa [CallOutcome.finishes] using exhausted
      split
      · apply released finishes
        exact (sends_trace _ _ _).trans (.single .send)
      · exact released finishes _ (sends_trace _ _ _)

theorem sendWrite_trace
    (waiting : executor.commands.waiting = some (.write cmd))
    (input : ExecuteInput) :
    Trace Move executor.commands (executor.sendWrite cmd input).2.2
      (executor.sendWrite cmd input).1.commands := by
  rw [sendWrite]
  generalize writeRegisters cmd input = result
  obtain ⟨called, messages⟩ := result
  cases called with
  | threw => exact .cons (.attempt waiting rfl) (sends_trace _ _ _)
  | failed =>
    dsimp only
    split
    · rename_i retriesLeft
      refine .cons (.attempt waiting ?_) (sends_trace _ _ _)
      simpa [CallOutcome.finishes] using retriesLeft
    · rename_i exhausted
      refine .cons (.finish waiting ?_ ?_) (sends_trace _ _ _)
      · simpa [CallOutcome.finishes] using exhausted
      · simp [RegisterCommand.writeDone, CallOutcome.isOk, commands,
          releaseCommand]
  | ok values =>
    refine .cons (.finish waiting rfl ?_) (sends_trace _ _ _)
    rfl

theorem sendCommand_trace {command : RegisterCommand}
    (waiting : executor.waitingCommand = some command) (input : ExecuteInput) :
    Trace Move executor.commands (executor.sendCommand command input).2.2
      (executor.sendCommand command input).1.commands := by
  rw [← executor.startCommand_commands command]
  have started : (executor.startCommand command).commands.waiting =
      some command := by
    rw [startCommand_commands]
    exact waiting
  cases command with
  | poll reg => exact sendPoll_trace started input
  | write cmd => exact sendWrite_trace started input

theorem takeNext_trace {ready : ModbusExecutor}
    (taken : executor.takeNext = some (.proceed ready)) :
    Trace Move executor.commands [] ready.commands := by
  rw [takeNext] at taken
  split at taken
  · rename_i idle current
    split at taken
    · split at taken
      · cases taken
      · split at taken
        · obtain ⟨popped, popping, same⟩ := Option.map_eq_some_iff.mp taken
          cases same
          rw [resetCommandsCounter_commands]
          exact popCurrent_trace idle popping
        · cases taken
    · obtain ⟨popped, popping, same⟩ := Option.map_eq_some_iff.mp taken
      cases same
      exact popCurrent_trace idle popping
  · cases taken
    exact .refl

theorem executeNext_trace
    (executed : executor.executeNext input = some (next, events, returned)) :
    Trace Move executor.commands events next.commands := by
  rw [executeNext] at executed
  split at executed
  · cases executed
  · cases executed
    exact .refl
  · rename_i ready taken
    have taking := takeNext_trace taken
    split at executed
    · cases executed
      rw [finishInitialPoll_commands]
      exact taking
    · rename_i command waiting
      dsimp only at executed
      split at executed
      · cases executed
        exact taking
      · have sending := taking.trans (sendCommand_trace waiting input)
        rw [List.nil_append] at sending
        split at executed
        · rename_i sent same
          cases executed
          rw [same] at sending
          exact sending
        · rename_i sent same
          cases executed
          rw [same] at sending
          rw [finishInitialPoll_commands]
          exact sending

theorem sendPoll_events (executor : ModbusExecutor) (reg : RegisterPoll)
    (input : ExecuteInput) :
    ∃ retriesLeft, ∃ messages : List QueueItem,
      (executor.sendPoll reg input).2.2 =
        .issued (.poll reg) (executor.sendPoll reg input).2.1 retriesLeft ::
          messages.map (ExecutorEvent.sent (.poll reg)) := by
  rw [sendPoll]
  generalize pollRegisters reg (executor.polls reg)
    (executor.initialPoll || reg.isRpc) input = result
  obtain ⟨state, called, messages⟩ := result
  dsimp only
  split
  · exact ⟨_, messages, rfl⟩
  · split
    · exact ⟨_, messages, rfl⟩
    · split
      · refine ⟨executor.readRetryCount, messages ++ [.registerReadFailed
          (reg.failedMessage state reg.commandId)], ?_⟩
        rw [List.map_append]
        rfl
      · exact ⟨_, messages, rfl⟩

theorem sendWrite_events (executor : ModbusExecutor) (cmd : RegisterWrite)
    (input : ExecuteInput) :
    ∃ retriesLeft, ∃ messages : List QueueItem,
      (executor.sendWrite cmd input).2.2 =
        .issued (.write cmd) (executor.sendWrite cmd input).2.1 retriesLeft ::
          messages.map (ExecutorEvent.sent (.write cmd)) := by
  rw [sendWrite]
  generalize writeRegisters cmd input = result
  obtain ⟨called, messages⟩ := result
  refine ⟨executor.writeRetryCount, messages, ?_⟩
  cases called with
  | threw => rfl
  | failed =>
    dsimp only
    split <;> rfl
  | ok values => rfl

theorem sendCommand_events (executor : ModbusExecutor)
    (command : RegisterCommand) (input : ExecuteInput) :
    ∃ retriesLeft, ∃ messages : List QueueItem,
      (executor.sendCommand command input).2.2 =
        .issued command (executor.sendCommand command input).2.1 retriesLeft ::
          messages.map (ExecutorEvent.sent command) := by
  cases command with
  | poll reg => exact sendPoll_events _ reg input
  | write cmd => exact sendWrite_events _ cmd input

/-- `executeNext` logs nothing, or what executing the waiting command logs. -/
theorem executeNext_events
    (executed : executor.executeNext input = some (next, events, returned)) :
    events = [] ∨ ∃ ready command, executor.takeNext = some (.proceed ready) ∧
      ready.waitingCommand = some command ∧
      ready.delayLeft command input.delayCheck ≤ 0 ∧
      events = (ready.sendCommand command input).2.2 := by
  rw [executeNext] at executed
  split at executed
  · cases executed
  · cases executed
    exact .inl rfl
  · rename_i ready taken
    split at executed
    · cases executed
      exact .inl rfl
    · rename_i command waiting
      dsimp only at executed
      split at executed
      · cases executed
        exact .inl rfl
      · rename_i due
        right
        refine ⟨ready, command, taken, waiting, not_lt.mp due, ?_⟩
        split at executed
        · rename_i same
          cases executed
          rw [same]
        · rename_i same
          cases executed
          rw [same]

theorem enqueuePolls_logs (executor : ModbusExecutor)
    (entries : List (Int × List RegisterPoll))
    (logged : event ∈ (executor.enqueuePolls entries).2) :
    ∃ entry ∈ entries, ∃ reg ∈ entry.2, event.addsPoll reg := by
  induction entries generalizing executor with
  | nil => cases logged
  | cons entry entries induction =>
    rcases List.mem_append.mp logged with here | later
    · exact ⟨entry, List.mem_cons_self,
        ModbusRequestsQueues.addPollList_logs _ _ here⟩
    · obtain ⟨other, listed, adds⟩ := induction _ later
      exact ⟨other, List.mem_cons_of_mem entry listed, adds⟩

theorem elect_logs
    (elected : elect period slaves currentDiff executor = some (next, events))
    (logged : event ∈ events) :
    ∃ command, event = .displaced command := by
  have rounds := elect_rounds elected
  clear elected
  induction rounds with
  | refl => cases logged
  | tail _ round induction =>
    rcases List.mem_append.mp logged with earlier | here
    · exact induction earlier
    · cases round with
      | searched _ _ => cases here
      | took _ _ _ =>
        obtain ⟨command, _, same⟩ := List.mem_map.mp here
        exact ⟨command, same.symm⟩

theorem chooseCommand_logs {firstAdded : Int}
    (chosen : executor.chooseCommand firstAdded now = some (next, events))
    (logged : event ∈ events) :
    ∃ command, event = .displaced command := by
  rw [chooseCommand] at chosen
  split at chosen
  · cases chosen
  · rename_i election
    split at chosen
    · obtain ⟨popped, _, same⟩ := Option.map_eq_some_iff.mp chosen
      cases same
      exact elect_logs election logged
    · cases chosen
      exact elect_logs election logged

theorem addPollList_logs
    (added : executor.addPollList registers initialPoll now =
      some (next, events)) (logged : event ∈ events) :
    (∃ entry ∈ registers.entries, ∃ reg ∈ entry.2, event.addsPoll reg) ∨
      ∃ command, event = .displaced command := by
  cases addPollList_added added with
  | ignored _ _ => cases logged
  | queued _ _ => exact .inl (enqueuePolls_logs _ _ logged)
  | chosen _ _ _ choice =>
    rcases List.mem_append.mp logged with here | there
    · exact .inl (enqueuePolls_logs _ _ here)
    · exact .inr (chooseCommand_logs choice there)

theorem addReadCommand_logs (logged : event ∈ (executor.addReadCommand reg).2) :
    event.addsPoll reg := by
  have added : event ∈
      ((executor.slaveQueue reg.slaveId).addPollList [reg]).2 := by
    rw [addReadCommand] at logged
    split at logged
    · exact logged
    · exact logged
  obtain ⟨listed, member, adds⟩ :=
    ModbusRequestsQueues.addPollList_logs _ _ added
  cases List.mem_singleton.mp member
  exact adds

/-- A write is accepted by the call that adds it and by no other. -/
theorem step_accepts_write (stepped : executor.step call = some (next, events))
    (accepted : .accepted (.write cmd) ∈ events) :
    ∃ endAnswer, call = .addWriteCommand cmd endAnswer := by
  cases call with
  | setupInitialPoll registers now =>
    rcases addPollList_logs stepped accepted with
      ⟨_, _, _, _, adds⟩ | ⟨_, displaced⟩
    · simp [ExecutorEvent.addsPoll] at adds
    · cases displaced
  | addPollList registers now =>
    rcases addPollList_logs stepped accepted with
      ⟨_, _, _, _, adds⟩ | ⟨_, displaced⟩
    · simp [ExecutorEvent.addsPoll] at adds
    · cases displaced
  | addReadCommand reg =>
    have logged : (executor.addReadCommand reg).2 = events :=
      congrArg Prod.snd (Option.some.inj stepped)
    rw [← logged] at accepted
    have adds := addReadCommand_logs accepted
    simp [ExecutorEvent.addsPoll] at adds
  | addWriteCommand added endAnswer =>
    have logged : [.accepted (.write added)] = events :=
      congrArg Prod.snd (Option.some.inj stepped)
    rw [← logged] at accepted
    cases List.mem_singleton.mp accepted
    exact ⟨endAnswer, rfl⟩
  | executeNext input =>
    obtain ⟨⟨last, logged, returned⟩, executed, same⟩ :=
      Option.map_eq_some_iff.mp stepped
    cases same
    rcases executeNext_events executed with
      nothing | ⟨ready, sent, _, _, _, rfl⟩
    · rw [nothing] at accepted
      cases accepted
    · obtain ⟨retriesLeft, messages, logged⟩ :=
        ready.sendCommand_events sent input
      rw [logged] at accepted
      simp at accepted

theorem step_trace (stepped : executor.step call = some (next, events)) :
    Trace Move executor.commands events next.commands := by
  cases call with
  | setupInitialPoll registers now => exact addPollList_trace stepped
  | addPollList registers now => exact addPollList_trace stepped
  | addReadCommand command =>
    have added := addReadCommand_trace executor command
    rw [Option.some.inj stepped] at added
    exact added
  | addWriteCommand command endAnswer =>
    have added := addWriteCommand_trace executor command endAnswer
    rw [Option.some.inj stepped] at added
    exact added
  | executeNext input =>
    obtain ⟨⟨last, logged, returned⟩, executed, same⟩ :=
      Option.map_eq_some_iff.mp stepped
    cases same
    exact executeNext_trace executed

theorem run_trace {allowed : ModbusExecutor → List ExecutorEvent →
      ExecutorCall → Prop}
    {start : ModbusExecutor} {history : List ExecutorEvent}
    (run : Runs step allowed start executor history) :
    Trace Move start.commands history executor.commands :=
  run.trace step_trace

end ModbusExecutor

end MqmGateway
