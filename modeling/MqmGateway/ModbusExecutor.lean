import MqmGateway.Library.OrderedMap
import MqmGateway.Library.Runs
import MqmGateway.ModbusContext
import MqmGateway.ModbusRequestQueues

/-!
# The modbus executor

The executor owns the queues of every slave and one waiting slot.  Clock
readings and the answers of the bus are inputs of the calls that use them.
The messages a call sends to the main thread are part of its log.
-/

namespace MqmGateway

/-- `currentSlaveQueue` is an iterator into `slaveQueues`; `none` is its end.
`polls` holds the mutable part of every `RegisterPoll` object. -/
structure ModbusExecutor where
  slaveQueues : OrderedMap Int ModbusRequestsQueues
  currentSlaveQueue : Option Int
  commandsLeft : Nat
  writeCommandsQueued : Int
  maxReadRetryCount : Nat
  maxWriteRetryCount : Nat
  writeRetryCount : Nat
  readRetryCount : Nat
  lastCommandTime : Int
  waitingCommand : Option RegisterCommand
  lastCommand : Option RegisterCommand
  initialPoll : Bool
  polls : RegisterPoll → RegisterPollState

/-- The clock readings of one `executeNext`, in the order they are taken, and
what the bus answers to the call it makes. -/
structure ExecuteInput where
  answer : ModbusAnswer
  delayCheck : Int
  readStart : Int
  errorCheck : Int
  errorTime : Int
  finish : Int

namespace ModbusExecutor

def WRITE_BATCH_SIZE : Nat := 10

/-- A new executor.  `created` says when each poll object was constructed. -/
def create (now : Int) (created : RegisterPoll → Int) : ModbusExecutor :=
  { slaveQueues := .empty
    currentSlaveQueue := none
    commandsLeft := 0
    writeCommandsQueued := 0
    maxReadRetryCount := 0
    maxWriteRetryCount := 0
    writeRetryCount := 0
    readRetryCount := 0
    lastCommandTime := now - 360000000000000000
    waitingCommand := none
    lastCommand := none
    initialPoll := false
    polls := fun reg => reg.initialState (created reg) }

/-- `mSlaveQueues[slaveId]`: an absent queue reads as a new one. -/
def slaveQueue (executor : ModbusExecutor) (slaveId : Int) :
    ModbusRequestsQueues :=
  executor.slaveQueues.getD slaveId {}

def setSlaveQueue (executor : ModbusExecutor) (slaveId : Int)
    (queue : ModbusRequestsQueues) : ModbusExecutor :=
  { executor with slaveQueues := executor.slaveQueues.set slaveId queue }

def allDone (executor : ModbusExecutor) : Bool :=
  executor.waitingCommand.isNone &&
    executor.slaveQueues.entries.all fun entry => entry.2.empty

def pollDone (executor : ModbusExecutor) : Bool :=
  !(executor.waitingCommand.any RegisterCommand.isPoll) &&
    executor.slaveQueues.entries.all fun entry => entry.2.pollQueue.isEmpty

/-- Without a current queue the test reads the deque behind the end of the
map, which is not an object: `endAnswer` is what it happens to see. -/
def resetCommandsCounter (executor : ModbusExecutor) (endAnswer : Bool) :
    ModbusExecutor :=
  match executor.currentSlaveQueue with
  | none =>
    if endAnswer then
      { executor with commandsLeft := WRITE_BATCH_SIZE }
    else
      executor
  | some slaveId =>
    let queue := executor.slaveQueue slaveId
    if queue.pollQueue.isEmpty then
      { executor with commandsLeft := WRITE_BATCH_SIZE }
    else
      { executor with commandsLeft := queue.pollQueue.length * 2 }

theorem resetCommandsCounter_eq (executor : ModbusExecutor) (endAnswer : Bool) :
    ∃ left, executor.resetCommandsCounter endAnswer =
      { executor with commandsLeft := left } := by
  rw [resetCommandsCounter]
  split
  · split
    · exact ⟨_, rfl⟩
    · exact ⟨executor.commandsLeft, rfl⟩
  · dsimp only
    split <;> exact ⟨_, rfl⟩

def enqueuePolls (executor : ModbusExecutor) :
    List (Int × List RegisterPoll) → ModbusExecutor × List ExecutorEvent
  | [] => (executor, [])
  | (slaveId, pollList) :: registers =>
    let added := (executor.slaveQueue slaveId).addPollList pollList
    let rest := (executor.setSlaveQueue slaveId added.1).enqueuePolls registers
    (rest.1, added.2 ++ rest.2)

/-- The election loop of `addPollList` over the slaves not visited yet.
`none`: `popFirstWithDelay` does not return. -/
def elect (period : Duration) : List Int → Duration → ModbusExecutor →
      Option (ModbusExecutor × List ExecutorEvent)
  | [], _, executor => some (executor, [])
  | slaveId :: slaves, currentDiff, executor =>
    let ignoreFirstRead := executor.currentSlaveQueue = some slaveId
    if currentDiff ≠ 0 then
      let found := (executor.slaveQueue slaveId).findForSilencePeriod period
        ignoreFirstRead
      if found.1 < currentDiff then
        match found.2.popFirstWithDelay period ignoreFirstRead with
        | none => none
        | some (reg, queue) =>
          let displaced :=
            executor.waitingCommand.toList.map ExecutorEvent.displaced
          let elected :=
            { executor.setSlaveQueue slaveId queue with
              waitingCommand := some (.poll reg)
              currentSlaveQueue := some slaveId }
          if found.1 = 0 then
            some (elected, displaced)
          else
            (elect period slaves found.1 elected).map fun rest =>
              (rest.1, displaced ++ rest.2)
      else
        elect period slaves currentDiff
          (executor.setSlaveQueue slaveId found.2)
    else
      elect period slaves currentDiff executor

/-- Take the next command of the current queue into the waiting slot.
`none` is the failed assertion of a pop from an empty queue. -/
def popCurrent (executor : ModbusExecutor) (slaveId : Int) :
    Option ModbusExecutor :=
  (executor.slaveQueue slaveId).popNext.map fun popped =>
    { executor.setSlaveQueue slaveId popped.2 with
      currentSlaveQueue := some slaveId
      waitingCommand := some popped.1 }

/-- The part of `addPollList` that chooses what to execute first. -/
def chooseCommand (executor : ModbusExecutor) (firstAdded : Int) (now : Int) :
    Option (ModbusExecutor × List ExecutorEvent) :=
  let executor :=
    { executor with currentSlaveQueue := some firstAdded }.resetCommandsCounter
      false
  match elect (now - executor.lastCommandTime) executor.slaveQueues.keys
      Duration.max executor with
  | none => none
  | some (elected, displaced) =>
    match elected.waitingCommand, elected.currentSlaveQueue with
    | none, some slaveId =>
      (elected.popCurrent slaveId).map fun popped => (popped, displaced)
    | _, _ => some (elected, displaced)

/-- `std::map::begin` skipping slaves whose list is empty. -/
def firstAdded (registers : OrderedMap Int (List RegisterPoll)) : Option Int :=
  (registers.entries.find? fun entry => !entry.2.isEmpty).map Prod.fst

def addPollList (executor : ModbusExecutor)
    (registers : OrderedMap Int (List RegisterPoll)) (initialPoll : Bool)
    (now : Int) : Option (ModbusExecutor × List ExecutorEvent) :=
  if executor.initialPoll && !executor.pollDone then
    some (executor, [])
  else
    let started :=
      { executor with initialPoll := executor.initialPoll || initialPoll }
    let enqueued := started.enqueuePolls registers.entries
    match firstAdded registers with
    | none => some enqueued
    | some slaveId =>
      if executor.allDone then
        (enqueued.1.chooseCommand slaveId now).map fun result =>
          (result.1, enqueued.2 ++ result.2)
      else
        some enqueued

def setupInitialPoll (executor : ModbusExecutor)
    (registers : OrderedMap Int (List RegisterPoll)) (now : Int) :
    Option (ModbusExecutor × List ExecutorEvent) :=
  executor.addPollList registers true now

def addReadCommand (executor : ModbusExecutor) (command : RegisterPoll) :
    ModbusExecutor × List ExecutorEvent :=
  let added := (executor.slaveQueue command.slaveId).addPollList [command]
  let queued := executor.setSlaveQueue command.slaveId added.1
  if queued.currentSlaveQueue = none then
    ({ queued with currentSlaveQueue := some command.slaveId }.resetCommandsCounter
      false, added.2)
  else
    (queued, added.2)

def findSlaveQueue (executor : ModbusExecutor) (slaveId : Int) : Option Int :=
  if slaveId ∈ executor.slaveQueues.keys then some slaveId else none

def addWriteCommand (executor : ModbusExecutor) (command : RegisterWrite)
    (endAnswer : Bool) : ModbusExecutor × List ExecutorEvent :=
  let added :=
    if executor.writeCommandsQueued = 0 then
      -- the waiting command goes to the queue of the new command's slave
      let readded :=
        match executor.waitingCommand with
        | none => executor
        | some waiting =>
          executor.setSlaveQueue command.slaveId
            ((executor.slaveQueue command.slaveId).readdCommand waiting)
      { readded with
        waitingCommand := some (.write command)
        currentSlaveQueue :=
          readded.findSlaveQueue command.slaveId }.resetCommandsCounter endAnswer
    else
      let queued := executor.setSlaveQueue command.slaveId
        ((executor.slaveQueue command.slaveId).addWriteCommand command)
      if queued.currentSlaveQueue = none then
        { queued with
          currentSlaveQueue := some command.slaveId }.resetCommandsCounter false
      else
        queued
  ({ added with writeCommandsQueued := added.writeCommandsQueued + 1 },
    [.accepted (.write command)])

def handleRegisterReadError (reg : RegisterPoll) (state : RegisterPollState)
    (input : ExecuteInput) : RegisterPollState × List QueueItem :=
  let counted :=
    { state with readErrors := state.readErrors + 1, lastReadOk := false }
  if reg.isRpc then
    (counted, [])
  else
    let throttled :=
      if counted.readErrors = 1 ∨
          input.errorCheck - counted.firstErrorTime >
            RegisterPoll.durationBetweenLogError then
        { counted with
          firstErrorTime := input.errorTime
          readErrors := if counted.readErrors ≠ 1 then 0 else 1 }
      else
        counted
    (throttled,
      if throttled.readErrors > RegisterPoll.defaultReadErrorCount then
        [.registerReadFailed (reg.failedMessage throttled 0)]
      else
        [])

def pollRegisters (reg : RegisterPoll) (state : RegisterPollState)
    (forceSend : Bool) (input : ExecuteInput) :
    RegisterPollState × CallOutcome × List QueueItem :=
  let started := { state with lastReadStartTime := input.readStart }
  match ModbusContext.readModbusRegisters reg started.lastValues.length
      input.answer with
  | .ok newValues =>
    let read :=
      { started with lastReadOk := true, lastReadFinishTime := input.finish }
    if read.lastValues ≠ newValues ∨ forceSend ∨
        reg.publishMode = .everyPoll ∨ read.readErrors ≠ 0 then
      ({ read with lastValues := newValues, readErrors := 0 }, .ok newValues,
        [.registerValues (reg.valuesMessage newValues)])
    else
      (read, .ok newValues, [])
  | .error _ =>
    let handled := handleRegisterReadError reg started input
    ({ handled.1 with lastReadFinishTime := input.finish }, .failed,
      handled.2)

/-- `mLastWriteOk`, which only the caller reads, is the outcome. -/
def writeRegisters (cmd : RegisterWrite) (input : ExecuteInput) :
    CallOutcome × List QueueItem :=
  match ModbusContext.writeModbusRegisters cmd input.answer with
  | .ok () =>
    (.ok cmd.values, cmd.returnMessage.toList.map fun message =>
      .registerValues { message with registers := cmd.values })
  | .error .write => (.failed, [.registerWriteFailed cmd.failedMessage])
  | .error .read | .error .context => (.threw, [])

/-- The retry counters `sendCommand` starts a command with. -/
def startCommand (executor : ModbusExecutor) (command : RegisterCommand) :
    ModbusExecutor :=
  if executor.lastCommand ≠ some command then
    { executor with
      maxReadRetryCount := command.settings.maxReadRetryCount
      readRetryCount := command.settings.maxReadRetryCount
      maxWriteRetryCount := command.settings.maxWriteRetryCount
      writeRetryCount := command.settings.maxWriteRetryCount }
  else
    executor

/-- The end of `sendCommand` when the command is not to be retried. -/
def releaseCommand (executor : ModbusExecutor) : ModbusExecutor :=
  { executor with
    lastCommand := executor.waitingCommand
    waitingCommand := none
    commandsLeft := executor.commandsLeft - 1 }

def sendPoll (executor : ModbusExecutor) (reg : RegisterPoll)
    (input : ExecuteInput) :
    ModbusExecutor × CallOutcome × List ExecutorEvent :=
  let (state, outcome, messages) := pollRegisters reg (executor.polls reg)
    (executor.initialPoll || reg.isRpc) input
  let polled :=
    { executor with
      polls := Function.update executor.polls reg state
      lastCommandTime := input.finish }
  let issued := ExecutorEvent.issued (.poll reg) outcome executor.readRetryCount
  let sent := messages.map (ExecutorEvent.sent (.poll reg))
  if state.lastReadOk then
    ({ polled with readRetryCount := polled.maxReadRetryCount }.releaseCommand,
      outcome, issued :: sent)
  else if polled.readRetryCount ≠ 0 then
    ({ polled with
        readRetryCount := polled.readRetryCount - 1
        lastCommand := polled.waitingCommand }, outcome, issued :: sent)
  else if reg.isRpc then
    (polled.releaseCommand, outcome, issued :: sent ++
      [.sent (.poll reg)
        (.registerReadFailed (reg.failedMessage state reg.commandId))])
  else
    (polled.releaseCommand, outcome, issued :: sent)

/-- An exception that `writeRegisters` lets through leaves everything but the
retry counters as it was. -/
def sendWrite (executor : ModbusExecutor) (cmd : RegisterWrite)
    (input : ExecuteInput) :
    ModbusExecutor × CallOutcome × List ExecutorEvent :=
  let (outcome, messages) := writeRegisters cmd input
  let written := { executor with lastCommandTime := input.finish }
  let issued :=
    ExecutorEvent.issued (.write cmd) outcome executor.writeRetryCount
  let sent := messages.map (ExecutorEvent.sent (.write cmd))
  match outcome with
  | .threw => (executor, outcome, issued :: sent)
  | .failed =>
    if written.writeRetryCount ≠ 0 then
      ({ written with
          writeRetryCount := written.writeRetryCount - 1
          lastCommand := written.waitingCommand }, outcome, issued :: sent)
    else
      (written.releaseCommand, outcome, issued :: sent)
  | .ok _ =>
    ({ written with
        writeRetryCount := written.maxWriteRetryCount
        writeCommandsQueued :=
          written.writeCommandsQueued - 1 }.releaseCommand, outcome,
      issued :: sent)

def sendCommand (executor : ModbusExecutor) (command : RegisterCommand)
    (input : ExecuteInput) :
    ModbusExecutor × CallOutcome × List ExecutorEvent :=
  match command with
  | .poll reg => (executor.startCommand command).sendPoll reg input
  | .write cmd => (executor.startCommand command).sendWrite cmd input

/-- The `while` loop of `executeNext`.  `entries` are all queues in order,
`nextQueue` is the iterator; `none` means that `fuel` rounds did not end it. -/
def searchQueue (current : Int) (entries : List (Int × ModbusRequestsQueues)) :
    Nat → List (Int × ModbusRequestsQueues) → Option Int
  | 0, _ => none
  | fuel + 1, nextQueue =>
    if nextQueue.head?.map Prod.fst = some current then
      some current
    else
      match if nextQueue.isEmpty then entries else nextQueue with
      | [] => none
      | (slaveId, queue) :: rest =>
        if !queue.empty then
          some slaveId
        else
          searchQueue current entries fuel rest

/-- What the first part of `executeNext` decides: there is nothing to do, or
to go on with what is in the waiting slot. -/
inductive NextCommand where
  | nothing
  | proceed (executor : ModbusExecutor)

/-- Two turns around the ring are enough rounds for a search that ends. -/
def searchRounds (executor : ModbusExecutor) : Nat :=
  2 * executor.slaveQueues.entries.length + 2

def takeNext (executor : ModbusExecutor) : Option NextCommand :=
  match executor.waitingCommand, executor.currentSlaveQueue with
  | none, some current =>
    if executor.commandsLeft = 0 ∨ (executor.slaveQueue current).empty then
      match searchQueue current executor.slaveQueues.entries
          executor.searchRounds (executor.slaveQueues.after current) with
      | none => none
      | some nextQueue =>
        if current ≠ nextQueue ∨ !(executor.slaveQueue current).empty then
          (executor.popCurrent nextQueue).map fun popped =>
            .proceed (popped.resetCommandsCounter false)
        else
          some .nothing
    else
      (executor.popCurrent current).map .proceed
  | _, _ => some (.proceed executor)

/-- How long the waiting command still has to wait at time `now`. -/
def delayLeft (executor : ModbusExecutor) (command : RegisterCommand)
    (now : Int) : Duration :=
  let slaveChange :=
    executor.lastCommand.any fun last => command.slaveId ≠ last.slaveId
  let delay :=
    if command.settings.hasDelayBeforeFirstCommand && slaveChange then
      command.settings.delayBeforeFirstCommand
    else
      command.settings.delayBeforeCommand
  if delay ≠ 0 then delay - (now - executor.lastCommandTime) else 0

def finishInitialPoll (executor : ModbusExecutor) : ModbusExecutor :=
  if executor.initialPoll && executor.pollDone &&
      executor.currentSlaveQueue.isSome then
    { executor with initialPoll := false }
  else
    executor

/-- `none`: the search for the next queue does not end.  The last component
is the duration returned or the exception that leaves the function. -/
def executeNext (executor : ModbusExecutor) (input : ExecuteInput) :
    Option (ModbusExecutor × List ExecutorEvent ×
      Except ModbusException Duration) :=
  match executor.takeNext with
  | none => none
  | some .nothing => some (executor, [], .ok Duration.max)
  | some (.proceed ready) =>
    match ready.waitingCommand with
    | none => some (ready.finishInitialPoll, [], .ok 0)
    | some command =>
      let delayLeft := ready.delayLeft command input.delayCheck
      if delayLeft > 0 then
        some (ready, [], .ok delayLeft)
      else
        match ready.sendCommand command input with
        | (sent, .threw, events) => some (sent, events, .error .context)
        | (sent, _, events) => some (sent.finishInitialPoll, events, .ok 0)

end ModbusExecutor

/-- The calls other parts of the program make on an executor. -/
inductive ExecutorCall where
  | setupInitialPoll (registers : OrderedMap Int (List RegisterPoll))
      (now : Int)
  | addPollList (registers : OrderedMap Int (List RegisterPoll)) (now : Int)
  | addReadCommand (command : RegisterPoll)
  | addWriteCommand (command : RegisterWrite) (endAnswer : Bool)
  | executeNext (input : ExecuteInput)

namespace ModbusExecutor

/-- One call; `none` if it never returns. -/
def step (executor : ModbusExecutor) :
    ExecutorCall → Option (ModbusExecutor × List ExecutorEvent)
  | .setupInitialPoll registers now => executor.setupInitialPoll registers now
  | .addPollList registers now => executor.addPollList registers false now
  | .addReadCommand command => some (executor.addReadCommand command)
  | .addWriteCommand command endAnswer =>
    some (executor.addWriteCommand command endAnswer)
  | .executeNext input =>
    (executor.executeNext input).map fun result => (result.1, result.2.1)

end ModbusExecutor

end MqmGateway
