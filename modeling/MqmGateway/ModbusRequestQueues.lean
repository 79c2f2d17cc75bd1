import MqmGateway.RegisterPoll

/-!
# Request queues of one slave

Polls and writes wait in two separate deques.  What a call logs is not in the
source; the properties of the executor are stated over it.
-/

namespace MqmGateway

/-- How a modbus call ended: `threw` stands for an exception that
`writeRegisters` does not catch. -/
inductive CallOutcome where
  | ok (values : List UInt16)
  | failed
  | threw
deriving DecidableEq, Repr

/-- What the executor does, as far as its properties mention it.

* `accepted`: a command entered the queues or the waiting slot;
* `duplicate`: a poll was not queued because it is in the queue already;
* `displaced`: an election put another command over the waiting one;
* `issued`: a modbus call was made with `retriesLeft` retries in reserve;
* `sent`: executing `source` sent a message to the main thread. -/
inductive ExecutorEvent where
  | accepted (command : RegisterCommand)
  | duplicate (command : RegisterCommand)
  | displaced (command : RegisterCommand)
  | issued (command : RegisterCommand) (outcome : CallOutcome)
      (retriesLeft : Nat)
  | sent (source : RegisterCommand) (item : QueueItem)
deriving DecidableEq, Repr

/-- `lastPollFound` is the iterator that `findForSilencePeriod` leaves for
`popFirstWithDelay`, as a position in `pollQueue`. -/
structure ModbusRequestsQueues where
  pollQueue : List RegisterPoll := []
  writeQueue : List RegisterWrite := []
  lastPollFound : Option Nat := none
  popFromPoll : Bool := true
deriving DecidableEq, Repr

namespace ModbusRequestsQueues

def empty (queue : ModbusRequestsQueues) : Bool :=
  queue.pollQueue.isEmpty && queue.writeQueue.isEmpty

def addPollList (queue : ModbusRequestsQueues) :
    List RegisterPoll → ModbusRequestsQueues × List ExecutorEvent
  | [] => (queue, [])
  | poll :: pollList =>
    if poll ∈ queue.pollQueue then
      let rest := queue.addPollList pollList
      (rest.1, .duplicate (.poll poll) :: rest.2)
    else
      let added := { queue with pollQueue := queue.pollQueue ++ [poll] }
      let rest := added.addPollList pollList
      (rest.1, .accepted (.poll poll) :: rest.2)

def popPoll (queue : ModbusRequestsQueues) :
    Option (RegisterCommand × ModbusRequestsQueues) :=
  match queue.pollQueue with
  | [] => none
  | poll :: rest => some (.poll poll, { queue with pollQueue := rest })

def popWrite (queue : ModbusRequestsQueues) :
    Option (RegisterCommand × ModbusRequestsQueues) :=
  match queue.writeQueue with
  | [] => none
  | write :: rest => some (.write write, { queue with writeQueue := rest })

/-- `none` is the failed assertion of a pop from an empty deque. -/
def popNext (queue : ModbusRequestsQueues) :
    Option (RegisterCommand × ModbusRequestsQueues) :=
  if queue.popFromPoll then
    if queue.pollQueue.isEmpty then
      queue.popWrite
    else
      { queue with popFromPoll := false }.popPoll
  else
    if queue.writeQueue.isEmpty then
      queue.popPoll
    else
      { queue with popFromPoll := true }.popWrite

/-- The delay a poll asks for: the first-command delay when it has one and it
is not ignored. -/
def applicableDelay (poll : RegisterPoll) (ignoreFirstRead : Bool) : Duration :=
  if ignoreFirstRead || !poll.hasDelayBeforeFirstCommand then
    poll.delayBeforeCommand
  else
    poll.delayBeforeFirstCommand

/-- The scan of `findForSilencePeriod` from position `index` on, with the
delay returned and the position found so far. -/
def scanSilence (period : Duration) (ignoreFirstRead : Bool) :
    List RegisterPoll → Nat → Duration × Option Nat → Duration × Option Nat
  | [], _, best => best
  | poll :: rest, index, best =>
    let delay := applicableDelay poll ignoreFirstRead
    if delay = 0 then
      scanSilence period ignoreFirstRead rest (index + 1) best
    else
      let diff : Duration := (delay - period).natAbs
      if diff = 0 then
        (delay, some index)
      else if diff < best.1 then
        scanSilence period ignoreFirstRead rest (index + 1)
          (delay, some index)
      else
        scanSilence period ignoreFirstRead rest (index + 1) best

def findForSilencePeriod (queue : ModbusRequestsQueues) (period : Duration)
    (ignoreFirstRead : Bool) : Duration × ModbusRequestsQueues :=
  let found :=
    scanSilence period ignoreFirstRead queue.pollQueue 0 (Duration.max, none)
  match found.2 with
  | some index => (found.1, { queue with lastPollFound := some index })
  | none => (found.1, queue)

/-- Take the poll the cached iterator points at. -/
def popFound (queue : ModbusRequestsQueues) :
    Option (RegisterPoll × ModbusRequestsQueues) :=
  match queue.lastPollFound with
  | none => none
  | some index =>
    match queue.pollQueue[index]? with
    | none => none
    | some poll =>
      some (poll, { queue with pollQueue := queue.pollQueue.eraseIdx index })

/-- `none` is the `goto` that never finds anything. -/
def popFirstWithDelay (queue : ModbusRequestsQueues) (period : Duration)
    (ignoreFirstRead : Bool) : Option (RegisterPoll × ModbusRequestsQueues) :=
  match queue.popFound with
  | some popped => some popped
  | none => (queue.findForSilencePeriod period ignoreFirstRead).2.popFound

def addWriteCommand (queue : ModbusRequestsQueues) (request : RegisterWrite) :
    ModbusRequestsQueues :=
  { queue with writeQueue := queue.writeQueue ++ [request] }

def readdCommand (queue : ModbusRequestsQueues) :
    RegisterCommand → ModbusRequestsQueues
  | .poll poll =>
    { queue with
      pollQueue := poll :: queue.pollQueue
      popFromPoll := true }
  | .write write =>
    { queue with
      writeQueue := write :: queue.writeQueue
      popFromPoll := false }

@[simp] theorem findForSilencePeriod_pollQueue (queue : ModbusRequestsQueues)
    (period : Duration) (ignoreFirstRead : Bool) :
    (queue.findForSilencePeriod period ignoreFirstRead).2.pollQueue =
      queue.pollQueue := by
  rw [findForSilencePeriod]
  split <;> rfl

@[simp] theorem findForSilencePeriod_writeQueue (queue : ModbusRequestsQueues)
    (period : Duration) (ignoreFirstRead : Bool) :
    (queue.findForSilencePeriod period ignoreFirstRead).2.writeQueue =
      queue.writeQueue := by
  rw [findForSilencePeriod]
  split <;> rfl

variable {queue rest : ModbusRequestsQueues} {command : RegisterCommand}

theorem popFound_eq_some
    {reg : RegisterPoll} (popped : queue.popFound = some (reg, rest)) :
    ∃ before after, queue.pollQueue = before ++ reg :: after ∧
      rest.pollQueue = before ++ after ∧
      rest.writeQueue = queue.writeQueue := by
  rw [popFound] at popped
  split at popped
  · cases popped
  · rename_i index cached
    split at popped
    · cases popped
    · rename_i found listed
      cases popped
      obtain ⟨inside, here⟩ := List.getElem?_eq_some_iff.mp listed
      refine ⟨queue.pollQueue.take index, queue.pollQueue.drop (index + 1),
        ?_, ?_, rfl⟩
      · rw [← here, ← List.drop_eq_getElem_cons inside,
          List.take_append_drop]
      · exact List.eraseIdx_eq_take_drop_succ queue.pollQueue index

theorem popFirstWithDelay_eq_some
    {period : Duration} {ignoreFirstRead : Bool} {reg : RegisterPoll}
    (popped : queue.popFirstWithDelay period ignoreFirstRead =
      some (reg, rest)) :
    ∃ before after, queue.pollQueue = before ++ reg :: after ∧
      rest.pollQueue = before ++ after ∧
      rest.writeQueue = queue.writeQueue := by
  rw [popFirstWithDelay] at popped
  split at popped
  · rename_i cached
    cases popped
    exact popFound_eq_some cached
  · obtain ⟨before, after, polls, remaining, writes⟩ := popFound_eq_some popped
    simp only [findForSilencePeriod_pollQueue,
      findForSilencePeriod_writeQueue] at polls writes
    exact ⟨before, after, polls, remaining, writes⟩

theorem popPoll_eq_some (popped : queue.popPoll = some (command, rest)) :
    ∃ reg, command = .poll reg ∧ queue.pollQueue = reg :: rest.pollQueue ∧
      rest.writeQueue = queue.writeQueue := by
  rw [popPoll] at popped
  split at popped
  · cases popped
  · rename_i reg remaining listed
    cases popped
    exact ⟨reg, rfl, listed, rfl⟩

theorem popWrite_eq_some (popped : queue.popWrite = some (command, rest)) :
    ∃ cmd, command = .write cmd ∧ queue.writeQueue = cmd :: rest.writeQueue ∧
      rest.pollQueue = queue.pollQueue := by
  rw [popWrite] at popped
  split at popped
  · cases popped
  · rename_i cmd remaining listed
    cases popped
    exact ⟨cmd, rfl, listed, rfl⟩

theorem popNext_eq_some (popped : queue.popNext = some (command, rest)) :
    (∃ reg, command = .poll reg ∧ queue.pollQueue = reg :: rest.pollQueue ∧
        rest.writeQueue = queue.writeQueue) ∨
      ∃ cmd, command = .write cmd ∧ queue.writeQueue = cmd :: rest.writeQueue ∧
        rest.pollQueue = queue.pollQueue := by
  rw [popNext] at popped
  split at popped
  · split at popped
    · exact .inr (popWrite_eq_some popped)
    · obtain ⟨reg, same, polls, writes⟩ := popPoll_eq_some popped
      exact .inl ⟨reg, same, polls, writes⟩
  · split at popped
    · exact .inl (popPoll_eq_some popped)
    · obtain ⟨cmd, same, writes, polls⟩ := popWrite_eq_some popped
      exact .inr ⟨cmd, same, writes, polls⟩

theorem popNext_isSome
    (busy : queue.empty = false) : ∃ popped, queue.popNext = some popped := by
  rw [empty] at busy
  cases polls : queue.pollQueue with
  | nil =>
    cases writes : queue.writeQueue with
    | nil => simp [polls, writes] at busy
    | cons cmd rest =>
      cases turn : queue.popFromPoll <;>
        simp [popNext, popWrite, polls, writes, turn]
  | cons reg rest =>
    cases writes : queue.writeQueue <;>
      cases turn : queue.popFromPoll <;>
        simp [popNext, popPoll, popWrite, polls, writes, turn]

end ModbusRequestsQueues

end MqmGateway
