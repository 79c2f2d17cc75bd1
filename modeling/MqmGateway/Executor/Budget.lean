import MqmGateway.Executor.Ownership

/-!
# Sharing the bus between slaves

`commandsLeft` is the number of commands that the current slave may still
complete.  The ledger notes the value the counter was last given and how many
commands were completed since.
-/

namespace MqmGateway

/-- The budget of the current slave and what it has used of it. -/
structure Ledger where
  budget : Nat
  completed : Nat
deriving DecidableEq, Repr

def ExecutorEvent.isCompletion : ExecutorEvent → Bool
  | .issued _ outcome retriesLeft => outcome.finishes retriesLeft
  | _ => false

namespace ModbusExecutor

def resetsCounter (executor : ModbusExecutor) : ExecutorCall → Bool
  | .setupInitialPoll registers _ | .addPollList registers _ =>
    (!executor.initialPoll || executor.pollDone) && executor.allDone &&
      (firstAdded registers).isSome
  | .addReadCommand _ => executor.currentSlaveQueue.isNone
  | .addWriteCommand _ _ =>
    executor.writeCommandsQueued = 0 || executor.currentSlaveQueue.isNone
  | .executeNext _ =>
    match executor.takeNext, executor.currentSlaveQueue with
    | some (.proceed _), some current =>
      executor.waitingCommand.isNone && (executor.commandsLeft = 0 ||
        (executor.slaveQueue current).empty)
    | _, _ => false

/-- The counter before the call completes a command; `next` is the state that
the call leaves. -/
def counterGiven (executor : ModbusExecutor) (call : ExecutorCall)
    (next : ModbusExecutor) : Nat :=
  match call, executor.takeNext with
  | .executeNext _, some (.proceed ready) => ready.commandsLeft
  | _, _ => next.commandsLeft

/-- The account in which the call enters what it completes: a new one if it
resets the counter. -/
def openAccount (watched : ModbusExecutor × Ledger) (call : ExecutorCall)
    (next : ModbusExecutor) : Ledger :=
  if watched.1.resetsCounter call then
    { budget := watched.1.counterGiven call next, completed := 0 }
  else
    watched.2

/-- An observer that keeps the account of the current slave. -/
def keepLedger (watched : ModbusExecutor × Ledger) (call : ExecutorCall)
    (result : ModbusExecutor × List ExecutorEvent) :
    Ledger × List ExecutorEvent :=
  let account := openAccount watched call result.1
  ({ account with
      completed := account.completed + result.2.countP (·.isCompletion) },
    result.2)

/-- The call adds commands behind those that wait; it does not take the fast
path of a write and does not start a new round of polls. -/
def AddsBehind (executor : ModbusExecutor) : ExecutorCall → Prop
  | .setupInitialPoll _ _ | .addPollList _ _ => executor.allDone = false
  | .addReadCommand _ => True
  | .addWriteCommand _ _ => executor.writeCommandsQueued ≠ 0
  | .executeNext _ => False

/-- What the slave whose queue is current gets of the bus. -/
structure SharesBus (watched : ModbusExecutor × Ledger) (slaveId : Int) :
    Prop where
  bounded : watched.2.completed ≤ watched.2.budget
  /-- With the budget used up and another queue busy, the next command comes
  from another queue. -/
  givesWay : watched.2.completed = watched.2.budget →
    (∃ entry ∈ watched.1.slaveQueues.entries,
      entry.1 ≠ slaveId ∧ entry.2.empty = false) →
    ∃ ready other command, watched.1.takeNext = some (.proceed ready) ∧
      ready.currentSlaveQueue = some other ∧ other ≠ slaveId ∧
      ready.waitingCommand = some command ∧
      command ∈ (watched.1.slaveQueue other).commands ∧
      (watched.1.Owned → command.slaveId ≠ slaveId)
  unraised : ∀ {call next events}, watched.1.AddsBehind call →
    watched.1.step call = some (next, events) →
    next.currentSlaveQueue = some slaveId ∧
      (keepLedger watched call (next, events)).1 = watched.2

/-- The counter is what is left of the budget. -/
structure Balanced (watched : ModbusExecutor × Ledger) : Prop where
  balance : watched.1.currentSlaveQueue ≠ none →
    watched.2.completed + watched.1.commandsLeft = watched.2.budget
  spent : watched.1.currentSlaveQueue ≠ none →
    watched.1.commandsLeft = 0 → watched.1.waitingCommand = none

/-- Iterator, counter and slot are those of another executor. -/
structure SameTurn (executor next : ModbusExecutor) : Prop where
  current : next.currentSlaveQueue = executor.currentSlaveQueue
  left : next.commandsLeft = executor.commandsLeft
  waiting : next.waitingCommand = executor.waitingCommand

/-- A slave that gets its turn may complete some command. -/
def GivesTurn (next : ModbusExecutor) : Prop :=
  next.currentSlaveQueue ≠ none → 0 < next.commandsLeft

theorem resetCommandsCounter_givesTurn (executor : ModbusExecutor)
    (endAnswer : Bool) :
    (executor.resetCommandsCounter endAnswer).GivesTurn := by
  cases current : executor.currentSlaveQueue with
  | none =>
    intro nonempty
    rw [(executor.resetCommandsCounter_eq endAnswer).choose_spec] at nonempty
    exact (nonempty current).elim
  | some slaveId =>
    intro _
    obtain ⟨left, positive, reset⟩ :=
      resetCommandsCounter_of_current current endAnswer
    rw [reset]
    exact positive

variable {executor next : ModbusExecutor} {events : List ExecutorEvent}
  {call : ExecutorCall} {watched : ModbusExecutor × Ledger}
  {command : RegisterCommand}

theorem chooseCommand_givesTurn {firstAdded now : Int}
    (chosen : executor.chooseCommand firstAdded now = some (next, events)) :
    next.GivesTurn := by
  intro _
  apply chooseCommand_induction (fun reached => 0 < reached.commandsLeft)
    _ _ _ chosen
  · intro left positive
    exact positive
  · intro reached _ _ _ _ positive
    exact positive
  · intro reached _ _ _ _ _ _ _ _ positive
    exact positive
  · intro reached _ _ _ _ positive
    exact positive

theorem Added.turn {registers : OrderedMap Int (List RegisterPoll)}
    (added : Added executor registers next events) :
    if ((!executor.initialPoll || executor.pollDone) && executor.allDone &&
        (firstAdded registers).isSome) = true then
      next.GivesTurn
    else
      SameTurn executor next := by
  cases added with
  | ignored initial busy =>
    rw [if_neg (by simp [initial, busy])]
    exact ⟨rfl, rfl, rfl⟩
  | queued _ rests =>
    rw [if_neg, (enqueuePolls_eq _ _).choose_spec]
    · exact ⟨rfl, rfl, rfl⟩
    · simp only [Bool.and_eq_true, not_and, Option.not_isSome_iff_eq_none]
      intro starts
      exact rests starts.2
  | chosen accepts done found choice =>
    rw [if_pos]
    · exact chooseCommand_givesTurn choice
    · cases initial : executor.initialPoll <;>
        simp_all

theorem addReadCommand_turn (executor : ModbusExecutor) (reg : RegisterPoll) :
    if executor.currentSlaveQueue.isNone = true then
      (executor.addReadCommand reg).1.GivesTurn
    else
      SameTurn executor (executor.addReadCommand reg).1 := by
  have queued (queue : ModbusRequestsQueues) :
      (executor.setSlaveQueue reg.slaveId queue).currentSlaveQueue =
        executor.currentSlaveQueue := rfl
  rw [addReadCommand, queued]
  cases executor.currentSlaveQueue with
  | none => exact resetCommandsCounter_givesTurn _ _
  | some slaveId => exact ⟨rfl, rfl, rfl⟩

theorem addWriteCommand_turn (executor : ModbusExecutor) (cmd : RegisterWrite)
    (endAnswer : Bool) :
    if (executor.writeCommandsQueued = 0 ||
        executor.currentSlaveQueue.isNone) = true then
      (executor.addWriteCommand cmd endAnswer).1.GivesTurn
    else
      SameTurn executor (executor.addWriteCommand cmd endAnswer).1 := by
  have queued (queue : ModbusRequestsQueues) :
      (executor.setSlaveQueue cmd.slaveId queue).currentSlaveQueue =
        executor.currentSlaveQueue := rfl
  rw [addWriteCommand]
  dsimp only
  by_cases fast : executor.writeCommandsQueued = 0
  · rw [if_pos fast, if_pos (by simp [fast])]
    exact resetCommandsCounter_givesTurn _ _
  · rw [if_neg fast, queued]
    by_cases ended : executor.currentSlaveQueue = none
    · rw [if_pos ended, if_pos (by simp [ended])]
      exact resetCommandsCounter_givesTurn _ _
    · rw [if_neg ended, if_neg (by simp [fast, ended])]
      exact ⟨rfl, rfl, rfl⟩

theorem step_turn (stepped : executor.step call = some (next, events))
    (other : ∀ input, call ≠ .executeNext input) :
    if executor.resetsCounter call = true then
      next.GivesTurn
    else
      SameTurn executor next := by
  cases call with
  | setupInitialPoll registers now => exact (addPollList_added stepped).turn
  | addPollList registers now => exact (addPollList_added stepped).turn
  | addReadCommand reg =>
    have turn := executor.addReadCommand_turn reg
    rw [Option.some.inj stepped] at turn
    exact turn
  | addWriteCommand cmd endAnswer =>
    have turn := executor.addWriteCommand_turn cmd endAnswer
    rw [Option.some.inj stepped] at turn
    exact turn
  | executeNext input => exact (other input rfl).elim

theorem countP_isCompletion_of_quiet
    (quiet : ∀ event ∈ events, event.isTraffic = false) :
    events.countP (·.isCompletion) = 0 := by
  rw [List.countP_eq_zero]
  intro event logged
  have silent := quiet event logged
  cases event <;> simp_all [ExecutorEvent.isTraffic,
    ExecutorEvent.isCompletion]

theorem keepLedger_added (stepped : watched.1.step call = some (next, events))
    (other : ∀ input, call ≠ .executeNext input) :
    (keepLedger watched call (next, events)).1 =
      openAccount watched call next := by
  rcases step_execution stepped with ⟨input, same, _⟩ | ⟨_, quiet⟩
  · exact (other input same).elim
  · rw [keepLedger, countP_isCompletion_of_quiet quiet]
    rfl

theorem counterGiven_added (other : ∀ input, call ≠ .executeNext input)
    (executor next : ModbusExecutor) :
    executor.counterGiven call next = next.commandsLeft := by
  cases call with
  | executeNext input => exact (other input rfl).elim
  | _ => rfl

variable {account : Ledger} {queue rest : ModbusRequestsQueues}
  {input : ExecuteInput} {slaveId : Int}

theorem Balanced.congr (balanced : Balanced (executor, account))
    (same : SameTurn executor next) : Balanced (next, account) := by
  refine ⟨?_, ?_⟩
  · dsimp only
    rw [same.current, same.left]
    exact balanced.balance
  · dsimp only
    rw [same.current, same.left, same.waiting]
    exact balanced.spent

theorem Balanced.added (balanced : Balanced watched)
    (stepped : watched.1.step call = some (next, events))
    (other : ∀ input, call ≠ .executeNext input) :
    Balanced (next, openAccount watched call next) := by
  have turn := step_turn stepped other
  rw [openAccount, counterGiven_added other]
  split at turn
  · rename_i resets
    rw [if_pos resets]
    refine ⟨fun _ => Nat.zero_add _, ?_⟩
    intro current left
    exact absurd left (Nat.ne_of_gt (turn current))
  · rename_i keeps
    rw [if_neg keeps]
    exact balanced.congr turn

theorem empty_of_popNext
    (popped : queue.popNext = some (command, rest)) : queue.empty = false := by
  rcases ModbusRequestsQueues.popNext_eq_some popped with
    ⟨reg, _, polls, _⟩ | ⟨cmd, _, writes, _⟩
  · simp [ModbusRequestsQueues.empty, polls]
  · simp [ModbusRequestsQueues.empty, writes]

/-- Taking a command opens an account exactly if the turn passes on. -/
theorem Balanced.taken {ready : ModbusExecutor} (balanced : Balanced watched)
    (taking : watched.1.takeNext = some (.proceed ready))
    (input : ExecuteInput) (next : ModbusExecutor) :
    Balanced (ready, openAccount watched (.executeNext input) next) := by
  have given : watched.1.counterGiven (.executeNext input) next =
      ready.commandsLeft := by
    simp [counterGiven, taking]
  rw [openAccount, given]
  have passes : watched.1.resetsCounter (.executeNext input) =
      watched.1.currentSlaveQueue.any fun current =>
        watched.1.waitingCommand.isNone && (watched.1.commandsLeft = 0 ||
          (watched.1.slaveQueue current).empty) := by
    rw [resetsCounter]
    cases current : watched.1.currentSlaveQueue <;> simp [taking]
  cases takeNext_taken taking with
  | kept stays =>
    rw [if_neg]
    · exact balanced
    · rw [passes]
      cases waiting : watched.1.waitingCommand with
      | none => simp [stays waiting]
      | some command => simp
  | continued idle current some popped =>
    rw [if_neg]
    · refine ⟨fun _ => balanced.balance (by simp [current]), ?_⟩
      intro _ none
      exact (some none).elim
    · simp [passes, current, some, empty_of_popNext popped]
  | moved idle current leaves found popped positive =>
    rw [if_pos]
    · refine ⟨fun _ => Nat.zero_add _, ?_⟩
      intro _ none
      exact absurd none (Nat.ne_of_gt positive)
    · simpa [passes, current, idle] using leaves

/-- A command that is completed is entered in the account. -/
theorem Sending.balanced {started sent : ModbusExecutor} {outcome : CallOutcome}
    (sending : Sending started command input sent outcome)
    (waiting : started.waitingCommand = some command)
    (balanced : Balanced (started, account)) :
    Balanced (sent,
      { account with
        completed := account.completed +
          if outcome.finishes (started.retriesLeft command) then 1 else 0 })
    := by
  cases sending with
  | threw _ => exact balanced
  | retried same spent =>
    have again : CallOutcome.failed.finishes
        (started.retriesLeft command) = false := by
      rw [spent]
      rfl
    rw [again, same]
    exact ⟨balanced.balance, balanced.spent⟩
  | finished same finishes _ =>
    rw [finishes, same]
    refine ⟨?_, fun _ _ => rfl⟩
    intro current
    have balance := balanced.balance current
    have positive : started.commandsLeft ≠ 0 := by
      intro none
      cases waiting.symm.trans (balanced.spent current none)
    dsimp only at balance ⊢
    rw [if_pos rfl]
    omega

theorem Executed.balanced (executed : Executed watched.1 input next events)
    (balanced : Balanced watched) :
    Balanced (next,
      (keepLedger watched (.executeNext input) (next, events)).1) := by
  cases executed with
  | nothing none =>
    rw [keepLedger, openAccount, if_neg (by simp [resetsCounter, none])]
    exact balanced
  | idle taking _ =>
    exact (balanced.taken taking input _).congr ⟨rfl, rfl, rfl⟩
  | waits taking _ _ => exact balanced.taken taking input _
  | @sends ready sent initialPoll command outcome messages taking waiting _ _
      sending =>
      have none : (messages.map (ExecutorEvent.sent command)).countP
          (·.isCompletion) = 0 := by
        simp [List.countP_eq_zero, ExecutorEvent.isCompletion]
      have started : SameTurn ready (ready.startCommand command) := by
        obtain ⟨_, _, _, _, same⟩ := ready.startCommand_eq command
        rw [same]
        exact ⟨rfl, rfl, rfl⟩
      have taken := balanced.taken taking input { sent with initialPoll }
      have entered := sending.balanced (started.waiting.trans waiting)
        (taken.congr started)
      rw [keepLedger, List.countP_cons, none, Nat.zero_add]
      exact entered.congr ⟨rfl, rfl, rfl⟩

/-- With its budget used up, the current slave gives way to another one. -/
theorem takeNext_givesWay (current : executor.currentSlaveQueue = some slaveId)
    (idle : executor.waitingCommand = none)
    (spent : executor.commandsLeft = 0)
    (busy : ∃ entry ∈ executor.slaveQueues.entries,
      entry.1 ≠ slaveId ∧ entry.2.empty = false) :
    ∃ ready other command queue, other ≠ slaveId ∧
      executor.takeNext = some (.proceed ready) ∧
      ready.currentSlaveQueue = some other ∧
      ready.waitingCommand = some command ∧
      (executor.slaveQueue other).popNext = some (command, queue) := by
  obtain ⟨waiting, member, other, waits⟩ := busy
  obtain ⟨entry, listed, busyEntry, found, alone⟩ :=
    searchQueue_finds slaveId ⟨waiting, member, waits⟩
  have changes : slaveId ≠ entry.1 := by
    intro same
    exact other (alone same.symm waiting member waits)
  have queued : executor.slaveQueue entry.1 = entry.2 :=
    OrderedMap.getD_of_mem listed {}
  obtain ⟨⟨command, queue⟩, popped⟩ :=
    ModbusRequestsQueues.popNext_isSome (queued ▸ busyEntry)
  have taking : ∃ left, executor.takeNext = some (.proceed
      { executor.setSlaveQueue entry.1 queue with
        currentSlaveQueue := some entry.1
        waitingCommand := some command
        commandsLeft := left }) := by
    rw [takeNext, idle, current]
    dsimp only
    rw [if_pos (.inl spent), searchRounds, found]
    dsimp only
    rw [if_pos (.inl changes), popCurrent, popped, Option.map_some,
      Option.map_some, (resetCommandsCounter_eq _ _).choose_spec]
    exact ⟨_, rfl⟩
  obtain ⟨left, taking⟩ := taking
  exact ⟨_, entry.1, command, queue, changes.symm, taking, rfl, rfl, popped⟩

theorem mem_commands_of_popNext
    (popped : queue.popNext = some (command, rest)) :
    command ∈ queue.commands := by
  rcases ModbusRequestsQueues.popNext_eq_some popped with
    ⟨reg, rfl, polls, _⟩ | ⟨cmd, rfl, writes, _⟩
  · simp [ModbusRequestsQueues.commands, polls]
  · simp [ModbusRequestsQueues.commands, writes]

theorem Balanced.sharesBus (balanced : Balanced watched)
    (current : watched.1.currentSlaveQueue = some slaveId) :
    SharesBus watched slaveId := by
  have balance := balanced.balance (by simp [current])
  refine ⟨by omega, ?_, ?_⟩
  · intro usedUp busy
    have spent : watched.1.commandsLeft = 0 := by omega
    have idle := balanced.spent (by simp [current]) spent
    obtain ⟨ready, other, command, queue, differs, taking, here, waiting,
      popped⟩ := takeNext_givesWay current idle spent busy
    have member := mem_commands_of_popNext popped
    refine ⟨ready, other, command, taking, here, differs, waiting, member, ?_⟩
    intro owned
    rw [owned other command member]
    exact differs
  · intro call next events behind stepped
    have other : ∀ input, call ≠ .executeNext input := by
      intro input same
      rw [same] at behind
      exact behind
    have keeps : watched.1.resetsCounter call = false := by
      cases call <;>
        simp_all [AddsBehind, resetsCounter]
    have turn := step_turn stepped other
    rw [if_neg (by simp [keeps])] at turn
    rw [keepLedger_added stepped other, openAccount, if_neg (by simp [keeps])]
    exact ⟨turn.current.trans current, rfl⟩

/-- In every run, the slave whose queue is current completes at most as many
commands as the counter was last given, then gives way to another slave with
commands in its queue; commands added meanwhile do not change the bound. -/
theorem bus_shared {now : Int} {created : RegisterPoll → Int}
    {watched : ModbusExecutor × Ledger} {history : List ExecutorEvent}
    (run : Runs (Runs.observe step keepLedger) (fun _ _ _ => True)
      (create now created, { budget := 0, completed := 0 }) watched history)
    {slaveId : Int} (current : watched.1.currentSlaveQueue = some slaveId) :
    SharesBus watched slaveId := by
  suffices balanced : Balanced watched from balanced.sharesBus current
  clear current
  induction run with
  | start =>
    refine ⟨fun some => ?_, fun some => ?_⟩
    · exact (some rfl).elim
    · exact (some rfl).elim
  | @step before after _ _ call _ _ observed balanced =>
    obtain ⟨events, stepped, seen⟩ := Runs.observe_eq_some observed
    have account : _ = after.2 := congrArg Prod.fst seen
    have reached : Balanced (after.1, after.2) := by
      rw [← account]
      rcases step_sameLast stepped with
        ⟨input, rfl, executed⟩ | ⟨other, _⟩
      · exact executed.balanced balanced
      · rw [keepLedger_added stepped other]
        exact balanced.added stepped other
    exact reached

theorem bus_shared_after_read : ∃ watched history,
      Runs (Runs.observe step keepLedger) (fun _ _ _ => True)
        (create 0 fun _ => 0, { budget := 0, completed := 0 }) watched
        history ∧
      (watched.1.currentSlaveQueue = some 1 ∧
        watched.2 = { budget := 2, completed := 2 } ∧
        (watched.1.slaveQueue 2).empty = false) ∧
      SharesBus watched 1 := by
  obtain ⟨watched, history, run, reached⟩ := Runs.exists_of_replay
    [.addPollList (twoSlaves 0 0) 0,
      .addReadCommand { delayedPoll 1 0 with address := 7 },
      .executeNext (answered 0),
      .executeNext (answered 0)]
    (fun watched _ => watched.1.currentSlaveQueue = some 1 ∧
      watched.2 = { budget := 2, completed := 2 } ∧
      (watched.1.slaveQueue 2).empty = false)
    (show (Runs.replay (Runs.observe step keepLedger) (fun _ _ _ => True) _
      ((create 0 fun _ => 0, { budget := 0, completed := 0 }), [])).any _ =
        true by decide +kernel)
  exact ⟨watched, history, run, reached, bus_shared run reached.1⟩

end ModbusExecutor

end MqmGateway
