import MqmGateway.Executor.Progress
import MqmGateway.Executor.WriteOrder

/-!
# Queues and their slaves

Grouping by slave rests on two facts: a queue holds commands of its own slave
only, and the current queue is that of the waiting command.  The fast path of
`addWriteCommand` puts the command it displaces into the queue of the write's
slave and breaks the first fact when that is another slave.
-/

namespace MqmGateway

namespace ModbusRequestsQueues

def commands (queue : ModbusRequestsQueues) : List RegisterCommand :=
  queue.pollQueue.map .poll ++ queue.writeQueue.map .write

def BelongsTo (queue : ModbusRequestsQueues) (slaveId : Int) : Prop :=
  ∀ command ∈ queue.commands, command.slaveId = slaveId

variable {queue : ModbusRequestsQueues} {slaveId : Int}

theorem belongsTo_iff : queue.BelongsTo slaveId ↔
      (∀ reg ∈ queue.pollQueue, reg.slaveId = slaveId) ∧
        ∀ cmd ∈ queue.writeQueue, cmd.slaveId = slaveId := by
  simp [BelongsTo, commands, or_imp, forall_and, RegisterCommand.slaveId]

theorem BelongsTo.subset {other : ModbusRequestsQueues}
    (belongs : queue.BelongsTo slaveId)
    (polls : other.pollQueue ⊆ queue.pollQueue)
    (writes : other.writeQueue ⊆ queue.writeQueue) :
    other.BelongsTo slaveId := by
  obtain ⟨pollsHere, writesHere⟩ := belongsTo_iff.mp belongs
  exact belongsTo_iff.mpr ⟨fun reg listed => pollsHere reg (polls listed),
    fun cmd listed => writesHere cmd (writes listed)⟩

theorem BelongsTo.addPollList
    {pollList : List RegisterPoll} (belongs : queue.BelongsTo slaveId)
    (own : ∀ reg ∈ pollList, reg.slaveId = slaveId) :
    (queue.addPollList pollList).1.BelongsTo slaveId := by
  induction pollList generalizing queue with
  | nil => exact belongs
  | cons reg pollList induction =>
    obtain ⟨here, later⟩ := List.forall_mem_cons.mp own
    rw [ModbusRequestsQueues.addPollList]
    split
    · exact induction belongs later
    · apply induction _ later
      obtain ⟨polls, writes⟩ := belongsTo_iff.mp belongs
      refine belongsTo_iff.mpr ⟨?_, writes⟩
      intro queued member
      rcases List.mem_append.mp member with old | new
      · exact polls queued old
      · rw [List.mem_singleton.mp new, here]

theorem BelongsTo.readdCommand
    {command : RegisterCommand} (belongs : queue.BelongsTo slaveId)
    (own : command.slaveId = slaveId) :
    (queue.readdCommand command).BelongsTo slaveId := by
  obtain ⟨polls, writes⟩ := belongsTo_iff.mp belongs
  cases command with
  | poll reg =>
    exact belongsTo_iff.mpr ⟨List.forall_mem_cons.mpr ⟨own, polls⟩, writes⟩
  | write cmd =>
    exact belongsTo_iff.mpr ⟨polls, List.forall_mem_cons.mpr ⟨own, writes⟩⟩

theorem BelongsTo.addWriteCommand
    {cmd : RegisterWrite} (belongs : queue.BelongsTo cmd.slaveId) :
    (queue.addWriteCommand cmd).BelongsTo cmd.slaveId := by
  obtain ⟨polls, writes⟩ := belongsTo_iff.mp belongs
  refine belongsTo_iff.mpr ⟨polls, ?_⟩
  intro queued member
  rcases List.mem_append.mp member with old | new
  · exact writes queued old
  · rw [List.mem_singleton.mp new]

theorem BelongsTo.popNext {rest : ModbusRequestsQueues}
    {command : RegisterCommand} (belongs : queue.BelongsTo slaveId)
    (popped : queue.popNext = some (command, rest)) :
    command.slaveId = slaveId ∧ rest.BelongsTo slaveId := by
  obtain ⟨pollsHere, writesHere⟩ := belongsTo_iff.mp belongs
  rcases popNext_eq_some popped with
    ⟨reg, rfl, polls, writes⟩ | ⟨cmd, rfl, writes, polls⟩
  · rw [polls] at pollsHere
    rw [← writes] at writesHere
    obtain ⟨here, later⟩ := List.forall_mem_cons.mp pollsHere
    exact ⟨here, belongsTo_iff.mpr ⟨later, writesHere⟩⟩
  · rw [← polls] at pollsHere
    rw [writes] at writesHere
    obtain ⟨here, later⟩ := List.forall_mem_cons.mp writesHere
    exact ⟨here, belongsTo_iff.mpr ⟨pollsHere, later⟩⟩

end ModbusRequestsQueues

namespace ModbusExecutor

def Owned (executor : ModbusExecutor) : Prop :=
  ∀ slaveId, (executor.slaveQueue slaveId).BelongsTo slaveId

/-- The waiting command is one of the current queue's slave. -/
def Seated (executor : ModbusExecutor) : Prop :=
  ∀ command, executor.waitingCommand = some command →
    executor.currentSlaveQueue = some command.slaveId

variable {executor next : ModbusExecutor} {events : List ExecutorEvent}

theorem seated_of_idle
    (idle : executor.waitingCommand = none) : executor.Seated := by
  intro command waiting
  rw [idle] at waiting
  cases waiting

theorem Owned.setSlaveQueue {slaveId : Int}
    {queue : ModbusRequestsQueues} (owned : executor.Owned)
    (belongs : queue.BelongsTo slaveId) :
    (executor.setSlaveQueue slaveId queue).Owned := by
  intro other
  rw [slaveQueue_setSlaveQueue]
  split
  · rename_i same
    exact same ▸ belongs
  · exact owned other

theorem Owned.enqueuePolls
    {entries : List (Int × List RegisterPoll)} (owned : executor.Owned)
    (keyed : ∀ entry ∈ entries, ∀ reg ∈ entry.2, reg.slaveId = entry.1) :
    (executor.enqueuePolls entries).1.Owned := by
  induction entries generalizing executor with
  | nil => exact owned
  | cons entry entries induction =>
    obtain ⟨here, later⟩ := List.forall_mem_cons.mp keyed
    exact induction
      (owned.setSlaveQueue ((owned entry.1).addPollList here)) later

variable {now : Int} {ready : ModbusExecutor} {input : ExecuteInput}
  {marked : ModbusExecutor × Bool}

/-- A choice made from queues that are owned seats the command it takes. -/
theorem Owned.chooseCommand {firstAdded : Int}
    (owned : executor.Owned) (idle : executor.waitingCommand = none)
    (chosen : executor.chooseCommand firstAdded now = some (next, events)) :
    next.Owned ∧ next.Seated := by
  apply chooseCommand_induction (fun reached => reached.Owned ∧
    reached.Seated) _ _ _ chosen
  · intro _ _
    exact ⟨owned, seated_of_idle idle⟩
  · intro reached slaveId queue polls writes before
    obtain ⟨owned, seated⟩ := before
    exact ⟨owned.setSlaveQueue ((owned slaveId).subset (by simp [polls])
      (by simp [writes])), seated⟩
  · intro reached slaveId queue reg front back polls remaining writes before
    obtain ⟨owned, _⟩ := before
    constructor
    · apply owned.setSlaveQueue
      refine (owned slaveId).subset ?_ (by simp [writes])
      rw [polls, remaining]
      intro listed member
      rcases List.mem_append.mp member with early | late
      · exact List.mem_append_left _ early
      · exact List.mem_append_right _ (List.mem_cons_of_mem reg late)
    · intro command waiting
      cases waiting
      have own := (ModbusRequestsQueues.belongsTo_iff.mp (owned slaveId)).1 reg
        (by rw [polls]; simp)
      exact congrArg some own.symm
  · intro reached slaveId queue command popped before
    obtain ⟨owned, _⟩ := before
    obtain ⟨own, rest⟩ := (owned slaveId).popNext popped
    refine ⟨owned.setSlaveQueue rest, ?_⟩
    intro taken waiting
    cases waiting
    exact congrArg some own.symm

theorem Owned.taken (owned : executor.Owned) (taken : Taken executor ready) :
    ready.Owned ∧ (executor.waitingCommand = none → ready.Seated) := by
  have seated {slaveId : Int} {command : RegisterCommand}
      {queue : ModbusRequestsQueues} {last : ModbusExecutor}
      (popped : (executor.slaveQueue slaveId).popNext = some (command, queue))
      (queues : last.slaveQueues =
        (executor.setSlaveQueue slaveId queue).slaveQueues)
      (current : last.currentSlaveQueue = some slaveId)
      (waiting : last.waitingCommand = some command) :
      last.Owned ∧ (executor.waitingCommand = none → last.Seated) := by
    obtain ⟨own, rest⟩ := (owned slaveId).popNext popped
    constructor
    · intro other
      rw [slaveQueue, queues]
      exact owned.setSlaveQueue rest other
    · intro _ taken held
      cases waiting.symm.trans held
      rw [current, own]
  cases taken with
  | kept _ => exact ⟨owned, seated_of_idle⟩
  | continued _ _ _ popped => exact seated popped rfl rfl rfl
  | moved _ _ _ _ popped _ => exact seated popped rfl rfl rfl

/-- Polls are offered under their own slave, and a write on the fast path
displaces a command of its own slave only. -/
def KeepsOwnership (executor : ModbusExecutor) : ExecutorCall → Prop
  | .setupInitialPoll registers _ | .addPollList registers _ =>
    ∀ entry ∈ registers.entries, ∀ reg ∈ entry.2, reg.slaveId = entry.1
  | .addWriteCommand cmd _ =>
    executor.writeCommandsQueued = 0 →
      ∀ waiting ∈ executor.waitingCommand, waiting.slaveId = cmd.slaveId
  | _ => True

instance (executor : ModbusExecutor) (call : ExecutorCall) :
    Decidable (executor.KeepsOwnership call) := by
  refine call.casesOn ?_ ?_ ?_ ?_ ?_ <;> intros <;> dsimp only [KeepsOwnership] <;>
    infer_instance

/-- An observer that marks whether the waiting command came out of a queue.
Only the fast path fills the slot in another way, and no call fills a slot
that is not empty otherwise. -/
def markTaken (marked : ModbusExecutor × Bool) (call : ExecutorCall)
    (result : ModbusExecutor × List ExecutorEvent) :
    Bool × List ExecutorEvent :=
  match call with
  | .addWriteCommand _ _ =>
    (marked.2 && marked.1.writeCommandsQueued ≠ 0, result.2)
  | _ =>
    (result.1.waitingCommand.isSome &&
      (marked.2 || marked.1.waitingCommand.isNone), result.2)

/-- Ownership of the queues, and the seat of a command that was taken from
one. -/
structure QueueOwnership (marked : ModbusExecutor × Bool) : Prop where
  owned : marked.1.Owned
  seated : marked.2 = true → ∃ command,
    marked.1.waitingCommand = some command ∧
      marked.1.currentSlaveQueue = some command.slaveId

/-- How a call other than a write treats the slot: an empty one is filled from
a queue that becomes current, and a full one is emptied or left alone. -/
structure KeepsSeat (executor next : ModbusExecutor) : Prop where
  filled : executor.waitingCommand = none → next.Seated
  kept : executor.waitingCommand ≠ none →
    executor.currentSlaveQueue ≠ none →
    next.waitingCommand = none ∨
      next.waitingCommand = executor.waitingCommand ∧
        next.currentSlaveQueue = executor.currentSlaveQueue

theorem addPollList_ownership
    {registers : OrderedMap Int (List RegisterPoll)} {initialPoll : Bool}
    (keyed : ∀ entry ∈ registers.entries, ∀ reg ∈ entry.2,
      reg.slaveId = entry.1)
    (owned : executor.Owned)
    (added : executor.addPollList registers initialPoll now =
      some (next, events)) :
    next.Owned ∧ KeepsSeat executor next := by
  have enqueued (initialPoll : Bool) : ({ executor with
      initialPoll }.enqueuePolls registers.entries).1.Owned :=
    Owned.enqueuePolls owned keyed
  cases addPollList_added added with
  | ignored _ _ =>
    exact ⟨owned, seated_of_idle, fun _ _ => .inr ⟨rfl, rfl⟩⟩
  | @queued initialPoll _ _ =>
    refine ⟨enqueued initialPoll, ?_⟩
    obtain ⟨slaveQueues, same⟩ :=
      { executor with initialPoll }.enqueuePolls_eq registers.entries
    rw [same]
    exact ⟨fun idle => seated_of_idle idle, fun _ _ => .inr ⟨rfl, rfl⟩⟩
  | @chosen initialPoll slaveId now _ _ _ done _ choice =>
    have idle : executor.waitingCommand = none :=
      Option.isNone_iff_eq_none.mp (Bool.and_eq_true_iff.mp done).1
    obtain ⟨chosen, seated⟩ := (enqueued initialPoll).chooseCommand (by
      rw [(enqueuePolls_eq _ _).choose_spec]
      exact idle) choice
    exact ⟨chosen, fun _ => seated, fun busy => (busy idle).elim⟩

theorem addReadCommand_ownership (owned : executor.Owned) (reg : RegisterPoll) :
    (executor.addReadCommand reg).1.Owned ∧
      KeepsSeat executor (executor.addReadCommand reg).1 := by
  have queued : (executor.setSlaveQueue reg.slaveId
      ((executor.slaveQueue reg.slaveId).addPollList [reg]).1).Owned := by
    apply owned.setSlaveQueue
    exact (owned reg.slaveId).addPollList (by simp)
  rw [addReadCommand]
  split
  · rename_i atEnd
    rw [(resetCommandsCounter_eq _ _).choose_spec]
    exact ⟨queued, fun idle => seated_of_idle idle,
      fun _ placed => (placed atEnd).elim⟩
  · exact ⟨queued, fun idle => seated_of_idle idle,
      fun _ _ => .inr ⟨rfl, rfl⟩⟩

theorem addWriteCommand_ownership {cmd : RegisterWrite} (owned : executor.Owned)
    (own : executor.writeCommandsQueued = 0 →
      ∀ waiting ∈ executor.waitingCommand, waiting.slaveId = cmd.slaveId)
    (endAnswer : Bool) :
    (executor.addWriteCommand cmd endAnswer).1.Owned ∧
      (executor.writeCommandsQueued ≠ 0 → executor.currentSlaveQueue ≠ none →
        (executor.addWriteCommand cmd endAnswer).1.waitingCommand =
            executor.waitingCommand ∧
          (executor.addWriteCommand cmd endAnswer).1.currentSlaveQueue =
            executor.currentSlaveQueue) := by
  rw [addWriteCommand]
  dsimp only
  split
  · rename_i noneQueued
    refine ⟨?_, fun some => (some noneQueued).elim⟩
    rw [(resetCommandsCounter_eq _ _).choose_spec]
    cases waiting : executor.waitingCommand with
    | none => exact owned
    | some preempted =>
      exact owned.setSlaveQueue ((owned cmd.slaveId).readdCommand
        (own noneQueued preempted waiting))
  · have queued := owned.setSlaveQueue (owned cmd.slaveId).addWriteCommand
    split
    · rename_i atEnd
      rw [(resetCommandsCounter_eq _ _).choose_spec]
      exact ⟨queued, fun _ placed => (placed atEnd).elim⟩
    · exact ⟨queued, fun _ _ => ⟨rfl, rfl⟩⟩

theorem Sending.seat {started sent : ModbusExecutor} {command : RegisterCommand}
    {outcome : CallOutcome}
    (sending : Sending started command input sent outcome) :
    sent.slaveQueues = started.slaveQueues ∧ (sent.waitingCommand = none ∨
        sent.waitingCommand = started.waitingCommand ∧
          sent.currentSlaveQueue = started.currentSlaveQueue) := by
  cases sending with
  | threw _ => exact ⟨rfl, .inr ⟨rfl, rfl⟩⟩
  | retried same _ =>
    rw [same]
    exact ⟨rfl, .inr ⟨rfl, rfl⟩⟩
  | finished same _ _ =>
    rw [same]
    exact ⟨rfl, .inl rfl⟩

theorem Taken.keepsSeat (owned : executor.Owned) (taken : Taken executor ready)
    (kept : next.waitingCommand = none ∨
      next.waitingCommand = ready.waitingCommand ∧
        next.currentSlaveQueue = ready.currentSlaveQueue) :
    KeepsSeat executor next := by
  constructor
  · intro idle
    have seated := (owned.taken taken).2 idle
    rcases kept with empty | ⟨waiting, current⟩
    · exact seated_of_idle empty
    · intro command held
      rw [current]
      exact seated command (waiting ▸ held)
  · intro busy _
    cases taken with
    | kept _ => exact kept
    | continued idle _ _ _ => exact (busy idle).elim
    | moved idle _ _ _ _ _ => exact (busy idle).elim

theorem executeNext_ownership (owned : executor.Owned)
    (executed : Executed executor input next events) :
    next.Owned ∧ KeepsSeat executor next := by
  cases executed with
  | nothing _ =>
    exact ⟨owned, seated_of_idle, fun _ _ => .inr ⟨rfl, rfl⟩⟩
  | idle taking idle =>
    have taken := takeNext_taken taking
    exact ⟨(owned.taken taken).1, taken.keepsSeat owned (.inl idle)⟩
  | waits taking _ _ =>
    have taken := takeNext_taken taking
    exact ⟨(owned.taken taken).1, taken.keepsSeat owned (.inr ⟨rfl, rfl⟩)⟩
  | @sends ready sent initialPoll command outcome messages taking _ _ _
      sending =>
      have taken := takeNext_taken taking
      obtain ⟨queues, seat⟩ := sending.seat
      obtain ⟨_, _, _, _, started⟩ := ready.startCommand_eq command
      rw [started] at queues seat
      refine ⟨?_, taken.keepsSeat owned seat⟩
      intro slaveId
      have kept := (owned.taken taken).1 slaveId
      rw [slaveQueue] at kept ⊢
      rw [queues]
      exact kept

theorem KeepsSeat.ownership {next : ModbusExecutor × Bool}
    (before : QueueOwnership marked) (owned : next.1.Owned)
    (seat : KeepsSeat marked.1 next.1)
    (marks : next.2 = true → next.1.waitingCommand ≠ none ∧
      (marked.2 = true ∨ marked.1.waitingCommand = none)) :
    QueueOwnership next := by
  refine ⟨owned, ?_⟩
  intro mark
  obtain ⟨busy, origin⟩ := marks mark
  obtain ⟨command, waiting⟩ := Option.ne_none_iff_exists'.mp busy
  refine ⟨command, waiting, ?_⟩
  by_cases idle : marked.1.waitingCommand = none
  · exact seat.filled idle command waiting
  · have taken := origin.resolve_right idle
    obtain ⟨held, waited, current⟩ := before.seated taken
    rcases seat.kept idle (by simp [current]) with empty | ⟨same, stays⟩
    · exact (busy empty).elim
    · rw [waiting, waited] at same
      cases same
      rw [stays, current]

theorem step_ownership {next : ModbusExecutor × Bool}
    {call : ExecutorCall} {seen : List ExecutorEvent}
    (before : QueueOwnership marked)
    (keeps : marked.1.KeepsOwnership call)
    (observed : Runs.observe step markTaken marked call = some (next, seen)) :
    QueueOwnership next := by
  obtain ⟨events, stepped, marks⟩ := Runs.observe_eq_some observed
  have marking : (next.1.waitingCommand.isSome &&
        (marked.2 || marked.1.waitingCommand.isNone)) = next.2 →
      next.2 = true → next.1.waitingCommand ≠ none ∧
        (marked.2 = true ∨ marked.1.waitingCommand = none) := by
    intro same mark
    rw [← same] at mark
    simpa [Option.ne_none_iff_isSome] using mark
  cases call with
  | setupInitialPoll registers now =>
    obtain ⟨owned, seat⟩ := addPollList_ownership keeps before.owned stepped
    exact seat.ownership before owned (marking (congrArg Prod.fst marks))
  | addPollList registers now =>
    obtain ⟨owned, seat⟩ := addPollList_ownership keeps before.owned stepped
    exact seat.ownership before owned (marking (congrArg Prod.fst marks))
  | addReadCommand reg =>
    have added := addReadCommand_ownership before.owned reg
    rw [Option.some.inj stepped] at added
    exact added.2.ownership before added.1
      (marking (congrArg Prod.fst marks))
  | executeNext input =>
    obtain ⟨⟨last, logged, returned⟩, executed, same⟩ :=
      Option.map_eq_some_iff.mp stepped
    obtain ⟨owned, seat⟩ := executeNext_ownership before.owned
      (executeNext_executed executed)
    rw [show last = next.1 from congrArg Prod.fst same] at owned seat
    exact seat.ownership before owned (marking (congrArg Prod.fst marks))
  | addWriteCommand cmd endAnswer =>
    have added := addWriteCommand_ownership before.owned keeps endAnswer
    rw [Option.some.inj stepped] at added
    have mark : (marked.2 && marked.1.writeCommandsQueued ≠ 0) = next.2 :=
      congrArg Prod.fst marks
    refine ⟨added.1, ?_⟩
    intro taken
    rw [taken] at mark
    simp only [Bool.and_eq_true, decide_eq_true_eq] at mark
    obtain ⟨held, waited, current⟩ := before.seated mark.1
    obtain ⟨waiting, stays⟩ := added.2 mark.2 (by simp [current])
    exact ⟨held, waiting.trans waited, stays.trans current⟩

/-- In every run that keeps ownership, a queue holds commands of its slave
only, and a command taken from a queue has its slave's queue current. -/
theorem queueOwnership_of_keepsOwnership {now : Int}
    {created : RegisterPoll → Int} {marked : ModbusExecutor × Bool}
    {seen : List ExecutorEvent}
    (run : Runs (Runs.observe step markTaken)
      (fun marked _ call => marked.1.KeepsOwnership call)
      (create now created, false) marked seen) : QueueOwnership marked := by
  induction run with
  | start =>
    refine ⟨?_, fun mark => by cases mark⟩
    intro slaveId command listed
    cases listed
  | step _ keeps observed induction =>
    exact step_ownership induction keeps observed

theorem queueOwnership_same_slave : ∃ marked seen,
      Runs (Runs.observe step markTaken)
        (fun marked _ call => marked.1.KeepsOwnership call)
        (create 0 fun _ => 0, false) marked seen ∧
      (marked.2 = true ∧ marked.1.waitingCommand =
        some (.poll (delayedPoll 1 10000000))) ∧
      QueueOwnership marked := by
  obtain ⟨marked, seen, run, reached⟩ := Runs.exists_of_replay
    [.addPollList (twoSlaves 10000000 20000000) 0,
      .addWriteCommand (retriedWrite 3 5) true,
      .executeNext (answered 0),
      .executeNext (answered 0)]
    (fun marked _ => marked.2 = true ∧ marked.1.waitingCommand =
      some (.poll (delayedPoll 1 10000000)))
    (show (Runs.replay (Runs.observe step markTaken)
      (fun marked _ call => marked.1.KeepsOwnership call) _
        ((create 0 fun _ => 0, false), [])).any _ = true by decide +kernel)
  exact ⟨marked, seen, run, reached, queueOwnership_of_keepsOwnership run⟩

/-- A poll of slave 1 waits when a write to slave 2 arrives: the poll is moved
into the queue of slave 2. -/
theorem poll_in_foreign_queue : ∃ executor history,
      Runs step (fun _ _ _ => True) (create 0 fun _ => 0) executor history ∧
      (executor.slaveQueue 2).pollQueue =
        [delayedPoll 1 10000000, delayedPoll 2 20000000] :=
  Runs.exists_of_replay
    [.addPollList (twoSlaves 10000000 20000000) 0,
      .addWriteCommand writeToNewSlave true]
    (fun executor _ => (executor.slaveQueue 2).pollQueue =
      [delayedPoll 1 10000000, delayedPoll 2 20000000])
    (show (Runs.replay step (fun _ _ _ => True) _
      (create 0 fun _ => 0, [])).any _ = true by decide +kernel)

end ModbusExecutor

end MqmGateway
