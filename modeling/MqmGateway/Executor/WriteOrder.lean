import MqmGateway.Executor.Pending

/-!
# Writes to one slave keep their order

A write takes one of two routes: straight into the waiting slot while the
write counter is zero, or through the write queue of its slave.  The counter
never falls below the number of pending writes, so the short route is open
only when no write can be overtaken.
-/

namespace MqmGateway

namespace ExecutorEvent

def addedWrite (slaveId : Int) : ExecutorEvent → Option RegisterWrite
  | .accepted (.write cmd) => if cmd.slaveId = slaveId then some cmd else none
  | _ => none

/-- The write to `slaveId` that the event completes: it succeeded, or failed
with no retry left. -/
def completedWrite (slaveId : Int) : ExecutorEvent → Option RegisterWrite
  | .issued (.write cmd) outcome retriesLeft =>
    if cmd.slaveId = slaveId ∧ outcome.finishes retriesLeft then
      some cmd
    else
      none
  | _ => none

/-- The event of a write that fails with no retry left. -/
def abandonsWrite : ExecutorEvent → Bool
  | .issued (.write _) outcome retriesLeft =>
    outcome.finishes retriesLeft && !outcome.isOk
  | _ => false

end ExecutorEvent

def addedWrites (slaveId : Int) (history : List ExecutorEvent) :
    List RegisterWrite :=
  history.filterMap (·.addedWrite slaveId)

def completedWrites (slaveId : Int) (history : List ExecutorEvent) :
    List RegisterWrite :=
  history.filterMap (·.completedWrite slaveId)

def RegisterCommand.writeTo (slaveId : Int) :
    RegisterCommand → List RegisterWrite
  | .poll _ => []
  | .write cmd => if cmd.slaveId = slaveId then [cmd] else []

namespace CommandStore

def waitingWrites (store : CommandStore) (slaveId : Int) : List RegisterWrite :=
  store.waiting.toList.flatMap (·.writeTo slaveId)

def pendingWrites (store : CommandStore) (slaveId : Int) : List RegisterWrite :=
  store.waitingWrites slaveId ++ (store.queue slaveId).writeQueue

def writeCount (store : CommandStore) : Nat :=
  store.waiting.toList.countP (!·.isPoll) +
    store.queues.total fun queue => queue.writeQueue.length

theorem writeCount_setQueue (store : CommandStore) (slaveId : Int)
    (queue : ModbusRequestsQueues) :
    (store.setQueue slaveId queue).writeCount +
        (store.queue slaveId).writeQueue.length =
      store.writeCount + queue.writeQueue.length := by
  have moved := store.queues.total_set
    (fun queue => queue.writeQueue.length)
    (show ({} : ModbusRequestsQueues).writeQueue.length = 0 by rfl)
    slaveId queue
  simp only [writeCount, setQueue, CommandStore.queue] at moved ⊢
  omega

theorem writeCount_hold (store : CommandStore)
    (waiting : Option RegisterCommand) :
    (store.hold waiting).writeCount + store.waiting.toList.countP (!·.isPoll) =
      store.writeCount + waiting.toList.countP (!·.isPoll) := by
  simp only [writeCount, hold]
  omega

@[simp] theorem writeCount_setCount (store : CommandStore)
    (writesQueued : Int) :
    (store.setCount writesQueued).writeCount = store.writeCount := rfl

theorem writeQueue_setQueue {store : CommandStore} {slaveId : Int}
    {queue : ModbusRequestsQueues}
    (writes : queue.writeQueue = (store.queue slaveId).writeQueue)
    (other : Int) :
    ((store.setQueue slaveId queue).queue other).writeQueue =
      (store.queue other).writeQueue := by
  rw [queue_setQueue]
  split
  · rename_i same
    rw [writes, same]
  · rfl

theorem no_writes {store : CommandStore} (zero : store.writeCount = 0) :
    (∀ cmd, store.waiting ≠ some (.write cmd)) ∧
      ∀ slaveId, (store.queue slaveId).writeQueue = [] := by
  obtain ⟨slot, queues⟩ := Nat.add_eq_zero_iff.mp zero
  constructor
  · intro cmd waiting
    simp [waiting, RegisterCommand.isPoll] at slot
  · intro slaveId
    by_contra queued
    have positive : 0 < store.queues.total fun queue =>
        queue.writeQueue.length := by
      rw [OrderedMap.total_pos_iff]
      have known : slaveId ∈ store.queues.keys := by
        by_contra unknown
        rw [CommandStore.queue, OrderedMap.getD_of_not_mem_keys {} unknown]
          at queued
        exact queued rfl
      have listed :=
        OrderedMap.mem_of_mem_keys ({} : ModbusRequestsQueues) known
      exact ⟨_, listed, List.length_pos_iff.mpr queued⟩
    omega

theorem waitingWrites_of_noWrite {store : CommandStore}
    (noWrite : ∀ cmd, store.waiting ≠ some (.write cmd)) (slaveId : Int) :
    store.waitingWrites slaveId = [] := by
  rw [waitingWrites]
  cases waiting : store.waiting with
  | none => rfl
  | some command =>
    cases command with
    | poll reg => rfl
    | write cmd => exact (noWrite cmd waiting).elim

end CommandStore

/-- How the pending writes, the counter and the history hang together. -/
structure WriteDiscipline (history : List ExecutorEvent)
    (store : CommandStore) : Prop where
  ordered : ∀ slaveId, addedWrites slaveId history =
    completedWrites slaveId history ++ store.pendingWrites slaveId
  owned : ∀ slaveId, ∀ cmd ∈ (store.queue slaveId).writeQueue,
    cmd.slaveId = slaveId
  counted : (store.writeCount : Int) ≤ store.writesQueued

variable {store next start : CommandStore}
  {events history : List ExecutorEvent} {cmd : RegisterWrite}

theorem CommandStore.waiting_poll {waiting : RegisterCommand}
    (counted : (store.writeCount : Int) ≤ store.writesQueued)
    (noneQueued : store.writesQueued = 0)
    (held : store.waiting = some waiting) : ∃ reg, waiting = .poll reg := by
  have zero : store.writeCount = 0 := by omega
  cases waiting with
  | poll reg => exact ⟨reg, rfl⟩
  | write cmd => exact ((no_writes zero).1 cmd held).elim

/-- The counter runs ahead of the pending writes by one for every write that
is given up. -/
theorem Move.surplus (moved : Move store events next) :
    next.writesQueued + store.writeCount = store.writesQueued +
      next.writeCount + events.countP (·.abandonsWrite) := by
  cases moved with
  | @retune slaveId queue polls writes =>
    have moved := store.writeCount_setQueue slaveId queue
    rw [writes] at moved
    simp
    omega
  | @enqueuePoll slaveId queue reg fresh polls writes =>
    have moved := store.writeCount_setQueue slaveId queue
    rw [writes] at moved
    simp [ExecutorEvent.abandonsWrite]
    omega
  | skipPoll member => simp [ExecutorEvent.abandonsWrite]
  | @takePoll slaveId queue reg before after noWrite polls remaining writes =>
    have moved := store.writeCount_setQueue slaveId queue
    have held :=
      (store.setQueue slaveId queue).writeCount_hold (some (.poll reg))
    have noneWaiting : store.waiting.toList.countP (!·.isPoll) = 0 := by
      cases waiting : store.waiting with
      | none => rfl
      | some command =>
        cases command with
        | poll reg => rfl
        | write cmd => exact (noWrite cmd waiting).elim
    have silent : (store.waiting.toList.map ExecutorEvent.displaced).countP
        (·.abandonsWrite) = 0 := by
      cases store.waiting <;> rfl
    rw [writes] at moved
    rw [CommandStore.setQueue_waiting, noneWaiting] at held
    rw [silent]
    simp [RegisterCommand.isPoll] at held ⊢
    omega
  | @takeWrite slaveId queue cmd idle writes polls =>
    have moved := store.writeCount_setQueue slaveId queue
    have held :=
      (store.setQueue slaveId queue).writeCount_hold (some (.write cmd))
    rw [writes, List.length_cons] at moved
    simp [RegisterCommand.isPoll, idle] at held ⊢
    omega
  | @jumpWrite cmd noneQueued idle =>
    have held := store.writeCount_hold (some (.write cmd))
    simp [RegisterCommand.isPoll, idle, ExecutorEvent.abandonsWrite]
      at held ⊢
    omega
  | @preempt cmd waiting noneQueued preempted =>
    have moved := store.writeCount_setQueue cmd.slaveId
      ((store.queue cmd.slaveId).readdCommand waiting)
    have held := (store.setQueue cmd.slaveId ((store.queue
      cmd.slaveId).readdCommand waiting)).writeCount_hold
        (some (.write cmd))
    cases waiting <;>
      simp [RegisterCommand.isPoll, preempted, ExecutorEvent.abandonsWrite,
        ModbusRequestsQueues.readdCommand] at moved held ⊢ <;>
      omega
  | @enqueueWrite cmd someQueued =>
    have moved := store.writeCount_setQueue cmd.slaveId
      ((store.queue cmd.slaveId).addWriteCommand cmd)
    simp [ModbusRequestsQueues.addWriteCommand, ExecutorEvent.abandonsWrite]
      at moved ⊢
    omega
  | @attempt issued outcome retriesLeft waiting unfinished =>
    cases issued with
    | poll reg => simp [ExecutorEvent.abandonsWrite]
    | write cmd => simp [ExecutorEvent.abandonsWrite, unfinished]
  | @finish issued outcome retriesLeft writesQueued waiting finishes decreased =>
    have held := store.writeCount_hold none
    cases issued with
    | poll reg =>
      simp [waiting, RegisterCommand.isPoll, RegisterCommand.writeDone,
        ExecutorEvent.abandonsWrite] at held decreased ⊢
      omega
    | write cmd =>
      cases ok : outcome.isOk <;>
        simp [waiting, RegisterCommand.isPoll, RegisterCommand.writeDone,
          ExecutorEvent.abandonsWrite, finishes, ok]
          at held decreased ⊢ <;>
        omega
  | send => simp [ExecutorEvent.abandonsWrite]

theorem Move.counted (moved : Move store events next)
    (counted : (store.writeCount : Int) ≤ store.writesQueued) :
    (next.writeCount : Int) ≤ next.writesQueued := by
  have surplus := moved.surplus
  omega

theorem Move.owned (moved : Move store events next)
    (counted : (store.writeCount : Int) ≤ store.writesQueued)
    (owned : ∀ slaveId, ∀ cmd ∈ (store.queue slaveId).writeQueue,
      cmd.slaveId = slaveId) :
    ∀ slaveId, ∀ cmd ∈ (next.queue slaveId).writeQueue,
      cmd.slaveId = slaveId := by
  intro other
  cases moved with
  | retune polls writes =>
    rw [CommandStore.writeQueue_setQueue writes]
    exact owned other
  | enqueuePoll fresh polls writes =>
    rw [CommandStore.writeQueue_setQueue writes]
    exact owned other
  | takePoll noWrite polls remaining writes =>
    have same := CommandStore.writeQueue_setQueue writes other
    intro cmd member
    exact owned other cmd (same ▸ member)
  | @takeWrite slaveId queue cmd idle writes polls =>
    have rest := store.queue_setQueue slaveId other queue
    intro queued member
    rw [CommandStore.hold_queue, rest] at member
    split at member
    · rename_i same
      apply owned other
      rw [same, writes]
      exact List.mem_cons_of_mem cmd member
    · exact owned other queued member
  | @preempt cmd waiting noneQueued held =>
    obtain ⟨reg, rfl⟩ := store.waiting_poll counted noneQueued held
    have same := CommandStore.writeQueue_setQueue
      (show ((store.queue cmd.slaveId).readdCommand
        (.poll reg)).writeQueue = (store.queue cmd.slaveId).writeQueue from
          rfl) other
    intro queued member
    exact owned other queued (same ▸ member)
  | @enqueueWrite cmd someQueued =>
    have appended := store.queue_setQueue cmd.slaveId other
      ((store.queue cmd.slaveId).addWriteCommand cmd)
    intro queued member
    rw [CommandStore.setCount_queue, appended] at member
    split at member
    · rename_i same
      rcases List.mem_append.mp member with old | new
      · exact owned other queued (same ▸ old)
      · rw [List.mem_singleton.mp new, same]
    · exact owned other queued member
  | _ => exact owned other

theorem addedWrites_write (slaveId : Int) (cmd : RegisterWrite) :
    addedWrites slaveId [.accepted (.write cmd)] =
      RegisterCommand.writeTo slaveId (.write cmd) := by
  by_cases same : cmd.slaveId = slaveId <;>
    simp [addedWrites, ExecutorEvent.addedWrite, RegisterCommand.writeTo, same]

theorem completedWrites_accepted (slaveId : Int) (command : RegisterCommand) :
    completedWrites slaveId [.accepted command] = [] := rfl

/-- A move adds at the end of a slave's pending writes and completes at their
front. -/
theorem Move.pendingWrites (moved : Move store events next)
    (counted : (store.writeCount : Int) ≤ store.writesQueued)
    (owned : ∀ slaveId, ∀ cmd ∈ (store.queue slaveId).writeQueue,
      cmd.slaveId = slaveId) (slaveId : Int) :
    store.pendingWrites slaveId ++ addedWrites slaveId events =
      completedWrites slaveId events ++ next.pendingWrites slaveId := by
  cases moved with
  | retune polls writes =>
    have queued := CommandStore.writeQueue_setQueue writes slaveId
    simp only [CommandStore.pendingWrites, queued]
    exact List.append_nil _
  | enqueuePoll fresh polls writes =>
    have queued := CommandStore.writeQueue_setQueue writes slaveId
    simp only [CommandStore.pendingWrites, queued]
    exact List.append_nil _
  | skipPoll member => exact List.append_nil _
  | @takePoll source queue reg before after noWrite polls remaining writes =>
    have queued := CommandStore.writeQueue_setQueue writes slaveId
    have silent : addedWrites slaveId
          (store.waiting.toList.map .displaced) = [] ∧
        completedWrites slaveId (store.waiting.toList.map .displaced) =
          [] := by
      cases store.waiting <;> exact ⟨rfl, rfl⟩
    rw [CommandStore.pendingWrites, CommandStore.pendingWrites,
      CommandStore.waitingWrites_of_noWrite noWrite,
      CommandStore.waitingWrites_of_noWrite (by simp), silent.1, silent.2,
      CommandStore.hold_queue, queued, List.append_nil, List.nil_append,
      List.nil_append]
  | @takeWrite source queue cmd idle writes polls =>
    have front : cmd.slaveId = source := by
      apply owned source cmd
      rw [writes]
      exact List.mem_cons_self
    by_cases same : slaveId = source
    · subst same
      simp [CommandStore.pendingWrites, CommandStore.waitingWrites, idle,
        RegisterCommand.writeTo, front, writes, addedWrites, completedWrites]
    · have other : cmd.slaveId ≠ slaveId := by
        rw [front]
        exact Ne.symm same
      simp [CommandStore.pendingWrites, CommandStore.waitingWrites, idle,
        RegisterCommand.writeTo, other, same, addedWrites, completedWrites]
  | @jumpWrite cmd noneQueued idle =>
    have nothing := (store.no_writes (by omega)).2 slaveId
    rw [addedWrites_write, completedWrites_accepted]
    simp [CommandStore.pendingWrites, CommandStore.waitingWrites, idle,
      nothing]
  | @preempt cmd waiting noneQueued held =>
    obtain ⟨reg, rfl⟩ := store.waiting_poll counted noneQueued held
    obtain ⟨noWrite, nothing⟩ := store.no_writes (by omega)
    have queued := CommandStore.writeQueue_setQueue
      (show ((store.queue cmd.slaveId).readdCommand
        (.poll reg)).writeQueue = (store.queue cmd.slaveId).writeQueue from
          rfl) slaveId
    rw [addedWrites_write, completedWrites_accepted,
      CommandStore.pendingWrites, CommandStore.pendingWrites,
      CommandStore.waitingWrites_of_noWrite noWrite, nothing slaveId,
      CommandStore.setCount_queue, CommandStore.hold_queue, queued,
      nothing slaveId]
    simp [CommandStore.waitingWrites]
  | @enqueueWrite cmd someQueued =>
    rw [addedWrites_write, completedWrites_accepted]
    by_cases same : slaveId = cmd.slaveId
    · subst same
      simp [CommandStore.pendingWrites, CommandStore.waitingWrites,
        RegisterCommand.writeTo, ModbusRequestsQueues.addWriteCommand]
    · simp [CommandStore.pendingWrites, CommandStore.waitingWrites,
        RegisterCommand.writeTo, same, Ne.symm same]
  | @attempt issued outcome retriesLeft waiting unfinished =>
    cases issued <;>
      simp [addedWrites, completedWrites, ExecutorEvent.addedWrite,
        ExecutorEvent.completedWrite, unfinished]
  | @finish issued outcome retriesLeft writesQueued waiting finishes decreased =>
    cases issued with
    | poll reg =>
      simp [CommandStore.pendingWrites, CommandStore.waitingWrites, waiting,
        RegisterCommand.writeTo, addedWrites, completedWrites,
        ExecutorEvent.addedWrite, ExecutorEvent.completedWrite]
    | write cmd =>
      by_cases same : cmd.slaveId = slaveId <;>
        simp [CommandStore.pendingWrites, CommandStore.waitingWrites,
          waiting, RegisterCommand.writeTo, addedWrites, completedWrites,
          ExecutorEvent.addedWrite, ExecutorEvent.completedWrite, finishes,
          same]
  | send => exact List.append_nil _

theorem trace_writeDiscipline (initially : WriteDiscipline [] start)
    (trace : Trace Move start history store) :
    WriteDiscipline history store := by
  induction trace with
  | refl => exact initially
  | @tail history events store next _ moved discipline =>
    constructor
    · intro slaveId
      have step := moved.pendingWrites discipline.counted discipline.owned
        slaveId
      have before := discipline.ordered slaveId
      rw [addedWrites, completedWrites] at before
      rw [addedWrites, completedWrites] at step
      rw [addedWrites, completedWrites, List.filterMap_append,
        List.filterMap_append, before, List.append_assoc, step,
        List.append_assoc]
    · exact moved.owned discipline.counted discipline.owned
    · exact moved.counted discipline.counted

theorem Move.waiting_of_issued
    {command : RegisterCommand} {outcome : CallOutcome} {retriesLeft : Nat}
    (moved : Move store [.issued command outcome retriesLeft] next) :
    store.waiting = some command := by
  generalize logged : [ExecutorEvent.issued command outcome retriesLeft] =
    events at moved
  cases moved with
  | takePoll =>
    cases waiting : store.waiting <;> simp [waiting] at logged
  | attempt waiting =>
    cases logged
    exact waiting
  | finish waiting =>
    cases logged
    exact waiting
  | _ => cases logged

theorem accepted_of_mem_addedWrites {slaveId : Int}
    (member : cmd ∈ addedWrites slaveId history) :
    .accepted (.write cmd) ∈ history := by
  obtain ⟨event, listed, added⟩ := List.mem_filterMap.mp member
  rw [ExecutorEvent.addedWrite.eq_def] at added
  split at added
  · split at added
    · cases added
      exact listed
    · cases added
  · cases added

theorem completes_of_mem_completedWrites {slaveId : Int}
    (member : cmd ∈ completedWrites slaveId history) :
    ∃ event ∈ history, event.completes (.write cmd) := by
  obtain ⟨event, listed, completed⟩ := List.mem_filterMap.mp member
  rw [ExecutorEvent.completedWrite.eq_def] at completed
  split at completed
  · split at completed
    · rename_i finishes
      cases completed
      exact ⟨_, listed, by simp [ExecutorEvent.completes, finishes.2]⟩
    · cases completed
  · cases completed

/-- Writes to one slave are attempted in the order they were added. -/
structure WritesInOrder (history : List ExecutorEvent) : Prop where
  /-- Whenever a write is attempted, the writes added for its slave before it
  are exactly the completed ones. -/
  oldestFirst : ∀ before cmd outcome retriesLeft after,
    history = before ++ .issued (.write cmd) outcome retriesLeft :: after →
    ∃ younger, addedWrites cmd.slaveId before =
      completedWrites cmd.slaveId before ++ cmd :: younger
  /-- A write is attempted only after every write to its slave that was added
  before it has completed. -/
  afterCompletion : ∀ earlier first between second outcome retriesLeft after,
    history = (earlier ++ .accepted (.write first) :: between) ++
      .issued (.write second) outcome retriesLeft :: after →
    first.slaveId = second.slaveId → first ≠ second →
    .accepted (.write second) ∉ earlier →
    ∃ event ∈ between, event.completes (.write first)

theorem trace_oldestFirst {before after : List ExecutorEvent}
    {outcome : CallOutcome} {retriesLeft : Nat}
    (initially : WriteDiscipline [] start)
    (trace : Trace Move start history store)
    (split : history = before ++
      .issued (.write cmd) outcome retriesLeft :: after) :
    ∃ younger, addedWrites cmd.slaveId before =
      completedWrites cmd.slaveId before ++ cmd :: younger := by
  obtain ⟨state, next, earlier, issued, _⟩ := trace.at_event Move.short split
  have ordered := (trace_writeDiscipline initially earlier).ordered cmd.slaveId
  refine ⟨(state.queue cmd.slaveId).writeQueue, ?_⟩
  rw [ordered, CommandStore.pendingWrites, CommandStore.waitingWrites,
    issued.waiting_of_issued]
  simp [RegisterCommand.writeTo]

theorem trace_writesInOrder (initially : WriteDiscipline [] start)
    (trace : Trace Move start history store) : WritesInOrder history := by
  constructor
  · intro before cmd outcome retriesLeft after split
    exact trace_oldestFirst initially trace split
  · intro earlier first between second outcome retriesLeft after split
      sameSlave different notEarlier
    obtain ⟨younger, attempted⟩ := trace_oldestFirst initially trace split
    rw [List.append_assoc] at split
    obtain ⟨state, _, front, _, _⟩ := trace.at_event Move.short split
    have ordered :=
      (trace_writeDiscipline initially front).ordered second.slaveId
    have added : addedWrites second.slaveId
        (earlier ++ .accepted (.write first) :: between) =
        addedWrites second.slaveId earlier ++
          first :: addedWrites second.slaveId between := by
      simp [addedWrites, ExecutorEvent.addedWrite, sameSlave]
    have completed : completedWrites second.slaveId
        (earlier ++ .accepted (.write first) :: between) =
        completedWrites second.slaveId earlier ++
          completedWrites second.slaveId between := by
      simp [completedWrites, ExecutorEvent.completedWrite]
    rw [added] at attempted
    rcases List.append_eq_append_iff.mp attempted with
      ⟨middle, reached, rest⟩ | ⟨middle, beyond, rest⟩
    · cases middle with
      | nil => exact (different (List.cons.inj rest).1).elim
      | cons head tail =>
        rw [(List.cons.inj rest).1.symm, completed, ordered,
          List.append_assoc, List.append_cancel_left_eq] at reached
        apply completes_of_mem_completedWrites
        rw [reached]
        simp
    · cases middle with
      | nil => exact (different (List.cons.inj rest).1.symm).elim
      | cons head tail =>
        apply (notEarlier _).elim
        apply accepted_of_mem_addedWrites
        rw [beyond, (List.cons.inj rest).1]
        simp

/-- Writes to one slave are never reordered, in any run. -/
theorem ModbusExecutor.writes_never_reordered {now : Int}
    {created : RegisterPoll → Int} {executor : ModbusExecutor}
    {history : List ExecutorEvent}
    (run : Runs ModbusExecutor.step (fun _ _ _ => True)
      (ModbusExecutor.create now created) executor history) :
    WritesInOrder history := by
  apply trace_writesInOrder _ (ModbusExecutor.run_trace run)
  constructor
  · intro slaveId
    rfl
  · intro slaveId cmd member
    cases member
  · exact le_refl _

def retriedWrite (address : Nat) (value : UInt16) : RegisterWrite :=
  { delayBeforeFirstCommand := 0
    delayBeforeCommand := 0
    maxReadRetryCount := 0
    maxWriteRetryCount := 1
    address
    slaveId := 1
    register := 0
    registerType := .holding
    values := [value]
    writeMode := .auto
    commandId := 0
    returnMessage := none }

def unanswered : ExecuteInput :=
  { ModbusExecutor.answered 0 with
    answer := { fails := true, contents := fun _ => 0 } }

theorem ModbusExecutor.writes_never_reordered_retry : ∃ executor history,
      Runs ModbusExecutor.step (fun _ _ _ => True)
        (ModbusExecutor.create 0 fun _ => 0) executor history ∧
      .issued (.write (retriedWrite 1 5)) .failed 1 ∈ history ∧
      .issued (.write (retriedWrite 2 6)) (.ok [6]) 1 ∈ history ∧
      WritesInOrder history := by
  have replayed : ∃ last, Runs.replay ModbusExecutor.step (fun _ _ _ => True)
      [.addWriteCommand (retriedWrite 1 5) true,
        .addWriteCommand (retriedWrite 2 6) true,
        .executeNext unanswered,
        .executeNext (ModbusExecutor.answered 0),
        .executeNext (ModbusExecutor.answered 0)]
      (ModbusExecutor.create 0 fun _ => 0, []) = some last ∧
      .issued (.write (retriedWrite 1 5)) .failed 1 ∈ last.2 ∧
      .issued (.write (retriedWrite 2 6)) (.ok [6]) 1 ∈ last.2 := by
    refine ⟨_, rfl, ?_⟩
    decide
  obtain ⟨last, replaying, failed, succeeded⟩ := replayed
  have run := Runs.of_replay .start replaying
  exact ⟨last.1, last.2, run, failed, succeeded,
    ModbusExecutor.writes_never_reordered run⟩

end MqmGateway
