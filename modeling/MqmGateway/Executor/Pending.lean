import Mathlib.Data.List.Count
import MqmGateway.Executor.Election

/-!
# Pending commands are accounted for

A command is pending while it waits in the slot or in a queue.  Every move
keeps the balance of what was accepted, finished, displaced and is pending.
Only the election of `addPollList` displaces a command, and only when a second
slave asks for a shorter delay than the slave elected before it.
-/

namespace MqmGateway

namespace ExecutorEvent

/-- The event of a call after which the executor is done with `command`. -/
def completes (command : RegisterCommand) : ExecutorEvent → Bool
  | .issued called outcome retriesLeft =>
    called = command && outcome.finishes retriesLeft
  | _ => false

def mentions (command : RegisterCommand) (event : ExecutorEvent) : Prop :=
  event = .accepted command ∨ event = .duplicate command

def acceptedCommand : ExecutorEvent → Option RegisterCommand
  | .accepted command => some command
  | _ => none

def completedCommand : ExecutorEvent → Option RegisterCommand
  | .issued command outcome retriesLeft =>
    if outcome.finishes retriesLeft then some command else none
  | _ => none

def displacedCommand : ExecutorEvent → Option RegisterCommand
  | .displaced command => some command
  | _ => none

end ExecutorEvent

namespace ModbusRequestsQueues

/-- How often a command stands in the queues of one slave. -/
def occurrences (command : RegisterCommand) (queue : ModbusRequestsQueues) :
    Nat :=
  match command with
  | .poll reg => queue.pollQueue.count reg
  | .write cmd => queue.writeQueue.count cmd

variable {queue other : ModbusRequestsQueues}

theorem occurrences_congr (polls : queue.pollQueue = other.pollQueue)
    (writes : queue.writeQueue = other.writeQueue)
    (command : RegisterCommand) :
    queue.occurrences command = other.occurrences command := by
  cases command <;> simp [occurrences, polls, writes]

theorem occurrences_insertPoll
    {before after : List RegisterPoll} {reg : RegisterPoll}
    (polls : queue.pollQueue = before ++ after)
    (longer : other.pollQueue = before ++ reg :: after)
    (writes : queue.writeQueue = other.writeQueue)
    (command : RegisterCommand) :
    other.occurrences command =
      queue.occurrences command + [.poll reg].count command := by
  cases command with
  | poll counted =>
    simp [occurrences, polls, longer, List.count_cons]
    omega
  | write cmd => simp [occurrences, writes]

theorem occurrences_insertWrite
    {before after : List RegisterWrite} {cmd : RegisterWrite}
    (writes : queue.writeQueue = before ++ after)
    (longer : other.writeQueue = before ++ cmd :: after)
    (polls : queue.pollQueue = other.pollQueue) (command : RegisterCommand) :
    other.occurrences command =
      queue.occurrences command + [.write cmd].count command := by
  cases command with
  | poll reg => simp [occurrences, polls]
  | write counted =>
    simp [occurrences, writes, longer, List.count_cons]
    omega

theorem occurrences_readdCommand (queue : ModbusRequestsQueues)
    (waiting command : RegisterCommand) :
    (queue.readdCommand waiting).occurrences command =
      queue.occurrences command + [waiting].count command := by
  cases waiting with
  | poll reg =>
    have front : (queue.readdCommand (.poll reg)).pollQueue =
        [] ++ reg :: queue.pollQueue := rfl
    exact occurrences_insertPoll (List.nil_append _).symm front rfl command
  | write cmd =>
    have front : (queue.readdCommand (.write cmd)).writeQueue =
        [] ++ cmd :: queue.writeQueue := rfl
    exact occurrences_insertWrite (List.nil_append _).symm front rfl command

end ModbusRequestsQueues

namespace CommandStore

def pendingCount (store : CommandStore) (command : RegisterCommand) : Nat :=
  store.waiting.toList.count command +
    store.queues.total (ModbusRequestsQueues.occurrences command)

theorem pendingCount_setQueue (store : CommandStore) (slaveId : Int)
    (queue : ModbusRequestsQueues) (command : RegisterCommand) :
    (store.setQueue slaveId queue).pendingCount command +
        (store.queue slaveId).occurrences command =
      store.pendingCount command + queue.occurrences command := by
  have moved := store.queues.total_set
    (ModbusRequestsQueues.occurrences command)
    (show ({} : ModbusRequestsQueues).occurrences command = 0 by
      cases command <;> rfl)
    slaveId queue
  simp only [pendingCount, setQueue, CommandStore.queue] at moved ⊢
  omega

theorem pendingCount_hold (store : CommandStore)
    (waiting : Option RegisterCommand) (command : RegisterCommand) :
    (store.hold waiting).pendingCount command +
        store.waiting.toList.count command =
      store.pendingCount command + waiting.toList.count command := by
  simp only [pendingCount, hold]
  omega

@[simp] theorem pendingCount_setCount (store : CommandStore)
    (writesQueued : Int) (command : RegisterCommand) :
    (store.setCount writesQueued).pendingCount command =
      store.pendingCount command := rfl

end CommandStore

theorem count_accepted (command other : RegisterCommand) :
    [ExecutorEvent.accepted other].count (.accepted command) =
      [other].count command := by
  by_cases same : other = command <;> simp [same]

theorem counts_displaced (command : RegisterCommand)
    (waiting : Option RegisterCommand) :
    (waiting.toList.map ExecutorEvent.displaced).count (.displaced command) =
        waiting.toList.count command ∧
      (waiting.toList.map ExecutorEvent.displaced).countP
          (·.completes command) = 0 ∧
      (waiting.toList.map ExecutorEvent.displaced).count
          (.accepted command) = 0 := by
  cases waiting with
  | none => simp
  | some other =>
    by_cases same : other = command <;>
      simp [same, ExecutorEvent.completes]

variable {store next : CommandStore} {events : List ExecutorEvent}
  {command : RegisterCommand}

/-- The balance of one command over one move. -/
theorem Move.balance
    (moved : Move store events next) (command : RegisterCommand) :
    next.pendingCount command + events.countP (·.completes command) +
        events.count (.displaced command) =
      store.pendingCount command + events.count (.accepted command) := by
  cases moved with
  | @retune slaveId queue polls writes =>
    have moved := store.pendingCount_setQueue slaveId queue command
    have same := ModbusRequestsQueues.occurrences_congr polls writes command
    simp only [List.countP_nil, List.count_nil]
    omega
  | @enqueuePoll slaveId queue reg fresh polls writes =>
    have moved := store.pendingCount_setQueue slaveId queue command
    have longer := ModbusRequestsQueues.occurrences_insertPoll
      (List.append_nil _).symm polls writes.symm command
    rw [count_accepted]
    simp [ExecutorEvent.completes]
    omega
  | skipPoll member => simp [ExecutorEvent.completes]
  | @takePoll slaveId queue reg before after noWrite polls remaining writes =>
    have moved := store.pendingCount_setQueue slaveId queue command
    have held := (store.setQueue slaveId queue).pendingCount_hold
      (some (.poll reg)) command
    have shorter := ModbusRequestsQueues.occurrences_insertPoll remaining
      polls writes command
    obtain ⟨displaced, completed, accepted⟩ :=
      counts_displaced command store.waiting
    rw [Option.toList_some, CommandStore.setQueue_waiting] at held
    omega
  | @takeWrite slaveId queue cmd idle writes polls =>
    have moved := store.pendingCount_setQueue slaveId queue command
    have held := (store.setQueue slaveId queue).pendingCount_hold
      (some (.write cmd)) command
    have front : (store.queue slaveId).writeQueue =
        [] ++ cmd :: queue.writeQueue := writes
    have shorter := ModbusRequestsQueues.occurrences_insertWrite
      (List.nil_append _).symm front polls command
    rw [Option.toList_some, CommandStore.setQueue_waiting, idle] at held
    simp only [Option.toList_none, List.count_nil, List.countP_nil] at held ⊢
    omega
  | @jumpWrite cmd noneQueued idle =>
    have held := store.pendingCount_hold (some (.write cmd)) command
    rw [Option.toList_some, idle] at held
    rw [count_accepted]
    simp [ExecutorEvent.completes] at held ⊢
    omega
  | @preempt cmd waiting noneQueued preempted =>
    have moved := store.pendingCount_setQueue cmd.slaveId
      ((store.queue cmd.slaveId).readdCommand waiting) command
    have held := (store.setQueue cmd.slaveId ((store.queue
      cmd.slaveId).readdCommand waiting)).pendingCount_hold
        (some (.write cmd)) command
    have longer := (store.queue cmd.slaveId).occurrences_readdCommand waiting
      command
    rw [Option.toList_some, CommandStore.setQueue_waiting, preempted,
      Option.toList_some] at held
    rw [count_accepted]
    simp [ExecutorEvent.completes]
    omega
  | @enqueueWrite cmd someQueued =>
    have moved := store.pendingCount_setQueue cmd.slaveId
      ((store.queue cmd.slaveId).addWriteCommand cmd) command
    have back : ((store.queue cmd.slaveId).addWriteCommand cmd).writeQueue =
        (store.queue cmd.slaveId).writeQueue ++ cmd :: [] := rfl
    have longer := ModbusRequestsQueues.occurrences_insertWrite
      (List.append_nil _).symm back rfl command
    rw [count_accepted]
    simp [ExecutorEvent.completes]
    omega
  | attempt waiting unfinished =>
    simp [ExecutorEvent.completes, unfinished]
  | @finish issued outcome retriesLeft writesQueued waiting finishes counted =>
    have held := store.pendingCount_hold none command
    rw [waiting] at held
    by_cases same : issued = command <;>
      simp [ExecutorEvent.completes, finishes, same] at held ⊢ <;> omega
  | send => simp [ExecutorEvent.completes]

theorem CommandStore.pendingCount_pos_of_queued
    {slaveId : Int} {reg : RegisterPoll}
    (queued : reg ∈ (store.queue slaveId).pollQueue) :
    0 < store.pendingCount (.poll reg) := by
  have known : slaveId ∈ store.queues.keys := by
    by_contra unknown
    rw [CommandStore.queue, OrderedMap.getD_of_not_mem_keys {} unknown]
      at queued
    cases queued
  have stored : 0 < store.queues.total
      (ModbusRequestsQueues.occurrences (.poll reg)) := by
    rw [OrderedMap.total_pos_iff]
    have listed := OrderedMap.mem_of_mem_keys ({} : ModbusRequestsQueues) known
    exact ⟨_, listed, List.count_pos_iff.mpr queued⟩
  rw [CommandStore.pendingCount]
  omega

theorem Move.pending_of_mentions {event : ExecutorEvent}
    (moved : Move store events next)
    (member : event ∈ events) (mentioned : event.mentions command) :
    0 < next.pendingCount command := by
  have balanced := moved.balance command
  rcases mentioned with rfl | rfl
  · have noneCompleted : [ExecutorEvent.accepted command].countP
        (·.completes command) = 0 := by
      simp [ExecutorEvent.completes]
    have noneDisplaced : [ExecutorEvent.accepted command].count
        (.displaced command) = 0 := by
      simp
    have one : [ExecutorEvent.accepted command].count (.accepted command) =
        1 :=
      List.count_singleton_self
    cases moved <;> simp at member
    all_goals
      subst member
      omega
  · cases moved <;> simp at member
    rename_i queued
    subst member
    exact CommandStore.pendingCount_pos_of_queued queued

theorem Move.pending_or_over (moved : Move store events next)
    (pending : 0 < store.pendingCount command) :
    0 < next.pendingCount command ∨ ∃ later ∈ events, later.completes command ∨
        later = .displaced command := by
  have balanced := moved.balance command
  by_cases completed : events.countP (·.completes command) = 0
  · by_cases displaced : events.count (.displaced command) = 0
    · left
      omega
    · right
      have member := List.count_pos_iff.mp (Nat.pos_of_ne_zero displaced)
      exact ⟨.displaced command, member, .inr rfl⟩
  · right
    obtain ⟨later, member, completes⟩ :=
      List.countP_pos_iff.mp (Nat.pos_of_ne_zero completed)
    exact ⟨later, member, .inl completes⟩

theorem trace_balance {start : CommandStore}
    {history : List ExecutorEvent} (trace : Trace Move start history store)
    (command : RegisterCommand) :
    store.pendingCount command + history.countP (·.completes command) +
        history.count (.displaced command) =
      start.pendingCount command + history.count (.accepted command) := by
  induction trace with
  | refl => simp
  | tail _ moved balanced =>
    have step := moved.balance command
    simp only [List.countP_append, List.count_append]
    omega

theorem trace_pending {start : CommandStore} {history : List ExecutorEvent}
    (pending : 0 < start.pendingCount command)
    (trace : Trace Move start history store) :
    0 < store.pendingCount command ∨
      ∃ later ∈ history, later.completes command ∨
        later = .displaced command := by
  induction trace with
  | refl => exact .inl pending
  | tail _ moved induction =>
    rcases induction with still | ⟨later, member, ended⟩
    · rcases moved.pending_or_over still with kept | ⟨later, member, ended⟩
      · exact .inl kept
      · exact .inr ⟨later, List.mem_append_right _ member, ended⟩
    · exact .inr ⟨later, List.mem_append_left _ member, ended⟩

namespace ModbusExecutor

theorem addReadCommand_accepts (executor : ModbusExecutor)
    (reg : RegisterPoll) :
    ((executor.addReadCommand reg).2.filterMap (·.acceptedCommand)).Sublist
      [.poll reg] := by
  have added : (executor.addReadCommand reg).2 =
      ((executor.slaveQueue reg.slaveId).addPollList [reg]).2 := by
    rw [addReadCommand]
    split <;> rfl
  rw [added, ModbusRequestsQueues.addPollList]
  split
  · exact List.nil_sublist _
  · exact List.Sublist.refl _

/-- All pending commands: the waiting one and those in the queues. -/
def pendingCommands (executor : ModbusExecutor) : List RegisterCommand :=
  executor.waitingCommand.toList ++
    executor.slaveQueues.entries.flatMap fun entry =>
      entry.2.pollQueue.map .poll ++ entry.2.writeQueue.map .write

theorem count_pendingCommands (executor : ModbusExecutor)
    (command : RegisterCommand) :
    executor.pendingCommands.count command =
      executor.commands.pendingCount command := by
  rw [pendingCommands, List.count_append, List.count_flatMap,
    CommandStore.pendingCount, OrderedMap.total]
  congr 2
  apply List.map_congr_left
  intro entry _
  cases command with
  | poll reg =>
    have noWrite : (entry.2.writeQueue.map RegisterCommand.write).count
        (.poll reg) = 0 := by
      simp [List.count_eq_zero]
    simp [ModbusRequestsQueues.occurrences, noWrite,
      List.count_map_of_injective _ _ RegisterCommand.poll_injective]
  | write cmd =>
    have noPoll : (entry.2.pollQueue.map RegisterCommand.poll).count
        (.write cmd) = 0 := by
      simp [List.count_eq_zero]
    simp [ModbusRequestsQueues.occurrences, noPoll,
      List.count_map_of_injective _ _ RegisterCommand.write_injective]

private theorem count_filterMap_eq {choose : ExecutorEvent → Option RegisterCommand}
    (matching : ExecutorEvent → Bool) {command : RegisterCommand}
    (same : ∀ event, choose event = some command ↔ matching event = true)
    (history : List ExecutorEvent) :
    (history.filterMap choose).count command = history.countP matching := by
  rw [List.count, List.countP_filterMap]
  apply List.countP_congr
  intro event _
  rw [← same]
  cases choose event <;> simp

theorem pendingCount_create (now : Int) (created : RegisterPoll → Int)
    (command : RegisterCommand) :
    (create now created).commands.pendingCount command = 0 :=
  rfl

theorem accepted_perm {executor : ModbusExecutor} {now : Int}
    {created : RegisterPoll → Int} {history : List ExecutorEvent}
    (trace : Trace Move (create now created).commands history
      executor.commands) :
    (executor.pendingCommands ++ history.filterMap (·.completedCommand) ++
      history.filterMap (·.displacedCommand)).Perm
        (history.filterMap (·.acceptedCommand)) := by
  apply List.perm_iff_count.mpr
  intro command
  have balanced := trace_balance trace command
  have nothing := pendingCount_create now created command
  have completed (event : ExecutorEvent) :
      event.completedCommand = some command ↔
        event.completes command = true := by
    cases event <;>
      simp [ExecutorEvent.completedCommand, ExecutorEvent.completes, and_comm]
  have displaced (event : ExecutorEvent) :
      event.displacedCommand = some command ↔
        (event == .displaced command) = true := by
    cases event <;> simp [ExecutorEvent.displacedCommand]
  have accepted (event : ExecutorEvent) :
      event.acceptedCommand = some command ↔
        (event == .accepted command) = true := by
    cases event <;> simp [ExecutorEvent.acceptedCommand]
  rw [List.count_append, List.count_append, count_pendingCommands,
    count_filterMap_eq _ completed, count_filterMap_eq _ displaced,
    count_filterMap_eq _ accepted]
  exact balanced.trans (by rw [nothing, Nat.zero_add]; rfl)

/-- What becomes of the commands handed to an executor. -/
structure KeepsCommands (executor : ModbusExecutor)
    (history : List ExecutorEvent) (command : RegisterCommand) : Prop where
  /-- Every accepted occurrence is pending or has been executed to its end. -/
  conserved : history.count (.accepted command) =
    history.countP (·.completes command) + executor.pendingCommands.count command
  /-- A command accepted, or found queued already, stays pending until it
  completes. -/
  kept : ∀ before event after, history = before ++ event :: after →
    event.mentions command →
    command ∈ executor.pendingCommands ∨
      ∃ later ∈ after, later.completes command

/-- No command is lost in a run whose elections each take at most one poll. -/
theorem keepsCommands_of_singleElection {now : Int}
    {created : RegisterPoll → Int} {executor : ModbusExecutor}
    {history : List ExecutorEvent}
    (run : Runs step (fun executor _ call => executor.SingleElection call)
      (create now created) executor history) (command : RegisterCommand) :
    executor.KeepsCommands history command := by
  have notDisplaced : .displaced command ∉ history := by
    induction run with
    | start => simp
    | step _ single stepped induction =>
      intro member
      rcases List.mem_append.mp member with before | now
      · exact induction before
      · exact step_not_displaced single stepped command now
  have nothing := pendingCount_create now created command
  have balanced := trace_balance (run_trace run) command
  constructor
  · rw [List.count_eq_zero.mpr notDisplaced] at balanced
    rw [count_pendingCommands]
    omega
  · intro before event after split mentioned
    obtain ⟨_, _, _, handedOver, rest⟩ :=
      (run_trace run).at_event Move.short split
    have pendingThen := handedOver.pending_of_mentions List.mem_cons_self
      mentioned
    rcases trace_pending pendingThen rest with
      pending | ⟨later, member, completes | displaced⟩
    · rw [← count_pendingCommands] at pending
      exact .inl (List.count_pos_iff.mp pending)
    · exact .inr ⟨later, member, completes⟩
    · rw [split, displaced.symm] at notDisplaced
      simp [member] at notDisplaced

def delayedPoll (slaveId : Int) (delay : Duration) : RegisterPoll :=
  { delayBeforeFirstCommand := 0
    delayBeforeCommand := delay
    maxReadRetryCount := 0
    maxWriteRetryCount := 0
    address := slaveId.toNat
    slaveId
    register := 0
    registerType := .holding
    registerCount := 1
    refresh := 1000000000
    publishMode := .onChange
    commandId := 0 }

def twoSlaves (first second : Duration) : OrderedMap Int (List RegisterPoll) :=
  { entries := [(1, [delayedPoll 1 first]), (2, [delayedPoll 2 second])]
    sorted := by simp }

def answered (value : UInt16) : ExecuteInput :=
  { answer := { fails := false, contents := fun _ => value }
    delayCheck := 0
    readStart := 0
    errorCheck := 0
    errorTime := 0
    finish := 0 }

theorem keepsCommands_twoSlaves : ∃ executor history,
      Runs step (fun executor _ call => executor.SingleElection call)
        (create 0 fun _ => 0) executor history ∧
      .issued (.poll (delayedPoll 1 10000000)) (.ok [7]) 0 ∈ history ∧
      executor.pendingCommands = [.poll (delayedPoll 2 20000000)] ∧
      ∀ command, executor.KeepsCommands history command := by
  have replayed : ∃ last, Runs.replay step
      (fun executor _ call => executor.SingleElection call)
      [.setupInitialPoll (twoSlaves 10000000 20000000) 0,
        .executeNext (answered 7)]
      (create 0 fun _ => 0, []) = some last ∧
      .issued (.poll (delayedPoll 1 10000000)) (.ok [7]) 0 ∈ last.2 ∧
      last.1.pendingCommands = [.poll (delayedPoll 2 20000000)] := by
    refine ⟨_, rfl, ?_⟩
    decide
  obtain ⟨last, replaying, issued, pending⟩ := replayed
  have run := Runs.of_replay .start replaying
  exact ⟨last.1, last.2, run, issued, pending,
    keepsCommands_of_singleElection run⟩

/-- Slave 1 asks for 20 ms, slave 2 for 10 ms: the initial poll takes both
polls out of their queues and keeps the second one only. -/
theorem poll_lost_in_election : ∃ executor history,
      Runs step (fun _ _ _ => True) (create 0 fun _ => 0) executor history ∧
      .accepted (.poll (delayedPoll 1 20000000)) ∈ history ∧
      .poll (delayedPoll 1 20000000) ∉ executor.pendingCommands ∧
      ∀ event ∈ history,
        event.completes (.poll (delayedPoll 1 20000000)) = false := by
  have replayed : ∃ last, Runs.replay step (fun _ _ _ => True)
      [.setupInitialPoll (twoSlaves 20000000 10000000) 0]
      (create 0 fun _ => 0, []) = some last ∧
      .accepted (.poll (delayedPoll 1 20000000)) ∈ last.2 ∧
      .poll (delayedPoll 1 20000000) ∉ last.1.pendingCommands ∧
      ∀ event ∈ last.2,
        event.completes (.poll (delayedPoll 1 20000000)) = false := by
    refine ⟨_, rfl, ?_⟩
    decide
  obtain ⟨last, run, lost⟩ := replayed
  exact ⟨last.1, last.2, Runs.of_replay .start run, lost⟩

end ModbusExecutor

end MqmGateway
