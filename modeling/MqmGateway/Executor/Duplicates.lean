import MqmGateway.Executor.WriteOrder
import MqmGateway.Executor.Steps

/-!
# A poll that is pending twice

`addPollList` of a slave's queue leaves out a poll that stands in that queue.
It looks neither at the waiting slot nor at the queues of other slaves, so a
poll stays unique only if it is not offered again while it is there.
-/

namespace MqmGateway

namespace ModbusRequestsQueues

theorem addPollList_count_of_not_mem {reg : RegisterPoll}
    {pollList : List RegisterPoll} (absent : reg ∉ pollList)
    (queue : ModbusRequestsQueues) :
    (queue.addPollList pollList).1.pollQueue.count reg =
      queue.pollQueue.count reg := by
  induction pollList generalizing queue with
  | nil => rfl
  | cons first pollList induction =>
    obtain ⟨different, later⟩ := not_or.mp (mt List.mem_cons.mpr absent)
    rw [addPollList]
    split
    · exact induction later queue
    · rw [induction later]
      simp [Ne.symm different]

theorem addPollList_count_le {reg : RegisterPoll}
    (pollList : List RegisterPoll) {queue : ModbusRequestsQueues}
    (once : queue.pollQueue.count reg ≤ 1) :
    (queue.addPollList pollList).1.pollQueue.count reg ≤ 1 := by
  induction pollList generalizing queue with
  | nil => exact once
  | cons first pollList induction =>
    rw [addPollList]
    split
    · exact induction once
    · rename_i fresh
      apply induction
      by_cases same : first = reg
      · subst same
        simp [List.count_eq_zero.mpr fresh]
      · simpa [same] using once

end ModbusRequestsQueues

namespace CommandStore

/-- The poll is neither in the waiting slot nor in the queue of a slave other
than the given one. -/
def OnlyIn (store : CommandStore) (slaveId : Int) (reg : RegisterPoll) : Prop :=
  store.waiting ≠ some (.poll reg) ∧
    ∀ entry ∈ store.queues.entries, entry.1 ≠ slaveId →
      reg ∉ entry.2.pollQueue

instance (store : CommandStore) (slaveId : Int) (reg : RegisterPoll) :
    Decidable (store.OnlyIn slaveId reg) :=
  inferInstanceAs (Decidable (_ ∧ _))

theorem OnlyIn.pendingCount {store : CommandStore} {slaveId : Int}
    {reg : RegisterPoll} (only : store.OnlyIn slaveId reg) :
    store.pendingCount (.poll reg) =
      (store.queue slaveId).pollQueue.count reg := by
  obtain ⟨notWaiting, elsewhere⟩ := only
  have moved := store.pendingCount_setQueue slaveId {} (.poll reg)
  have slot : store.waiting.toList.count (.poll reg) = 0 := by
    rw [List.count_eq_zero, Option.mem_toList]
    exact notWaiting
  have queues : (store.queues.set slaveId {}).total
      (ModbusRequestsQueues.occurrences (.poll reg)) = 0 := by
    by_contra some
    obtain ⟨entry, listed, positive⟩ :=
      OrderedMap.total_pos_iff.mp (Nat.pos_of_ne_zero some)
    have queued := List.count_pos_iff.mp positive
    by_cases same : entry.1 = slaveId
    · have stored := OrderedMap.getD_of_mem listed {}
      rw [OrderedMap.getD_set, if_pos same] at stored
      rw [← stored] at queued
      cases queued
    · rcases OrderedMap.mem_entries_set listed with new | old
      · rw [new] at same
        exact same rfl
      · exact elsewhere entry old same queued
  have emptied : (store.setQueue slaveId {}).pendingCount (.poll reg) = 0 := by
    rw [CommandStore.pendingCount]
    exact Nat.add_eq_zero_iff.mpr ⟨slot, queues⟩
  have empty : ({} : ModbusRequestsQueues).occurrences (.poll reg) = 0 := rfl
  rw [emptied, empty, Nat.zero_add, Nat.add_zero] at moved
  exact moved.symm

theorem onlyIn_of_not_pending {store : CommandStore} {reg : RegisterPoll}
    (absent : store.pendingCount (.poll reg) = 0) (slaveId : Int) :
    store.OnlyIn slaveId reg := by
  obtain ⟨slot, queues⟩ := Nat.add_eq_zero_iff.mp absent
  refine ⟨?_, ?_⟩
  · intro waits
    rw [waits] at slot
    simp at slot
  · intro entry listed _ queued
    have positive : 0 < store.queues.total
        (ModbusRequestsQueues.occurrences (.poll reg)) :=
      OrderedMap.total_pos_iff.mpr
        ⟨entry, listed, List.count_pos_iff.mpr queued⟩
    omega

end CommandStore

namespace ModbusExecutor

variable {reg : RegisterPoll} {executor : ModbusExecutor}
  {events : List ExecutorEvent}

/-- Enqueuing adds a poll to the queue of the one slave that is offered it. -/
theorem enqueuePolls_count {entries : List (Int × List RegisterPoll)}
    {slaveId : Int}
    (only : ∀ entry ∈ entries, entry.1 ≠ slaveId → reg ∉ entry.2)
    (executor : ModbusExecutor) :
    (executor.enqueuePolls entries).1.commands.pendingCount (.poll reg) +
        (executor.slaveQueue slaveId).pollQueue.count reg =
      executor.commands.pendingCount (.poll reg) +
        ((executor.enqueuePolls entries).1.slaveQueue
          slaveId).pollQueue.count reg := by
  induction entries generalizing executor with
  | nil => rfl
  | cons entry entries induction =>
    obtain ⟨here, later⟩ := List.forall_mem_cons.mp only
    rw [enqueuePolls]
    generalize grown : (executor.slaveQueue entry.1).addPollList entry.2 =
      added
    have moved := executor.commands.pendingCount_setQueue entry.1 added.1
      (.poll reg)
    have rest := induction later (executor.setSlaveQueue entry.1 added.1)
    rw [slaveQueue_setSlaveQueue] at rest
    dsimp only at rest ⊢
    change (executor.setSlaveQueue entry.1 added.1).commands.pendingCount
      (.poll reg) + (executor.slaveQueue entry.1).pollQueue.count reg =
        executor.commands.pendingCount (.poll reg) +
          added.1.pollQueue.count reg at moved
    by_cases same : slaveId = entry.1
    · rw [if_pos same] at rest
      rw [same] at rest ⊢
      omega
    · rw [if_neg same] at rest
      have unchanged := ModbusRequestsQueues.addPollList_count_of_not_mem
        (here (Ne.symm same)) (executor.slaveQueue entry.1)
      rw [grown] at unchanged
      omega

/-- What an offer of polls must not contain: a poll in the waiting slot, in
the queue of another slave, or under another slave of the same list. -/
def OffersUnqueued (executor : ModbusExecutor) : ExecutorCall → Prop
  | .setupInitialPoll registers _ | .addPollList registers _ =>
    (executor.initialPoll = true → executor.pollDone = true) →
      ∀ entry ∈ registers.entries, ∀ reg ∈ entry.2,
        executor.commands.OnlyIn entry.1 reg ∧
          ∀ other ∈ registers.entries, other.1 ≠ entry.1 → reg ∉ other.2
  | .addReadCommand reg => executor.commands.OnlyIn reg.slaveId reg
  | _ => True

instance (executor : ModbusExecutor) (call : ExecutorCall) :
    Decidable (executor.OffersUnqueued call) := by
  refine call.casesOn ?_ ?_ ?_ ?_ ?_ <;> intros <;> dsimp only [OffersUnqueued] <;>
    infer_instance

/-- Each poll occurs at most once among the pending commands. -/
def PollsOnce (executor : ModbusExecutor) : Prop :=
  ∀ reg, executor.pendingCommands.count (.poll reg) ≤ 1

theorem enqueuePolls_once
    (registers : OrderedMap Int (List RegisterPoll)) {slaveId : Int}
    (only : executor.commands.OnlyIn slaveId reg)
    (once : executor.commands.pendingCount (.poll reg) ≤ 1)
    (elsewhere : ∀ entry ∈ registers.entries, entry.1 ≠ slaveId →
      reg ∉ entry.2) :
    (executor.enqueuePolls registers.entries).1.commands.pendingCount
      (.poll reg) ≤ 1 := by
  have counted := enqueuePolls_count elsewhere executor
  have before := only.pendingCount
  have same : executor.commands.queue slaveId = executor.slaveQueue slaveId :=
    rfl
  rw [same] at before
  rw [before] at once
  have after := ModbusRequestsQueues.addPollList_count_le
    (((registers.entries.find? fun entry => entry.1 = slaveId).map
      Prod.snd).getD []) once
  rw [← enqueuePolls_slaveQueue registers.sorted] at after
  omega

theorem pendingCount_le_of_not_accepted {store next : CommandStore}
    {command : RegisterCommand}
    (trace : Trace Move store events next)
    (rejected : .accepted command ∉ events) :
    next.pendingCount command ≤ store.pendingCount command := by
  have balanced := trace_balance trace command
  rw [List.count_eq_zero.mpr rejected] at balanced
  omega

theorem addPollList_once {next : ModbusExecutor}
    {registers : OrderedMap Int (List RegisterPoll)} {initialPoll : Bool}
    {now : Int}
    (offers : (executor.initialPoll = true → executor.pollDone = true) →
      ∀ entry ∈ registers.entries, reg ∈ entry.2 →
        executor.commands.OnlyIn entry.1 reg ∧
          ∀ other ∈ registers.entries, other.1 ≠ entry.1 → reg ∉ other.2)
    (once : executor.commands.pendingCount (.poll reg) ≤ 1)
    (added : executor.addPollList registers initialPoll now =
      some (next, events)) :
    next.commands.pendingCount (.poll reg) ≤ 1 := by
  by_cases accepted : .accepted (.poll reg) ∈ events
  · rcases addPollList_logs added accepted with
      ⟨entry, listed, offered, member, adds⟩ | ⟨_, displaced⟩
    · have same : offered = reg := by
        simpa [ExecutorEvent.addsPoll, eq_comm] using adds
      subst same
      cases addPollList_added added with
      | ignored _ _ => cases accepted
      | queued accepts _ =>
        obtain ⟨only, elsewhere⟩ := offers accepts entry listed member
        exact enqueuePolls_once registers only once elsewhere
      | @chosen _ slaveId _ _ displaced accepts done found choice =>
        obtain ⟨only, elsewhere⟩ := offers accepts entry listed member
        refine Nat.le_trans (pendingCount_le_of_not_accepted
          (chooseCommand_trace ?_ choice) ?_)
            (enqueuePolls_once registers only once elsewhere)
        · rw [(enqueuePolls_eq _ _).choose_spec]
          exact Option.isNone_iff_eq_none.mp
            (Bool.and_eq_true_iff.mp done).1
        · intro logged
          obtain ⟨_, same⟩ := chooseCommand_logs choice logged
          cases same
    · cases displaced
  · exact Nat.le_trans (pendingCount_le_of_not_accepted (addPollList_trace added)
      accepted) once

theorem addReadCommand_once {added : RegisterPoll}
    (only : executor.commands.OnlyIn added.slaveId added)
    (once : executor.commands.pendingCount (.poll reg) ≤ 1) :
    (executor.addReadCommand added).1.commands.pendingCount (.poll reg) ≤
      1 := by
  by_cases accepted : .accepted (.poll reg) ∈ (executor.addReadCommand added).2
  · have same : added = reg := by
      simpa [ExecutorEvent.addsPoll, eq_comm] using addReadCommand_logs accepted
    subst same
    have queued : (executor.addReadCommand added).1.commands =
        (executor.setSlaveQueue added.slaveId
          ((executor.slaveQueue added.slaveId).addPollList
            [added]).1).commands := by
      rw [addReadCommand]
      split
      · rw [resetCommandsCounter_commands]
        rfl
      · rfl
    rw [queued]
    let single : OrderedMap Int (List RegisterPoll) :=
      { entries := [(added.slaveId, [added])], sorted := by simp }
    exact enqueuePolls_once single only once (by simp [single])
  · exact Nat.le_trans (pendingCount_le_of_not_accepted
      (addReadCommand_trace executor added) accepted) once

theorem step_once {next : ModbusExecutor} {call : ExecutorCall}
    (offers : executor.OffersUnqueued call)
    (once : executor.commands.pendingCount (.poll reg) ≤ 1)
    (stepped : executor.step call = some (next, events)) :
    next.commands.pendingCount (.poll reg) ≤ 1 := by
  cases call with
  | setupInitialPoll registers now | addPollList registers now =>
    refine addPollList_once ?_ once stepped
    intro accepts entry listed member
    exact offers accepts entry listed reg member
  | addReadCommand added =>
    have queued := addReadCommand_once offers once
    rw [Option.some.inj stepped] at queued
    exact queued
  | addWriteCommand cmd endAnswer =>
    refine Nat.le_trans (pendingCount_le_of_not_accepted (step_trace stepped) ?_)
      once
    have logged : [.accepted (.write cmd)] = events :=
      congrArg Prod.snd (Option.some.inj stepped)
    simp [← logged]
  | executeNext input =>
    refine Nat.le_trans (pendingCount_le_of_not_accepted (step_trace stepped) ?_)
      once
    obtain ⟨⟨last, logged, returned⟩, executed, same⟩ :=
      Option.map_eq_some_iff.mp stepped
    cases same
    cases executeNext_executed executed with
    | nothing _ | idle _ _ | waits _ _ _ => simp
    | sends _ _ _ _ _ => simp

/-- While no poll is offered that waits in the slot or in another queue, no
poll is pending twice. -/
theorem pollsOnce_of_offersUnqueued {now : Int}
    {created : RegisterPoll → Int} {executor : ModbusExecutor}
    {history : List ExecutorEvent}
    (run : Runs step (fun executor _ call => executor.OffersUnqueued call)
      (create now created) executor history) : executor.PollsOnce := by
  intro reg
  rw [count_pendingCommands]
  induction run with
  | start => exact Nat.zero_le 1
  | step _ offers stepped induction => exact step_once offers induction stepped

theorem pollsOnce_offered_again : ∃ executor history,
      Runs step (fun executor _ call => executor.OffersUnqueued call)
        (create 0 fun _ => 0) executor history ∧
      (.duplicate (.poll (delayedPoll 2 20000000)) ∈ history ∧
        executor.waitingCommand = some (.poll (delayedPoll 1 10000000))) ∧
      executor.PollsOnce := by
  obtain ⟨executor, history, run, reached⟩ := Runs.exists_of_replay
    [.addPollList (twoSlaves 10000000 20000000) 0,
      .addReadCommand (delayedPoll 2 20000000)]
    (fun executor history =>
      .duplicate (.poll (delayedPoll 2 20000000)) ∈ history ∧
        executor.waitingCommand = some (.poll (delayedPoll 1 10000000)))
    (show (Runs.replay step
      (fun executor _ call => executor.OffersUnqueued call) _
        (create 0 fun _ => 0, [])).any _ = true by decide +kernel)
  exact ⟨executor, history, run, reached, pollsOnce_of_offersUnqueued run⟩

/-- A poll that waits for its silence is scheduled again: it stands in the
slot and in the queue of its slave. -/
theorem waiting_poll_queued_again : ∃ executor history,
      Runs step (fun _ _ _ => True) (create 0 fun _ => 0) executor history ∧
      executor.pendingCommands =
        [.poll (delayedPoll 1 10000000), .poll (delayedPoll 1 10000000),
          .poll (delayedPoll 2 20000000)] :=
  Runs.exists_of_replay
    [.addPollList (twoSlaves 10000000 20000000) 0,
      .addPollList (twoSlaves 10000000 20000000) 0]
    (fun executor _ => executor.pendingCommands =
      [.poll (delayedPoll 1 10000000), .poll (delayedPoll 1 10000000),
        .poll (delayedPoll 2 20000000)])
    (show (Runs.replay step (fun _ _ _ => True) _
      (create 0 fun _ => 0, [])).any _ = true by decide +kernel)

end ModbusExecutor

end MqmGateway
