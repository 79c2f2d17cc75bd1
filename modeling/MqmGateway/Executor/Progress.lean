import MqmGateway.Executor.Steps

/-!
# Progress of the executor

`executeNext` looks for work from the current queue on.  While some queue is
current, or all queues are empty, the search finds every command there is.
-/

namespace MqmGateway

namespace ModbusExecutor

variable {current : Int} {rest : List (Int × ModbusRequestsQueues)}
  {first : Int × ModbusRequestsQueues}
  {queues : OrderedMap Int ModbusRequestsQueues}

theorem searchQueue_skip {nextQueue : List (Int × ModbusRequestsQueues)}
    (entries : List (Int × ModbusRequestsQueues))
    (empty : ∀ entry ∈ nextQueue, entry.2.empty = true)
    (others : ∀ entry ∈ nextQueue, entry.1 ≠ current)
    (rest : List (Int × ModbusRequestsQueues)) (fuel : Nat) :
    searchQueue current entries (nextQueue.length + fuel) (nextQueue ++ rest) =
      searchQueue current entries fuel rest := by
  induction nextQueue with
  | nil => simp
  | cons entry nextQueue induction =>
    obtain ⟨here, later⟩ := List.forall_mem_cons.mp empty
    obtain ⟨other, otherLater⟩ := List.forall_mem_cons.mp others
    have rounds : (entry :: nextQueue).length + fuel =
        nextQueue.length + fuel + 1 := by
      rw [List.length_cons]
      omega
    rw [rounds, searchQueue]
    simp [here, other]
    exact induction later otherLater

variable {entries : List (Int × ModbusRequestsQueues)}
  {entry : Int × ModbusRequestsQueues} {fuel : Nat}

theorem searchQueue_here (busy : entry.2.empty = false) (fuel : Nat) :
    searchQueue current entries (fuel + 1) (entry :: rest) = some entry.1 := by
  rw [searchQueue]
  by_cases same : entry.1 = current <;> simp [same, busy]

theorem searchQueue_wrap (fuel : Nat) :
    searchQueue current (first :: rest) (fuel + 1) [] = if first.2.empty then
        searchQueue current (first :: rest) fuel rest
      else
        some first.1 := by
  rw [searchQueue]
  cases busy : first.2.empty <;> simp [busy]

theorem exists_first_busy (busy : ∃ entry ∈ entries, entry.2.empty = false) :
    ∃ before entry after, entries = before ++ entry :: after ∧
      entry.2.empty = false ∧ ∀ idle ∈ before, idle.2.empty = true := by
  induction entries with
  | nil =>
    obtain ⟨entry, member, _⟩ := busy
    cases member
  | cons head entries induction =>
    cases here : head.2.empty with
    | false => exact ⟨[], head, entries, rfl, here, by simp⟩
    | true =>
      obtain ⟨entry, member, busyEntry⟩ := busy
      rcases List.mem_cons.mp member with first | later
      · rw [first, here] at busyEntry
        cases busyEntry
      · obtain ⟨before, found, after, split, busyFound, idle⟩ :=
          induction ⟨entry, later, busyEntry⟩
        refine ⟨head :: before, found, after, by rw [split]; rfl,
          busyFound, ?_⟩
        exact List.forall_mem_cons.mpr ⟨here, idle⟩

theorem after_ne (queues : OrderedMap Int ModbusRequestsQueues)
    (current : Int) : ∀ entry ∈ queues.after current, entry.1 ≠ current := by
  intro entry member
  have greater := (List.mem_filter.mp member).2
  simp only [decide_eq_true_eq] at greater
  omega

theorem searchQueue_to_end
    (idle : ∀ entry ∈ queues.after current, entry.2.empty = true)
    (fuel : Nat) :
    searchQueue current queues.entries ((queues.after current).length + fuel)
        (queues.after current) =
      searchQueue current queues.entries fuel [] := by
  have passing := searchQueue_skip queues.entries idle
    (after_ne queues current) [] fuel
  rwa [List.append_nil] at passing

theorem searchQueue_wraps
    (idle : ∀ entry ∈ queues.after current, entry.2.empty = true) :
    ∃ fuel, queues.entries.length < fuel ∧
      searchQueue current queues.entries (2 * queues.entries.length + 2)
          (queues.after current) =
        searchQueue current queues.entries (fuel + 1) [] := by
  have shorter : (queues.after current).length ≤ queues.entries.length :=
    List.length_filter_le _ _
  have rounds : 2 * queues.entries.length + 2 =
      (queues.after current).length +
        (2 * queues.entries.length + 1 - (queues.after current).length +
          1) := by
    omega
  refine ⟨2 * queues.entries.length + 1 - (queues.after current).length,
    by omega, ?_⟩
  rw [rounds, searchQueue_to_end idle]

theorem searchQueue_from_start
    {before after : List (Int × ModbusRequestsQueues)}
    (idle : ∀ passed ∈ before, passed.2.empty = true)
    (others : ∀ passed ∈ before, passed.1 ≠ current)
    (busy : entry.2.empty = false)
    (enough : before.length < fuel) :
    searchQueue current (before ++ entry :: after) (fuel + 1) [] =
      some entry.1 := by
  cases before with
  | nil =>
    rw [List.nil_append, searchQueue_wrap, if_neg (by simp [busy])]
  | cons first before =>
    obtain ⟨firstIdle, laterIdle⟩ := List.forall_mem_cons.mp idle
    obtain ⟨_, laterOthers⟩ := List.forall_mem_cons.mp others
    rw [List.cons_append, searchQueue_wrap, if_pos firstIdle]
    rw [List.length_cons] at enough
    have remaining : fuel = before.length +
        (fuel - before.length - 1 + 1) := by
      omega
    rw [remaining, searchQueue_skip _ laterIdle laterOthers]
    exact searchQueue_here busy _

/-- The search ends at a busy queue whenever there is one, and comes back to
the current one only if no other is busy. -/
theorem searchQueue_finds
    (current : Int) (busy : ∃ entry ∈ queues.entries, entry.2.empty = false) :
    ∃ entry ∈ queues.entries, entry.2.empty = false ∧
      searchQueue current queues.entries (2 * queues.entries.length + 2)
        (queues.after current) = some entry.1 ∧
      (entry.1 = current → ∀ other ∈ queues.entries,
        other.2.empty = false → other.1 = current) := by
  have shorter : (queues.after current).length ≤ queues.entries.length :=
    List.length_filter_le _ _
  have above := after_ne queues current
  by_cases ahead : ∃ entry ∈ queues.after current, entry.2.empty = false
  · obtain ⟨before, entry, after, split, busyEntry, idle⟩ :=
      exists_first_busy ahead
    rw [split] at above shorter
    have member : entry ∈ queues.after current := by
      rw [split]
      simp
    refine ⟨entry, (List.mem_filter.mp member).1, busyEntry, ?_,
      fun same => (above entry (by simp) same).elim⟩
    rw [List.length_append, List.length_cons] at shorter
    have rounds : 2 * queues.entries.length + 2 = before.length +
        (2 * queues.entries.length + 1 - before.length + 1) := by
      omega
    rw [split, rounds, searchQueue_skip _ idle
      (fun other listed => above other (List.mem_append_left _ listed))]
    exact searchQueue_here busyEntry _
  · have idleAhead : ∀ entry ∈ queues.after current, entry.2.empty = true := by
      intro entry member
      by_contra busyEntry
      exact ahead ⟨entry, member, by simpa using busyEntry⟩
    obtain ⟨before, entry, after, split, busyEntry, idle⟩ :=
      exists_first_busy busy
    have sorted := queues.sorted
    rw [split] at sorted
    have others : ∀ passed ∈ before, passed.1 ≠ current := by
      intro passed member same
      apply ahead
      refine ⟨entry, List.mem_filter.mpr ⟨by rw [split]; simp, ?_⟩, busyEntry⟩
      have below := (List.pairwise_append.mp sorted).2.2 passed member entry
        List.mem_cons_self
      simpa [same] using below
    have alone : entry.1 = current → ∀ other ∈ queues.entries,
        other.2.empty = false → other.1 = current := by
      intro same other listed busyOther
      rw [split] at listed
      rcases List.mem_append.mp listed with passed | later
      · rw [idle other passed] at busyOther
        cases busyOther
      · rcases List.mem_cons.mp later with here | behind
        · rw [here, same]
        · have below := (List.pairwise_cons.mp
            (List.pairwise_append.mp sorted).2.1).1 other behind
          rw [same] at below
          refine (ahead ⟨other, List.mem_filter.mpr ⟨?_, ?_⟩, busyOther⟩).elim
          · rw [split]
            exact List.mem_append_right _ later
          · simpa using below
    refine ⟨entry, by rw [split]; simp, busyEntry, ?_, alone⟩
    obtain ⟨fuel, enough, wraps⟩ := searchQueue_wraps idleAhead
    rw [wraps, split]
    rw [split, List.length_append] at enough
    exact searchQueue_from_start idle others busyEntry (by omega)

theorem searchQueue_endless (firstIdle : first.2.empty = true)
    (idle : ∀ entry ∈ rest, entry.2.empty = true)
    (others : ∀ entry ∈ rest, entry.1 ≠ current) (fuel : Nat) :
    ∀ nextQueue : List (Int × ModbusRequestsQueues), nextQueue ⊆ rest →
      searchQueue current (first :: rest) fuel nextQueue = none := by
  induction fuel with
  | zero =>
    intro nextQueue _
    rfl
  | succ fuel induction =>
    intro nextQueue within
    cases nextQueue with
    | nil =>
      rw [searchQueue_wrap, if_pos firstIdle]
      exact induction rest (List.Subset.refl rest)
    | cons entry nextQueue =>
      obtain ⟨here, later⟩ := List.cons_subset.mp within
      rw [searchQueue]
      simp [others entry here, idle entry here]
      exact induction nextQueue later

/-- Over idle queues the search comes back to the current one unless that is
the first of the map. -/
theorem searchQueue_returns (split : queues.entries = first :: rest)
    (idle : ∀ entry ∈ queues.entries, entry.2.empty = true)
    (later : current ∈ rest.map Prod.fst) :
    searchQueue current queues.entries (2 * queues.entries.length + 2)
      (queues.after current) = some current := by
  obtain ⟨left, enough, wraps⟩ := searchQueue_wraps
    (fun entry (member : entry ∈ queues.after current) =>
      idle entry (List.mem_filter.mp member).1)
  have sorted := queues.sorted
  rw [wraps, split]
  rw [split] at idle sorted enough
  obtain ⟨firstIdle, restIdle⟩ := List.forall_mem_cons.mp idle
  obtain ⟨_, restSorted⟩ := List.pairwise_cons.mp sorted
  obtain ⟨entry, member, same⟩ := List.mem_map.mp later
  obtain ⟨before, after, restSplit⟩ := List.append_of_mem member
  rw [restSplit] at restIdle restSorted
  rw [restSplit, List.length_cons, List.length_append,
    List.length_cons] at enough
  have others : ∀ passed ∈ before, passed.1 ≠ current := by
    intro passed listed
    rw [← same]
    exact ((List.pairwise_append.mp restSorted).2.2 passed listed entry
      List.mem_cons_self).ne
  have remaining : left = before.length +
      (left - before.length - 1 + 1) := by
    omega
  rw [searchQueue_wrap, if_pos firstIdle, restSplit, remaining,
    searchQueue_skip _
      (fun passed listed =>
        restIdle passed (List.mem_append_left _ listed)) others,
    searchQueue]
  simp [same]

theorem searchQueue_first_endless (split : queues.entries = first :: rest)
    (idle : ∀ entry ∈ queues.entries, entry.2.empty = true) (fuel : Nat) :
    searchQueue first.1 queues.entries fuel (queues.after first.1) = none := by
  have sorted := queues.sorted
  have ahead := after_ne queues first.1
  rw [OrderedMap.after] at ahead ⊢
  rw [split] at idle sorted ahead ⊢
  obtain ⟨firstIdle, restIdle⟩ := List.forall_mem_cons.mp idle
  apply searchQueue_endless firstIdle restIdle
  · intro entry member
    exact ((List.pairwise_cons.mp sorted).1 entry member).ne'
  · intro entry member
    rcases List.mem_cons.mp (List.mem_of_mem_filter member) with
      same | inRest
    · exact (ahead entry member (by rw [same])).elim
    · exact inRest

theorem searchQueue_rounds (known : current ∈ queues.keys)
    (ends : searchQueue current queues.entries fuel (queues.after current) ≠
      none) :
    searchQueue current queues.entries (2 * queues.entries.length + 2)
      (queues.after current) ≠ none := by
  by_cases busy : ∃ entry ∈ queues.entries, entry.2.empty = false
  · obtain ⟨entry, _, _, found, _⟩ := searchQueue_finds current busy
    rw [found]
    simp
  · have idle : ∀ entry ∈ queues.entries, entry.2.empty = true := by
      intro entry member
      by_contra busyEntry
      exact busy ⟨entry, member, by simpa using busyEntry⟩
    cases split : queues.entries with
    | nil =>
      rw [OrderedMap.keys, split] at known
      cases known
    | cons first rest =>
      rw [OrderedMap.keys, split] at known
      rcases List.mem_cons.mp known with rfl | later
      · exact (ends (searchQueue_first_endless split idle fuel)).elim
      · rw [← split, searchQueue_returns split idle later]
        simp

/-- Where the iterator to the current queue may stand: at a queue, or at the
end while all queues are empty. -/
def Anchored (executor : ModbusExecutor) : Prop :=
  match executor.currentSlaveQueue with
  | some slaveId => slaveId ∈ executor.slaveQueues.keys
  | none => ∀ entry ∈ executor.slaveQueues.entries, entry.2.empty = true

/-- The calls that keep the iterator anchored and can be executed without an
exception.  A write of a writable type may take the fast path past an empty
slot to a slave without a queue only while nothing is queued, and polls may be
added behind such a write only once it is done. -/
def SafeCall (executor : ModbusExecutor) : ExecutorCall → Prop
  | .setupInitialPoll registers _ | .addPollList registers _ =>
    executor.currentSlaveQueue = none → executor.allDone = false →
      firstAdded registers = none
  | .addWriteCommand cmd _ =>
    cmd.registerType.writable = true ∧
      (executor.writeCommandsQueued = 0 → executor.waitingCommand = none →
        cmd.slaveId ∉ executor.slaveQueues.keys →
        ∀ entry ∈ executor.slaveQueues.entries, entry.2.empty = true)
  | _ => True

instance (executor : ModbusExecutor) (call : ExecutorCall) :
    Decidable (executor.SafeCall call) := by
  refine call.casesOn ?_ ?_ ?_ ?_ ?_ <;> intros <;> dsimp only [SafeCall] <;>
    infer_instance

variable {executor next : ModbusExecutor} {slaveId : Int}
  {events : List ExecutorEvent}

theorem anchored_of_current
    (current : executor.currentSlaveQueue = some slaveId)
    (known : slaveId ∈ executor.slaveQueues.keys) : executor.Anchored := by
  rw [Anchored, current]
  exact known

theorem anchored_resetCommandsCounter
    {endAnswer : Bool} (anchored : executor.Anchored) :
    (executor.resetCommandsCounter endAnswer).Anchored := by
  obtain ⟨left, same⟩ := executor.resetCommandsCounter_eq endAnswer
  rw [same]
  exact anchored

variable {queue : ModbusRequestsQueues} {now : Int}
  {entries : List (Int × List RegisterPoll)}
  {registers : OrderedMap Int (List RegisterPoll)}

theorem mem_keys_setSlaveQueue {other : Int} :
    other ∈ (executor.setSlaveQueue slaveId queue).slaveQueues.keys ↔
      other = slaveId ∨ other ∈ executor.slaveQueues.keys :=
  OrderedMap.mem_keys_set

theorem setSlaveQueue_anchored (anchored : executor.Anchored)
    (placed : executor.currentSlaveQueue ≠ none) :
    (executor.setSlaveQueue slaveId queue).Anchored := by
  rw [Anchored] at anchored ⊢
  split at anchored
  · rename_i current here
    have same : (executor.setSlaveQueue slaveId queue).currentSlaveQueue =
        some current := here
    rw [same]
    exact mem_keys_setSlaveQueue.mpr (.inr anchored)
  · rename_i atEnd
    exact (placed atEnd).elim

theorem popCurrent_anchored
    (popped : executor.popCurrent slaveId = some next) : next.Anchored := by
  obtain ⟨⟨command, queue⟩, _, stored⟩ := Option.map_eq_some_iff.mp popped
  cases stored
  apply anchored_of_current rfl
  exact mem_keys_setSlaveQueue.mpr (.inl rfl)

theorem elect_anchored {period : Duration} {slaves : List Int}
    {currentDiff : Duration}
    (started : ∃ current, executor.currentSlaveQueue = some current ∧
      current ∈ executor.slaveQueues.keys)
    (electing : elect period slaves currentDiff executor =
      some (next, events)) : next.Anchored := by
  induction slaves generalizing currentDiff executor next events with
  | nil =>
    cases electing
    obtain ⟨current, here, known⟩ := started
    exact anchored_of_current here known
  | cons slaveId slaves induction =>
    rw [elect] at electing
    dsimp only at electing
    split at electing
    · split at electing
      · split at electing
        · cases electing
        · split at electing
          · cases electing
            apply anchored_of_current rfl
            exact mem_keys_setSlaveQueue.mpr (.inl rfl)
          · obtain ⟨⟨last, later⟩, rest, combined⟩ :=
              Option.map_eq_some_iff.mp electing
            cases combined
            apply induction _ rest
            exact ⟨slaveId, rfl, mem_keys_setSlaveQueue.mpr (.inl rfl)⟩
      · apply induction _ electing
        obtain ⟨current, here, known⟩ := started
        exact ⟨current, here, mem_keys_setSlaveQueue.mpr (.inr known)⟩
    · exact induction started electing

theorem chooseCommand_anchored {firstAdded : Int}
    (known : firstAdded ∈ executor.slaveQueues.keys)
    (chosen : executor.chooseCommand firstAdded now = some (next, events)) :
    next.Anchored := by
  rw [chooseCommand] at chosen
  split at chosen
  · cases chosen
  · rename_i elected displaced election
    obtain ⟨left, reset⟩ := resetCommandsCounter_eq
      { executor with currentSlaveQueue := some firstAdded } false
    rw [reset] at election
    have anchored : elected.Anchored := by
      apply elect_anchored _ election
      exact ⟨firstAdded, rfl, known⟩
    split at chosen
    · obtain ⟨popped, popping, combined⟩ := Option.map_eq_some_iff.mp chosen
      cases combined
      exact popCurrent_anchored popping
    · cases chosen
      exact anchored

theorem enqueuePolls_idle (nothing : ∀ entry ∈ entries, entry.2 = [])
    (idle : ∀ entry ∈ executor.slaveQueues.entries, entry.2.empty = true) :
    ∀ entry ∈ (executor.enqueuePolls entries).1.slaveQueues.entries,
      entry.2.empty = true := by
  induction entries generalizing executor with
  | nil => exact idle
  | cons entry entries induction =>
    obtain ⟨here, later⟩ := List.forall_mem_cons.mp nothing
    apply induction later
    intro stored member
    rcases OrderedMap.mem_entries_set member with new | old
    · rw [new, here]
      change (executor.slaveQueue entry.1).empty = true
      by_cases known : entry.1 ∈ executor.slaveQueues.keys
      · exact idle _ (OrderedMap.mem_of_mem_keys {} known)
      · rw [slaveQueue, OrderedMap.getD_of_not_mem_keys {} known]
        rfl
    · exact idle stored old

theorem enqueuePolls_anchored (anchored : executor.Anchored)
    (nothing : executor.currentSlaveQueue = none →
      ∀ entry ∈ entries, entry.2 = []) :
    (executor.enqueuePolls entries).1.Anchored := by
  obtain ⟨slaveQueues, enqueued⟩ := executor.enqueuePolls_eq entries
  have sameCurrent : (executor.enqueuePolls entries).1.currentSlaveQueue =
      executor.currentSlaveQueue := by
    rw [enqueued]
  rw [Anchored] at anchored ⊢
  rw [sameCurrent]
  split at anchored
  · exact mem_keys_enqueuePolls executor (.inl anchored)
  · rename_i atEnd
    exact enqueuePolls_idle (nothing atEnd) anchored

theorem firstAdded_eq_none (none : firstAdded registers = none) :
    ∀ entry ∈ registers.entries, entry.2 = [] := by
  intro entry member
  have search := List.find?_eq_none.mp (Option.map_eq_none_iff.mp none)
  simpa using search entry member

theorem addPollList_anchored {initialPoll : Bool} (anchored : executor.Anchored)
    (safe : executor.currentSlaveQueue = none → executor.allDone = false →
      firstAdded registers = none)
    (added : executor.addPollList registers initialPoll now =
      some (next, events)) : next.Anchored := by
  have started (initialPoll : Bool) :
      { executor with initialPoll }.Anchored := anchored
  cases addPollList_added added with
  | ignored _ _ => exact anchored
  | @queued initialPoll _ rests =>
    refine enqueuePolls_anchored (started initialPoll) ?_
    intro atEnd
    apply firstAdded_eq_none
    cases done : executor.allDone with
    | true => exact rests done
    | false => exact safe atEnd done
  | chosen _ _ found choice =>
    refine chooseCommand_anchored ?_ choice
    apply mem_keys_enqueuePolls
    obtain ⟨entry, search, same⟩ := Option.map_eq_some_iff.mp found
    exact .inr (List.mem_map.mpr
      ⟨entry, List.mem_of_find?_eq_some search, same⟩)

theorem addReadCommand_anchored
    (anchored : executor.Anchored) (command : RegisterPoll) :
    (executor.addReadCommand command).1.Anchored := by
  rw [addReadCommand]
  split
  · apply anchored_resetCommandsCounter
    apply anchored_of_current rfl
    exact mem_keys_setSlaveQueue.mpr (.inl rfl)
  · rename_i placed
    exact setSlaveQueue_anchored anchored placed

theorem addWriteCommand_anchored
    (anchored : executor.Anchored) {command : RegisterWrite}
    (safe : executor.writeCommandsQueued = 0 → executor.waitingCommand = none →
      command.slaveId ∉ executor.slaveQueues.keys →
      ∀ entry ∈ executor.slaveQueues.entries, entry.2.empty = true)
    (endAnswer : Bool) :
    (executor.addWriteCommand command endAnswer).1.Anchored := by
  have counted {added : ModbusExecutor} (anchored : added.Anchored) :
      { added with
        writeCommandsQueued := added.writeCommandsQueued + 1 }.Anchored :=
    anchored
  rw [addWriteCommand]
  apply counted
  split
  · rename_i noneQueued
    apply anchored_resetCommandsCounter
    cases waiting : executor.waitingCommand with
    | none =>
      by_cases known : command.slaveId ∈ executor.slaveQueues.keys
      · have found : executor.findSlaveQueue command.slaveId =
            some command.slaveId := if_pos known
        exact anchored_of_current found known
      · have atEnd : executor.findSlaveQueue command.slaveId = none :=
          if_neg known
        rw [Anchored]
        dsimp only
        rw [atEnd]
        exact safe noneQueued waiting known
    | some preempted =>
      have known : command.slaveId ∈ (executor.setSlaveQueue command.slaveId
          ((executor.slaveQueue command.slaveId).readdCommand
            preempted)).slaveQueues.keys :=
        mem_keys_setSlaveQueue.mpr (.inl rfl)
      have found : (executor.setSlaveQueue command.slaveId
          ((executor.slaveQueue command.slaveId).readdCommand
            preempted)).findSlaveQueue command.slaveId =
          some command.slaveId := if_pos known
      exact anchored_of_current found known
  · dsimp only
    split
    · apply anchored_resetCommandsCounter
      apply anchored_of_current rfl
      exact mem_keys_setSlaveQueue.mpr (.inl rfl)
    · rename_i placed
      exact setSlaveQueue_anchored anchored placed

theorem sendCommand_queues {command : RegisterCommand}
    (waiting : executor.waitingCommand = some command)
    (input : ExecuteInput) :
    (executor.sendCommand command input).1.slaveQueues = executor.slaveQueues ∧
      (executor.sendCommand command input).1.currentSlaveQueue =
        executor.currentSlaveQueue := by
  obtain ⟨_, _, _, _, started⟩ := executor.startCommand_eq command
  have queues := (sendCommand_sending waiting input).queues
  rw [started] at queues
  exact queues

theorem anchored_congr (queues : next.slaveQueues = executor.slaveQueues)
    (current : next.currentSlaveQueue = executor.currentSlaveQueue)
    (anchored : executor.Anchored) : next.Anchored := by
  rw [Anchored, queues, current]
  exact anchored

theorem takeNext_anchored {ready : ModbusExecutor}
    (anchored : executor.Anchored)
    (taken : executor.takeNext = some (.proceed ready)) : ready.Anchored := by
  rw [takeNext] at taken
  split at taken
  · split at taken
    · split at taken
      · cases taken
      · split at taken
        · obtain ⟨popped, popping, same⟩ := Option.map_eq_some_iff.mp taken
          cases same
          exact anchored_resetCommandsCounter (popCurrent_anchored popping)
        · cases taken
    · obtain ⟨popped, popping, same⟩ := Option.map_eq_some_iff.mp taken
      cases same
      exact popCurrent_anchored popping
  · cases taken
    exact anchored

theorem finishInitialPoll_anchored
    (anchored : executor.Anchored) : executor.finishInitialPoll.Anchored := by
  rw [finishInitialPoll]
  split
  · exact anchored
  · exact anchored

theorem executeNext_anchored {input : ExecuteInput}
    {returned : Except ModbusException Duration}
    (anchored : executor.Anchored)
    (executed : executor.executeNext input = some (next, events, returned)) :
    next.Anchored := by
  rw [executeNext] at executed
  split at executed
  · cases executed
  · cases executed
    exact anchored
  · rename_i ready taken
    have taking := takeNext_anchored anchored taken
    split at executed
    · cases executed
      exact finishInitialPoll_anchored taking
    · rename_i command waiting
      dsimp only at executed
      split at executed
      · cases executed
        exact taking
      · obtain ⟨queues, current⟩ := sendCommand_queues waiting input
        split at executed
        · rename_i sent same
          cases executed
          rw [same] at queues current
          exact anchored_congr queues current taking
        · rename_i sent same
          cases executed
          rw [same] at queues current
          apply finishInitialPoll_anchored
          exact anchored_congr queues current taking

theorem step_anchored {call : ExecutorCall} (anchored : executor.Anchored)
    (safe : executor.SafeCall call)
    (stepped : executor.step call = some (next, events)) : next.Anchored := by
  cases call with
  | setupInitialPoll registers now =>
    exact addPollList_anchored anchored safe stepped
  | addPollList registers now =>
    exact addPollList_anchored anchored safe stepped
  | addReadCommand command =>
    have added := addReadCommand_anchored anchored command
    rw [Option.some.inj stepped] at added
    exact added
  | addWriteCommand command endAnswer =>
    have added := addWriteCommand_anchored anchored safe.2 endAnswer
    rw [Option.some.inj stepped] at added
    exact added
  | executeNext input =>
    obtain ⟨⟨last, logged, returned⟩, executed, same⟩ :=
      Option.map_eq_some_iff.mp stepped
    cases same
    exact executeNext_anchored anchored executed

theorem popCurrent_isSome (executor : ModbusExecutor)
    (busy : (executor.slaveQueue slaveId).empty = false) :
    ∃ next command, executor.popCurrent slaveId = some next ∧
      next.waitingCommand = some command := by
  obtain ⟨⟨command, rest⟩, popped⟩ :=
    ModbusRequestsQueues.popNext_isSome busy
  rw [popCurrent, popped]
  exact ⟨_, command, rfl, rfl⟩

/-- With work to do, an anchored executor has a command to go on with. -/
theorem takeNext_ready
    (anchored : executor.Anchored) (busy : executor.allDone = false) :
    ∃ ready command, executor.takeNext = some (.proceed ready) ∧
      ready.waitingCommand = some command := by
  rw [takeNext]
  split
  · rename_i current idle here
    rw [allDone, idle] at busy
    have someBusy : ∃ entry ∈ executor.slaveQueues.entries,
        entry.2.empty = false := by
      simpa using busy
    split
    · obtain ⟨entry, listed, entryBusy, found, _⟩ :=
        searchQueue_finds current someBusy
      have queued : executor.slaveQueue entry.1 = entry.2 :=
        OrderedMap.getD_of_mem listed {}
      have goesOn : current ≠ entry.1 ∨
          (!(executor.slaveQueue current).empty) = true := by
        by_cases same : current = entry.1
        · rw [same, queued, entryBusy]
          exact .inr rfl
        · exact .inl same
      obtain ⟨next, command, popped, waiting⟩ :=
        executor.popCurrent_isSome (queued ▸ entryBusy)
      rw [searchRounds, found]
      dsimp only
      rw [if_pos goesOn, popped]
      obtain ⟨left, reset⟩ := next.resetCommandsCounter_eq false
      refine ⟨next.resetCommandsCounter false, command, rfl, ?_⟩
      rw [reset]
      exact waiting
    · rename_i stays
      have currentBusy : (executor.slaveQueue current).empty = false := by
        simpa using (not_or.mp stays).2
      obtain ⟨next, command, popped, waiting⟩ :=
        executor.popCurrent_isSome currentBusy
      rw [popped]
      exact ⟨next, command, rfl, waiting⟩
  · rename_i notSearching
    cases waiting : executor.waitingCommand with
    | some command => exact ⟨executor, command, rfl, waiting⟩
    | none =>
      cases current : executor.currentSlaveQueue with
      | some slaveId => exact (notSearching slaveId waiting current).elim
      | none =>
        rw [Anchored, current] at anchored
        rw [allDone, waiting] at busy
        have someBusy : ∃ entry ∈ executor.slaveQueues.entries,
            entry.2.empty = false := by
          simpa using busy
        obtain ⟨entry, listed, entryBusy⟩ := someBusy
        rw [anchored entry listed] at entryBusy
        cases entryBusy

end ModbusExecutor

def ExecutorEvent.isCall : ExecutorEvent → Bool
  | .issued _ _ _ => true
  | _ => false

namespace ModbusExecutor

/-- What `executeNext` promises: it returns a positive delay, makes no modbus
call and has a command waiting, or makes one call and returns zero. -/
def MakesProgress (executor : ModbusExecutor) (input : ExecuteInput) : Prop :=
  ∃ next events returned,
    executor.executeNext input = some (next, events, returned) ∧
      ((∃ delay, 0 < delay ∧ returned = .ok delay ∧
          events.countP (·.isCall) = 0 ∧ next.waitingCommand ≠ none) ∨
        (returned = .ok 0 ∧ events.countP (·.isCall) = 1))

theorem makesProgress_of_anchored {executor : ModbusExecutor}
    (anchored : executor.Anchored) (busy : executor.allDone = false)
    (writable : ∀ cmd, 0 < executor.commands.pendingCount (.write cmd) →
      cmd.registerType.writable = true) (input : ExecuteInput) :
    executor.MakesProgress input := by
  obtain ⟨ready, command, taken, waiting⟩ := takeNext_ready anchored busy
  rw [MakesProgress, executeNext, taken]
  dsimp only
  rw [waiting]
  dsimp only
  split
  · rename_i waits
    exact ⟨ready, [], .ok (ready.delayLeft command input.delayCheck), rfl,
      .inl ⟨_, waits, rfl, rfl, by simp [waiting]⟩⟩
  · have sendable : command.sendable = true := by
      cases command with
      | poll reg => rfl
      | write cmd => exact writable cmd (pendingCount_of_takeNext taken waiting)
    have returns := (sendCommand_sending waiting input).returns sendable
    obtain ⟨retriesLeft, messages, logged⟩ :=
      ready.sendCommand_events command input
    have oneCall : (ready.sendCommand command input).2.2.countP
        (·.isCall) = 1 := by
      rw [logged]
      simp [ExecutorEvent.isCall, List.countP_eq_zero]
    split
    · rename_i sent same
      rw [same] at returns
      exact (returns rfl).elim
    · rename_i sent same
      rw [same] at oneCall
      exact ⟨_, _, _, rfl, .inr ⟨rfl, oneCall⟩⟩

/-- In every run of safe calls, an executor with work to do makes progress. -/
theorem makesProgress_of_safeCalls {now : Int} {created : RegisterPoll → Int}
    {executor : ModbusExecutor} {history : List ExecutorEvent}
    (run : Runs step (fun executor _ call => executor.SafeCall call)
      (create now created) executor history)
    (busy : executor.allDone = false) (input : ExecuteInput) :
    executor.MakesProgress input := by
  have anchored : executor.Anchored := by
    clear busy
    induction run with
    | start =>
      intro entry member
      cases member
    | step _ safe stepped induction => exact step_anchored induction safe stepped
  have typed : ∀ cmd, .accepted (.write cmd) ∈ history →
      cmd.registerType.writable = true := by
    clear busy anchored
    induction run with
    | start =>
      intro cmd member
      cases member
    | step _ safe stepped induction =>
      intro cmd member
      rcases List.mem_append.mp member with before | now
      · exact induction cmd before
      · obtain ⟨endAnswer, rfl⟩ := step_accepts_write stepped now
        exact safe.1
  apply makesProgress_of_anchored anchored busy
  intro cmd pending
  apply typed
  have balanced := trace_balance (run_trace run) (.write cmd)
  have nothing := pendingCount_create now created (.write cmd)
  apply List.count_pos_iff.mp
  omega

def twoPolls : OrderedMap Int (List RegisterPoll) :=
  { entries := [(1, [delayedPoll 1 0, { delayedPoll 1 0 with address := 2 }])]
    sorted := by simp }

def writeToNewSlave : RegisterWrite :=
  { delayBeforeFirstCommand := 0
    delayBeforeCommand := 0
    maxReadRetryCount := 0
    maxWriteRetryCount := 0
    address := 3
    slaveId := 2
    register := 0
    registerType := .holding
    values := [1]
    writeMode := .auto
    commandId := 0
    returnMessage := none }

theorem makesProgress_twoPolls : ∃ executor history,
      Runs step (fun executor _ call => executor.SafeCall call)
        (create 0 fun _ => 0) executor history ∧
      executor.allDone = false ∧ executor.MakesProgress (answered 0) := by
  have replayed : ∃ last, Runs.replay step
      (fun executor _ call => executor.SafeCall call)
      [.addWriteCommand writeToNewSlave true, .executeNext (answered 0),
        .addPollList twoPolls 0, .executeNext (answered 0)]
      (create 0 fun _ => 0, []) = some last ∧ last.1.allDone = false := by
    refine ⟨_, rfl, ?_⟩
    decide
  obtain ⟨last, replaying, busy⟩ := replayed
  have run := Runs.of_replay .start replaying
  exact ⟨last.1, last.2, run, busy, makesProgress_of_safeCalls run busy _⟩

/-- One poll of slave 1 is done and one is queued when a write to slave 2
arrives, whose fast path reads behind the end of the map.  After the write
something is pending and nothing more happens. -/
def StuckAfterWrite (endAnswer : Bool) : Prop :=
  ∃ last,
    Runs.replay step (fun _ _ _ => True)
      [.addPollList twoPolls 0, .executeNext (answered 0),
        .addWriteCommand writeToNewSlave endAnswer,
        .executeNext (answered 0)]
      (create 0 fun _ => 0, []) = some last ∧
    Runs step (fun _ _ _ => True) (create 0 fun _ => 0) last.1 last.2 ∧
    last.1.allDone = false ∧ ¬last.1.MakesProgress (answered 0)

theorem stuckAfterWrite (endAnswer : Bool) : StuckAfterWrite endAnswer := by
  have replayed : ∃ last, Runs.replay step (fun _ _ _ => True)
      [.addPollList twoPolls 0, .executeNext (answered 0),
        .addWriteCommand writeToNewSlave endAnswer, .executeNext (answered 0)]
      (create 0 fun _ => 0, []) = some last ∧ last.1.allDone = false ∧
      last.1.executeNext (answered 0) =
        some (last.1.finishInitialPoll, [], .ok 0) := by
    cases endAnswer
    · refine ⟨_, rfl, ?_, rfl⟩
      decide
    · refine ⟨_, rfl, ?_, rfl⟩
      decide
  obtain ⟨last, replaying, busy, executed⟩ := replayed
  refine ⟨last, replaying, Runs.of_replay .start replaying, busy, ?_⟩
  intro ⟨next, events, returned, again, outcome⟩
  cases executed.symm.trans again
  rcases outcome with ⟨delay, positive, zero, _⟩ | ⟨_, oneCall⟩
  · cases zero
    exact lt_irrefl _ positive
  · cases oneCall

/-- After the write no queue is current, and `executeNext` returns zero without
a call, whatever the read behind the end of the map answered. -/
theorem stuck_after_write_to_new_slave :
    StuckAfterWrite false ∧ StuckAfterWrite true :=
  ⟨stuckAfterWrite false, stuckAfterWrite true⟩

end ModbusExecutor

end MqmGateway
