import MqmGateway.Executor.CurrentQueue

/-!
# The search for the next queue ends

The loop of `executeNext` tests for the current queue before it wraps around,
so it passes a current queue that is the first of the map.  As long as some
queue is busy or the current one lies further behind, the loop ends.
-/

namespace MqmGateway

namespace ModbusExecutor

variable {executor : ModbusExecutor}

theorem allDone_iff : executor.allDone = true ↔ executor.waitingCommand = none ∧
      ∀ entry ∈ executor.slaveQueues.entries, entry.2.empty = true := by
  rw [allDone, Bool.and_eq_true, Option.isNone_iff_eq_none, List.all_eq_true]

theorem run_current_known {now : Int} {created : RegisterPoll → Int}
    {history : List ExecutorEvent}
    (run : Runs step (fun _ _ _ => True) (create now created) executor history) :
    ∀ current, executor.currentSlaveQueue = some current →
      current ∈ executor.slaveQueues.keys := by
  have stands : executor.Stands fun _ => True := by
    induction run with
    | start => exact .inr ⟨rfl, trivial⟩
    | step _ _ stepped induction =>
      exact step_stands trivial induction (fun _ _ _ _ _ _ => trivial) stepped
  intro current here
  rcases stands with ⟨slaveId, known, same⟩ | ⟨nowhere, _⟩
  · cases here.symm.trans same
    exact known
  · cases here.symm.trans nowhere

variable {first : Int × ModbusRequestsQueues}
  {rest : List (Int × ModbusRequestsQueues)}

theorem takeNext_of_allDone {current : Int} (done : executor.allDone = true)
    (here : executor.currentSlaveQueue = some current)
    (split : executor.slaveQueues.entries = first :: rest)
    (later : current ∈ rest.map Prod.fst) :
    executor.takeNext = some .nothing := by
  obtain ⟨slot, idle⟩ := allDone_iff.mp done
  obtain ⟨entry, member, same⟩ := List.mem_map.mp later
  have listed : entry ∈ executor.slaveQueues.entries := by
    rw [split]
    exact List.mem_cons_of_mem first member
  have empty : (executor.slaveQueue current).empty = true := by
    rw [slaveQueue, ← same, OrderedMap.getD_of_mem listed]
    exact idle entry listed
  rw [takeNext, slot, here]
  dsimp only
  rw [if_pos (.inr empty), searchRounds, searchQueue_returns split idle later]
  simp [empty]

theorem executeNext_isSome {taken : NextCommand}
    (taking : executor.takeNext = some taken) (input : ExecuteInput) :
    ∃ result, executor.executeNext input = some result := by
  rw [executeNext, taking]
  cases taken with
  | nothing => exact ⟨_, rfl⟩
  | proceed ready =>
    dsimp only
    split
    · exact ⟨_, rfl⟩
    · split
      · exact ⟨_, rfl⟩
      · split <;> exact ⟨_, rfl⟩

theorem executeNext_of_first (done : executor.allDone = true)
    (here : executor.currentSlaveQueue = some first.1)
    (split : executor.slaveQueues.entries = first :: rest)
    (input : ExecuteInput) : executor.executeNext input = none := by
  obtain ⟨slot, idle⟩ := allDone_iff.mp done
  have listed : first ∈ executor.slaveQueues.entries := by simp [split]
  have empty : (executor.slaveQueue first.1).empty = true := by
    rw [slaveQueue, OrderedMap.getD_of_mem listed]
    exact idle first listed
  rw [executeNext, takeNext, slot, here]
  dsimp only
  rw [if_pos (.inr empty), searchQueue_first_endless split idle]

theorem executeNext_of_end (done : executor.allDone = true)
    (here : executor.currentSlaveQueue = none) (input : ExecuteInput) :
    executor.executeNext input =
      some (executor.finishInitialPoll, [], .ok 0) := by
  have slot := (allDone_iff.mp done).1
  rw [executeNext, takeNext, here, slot]
  dsimp only
  rw [slot]

theorem current_of_waits {input : ExecuteInput}
    (done : executor.allDone = true)
    (waits : executor.slaveQueues.keys ≠ [] →
      executor.executeNext input = some (executor, [], .ok Duration.max)) :
    ∀ first ∈ executor.slaveQueues.keys.head?,
      ∃ current ≠ first, executor.currentSlaveQueue = some current := by
  intro first isFirst
  cases split : executor.slaveQueues.entries with
  | nil =>
    rw [OrderedMap.keys, split] at isFirst
    cases isFirst
  | cons entry rest =>
    rw [OrderedMap.keys, split] at isFirst waits
    cases isFirst
    have returned := waits (List.cons_ne_nil _ _)
    cases here : executor.currentSlaveQueue with
    | none =>
      rw [executeNext_of_end done here, Option.some.injEq, Prod.mk.injEq,
        Prod.mk.injEq] at returned
      exact absurd (Except.ok.inj returned.2.2) (by decide)
    | some current =>
      refine ⟨current, ?_, rfl⟩
      rintro rfl
      rw [executeNext_of_first done here split] at returned
      cases returned

theorem takeNext_nothing
    (valid : ∀ current, executor.currentSlaveQueue = some current →
      current ∈ executor.slaveQueues.keys)
    (behindFirst : ∀ first ∈ executor.slaveQueues.keys.head?,
      ∃ current ≠ first, executor.currentSlaveQueue = some current)
    (done : executor.allDone = true)
    (known : executor.slaveQueues.keys ≠ []) :
    executor.takeNext = some .nothing := by
  cases split : executor.slaveQueues.entries with
  | nil =>
    rw [OrderedMap.keys, split] at known
    exact (known rfl).elim
  | cons first rest =>
    obtain ⟨current, other, here⟩ := behindFirst first.1
      (by rw [OrderedMap.keys, split]; rfl)
    have listed := valid current here
    rw [OrderedMap.keys, split] at listed
    rcases List.mem_cons.mp listed with same | later
    · exact (other same).elim
    · exact takeNext_of_allDone done here split later

/-- In a reachable state `executeNext` returns, and with all work done issues
nothing and asks for the longest wait, if and only if the current queue is then
neither the first one nor missing. -/
theorem executeNext_terminates {now : Int} {created : RegisterPoll → Int}
    {executor : ModbusExecutor} {history : List ExecutorEvent}
    (run : Runs step (fun _ _ _ => True) (create now created) executor history)
    (input : ExecuteInput) :
    ((∃ result, executor.executeNext input = some result) ∧
      (executor.allDone = true → executor.slaveQueues.keys ≠ [] →
        executor.executeNext input = some (executor, [], .ok Duration.max))) ↔
    (executor.allDone = true → ∀ first ∈ executor.slaveQueues.keys.head?,
        ∃ current ≠ first, executor.currentSlaveQueue = some current) := by
  refine ⟨fun terminates done => current_of_waits done (terminates.2 done), ?_⟩
  intro behindFirst
  have nothing (done : executor.allDone = true)
      (known : executor.slaveQueues.keys ≠ []) :=
    takeNext_nothing (run_current_known run) (behindFirst done) done known
  refine ⟨?_, fun done known => by rw [executeNext, nothing done known]⟩
  suffices ∃ taken, executor.takeNext = some taken by
    obtain ⟨taken, taking⟩ := this
    exact executeNext_isSome taking input
  cases here : executor.currentSlaveQueue with
  | none =>
    rw [takeNext, here]
    cases executor.waitingCommand <;> exact ⟨_, rfl⟩
  | some current =>
    have known := run_current_known run current here
    cases done : executor.allDone with
    | false =>
      obtain ⟨ready, _, taking, _⟩ :=
        takeNext_ready (anchored_of_current here known) done
      exact ⟨_, taking⟩
    | true => exact ⟨_, nothing done (List.ne_nil_of_mem known)⟩

theorem executeNext_terminates_twoSlaves : ∃ executor history,
      Runs step (fun _ _ _ => True) (create 0 fun _ => 0) executor history ∧
      (executor.allDone = true ∧ executor.slaveQueues.keys = [1, 2]) ∧
      executor.executeNext (answered 7) =
        some (executor, [], .ok Duration.max) := by
  have replayed : ∃ last, Runs.replay step (fun _ _ _ => True)
      [.setupInitialPoll (twoSlaves 0 0) 0,
        .executeNext (answered 7), .executeNext (answered 7)]
      (create 0 fun _ => 0, []) = some last ∧
      last.1.allDone = true ∧ last.1.slaveQueues.keys = [1, 2] ∧
      last.1.currentSlaveQueue = some 2 := by
    refine ⟨_, rfl, ?_⟩
    decide
  obtain ⟨last, replaying, done, known, here⟩ := replayed
  have run := Runs.of_replay .start replaying
  refine ⟨last.1, last.2, run, ⟨done, known⟩, ?_⟩
  refine ((executeNext_terminates run (answered 7)).mpr ?_).2 done ?_
  · intro _ first isFirst
    rw [known] at isFirst
    cases isFirst
    exact ⟨2, by decide, here⟩
  · rw [known]
    exact List.cons_ne_nil _ _

/-- After the only slave has been polled, a further call never returns. -/
theorem executeNext_endless : ∃ executor history,
      Runs step (fun _ _ _ => True) (create 0 fun _ => 0) executor history ∧
      executor.allDone = true ∧ executor.currentSlaveQueue = some 1 ∧
      (∀ fuel, searchQueue 1 executor.slaveQueues.entries fuel
        (executor.slaveQueues.after 1) = none) ∧
      ∀ input, executor.executeNext input = none := by
  have replayed : ∃ last, Runs.replay step (fun _ _ _ => True)
      [.addReadCommand (delayedPoll 1 0), .executeNext (answered 7)]
      (create 0 fun _ => 0, []) = some last ∧
      last.1.allDone = true ∧ last.1.currentSlaveQueue = some 1 ∧
      last.1.slaveQueues.keys = [1] := by
    refine ⟨_, rfl, ?_⟩
    decide
  obtain ⟨last, replaying, done, here, known⟩ := replayed
  obtain ⟨entry, split, same⟩ := List.map_eq_singleton_iff.mp known
  refine ⟨last.1, last.2, Runs.of_replay .start replaying, done, here, ?_,
    executeNext_of_first done (same ▸ here) split⟩
  rw [← same]
  exact searchQueue_first_endless split (allDone_iff.mp done).2

end ModbusExecutor

end MqmGateway
