import MqmGateway.Executor.Progress
import MqmGateway.Executor.WriteOrder

/-!
# Dereferencing the current queue

`mCurrentSlaveQueue` may stand at the end of the map.  The lists below follow
the calls and collect the states in which the source dereferences it.  Only
the fast path of `addWriteCommand` does so unchecked: it looks the slave up
without creating its queue.
-/

namespace MqmGateway

namespace ModbusExecutor

def CurrentValid (executor : ModbusExecutor) : Prop :=
  ∃ slaveId ∈ executor.slaveQueues.keys,
    executor.currentSlaveQueue = some slaveId

/-- The log message of each round of the election that takes a poll. -/
def electDereferences (period : Duration) :
    List Int → Duration → ModbusExecutor → List ModbusExecutor
  | [], _, _ => []
  | slaveId :: slaves, currentDiff, executor =>
    let ignoreFirstRead := executor.currentSlaveQueue = some slaveId
    if currentDiff ≠ 0 then
      let found := (executor.slaveQueue slaveId).findForSilencePeriod period
        ignoreFirstRead
      if found.1 < currentDiff then
        match found.2.popFirstWithDelay period ignoreFirstRead with
        | none => []
        | some (reg, queue) =>
          let elected :=
            { executor.setSlaveQueue slaveId queue with
              waitingCommand := some (.poll reg)
              currentSlaveQueue := some slaveId }
          if found.1 = 0 then
            [elected]
          else
            elected :: electDereferences period slaves found.1 elected
      else
        electDereferences period slaves currentDiff
          (executor.setSlaveQueue slaveId found.2)
    else
      electDereferences period slaves currentDiff executor

/-- `resetCommandsCounter`, the election, the pop from the first queue and the
log message at the end. -/
def chooseDereferences (executor : ModbusExecutor) (firstAdded now : Int) :
    List ModbusExecutor :=
  let started := { executor with currentSlaveQueue := some firstAdded }
  let reset := started.resetCommandsCounter false
  let period := now - reset.lastCommandTime
  started ::
    (electDereferences period reset.slaveQueues.keys Duration.max reset ++
      match elect period reset.slaveQueues.keys Duration.max reset with
      | none => []
      | some (elected, _) =>
        elected :: ((executor.chooseCommand firstAdded now).map
          Prod.fst).toList)

def addPollDereferences (executor : ModbusExecutor)
    (registers : OrderedMap Int (List RegisterPoll)) (initialPoll : Bool)
    (now : Int) : List ModbusExecutor :=
  if executor.initialPoll && !executor.pollDone then
    []
  else
    match firstAdded registers with
    | none => []
    | some slaveId =>
      if executor.allDone then
        ({ executor with
          initialPoll := executor.initialPoll || initialPoll }.enqueuePolls
            registers.entries).1.chooseDereferences slaveId now
      else
        []

/-- The tests whether the current queue is empty, the pop from it and
`resetCommandsCounter`, in the first part of `executeNext`. -/
def takeDereferences (executor : ModbusExecutor) : List ModbusExecutor :=
  match executor.waitingCommand, executor.currentSlaveQueue with
  | none, some current =>
    (if executor.commandsLeft = 0 then [] else [executor]) ++
      if executor.commandsLeft = 0 ∨ (executor.slaveQueue current).empty then
        match searchQueue current executor.slaveQueues.entries
            executor.searchRounds (executor.slaveQueues.after current) with
        | none => []
        | some nextQueue =>
          (if current ≠ nextQueue then [] else [executor]) ++
            if current ≠ nextQueue ∨
                !(executor.slaveQueue current).empty then
              { executor with currentSlaveQueue := some nextQueue } ::
                (executor.popCurrent nextQueue).toList
            else
              []
      else
        [executor]
  | _, _ => []

/-- The log message about a command that has to wait. -/
def waitDereferences (executor : ModbusExecutor) (now : Int) :
    List ModbusExecutor :=
  match executor.takeNext with
  | some (.proceed ready) =>
    match ready.waitingCommand with
    | some command => if ready.delayLeft command now > 0 then [ready] else []
    | none => []
  | _ => []

/-- The states in which a call dereferences the iterator. -/
def dereferences (executor : ModbusExecutor) :
    ExecutorCall → List ModbusExecutor
  | .setupInitialPoll registers now =>
    executor.addPollDereferences registers true now
  | .addPollList registers now =>
    executor.addPollDereferences registers false now
  | .addReadCommand reg =>
    if executor.currentSlaveQueue = none then
      [{ executor.setSlaveQueue reg.slaveId
          ((executor.slaveQueue reg.slaveId).addPollList [reg]).1 with
        currentSlaveQueue := some reg.slaveId }]
    else
      []
  | .addWriteCommand cmd _ =>
    if executor.writeCommandsQueued = 0 then
      let readded :=
        match executor.waitingCommand with
        | none => executor
        | some waiting =>
          executor.setSlaveQueue cmd.slaveId
            ((executor.slaveQueue cmd.slaveId).readdCommand waiting)
      [{ readded with
        waitingCommand := some (.write cmd)
        currentSlaveQueue := readded.findSlaveQueue cmd.slaveId }]
    else if executor.currentSlaveQueue = none then
      [{ executor.setSlaveQueue cmd.slaveId
          ((executor.slaveQueue cmd.slaveId).addWriteCommand cmd) with
        currentSlaveQueue := some cmd.slaveId }]
    else
      []
  | .executeNext input =>
    executor.takeDereferences ++
      executor.waitDereferences input.delayCheck

/-- A write that goes straight into an empty slot is for a slave with a
queue. -/
def KnownSlave (executor : ModbusExecutor) : ExecutorCall → Prop
  | .addWriteCommand cmd _ =>
    executor.writeCommandsQueued = 0 → executor.waitingCommand = none →
      cmd.slaveId ∈ executor.slaveQueues.keys
  | _ => True

instance (executor : ModbusExecutor) (call : ExecutorCall) :
    Decidable (executor.KnownSlave call) := by
  refine call.casesOn ?_ ?_ ?_ ?_ ?_ <;> intros <;> dsimp only [KnownSlave] <;>
    infer_instance

/-- The iterator stands at an element, or at the end beside a slot of which
`atEnd` holds. -/
def Stands (atEnd : Option RegisterCommand → Prop)
    (executor : ModbusExecutor) : Prop :=
  executor.CurrentValid ∨
    executor.currentSlaveQueue = none ∧ atEnd executor.waitingCommand

variable {slaveId : Int} {next : ModbusExecutor} {events : List ExecutorEvent}
  {call : ExecutorCall}

theorem currentValid_setSlaveQueue (executor : ModbusExecutor)
    {queue : ModbusRequestsQueues} {state : ModbusExecutor}
    (queues : state.slaveQueues =
      (executor.setSlaveQueue slaveId queue).slaveQueues)
    (current : state.currentSlaveQueue = some slaveId) :
    state.CurrentValid := by
  refine ⟨slaveId, ?_, current⟩
  rw [queues]
  exact mem_keys_setSlaveQueue.mpr (.inl rfl)

variable {executor : ModbusExecutor}

theorem CurrentValid.setSlaveQueue
    (valid : executor.CurrentValid) (slaveId : Int)
    (queue : ModbusRequestsQueues) :
    (executor.setSlaveQueue slaveId queue).CurrentValid := by
  obtain ⟨current, known, here⟩ := valid
  exact ⟨current, mem_keys_setSlaveQueue.mpr (.inr known), here⟩

theorem electDereferences_valid {period : Duration} {slaves : List Int}
    {currentDiff : Duration} :
    ∀ state ∈ electDereferences period slaves currentDiff executor,
      state.CurrentValid := by
  induction slaves generalizing currentDiff executor with
  | nil =>
    intro state listed
    cases listed
  | cons slaveId slaves induction =>
    rw [electDereferences]
    dsimp only
    split
    · split
      · split
        · intro state listed
          cases listed
        · rename_i reg queue popped
          have valid : { executor.setSlaveQueue slaveId queue with
              waitingCommand := some (.poll reg)
              currentSlaveQueue := some slaveId }.CurrentValid :=
            currentValid_setSlaveQueue executor rfl rfl
          split
          · exact List.forall_mem_singleton.mpr valid
          · exact List.forall_mem_cons.mpr ⟨valid, induction⟩
      · exact induction
    · exact induction

theorem chooseCommand_valid {firstAdded now : Int}
    (known : firstAdded ∈ executor.slaveQueues.keys)
    (chosen : executor.chooseCommand firstAdded now = some (next, events)) :
    next.CurrentValid := by
  apply chooseCommand_induction CurrentValid _ _ _ chosen
  · intro _ _
    exact ⟨firstAdded, known, rfl⟩
  · intro reached slaveId queue _ _ valid
    exact valid.setSlaveQueue slaveId queue
  · intro reached _ _ _ _ _ _ _ _ _
    exact currentValid_setSlaveQueue reached rfl rfl
  · intro reached _ _ _ _ _
    exact currentValid_setSlaveQueue reached rfl rfl

theorem chooseDereferences_valid
    {firstAdded : Int} (known : firstAdded ∈ executor.slaveQueues.keys)
    (now : Int) :
    ∀ state ∈ executor.chooseDereferences firstAdded now,
      state.CurrentValid := by
  have started : { executor with
      currentSlaveQueue := some firstAdded }.CurrentValid :=
    ⟨firstAdded, known, rfl⟩
  rw [chooseDereferences]
  refine List.forall_mem_cons.mpr ⟨started, ?_⟩
  intro state listed
  rcases List.mem_append.mp listed with electing | choosing
  · exact electDereferences_valid state electing
  · split at choosing
    · cases choosing
    · rename_i elected displaced election
      rcases List.mem_cons.mp choosing with rfl | final
      · apply elect_induction CurrentValid _ _ election
        · rw [(resetCommandsCounter_eq _ _).choose_spec]
          exact started
        · intro reached slaveId queue _ _ valid
          exact valid.setSlaveQueue slaveId queue
        · intro reached _ _ _ _ _ _ _ _ _
          exact currentValid_setSlaveQueue reached rfl rfl
      · rw [Option.mem_toList] at final
        obtain ⟨⟨last, events⟩, chosen, rfl⟩ :=
          Option.map_eq_some_iff.mp final
        exact chooseCommand_valid known chosen

theorem firstAdded_known {registers : OrderedMap Int (List RegisterPoll)}
    (found : firstAdded registers = some slaveId)
    (executor : ModbusExecutor) :
    slaveId ∈ (executor.enqueuePolls registers.entries).1.slaveQueues.keys := by
  apply mem_keys_enqueuePolls
  obtain ⟨entry, search, same⟩ := Option.map_eq_some_iff.mp found
  exact .inr (List.mem_map.mpr
    ⟨entry, List.mem_of_find?_eq_some search, same⟩)

theorem addPollDereferences_valid (executor : ModbusExecutor)
    (registers : OrderedMap Int (List RegisterPoll)) (initialPoll : Bool)
    (now : Int) :
    ∀ state ∈ executor.addPollDereferences registers initialPoll now,
      state.CurrentValid := by
  intro state listed
  rw [addPollDereferences] at listed
  split at listed
  · cases listed
  · split at listed
    · cases listed
    · rename_i slaveId found
      split at listed
      · exact chooseDereferences_valid (firstAdded_known found _) now state
          listed
      · cases listed

theorem searchQueue_known {current found : Int}
    {queues : OrderedMap Int ModbusRequestsQueues}
    (known : current ∈ queues.keys) {fuel : Nat}
    {nextQueue : List (Int × ModbusRequestsQueues)}
    (within : nextQueue ⊆ queues.entries)
    (search : searchQueue current queues.entries fuel nextQueue =
      some found) : found ∈ queues.keys := by
  induction fuel generalizing nextQueue with
  | zero => cases search
  | succ fuel induction =>
    rw [searchQueue] at search
    split at search
    · cases search
      exact known
    · have inside : (if nextQueue.isEmpty then queues.entries
          else nextQueue) ⊆ queues.entries := by
        split
        · exact List.Subset.refl _
        · exact within
      split at search
      · cases search
      · rename_i slaveId queue rest here
        rw [here] at inside
        obtain ⟨listed, later⟩ := List.cons_subset.mp inside
        split at search
        · cases search
          exact List.mem_map.mpr ⟨_, listed, rfl⟩
        · exact induction later search

theorem takeDereferences_valid (placed : executor.Stands (· = none)) :
    ∀ state ∈ executor.takeDereferences, state.CurrentValid := by
  intro state listed
  rw [takeDereferences] at listed
  split at listed
  · rename_i current idle here
    have valid : executor.CurrentValid := by
      rcases placed with valid | ⟨atEnd, _⟩
      · exact valid
      · rw [here] at atEnd
        cases atEnd
    have known : current ∈ executor.slaveQueues.keys := by
      obtain ⟨slaveId, known, same⟩ := valid
      cases here.symm.trans same
      exact known
    rcases List.mem_append.mp listed with testing | taking
    · split at testing
      · cases testing
      · rw [List.mem_singleton.mp testing]
        exact valid
    · split at taking
      · split at taking
        · cases taking
        · rename_i nextQueue found
          rcases List.mem_append.mp taking with testing | popping
          · split at testing
            · cases testing
            · rw [List.mem_singleton.mp testing]
              exact valid
          · split at popping
            · rcases List.mem_cons.mp popping with rfl | reset
              · refine ⟨nextQueue, searchQueue_known known ?_ found, rfl⟩
                intro entry listed
                exact (List.mem_filter.mp listed).1
              · rw [Option.mem_toList] at reset
                obtain ⟨_, _, _, rfl⟩ := popCurrent_eq_some reset
                exact currentValid_setSlaveQueue executor rfl rfl
            · cases popping
      · rw [List.mem_singleton.mp taking]
        exact valid
  · cases listed

theorem Taken.stands {atEnd : Option RegisterCommand → Prop}
    {ready : ModbusExecutor} (stands : executor.Stands atEnd)
    (taken : Taken executor ready) : ready.Stands atEnd := by
  cases taken with
  | kept _ => exact stands
  | continued _ _ _ _ =>
    exact .inl (currentValid_setSlaveQueue executor rfl rfl)
  | moved _ _ _ _ _ _ =>
    exact .inl (currentValid_setSlaveQueue executor rfl rfl)

theorem waitDereferences_valid
    (placed : executor.Stands (· = none)) (now : Int) :
    ∀ state ∈ executor.waitDereferences now, state.CurrentValid := by
  intro state listed
  rw [waitDereferences] at listed
  split at listed
  · rename_i ready taking
    split at listed
    · rename_i command waiting
      split at listed
      · rw [List.mem_singleton.mp listed]
        rcases (takeNext_taken taking).stands placed with
          valid | ⟨_, idle⟩
        · exact valid
        · rw [waiting] at idle
          cases idle
      · cases listed
    · cases listed
  · cases listed

theorem addWriteCommand_fast {cmd : RegisterWrite}
    (known : executor.waitingCommand = none →
      cmd.slaveId ∈ executor.slaveQueues.keys) :
    { (match executor.waitingCommand with
        | none => executor
        | some waiting =>
          executor.setSlaveQueue cmd.slaveId
            ((executor.slaveQueue cmd.slaveId).readdCommand waiting)) with
      waitingCommand := some (.write cmd)
      currentSlaveQueue := (match executor.waitingCommand with
        | none => executor
        | some waiting =>
          executor.setSlaveQueue cmd.slaveId
            ((executor.slaveQueue cmd.slaveId).readdCommand
              waiting)).findSlaveQueue cmd.slaveId }.CurrentValid := by
  cases waiting : executor.waitingCommand with
  | none => exact ⟨cmd.slaveId, known waiting, if_pos (known waiting)⟩
  | some preempted =>
    have created : cmd.slaveId ∈ (executor.setSlaveQueue cmd.slaveId
        ((executor.slaveQueue cmd.slaveId).readdCommand
          preempted)).slaveQueues.keys :=
      mem_keys_setSlaveQueue.mpr (.inl rfl)
    exact ⟨cmd.slaveId, created, if_pos created⟩

theorem dereferences_valid
    (placed : executor.Stands (· = none)) (known : executor.KnownSlave call) :
    ∀ state ∈ executor.dereferences call, state.CurrentValid := by
  cases call with
  | setupInitialPoll registers now =>
    exact executor.addPollDereferences_valid registers true now
  | addPollList registers now =>
    exact executor.addPollDereferences_valid registers false now
  | addReadCommand reg =>
    rw [dereferences]
    split
    · exact List.forall_mem_singleton.mpr
        (currentValid_setSlaveQueue executor rfl rfl)
    · intro state listed
      cases listed
  | addWriteCommand cmd endAnswer =>
    rw [dereferences]
    split
    · rename_i noneQueued
      exact List.forall_mem_singleton.mpr
        (addWriteCommand_fast (known noneQueued))
    · split
      · exact List.forall_mem_singleton.mpr
          (currentValid_setSlaveQueue executor rfl rfl)
      · intro state listed
        cases listed
  | executeNext input =>
    intro state listed
    rcases List.mem_append.mp listed with taking | waiting
    · exact takeDereferences_valid placed state taking
    · exact waitDereferences_valid placed input.delayCheck state waiting

section Standing

variable {atEnd : Option RegisterCommand → Prop}

variable {executor next : ModbusExecutor} {events : List ExecutorEvent}

theorem Stands.congr (stands : executor.Stands atEnd)
    (queues : next.slaveQueues = executor.slaveQueues)
    (current : next.currentSlaveQueue = executor.currentSlaveQueue)
    (waiting : next.waitingCommand = executor.waitingCommand) :
    next.Stands atEnd := by
  rw [Stands, CurrentValid, queues, current, waiting]
  exact stands

theorem Stands.enqueuePolls (stands : executor.Stands atEnd)
    (entries : List (Int × List RegisterPoll)) :
    (executor.enqueuePolls entries).1.Stands atEnd := by
  obtain ⟨slaveQueues, same⟩ := executor.enqueuePolls_eq entries
  rcases stands with ⟨slaveId, known, current⟩ | ⟨nowhere, slot⟩
  · left
    refine ⟨slaveId, mem_keys_enqueuePolls executor (.inl known), ?_⟩
    rw [same]
    exact current
  · right
    rw [same]
    exact ⟨nowhere, slot⟩

theorem addPollList_stands
    {registers : OrderedMap Int (List RegisterPoll)} {initialPoll : Bool}
    {now : Int}
    (stands : executor.Stands atEnd)
    (added : executor.addPollList registers initialPoll now =
      some (next, events)) : next.Stands atEnd := by
  cases addPollList_added added with
  | ignored _ _ => exact stands
  | @queued initialPoll _ _ =>
    exact (stands.congr rfl rfl rfl : { executor with
      initialPoll }.Stands atEnd).enqueuePolls registers.entries
  | chosen _ _ found choice =>
    exact .inl (chooseCommand_valid (firstAdded_known found _) choice)

theorem addReadCommand_stands
    (stands : executor.Stands atEnd) (reg : RegisterPoll) :
    (executor.addReadCommand reg).1.Stands atEnd := by
  rw [addReadCommand]
  split
  · rw [(resetCommandsCounter_eq _ _).choose_spec]
    exact .inl (currentValid_setSlaveQueue executor rfl rfl)
  · rename_i somewhere
    rcases stands with valid | ⟨nowhere, _⟩
    · exact .inl (valid.setSlaveQueue _ _)
    · exact (somewhere nowhere).elim

theorem addWriteCommand_stands
    {cmd : RegisterWrite} (stands : executor.Stands atEnd)
    (unknown : executor.writeCommandsQueued = 0 →
      executor.waitingCommand = none →
      cmd.slaveId ∉ executor.slaveQueues.keys → atEnd (some (.write cmd)))
    (endAnswer : Bool) :
    (executor.addWriteCommand cmd endAnswer).1.Stands atEnd := by
  rw [addWriteCommand]
  refine Stands.congr ?_ rfl rfl rfl
  split
  · rename_i noneQueued
    rw [(resetCommandsCounter_eq _ _).choose_spec]
    by_cases known : executor.waitingCommand = none →
        cmd.slaveId ∈ executor.slaveQueues.keys
    · exact .inl (addWriteCommand_fast known)
    · obtain ⟨idle, absent⟩ := Classical.not_imp.mp known
      rw [idle]
      exact .inr ⟨if_neg absent, unknown noneQueued idle absent⟩
  · dsimp only
    split
    · rw [(resetCommandsCounter_eq _ _).choose_spec]
      exact .inl (currentValid_setSlaveQueue executor rfl rfl)
    · rename_i somewhere
      rcases stands with valid | ⟨nowhere, _⟩
      · exact .inl (valid.setSlaveQueue _ _)
      · exact (somewhere nowhere).elim

theorem Sending.stands {started sent : ModbusExecutor}
    {command : RegisterCommand} {input : ExecuteInput}
    {outcome : CallOutcome} (idle : atEnd none)
    (stands : started.Stands atEnd)
    (sending : Sending started command input sent outcome) :
    sent.Stands atEnd := by
  cases sending with
  | threw _ => exact stands
  | retried same _ =>
    rw [same]
    exact stands
  | finished same _ _ =>
    rw [same]
    exact stands.imp_right fun nowhere => ⟨nowhere.1, idle⟩

theorem executeNext_stands {input : ExecuteInput} (idle : atEnd none)
    (stands : executor.Stands atEnd)
    (executed : Executed executor input next events) :
    next.Stands atEnd := by
  cases executed with
  | nothing _ => exact stands
  | idle taking _ =>
    exact ((takeNext_taken taking).stands stands).congr rfl rfl rfl
  | waits taking _ _ => exact (takeNext_taken taking).stands stands
  | @sends ready sent initialPoll command outcome messages taking _ _ _
      sending =>
      obtain ⟨_, _, _, _, started⟩ := ready.startCommand_eq command
      have startedStands : (ready.startCommand command).Stands atEnd := by
        rw [started]
        exact ((takeNext_taken taking).stands stands).congr rfl rfl rfl
      exact (sending.stands idle startedStands).congr rfl rfl rfl

theorem step_stands {call : ExecutorCall} (idle : atEnd none)
    (stands : executor.Stands atEnd)
    (unknown : ∀ cmd endAnswer, call = .addWriteCommand cmd endAnswer →
      executor.writeCommandsQueued = 0 → executor.waitingCommand = none →
      cmd.slaveId ∉ executor.slaveQueues.keys → atEnd (some (.write cmd)))
    (stepped : executor.step call = some (next, events)) :
    next.Stands atEnd := by
  cases call with
  | setupInitialPoll registers now => exact addPollList_stands stands stepped
  | addPollList registers now => exact addPollList_stands stands stepped
  | addReadCommand reg =>
    have added := addReadCommand_stands stands reg
    rw [Option.some.inj stepped] at added
    exact added
  | addWriteCommand cmd endAnswer =>
    have added := addWriteCommand_stands stands
      (unknown cmd endAnswer rfl) endAnswer
    rw [Option.some.inj stepped] at added
    exact added
  | executeNext input =>
    obtain ⟨⟨last, logged, returned⟩, executed, same⟩ :=
      Option.map_eq_some_iff.mp stepped
    cases same
    exact executeNext_stands idle stands (executeNext_executed executed)

end Standing

theorem step_placed (placed : executor.Stands (· = none))
    (known : executor.KnownSlave call)
    (stepped : executor.step call = some (next, events)) :
    next.Stands (· = none) := by
  refine step_stands rfl placed ?_ stepped
  rintro cmd endAnswer rfl noneQueued idle absent
  exact (absent (known noneQueued idle)).elim

/-- In every run of calls that meet the condition, the next call dereferences
valid iterators only, exactly if it meets the condition too. -/
theorem dereferences_valid_iff {now : Int} {created : RegisterPoll → Int}
    {executor : ModbusExecutor} {history : List ExecutorEvent}
    (run : Runs step (fun executor _ call => executor.KnownSlave call)
      (create now created) executor history) (call : ExecutorCall) :
    (∀ state ∈ executor.dereferences call, state.CurrentValid) ↔
      executor.KnownSlave call := by
  have placed : executor.Stands (· = none) := by
    induction run with
    | start => exact .inr ⟨rfl, rfl⟩
    | step _ known stepped induction =>
      exact step_placed induction known stepped
  constructor
  · intro valid
    cases call with
    | addWriteCommand cmd endAnswer =>
      intro noneQueued idle
      by_contra unknown
      rw [dereferences, if_pos noneQueued, idle] at valid
      obtain ⟨slaveId, _, found⟩ := List.forall_mem_singleton.mp valid
      rw [show executor.findSlaveQueue cmd.slaveId = none from
        if_neg unknown] at found
      cases found
    | setupInitialPoll _ _ | addPollList _ _ | addReadCommand _
    | executeNext _ => trivial
  · exact dereferences_valid placed

theorem dereferences_valid_polled_slave : ∃ executor history,
      Runs step (fun executor _ call => executor.KnownSlave call)
        (create 0 fun _ => 0) executor history ∧
      (executor.waitingCommand = none ∧
        executor.KnownSlave (.addWriteCommand (retriedWrite 3 5) true)) ∧
      ∀ state ∈ executor.dereferences
        (.addWriteCommand (retriedWrite 3 5) true), state.CurrentValid := by
  obtain ⟨executor, history, run, idle, known⟩ := Runs.exists_of_replay
    [.addPollList twoPolls 0, .executeNext (answered 0),
      .executeNext (answered 0)]
    (fun executor _ => executor.waitingCommand = none ∧
      executor.KnownSlave (.addWriteCommand (retriedWrite 3 5) true))
    (show (Runs.replay step
      (fun executor _ call => executor.KnownSlave call) _
        (create 0 fun _ => 0, [])).any _ = true by decide +kernel)
  exact ⟨executor, history, run, ⟨idle, known⟩,
    (dereferences_valid_iff run _).mpr known⟩

/-- The first call on a new executor is a write: the counter is reset through
the end of the map. -/
theorem end_dereferenced_by_first_write :
    ∃ state ∈ (create 0 fun _ => 0).dereferences
      (.addWriteCommand (retriedWrite 3 5) true),
      state.currentSlaveQueue = none :=
  ⟨_, List.mem_singleton_self _, rfl⟩

end ModbusExecutor

end MqmGateway
