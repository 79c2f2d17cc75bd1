import MqmGateway.Executor.CommandFlow

/-!
# When an election displaces a command

`addPollList` elects the poll whose delay fits the silence on the bus.  The
loop takes a poll out of a queue each time a slave asks for a shorter delay
than the slaves before it, so a second taking displaces the first poll.
-/

namespace MqmGateway

namespace ModbusRequestsQueues

variable {queue other : ModbusRequestsQueues}

theorem findForSilencePeriod_congr
    (polls : queue.pollQueue = other.pollQueue) (period : Duration)
    (ignoreFirstRead : Bool) :
    (queue.findForSilencePeriod period ignoreFirstRead).1 =
      (other.findForSilencePeriod period ignoreFirstRead).1 := by
  rw [findForSilencePeriod, findForSilencePeriod, polls]
  split <;> rfl

theorem findForSilencePeriod_of_empty
    (polls : queue.pollQueue = []) (period : Duration)
    (ignoreFirstRead : Bool) :
    (queue.findForSilencePeriod period ignoreFirstRead).1 = Duration.max := by
  rw [findForSilencePeriod, polls, scanSilence]

theorem addPollList_congr (polls : queue.pollQueue = other.pollQueue)
    (pollList : List RegisterPoll) :
    (queue.addPollList pollList).1.pollQueue =
      (other.addPollList pollList).1.pollQueue := by
  induction pollList generalizing queue other with
  | nil => exact polls
  | cons reg pollList induction =>
    rw [addPollList, addPollList, polls]
    split
    · exact induction polls
    · exact induction rfl

end ModbusRequestsQueues

namespace ModbusExecutor

/-- The delay the election finds for a slave of `registers`. -/
def electionDelay (registers : OrderedMap Int (List RegisterPoll))
    (period : Duration) (slaveId : Int) : Duration :=
  (({} : ModbusRequestsQueues).addPollList
    (registers.getD slaveId [])).1.findForSilencePeriod period
      (firstAdded registers = some slaveId) |>.1

/-- The first slave with a finite delay has the shortest one. -/
def ElectsOnce (registers : OrderedMap Int (List RegisterPoll))
    (period : Duration) : Prop :=
  ∀ first ∈ registers.keys, ∀ second ∈ registers.keys, first < second →
    electionDelay registers period first < Duration.max →
    (∀ earlier ∈ registers.keys, earlier < first →
      Duration.max ≤ electionDelay registers period earlier) →
    electionDelay registers period first ≤
      electionDelay registers period second

instance (registers : OrderedMap Int (List RegisterPoll))
    (period : Duration) : Decidable (ElectsOnce registers period) :=
  inferInstanceAs (Decidable (∀ first ∈ registers.keys, _))

/-- The condition under which a call takes at most one poll in its election.
Other calls, and calls that find work in progress, hold no election. -/
def SingleElection (executor : ModbusExecutor) : ExecutorCall → Prop
  | .setupInitialPoll registers now | .addPollList registers now =>
    executor.allDone = true →
      ElectsOnce registers (now - executor.lastCommandTime)
  | _ => True

instance (executor : ModbusExecutor) (call : ExecutorCall) :
    Decidable (executor.SingleElection call) := by
  refine call.casesOn ?_ ?_ ?_ ?_ ?_ <;> intros <;> dsimp only [SingleElection] <;>
    infer_instance

theorem slaveQueue_setSlaveQueue (executor : ModbusExecutor)
    (slaveId other : Int) (queue : ModbusRequestsQueues) :
    (executor.setSlaveQueue slaveId queue).slaveQueue other =
      if other = slaveId then queue else executor.slaveQueue other := by
  rw [slaveQueue, setSlaveQueue, OrderedMap.getD_set]
  rfl

theorem findForSilencePeriod_setSlaveQueue (executor : ModbusExecutor)
    (slaveId other : Int) (period : Duration) (visited ignored : Bool) :
    (((executor.setSlaveQueue slaveId
        ((executor.slaveQueue slaveId).findForSilencePeriod period
          visited).2).slaveQueue other).findForSilencePeriod period ignored).1 =
      ((executor.slaveQueue other).findForSilencePeriod period ignored).1 := by
  apply ModbusRequestsQueues.findForSilencePeriod_congr
  rw [slaveQueue_setSlaveQueue]
  split
  · rename_i same
    rw [same, ModbusRequestsQueues.findForSilencePeriod_pollQueue]
  · rfl

variable {period : Duration} {slaves : List Int}
  {executor next : ModbusExecutor} {events : List ExecutorEvent}
  {registers : OrderedMap Int (List RegisterPoll)} {slaveId : Int}

theorem elect_keeps {currentDiff : Duration} {current : Int}
    (elected : executor.currentSlaveQueue = some current)
    (passed : current ∉ slaves)
    (noShorter : ∀ slaveId ∈ slaves, currentDiff ≤
      ((executor.slaveQueue slaveId).findForSilencePeriod period false).1)
    (electing : elect period slaves currentDiff executor =
      some (next, events)) :
    events = [] := by
  induction slaves generalizing executor with
  | nil =>
    cases electing
    rfl
  | cons slaveId slaves induction =>
    obtain ⟨here, later⟩ := List.forall_mem_cons.mp noShorter
    obtain ⟨notHere, notLater⟩ := not_or.mp (mt List.mem_cons.mpr passed)
    have otherFirst : decide (executor.currentSlaveQueue = some slaveId) =
        false := by
      simpa [elected] using notHere
    rw [elect] at electing
    dsimp only at electing
    rw [otherFirst, if_neg (not_lt.mpr here)] at electing
    split at electing
    · refine induction ?_ notLater ?_ electing
      · exact elected
      · intro other member
        rw [findForSilencePeriod_setSlaveQueue]
        exact later other member
    · exact induction elected notLater later electing

/-- An election that starts with an empty slot displaces nothing when the
first slave with a finite delay has the shortest one. -/
theorem elect_once {firstAdded : Int} (delay : Int → Duration)
    (idle : executor.waitingCommand = none)
    (started : executor.currentSlaveQueue = some firstAdded)
    (sorted : slaves.Pairwise (· < ·))
    (delays : ∀ slaveId ∈ slaves,
      ((executor.slaveQueue slaveId).findForSilencePeriod period
        (firstAdded = slaveId)).1 = delay slaveId)
    (fromFirst : ∀ slaveId ∈ slaves, delay slaveId < Duration.max →
      firstAdded ≤ slaveId)
    (once : ∀ before slaveId after, slaves = before ++ slaveId :: after →
      (∀ earlier ∈ before, Duration.max ≤ delay earlier) →
      delay slaveId < Duration.max →
      ∀ later ∈ after, delay slaveId ≤ delay later)
    (electing : elect period slaves Duration.max executor =
      some (next, events)) :
    events = [] := by
  induction slaves generalizing executor with
  | nil =>
    cases electing
    rfl
  | cons slaveId slaves induction =>
    obtain ⟨here, laterDelays⟩ := List.forall_mem_cons.mp delays
    obtain ⟨below, sortedRest⟩ := List.pairwise_cons.mp sorted
    have flag : decide (executor.currentSlaveQueue = some slaveId) =
        decide (firstAdded = slaveId) := by
      simp [started]
    rw [elect, if_pos (by decide)] at electing
    dsimp only at electing
    rw [flag, here] at electing
    split at electing
    · rename_i finite
      split at electing
      · cases electing
      · rename_i reg queue popped
        have nothingDisplaced : executor.waitingCommand.toList.map
            ExecutorEvent.displaced = [] := by
          simp [idle]
        rw [nothingDisplaced] at electing
        split at electing
        · cases electing
          rfl
        · obtain ⟨⟨last, rest⟩, continuing, combined⟩ :=
            Option.map_eq_some_iff.mp electing
          cases combined
          refine elect_keeps rfl ?_ ?_ continuing
          · intro member
            exact lt_irrefl slaveId (below slaveId member)
          · intro later member
            have beyond : firstAdded ≠ later := by
              have reached := fromFirst slaveId List.mem_cons_self finite
              have further := below later member
              omega
            have shorter := once [] slaveId slaves rfl (by simp) finite
              later member
            rw [← laterDelays later member, decide_eq_false beyond]
              at shorter
            have unchanged :=
              executor.slaveQueue_setSlaveQueue slaveId later queue
            rw [if_neg (below later member).ne'] at unchanged
            rw [← unchanged] at shorter
            exact shorter
    · rename_i infinite
      refine induction ?_ ?_ sortedRest ?_ ?_ ?_ electing
      · exact idle
      · exact started
      · intro later member
        rw [findForSilencePeriod_setSlaveQueue]
        exact laterDelays later member
      · intro later member
        exact fromFirst later (List.mem_cons_of_mem slaveId member)
      · intro before elected after split noneBefore
        apply once (slaveId :: before) elected after (by rw [split]; rfl)
        exact List.forall_mem_cons.mpr ⟨not_lt.mp infinite, noneBefore⟩

theorem enqueuePolls_slaveQueue {entries : List (Int × List RegisterPoll)}
    (sorted : entries.Pairwise fun left right => left.1 < right.1)
    (executor : ModbusExecutor) (slaveId : Int) :
    (executor.enqueuePolls entries).1.slaveQueue slaveId =
      ((executor.slaveQueue slaveId).addPollList
        (((entries.find? fun entry => entry.1 = slaveId).map
          Prod.snd).getD [])).1 := by
  induction entries generalizing executor with
  | nil => rfl
  | cons entry entries induction =>
    obtain ⟨below, sortedRest⟩ := List.pairwise_cons.mp sorted
    rw [enqueuePolls]
    dsimp only
    rw [induction sortedRest, slaveQueue_setSlaveQueue]
    by_cases same : entry.1 = slaveId
    · have absent : entries.find? (fun other => other.1 = slaveId) =
          none := by
        rw [List.find?_eq_none]
        intro other member
        have further := below other member
        simp
        omega
      rw [absent, if_pos same.symm, same]
      simp [same, ModbusRequestsQueues.addPollList]
    · rw [if_neg (Ne.symm same), List.find?_cons_of_neg (by simpa using same)]

theorem enqueuePolls_not_displaced (executor : ModbusExecutor)
    (entries : List (Int × List RegisterPoll)) (command : RegisterCommand) :
    .displaced command ∉ (executor.enqueuePolls entries).2 := by
  intro member
  obtain ⟨_, _, _, _, adds⟩ := enqueuePolls_logs executor entries member
  simp [ExecutorEvent.addsPoll] at adds

theorem slaveQueue_of_allDone (done : executor.allDone = true) (slaveId : Int) :
    (executor.slaveQueue slaveId).empty = true := by
  by_cases known : slaveId ∈ executor.slaveQueues.keys
  · have listed := OrderedMap.mem_of_mem_keys {} known
    exact List.all_eq_true.mp (Bool.and_eq_true_iff.mp done).2 _ listed
  · rw [slaveQueue, OrderedMap.getD_of_not_mem_keys {} known]
    rfl

theorem enqueuePolls_delay (done : executor.allDone = true)
    (registers : OrderedMap Int (List RegisterPoll)) (period : Duration)
    (ignoreFirstRead : Bool) (slaveId : Int) :
    (((executor.enqueuePolls registers.entries).1.slaveQueue
        slaveId).findForSilencePeriod period ignoreFirstRead).1 =
      ((({} : ModbusRequestsQueues).addPollList
        (registers.getD slaveId [])).1.findForSilencePeriod period
          ignoreFirstRead).1 := by
  apply ModbusRequestsQueues.findForSilencePeriod_congr
  rw [enqueuePolls_slaveQueue registers.sorted]
  apply ModbusRequestsQueues.addPollList_congr
  have empty := slaveQueue_of_allDone done slaveId
  rw [ModbusRequestsQueues.empty, Bool.and_eq_true_iff] at empty
  exact List.isEmpty_iff.mp empty.1

theorem electionDelay_of_nil (nothing : registers.getD slaveId [] = [])
    (period : Duration) :
    electionDelay registers period slaveId = Duration.max := by
  rw [electionDelay, nothing]
  exact ModbusRequestsQueues.findForSilencePeriod_of_empty rfl _ _

theorem firstAdded_le {first : Int} (found : firstAdded registers = some first)
    (something : registers.getD slaveId [] ≠ []) : first ≤ slaveId := by
  obtain ⟨entry, search, rfl⟩ := Option.map_eq_some_iff.mp found
  obtain ⟨_, before, after, split, noneBefore⟩ :=
    List.find?_eq_some_iff_append.mp search
  have known : slaveId ∈ registers.keys := by
    by_contra unknown
    exact something (OrderedMap.getD_of_not_mem_keys [] unknown)
  have listed := OrderedMap.mem_of_mem_keys [] known
  have sorted := registers.sorted
  rw [split] at listed sorted
  rcases List.mem_append.mp listed with earlier | fromHere
  · have skipped := noneBefore _ earlier
    simp [something] at skipped
  · rcases List.mem_cons.mp fromHere with here | later
    · rw [← here]
    · have ordered := (List.pairwise_append.mp sorted).2.1
      exact ((List.pairwise_cons.mp ordered).1 _ later).le

/-- The slaves the election visits meet the condition of `elect_once`. -/
theorem electsOnce_split (once : ElectsOnce registers period)
    {before after : List Int}
    (sorted : slaves.Pairwise (· < ·))
    (known : ∀ other ∈ registers.keys, other ∈ slaves)
    (split : slaves = before ++ slaveId :: after)
    (noneBefore : ∀ earlier ∈ before,
      Duration.max ≤ electionDelay registers period earlier)
    (finite : electionDelay registers period slaveId < Duration.max) :
    ∀ later ∈ after, electionDelay registers period slaveId ≤
      electionDelay registers period later := by
  intro later member
  have listed (other : Int)
      (shorter : electionDelay registers period other < Duration.max) :
      other ∈ registers.keys := by
    by_contra unlisted
    rw [electionDelay_of_nil (OrderedMap.getD_of_not_mem_keys [] unlisted)]
      at shorter
    exact lt_irrefl _ shorter
  by_cases laterFinite : electionDelay registers period later < Duration.max
  · rw [split] at sorted known
    obtain ⟨_, fromHere, across⟩ := List.pairwise_append.mp sorted
    have further := (List.pairwise_cons.mp fromHere).1
    apply once slaveId (listed slaveId finite) later (listed later laterFinite)
      (further later member) finite
    intro earlier inRegisters below
    apply noneBefore
    rcases List.mem_append.mp (known earlier inRegisters) with before | rest
    · exact before
    · rcases List.mem_cons.mp rest with here | beyond
      · omega
      · have above := further earlier beyond
        omega
  · exact (finite.trans_le (not_lt.mp laterFinite)).le

theorem mem_keys_enqueuePolls {entries : List (Int × List RegisterPoll)}
    (executor : ModbusExecutor)
    (member : slaveId ∈ executor.slaveQueues.keys ∨
      slaveId ∈ entries.map Prod.fst) :
    slaveId ∈ (executor.enqueuePolls entries).1.slaveQueues.keys := by
  induction entries generalizing executor with
  | nil => simpa [enqueuePolls] using member
  | cons entry entries induction =>
    apply induction
    rw [setSlaveQueue, OrderedMap.mem_keys_set]
    rw [List.map_cons, List.mem_cons] at member
    rcases member with old | new | later
    · exact .inl (.inr old)
    · exact .inl (.inl new)
    · exact .inr later

theorem chooseCommand_not_displaced {firstAdded now : Int}
    (delay : Int → Duration)
    (idle : executor.waitingCommand = none)
    (delays : ∀ slaveId, ((executor.slaveQueue slaveId).findForSilencePeriod
        (now - executor.lastCommandTime) (firstAdded = slaveId)).1 =
        delay slaveId)
    (fromFirst : ∀ slaveId, delay slaveId < Duration.max → firstAdded ≤ slaveId)
    (once : ∀ before slaveId after,
      executor.slaveQueues.keys = before ++ slaveId :: after →
      (∀ earlier ∈ before, Duration.max ≤ delay earlier) →
      delay slaveId < Duration.max →
      ∀ later ∈ after, delay slaveId ≤ delay later)
    (chosen : executor.chooseCommand firstAdded now = some (next, events)) :
    events = [] := by
  rw [chooseCommand] at chosen
  split at chosen
  · cases chosen
  · rename_i elected displaced election
    obtain ⟨left, reset⟩ := resetCommandsCounter_eq
      { executor with currentSlaveQueue := some firstAdded } false
    rw [reset] at election
    have nothing : displaced = [] := by
      refine elect_once delay ?_ rfl ?_ ?_ ?_ ?_ election
      · exact idle
      · exact List.pairwise_map.mpr executor.slaveQueues.sorted
      · intro slaveId _
        exact delays slaveId
      · intro slaveId _
        exact fromFirst slaveId
      · exact once
    subst nothing
    split at chosen
    · obtain ⟨popped, _, combined⟩ := Option.map_eq_some_iff.mp chosen
      cases combined
      rfl
    · cases chosen
      rfl

theorem addPollList_not_displaced {initialPoll : Bool} {now : Int}
    (once : executor.allDone = true →
      ElectsOnce registers (now - executor.lastCommandTime))
    (added : executor.addPollList registers initialPoll now =
      some (next, events)) (command : RegisterCommand) :
    .displaced command ∉ events := by
  rw [addPollList] at added
  split at added
  · cases added
    simp
  · dsimp only at added
    let started :=
      { executor with initialPoll := executor.initialPoll || initialPoll }
    have notEnqueuing := started.enqueuePolls_not_displaced registers.entries
      command
    split at added
    · rw [Option.some.inj added] at notEnqueuing
      exact notEnqueuing
    · rename_i slaveId found
      split at added
      · rename_i done
        obtain ⟨⟨last, later⟩, chosen, combined⟩ :=
          Option.map_eq_some_iff.mp added
        cases combined
        obtain ⟨slaveQueues, enqueued⟩ :=
          started.enqueuePolls_eq registers.entries
        have doneStarted : started.allDone = true := done
        have time : (started.enqueuePolls registers.entries).1.lastCommandTime =
            executor.lastCommandTime := by
          rw [enqueued]
        have nothing : later = [] := by
          refine chooseCommand_not_displaced (electionDelay registers
            (now - executor.lastCommandTime)) ?_ ?_ ?_ ?_ chosen
          · rw [enqueued]
            exact Option.isNone_iff_eq_none.mp (Bool.and_eq_true_iff.mp done).1
          · intro other
            rw [time, enqueuePolls_delay doneStarted, electionDelay, found]
            simp
          · intro other finite
            apply firstAdded_le found
            intro nothing
            rw [electionDelay_of_nil nothing] at finite
            exact lt_irrefl _ finite
          · intro before other after split
            apply electsOnce_split (once done) _ _ split
            · exact List.pairwise_map.mpr (OrderedMap.sorted _)
            · intro listed member
              exact mem_keys_enqueuePolls started (.inr member)
        subst nothing
        simpa using notEnqueuing
      · rw [Option.some.inj added] at notEnqueuing
        exact notEnqueuing

/-- Only a call whose election takes more than one poll displaces a
command. -/
theorem step_not_displaced {call : ExecutorCall}
    (single : executor.SingleElection call)
    (stepped : executor.step call = some (next, events))
    (command : RegisterCommand) : .displaced command ∉ events := by
  cases call with
  | setupInitialPoll registers now =>
    exact addPollList_not_displaced single stepped command
  | addPollList registers now =>
    exact addPollList_not_displaced single stepped command
  | addReadCommand reg =>
    have logged : (executor.addReadCommand reg).2 = events :=
      congrArg Prod.snd (Option.some.inj stepped)
    intro member
    rw [← logged] at member
    have adds := addReadCommand_logs member
    simp [ExecutorEvent.addsPoll] at adds
  | addWriteCommand cmd endAnswer =>
    have logged : [.accepted (.write cmd)] = events :=
      congrArg Prod.snd (Option.some.inj stepped)
    simp [← logged]
  | executeNext input =>
    obtain ⟨⟨last, logged, returned⟩, executed, same⟩ :=
      Option.map_eq_some_iff.mp stepped
    cases same
    intro member
    rcases executeNext_events executed with
      nothing | ⟨ready, sent, _, _, _, rfl⟩
    · rw [nothing] at member
      cases member
    · obtain ⟨retriesLeft, messages, logged⟩ :=
        ready.sendCommand_events sent input
      rw [logged] at member
      simp at member

end ModbusExecutor

end MqmGateway
