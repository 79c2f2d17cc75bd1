import MqmGateway.Executor.Execution
import MqmGateway.ModbusThread

/-!
# What a step of a modbus thread does

Every step of the loop is one of a few: it announces the state of the network,
takes a message that only sets a flag, or makes one call of the executor.
-/

namespace MqmGateway

namespace ThreadEvent

/-- The message that the event puts into the queue to the main thread. -/
def item (networkName : String) : ThreadEvent → Option QueueItem
  | .bus event => event.sentItem
  | .networkState isUp => some (.modbusNetworkState networkName isUp)

def executorEvent : ThreadEvent → Option ExecutorEvent
  | .bus event => some event
  | .networkState _ => none

@[simp] theorem executorEvent_bus (event : ExecutorEvent) :
    (ThreadEvent.bus event).executorEvent = some event := rfl

@[simp] theorem executorEvent_networkState (isUp : Bool) :
    (ThreadEvent.networkState isUp).executorEvent = none := rfl

@[simp] theorem item_networkState (networkName : String) (isUp : Bool) :
    (ThreadEvent.networkState isUp).item networkName =
      some (.modbusNetworkState networkName isUp) := rfl

end ThreadEvent

namespace ModbusThread

/-- What follows an `executeNext` in the same round of the loop: polls can be
deferred, and an exception ends the thread. -/
structure AfterExecution (executed next : ModbusThread)
    (returned : Except ModbusException Duration) : Prop where
  same : ∃ isRunning polls, next =
    { executed with
      isRunning
      executor := { executed.executor with polls } }
  lastValues : ∀ reg, (next.executor.polls reg).lastValues =
    (executed.executor.polls reg).lastValues
  readErrors : ∀ reg, (next.executor.polls reg).readErrors =
    (executed.executor.polls reg).readErrors
  lastReadOk : ∀ reg, (next.executor.polls reg).lastReadOk =
    (executed.executor.polls reg).lastReadOk
  running : ∀ delay, returned = .ok delay → next.isRunning = executed.isRunning
  ended : ∀ exception, returned = .error exception → next.isRunning = false

inductive ThreadStep (thread : ModbusThread) :
    ThreadInput → ModbusThread → List ThreadEvent → Prop where
  | announce {input : ThreadInput} (connected isUp : Bool) :
      ThreadStep thread input
        ({ thread with modbusConnected := connected }.sendNetworkState isUp)
        [.networkState isUp]
  | connect {now : Int} {executor : ModbusExecutor}
      {events : List ExecutorEvent} :
      thread.executor.initialPoll = false →
      thread.executor.step (.setupInitialPoll thread.registerMap now) =
        some (executor, events) →
      ThreadStep thread (.connect now)
        (({ thread with modbusConnected := true }.sendNetworkState true).afterCall
          executor events)
        (.networkState true :: events.map .bus)
  | poll {now added : Int} {executor : ModbusExecutor}
      {events : List ExecutorEvent} :
      thread.executor.step (.addPollList (ModbusScheduler.getRegistersToPoll
        thread.registerMap thread.executor.polls now) added) =
          some (executor, events) →
      ThreadStep thread (.poll now added) (thread.afterCall executor events)
        (events.map .bus)
  | execute {input : ExecuteInput} {next : ModbusThread}
      {executor : ModbusExecutor} {events : List ExecutorEvent}
      {returned : Except ModbusException Duration} :
      thread.executor.executeNext input = some (executor, events, returned) →
      AfterExecution (thread.afterCall executor events) next returned →
      ThreadStep thread (.execute input) next (events.map .bus)
  | write {endAnswer : Bool} {now : Int} {message : MsgRegisterValues}
      {requests : List ModbusRequest} {executor : ModbusExecutor}
      {events : List ExecutorEvent} :
      thread.toModbus = .write message :: requests →
      thread.executor.step (.addWriteCommand (thread.requestedWrite message)
        endAnswer) = some (executor, events) →
      ThreadStep thread (.dispatch endAnswer now)
        ({ thread with
          toModbus := requests
          nextAddress := thread.nextAddress + 1 }.afterCall executor events)
        (events.map .bus)
  | read {endAnswer : Bool} {now : Int} {message : ModbusMessageBase}
      {requests : List ModbusRequest} {executor : ModbusExecutor}
      {events : List ExecutorEvent} :
      thread.toModbus = .read message :: requests →
      thread.executor.step (.addReadCommand (thread.requestedPoll message)) =
        some (executor, events) →
      ThreadStep thread (.dispatch endAnswer now)
        ({ thread with
          toModbus := requests
          nextAddress := thread.nextAddress + 1 }.afterCall executor events)
        (events.map .bus)
  | mqttState {endAnswer : Bool} {now : Int} {isUp : Bool}
      {requests : List ModbusRequest} :
      thread.toModbus = .mqttNetworkState isUp :: requests →
      ThreadStep thread (.dispatch endAnswer now)
        { thread with toModbus := requests, mqttConnected := isUp } []
  | specification {endAnswer : Bool} {now : Int}
      {spec : MsgRegisterPollSpecification} {requests : List ModbusRequest}
      {executor : ModbusExecutor} {events : List ExecutorEvent} :
      thread.toModbus = .pollSpecification spec :: requests →
      thread.executor.step (.setupInitialPoll
        (bySlave (thread.specifiedPolls spec)) now) =
          some (executor, events) →
      ThreadStep thread (.dispatch endAnswer now)
        ({ thread with
          toModbus := requests
          registerMap := bySlave (thread.specifiedPolls spec)
          nextAddress :=
            thread.nextAddress + spec.registers.length }.afterCall
              executor events)
        (events.map .bus)

theorem notifyRpcRead_fields (registerMap : OrderedMap Int (List RegisterPoll))
    (completed : RegisterPoll) (polls : RegisterPoll → RegisterPollState)
    (reg : RegisterPoll) :
    (ModbusScheduler.notifyRpcRead registerMap completed polls reg).lastValues =
        (polls reg).lastValues ∧
      (ModbusScheduler.notifyRpcRead registerMap completed polls
        reg).readErrors = (polls reg).readErrors ∧
      (ModbusScheduler.notifyRpcRead registerMap completed polls
        reg).lastReadOk = (polls reg).lastReadOk := by
  rw [ModbusScheduler.notifyRpcRead]
  split <;> exact ⟨rfl, rfl, rfl⟩

theorem inspectCommand_after (executed : ModbusThread) (delay : Duration) :
    AfterExecution executed executed.inspectCommand (.ok delay) := by
  rw [inspectCommand]
  split
  · rename_i reg _
    split
    · have fields := notifyRpcRead_fields executed.registerMap reg
        executed.executor.polls
      exact ⟨⟨_, _, rfl⟩, fun other => (fields other).1,
        fun other => (fields other).2.1, fun other => (fields other).2.2,
        fun _ _ => rfl, by simp⟩
    · exact ⟨⟨_, _, rfl⟩, fun _ => rfl, fun _ => rfl, fun _ => rfl,
        fun _ _ => rfl, by simp⟩
  · exact ⟨⟨_, _, rfl⟩, fun _ => rfl, fun _ => rfl, fun _ => rfl,
      fun _ _ => rfl, by simp⟩

variable {thread next : ModbusThread} {events : List ThreadEvent} {now : Int}
  {input : ThreadInput} {reg : RegisterPoll}

theorem call_eq_some {executorCall : ExecutorCall}
    (called : thread.call executorCall = some (next, events)) :
    ∃ executor logged,
      thread.executor.step executorCall = some (executor, logged) ∧
      next = thread.afterCall executor logged ∧ events = logged.map .bus := by
  obtain ⟨⟨executor, logged⟩, stepped, same⟩ := Option.map_eq_some_iff.mp called
  cases same
  exact ⟨executor, logged, stepped, rfl, rfl⟩

theorem connect_cases (connected : thread.connect now = some (next, events)) :
    ThreadStep thread (.connect now) next events := by
  rw [connect] at connected
  split at connected
  · cases connected
    exact .announce true true
  · obtain ⟨⟨called, logged⟩, calling, same⟩ :=
      Option.map_eq_some_iff.mp connected
    cases same
    obtain ⟨executor, events, stepped, rfl, rfl⟩ := call_eq_some calling
    rename_i finished
    exact .connect (by simpa using finished) stepped

theorem execute_eq_some {input : ExecuteInput}
    (executed : thread.execute input = some (next, events)) :
    ∃ executor logged returned,
      thread.executor.executeNext input = some (executor, logged, returned) ∧
      events = logged.map .bus ∧
      AfterExecution (thread.afterCall executor logged) next returned := by
  obtain ⟨⟨executor, logged, returned⟩, executing, same⟩ :=
    Option.map_eq_some_iff.mp executed
  cases same
  refine ⟨executor, logged, returned, executing, rfl, ?_⟩
  cases returned with
  | error exception =>
    exact ⟨⟨_, _, rfl⟩, fun _ => rfl, fun _ => rfl, fun _ => rfl, by simp,
      fun _ _ => rfl⟩
  | ok delay =>
    dsimp only
    split
    · exact inspectCommand_after _ _
    · exact ⟨⟨_, _, rfl⟩, fun _ => rfl, fun _ => rfl, fun _ => rfl,
        fun _ _ => rfl, by simp⟩

theorem execute_cases {input : ExecuteInput}
    (executed : thread.execute input = some (next, events)) :
    ThreadStep thread (.execute input) next events := by
  obtain ⟨executor, logged, returned, executing, rfl, after⟩ :=
    execute_eq_some executed
  exact .execute executing after

theorem dispatch_cases {request : ModbusRequest}
    {requests : List ModbusRequest} {endAnswer : Bool}
    (queued : thread.toModbus = request :: requests)
    (handled : { thread with toModbus := requests }.handle request endAnswer
      now = some (next, events)) :
    ThreadStep thread (.dispatch endAnswer now) next events := by
  cases request with
  | write message =>
    obtain ⟨executor, logged, stepped, rfl, rfl⟩ := call_eq_some handled
    exact .write queued stepped
  | read message =>
    obtain ⟨executor, logged, stepped, rfl, rfl⟩ := call_eq_some handled
    exact .read queued stepped
  | mqttNetworkState isUp =>
    cases handled
    exact .mqttState queued
  | pollSpecification spec =>
    obtain ⟨executor, logged, stepped, rfl, rfl⟩ := call_eq_some handled
    exact .specification queued stepped

theorem step_cases (stepped : thread.step input = some (next, events)) :
    ThreadStep thread input next events := by
  unfold step at stepped
  split at stepped
  · cases input with
    | connect now =>
      dsimp only at stepped
      split at stepped
      · cases stepped
      · exact connect_cases stepped
    | connectFails =>
      dsimp only at stepped
      split at stepped
      · cases stepped
      · cases stepped
        exact .announce thread.modbusConnected false
    | disconnect =>
      dsimp only at stepped
      split at stepped
      · cases stepped
        exact .announce false false
      · cases stepped
    | poll now added =>
      dsimp only at stepped
      split at stepped
      · obtain ⟨executor, logged, called, rfl, rfl⟩ := call_eq_some stepped
        exact .poll called
      · cases stepped
    | execute input =>
      dsimp only at stepped
      split at stepped
      · exact execute_cases stepped
      · cases stepped
    | dispatch endAnswer now =>
      dsimp only at stepped
      split at stepped
      · cases stepped
      · rename_i queued
        exact dispatch_cases queued stepped
  · cases stepped

theorem filterMap_item_bus (networkName : String)
    (events : List ExecutorEvent) :
    (events.map ThreadEvent.bus).filterMap (ThreadEvent.item networkName) =
      events.filterMap (·.sentItem) := by
  rw [List.filterMap_map]
  rfl

theorem filterMap_executorEvent_bus (events : List ExecutorEvent) :
    (events.map ThreadEvent.bus).filterMap (·.executorEvent) = events := by
  rw [List.filterMap_map]
  exact List.filterMap_some

namespace ThreadStep

variable {thread next : ModbusThread} {input : ThreadInput}
  {events : List ThreadEvent}

section

variable (step : ThreadStep thread input next events)

include step

theorem networkName :
    next.networkName = thread.networkName := by
  cases step with
  | execute _ after =>
    obtain ⟨_, _, rfl⟩ := after.same
    rfl
  | _ => rfl

theorem fromModbus :
    next.fromModbus = thread.fromModbus ++
      events.filterMap (ThreadEvent.item thread.networkName) := by
  cases step with
  | announce connected isUp => rfl
  | connect _ stepped =>
    rw [List.filterMap_cons, filterMap_item_bus]
    exact (List.append_assoc ..).trans rfl
  | execute _ after =>
    obtain ⟨_, _, rfl⟩ := after.same
    rw [filterMap_item_bus]
    rfl
  | mqttState queued => exact (List.append_nil _).symm
  | poll stepped | write _ stepped | read _ stepped | specification _ stepped =>
    rw [filterMap_item_bus]
    rfl

theorem trace :
    Trace Move thread.executor.commands
      (events.filterMap (·.executorEvent)) next.executor.commands := by
  cases step with
  | announce connected isUp => exact .refl
  | connect _ stepped =>
    rw [List.filterMap_cons, filterMap_executorEvent_bus]
    exact ModbusExecutor.step_trace stepped
  | execute executed after =>
    obtain ⟨_, _, rfl⟩ := after.same
    rw [filterMap_executorEvent_bus]
    have executing := ModbusExecutor.executeNext_trace executed
    exact executing
  | mqttState queued => exact .refl
  | poll stepped | write _ stepped | read _ stepped | specification _ stepped =>
    rw [filterMap_executorEvent_bus]
    exact ModbusExecutor.step_trace stepped

theorem toModbus :
    next.toModbus = thread.toModbus ∨
      ∃ request, thread.toModbus = request :: next.toModbus := by
  cases step with
  | execute _ after =>
    obtain ⟨_, _, rfl⟩ := after.same
    exact .inl rfl
  | write queued _ => exact .inr ⟨_, queued⟩
  | read queued _ => exact .inr ⟨_, queued⟩
  | mqttState queued => exact .inr ⟨_, queued⟩
  | specification queued _ => exact .inr ⟨_, queued⟩
  | _ => exact .inl rfl

theorem registerMap :
    next.registerMap = thread.registerMap ∨
      ∃ spec, thread.toModbus = .pollSpecification spec :: next.toModbus ∧
        next.registerMap = bySlave (thread.specifiedPolls spec) := by
  cases step with
  | execute _ after =>
    obtain ⟨_, _, rfl⟩ := after.same
    exact .inl rfl
  | @specification endAnswer now spec requests executor logged queued _ =>
    exact .inr ⟨spec, queued, rfl⟩
  | _ => exact .inl rfl

/-- Registers are read and written, and messages sent, by `executeNext` only. -/
theorem traffic :
    (∃ call executor returned logged, input = .execute call ∧
      thread.executor.executeNext call = some (executor, logged, returned) ∧
      events = logged.map .bus ∧
      AfterExecution (thread.afterCall executor logged) next returned) ∨
    (∀ event ∈ events.filterMap (·.executorEvent), event.isTraffic = false) ∧
      next.executor.polls = thread.executor.polls ∧
      next.isRunning = thread.isRunning := by
  have quiet {call : ExecutorCall} {executor : ModbusExecutor}
      {logged : List ExecutorEvent}
      (stepped : thread.executor.step call = some (executor, logged))
      (waits : ∀ executing, call ≠ .executeNext executing) :
      (∀ event ∈ logged, event.isTraffic = false) ∧
        executor.polls = thread.executor.polls := by
    rcases ModbusExecutor.step_execution stepped with
      ⟨executing, same, _⟩ | ⟨polls, silent⟩
    · exact absurd same (waits executing)
    · exact ⟨silent, polls⟩
  cases step with
  | announce connected isUp => exact .inr ⟨by simp, rfl, rfl⟩
  | connect _ stepped =>
    obtain ⟨silent, polls⟩ := quiet stepped (by simp)
    rw [List.filterMap_cons, filterMap_executorEvent_bus]
    exact .inr ⟨silent, polls, rfl⟩
  | execute executed after =>
    exact .inl ⟨_, _, _, _, rfl, executed, rfl, after⟩
  | mqttState queued => exact .inr ⟨by simp, rfl, rfl⟩
  | poll stepped | write _ stepped | read _ stepped | specification _ stepped =>
    obtain ⟨silent, polls⟩ := quiet stepped (by simp)
    rw [filterMap_executorEvent_bus]
    exact .inr ⟨silent, polls, rfl⟩

end

end ThreadStep

def Scheduled (thread : ModbusThread) (reg : RegisterPoll) : Prop :=
  ∃ entry ∈ thread.registerMap.entries, reg ∈ entry.2

theorem mem_getRegistersToPoll
    {registerMap : OrderedMap Int (List RegisterPoll)}
    {polls : RegisterPoll → RegisterPollState}
    {due : Int × List RegisterPoll}
    (listed : due ∈ (ModbusScheduler.getRegistersToPoll registerMap polls
      now).entries) (member : reg ∈ due.2) :
    ∃ registers, (due.1, registers) ∈ registerMap.entries ∧
      reg ∈ registers := by
  obtain ⟨entry, stored, rfl⟩ :=
    List.mem_map.mp (List.mem_filter.mp listed).1
  exact ⟨entry.2, stored, (List.mem_filter.mp member).1⟩

theorem getD_bySlave (polls : List RegisterPoll) (slaveId : Int) :
    (bySlave polls).getD slaveId [] =
      polls.filter fun reg => reg.slaveId = slaveId := by
  induction polls using List.reverseRec with
  | nil => rfl
  | append_singleton polls last induction =>
    rw [bySlave, List.foldl_append, List.foldl_cons, List.foldl_nil,
      OrderedMap.getD_set, List.filter_append, ← induction]
    by_cases same : slaveId = last.slaveId
    · subst same
      rw [if_pos rfl, List.filter_cons_of_pos (by simp)]
      rfl
    · rw [if_neg same, List.filter_cons_of_neg (by simpa using Ne.symm same),
        List.filter_nil, List.append_nil]
      rfl

theorem mem_bySlave {polls : List RegisterPoll}
    {entry : Int × List RegisterPoll}
    (listed : entry ∈ (bySlave polls).entries) (member : reg ∈ entry.2) :
    reg ∈ polls ∧ reg.slaveId = entry.1 := by
  rw [← OrderedMap.getD_of_mem listed [], getD_bySlave] at member
  simpa using member

theorem specifiedPolls_origin {spec : MsgRegisterPollSpecification}
    (listed : reg ∈ thread.specifiedPolls spec) :
    ∃ poll ∈ spec.registers, ∃ address,
      reg = thread.specifiedPoll poll address := by
  obtain ⟨⟨poll, address⟩, kept, rfl⟩ := List.mem_map.mp listed
  exact ⟨poll, List.fst_mem_of_mem_zipIdx (List.mem_filter.mp kept).1,
    address, rfl⟩

/-- The commands that a step accepts: scheduled polls, or the one that a
request asks for. -/
inductive Accepts (thread next : ModbusThread) : List RegisterCommand → Prop where
  | scheduled {commands : List RegisterCommand} :
      (next.toModbus = thread.toModbus ∨
        (∃ isUp, thread.toModbus = .mqttNetworkState isUp :: next.toModbus) ∨
        ∃ spec, thread.toModbus = .pollSpecification spec :: next.toModbus) →
      (∀ command ∈ commands, ∃ reg, command = .poll reg ∧ next.Scheduled reg) →
      Accepts thread next commands
  | read {message : ModbusMessageBase} {commands : List RegisterCommand} :
      thread.toModbus = .read message :: next.toModbus →
      commands.Sublist [.poll (thread.requestedPoll message)] →
      Accepts thread next commands
  | write {message : MsgRegisterValues} :
      thread.toModbus = .write message :: next.toModbus →
      Accepts thread next [.write (thread.requestedWrite message)]

theorem ThreadStep.accepts (step : ThreadStep thread input next events) :
    Accepts thread next ((events.filterMap (·.executorEvent)).filterMap
      (·.acceptedCommand)) := by
  have polled {registers : OrderedMap Int (List RegisterPoll)}
      {initialPoll : Bool} {now : Int} {executor : ModbusExecutor}
      {added : List ExecutorEvent}
      (adding : thread.executor.addPollList registers initialPoll now =
        some (executor, added)) {command : RegisterCommand}
      (accepting : command ∈ added.filterMap (·.acceptedCommand)) :
      ∃ reg, command = .poll reg ∧
        ∃ entry ∈ registers.entries, reg ∈ entry.2 := by
    obtain ⟨event, listed, accepted⟩ := List.mem_filterMap.mp accepting
    cases event with
    | accepted taken =>
      cases accepted
      rcases ModbusExecutor.addPollList_logs adding listed with
        ⟨entry, known, reg, member, adds⟩ | ⟨_, displaced⟩
      · rcases adds with same | same
        · cases same
          exact ⟨reg, rfl, entry, known, member⟩
        · cases same
      · cases displaced
    | _ => cases accepted
  cases step with
  | announce connected isUp => exact .scheduled (.inl rfl) (by simp)
  | connect _ stepped =>
    rw [List.filterMap_cons, filterMap_executorEvent_bus]
    exact .scheduled (.inl rfl) fun command listed => polled stepped listed
  | poll stepped =>
    rw [filterMap_executorEvent_bus]
    refine .scheduled (.inl rfl) fun command listed => ?_
    obtain ⟨reg, same, due, known, member⟩ := polled stepped listed
    obtain ⟨registers, stored, known⟩ := mem_getRegistersToPoll known member
    exact ⟨reg, same, (due.1, registers), stored, known⟩
  | execute executed after =>
    obtain ⟨_, _, same⟩ := after.same
    rw [filterMap_executorEvent_bus]
    refine .scheduled (.inl (by rw [same]; rfl)) fun command listed => ?_
    obtain ⟨event, logged, accepted⟩ := List.mem_filterMap.mp listed
    have same : event = .accepted command := by
      cases event <;> cases accepted
      rfl
    rw [same] at logged
    exact absurd logged
      ((ModbusExecutor.executeNext_execution executed).not_accepted command)
  | @write endAnswer now message requests executor added queued stepped =>
    rw [filterMap_executorEvent_bus]
    cases stepped
    exact .write queued
  | @read endAnswer now message requests executor added queued stepped =>
    rw [filterMap_executorEvent_bus]
    have adding := Option.some.inj stepped
    refine .read queued ?_
    have accepts := thread.executor.addReadCommand_accepts
      (thread.requestedPoll message)
    rw [adding] at accepts
    exact accepts
  | @mqttState endAnswer now isUp requests queued =>
    exact .scheduled (.inr (.inl ⟨isUp, queued⟩)) (by simp)
  | @specification endAnswer now spec requests executor added queued stepped =>
    rw [filterMap_executorEvent_bus]
    exact .scheduled (.inr (.inr ⟨spec, queued⟩))
      fun command listed => polled stepped listed

theorem ThreadStep.accepted (step : ThreadStep thread input next events)
    {command : RegisterCommand}
    (logged : .accepted command ∈ events.filterMap (·.executorEvent)) :
    (∃ reg, command = .poll reg ∧ next.Scheduled reg) ∨
    (∃ message, .read message ∈ thread.toModbus ∧
      command = .poll (thread.requestedPoll message)) ∨
    ∃ message, .write message ∈ thread.toModbus ∧
      command = .write (thread.requestedWrite message) := by
  have listed : command ∈ (events.filterMap (·.executorEvent)).filterMap
      (·.acceptedCommand) :=
    List.mem_filterMap.mpr ⟨_, logged, rfl⟩
  have accepts := step.accepts
  generalize (events.filterMap (·.executorEvent)).filterMap
    (·.acceptedCommand) = commands at accepts listed
  cases accepts with
  | scheduled _ polls => exact .inl (polls command listed)
  | @read message _ queued taken =>
    have same := List.mem_singleton.mp (taken.subset listed)
    exact .inr (.inl ⟨message, queued ▸ List.mem_cons_self, same⟩)
  | @write message queued =>
    exact .inr (.inr ⟨message, queued ▸ List.mem_cons_self,
      List.mem_singleton.mp listed⟩)

end ModbusThread

end MqmGateway
