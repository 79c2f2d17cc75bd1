import MqmGateway.Gateway.RequestIds

/-!
# Attempts at a request

The command made of a request is executed until it succeeds or its retries are
used up.  A request is handed to one executor once, so its id is pending there
at most once, and not any more after its last attempt.
-/

namespace MqmGateway

def RegisterCommand.hasId (id : Int) (command : RegisterCommand) : Bool :=
  command.header.commandId = id

def ModbusRequest.hasId (id : Int) (request : ModbusRequest) : Bool :=
  request.header.any fun header => header.commandId = id

namespace ModbusThread

/-- What a step accepts under an id that no scheduled poll has, it takes from
the requests. -/
theorem Accepts.countP_hasId {thread next : ModbusThread}
    {commands : List RegisterCommand} (accepts : Accepts thread next commands)
    {id : Int} (unscheduled : ∀ reg, next.Scheduled reg → reg.commandId ≠ id) :
    commands.countP (·.hasId id) + next.toModbus.countP (·.hasId id) ≤
      thread.toModbus.countP (·.hasId id) := by
  cases accepts with
  | scheduled taken polls =>
    have none : commands.countP (·.hasId id) = 0 := by
      apply List.countP_eq_zero.mpr
      intro command listed named
      obtain ⟨reg, rfl, scheduled⟩ := polls command listed
      exact unscheduled reg scheduled (of_decide_eq_true named)
    rcases taken with same | ⟨isUp, queued⟩ | ⟨spec, queued⟩
    · rw [same]
      omega
    all_goals
      rw [queued, List.countP_cons]
      omega
  | @read message _ queued taken =>
    have atMost := taken.countP_le (p := (·.hasId id))
    have same : (RegisterCommand.poll (thread.requestedPoll message)).hasId
        id = (ModbusRequest.read message).hasId id := rfl
    rw [List.countP_singleton, same] at atMost
    rw [queued, List.countP_cons]
    omega
  | @write message queued =>
    have same : (RegisterCommand.write
        (thread.requestedWrite message)).hasId id =
        (ModbusRequest.write message).hasId id := rfl
    rw [queued, List.countP_singleton, List.countP_cons, same]
    omega

end ModbusThread

namespace ModbusExecutor

namespace Execution

variable {executor next : ModbusExecutor} {input : ExecuteInput}
  {events : List ExecutorEvent} {command : RegisterCommand}
  {outcome : CallOutcome} {retriesLeft : Nat}

theorem only_issued (execution : Execution executor input next events)
    (issued : .issued command outcome retriesLeft ∈ events)
    {other : RegisterCommand} {otherOutcome : CallOutcome} {otherLeft : Nat}
    (otherIssued : .issued other otherOutcome otherLeft ∈ events) :
    other = command ∧ otherOutcome = outcome ∧ otherLeft = retriesLeft := by
  cases execution with
  | quiet _ => cases issued
  | read _ _ _ _ | write _ _ =>
    obtain ⟨rfl, rfl, rfl⟩ := eq_of_issued issued
    exact eq_of_issued otherIssued

theorem answers_of_ok (execution : Execution executor input next events)
    {values : List UInt16}
    (issued : .issued command (.ok values) retriesLeft ∈ events) :
    input.answer.fails = false := by
  cases execution with
  | quiet _ => cases issued
  | read _ result _ _ =>
    obtain ⟨_, rfl, _⟩ := eq_of_issued issued
    cases result with
    | reported answers _ _ _ _ => exact answers
    | suppressed answers _ _ _ _ => exact answers
  | @write cmd _ _ _ =>
    obtain ⟨_, written, _⟩ := eq_of_issued issued
    have result := writeRegisters_result cmd input
    generalize writeRegisters cmd input = called at result written
    cases result with
    | written answers => exact answers
    | failed _ => cases written
    | threw => cases written

/-- The last attempt at an RPC request is reported. -/
theorem exists_sent_of_finishes
    (execution : Execution executor input next events)
    (headed : ∀ command, 0 < executor.commands.pendingCount command →
      command.Headed)
    (rpc : command.header.isRpc = true)
    (issued : .issued command outcome retriesLeft ∈ events)
    (finishes : outcome.finishes retriesLeft = true) :
    ∃ item, .sent command item ∈ events := by
  cases execution with
  | quiet _ => cases issued
  | @read reg state _ messages _ _ result readOk _ =>
    obtain ⟨rfl, rfl, rfl⟩ := eq_of_issued issued
    have asked : reg.isRpc = true := rpc
    cases result with
    | @reported _ values _ _ _ _ _ =>
      exact ⟨.registerValues (reg.valuesMessage values), by simp⟩
    | suppressed _ _ unreported _ _ =>
      exact absurd (.inr (.inl (by rw [asked, Bool.or_true]))) unreported
    | failed _ _ _ =>
      have exhausted : retriesLeft = 0 := of_decide_eq_true finishes
      refine ⟨.registerReadFailed (reg.failedMessage state reg.commandId),
        ?_⟩
      rw [finalFailure, if_pos ⟨readOk, exhausted, asked⟩]
      simp
  | @write cmd _ pending _ =>
    obtain ⟨rfl, rfl, rfl⟩ := eq_of_issued issued
    obtain ⟨message, returned, _⟩ := headed _ pending
    have result := writeRegisters_result cmd input
    generalize writeRegisters cmd input = called at result finishes ⊢
    cases result with
    | written _ =>
      rw [returned]
      exact ⟨_, List.mem_cons_of_mem _ List.mem_cons_self⟩
    | failed _ => exact ⟨_, List.mem_cons_of_mem _ List.mem_cons_self⟩
    | threw => cases finishes

theorem failed_of_sent (execution : Execution executor input next events)
    (rpc : command.header.isRpc = true) {item : QueueItem}
    (sent : .sent command item ∈ events)
    (failure : ∀ values, item ≠ .registerValues values) :
    ∃ retriesLeft, .issued command .failed retriesLeft ∈ events ∧
      (command.isPoll = true → retriesLeft = 0) := by
  cases execution.report sent with
  | read _ _ | written _ _ => exact absurd rfl (failure _)
  | @readFailed reg _ retriesLeft _ issued told =>
    have asked : reg.isRpc = true := rpc
    rcases told with ⟨scheduled, _⟩ | ⟨_, exhausted⟩
    · rw [asked] at scheduled
      cases scheduled
    · exact ⟨retriesLeft, issued, fun _ => exhausted⟩
  | @writeFailed cmd retriesLeft _ issued =>
    exact ⟨retriesLeft, issued, by simp [RegisterCommand.isPoll]⟩

end Execution

end ModbusExecutor

namespace Gateway

variable {libraries : RequestLibraries} {config : Configuration} {now : Int}
  {created : RegisterPoll → Int}
  {allowed : Gateway → List GatewayEvent → GatewayInput → Prop}
  {gateway : Gateway} {history : List GatewayEvent}

theorem count_rpcIds_le (config : Configuration)
    (history events : List GatewayEvent) (id : Int) :
    (rpcIds config history).count id ≤
      (rpcIds config (history ++ events)).count id := by
  rw [rpcIds_append, List.count_append]
  omega

/-- Every request with the id has been accepted by the executor, or is in the
queue. -/
theorem run_accepted
    (commandIds : ∀ command ∈ config.commands, 0 < command.commandId)
    (run : Runs (step libraries) allowed (start config now created) gateway
      history) (name : String) {id : Int} (negative : id < 0) :
    ((busHistory name history).filterMap (·.acceptedCommand)).countP
        (·.hasId id) +
      (gateway.threads name).toModbus.countP (·.hasId id) ≤
        (rpcIds config history).count id := by
  induction run with
  | start =>
    have none : (((start config now created).threads name).toModbus.countP
        (·.hasId id)) = 0 := by
      apply List.countP_eq_zero.mpr
      intro request listed named
      have queued : request ∈ if config.polls name = [] then []
          else [.pollSpecification (config.specification name)] := listed
      split at queued
      · cases queued
      · cases List.mem_singleton.mp queued
        cases named
    rw [none]
    exact Nat.zero_le _
  | @step gateway next history events _ before permitted stepped induction =>
    have grows := count_rpcIds_le config history events id
    have whole := Runs.step before permitted stepped
    have unscheduled : ∀ reg, (next.threads name).Scheduled reg →
        reg.commandId ≠ id := by
      intro reg scheduled
      obtain ⟨owner, poll, _, address, rfl⟩ :=
        (run_asked whole name).scheduled reg scheduled
      exact negative.ne'
    have change := (step_cases stepped).change name
    generalize next.threads name = thread at change unscheduled ⊢
    rw [busHistory_append, List.filterMap_append, List.countP_append]
    cases change with
    | same _ _ silent =>
      rw [busHistory_eq name events, quiet_of_no_thread silent]
      exact Nat.le_trans induction grows
    | mqttState isUp =>
      rw [ModbusThread.enqueue, List.countP_append]
      exact Nat.le_trans induction grows
    | @requested message client request requests =>
      rw [ModbusThread.enqueue, List.countP_append, List.countP_singleton]
      have nothing : ((busHistory name
          [.requested name request message]).filterMap
            (·.acceptedCommand)).countP (·.hasId id) = 0 := rfl
      split
      · rename_i named
        obtain ⟨header, known, same⟩ := (Option.any_eq_true _ _).mp named
        have same : header.commandId = id := of_decide_eq_true same
        have rpcId := run_rpcId commandIds whole (List.mem_append_right _
          List.mem_cons_self) known (decide_eq_true (same ▸ negative))
        have new : rpcIds config [.requested name request message] =
            [id] :=
          same ▸ List.filterMap_cons_some rpcId
        rw [rpcIds_append, List.count_append, new,
          List.count_singleton_self]
        omega
      · omega
    | processed _ => exact Nat.le_trans induction grows
    | step threadStep =>
      rw [busHistory_thread]
      have taken := threadStep.accepts.countP_hasId unscheduled
      omega

variable {command : RegisterCommand} {outcome : CallOutcome}
  {retriesLeft : Nat} {name : String}

theorem run_attempts
    (commandIds : ∀ command ∈ config.commands, 0 < command.commandId)
    (run : Runs (step libraries) allowed (start config now created) gateway
      history) (distinct : (rpcIds config history).Nodup) (name : String)
    {other : RegisterCommand} (rpc : command.header.isRpc = true)
    (pending : 0 < (gateway.threads name).executor.commands.pendingCount
      command)
    (same : other.header.commandId = command.header.commandId)
    (issued : .issued other outcome retriesLeft ∈ busHistory name history) :
    outcome.finishes retriesLeft = false := by
  by_contra finishes
  have balanced := (ModbusExecutor.accepted_perm (run_moves run name)).countP_eq
    (·.hasId command.header.commandId)
  rw [List.countP_append, List.countP_append] at balanced
  have accepted := run_accepted commandIds run name (of_decide_eq_true rpc)
  have once := List.nodup_iff_count_le_one.mp distinct command.header.commandId
  have held : 0 < (gateway.threads name).executor.pendingCommands.countP
      (·.hasId command.header.commandId) := by
    rw [← ModbusExecutor.count_pendingCommands] at pending
    exact List.countP_pos_iff.mpr
      ⟨command, List.count_pos_iff.mp pending, decide_eq_true rfl⟩
  have ended : 0 < ((busHistory name history).filterMap
      (·.completedCommand)).countP (·.hasId command.header.commandId) := by
    refine List.countP_pos_iff.mpr ⟨other, ?_, decide_eq_true same⟩
    refine List.mem_filterMap.mpr ⟨_, issued, ?_⟩
    exact if_pos (by simpa using finishes)
  omega

theorem run_reported
    (run : Runs (step libraries) allowed (start config now created) gateway
      history)
    (rpc : command.header.isRpc = true)
    (issued : .issued command outcome retriesLeft ∈ busHistory name history)
    (finishes : outcome.finishes retriesLeft = true) :
    ∃ item, .sent command item ∈ busHistory name history := by
  obtain ⟨before, earlier, later, call, executor, logged, returned, reached,
    rfl, executed, here, kept⟩ := run_traffic run issued rfl
  obtain ⟨item, sent⟩ :=
    (ModbusExecutor.executeNext_execution executed).exists_sent_of_finishes
      (fun command pending =>
        ((run_origins reached name).commands command pending).headed) rpc here
      finishes
  exact ⟨item, kept _ sent⟩

theorem run_failure
    (run : Runs (step libraries) allowed (start config now created) gateway
      history) {item : QueueItem}
    (rpc : command.header.isRpc = true)
    (sent : .sent command item ∈ busHistory name history)
    (failure : ∀ values, item ≠ .registerValues values) :
    ∃ retriesLeft,
      .issued command .failed retriesLeft ∈ busHistory name history ∧
      (command.isPoll = true → retriesLeft = 0) := by
  obtain ⟨before, earlier, later, call, executor, logged, returned, reached,
    rfl, executed, here, kept⟩ := run_traffic run sent rfl
  obtain ⟨retriesLeft, issued, final⟩ :=
    (ModbusExecutor.executeNext_execution executed).failed_of_sent rpc here
      failure
  exact ⟨retriesLeft, kept _ issued, final⟩

end Gateway

end MqmGateway
