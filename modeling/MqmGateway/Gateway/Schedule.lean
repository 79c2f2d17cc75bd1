import MqmGateway.Gateway.History
import MqmGateway.Gateway.Routing

/-!
# The polls of a network

A modbus thread receives its poll specification once.  From then on the
scheduled polls are fixed, no register belongs to two of them, and every
command without an id that is pending or was executed is one of them.
-/

namespace MqmGateway

def ModbusRequest.isSpecification : ModbusRequest → Bool
  | .pollSpecification _ => true
  | _ => false

namespace ModbusThread

/-- `bus` is what has happened on the bus so far. -/
structure Schedule (spec : MsgRegisterPollSpecification)
    (thread : ModbusThread) (bus : List ExecutorEvent) : Prop where
  once : thread.toModbus.countP (·.isSpecification) ≤ 1
  awaited : 0 < thread.toModbus.countP (·.isSpecification) →
    thread.registerMap = .empty
  source : thread.registerMap = .empty ∨
    ∃ owner : ModbusThread, thread.registerMap =
      bySlave (owner.specifiedPolls spec)
  pending : ∀ reg, reg.isRpc = false →
    0 < thread.executor.commands.pendingCount (.poll reg) →
    thread.Scheduled reg
  issued : ∀ reg outcome retriesLeft, reg.isRpc = false →
    .issued (.poll reg) outcome retriesLeft ∈ bus → thread.Scheduled reg

theorem not_scheduled_of_empty {thread : ModbusThread}
    (empty : thread.registerMap = .empty) (reg : RegisterPoll) :
    ¬thread.Scheduled reg := by
  intro ⟨entry, listed, _⟩
  rw [empty] at listed
  cases listed

namespace Schedule

variable {spec : MsgRegisterPollSpecification} {thread : ModbusThread}
  {bus : List ExecutorEvent}

theorem enqueue (schedule : Schedule spec thread bus)
    {request : ModbusRequest} (other : request.isSpecification = false) :
    Schedule spec (thread.enqueue request) bus := by
  have same : (thread.enqueue request).toModbus.countP (·.isSpecification) =
      thread.toModbus.countP (·.isSpecification) := by
    simp [ModbusThread.enqueue, other]
  exact ⟨same.trans_le schedule.once, fun waits =>
    schedule.awaited (same ▸ waits), schedule.source, schedule.pending,
    schedule.issued⟩

theorem step (schedule : Schedule spec thread bus)
    {offered : ModbusRequest → Prop} (origins : Origins spec offered thread)
    (reads : ∀ message, offered (.read message) → message.commandId < 0)
    {next : ModbusThread} {input : ThreadInput} {events : List ThreadEvent}
    (threadStep : ThreadStep thread input next events) :
    Schedule spec next (bus ++ events.filterMap (·.executorEvent)) := by
  have kept (reg : RegisterPoll) (scheduled : thread.Scheduled reg) :
      next.Scheduled reg := by
    obtain ⟨entry, listed, member⟩ := scheduled
    rcases threadStep.registerMap with same | ⟨sent, queued, _⟩
    · exact ⟨entry, same ▸ listed, member⟩
    · have empty := schedule.awaited (by
        rw [queued]
        simp [ModbusRequest.isSpecification])
      rw [empty] at listed
      cases listed
  have fewer : next.toModbus.countP (·.isSpecification) ≤
      thread.toModbus.countP (·.isSpecification) := by
    rcases threadStep.toModbus with same | ⟨request, queued⟩
    · rw [same]
    · rw [queued, List.countP_cons]
      omega
  refine ⟨fewer.trans schedule.once, ?_, ?_, ?_, ?_⟩
  · intro waits
    rcases threadStep.registerMap with same | ⟨sent, queued, _⟩
    · exact same.trans (schedule.awaited (waits.trans_le fewer))
    · have once := schedule.once
      rw [queued, List.countP_cons_of_pos rfl] at once
      omega
  · rcases threadStep.registerMap with same | ⟨sent, queued, replaced⟩
    · rw [same]
      exact schedule.source
    · have received : sent = spec := origins.requests
        (.pollSpecification sent) (by rw [queued]; exact List.mem_cons_self)
      exact .inr ⟨thread, received ▸ replaced⟩
  · intro reg scheduled pending
    by_cases before : 0 < thread.executor.commands.pendingCount (.poll reg)
    · exact kept reg (schedule.pending reg scheduled before)
    · have balanced := trace_balance threadStep.trace (.poll reg)
      have logged : .accepted (.poll reg) ∈
          events.filterMap (·.executorEvent) :=
        List.count_pos_iff.mp (by omega)
      rcases threadStep.accepted logged with
        ⟨_, same, polled⟩ | ⟨message, queued, same⟩ | ⟨message, _, same⟩
      · cases same
        exact polled
      · cases same
        have negative := reads message (origins.requests _ queued)
        have own : decide (message.commandId < 0) = false := scheduled
        simp [negative] at own
      · cases same
  · intro reg outcome retriesLeft scheduled logged
    rcases List.mem_append.mp logged with earlier | here
    · exact kept reg (schedule.issued reg outcome retriesLeft scheduled earlier)
    · rcases threadStep.traffic with
        ⟨call, executor, returned, executing, _, executed, rfl, _⟩ | ⟨quiet, _⟩
      · rw [filterMap_executorEvent_bus] at here
        exact kept reg (schedule.pending reg scheduled
          ((ModbusExecutor.executeNext_execution executed).pending here))
      · cases quiet _ here

end Schedule

end ModbusThread

namespace Gateway

variable {libraries : RequestLibraries} {config : Configuration} {now : Int}
  {created : RegisterPoll → Int}
  {allowed : Gateway → List GatewayEvent → GatewayInput → Prop}
  {gateway : Gateway} {history : List GatewayEvent}

theorem start_schedule (config : Configuration) (now : Int)
    (created : RegisterPoll → Int) (name : String) :
    ((start config now created).threads name).Schedule
      (config.specification name) [] := by
  have queue : ((start config now created).threads name).toModbus =
      if config.polls name = [] then []
      else [.pollSpecification (config.specification name)] := rfl
  refine ⟨?_, fun _ => rfl, .inl rfl, ?_, by simp⟩
  · rw [queue]
    split <;> simp [ModbusRequest.isSpecification]
  · intro reg _ pending
    exact absurd pending (ModbusExecutor.pendingCount_create ..).not_gt

theorem run_schedule
    (run : Runs (step libraries) allowed (start config now created) gateway
      history) (name : String) :
    (gateway.threads name).Schedule (config.specification name)
      (busHistory name history) := by
  induction run with
  | start => exact start_schedule config now created name
  | @step gateway next history events _ before _ stepped induction =>
    have change := (step_cases stepped).change name
    generalize next.threads name = thread at change ⊢
    rw [busHistory_append]
    cases change with
    | same _ _ silent =>
      rw [busHistory_eq name events, quiet_of_no_thread silent]
      simpa using induction
    | mqttState isUp => simpa [busHistory] using induction.enqueue rfl
    | @requested message client request requests =>
      have quiet : busHistory name [.requested name request message] =
          [] := rfl
      rw [quiet, List.append_nil]
      apply induction.enqueue
      cases requests with
      | command _ _ _ => rfl
      | @rpc request _ _ =>
        rw [MqttClient.RpcRequest.message]
        split <;> rfl
    | @processed item rest _ =>
      have quiet : busHistory name [.processed name item] = [] := rfl
      rw [quiet, List.append_nil]
      exact ⟨induction.once, induction.awaited, induction.source,
        induction.pending, induction.issued⟩
    | step threadStep =>
      rw [busHistory_thread]
      exact induction.step (run_origins before name)
        (fun _ offered => offered.read_isRpc) threadStep

end Gateway

variable {config : Configuration} {name : String} {reg other : RegisterPoll}
  {ident : MqttObjectRegisterIdent}

/-- Two polls made from one specification that share a register are the
same. -/
theorem ModbusThread.specifiedPolls_unique
    (wellFormed : config.WellFormed) {owner : ModbusThread}
    (listed : reg ∈ owner.specifiedPolls (config.specification name))
    (otherListed : other ∈ owner.specifiedPolls (config.specification name))
    (within : ident.Within reg.header)
    (otherWithin : ident.Within other.header) : reg = other := by
  obtain ⟨⟨poll, address⟩, kept, rfl⟩ := List.mem_map.mp listed
  obtain ⟨⟨otherPoll, otherAddress⟩, otherKept, rfl⟩ :=
    List.mem_map.mp otherListed
  have stored := (List.mem_filter.mp kept).1
  have otherStored := (List.mem_filter.mp otherKept).1
  have member := List.fst_mem_of_mem_zipIdx stored
  have otherMember := List.fst_mem_of_mem_zipIdx otherStored
  have positive := (wellFormed.specification poll member).1
  have otherPositive := (wellFormed.specification otherPoll otherMember).1
  have touches : poll.touches otherPoll = true := by
    obtain ⟨slave, type, first, last⟩ := within
    obtain ⟨otherSlave, otherType, otherFirst, otherLast⟩ := otherWithin
    simp only [RegisterPoll.header, specifiedPoll,
      ModbusAddressRange.firstRegister, ModbusAddressRange.lastRegister] at *
    simp only [MsgRegisterPoll.touches, Bool.and_eq_true, beq_iff_eq,
      ModbusAddressRange.overlaps_eq_true_iff,
      ModbusAddressRange.firstRegister, ModbusAddressRange.lastRegister]
    refine ⟨slave.trans otherSlave.symm, type.trans otherType.symm, ?_, ?_⟩ <;>
      omega
  have same := wellFormed.counted.eq_of_touches member otherMember touches
  subst same
  obtain ⟨above, found⟩ := List.mk_mem_zipIdx_iff_le_and_getElem?_sub.mp stored
  obtain ⟨otherAbove, otherFound⟩ :=
    List.mk_mem_zipIdx_iff_le_and_getElem?_sub.mp otherStored
  have index : address - owner.nextAddress =
      otherAddress - owner.nextAddress :=
    (List.getElem?_inj (List.getElem?_eq_some_iff.mp found).1
      wellFormed.counted.nodup).mp (found.trans otherFound.symm)
  have addresses : address = otherAddress := by omega
  rw [addresses]

theorem ModbusThread.Schedule.unique
    (wellFormed : config.WellFormed) {thread : ModbusThread}
    {bus : List ExecutorEvent}
    (schedule : thread.Schedule (config.specification name) bus)
    (scheduled : thread.Scheduled reg)
    (otherScheduled : thread.Scheduled other)
    (within : ident.Within reg.header)
    (otherWithin : ident.Within other.header) : reg = other := by
  rcases schedule.source with empty | ⟨owner, loaded⟩
  · exact absurd scheduled (not_scheduled_of_empty empty reg)
  · obtain ⟨entry, listed, member⟩ := scheduled
    obtain ⟨otherEntry, otherListed, otherMember⟩ := otherScheduled
    rw [loaded] at listed otherListed
    exact specifiedPolls_unique wellFormed (mem_bySlave listed member).1
      (mem_bySlave otherListed otherMember).1 within otherWithin

end MqmGateway
