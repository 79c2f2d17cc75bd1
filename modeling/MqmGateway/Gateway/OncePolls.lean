import MqmGateway.Executor.Duplicates
import MqmGateway.Gateway.Availability

/-!
# Polls that are read once

The scheduler leaves out a poll with `publish_mode: once` that has been read.
A new connection offers all polls to the executor without looking at that, and
a poll that waits for its silence is offered again by the scheduler.  Without
such offers a poll is not read again after a successful read.
-/

namespace MqmGateway

namespace ExecutorEvent

def attempts (reg : RegisterPoll) : ExecutorEvent → Bool
  | .issued command _ _ => command = .poll reg
  | _ => false

def reads (reg : RegisterPoll) : ExecutorEvent → Bool
  | .issued command outcome _ => command = .poll reg && outcome.isOk
  | _ => false

theorem attempts_iff {reg : RegisterPoll} {event : ExecutorEvent} :
    event.attempts reg = true ↔
      ∃ outcome retriesLeft, event = .issued (.poll reg) outcome
        retriesLeft := by
  cases event <;> simp [attempts]

theorem reads_iff {reg : RegisterPoll} {event : ExecutorEvent} :
    event.reads reg = true ↔
      ∃ values retriesLeft, event = .issued (.poll reg) (.ok values)
        retriesLeft := by
  cases event with
  | issued command outcome retriesLeft =>
    cases outcome <;> simp [reads, CallOutcome.isOk]
  | _ => simp [reads]

end ExecutorEvent

/-- After a successful read the poll is not read again. -/
def ReadOnce (reg : RegisterPoll) (bus : List ExecutorEvent) : Prop :=
  bus.Pairwise fun earlier later =>
    earlier.reads reg = true → later.attempts reg = false

instance (reg : RegisterPoll) (bus : List ExecutorEvent) :
    Decidable (ReadOnce reg bus) :=
  inferInstanceAs (Decidable (bus.Pairwise _))

namespace ModbusExecutor

namespace Execution

variable {executor next : ModbusExecutor} {input : ExecuteInput}
  {events : List ExecutorEvent} {reg : RegisterPoll}

theorem readOnce (execution : Execution executor input next events) :
    ReadOnce reg events := by
  have single (command : RegisterCommand) (outcome : CallOutcome)
      (retriesLeft : Nat) (messages : List QueueItem) :
      ReadOnce reg (.issued command outcome retriesLeft ::
        messages.map (ExecutorEvent.sent command)) := by
    refine List.pairwise_cons.mpr ⟨?_, List.pairwise_map.mpr ?_⟩
    · intro later listed _
      obtain ⟨message, _, rfl⟩ := List.mem_map.mp listed
      rfl
    · exact List.pairwise_of_forall fun _ _ _ => rfl
  cases execution with
  | quiet _ => exact .nil
  | read _ _ _ _ => exact single _ _ _ _
  | write _ _ => exact single _ _ _ _

theorem polls_of_not_attempted
    (execution : Execution executor input next events)
    (others : ∀ event ∈ events, event.attempts reg = false) :
    next.polls reg = executor.polls reg := by
  cases execution with
  | quiet polls => rw [polls]
  | write _ polls => rw [polls]
  | @read executed _ _ _ _ _ _ _ polls =>
    have other : reg ≠ executed := by
      intro same
      have attempted := others _ List.mem_cons_self
      simp [ExecutorEvent.attempts, same] at attempted
    rw [polls, Function.update_of_ne other]

theorem lastReadOk_of_read (execution : Execution executor input next events)
    {event : ExecutorEvent} (listed : event ∈ events)
    (read : event.reads reg = true) : (next.polls reg).lastReadOk = true := by
  obtain ⟨values, retriesLeft, rfl⟩ := ExecutorEvent.reads_iff.mp read
  exact execution.lastReadOk listed

end Execution

end ModbusExecutor

namespace ModbusThread

/-- The once polls of the offer are at most in the queue that they are offered
to. -/
def OffersQueued (thread : ModbusThread)
    (registers : OrderedMap Int (List RegisterPoll)) : Prop :=
  ∀ entry ∈ registers.entries, ∀ reg ∈ entry.2, reg.publishMode = .once →
    thread.executor.commands.OnlyIn entry.1 reg

def OffersUnread (thread : ModbusThread)
    (registers : OrderedMap Int (List RegisterPoll)) : Prop :=
  ∀ entry ∈ registers.entries, ∀ reg ∈ entry.2, reg.publishMode = .once →
    (thread.executor.polls reg).lastReadOk = false

instance (thread : ModbusThread)
    (registers : OrderedMap Int (List RegisterPoll)) :
    Decidable (thread.OffersQueued registers) :=
  inferInstanceAs (Decidable (∀ entry ∈ registers.entries, _))

instance (thread : ModbusThread)
    (registers : OrderedMap Int (List RegisterPoll)) :
    Decidable (thread.OffersUnread registers) :=
  inferInstanceAs (Decidable (∀ entry ∈ registers.entries, _))

theorem offersUnread_getRegistersToPoll (thread : ModbusThread) (now : Int) :
    thread.OffersUnread (ModbusScheduler.getRegistersToPoll
      thread.registerMap thread.executor.polls now) := by
  intro entry listed reg member once
  obtain ⟨_, _, rfl⟩ := List.mem_map.mp (List.mem_filter.mp listed).1
  have due := (List.mem_filter.mp member).2
  simpa [once] using (Bool.and_eq_true_iff.mp due).1

/-- The offers of a new connection and of the scheduler. -/
def OnceOffered (thread : ModbusThread) : ThreadInput → Prop
  | .connect _ => thread.executor.initialPoll = false →
      thread.OffersUnread thread.registerMap ∧
        thread.OffersQueued thread.registerMap
  | .poll now _ => thread.OffersQueued (ModbusScheduler.getRegistersToPoll
      thread.registerMap thread.executor.polls now)
  | _ => True

instance (thread : ModbusThread) (input : ThreadInput) :
    Decidable (thread.OnceOffered input) := by
  refine input.casesOn ?_ ?_ ?_ ?_ ?_ ?_ <;> intros <;> dsimp only [OnceOffered] <;>
    infer_instance

/-- A poll that has been read is neither pending nor due. -/
structure OnceRead (reg : RegisterPoll) (thread : ModbusThread)
    (bus : List ExecutorEvent) : Prop where
  single : thread.executor.commands.pendingCount (.poll reg) ≤ 1
  done : ∀ event ∈ bus, event.reads reg = true →
    thread.executor.commands.pendingCount (.poll reg) = 0 ∧
      (thread.executor.polls reg).lastReadOk = true
  readOnce : ReadOnce reg bus

namespace OnceRead

variable {reg : RegisterPoll} {thread next : ModbusThread}
  {bus : List ExecutorEvent}

theorem execute (kept : OnceRead reg thread bus) {call : ExecuteInput}
    {executor : ModbusExecutor} {logged : List ExecutorEvent}
    {returned : Except ModbusException Duration}
    (executed : thread.executor.executeNext call =
      some (executor, logged, returned))
    (after : AfterExecution (thread.afterCall executor logged) next returned) :
    OnceRead reg next (bus ++ logged) := by
  have execution := ModbusExecutor.executeNext_execution executed
  have rejected := execution.not_accepted (.poll reg)
  have balanced :=
    trace_balance (ModbusExecutor.executeNext_trace executed) (.poll reg)
  rw [List.count_eq_zero.mpr rejected] at balanced
  have commands : next.executor.commands = executor.commands := by
    obtain ⟨_, _, rfl⟩ := after.same
    rfl
  have lastReadOk : (next.executor.polls reg).lastReadOk =
      (executor.polls reg).lastReadOk := after.lastReadOk reg
  have single := kept.single
  have finished : ∀ event ∈ bus, event.reads reg = true →
      ∀ later ∈ logged, later.attempts reg = false := by
    intro event listed read later here
    cases attempted : later.attempts reg with
    | false => rfl
    | true =>
      obtain ⟨outcome, retriesLeft, rfl⟩ :=
        ExecutorEvent.attempts_iff.mp attempted
      have pending := execution.pending here
      have done := (kept.done event listed read).1
      omega
  refine ⟨by rw [commands]; omega, ?_, ?_⟩
  · intro event listed read
    rw [commands, lastReadOk]
    rcases List.mem_append.mp listed with earlier | here
    · obtain ⟨none, readOk⟩ := kept.done event earlier read
      refine ⟨by omega, ?_⟩
      rw [execution.polls_of_not_attempted (finished event earlier read), readOk]
    · refine ⟨?_, execution.lastReadOk_of_read here read⟩
      have completed : 0 < logged.countP (·.completes (.poll reg)) := by
        obtain ⟨values, retriesLeft, rfl⟩ := ExecutorEvent.reads_iff.mp read
        exact List.countP_pos_iff.mpr
          ⟨_, here, by simp [ExecutorEvent.completes, CallOutcome.finishes]⟩
      omega
  · exact List.pairwise_append.mpr ⟨kept.readOnce, execution.readOnce,
      fun event earlier later here read => finished event earlier read later here⟩

/-- Steps that make no call: an accepted poll has not been read. -/
theorem quiet (kept : OnceRead reg thread bus) {events : List ExecutorEvent}
    (trace : Trace Move thread.executor.commands events next.executor.commands)
    (silent : ∀ event ∈ events, event.isTraffic = false)
    (polls : next.executor.polls = thread.executor.polls)
    (single : next.executor.commands.pendingCount (.poll reg) ≤ 1)
    (unread : .accepted (.poll reg) ∈ events →
      ∀ event ∈ bus, event.reads reg = false) :
    OnceRead reg next (bus ++ events) := by
  have idle : ∀ event ∈ events,
      event.attempts reg = false ∧ event.reads reg = false := by
    intro event listed
    have nothing := silent event listed
    cases event with
    | issued command outcome retriesLeft => cases nothing
    | _ => exact ⟨rfl, rfl⟩
  refine ⟨single, ?_, ?_⟩
  · intro event listed read
    rcases List.mem_append.mp listed with earlier | here
    · obtain ⟨none, readOk⟩ := kept.done event earlier read
      refine ⟨?_, by rw [polls, readOk]⟩
      have rejected : .accepted (.poll reg) ∉ events := by
        intro accepted
        rw [unread accepted event earlier] at read
        cases read
      have fewer :=
        ModbusExecutor.pendingCount_le_of_not_accepted trace rejected
      omega
    · rw [(idle event here).2] at read
      cases read
  · refine List.pairwise_append.mpr ⟨kept.readOnce, ?_, ?_⟩
    · exact List.Pairwise.imp_of_mem
        (fun _ member _ _ => (idle _ member).1) (List.pairwise_of_forall
          fun _ _ => trivial)
    · intro event _ later here _
      exact (idle later here).1

end OnceRead

variable {spec : MsgRegisterPollSpecification} {thread : ModbusThread}
  {bus : List ExecutorEvent} {reg : RegisterPoll}

theorem Schedule.keyed (schedule : Schedule spec thread bus)
    {entry : Int × List RegisterPoll}
    (listed : entry ∈ thread.registerMap.entries) (member : reg ∈ entry.2) :
    reg.slaveId = entry.1 := by
  rcases schedule.source with empty | ⟨owner, made⟩
  · rw [empty] at listed
    cases listed
  · rw [made] at listed
    exact (mem_bySlave listed member).2

theorem Schedule.untouched (schedule : Schedule spec thread bus)
    (empty : thread.registerMap = .empty)
    (scheduled : reg.isRpc = false) :
    thread.executor.commands.pendingCount (.poll reg) = 0 ∧
      ∀ event ∈ bus, event.reads reg = false := by
  have absent := not_scheduled_of_empty empty reg
  constructor
  · by_contra pending
    exact absent (schedule.pending reg scheduled (Nat.pos_of_ne_zero pending))
  · intro event happened
    by_contra read
    obtain ⟨values, retriesLeft, rfl⟩ :=
      ExecutorEvent.reads_iff.mp (Bool.eq_true_of_not_eq_false read)
    exact absent (schedule.issued reg _ _ scheduled happened)

section Offers

variable {spec : MsgRegisterPollSpecification} {reg : RegisterPoll}
  {thread next : ModbusThread} {bus : List ExecutorEvent}

theorem OnceRead.addPollList (kept : OnceRead reg thread bus)
    {registers : OrderedMap Int (List RegisterPoll)} {initialPoll : Bool}
    {now : Int} {executor : ModbusExecutor} {events : List ExecutorEvent}
    (keyed : ∀ entry ∈ registers.entries, reg ∈ entry.2 → reg.slaveId = entry.1)
    (fresh : ∀ entry ∈ registers.entries, reg ∈ entry.2 →
      thread.executor.commands.OnlyIn entry.1 reg ∧
        ∀ event ∈ bus, event.reads reg = false)
    (added : thread.executor.addPollList registers initialPoll now =
      some (executor, events)) :
    executor.commands.pendingCount (.poll reg) ≤ 1 ∧
      (.accepted (.poll reg) ∈ events →
        ∀ event ∈ bus, event.reads reg = false) := by
  refine ⟨ModbusExecutor.addPollList_once ?_ kept.single added, ?_⟩
  · intro _ entry listed member
    refine ⟨(fresh entry listed member).1, ?_⟩
    intro other otherListed different otherMember
    exact different ((keyed other otherListed otherMember).symm.trans
      (keyed entry listed member))
  · intro accepted
    rcases ModbusExecutor.addPollList_logs added accepted with
      ⟨entry, listed, offered, member, adds⟩ | ⟨_, displaced⟩
    · have same : offered = reg := by
        simpa [ExecutorEvent.addsPoll, eq_comm] using adds
      exact (fresh entry listed (same ▸ member)).2
    · cases displaced

theorem OnceRead.unread (kept : OnceRead reg thread bus)
    (fails : (thread.executor.polls reg).lastReadOk = false) :
    ∀ event ∈ bus, event.reads reg = false := by
  intro event listed
  by_contra read
  have readOk :=
    (kept.done event listed (Bool.eq_true_of_not_eq_false read)).2
  rw [readOk] at fails
  cases fails

theorem requestedPoll_ne {message : ModbusMessageBase}
    (request : message.commandId < 0) (scheduled : reg.isRpc = false) :
    thread.requestedPoll message ≠ reg := by
  rintro rfl
  have own : decide (message.commandId < 0) = false := scheduled
  simp [request] at own

section Step

variable (kept : OnceRead reg thread bus)
  (schedule : Schedule spec thread bus)
  (reads : ∀ message, .read message ∈ thread.toModbus → message.commandId < 0)
  (scheduled : reg.isRpc = false) (once : reg.publishMode = .once)
  {input : ThreadInput} (offered : thread.OnceOffered input)
  {events : List ThreadEvent}
  (moved : ThreadStep thread input next events)

include kept schedule reads scheduled once offered moved

/-- What a step accepts when the once polls it offers are not read. -/
theorem OnceRead.accepts :
    next.executor.commands.pendingCount (.poll reg) ≤ 1 ∧
      (.accepted (.poll reg) ∈ events.filterMap (·.executorEvent) →
        ∀ event ∈ bus, event.reads reg = false) := by
  have rejects (rejected : .accepted (.poll reg) ∉
      events.filterMap (·.executorEvent)) :
      next.executor.commands.pendingCount (.poll reg) ≤ 1 ∧
        (.accepted (.poll reg) ∈ events.filterMap (·.executorEvent) →
          ∀ event ∈ bus, event.reads reg = false) :=
    ⟨(ModbusExecutor.pendingCount_le_of_not_accepted moved.trace
      rejected).trans kept.single, fun accepted => absurd accepted rejected⟩
  cases moved with
  | announce connected isUp => exact rejects (by simp [ThreadEvent.executorEvent])
  | connect idle stepped =>
    rw [List.filterMap_cons, filterMap_executorEvent_bus]
    refine kept.addPollList (fun entry listed => schedule.keyed listed) ?_
      stepped
    intro entry listed member
    obtain ⟨unread, queued⟩ := offered idle
    exact ⟨queued entry listed reg member once,
      kept.unread (unread entry listed reg member once)⟩
  | poll stepped =>
    rw [filterMap_executorEvent_bus]
    refine kept.addPollList ?_ ?_ stepped
    · intro entry listed member
      obtain ⟨registers, stored, known⟩ := mem_getRegistersToPoll listed member
      have keyed := schedule.keyed stored known
      exact keyed
    · intro entry listed member
      exact ⟨offered entry listed reg member once,
        kept.unread (thread.offersUnread_getRegistersToPoll _ entry listed
          reg member once)⟩
  | execute executed after =>
    apply rejects
    rw [filterMap_executorEvent_bus]
    exact (ModbusExecutor.executeNext_execution executed).not_accepted _
  | @write endAnswer now message requests executor added queued stepped =>
    apply rejects
    rw [filterMap_executorEvent_bus]
    cases stepped
    simp
  | @read endAnswer now message requests executor added queued stepped =>
    apply rejects
    rw [filterMap_executorEvent_bus]
    intro accepted
    have logged : added = (thread.executor.addReadCommand
        (thread.requestedPoll message)).2 :=
      (congrArg Prod.snd (Option.some.inj stepped)).symm
    rw [logged] at accepted
    have same : thread.requestedPoll message = reg := by
      simpa [ExecutorEvent.addsPoll, eq_comm] using
        ModbusExecutor.addReadCommand_logs accepted
    have request := reads message (by rw [queued]; exact List.mem_cons_self)
    exact requestedPoll_ne request scheduled same
  | mqttState queued => exact rejects (by simp)
  | @specification endAnswer now sent requests executor added queued stepped =>
    have empty := schedule.awaited (by
      rw [queued]
      simp [ModbusRequest.isSpecification])
    obtain ⟨notPending, unread⟩ := schedule.untouched empty scheduled
    rw [filterMap_executorEvent_bus]
    exact kept.addPollList
      (fun entry listed member => (mem_bySlave listed member).2)
      (fun entry _ _ =>
        ⟨CommandStore.onlyIn_of_not_pending notPending entry.1, unread⟩)
      stepped

theorem OnceRead.step :
    OnceRead reg next (bus ++ events.filterMap (·.executorEvent)) := by
  rcases moved.traffic with
    ⟨call, executor, returned, logged, _, executed, rfl, after⟩ |
    ⟨silent, polls, _⟩
  · rw [filterMap_executorEvent_bus]
    exact kept.execute executed after
  · obtain ⟨single, unread⟩ :=
      kept.accepts schedule reads scheduled once offered moved
    exact kept.quiet moved.trace silent polls single unread

end Step

end Offers

end ModbusThread

namespace Gateway

/-- What the thread of the network offers its executor. -/
def OnceOffered (gateway : Gateway) (name : String) : GatewayInput → Prop
  | .thread network input =>
    network = name → (gateway.threads name).OnceOffered input
  | _ => True

instance (gateway : Gateway) (name : String) (input : GatewayInput) :
    Decidable (gateway.OnceOffered name input) := by
  refine input.casesOn ?_ ?_ ?_ ?_ ?_ <;> intros <;> dsimp only [OnceOffered] <;>
    infer_instance

variable {libraries : RequestLibraries} {config : Configuration} {now : Int}
  {created : RegisterPoll → Int} {name : String} {gateway : Gateway}
  {history : List GatewayEvent} {reg : RegisterPoll}

theorem run_onceRead (run : Runs (step libraries)
      (fun gateway _ input => gateway.OnceOffered name input)
      (start config now created) gateway history)
    (scheduled : reg.isRpc = false) (once : reg.publishMode = .once) :
    (gateway.threads name).OnceRead reg (busHistory name history) := by
  induction run with
  | start =>
    refine ⟨?_, by simp [busHistory], .nil⟩
    exact (ModbusExecutor.pendingCount_create ..).trans_le (Nat.zero_le 1)
  | @step _ _ _ events _ before offered stepped induction =>
    rw [busHistory_append, busHistory_eq name events]
    rcases (step_cases stepped).activity name with
      ⟨_, _, rfl, _, threadStep, happened⟩ | ⟨silent, _, _, same⟩
    · rw [happened]
      refine induction.step (run_schedule before name) ?_ scheduled once
        (offered rfl) threadStep
      intro message queued
      exact Offered.read_isRpc ((run_origins before name).requests _ queued)
    · rw [silent, same]
      simpa using ⟨induction.single, induction.done, induction.readOnce⟩

/-- A once poll of the specification is not read again after it has been read
successfully. -/
theorem once_polls_read_once (run : Runs (step libraries)
      (fun gateway _ input => gateway.OnceOffered name input)
      (start config now created) gateway history)
    (scheduled : (gateway.threads name).Scheduled reg)
    (once : reg.publishMode = .once) :
    ReadOnce reg (busHistory name history) := by
  have specified := (run_origins run name).scheduled reg scheduled
  exact (run_onceRead run
    (by simp [RegisterPoll.isRpc, specified.commandId]) once).readOnce

def oncePoll : MsgRegisterPoll :=
  { meterPoll with publishMode := .once }

def onceConfig : Configuration :=
  { meterConfig with
    polls := fun name => if name = "net" then [oncePoll] else [] }

def onceRegister : RegisterPoll :=
  (onceConfig.thread 0 (fun _ => 0) "net").specifiedPoll oncePoll 0

def onceStart : List GatewayInput :=
  [.brokerConnected quietBroker,
    .thread "net" (.dispatch true 0),
    .thread "net" (.dispatch true 0),
    .thread "net" (.connect 0)]

theorem once_polls_read_once_late : ∃ gateway history,
      Runs (step plainLibraries.toRequestLibraries)
        (fun gateway _ input => gateway.OnceOffered "net" input)
        (start onceConfig 0 fun _ => 0) gateway history ∧
      ((gateway.threads "net").registerMap.entries = [(1, [onceRegister])] ∧
        (busHistory "net" history).countP (·.attempts onceRegister) = 3 ∧
        (busHistory "net" history).countP (·.reads onceRegister) = 1) ∧
      ReadOnce onceRegister (busHistory "net" history) := by
  obtain ⟨gateway, history, run, scheduled, counts⟩ := Runs.exists_of_replay
    (onceStart ++
      [.thread "net" (.execute silentDevice),
        .thread "net" (.execute silentDevice),
        .thread "net" (.poll 2000000000 2000000000),
        .thread "net" (.execute (answering fun _ => 5)),
        .thread "net" (.poll 4000000000 4000000000)])
    (fun gateway history =>
      (gateway.threads "net").registerMap.entries = [(1, [onceRegister])] ∧
      (busHistory "net" history).countP (·.attempts onceRegister) = 3 ∧
      (busHistory "net" history).countP (·.reads onceRegister) = 1)
    (show (Runs.replay (step plainLibraries.toRequestLibraries)
      (fun gateway _ input => gateway.OnceOffered "net" input) _
      (start onceConfig 0 fun _ => 0, [])).any _ = true by decide +kernel)
  have known : (gateway.threads "net").Scheduled onceRegister :=
    ⟨(1, [onceRegister]), by rw [scheduled]; simp, by simp⟩
  exact ⟨gateway, history, run, ⟨scheduled, counts⟩,
    once_polls_read_once run known rfl⟩

/-- The watchdog reconnects the network after the poll has been read: the
initial poll reads it again. -/
theorem once_poll_read_again : ∃ gateway history,
      Runs (step plainLibraries.toRequestLibraries) (fun _ _ _ => True)
        (start onceConfig 0 fun _ => 0) gateway history ∧
      (gateway.threads "net").registerMap.entries = [(1, [onceRegister])] ∧
      onceRegister.publishMode = .once ∧
      (busHistory "net" history).countP (·.reads onceRegister) = 2 ∧
      ¬ReadOnce onceRegister (busHistory "net" history) :=
  Runs.exists_of_replay
    (onceStart ++
      [.thread "net" (.execute (answering fun _ => 5)),
        .thread "net" .disconnect,
        .thread "net" (.connect 0),
        .thread "net" (.execute (answering fun _ => 5))])
    (fun gateway history =>
      (gateway.threads "net").registerMap.entries = [(1, [onceRegister])] ∧
      onceRegister.publishMode = .once ∧
      (busHistory "net" history).countP (·.reads onceRegister) = 2 ∧
      ¬ReadOnce onceRegister (busHistory "net" history))
    (show (Runs.replay (step plainLibraries.toRequestLibraries)
      (fun _ _ _ => True) _ (start onceConfig 0 fun _ => 0, [])).any _ =
        true by decide +kernel)

end Gateway

end MqmGateway
