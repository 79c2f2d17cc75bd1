import MqmGateway.Gateway.Provenance

/-!
# The history of one network

What has happened on the bus of a network, what its thread has sent and what
the main thread has processed, read off the history of the gateway.  The queue
between them holds what was sent and not processed yet.
-/

namespace MqmGateway

def ThreadEvent.isTraffic : ThreadEvent → Bool
  | .bus event => event.isTraffic
  | .networkState _ => false

namespace GatewayEvent

def threadEvent (name : String) : GatewayEvent → Option ThreadEvent
  | .thread network event => if network = name then some event else none
  | _ => none

def busEvent (name : String) (event : GatewayEvent) : Option ExecutorEvent :=
  (event.threadEvent name).bind (·.executorEvent)

/-- The message that the thread of this network sent. -/
def sentItem (name : String) (event : GatewayEvent) : Option QueueItem :=
  (event.threadEvent name).bind (·.item name)

def processedItem (name : String) : GatewayEvent → Option QueueItem
  | .processed network item => if network = name then some item else none
  | _ => none

end GatewayEvent

namespace Gateway

def threadHistory (name : String) (history : List GatewayEvent) :
    List ThreadEvent :=
  history.filterMap (·.threadEvent name)

def busHistory (name : String) (history : List GatewayEvent) :
    List ExecutorEvent :=
  history.filterMap (·.busEvent name)

def sentItems (name : String) (history : List GatewayEvent) : List QueueItem :=
  history.filterMap (·.sentItem name)

def processedItems (name : String) (history : List GatewayEvent) :
    List QueueItem :=
  history.filterMap (·.processedItem name)

section Append

variable (name : String) (history events : List GatewayEvent)

@[simp] theorem threadHistory_append : threadHistory name (history ++ events) =
      threadHistory name history ++ threadHistory name events :=
  List.filterMap_append

@[simp] theorem busHistory_append : busHistory name (history ++ events) =
      busHistory name history ++ busHistory name events :=
  List.filterMap_append

@[simp] theorem sentItems_append : sentItems name (history ++ events) =
      sentItems name history ++ sentItems name events :=
  List.filterMap_append

@[simp] theorem processedItems_append :
    processedItems name (history ++ events) =
      processedItems name history ++ processedItems name events :=
  List.filterMap_append

end Append

theorem busHistory_eq (name : String) (history : List GatewayEvent) :
    busHistory name history =
      (threadHistory name history).filterMap (·.executorEvent) :=
  List.filterMap_filterMap.symm

theorem sentItems_eq (name : String) (history : List GatewayEvent) :
    sentItems name history =
      (threadHistory name history).filterMap (·.item name) :=
  List.filterMap_filterMap.symm

variable {name : String} {events : List GatewayEvent}

theorem busHistory_of_bus {logged : List ExecutorEvent}
    (happened : threadHistory name events = logged.map ThreadEvent.bus) :
    busHistory name events = logged ∧
      sentItems name events = logged.filterMap (·.sentItem) := by
  rw [busHistory_eq, sentItems_eq, happened]
  exact ⟨ModbusThread.filterMap_executorEvent_bus logged,
    ModbusThread.filterMap_item_bus name logged⟩

section Thread

variable (name : String) (events : List ThreadEvent)

@[simp] theorem threadHistory_thread :
    threadHistory name (events.map (.thread name)) = events := by
  rw [threadHistory, List.filterMap_map]
  exact (List.filterMap_congr fun _ _ => if_pos rfl).trans List.filterMap_some

@[simp] theorem busHistory_thread :
    busHistory name (events.map (.thread name)) =
      events.filterMap (·.executorEvent) := by
  rw [busHistory_eq, threadHistory_thread]

@[simp] theorem sentItems_thread : sentItems name (events.map (.thread name)) =
      events.filterMap (·.item name) := by
  rw [sentItems_eq, threadHistory_thread]

@[simp] theorem processedItems_thread :
    processedItems name (events.map (.thread name)) = [] := by
  rw [processedItems, List.filterMap_map]
  exact List.filterMap_eq_nil_iff.mpr fun _ _ => rfl

end Thread

theorem quiet_of_no_thread (silent : ∀ event, .thread name event ∉ events) :
    threadHistory name events = [] := by
  apply List.filterMap_eq_nil_iff.mpr
  intro event listed
  cases event with
  | thread network event =>
    apply if_neg
    intro same
    exact silent event (same ▸ listed)
  | _ => rfl

theorem processedItems_of_none
    (silent : ∀ item, .processed name item ∉ events) :
    processedItems name events = [] := by
  apply List.filterMap_eq_nil_iff.mpr
  intro event listed
  cases event with
  | processed network item =>
    apply if_neg
    intro same
    exact silent item (same ▸ listed)
  | _ => rfl

namespace GatewayStep

variable {libraries : RequestLibraries} {gateway next : Gateway}
  {input : GatewayInput} {events : List GatewayEvent}

section

variable (step : GatewayStep libraries gateway input next events)

include step

/-- Either the thread of a network takes a step, or only its queues change. -/
theorem activity (name : String) :
    (∃ threadInput threadEvents, input = .thread name threadInput ∧
      name ∈ gateway.client.networks ∧
      ModbusThread.ThreadStep (gateway.threads name) threadInput
        (next.threads name) threadEvents ∧
      threadHistory name events = threadEvents) ∨
    threadHistory name events = [] ∧ ∃ toModbus fromModbus, next.threads name =
        { gateway.threads name with toModbus, fromModbus } := by
  cases step with
  | connected _ => exact .inr ⟨rfl, _, _, rfl⟩
  | disconnected => exact .inr ⟨rfl, _, _, rfl⟩
  | handled _ _ => exact .inr ⟨rfl, _, _, rfl⟩
  | @requested message client other request _ _ =>
    refine .inr ⟨rfl, ?_⟩
    by_cases here : name = other
    · subst here
      rw [setThread_self]
      exact ⟨_, _, rfl⟩
    · rw [setThread_of_ne _ here]
      exact ⟨_, _, rfl⟩
  | @processed other call item rest client _ _ _ _ =>
    refine .inr ⟨rfl, ?_⟩
    by_cases here : name = other
    · subst here
      rw [setThread_self]
      exact ⟨_, _, rfl⟩
    · rw [setThread_of_ne _ here]
      exact ⟨_, _, rfl⟩
  | @thread other threadInput changed threadEvents known threadStep =>
    by_cases here : name = other
    · subst here
      rw [setThread_self, threadHistory_thread]
      exact .inl ⟨threadInput, threadEvents, rfl, known, threadStep, rfl⟩
    · rw [setThread_of_ne _ here]
      refine .inr ⟨quiet_of_no_thread ?_, _, _, rfl⟩
      intro event listed
      obtain ⟨_, _, same⟩ := List.mem_map.mp listed
      cases same
      exact here rfl

theorem traffic (name : String) :
    (∃ call executor logged returned, input = .thread name (.execute call) ∧
      name ∈ gateway.client.networks ∧
      (gateway.threads name).executor.executeNext call =
        some (executor, logged, returned) ∧
      threadHistory name events = logged.map .bus ∧
      ∀ reg, ((next.threads name).executor.polls reg).lastValues =
        (executor.polls reg).lastValues) ∨
    (∀ event ∈ threadHistory name events, event.isTraffic = false) ∧
      (next.threads name).executor.polls =
        (gateway.threads name).executor.polls := by
  rcases step.activity name with
    ⟨threadInput, threadEvents, rfl, known, threadStep, happened⟩ |
    ⟨silent, _, _, same⟩
  · rw [happened]
    rcases threadStep.traffic with
      ⟨call, executor, returned, logged, rfl, executed, rfl, after⟩ |
      ⟨quiet, polls, _⟩
    · exact .inl ⟨call, executor, logged, returned, rfl, known, executed, rfl,
        after.lastValues⟩
    · refine .inr ⟨?_, polls⟩
      intro event listed
      cases event with
      | bus logged =>
        exact quiet logged (List.mem_filterMap.mpr ⟨_, listed, rfl⟩)
      | networkState _ => rfl
  · rw [silent, same]
    exact .inr ⟨by simp, rfl⟩

theorem executed {name : String} {event : ExecutorEvent}
    (listed : event ∈ busHistory name events)
    (traffic : event.isTraffic = true) :
    ∃ call executor logged returned, input = .thread name (.execute call) ∧
      (gateway.threads name).executor.executeNext call =
        some (executor, logged, returned) ∧
      busHistory name events = logged := by
  rcases step.traffic name with
    ⟨call, executor, logged, returned, same, _, executed, happened, _⟩ |
    ⟨quiet, _⟩
  · exact ⟨call, executor, logged, returned, same, executed,
      (busHistory_of_bus happened).1⟩
  · rw [busHistory_eq] at listed
    obtain ⟨source, happened, logged⟩ := List.mem_filterMap.mp listed
    have silent := quiet source happened
    cases source with
    | bus source =>
      cases logged
      rw [ThreadEvent.isTraffic, traffic] at silent
      cases silent
    | networkState isUp => cases logged

end

end GatewayStep

variable {libraries : RequestLibraries} {config : Configuration} {now : Int}
  {created : RegisterPoll → Int}
  {allowed : Gateway → List GatewayEvent → GatewayInput → Prop}
  {gateway : Gateway} {history : List GatewayEvent}

section

variable (run : Runs (step libraries) allowed (start config now created)
    gateway history)

include run

theorem run_queue (name : String) :
    sentItems name history =
      processedItems name history ++ (gateway.threads name).fromModbus := by
  induction run with
  | start => rfl
  | @step gateway next history events _ before _ stepped induction =>
    have known := run_networkName before name
    have change := (step_cases stepped).change name
    generalize next.threads name = thread at change ⊢
    rw [sentItems_append, processedItems_append, induction]
    cases change with
    | same _ unprocessed silent =>
      rw [sentItems_eq name events, quiet_of_no_thread silent,
        processedItems_of_none unprocessed]
      simp
    | mqttState isUp => simp [sentItems, processedItems, ModbusThread.enqueue]
    | requested _ =>
      simp [sentItems, processedItems, ModbusThread.enqueue,
        GatewayEvent.sentItem, GatewayEvent.threadEvent,
        GatewayEvent.processedItem]
    | processed queued =>
      rw [queued]
      simp [sentItems, processedItems, GatewayEvent.sentItem,
        GatewayEvent.threadEvent, GatewayEvent.processedItem]
    | step threadStep =>
      rw [sentItems_thread, processedItems_thread, threadStep.fromModbus,
        known, List.append_nil, List.append_assoc]

theorem sent_of_processed {item : QueueItem}
    (processed : .processed name item ∈ history) :
    item ∈ sentItems name history := by
  rw [run_queue run name]
  exact List.mem_append_left _
    (List.mem_filterMap.mpr ⟨_, processed, if_pos rfl⟩)

theorem run_moves (name : String) :
    Trace Move (ModbusExecutor.create now created).commands
      (busHistory name history) (gateway.threads name).executor.commands := by
  induction run with
  | start => exact .refl
  | @step gateway next history events _ _ _ stepped induction =>
    have change := (step_cases stepped).change name
    generalize next.threads name = thread at change ⊢
    rw [busHistory_append]
    apply induction.trans
    cases change with
    | same _ _ silent =>
      rw [busHistory_eq, quiet_of_no_thread silent]
      exact .refl
    | mqttState isUp => exact .refl
    | requested _ => exact .refl
    | processed _ => exact .refl
    | step threadStep =>
      rw [busHistory_thread]
      exact threadStep.trace

theorem run_traffic {event : ExecutorEvent}
    (listed : event ∈ busHistory name history)
    (traffic : event.isTraffic = true) :
    ∃ before earlier later call executor logged returned,
      Runs (step libraries) allowed (start config now created) before earlier ∧
      history = earlier ++ later ∧
      (before.threads name).executor.executeNext call =
        some (executor, logged, returned) ∧
      event ∈ logged ∧
      ∀ other ∈ logged, other ∈ busHistory name history := by
  induction run with
  | start => cases listed
  | @step gateway next history events _ before _ stepped induction =>
    rw [busHistory_append] at listed ⊢
    rcases List.mem_append.mp listed with earlier | new
    · obtain ⟨reached, start, later, call, executor, logged, returned, run,
        rfl, executed, here, kept⟩ := induction earlier
      refine ⟨reached, start, later ++ events, call, executor, logged,
        returned, run, List.append_assoc .., executed, here, ?_⟩
      intro other listed
      exact List.mem_append_left _ (kept other listed)
    · obtain ⟨call, executor, logged, returned, _, executed, same⟩ :=
        (step_cases stepped).executed new traffic
      rw [same] at new ⊢
      exact ⟨gateway, history, events, call, executor, logged, returned,
        before, rfl, executed, new,
        fun other listed => List.mem_append_right _ listed⟩

theorem run_lastValues_length (name : String) (reg : RegisterPoll) :
    ((gateway.threads name).executor.polls reg).lastValues.length =
      reg.registerCount := by
  induction run with
  | start => exact List.length_replicate
  | step _ _ stepped induction =>
    rcases (step_cases stepped).traffic name with
      ⟨call, executor, logged, returned, _, _, executed, _, kept⟩ |
      ⟨_, polls⟩
    · rw [kept, (ModbusExecutor.executeNext_execution
        executed).lastValues_length, induction]
    · rw [polls, induction]

end

end Gateway

end MqmGateway
