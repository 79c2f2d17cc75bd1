import Mathlib.Logic.Function.Basic
import MqmGateway.Library.Runs
import MqmGateway.ModbusMessages

/-!
# The loop of the main thread

The main loop of `ModMqtt::start`, interleaved with the modbus threads and
with requests to stop.  A thread puts a message into its queue and then calls
`notifyQueues`; the main thread clears `gHasMessages` when it wakes up and
empties the queues of all clients, one after the other.  It does so once more
when it has stopped the threads.
-/

namespace MqmGateway

inductive MainPhase where
  | checking
  | waiting
  | draining (clients : List String) (stopping : Bool)
  | joining
  | stopped
deriving DecidableEq

/-- `notifying` and `signalling` are the calls of `notifyQueues` that are still
to come, of the threads and of those who have set `gSignalStatus`. -/
structure MainLoop where
  phase : MainPhase
  hasMessages : Bool
  signalStatus : Int
  signalling : Nat
  queues : String → List QueueItem
  notifying : String → Bool
  ended : String → Bool

inductive MainInput where
  | send (network : String) (item : QueueItem)
  | notify (network : String)
  | finish (network : String)
  | signal (sigterm : Bool)
  | notifySignal
  | main

inductive MainEvent where
  | sent (network : String) (item : QueueItem)
  | processed (network : String) (item : QueueItem)

namespace MainEvent

def sentBy (network : String) : MainEvent → Option QueueItem
  | .sent sender item => if sender = network then some item else none
  | _ => none

def processedOf (network : String) : MainEvent → Option QueueItem
  | .processed sender item => if sender = network then some item else none
  | _ => none

end MainEvent

namespace MainLoop

open Function

variable (clients : List String)

/-- What the main thread does next; `none` if it has to wait. -/
def advance (loop : MainLoop) : Option (MainLoop × List MainEvent) :=
  match loop.phase with
  | .checking =>
    some ({ loop with
      phase := if loop.signalStatus = -1 then .waiting else .joining }, [])
  | .waiting =>
    if loop.hasMessages then
      some ({ loop with
        phase := .draining clients false, hasMessages := false }, [])
    else
      none
  | .draining [] stopping =>
    some ({ loop with phase := if stopping then .stopped else .checking }, [])
  | .draining (client :: rest) stopping =>
    match loop.queues client with
    | [] => some ({ loop with phase := .draining rest stopping }, [])
    | item :: items =>
      some ({ loop with queues := update loop.queues client items },
        [.processed client item])
  | .joining =>
    if clients.all loop.ended then
      some ({ loop with phase := .draining clients true }, [])
    else
      none
  | .stopped => none

def step (loop : MainLoop) : MainInput → Option (MainLoop × List MainEvent)
  | .send network item =>
    if loop.notifying network || loop.ended network then
      none
    else
      some ({ loop with
          queues := update loop.queues network (loop.queues network ++ [item])
          notifying := update loop.notifying network true },
        [.sent network item])
  | .notify network =>
    some ({ loop with
      hasMessages := loop.hasMessages || loop.notifying network
      notifying := update loop.notifying network false }, [])
  | .finish network =>
    if loop.notifying network then none
    else some ({ loop with ended := update loop.ended network true }, [])
  | .signal sigterm =>
    some ({ loop with
      signalStatus := if sigterm then 15 else 0
      signalling := loop.signalling + 1 }, [])
  | .notifySignal =>
    if loop.signalling = 0 then none
    else
      some ({ loop with
        hasMessages := true, signalling := loop.signalling - 1 }, [])
  | .main => loop.advance clients

def create : MainLoop :=
  { phase := .checking
    hasMessages := false
    signalStatus := -1
    signalling := 0
    queues := fun _ => []
    notifying := fun _ => false
    ended := fun _ => false }

/-- The queues are emptied for the last time, or have been. -/
def Final (phase : MainPhase) : Prop :=
  phase = .stopped ∨ ∃ rest, phase = .draining rest true

/-- Nothing is left over without a reason to look for it. -/
structure Awake (loop : MainLoop) : Prop where
  drained : ∀ client ∈ clients, loop.queues client ≠ [] →
    loop.phase = .joining ∨ (∃ rest stopping,
      loop.phase = .draining rest stopping ∧ client ∈ rest) ∨
    ¬Final loop.phase ∧
      (loop.hasMessages = true ∨ loop.notifying client = true)
  joined : Final loop.phase → ∀ client ∈ clients, loop.ended client = true
  signalled : loop.phase = .waiting → loop.signalStatus ≠ -1 →
    loop.hasMessages = true ∨ 0 < loop.signalling

variable {clients} {loop next : MainLoop} {history events : List MainEvent}
  {input : MainInput}

theorem Awake.advance (awake : loop.Awake clients)
    (stepped : loop.advance clients = some (next, events)) :
    next.Awake clients := by
  obtain ⟨drained, joined, signalled⟩ := awake
  unfold MainLoop.advance at stepped
  split at stepped
  · cases stepped
    refine ⟨?_, ?_, ?_⟩ <;> grind [Final]
  · refine ⟨?_, ?_, ?_⟩ <;> grind [Final]
  · cases stepped
    refine ⟨?_, ?_, ?_⟩ <;> grind [Final]
  · split at stepped <;> cases stepped <;> refine ⟨?_, ?_, ?_⟩ <;>
      grind [Final]
  · refine ⟨?_, ?_, ?_⟩ <;> grind [Final]
  · cases stepped

theorem Awake.step (awake : loop.Awake clients)
    (stepped : loop.step clients input = some (next, events)) :
    next.Awake clients := by
  obtain ⟨drained, joined, signalled⟩ := awake
  cases input with
  | main => exact Awake.advance ⟨drained, joined, signalled⟩ stepped
  | notify network | signal sigterm =>
    cases stepped
    refine ⟨?_, ?_, ?_⟩ <;> grind [Final]
  | send network item | finish network | notifySignal =>
    obtain ⟨allowed, same⟩ := Option.ite_none_left_eq_some.mp stepped
    cases same
    refine ⟨?_, ?_, ?_⟩ <;> grind [Final]

theorem step_conserves (client : String)
    (stepped : loop.step clients input = some (next, events)) :
    loop.queues client ++ events.filterMap (MainEvent.sentBy client) =
      events.filterMap (MainEvent.processedOf client) ++ next.queues client := by
  cases input with
  | main =>
    simp only [MainLoop.step, MainLoop.advance] at stepped
    split at stepped <;> try split at stepped
    all_goals cases stepped <;> grind [MainEvent.sentBy, MainEvent.processedOf]
  | notify network | signal sigterm =>
    cases stepped
    simp
  | send network item | finish network | notifySignal =>
    obtain ⟨allowed, same⟩ := Option.ite_none_left_eq_some.mp stepped
    cases same
    grind [MainEvent.sentBy, MainEvent.processedOf]

/-- When the main thread sleeps, every message of a thread that is not just
sending has been processed, in order, and there is no request to stop; when it
has stopped, every message has been processed. -/
theorem nothing_left_over
    {allowed : MainLoop → List MainEvent → MainInput → Prop}
    (run : Runs (MainLoop.step clients) allowed create loop history) :
    (loop.phase = .waiting → loop.hasMessages = false →
      (∀ client ∈ clients, loop.notifying client = false →
        history.filterMap (MainEvent.processedOf client) =
          history.filterMap (MainEvent.sentBy client)) ∧
      (loop.signalling = 0 → loop.signalStatus = -1)) ∧
    (loop.phase = .stopped → ∀ client ∈ clients,
      history.filterMap (MainEvent.processedOf client) =
        history.filterMap (MainEvent.sentBy client)) := by
  have awake : loop.Awake clients := by
    induction run with
    | start => refine ⟨?_, ?_, ?_⟩ <;> simp [create, Final]
    | step _ _ stepped induction => exact induction.step stepped
  obtain ⟨drained, joined, signalled⟩ := awake
  have kept := fun client => @Runs.conserved _ _ _ _ _ _ _ (·.queues client) _
    _ (fun _ => True) (fun stepped _ => step_conserves client stepped) _ _ run
      fun _ _ => trivial
  refine ⟨fun asleep unset => ⟨fun client listed quiet => ?_, fun none => ?_⟩,
    fun ended client listed => ?_⟩
  · have empty : loop.queues client = [] := by grind
    simpa [create, empty] using (kept client).symm
  · grind
  · have empty : loop.queues client = [] := by grind [Final]
    simpa [create, empty] using (kept client).symm

theorem nothing_left_over_one : ∃ loop history,
    history.filterMap (MainEvent.sentBy "net") =
      [.modbusNetworkState "net" true] ∧
    history.filterMap (MainEvent.processedOf "net") =
      [.modbusNetworkState "net" true] ∧
    Runs (MainLoop.step ["net"]) (fun _ _ _ => True) create loop history := by
  obtain ⟨loop, history, run, asleep, unset, quiet, sent⟩ :=
    Runs.exists_of_replay
      [.send "net" (.modbusNetworkState "net" true), .notify "net", .main,
        .main, .main, .main, .main, .main]
      (fun (loop : MainLoop) history => loop.phase = .waiting ∧
        loop.hasMessages = false ∧ loop.notifying "net" = false ∧
        history.filterMap (MainEvent.sentBy "net") =
          [.modbusNetworkState "net" true])
      (show (Runs.replay (MainLoop.step ["net"]) (fun _ _ _ => True) _
        (create, [])).any _ = true by decide +kernel)
  refine ⟨loop, history, sent, ?_, run⟩
  rw [← sent]
  exact ((nothing_left_over run).1 asleep unset).1 "net" (by simp) quiet

end MainLoop

end MqmGateway
