import MqmGateway.Executor.WriteOrder
import MqmGateway.Library.Latest

/-!
# Turns of polls and writes

The queues of one slave under any sequence of calls.  Polls and writes leave
each in the order they came, and whichever kind was taken last gives way to
the other one.
-/

namespace MqmGateway

open ModbusExecutor (delayedPoll)

/-- The calls on the queues of a slave. -/
inductive QueueCall where
  | addPollList (pollList : List RegisterPoll)
  | addWriteCommand (request : RegisterWrite)
  | readdCommand (command : RegisterCommand)
  | popNext
deriving DecidableEq

/-- How commands enter and leave the queues. -/
inductive QueueEvent where
  | inserted (command : RegisterCommand)
  | readded (command : RegisterCommand)
  | popped (command : RegisterCommand)
deriving DecidableEq

namespace RegisterCommand

def poll? : RegisterCommand → Option RegisterPoll
  | .poll reg => some reg
  | .write _ => none

def write? : RegisterCommand → Option RegisterWrite
  | .poll _ => none
  | .write cmd => some cmd

end RegisterCommand

namespace QueueEvent

def insertedCommand : QueueEvent → Option RegisterCommand
  | .inserted command => some command
  | _ => none

def poppedCommand : QueueEvent → Option RegisterCommand
  | .popped command => some command
  | _ => none

def isReadded : QueueEvent → Bool
  | .readded _ => true
  | _ => false

def turn : QueueEvent → Option Bool
  | .inserted _ => none
  | .readded command => some command.isPoll
  | .popped command => some !command.isPoll

end QueueEvent

namespace ModbusRequestsQueues

/-- The polls of the list that are not queued, each of them once. -/
def newPolls (queue : ModbusRequestsQueues) (pollList : List RegisterPoll) :
    List RegisterPoll :=
  (pollList.filter (· ∉ queue.pollQueue)).eraseDups

/-- One call; `none` is a pop from an empty deque. -/
def step (queue : ModbusRequestsQueues) :
    QueueCall → Option (ModbusRequestsQueues × List QueueEvent)
  | .addPollList pollList =>
    some ((queue.addPollList pollList).1,
      (queue.newPolls pollList).map fun reg => .inserted (.poll reg))
  | .addWriteCommand request =>
    some (queue.addWriteCommand request, [.inserted (.write request)])
  | .readdCommand command =>
    some (queue.readdCommand command, [.readded command])
  | .popNext =>
    queue.popNext.map fun popped => (popped.2, [.popped popped.1])

def Sensible (queue : ModbusRequestsQueues) (_ : List QueueEvent)
    (call : QueueCall) : Prop :=
  call = .popNext → queue.empty = false

instance (queue : ModbusRequestsQueues) (history : List QueueEvent)
    (call : QueueCall) : Decidable (queue.Sensible history call) :=
  inferInstanceAs (Decidable (_ → _))

variable {queue next rest : ModbusRequestsQueues} {call : QueueCall}
  {events : List QueueEvent} {command : RegisterCommand}

theorem newPolls_of_mem {poll : RegisterPoll}
    (queued : poll ∈ queue.pollQueue) (pollList : List RegisterPoll) :
    queue.newPolls (poll :: pollList) = queue.newPolls pollList := by
  simp [newPolls, queued]

theorem newPolls_of_not_mem
    {poll : RegisterPoll} (absent : poll ∉ queue.pollQueue)
    (pollList : List RegisterPoll) :
    queue.newPolls (poll :: pollList) = poll :: newPolls
        { queue with pollQueue := queue.pollQueue ++ [poll] } pollList := by
  rw [newPolls, List.filter_cons_of_pos (by simpa using absent),
    List.eraseDups_cons, List.filter_filter]
  simp [newPolls, and_comm, ← beq_iff_eq]

theorem addPollList_pollQueue (queue : ModbusRequestsQueues)
    (pollList : List RegisterPoll) :
    (queue.addPollList pollList).1.pollQueue =
      queue.pollQueue ++ queue.newPolls pollList := by
  induction pollList generalizing queue with
  | nil => simp [addPollList, newPolls]
  | cons poll pollList induction =>
    rw [addPollList]
    split
    · rename_i queued
      rw [newPolls_of_mem queued]
      exact induction queue
    · rename_i absent
      rw [newPolls_of_not_mem absent]
      dsimp only
      rw [induction, List.append_assoc]
      rfl

theorem addPollList_others (queue : ModbusRequestsQueues)
    (pollList : List RegisterPoll) :
    (queue.addPollList pollList).1.writeQueue = queue.writeQueue ∧
      (queue.addPollList pollList).1.popFromPoll = queue.popFromPoll := by
  induction pollList generalizing queue with
  | nil => exact ⟨rfl, rfl⟩
  | cons poll pollList induction =>
    rw [addPollList]
    split
    · exact induction queue
    · exact induction { queue with pollQueue := queue.pollQueue ++ [poll] }

theorem step_addPollList_inserted (queue : ModbusRequestsQueues)
    (pollList : List RegisterPoll) :
    ((queue.newPolls pollList).map fun reg =>
        QueueEvent.inserted (.poll reg)).filterMap
          (fun event => event.insertedCommand.bind RegisterCommand.poll?) =
      queue.newPolls pollList := by
  rw [List.filterMap_map]
  exact List.filterMap_some

theorem step_polls (stepped : queue.step call = some (next, events))
    (permitted : ∀ event ∈ events, event.isReadded = false) :
    queue.pollQueue ++ events.filterMap
        (fun event => event.insertedCommand.bind RegisterCommand.poll?) =
      events.filterMap
          (fun event => event.poppedCommand.bind RegisterCommand.poll?) ++
        next.pollQueue := by
  cases call with
  | addPollList pollList =>
    cases stepped
    rw [step_addPollList_inserted, addPollList_pollQueue, List.filterMap_map]
    simp [QueueEvent.poppedCommand, Function.comp_def]
  | addWriteCommand request =>
    cases stepped
    simp [QueueEvent.insertedCommand, QueueEvent.poppedCommand,
      RegisterCommand.poll?, addWriteCommand]
  | readdCommand command =>
    cases stepped
    simp [QueueEvent.isReadded] at permitted
  | popNext =>
    obtain ⟨⟨command, rest⟩, popped, same⟩ := Option.map_eq_some_iff.mp stepped
    cases same
    rcases popNext_eq_some popped with
      ⟨reg, rfl, polls, _⟩ | ⟨cmd, rfl, _, polls⟩ <;>
    simp [QueueEvent.insertedCommand, QueueEvent.poppedCommand,
      RegisterCommand.poll?, polls]

theorem step_writes (stepped : queue.step call = some (next, events))
    (permitted : ∀ event ∈ events, event.isReadded = false) :
    queue.writeQueue ++ events.filterMap
        (fun event => event.insertedCommand.bind RegisterCommand.write?) =
      events.filterMap
          (fun event => event.poppedCommand.bind RegisterCommand.write?) ++
        next.writeQueue := by
  cases call with
  | addPollList pollList =>
    cases stepped
    rw [(addPollList_others queue pollList).1, List.filterMap_map,
      List.filterMap_map]
    simp [QueueEvent.insertedCommand, QueueEvent.poppedCommand,
      RegisterCommand.write?, Function.comp_def]
  | addWriteCommand request =>
    cases stepped
    simp [QueueEvent.insertedCommand, QueueEvent.poppedCommand,
      RegisterCommand.write?, addWriteCommand]
  | readdCommand command =>
    cases stepped
    simp [QueueEvent.isReadded] at permitted
  | popNext =>
    obtain ⟨⟨command, rest⟩, popped, same⟩ := Option.map_eq_some_iff.mp stepped
    cases same
    rcases popNext_eq_some popped with
      ⟨reg, rfl, _, writes⟩ | ⟨cmd, rfl, writes, _⟩ <;>
    simp [QueueEvent.insertedCommand, QueueEvent.poppedCommand,
      RegisterCommand.write?, writes]

theorem popPoll_turn (popped : queue.popPoll = some (command, rest)) :
    command.isPoll = true ∧ rest.popFromPoll = queue.popFromPoll := by
  rw [popPoll] at popped
  split at popped
  · cases popped
  · cases popped
    exact ⟨rfl, rfl⟩

theorem popWrite_turn (popped : queue.popWrite = some (command, rest)) :
    command.isPoll = false ∧ rest.popFromPoll = queue.popFromPoll := by
  rw [popWrite] at popped
  split at popped
  · cases popped
  · cases popped
    exact ⟨rfl, rfl⟩

theorem popNext_turn (popped : queue.popNext = some (command, rest)) :
    rest.popFromPoll = !command.isPoll := by
  rw [popNext] at popped
  split at popped
  · rename_i turn
    split at popped
    · obtain ⟨kind, kept⟩ := popWrite_turn popped
      rw [kind, kept, turn]
      rfl
    · obtain ⟨kind, kept⟩ := popPoll_turn popped
      rw [kind, kept]
      rfl
  · rename_i turn
    split at popped
    · obtain ⟨kind, kept⟩ := popPoll_turn popped
      rw [kind, kept, Bool.not_true]
      exact Bool.eq_false_iff.mpr turn
    · obtain ⟨kind, kept⟩ := popWrite_turn popped
      rw [kind, kept]
      rfl

theorem popNext_isPoll (popped : queue.popNext = some (command, rest))
    (pending : if queue.popFromPoll then queue.pollQueue ≠ []
      else queue.writeQueue ≠ []) :
    command.isPoll = queue.popFromPoll := by
  rw [popNext] at popped
  split at popped
  · rename_i turn
    rw [if_pos turn] at pending
    rw [if_neg (by simpa using pending)] at popped
    rw [(popPoll_turn popped).1, turn]
  · rename_i turn
    rw [if_neg turn] at pending
    rw [if_neg (by simpa using pending)] at popped
    rw [(popWrite_turn popped).1, Bool.eq_false_iff.mpr turn]

theorem step_turn (stepped : queue.step call = some (next, events)) :
    next.popFromPoll = (latest QueueEvent.turn events).getD queue.popFromPoll := by
  cases call with
  | addPollList pollList =>
    cases stepped
    have silent : latest QueueEvent.turn ((queue.newPolls pollList).map
        fun reg => .inserted (.poll reg)) = none := by
      rw [latest_translate]
      exact latest_eq_none_iff.mpr fun _ _ => rfl
    rw [silent]
    exact (addPollList_others queue pollList).2
  | addWriteCommand request =>
    cases stepped
    rfl
  | readdCommand command =>
    cases stepped
    cases command <;> rfl
  | popNext =>
    obtain ⟨⟨command, rest⟩, popped, same⟩ := Option.map_eq_some_iff.mp stepped
    cases same
    exact popNext_turn popped

theorem run_turn {start : ModbusRequestsQueues} {history : List QueueEvent}
    (run : Runs step Sensible start queue history) :
    queue.popFromPoll =
      (latest QueueEvent.turn history).getD start.popFromPoll := by
  induction run with
  | start => rfl
  | @step queue next history events call _ _ stepped induction =>
    rw [step_turn stepped, induction, latest_append]
    cases latest QueueEvent.turn events <;> rfl

theorem readdCommand_popNext (queue : ModbusRequestsQueues)
    (command : RegisterCommand) :
    ∃ rest, (queue.readdCommand command).popNext = some (command, rest) := by
  cases command <;>
    exact ⟨_, rfl⟩

theorem step_isSome {history : List QueueEvent}
    (sensible : queue.Sensible history call) :
    (queue.step call).isSome := by
  cases call with
  | popNext =>
    obtain ⟨popped, found⟩ := popNext_isSome (sensible rfl)
    simp [step, found]
  | _ => rfl

/-- Over any run of calls: nothing is popped from an empty deque; polls and
writes leave in the order of their insertion if none is put back; a pop after
another one takes the other kind if one is pending; and what was put back is
taken next. -/
theorem queues_alternate {start queue : ModbusRequestsQueues}
    {history : List QueueEvent}
    (run : Runs step Sensible start queue history) :
    (∀ call, queue.Sensible history call → (queue.step call).isSome) ∧
    ((∀ event ∈ history, event.isReadded = false) →
      start.pollQueue ++ history.filterMap
          (fun event => event.insertedCommand.bind RegisterCommand.poll?) =
        history.filterMap
            (fun event => event.poppedCommand.bind RegisterCommand.poll?) ++
          queue.pollQueue ∧
      start.writeQueue ++ history.filterMap
          (fun event => event.insertedCommand.bind RegisterCommand.write?) =
        history.filterMap
            (fun event => event.poppedCommand.bind RegisterCommand.write?) ++
          queue.writeQueue) ∧
    (∀ before between first second rest,
      history = before ++ .popped first :: between →
      (∀ event ∈ between, ∃ command, event = .inserted command) →
      queue.popNext = some (second, rest) →
      (if first.isPoll then queue.writeQueue ≠ [] else queue.pollQueue ≠ []) →
      second.isPoll = !first.isPoll) ∧
    (∀ command, ∃ rest,
      (queue.readdCommand command).popNext = some (command, rest)) := by
  refine ⟨fun call sensible => step_isSome sensible, ?_, ?_,
    readdCommand_popNext queue⟩
  · intro unreadded
    exact ⟨run.conserved step_polls unreadded,
      run.conserved step_writes unreadded⟩
  · intro before between first second rest split inserted popped pending
    have silent : ∀ event ∈ between, event.turn = none := by
      intro event listed
      obtain ⟨command, rfl⟩ := inserted event listed
      rfl
    have turn : queue.popFromPoll = !first.isPoll := by
      rw [run_turn run, split, List.append_cons, latest_append_of_none silent,
        latest_append, latest_singleton]
      rfl
    rw [← turn]
    apply popNext_isPoll popped
    rw [turn]
    cases kind : first.isPoll <;> simpa [kind] using pending

/-- Two polls and two writes: the first poll is taken, and a write after it. -/
theorem queues_alternate_after_poll : ∃ queue history,
      Runs step Sensible {} queue history ∧
      history = [.inserted (.poll (delayedPoll 1 0)),
        .inserted (.poll (delayedPoll 2 0)),
        .inserted (.write (retriedWrite 1 5)),
        .popped (.poll (delayedPoll 1 0)),
        .inserted (.write (retriedWrite 2 6))] ∧
      queue.pollQueue = [delayedPoll 2 0] ∧
      queue.writeQueue = [retriedWrite 1 5, retriedWrite 2 6] ∧
      ∀ second rest, queue.popNext = some (second, rest) →
        second.isPoll = false := by
  obtain ⟨queue, history, run, logged, polls, writes⟩ :=
    Runs.exists_of_replay
      [.addPollList [delayedPoll 1 0,
          delayedPoll 2 0, delayedPoll 1 0],
        .addWriteCommand (retriedWrite 1 5), .popNext,
        .addWriteCommand (retriedWrite 2 6)]
      (fun queue history =>
        history = [.inserted (.poll (delayedPoll 1 0)),
          .inserted (.poll (delayedPoll 2 0)),
          .inserted (.write (retriedWrite 1 5)),
          .popped (.poll (delayedPoll 1 0)),
          .inserted (.write (retriedWrite 2 6))] ∧
        queue.pollQueue = [delayedPoll 2 0] ∧
        queue.writeQueue = [retriedWrite 1 5, retriedWrite 2 6])
      (show (Runs.replay step Sensible _ ({}, [])).any _ = true by decide)
  refine ⟨queue, history, run, logged, polls, writes, ?_⟩
  intro second rest popped
  refine (queues_alternate run).2.2.1 (history.take 3)
    [.inserted (.write (retriedWrite 2 6))]
    (.poll (delayedPoll 1 0)) second rest (by rw [logged]; rfl)
    ?_ popped ?_
  · intro event listed
    exact ⟨_, List.mem_singleton.mp listed⟩
  · simp [RegisterCommand.isPoll, writes]

end ModbusRequestsQueues

end MqmGateway
