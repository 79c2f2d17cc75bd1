import Mathlib.Logic.Basic

/-!
# Runs of a machine that logs events

A machine answers an input with its next state and the events the step
produced, or refuses it.  A run keeps the whole history of events, because
most properties of interest compare a state with what happened before it.
The predicate `allowed` restricts the inputs of a run by the state and the
history they arrive in.

A `Trace` is the same for a relation: a sequence of small moves, each with the
events it logs.  A machine whose every step is a trace of moves inherits what
the moves preserve.
-/

/-- `Trace move start history state`: moves that log `history` in total lead
from `start` to `state`. -/
inductive Trace {σ ε : Type*} (move : σ → List ε → σ → Prop) (start : σ) :
    List ε → σ → Prop where
  | refl : Trace move start [] start
  | tail {history events : List ε} {state next : σ} :
      Trace move start history state →
      move state events next →
      Trace move start (history ++ events) next

namespace Trace

variable {σ ε : Type*} {move : σ → List ε → σ → Prop}

theorem single {start next : σ} {events : List ε}
    (moved : move start events next) : Trace move start events next := by
  have trace : Trace move start ([] ++ events) next := .tail .refl moved
  rwa [List.nil_append] at trace

theorem trans {start middle last : σ} {first second : List ε}
    (front : Trace move start first middle)
    (back : Trace move middle second last) :
    Trace move start (first ++ second) last := by
  induction back with
  | refl => rwa [List.append_nil]
  | tail _ moved induction =>
    rw [← List.append_assoc]
    exact .tail induction moved

theorem cons {start middle last : σ} {event : ε} {events : List ε}
    (moved : move start [event] middle)
    (rest : Trace move middle events last) :
    Trace move start (event :: events) last :=
  (single moved).trans rest

theorem at_event {start last : σ} {history : List ε}
    (short : ∀ {state events next}, move state events next → events.length ≤ 1)
    (trace : Trace move start history last) {before after : List ε} {event : ε}
    (split : history = before ++ event :: after) :
    ∃ state next, Trace move start before state ∧ move state [event] next ∧
      Trace move next after last := by
  induction trace generalizing after with
  | refl => simp at split
  | @tail history events state next earlier moved induction =>
    match events, short moved with
    | [], _ =>
      rw [List.append_nil] at split
      obtain ⟨middle, follower, front, here, back⟩ := induction split
      have extended := back.trans (.single moved)
      rw [List.append_nil] at extended
      exact ⟨middle, follower, front, here, extended⟩
    | [logged], _ =>
      rcases List.eq_nil_or_concat after with rfl | ⟨rest, final, rfl⟩
      · obtain ⟨rfl, same⟩ := List.append_inj' split rfl
        cases same
        exact ⟨state, next, earlier, moved, .refl⟩
      · rw [List.concat_eq_append, ← List.cons_append,
          ← List.append_assoc] at split
        obtain ⟨same, lastSame⟩ := List.append_inj' split rfl
        obtain ⟨middle, follower, front, here, back⟩ := induction same
        rw [List.concat_eq_append, ← lastSame]
        exact ⟨middle, follower, front, here, back.trans (.single moved)⟩

end Trace

/-- `Runs step allowed start state history`: some sequence of allowed inputs
leads from `start` to `state` and logs `history`. -/
inductive Runs {σ ι ε : Type*} (step : σ → ι → Option (σ × List ε))
    (allowed : σ → List ε → ι → Prop) (start : σ) : σ → List ε → Prop where
  | start : Runs step allowed start start []
  | step {state next : σ} {history events : List ε} {input : ι} :
      Runs step allowed start state history →
      allowed state history input →
      step state input = some (next, events) →
      Runs step allowed start next (history ++ events)

namespace Runs

variable {σ ι ε : Type*} {step : σ → ι → Option (σ × List ε)}
  {allowed : σ → List ε → ι → Prop} {start : σ}

theorem append {permits : σ → ι → Prop} {middle last : σ}
    {first second : List ε}
    (front : Runs step (fun state _ input => permits state input) start middle
      first)
    (back : Runs step (fun state _ input => permits state input) middle last
      second) :
    Runs step (fun state _ input => permits state input) start last
      (first ++ second) := by
  induction back with
  | start => rwa [List.append_nil]
  | step _ permitted stepped induction =>
    rw [← List.append_assoc]
    exact .step induction permitted stepped

theorem trace {τ : Type*} {move : τ → List ε → τ → Prop} {view : σ → τ}
    (refines : ∀ {state input next events},
      step state input = some (next, events) →
      Trace move (view state) events (view next))
    {state : σ} {history : List ε}
    (run : Runs step allowed start state history) :
    Trace move (view start) history (view state) := by
  induction run with
  | start => exact .refl
  | step _ _ stepped induction => exact induction.trans (refines stepped)

theorem conserved {α : Type*} {contents : σ → List α}
    {entering leaving : ε → Option α} {permitted : ε → Prop}
    (conserves : ∀ {state input next events},
      step state input = some (next, events) →
      (∀ event ∈ events, permitted event) →
      contents state ++ events.filterMap entering =
        events.filterMap leaving ++ contents next)
    {state : σ} {history : List ε}
    (run : Runs step allowed start state history)
    (permits : ∀ event ∈ history, permitted event) :
    contents start ++ history.filterMap entering =
      history.filterMap leaving ++ contents state := by
  induction run with
  | start => simp
  | @step state next history events input _ _ stepped induction =>
    obtain ⟨earlier, now⟩ := List.forall_mem_append.mp permits
    rw [List.filterMap_append, ← List.append_assoc, induction earlier,
      List.append_assoc, conserves stepped now, List.filterMap_append,
      List.append_assoc]

/-- Run a list of inputs, refusing those that are not allowed. -/
def replay (step : σ → ι → Option (σ × List ε))
    (allowed : σ → List ε → ι → Prop)
    [∀ state history input, Decidable (allowed state history input)] :
    List ι → σ × List ε → Option (σ × List ε)
  | [], reached => some reached
  | input :: inputs, reached =>
    if allowed reached.1 reached.2 input then
      match step reached.1 input with
      | none => none
      | some (next, events) =>
        replay step allowed inputs (next, reached.2 ++ events)
    else
      none

theorem of_replay
    [∀ state history input, Decidable (allowed state history input)]
    {inputs : List ι} {reached last : σ × List ε}
    (run : Runs step allowed start reached.1 reached.2)
    (replayed : replay step allowed inputs reached = some last) :
    Runs step allowed start last.1 last.2 := by
  induction inputs generalizing reached with
  | nil =>
    cases replayed
    exact run
  | cons input inputs induction =>
    rw [replay] at replayed
    split at replayed
    · rename_i permitted
      split at replayed
      · cases replayed
      · rename_i next events stepped
        exact induction (.step run permitted stepped) replayed
    · cases replayed

theorem exists_of_replay
    [∀ state history input, Decidable (allowed state history input)]
    (inputs : List ι) (property : σ → List ε → Prop)
    [∀ state history, Decidable (property state history)]
    (checked : (replay step allowed inputs (start, [])).any (fun last =>
      decide (property last.1 last.2)) = true) :
    ∃ state history, Runs step allowed start state history ∧
      property state history := by
  cases replayed : replay step allowed inputs (start, []) with
  | none =>
    rw [replayed] at checked
    cases checked
  | some last =>
    rw [replayed] at checked
    exact ⟨last.1, last.2, of_replay .start replayed,
      of_decide_eq_true checked⟩

/-- The machine with an observer beside it.  The observer has a state of its
own, sees every step and keeps its own log; the machine takes no notice. -/
def observe {γ δ : Type*} (step : σ → ι → Option (σ × List ε))
    (watch : σ × γ → ι → σ × List ε → γ × List δ) (watched : σ × γ)
    (input : ι) : Option ((σ × γ) × List δ) :=
  (step watched.1 input).map fun result =>
    let seen := watch watched input result
    ((result.1, seen.1), seen.2)

variable {γ δ : Type*} {watch : σ × γ → ι → σ × List ε → γ × List δ}
  {watched : σ × γ} {input : ι}

theorem observe_of_some {next : σ} {events : List ε}
    (stepped : step watched.1 input = some (next, events)) :
    observe step watch watched input =
      some ((next, (watch watched input (next, events)).1),
        (watch watched input (next, events)).2) := by
  rw [observe, stepped]
  rfl

theorem observe_eq_some {next : σ × γ} {seen : List δ}
    (observed : observe step watch watched input = some (next, seen)) :
    ∃ events, step watched.1 input = some (next.1, events) ∧
      watch watched input (next.1, events) = (next.2, seen) := by
  obtain ⟨⟨state, events⟩, stepped, same⟩ :=
    Option.map_eq_some_iff.mp observed
  cases same
  exact ⟨events, stepped, rfl⟩

end Runs
