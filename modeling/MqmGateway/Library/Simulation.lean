import MqmGateway.Library.Logged
import MqmGateway.Library.Runs

/-!
# Effects that are runs of a machine

A logged effect simulates a machine when what it does, seen through `view`, is
a run of the machine with the same log.  The rules are those of triples:
`before` holds before the effect, and `after` holds after it.
-/

namespace Logged

variable {π σ ι ε : Type*}

def Simulates (machine : σ → ι → Option (σ × List ε)) (view : π → σ)
    (before : π → Prop) (effect : Logged π ε) (after : π → Prop) : Prop :=
  ∀ part events next, before part → effect part = some (next, events) →
    after next ∧
      Runs machine (fun _ _ _ => True) (view part) (view next) events

namespace Simulates

variable {machine : σ → ι → Option (σ × List ε)} {view : π → σ}
  {before between after : π → Prop}

theorem andThen {first second : Logged π ε}
    (front : Simulates machine view before first between)
    (back : Simulates machine view between second after) :
    Simulates machine view before (first.andThen second) after := by
  intro part events next holds done
  obtain ⟨middle, early, late, began, ended, rfl⟩ := andThen_eq_some done
  obtain ⟨reached, ran⟩ := front _ _ _ holds began
  obtain ⟨kept, runs⟩ := back _ _ _ reached ended
  exact ⟨kept, ran.append runs⟩

theorem runs {κ : Type*} {step : π → κ → Option (π × List ε)}
    (each : ∀ input, Simulates machine view (fun _ => True)
      (fun part => step part input) after)
    {allowed : π → List ε → κ → Prop} {start last : π} {history : List ε}
    (run : Runs step allowed start last history) :
    Runs machine (fun _ _ _ => True) (view start) (view last) history := by
  induction run with
  | start => exact .start
  | step _ _ stepped induction =>
    exact induction.append (each _ _ _ _ trivial stepped).2

end Simulates

end Logged

theorem Runs.single {σ ι ε : Type*} {machine : σ → ι → Option (σ × List ε)}
    {start next : σ} {input : ι} {events : List ε}
    (moved : machine start input = some (next, events)) :
    Runs machine (fun _ _ _ => True) start next events := by
  rw [← List.nil_append events]
  exact .step .start trivial moved

theorem Runs.foldlM {σ τ ι ε : Type*} {step : σ → ι → Option (σ × List ε)}
    {allowed : σ → List ε → ι → Prop} {view : σ → τ} {check : τ → ε → Option τ}
    (each : ∀ {state input next events},
      step state input = some (next, events) →
      events.foldlM check (view state) = some (view next))
    {start last : σ} {history : List ε}
    (run : Runs step allowed start last history) :
    history.foldlM check (view start) = some (view last) := by
  induction run with
  | start => rfl
  | step _ _ stepped induction =>
    rw [List.foldlM_append, induction]
    exact each stepped
