/-
**Replicas.**

An observer of a transition system is told something by its steps (`told`, everything so far), and keeps
a copy of what it cannot see (`observe`). It changes its copy at each item that it hears (`hear`).

* `Follows` — from one state to another, the copy stays right;
* `Follows.trans`, `run_follows` — if every step of a run keeps it right, the run does;
* `foldl_deaf` — items that change no copy.
-/

import MyTeams.Lib.Transition

namespace Replica

open Transition

variable {σ ε ρ ν : Type*}

/-- What the observer was told between two states makes the one observation out of the other. -/
def Follows (observe : σ → ρ) (told : σ → List ν) (hear : ρ → ν → ρ) (state after : σ) : Prop :=
  ∃ news, told after = told state ++ news ∧ observe after = news.foldl hear (observe state)

section Follows

variable {observe : σ → ρ} {told : σ → List ν} {hear : ρ → ν → ρ} {first second third : σ}

theorem Follows.refl (state : σ) : Follows observe told hear state state :=
  ⟨[], (List.append_nil _).symm, rfl⟩

theorem Follows.trans (early : Follows observe told hear first second)
    (late : Follows observe told hear second third) : Follows observe told hear first third := by
  obtain ⟨news, heard, seen⟩ := early
  obtain ⟨more, told, shown⟩ := late
  refine ⟨news ++ more, ?_, ?_⟩
  · rw [told, heard, List.append_assoc]
  · rw [shown, seen, List.foldl_append]

/-- The copy, made out of what was told since. -/
theorem Follows.observe_eq (follows : Follows observe told hear first second) :
    observe second = ((told second).drop (told first).length).foldl hear (observe first) := by
  obtain ⟨news, heard, seen⟩ := follows
  rw [heard, List.drop_left]
  exact seen

/-- **A copy that every step keeps right is right after every run.** -/
theorem run_follows {step : σ → ε → σ} {state : σ} {events : List ε}
    (each : Throughout step (fun state event => Follows observe told hear state (step state event))
      state events) : Follows observe told hear state (run step state events) := by
  induction events using List.reverseRecOn with
  | nil => exact .refl state
  | append_singleton events event ih =>
    obtain ⟨early, last⟩ := throughout_concat.mp each
    rw [run_concat]
    exact (ih early).trans last

/-- Items that no copy listens to. -/
theorem foldl_deaf {news : List ν} (deaf : ∀ item ∈ news, ∀ copy, hear copy item = copy) (copy : ρ) :
    news.foldl hear copy = copy := by
  induction news generalizing copy with
  | nil => rfl
  | cons item rest ih =>
    obtain ⟨first, later⟩ := List.forall_mem_cons.mp deaf
    rw [List.foldl_cons, first, ih later]

end Follows

end Replica
