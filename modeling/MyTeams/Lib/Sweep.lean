/-
**One turn for each member.**

A system has members, and each of them takes a turn: some events that depend on the state in which it comes. What
a turn achieves for its member lasts, if the turns of the others do not undo it.

* `sweep` — the events of all turns, one after the other;
* `sweep_achieves` — what each member has reached in the end;
* `length_sweep_le` — how many events these are at most;
* `foldl_single` — a fold in which one member does something.
-/

import MyTeams.Lib.Transition

namespace Sweep

open Transition

variable {σ ε κ : Type*}

/-- Each member takes its turn. -/
def sweep (step : σ → ε → σ) (turn : κ → σ → List ε) : List κ → σ → List ε
  | [], _ => []
  | key :: rest, state => turn key state ++ sweep step turn rest (run step state (turn key state))

variable {step : σ → ε → σ} {turn : κ → σ → List ε} {key : κ} {keys : List κ}

theorem run_sweep_cons (state : σ) : run step state (sweep step turn (key :: keys) state)
    = run step (run step state (turn key state)) (sweep step turn keys (run step state (turn key state))) :=
  run_append _ _ _

/-- What the turns of others keep, a sweep without a turn of this member keeps. -/
theorem sweep_keeps {P : σ → Prop} (keeps : ∀ state, ∀ other ∈ keys, P state → P (run step state (turn other state)))
    {state : σ} (start : P state) : P (run step state (sweep step turn keys state)) := by
  induction keys generalizing state with
  | nil => exact start
  | cons head rest ih =>
    rw [run_sweep_cons]
    exact ih (fun state other member => keeps state other (List.mem_cons_of_mem _ member))
      (keeps state head List.mem_cons_self start)

/-- **What a turn achieves lasts to the end of the sweep.** `P` is what the turn needs, `Q` what it achieves. -/
theorem sweep_achieves {P Q : σ → Prop} (distinct : keys.Nodup) (member : key ∈ keys)
    (achieves : ∀ state, P state → Q (run step state (turn key state)))
    (before : ∀ state, ∀ other ∈ keys, other ≠ key → P state → P (run step state (turn other state)))
    (after : ∀ state, ∀ other ∈ keys, other ≠ key → Q state → Q (run step state (turn other state)))
    {state : σ} (start : P state) : Q (run step state (sweep step turn keys state)) := by
  induction keys generalizing state with
  | nil => cases member
  | cons head rest ih =>
    obtain ⟨absent, others⟩ := List.nodup_cons.mp distinct
    rw [run_sweep_cons]
    by_cases here : head = key
    · subst here
      exact sweep_keeps (fun state other inside => after state other (List.mem_cons_of_mem _ inside)
        fun same => absent (same ▸ inside)) (achieves state start)
    · have later : key ∈ rest := (List.mem_cons.mp member).resolve_left fun same => here same.symm
      exact ih others later (fun state other inside => before state other (List.mem_cons_of_mem _ inside))
        (fun state other inside => after state other (List.mem_cons_of_mem _ inside))
        (before state head List.mem_cons_self here start)

theorem length_sweep_le {bound : Nat} (short : ∀ key state, (turn key state).length ≤ bound) (state : σ) :
    (sweep step turn keys state).length ≤ bound * keys.length := by
  induction keys generalizing state with
  | nil => exact Nat.zero_le _
  | cons head rest ih =>
    have first := short head state
    have later := ih (run step state (turn head state))
    rw [sweep, List.length_append, List.length_cons, Nat.mul_succ]
    omega

theorem foldl_of_idle {f : σ → κ → σ} {state : σ} (idle : ∀ other ∈ keys, ∀ state, f state other = state) :
    keys.foldl f state = state := by
  induction keys generalizing state with
  | nil => rfl
  | cons head rest ih =>
    rw [List.foldl_cons, idle head List.mem_cons_self]
    exact ih fun other member => idle other (List.mem_cons_of_mem _ member)

/-- If only one member does something, the others may come before and after it. -/
theorem foldl_single {f : σ → κ → σ} {state : σ} (distinct : keys.Nodup) (member : key ∈ keys)
    (idle : ∀ other ∈ keys, other ≠ key → ∀ state, f state other = state) : keys.foldl f state = f state key := by
  induction keys generalizing state with
  | nil => cases member
  | cons head rest ih =>
    obtain ⟨absent, others⟩ := List.nodup_cons.mp distinct
    rw [List.foldl_cons]
    by_cases here : head = key
    · subst here
      exact foldl_of_idle fun other inside => idle other (List.mem_cons_of_mem _ inside) fun same =>
        absent (same ▸ inside)
    · rw [idle head List.mem_cons_self here]
      exact ih others ((List.mem_cons.mp member).resolve_left fun same => here same.symm) fun other inside =>
        idle other (List.mem_cons_of_mem _ inside)

end Sweep
