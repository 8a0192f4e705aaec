/-
**Halting of a deterministic machine.**

A machine is a partial step function `step : σ → Option σ`; it has halted where there is no next
state. `Leads step start goal` says that some number of steps takes the one to the other, with
`none` for a machine that has halted.

* `Leads.halts_iff` — a machine that has halted or not is judged at any state on its way;
* `halts_iff_avoids` — if the steps of a machine decrease a measure except in a trap that it never
  leaves, it halts exactly when it never reaches the trap.
-/

import Mathlib.Order.Lattice

namespace Halting

variable {σ : Type*}

/-- The state after `n` steps. -/
def after (step : σ → Option σ) : Nat → Option σ → Option σ
  | 0, state => state
  | n + 1, state => after step n (state.bind step)

variable {step : σ → Option σ}

@[simp] theorem after_none (n : Nat) : after step n none = none := by
  induction n with
  | zero => rfl
  | succ n ih => exact ih

theorem after_add (m n : Nat) (state : Option σ) :
    after step (m + n) state = after step n (after step m state) := by
  induction m generalizing state with
  | zero => rw [Nat.zero_add, after]
  | succ m ih =>
    rw [Nat.succ_add, after, after]
    exact ih _

/-- Some number of steps takes `start` to `goal`. -/
def Leads (step : σ → Option σ) (start goal : Option σ) : Prop := ∃ n, after step n start = goal

namespace Leads

theorem refl (state : Option σ) : Leads step state state := ⟨0, rfl⟩

theorem trans {start middle goal : Option σ} (first : Leads step start middle)
    (second : Leads step middle goal) : Leads step start goal := by
  obtain ⟨m, rfl⟩ := first
  obtain ⟨n, rfl⟩ := second
  exact ⟨m + n, after_add m n start⟩

theorem step_of (state : σ) : Leads step (some state) (step state) := ⟨1, rfl⟩

/-- **A state on the way halts exactly when the start does.** -/
theorem halts_iff {start middle : Option σ} (way : Leads step start middle) :
    Leads step start none ↔ Leads step middle none := by
  constructor
  · rintro ⟨total, halted⟩
    obtain ⟨m, rfl⟩ := way
    refine ⟨total, ?_⟩
    rw [← after_add, Nat.add_comm, after_add, halted, after_none]
  · exact way.trans

end Leads

section Traps

variable {trapped : σ → Prop}

/-- A trap is never left. -/
theorem not_halts_of_trapped
    (closed : ∀ state, trapped state → ∃ next, step state = some next ∧ trapped next)
    {state : σ} (inside : trapped state) : ¬ Leads step (some state) none := by
  rintro ⟨n, halted⟩
  induction n generalizing state with
  | zero => cases halted
  | succ n ih =>
    obtain ⟨next, moves, stays⟩ := closed state inside
    rw [after, Option.bind_some, moves] at halted
    exact ih stays halted

/-- Outside the trap the measure decreases, so the machine halts. -/
theorem halts_of_avoids (measure : σ → Nat)
    (decreases : ∀ state next, ¬ trapped state → step state = some next →
      measure next < measure state)
    (state : σ) (avoids : ∀ reached, Leads step (some state) (some reached) → ¬ trapped reached) :
    Leads step (some state) none := by
  induction bound : measure state using Nat.strong_induction_on generalizing state with
  | _ bound ih =>
    have first : Leads step (some state) (step state) := Leads.step_of state
    cases moves : step state with
    | none =>
      rw [moves] at first
      exact first
    | some next =>
      rw [moves] at first
      have smaller := decreases state next (avoids state (Leads.refl _)) moves
      exact first.trans (ih _ (bound ▸ smaller) next
        (fun reached way => avoids reached (first.trans way)) rfl)

/-- **A machine that makes progress outside a trap halts exactly when it avoids the trap.** -/
theorem halts_iff_avoids (measure : σ → Nat)
    (decreases : ∀ state next, ¬ trapped state → step state = some next →
      measure next < measure state)
    (closed : ∀ state, trapped state → ∃ next, step state = some next ∧ trapped next) (state : σ) :
    Leads step (some state) none ↔
      ∀ reached, Leads step (some state) (some reached) → ¬ trapped reached := by
  constructor
  · intro halts reached way inside
    exact not_halts_of_trapped closed inside (way.halts_iff.mp halts)
  · exact halts_of_avoids measure decreases state

end Traps

end Halting
