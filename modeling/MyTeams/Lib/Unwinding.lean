/-
**Unwinding.**

Two runs of one transition system are to look the same to an observer, although some of their events differ.
It is enough that every pair of corresponding steps keeps what the two states have in common.

* `Corresponds` — two lists of events, pair by pair, where what may differ depends on the state;
* `run_related` — what corresponding steps keep, the runs keep.
-/

import MyTeams.Lib.Transition

namespace Unwinding

open Transition

variable {σ ε : Type*} {step : σ → ε → σ} {differ : σ → ε → ε → Prop}

/-- Two lists of events of the same length; each pair may differ as `differ` says in the state that the first run
has reached. -/
inductive Corresponds (step : σ → ε → σ) (differ : σ → ε → ε → Prop) : σ → List ε → List ε → Prop
  | nil (state : σ) : Corresponds step differ state [] []
  | cons {state : σ} {event other : ε} {events others : List ε} : differ state event other →
      Corresponds step differ (step state event) events others →
      Corresponds step differ state (event :: events) (other :: others)

/-- **What corresponding steps keep, corresponding runs keep**, under an assumption on every state of the first
run. -/
theorem run_related {R : σ → σ → Prop} (assumed : σ → Prop)
    (keeps : ∀ {state other : σ} {event event' : ε}, assumed state → assumed (step state event) → R state other →
      differ state event event' → R (step state event) (step other event'))
    {state other : σ} {events events' : List ε} (corresponds : Corresponds step differ state events events')
    (holds : ∀ early, early <+: events → assumed (run step state early)) (start : R state other) :
    R (run step state events) (run step other events') := by
  induction corresponds generalizing other with
  | nil => exact start
  | @cons state event event' events events' related rest ih =>
    have now : assumed state := holds [] List.nil_prefix
    have next : assumed (step state event) := holds [event] (List.prefix_append [event] events)
    exact ih (fun early initial => holds (event :: early) (List.cons_prefix_cons.mpr ⟨rfl, initial⟩))
      (keeps now next start related)

end Unwinding
