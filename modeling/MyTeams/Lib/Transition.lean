/-
**Runs of a deterministic transition system.**

A system is a function `step : σ → ε → σ` from a state and an event to the next state; a run is the
fold of its events. An invariant is proved once for one step and carried to runs here:

* `run_invariant` — what every step keeps holds after every run;
* `run_invariant_of_assumption` — the same under an assumption about the environment that is stated
  for the last state of the run and inherited by every earlier one (a resource that has not run
  out, a supply that has not repeated itself);
* `Throughout` — a condition on every step of a run;
* `run_last_change` — an observation that a run has changed was last changed by one of its events;
* `run_iff_last_effect` — a property that some events set and others clear is what the last of them
  made it.
-/

import Mathlib.Data.List.Induction

namespace Transition

variable {σ ε : Type*} {step : σ → ε → σ}

/-- The state after a sequence of events. -/
def run (step : σ → ε → σ) (state : σ) (events : List ε) : σ := events.foldl step state

@[simp] theorem run_nil (state : σ) : run step state [] = state := rfl

@[simp] theorem run_cons (state : σ) (event : ε) (events : List ε) :
    run step state (event :: events) = run step (step state event) events := rfl

theorem run_append (state : σ) (first second : List ε) :
    run step state (first ++ second) = run step (run step state first) second :=
  List.foldl_append

theorem run_concat (state : σ) (events : List ε) (event : ε) :
    run step state (events ++ [event]) = step (run step state events) event := by
  rw [run_append, run_cons, run_nil]

/-- **What every step keeps holds after every run.** -/
theorem run_invariant (P : σ → Prop) (keeps : ∀ state event, P state → P (step state event))
    {state : σ} (start : P state) (events : List ε) : P (run step state events) := by
  induction events generalizing state with
  | nil => exact start
  | cons event rest ih => exact ih (keeps state event start)

/-- **An invariant under an assumption on the last state.** The assumption is inherited by earlier
states, so every step may use it after itself. -/
theorem run_invariant_of_assumption (P assumed : σ → Prop)
    (earlier : ∀ state event, assumed (step state event) → assumed state)
    (keeps : ∀ state event, assumed (step state event) → P state → P (step state event))
    {state : σ} (start : P state) (events : List ε) (holds : assumed (run step state events)) :
    P (run step state events) := by
  induction events using List.reverseRecOn with
  | nil => exact start
  | append_singleton events event ih =>
    rw [run_concat] at holds ⊢
    exact keeps _ _ holds (ih (earlier _ _ holds))

/-- Every step of a run satisfies `P`, in the state in which it is taken. -/
def Throughout (step : σ → ε → σ) (P : σ → ε → Prop) (state : σ) (events : List ε) : Prop :=
  ∀ before event, before ++ [event] <+: events → P (run step state before) event

section Throughout

variable {P : σ → ε → Prop} {state : σ}

theorem throughout_nil : Throughout step P state [] := by
  intro before event initial
  simp at initial

theorem throughout_cons {event : ε} {events : List ε} :
    Throughout step P state (event :: events) ↔
      P state event ∧ Throughout step P (step state event) events := by
  constructor
  · intro holds
    exact ⟨holds [] event (by simp), fun before later initial =>
      holds (event :: before) later (List.cons_prefix_cons.mpr ⟨rfl, initial⟩)⟩
  · rintro ⟨first, rest⟩ before later initial
    cases before with
    | nil =>
      obtain ⟨rfl, -⟩ := List.cons_prefix_cons.mp initial
      exact first
    | cons head before =>
      obtain ⟨rfl, inside⟩ := List.cons_prefix_cons.mp initial
      exact rest before later inside

theorem throughout_append {first second : List ε} :
    Throughout step P state (first ++ second) ↔
      Throughout step P state first ∧ Throughout step P (run step state first) second := by
  induction first generalizing state with
  | nil => exact ⟨fun holds => ⟨throughout_nil, holds⟩, And.right⟩
  | cons event rest ih =>
    rw [List.cons_append, throughout_cons, throughout_cons, ih, run_cons, and_assoc]

theorem throughout_concat {events : List ε} {event : ε} :
    Throughout step P state (events ++ [event]) ↔
      Throughout step P state events ∧ P (run step state events) event := by
  rw [throughout_append, throughout_cons]
  exact ⟨fun both => ⟨both.1, both.2.1⟩, fun both => ⟨both.1, both.2, throughout_nil⟩⟩

theorem Throughout.of_prefix {early events : List ε} (holds : Throughout step P state events)
    (initial : early <+: events) : Throughout step P state early :=
  fun before event inside => holds before event (inside.trans initial)

end Throughout

/-- **The last change of an observation.** If a run has changed what is observed of the state, one
of its events set it to its last value, and it has had this value since. -/
theorem run_last_change {α : Type*} (observe : σ → α) (state : σ) (events : List ε)
    (changed : observe (run step state events) ≠ observe state) :
    ∃ before event after, events = before ++ event :: after ∧
      observe (run step state (before ++ [event])) ≠ observe (run step state before) ∧
      ∀ between, between <+: after →
        observe (run step state (before ++ event :: between)) = observe (run step state events) := by
  induction events using List.reverseRecOn with
  | nil => exact absurd rfl changed
  | append_singleton events event ih =>
    by_cases same : observe (run step state (events ++ [event])) = observe (run step state events)
    · obtain ⟨before, setter, after, rfl, sets, since⟩ := ih (same ▸ changed)
      refine ⟨before, setter, after ++ [event], by simp, sets, fun between initial => ?_⟩
      rcases List.prefix_concat_iff.mp initial with rfl | earlier
      · simp
      · rw [since between earlier, same]
    · refine ⟨events, event, [], rfl, same, fun between initial => ?_⟩
      rw [List.prefix_nil.mp initial]

/-! ### The last effect -/

section LastEffect

variable {P : σ → Prop} {sets clears : σ → ε → Prop}

/-- The last event of a run that sets or clears something is one that sets it. -/
def LastSets (step : σ → ε → σ) (sets clears : σ → ε → Prop) (state : σ) (events : List ε) : Prop :=
  ∃ before event after, events = before ++ event :: after ∧ sets (run step state before) event ∧
    Throughout step (fun state event => ¬ sets state event ∧ ¬ clears state event)
      (run step state (before ++ [event])) after

/-- What an event does to `P`. -/
structure Effects (step : σ → ε → σ) (P : σ → Prop) (sets clears : σ → ε → Prop) (state : σ) (event : ε) :
    Prop where
  set : sets state event → P (step state event)
  clear : clears state event → ¬ P (step state event)
  keep : ¬ sets state event → ¬ clears state event → (P (step state event) ↔ P state)

/-- The last effect of a run with one more event is that event, unless it has none. -/
theorem lastSets_concat {state : σ} {events : List ε} {event : ε} :
    LastSets step sets clears state (events ++ [event]) ↔ sets (run step state events) event ∨
      LastSets step sets clears state events ∧
        ¬ sets (run step state events) event ∧ ¬ clears (run step state events) event := by
  constructor
  · rintro ⟨before, setter, after, split, isSet, since⟩
    rcases List.eq_nil_or_concat after with rfl | ⟨rest, final, rfl⟩
    · obtain ⟨rfl, last⟩ := List.append_inj' split rfl
      cases last
      exact Or.inl isSet
    · rw [List.concat_eq_append] at split since
      have whole : events ++ [event] = (before ++ setter :: rest) ++ [final] := by simpa using split
      obtain ⟨rfl, last⟩ := List.append_inj' whole rfl
      cases last
      obtain ⟨earlier, idle⟩ := throughout_concat.mp since
      rw [← run_append, List.append_assoc, List.singleton_append] at idle
      exact Or.inr ⟨⟨before, setter, rest, rfl, isSet, earlier⟩, idle⟩
  · rintro (isSet | ⟨⟨before, setter, after, rfl, isSet, since⟩, idle⟩)
    · exact ⟨events, event, [], rfl, isSet, throughout_nil⟩
    · refine ⟨before, setter, after ++ [event], by simp, isSet, throughout_concat.mpr ⟨since, ?_⟩⟩
      rwa [← run_append, List.append_assoc, List.singleton_append]

/-- **The last effect decides.** A property that does not hold at first, and that every event of a run
sets, clears or keeps, holds after the run exactly if the last event with an effect sets it. -/
theorem run_iff_last_effect {state : σ} (start : ¬ P state) {events : List ε}
    (effects : Throughout step (Effects step P sets clears) state events) :
    P (run step state events) ↔ LastSets step sets clears state events := by
  induction events using List.reverseRecOn with
  | nil =>
    refine ⟨fun holds => absurd holds start, ?_⟩
    rintro ⟨before, event, after, nothing, -⟩
    simp at nothing
  | append_singleton events event ih =>
    obtain ⟨early, last⟩ := throughout_concat.mp effects
    rw [run_concat, lastSets_concat]
    by_cases isSet : sets (run step state events) event
    · exact ⟨fun _ => Or.inl isSet, fun _ => last.set isSet⟩
    by_cases isCleared : clears (run step state events) event
    · refine ⟨fun holds => absurd holds (last.clear isCleared), ?_⟩
      rintro (wasSet | ⟨-, -, unclear⟩)
      · exact absurd wasSet isSet
      · exact absurd isCleared unclear
    · rw [last.keep isSet isCleared, ih early]
      exact ⟨fun earlier => Or.inr ⟨earlier, isSet, isCleared⟩,
        fun either => (either.resolve_left isSet).1⟩

end LastEffect

end Transition
