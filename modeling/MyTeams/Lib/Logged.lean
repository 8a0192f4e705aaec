/-
**Computations that keep a log.**

A `Logged ω α` is a run that records entries of type `ω` and either ends with a value or is cut off. The
log of a run that is cut off is what it has recorded until then.

* `Always` — every entry satisfies a predicate, and so does the value: one rule for each way to build a
  run (`always_pure`, `always_record`, `always_stop`, `Always.bind`, `Always.ite`);
* `Continues` — a run goes on where another was cut off (`Continues.bind`, `Continues.ite`).
-/

import Mathlib.Data.List.Infix

/-- A run with its log; `none` if it was cut off. -/
structure Logged (ω α : Type*) where
  log : List ω
  result : Option α

namespace Logged

universe u

variable {ω : Type*} {α β : Type u}

/-- First one run, then, if it ends, another. -/
def andThen (first : Logged ω α) (next : α → Logged ω β) : Logged ω β :=
  match first.result with
  | none => ⟨first.log, none⟩
  | some value => ⟨first.log ++ (next value).log, (next value).result⟩

instance : Monad (Logged ω) where
  pure value := ⟨[], some value⟩
  bind := andThen

/-- One entry, and a value. -/
def record (entry : ω) (value : α) : Logged ω α := ⟨[entry], some value⟩

/-- The run is cut off. -/
def stop : Logged ω α := ⟨[], none⟩

/-! ### Results -/

@[simp] theorem result_pure (value : α) : (pure value : Logged ω α).result = some value := rfl

@[simp] theorem result_record (entry : ω) (value : α) : (record entry value).result = some value := rfl

@[simp] theorem result_stop : (stop : Logged ω α).result = none := rfl

@[simp] theorem result_bind (first : Logged ω α) (next : α → Logged ω β) :
    (first >>= next).result = first.result.bind fun value => (next value).result := by
  show (andThen first next).result = _
  unfold andThen
  cases first.result <;> rfl

/-! ### What holds of every entry -/

/-- Every entry satisfies `P`, and the value satisfies `Q`. -/
structure Always (P : ω → Prop) (Q : α → Prop) (run : Logged ω α) : Prop where
  log : ∀ entry ∈ run.log, P entry
  result : ∀ value, run.result = some value → Q value

section Always

variable {P : ω → Prop} {Q : α → Prop} {R : β → Prop}

theorem always_pure {value : α} (holds : Q value) : Always P Q (pure value) := by
  refine ⟨List.forall_mem_nil _, fun other same => ?_⟩
  cases same
  exact holds

theorem always_record {entry : ω} {value : α} (allowed : P entry) (holds : Q value) :
    Always P Q (record entry value) := by
  refine ⟨List.forall_mem_singleton.mpr allowed, fun other same => ?_⟩
  cases same
  exact holds

theorem always_stop : Always P Q (stop : Logged ω α) :=
  ⟨List.forall_mem_nil _, fun _ ended => by cases ended⟩

theorem Always.bind {first : Logged ω α} {next : α → Logged ω β} (early : Always P Q first)
    (late : ∀ value, Q value → Always P R (next value)) : Always P R (first >>= next) := by
  show Always P R (andThen first next)
  unfold andThen
  cases ended : first.result with
  | none => exact ⟨early.log, fun _ later => by cases later⟩
  | some value =>
    have rest := late value (early.result value ended)
    exact ⟨List.forall_mem_append.mpr ⟨early.log, rest.log⟩, rest.result⟩

theorem Always.ite {condition : Prop} [Decidable condition] {first second : Logged ω α}
    (left : condition → Always P Q first) (right : ¬ condition → Always P Q second) :
    Always P Q (if condition then first else second) := by
  by_cases holds : condition
  · rw [if_pos holds]
    exact left holds
  · rw [if_neg holds]
    exact right holds

end Always

/-! ### Runs that go on -/

/-- `run` is `cut`, or `cut` was cut off and `run` goes on from there. -/
def Continues (cut run : Logged ω α) : Prop := cut = run ∨ cut.result = none ∧ cut.log <+: run.log

theorem Continues.refl (run : Logged ω α) : Continues run run := Or.inl rfl

theorem continues_stop (run : Logged ω α) : Continues stop run := Or.inr ⟨rfl, List.nil_prefix⟩

theorem Continues.log {cut run : Logged ω α} (continues : Continues cut run) : cut.log <+: run.log := by
  rcases continues with rfl | ⟨-, early⟩
  · exact List.prefix_rfl
  · exact early

theorem Continues.bind {cut run : Logged ω α} {next later : α → Logged ω β}
    (continues : Continues cut run) (each : ∀ value, Continues (next value) (later value)) :
    Continues (cut >>= next) (run >>= later) := by
  show Continues (andThen cut next) (andThen run later)
  rcases continues with rfl | ⟨ended, early⟩
  · unfold andThen
    cases cut.result with
    | none => exact Continues.refl _
    | some value =>
      rcases each value with same | ⟨ended, early⟩
      · exact Or.inl (by simp only [same])
      · exact Or.inr ⟨ended, (List.prefix_append_right_inj _).mpr early⟩
  · refine Or.inr ?_
    unfold andThen
    rw [ended]
    cases run.result with
    | none => exact ⟨rfl, early⟩
    | some value => exact ⟨rfl, early.trans (List.prefix_append _ _)⟩

theorem Continues.ite {condition : Prop} [Decidable condition] {cut run cut' run' : Logged ω α}
    (left : Continues cut run) (right : Continues cut' run') :
    Continues (if condition then cut else cut') (if condition then run else run') := by
  by_cases holds : condition
  · rw [if_pos holds, if_pos holds]
    exact left
  · rw [if_neg holds, if_neg holds]
    exact right

end Logged
