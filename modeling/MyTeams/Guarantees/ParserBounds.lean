/-
**The parser stays inside its text.**

`_pos` runs past the end of a truncated text: behind an escape, a literal, a closing quote, a colon or a
bracket. Only `skipWs` brings it back. Every access comes behind a comparison of `_pos` with the size or
behind `skipWs`, so no function needs to know where `_pos` was when it was called.

* `skipWs_le` — the clamp;
* `str_inside`, `comma_inside`, `test_inside` — the loops of a string and the tests between values;
* `parser_stays_inside` — every access of a run, with any fuel, is inside the text or at its end.
-/

import MyTeams.Storage.Accesses

namespace MyTeams

open Logged

namespace JsonParser

/-- The index or the start of the range is in the text or at its end, where `std::string` has NUL. -/
def Access.Inside (src : Bytes) : Access → Prop
  | .character index => index ≤ src.length
  | .range first => first ≤ src.length

/-- All accesses of a run are inside, whatever its value. -/
abbrev Stays {α : Type} (src : Bytes) (run : Logged Access α) : Prop :=
  Always (Access.Inside src) (fun _ => True) run

variable {fp : FloatingPoint} {src : Bytes}

/-- **The clamp.** -/
theorem skipWs_le (pos : Nat) : skipWs src pos ≤ src.length := by
  unfold skipWs
  split_ifs with blank
  · exact le_rfl
  · -- the text has a character behind `pos` that is not blank
    have inside : pos < src.length := by
      by_contra outside
      rw [List.drop_eq_nil_of_le (not_lt.mp outside)] at blank
      exact blank rfl
    have short := (List.takeWhile_prefix isSpace (l := src.drop pos)).length_le
    rw [List.length_drop] at short
    omega

theorem stays_readChar {pos : Nat} (inside : pos ≤ src.length) : Stays src (readChar src pos) :=
  always_record inside trivial

theorem stays_pure {α : Type} (value : α) : Stays src (pure value) := always_pure trivial

/-! ### Strings and tests -/

/-- The loop compares `_pos` with the size in every turn; an escape takes it one further. -/
theorem strLoop_inside (pos : Nat) (result : Bytes) : Stays src (loggedStrLoop src pos result) := by
  induction rest : src.length - pos using Nat.strongRecOn generalizing pos result with
  | ind rest ih =>
    rw [loggedStrLoop]
    refine .ite (fun inside => ?_) (fun _ => stays_pure _)
    have read : Stays src (readChar src pos) := stays_readChar inside.le
    refine .bind read fun character _ => .ite (fun _ => stays_pure _) fun _ => ?_
    refine .bind read fun character _ => .ite (fun _ => ?_) fun _ => ?_
    · exact .bind (stays_readChar inside) fun escaped _ => ih _ (by omega) _ _ rfl
    · exact .bind read fun character _ => ih _ (by omega) _ _ rfl

theorem str_inside (pos : Nat) : Stays src (loggedStr src pos) :=
  .bind (strLoop_inside _ _) fun _ _ => stays_pure _

/-- The test for a comma comes behind `skipWs`, and has no other protection. -/
theorem comma_inside (pos : Nat) : Stays src (loggedComma src (skipWs src pos)) :=
  .bind (stays_readChar (skipWs_le pos)) fun _ _ => .ite (fun _ => stays_pure _) fun _ => stays_pure _

theorem test_inside (closing : UInt8) (pos : Nat) : Stays src (loggedTest src closing pos) :=
  .ite (fun inside => .bind (stays_readChar inside.le) fun _ _ => stays_pure _) fun _ => stays_pure _

/-! ### Values -/

theorem num_inside {pos : Nat} (inside : pos ≤ src.length) : Stays src (loggedNum fp src pos) :=
  always_record inside trivial

/-- The functions keep each other inside, from any position. -/
theorem logged_inside (fuel : Nat) :
    (∀ pos, Stays src (loggedValue fp src fuel pos)) ∧
    (∀ pos arrVal, Stays src (loggedArray fp src fuel pos arrVal)) ∧
    ∀ pos objVal, Stays src (loggedObject fp src fuel pos objVal) := by
  induction fuel with
  | zero =>
    refine ⟨fun pos => ?_, fun pos arrVal => ?_, fun pos objVal => ?_⟩
    · rw [loggedValue]
      exact always_stop
    · rw [loggedArray]
      exact always_stop
    · rw [loggedObject]
      exact always_stop
  | succ fuel ih =>
    obtain ⟨value, array, object⟩ := ih
    refine ⟨fun pos => ?_, fun pos arrVal => ?_, fun pos objVal => ?_⟩
    · rw [loggedValue]
      have clamped : skipWs src pos ≤ src.length := skipWs_le pos
      refine .ite (fun _ => stays_pure _) fun _ => .bind (stays_readChar clamped) fun character _ => ?_
      refine .ite (fun _ => .bind (str_inside _) fun _ _ => stays_pure _) fun _ => ?_
      refine .ite (fun _ => array _ _) fun _ => .ite (fun _ => object _ _) fun _ => ?_
      refine .ite (fun _ => stays_pure _) fun _ => .ite (fun _ => stays_pure _) fun _ => ?_
      exact .ite (fun _ => stays_pure _) fun _ => num_inside clamped
    · rw [loggedArray]
      refine .bind (test_inside _ _) fun goesOn _ => .ite (fun _ => ?_) fun _ => stays_pure _
      refine .bind (value pos) fun element _ => .bind (comma_inside _) fun next _ => ?_
      exact array _ _
    · rw [loggedObject]
      refine .bind (test_inside _ _) fun goesOn _ => .ite (fun _ => ?_) fun _ => stays_pure _
      refine .bind (str_inside pos) fun key _ => .bind (value _) fun member _ => ?_
      exact .bind (comma_inside _) fun next _ => object _ _

end JsonParser

/-- **Every access of the parser is inside the text or at its end**, at every moment of a run, whether or
not it ends: the run with any fuel is a first part of the run with more, and returns what `parse` returns. -/
theorem parser_stays_inside (fp : FloatingPoint) (src : Bytes) :
    (∀ fuel, (JsonParser.loggedParse fp src fuel).result = JsonParser.parse fp src fuel) ∧
    (∀ fuel more, fuel ≤ more →
      (JsonParser.loggedParse fp src fuel).log <+: (JsonParser.loggedParse fp src more).log) ∧
    ∀ fuel, ∀ access ∈ (JsonParser.loggedParse fp src fuel).log, access.Inside src := by
  refine ⟨JsonParser.result_loggedParse, fun _ _ => JsonParser.loggedParse_log_mono, fun fuel => ?_⟩
  have stays : JsonParser.Stays src (JsonParser.loggedParse fp src fuel) :=
    .bind ((JsonParser.logged_inside fuel).1 0) fun _ _ => JsonParser.stays_pure _
  exact stays.log

end MyTeams
