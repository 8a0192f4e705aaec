/-
**The parser with its accesses to the text.**

The functions of `JsonParser` once more, statement by statement, with a log of every `_src[…]` and of
every range that `std::from_chars` is given. A run whose fuel does not suffice is cut off; its log is what
was accessed until then.

* `result_loggedValue` — apart from the log it is the same parser;
* `continues_loggedValue` — with more fuel, a run that was cut off goes on with the same accesses.
-/

import MyTeams.Lib.Logged
import MyTeams.Storage.Layout

namespace MyTeams

open Logged

namespace JsonParser

/-- An access to `_src`. -/
inductive Access
  /-- `_src[index]` -/
  | character (index : Nat)
  /-- The range of `std::from_chars`, from `_src.data() + first` to the end of the text. -/
  | range (first : Nat)
deriving DecidableEq

section Definitions

variable (fp : FloatingPoint) (src : Bytes)

/-- `_src[_pos]` -/
def readChar (pos : Nat) : Logged Access UInt8 := .record (.character pos) (charAt src pos)

/-- The loop of `JsonParser::parseStr`, with the characters in `result` so far. The last index of a text
that ends in a backslash is its size. -/
def loggedStrLoop (pos : Nat) (result : Bytes) : Logged Access (Bytes × Nat) :=
  if pos < src.length then do
    if (← readChar src pos) = doubleQuote then pure (result, pos)
    else if (← readChar src pos) = backslash then
      loggedStrLoop (pos + 2) (result ++ [← readChar src (pos + 1)])
    else loggedStrLoop (pos + 1) (result ++ [← readChar src pos])
  else pure (result, pos)
termination_by src.length - pos

/-- `JsonParser::parseStr` -/
def loggedStr (pos : Nat) : Logged Access (Bytes × Nat) := do
  let (result, pos) ← loggedStrLoop src (pos + 1) []
  pure (result, pos + 1)

/-- `JsonParser::parseNum` -/
def loggedNum (pos : Nat) : Logged Access (JsonVal fp.Double × Nat) :=
  .record (.range pos) (parseNum fp src pos)

/-- `if (_src[_pos] == ',') ++_pos;` -/
def loggedComma (pos : Nat) : Logged Access Nat := do
  if (← readChar src pos) = 44 then pure (pos + 1) else pure pos

/-- `_pos < _src.size() && _src[_pos] != closing` -/
def loggedTest (closing : UInt8) (pos : Nat) : Logged Access Bool :=
  if pos < src.length then do
    pure ((← readChar src pos) != closing)
  else pure false

mutual

/-- `JsonParser::parseValue` -/
def loggedValue : Nat → Nat → Logged Access (JsonVal fp.Double × Nat)
  | 0, _ => .stop
  | fuel + 1, start =>
    let pos := skipWs src start
    if src.length ≤ pos then pure (.null, pos)
    else do
      let character ← readChar src pos
      if character = doubleQuote then
        let (sVal, next) ← loggedStr src pos
        pure (.str sVal, next)
      else if character = 91 then loggedArray fuel (skipWs src (pos + 1)) []
      else if character = 123 then loggedObject fuel (skipWs src (pos + 1)) []
      else if character = 116 then pure (.bool true, pos + 4)
      else if character = 102 then pure (.bool false, pos + 5)
      else if character = 110 then pure (.null, pos + 4)
      else loggedNum fp src pos

/-- The loop of `JsonParser::parseArray`. -/
def loggedArray : Nat → Nat → List (JsonVal fp.Double) → Logged Access (JsonVal fp.Double × Nat)
  | 0, _, _ => .stop
  | fuel + 1, pos, arrVal => do
    if ← loggedTest src 93 pos then
      let (element, next) ← loggedValue fuel pos
      let pos ← loggedComma src (skipWs src next)
      loggedArray fuel pos (arrVal ++ [element])
    else pure (.arr arrVal, pos + 1)

/-- The loop of `JsonParser::parseObject`. -/
def loggedObject :
    Nat → Nat → List (Bytes × JsonVal fp.Double) → Logged Access (JsonVal fp.Double × Nat)
  | 0, _, _ => .stop
  | fuel + 1, pos, objVal => do
    if ← loggedTest src 125 pos then
      let (key, next) ← loggedStr src pos
      let (member, next) ← loggedValue fuel (skipWs src next + 1)
      let pos ← loggedComma src (skipWs src next)
      loggedObject fuel (skipWs src pos) (SortedMap.insertEntry key member objVal)
    else pure (.obj objVal, pos + 1)

end

/-- `JsonParser::parse` -/
def loggedParse (fuel : Nat) : Logged Access (JsonVal fp.Double) := do
  let (val, _) ← loggedValue fp src fuel 0
  pure val

end Definitions

variable {src : Bytes}

/-! ### The same parser -/

@[simp] theorem result_readChar (pos : Nat) : (readChar src pos).result = some (charAt src pos) := rfl

theorem loggedStrLoop_end {pos : Nat} (here : src.drop pos = []) (built : Bytes) :
    loggedStrLoop src pos built = pure (built, pos) := by
  rw [loggedStrLoop, if_neg (Nat.not_lt.mpr (List.drop_eq_nil_iff.mp here))]

/-- One turn of the loop at a character that is no quote. -/
theorem result_loggedStrLoop_cons {pos : Nat} {character : UInt8} {rest : Bytes}
    (here : src.drop pos = character :: rest) (notQuote : ¬ character = doubleQuote) (built : Bytes) :
    (loggedStrLoop src pos built).result =
      if character = backslash then (loggedStrLoop src (pos + 2) (built ++ [charAt src (pos + 1)])).result
      else (loggedStrLoop src (pos + 1) (built ++ [character])).result := by
  obtain ⟨inside, reads⟩ := charAt_of_drop here
  rw [loggedStrLoop, if_pos inside]
  simp only [result_bind, result_readChar, Option.bind_some, reads, if_neg notQuote]
  split_ifs <;> simp [reads]

theorem result_loggedStrLoop {text : Bytes} {pos : Nat} (here : src.drop pos = text) (built : Bytes) :
    (loggedStrLoop src pos built).result = some (built ++ (strLoop text).1, pos + (strLoop text).2) := by
  have behind : ∀ {pos : Nat} {character : UInt8} {rest : Bytes}, src.drop pos = character :: rest →
      src.drop (pos + 1) = rest := fun here => by
    rw [← List.drop_drop, here]
    rfl
  induction text using strLoop.induct generalizing pos built with
  | case1 =>
    rw [loggedStrLoop_end here]
    simp [strLoop]
  | case2 rest =>
    obtain ⟨inside, reads⟩ := charAt_of_drop here
    rw [loggedStrLoop, if_pos inside, strLoop_quote]
    simp [reads]
  | case3 notQuote =>
    have last : src.drop (pos + 1) = [] := behind here
    have beyond : src.drop (pos + 2) = [] := List.drop_eq_nil_iff.mpr (by
      have := List.drop_eq_nil_iff.mp last
      omega)
    have nul : charAt src (pos + 1) = 0 := by
      rw [charAt, List.getD_eq_getElem?_getD, List.getElem?_eq_none (List.drop_eq_nil_iff.mp last)]
      rfl
    rw [result_loggedStrLoop_cons here notQuote, if_pos rfl, loggedStrLoop_end beyond, nul]
    simp [strLoop, notQuote]
  | case4 escaped later notQuote ih =>
    have next := behind here
    rw [result_loggedStrLoop_cons here notQuote, if_pos rfl, (charAt_of_drop next).2, ih (behind next),
      strLoop_escape]
    simp only [List.append_assoc, List.singleton_append, Option.some.injEq, Prod.mk.injEq, true_and]
    omega
  | case5 character rest notQuote notBackslash ih =>
    rw [result_loggedStrLoop_cons here notQuote, if_neg notBackslash, ih (behind here),
      strLoop_plain notQuote notBackslash]
    simp [Nat.add_assoc, Nat.add_comm]

@[simp] theorem result_loggedStr (pos : Nat) : (loggedStr src pos).result = some (parseStr src pos) := by
  rw [loggedStr, result_bind, result_loggedStrLoop rfl, List.nil_append]
  rfl

@[simp] theorem result_loggedComma (pos : Nat) :
    (loggedComma src pos).result = some (skipComma src pos) := by
  rw [loggedComma, result_bind, result_readChar, Option.bind_some, skipComma]
  split_ifs <;> rfl

@[simp] theorem result_loggedTest (closing : UInt8) (pos : Nat) :
    (loggedTest src closing pos).result = some (decide (pos < src.length ∧ charAt src pos ≠ closing)) := by
  unfold loggedTest
  split_ifs with inside
  · rw [result_bind, result_readChar, Option.bind_some, result_pure, bne, beq_eq_decide]
    simp [inside]
  · simp [inside]

variable {fp : FloatingPoint}

/-- What the functions return is what the functions without the log return. -/
theorem result_logged (fuel : Nat) :
    (∀ pos, (loggedValue fp src fuel pos).result = parseValue fp src fuel pos) ∧
    (∀ pos arrVal, (loggedArray fp src fuel pos arrVal).result = arrayLoop fp src fuel pos arrVal) ∧
    ∀ pos objVal, (loggedObject fp src fuel pos objVal).result = objectLoop fp src fuel pos objVal := by
  induction fuel with
  | zero =>
    refine ⟨fun pos => ?_, fun pos arrVal => ?_, fun pos objVal => ?_⟩
    · rw [loggedValue, parseValue, Logged.result_stop]
    · rw [loggedArray, arrayLoop, Logged.result_stop]
    · rw [loggedObject, objectLoop, Logged.result_stop]
  | succ fuel ih =>
    obtain ⟨value, array, object⟩ := ih
    refine ⟨fun pos => ?_, fun pos arrVal => ?_, fun pos objVal => ?_⟩
    · rw [loggedValue, parseValue]
      by_cases beyond : src.length ≤ skipWs src pos
      · simp only [if_pos beyond]
        rfl
      · simp only [if_neg beyond, result_bind, result_readChar, Option.bind_some]
        split_ifs
        · simp
        · exact array _ _
        · exact object _ _
        all_goals rfl
    · rw [loggedArray, arrayLoop]
      simp only [result_bind, result_loggedTest, Option.bind_some, decide_eq_true_eq]
      split_ifs with more
      · simp only [result_bind, result_loggedComma, Option.bind_some, value, array]
        cases parseValue fp src fuel pos <;> rfl
      · rfl
    · rw [loggedObject, objectLoop]
      simp only [result_bind, result_loggedTest, Option.bind_some, decide_eq_true_eq]
      split_ifs with more
      · simp only [result_bind, result_loggedComma, result_loggedStr, Option.bind_some, value, object]
        cases parseValue fp src fuel (skipWs src (parseStr src pos).2 + 1) <;> rfl
      · rfl

/-- **Apart from the log it is the same parser.** -/
theorem result_loggedParse (fuel : Nat) : (loggedParse fp src fuel).result = parse fp src fuel := by
  rw [loggedParse, result_bind, (result_logged fuel).1, parse]
  cases parseValue fp src fuel 0 <;> rfl

/-! ### More fuel -/

theorem continues_logged (fuel : Nat) :
    (∀ pos more, fuel ≤ more → Continues (loggedValue fp src fuel pos) (loggedValue fp src more pos)) ∧
    (∀ pos arrVal more, fuel ≤ more →
      Continues (loggedArray fp src fuel pos arrVal) (loggedArray fp src more pos arrVal)) ∧
    ∀ pos objVal more, fuel ≤ more →
      Continues (loggedObject fp src fuel pos objVal) (loggedObject fp src more pos objVal) := by
  induction fuel with
  | zero =>
    refine ⟨fun pos more _ => ?_, fun pos arrVal more _ => ?_, fun pos objVal more _ => ?_⟩
    · rw [loggedValue]
      exact continues_stop _
    · rw [loggedArray]
      exact continues_stop _
    · rw [loggedObject]
      exact continues_stop _
  | succ fuel ih =>
    obtain ⟨value, array, object⟩ := ih
    refine ⟨fun pos more enough => ?_, fun pos arrVal more enough => ?_, fun pos objVal more enough => ?_⟩
    all_goals
      obtain ⟨more, rfl⟩ : ∃ less, more = less + 1 := ⟨more - 1, by omega⟩
      have enough : fuel ≤ more := by omega
    · rw [loggedValue, loggedValue]
      refine .ite (.refl _) (.bind (.refl _) fun character => ?_)
      exact .ite (.refl _) (.ite (array _ _ more enough) (.ite (object _ _ more enough) (.refl _)))
    · rw [loggedArray, loggedArray]
      refine .bind (.refl _) fun goesOn => .ite ?_ (.refl _)
      refine .bind (value pos more enough) fun read => .bind (.refl _) fun next => ?_
      exact array next _ more enough
    · rw [loggedObject, loggedObject]
      refine .bind (.refl _) fun goesOn => .ite ?_ (.refl _)
      refine .bind (.refl _) fun key => .bind (value _ more enough) fun read => .bind (.refl _) fun next => ?_
      exact object _ _ more enough

/-- **More fuel only continues a run**: the accesses that were made are the first ones. -/
theorem loggedParse_log_mono {fuel more : Nat} (enough : fuel ≤ more) :
    (loggedParse fp src fuel).log <+: (loggedParse fp src more).log := by
  have continues : Continues (loggedParse fp src fuel) (loggedParse fp src more) :=
    .bind ((continues_logged fuel).1 0 more enough) fun _ => .refl _
  exact continues.log

end JsonParser

end MyTeams
