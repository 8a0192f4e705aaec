/-
**Which save files are read to the end.**

The recursion of the parser is unrolled into a machine: a state is a position where a value is about
to be read, with the containers that are open around it. The parser returns exactly when the machine
halts (`returns_iff_halts`). Every step of the machine moves on in the text, except in one place: an
element of an array that starts with a character which no value starts with and from which
`std::from_chars` reads nothing. The loop of `parseArray` reads this element again and again, so a
file is loaded exactly when the machine meets no such element (`load_returns_iff`).

Objects do not have this trap: the loop of `parseObject` reads a key before each value, and a key
takes at least two characters.
-/

import Mathlib.Data.List.TakeWhile
import MyTeams.Lib.Halting
import MyTeams.Storage.RoundTrip

namespace MyTeams

open Halting

namespace JsonParser

/-! ### The machine -/

/-- A container that the parser is inside of. -/
inductive Container
  | array
  | object
  deriving DecidableEq

namespace Container

/-- The bracket that ends the loop of the container. -/
def closing : Container → UInt8
  | array => 93
  | object => 125

variable (src : Bytes)

/-- Where the loop of the container goes on after a value that ended at `pos`. -/
def resume : Container → Nat → Nat
  | array, pos => skipComma src (skipWs src pos)
  | object, pos => skipWs src (skipComma src (skipWs src pos))

/-- Where the value of the member at `pos` is read: an object has the key and the colon first. -/
def valueAt : Container → Nat → Nat
  | array, pos => pos
  | object, pos => skipWs src (parseStr src pos).2 + 1

end Container

/-- A value is about to be read at `pos`, inside the containers `around` (the innermost first). -/
structure Reading where
  pos : Nat
  around : List Container
  deriving DecidableEq

section Machine

variable (fp : FloatingPoint) (src : Bytes)

/-- The next value that is read after one that ended at `pos`; `none` at the end of the parse. -/
def next : List Container → Nat → Option Reading
  | [], _ => none
  | container :: around, pos =>
    let head := container.resume src pos
    if head < src.length ∧ charAt src head ≠ container.closing then
      some ⟨container.valueAt src head, container :: around⟩
    else next around (head + 1)

/-- The first value that is read in a container whose loop starts at `head`. -/
def enter (container : Container) (around : List Container) (head : Nat) : Option Reading :=
  if head < src.length ∧ charAt src head ≠ container.closing then
    some ⟨container.valueAt src head, container :: around⟩
  else next src around (head + 1)

/-- From one value to the next one, in the order in which they are read. -/
def step (state : Reading) : Option Reading :=
  let pos := skipWs src state.pos
  if src.length ≤ pos then next src state.around pos
  else if charAt src pos = doubleQuote then next src state.around (parseStr src pos).2
  else if charAt src pos = 91 then enter src .array state.around (skipWs src (pos + 1))
  else if charAt src pos = 123 then enter src .object state.around (skipWs src (pos + 1))
  else if charAt src pos = 116 then next src state.around (pos + 4)
  else if charAt src pos = 102 then next src state.around (pos + 5)
  else if charAt src pos = 110 then next src state.around (pos + 4)
  else next src state.around (parseNum fp src pos).2

/-- The characters after which the loop of an array is not where it was: those that a string, a
container, `true`, `false` or `null` starts with, the comma and the closing bracket. -/
def movesOn : List UInt8 := [doubleQuote, 91, 123, 116, 102, 110, 44, 93]

/-- The element of an array that is about to be read is no value. -/
def Unreadable (state : Reading) : Prop :=
  state.around.head? = some .array ∧ skipWs src state.pos < src.length ∧
    charAt src (skipWs src state.pos) ∉ movesOn ∧
    (fp.fromChars (src.drop (skipWs src state.pos))).2 = 0

/-- The values that are read in the text, in their order. -/
def Meets (state : Reading) : Prop := Leads (step fp src) (some ⟨0, []⟩) (some state)

end Machine

variable {fp : FloatingPoint} {src : Bytes}

theorem next_cons (container : Container) (around : List Container) (pos : Nat) :
    next src (container :: around) pos = enter src container around (container.resume src pos) := rfl

/-! ### The parser runs the machine -/

/-- What the parser reads with some fuel it reads with more. -/
theorem fuel_mono (fuel : Nat) :
    (∀ pos result, parseValue fp src fuel pos = some result →
      ∀ more, fuel ≤ more → parseValue fp src more pos = some result) ∧
    (∀ pos arrVal result, arrayLoop fp src fuel pos arrVal = some result →
      ∀ more, fuel ≤ more → arrayLoop fp src more pos arrVal = some result) ∧
    (∀ pos objVal result, objectLoop fp src fuel pos objVal = some result →
      ∀ more, fuel ≤ more → objectLoop fp src more pos objVal = some result) := by
  induction fuel with
  | zero =>
    refine ⟨fun _ _ returned => ?_, fun _ _ _ returned => ?_, fun _ _ _ returned => ?_⟩
    · rw [parseValue] at returned
      cases returned
    · rw [arrayLoop] at returned
      cases returned
    · rw [objectLoop] at returned
      cases returned
  | succ fuel ih =>
    obtain ⟨value, array, object⟩ := ih
    refine ⟨fun pos result returned more enough => ?_, fun pos arrVal result returned more enough => ?_,
      fun pos objVal result returned more enough => ?_⟩
    all_goals
      obtain ⟨more, rfl⟩ : ∃ less, more = less + 1 := ⟨more - 1, by omega⟩
      have enough : fuel ≤ more := by omega
    · rw [parseValue] at returned ⊢
      grind
    · rw [arrayLoop] at returned ⊢
      grind
    · rw [objectLoop] at returned ⊢
      grind

theorem parseValue_mono {fuel more pos : Nat} {result : JsonVal fp.Double × Nat}
    (returned : parseValue fp src fuel pos = some result) (enough : fuel ≤ more) :
    parseValue fp src more pos = some result :=
  (fuel_mono fuel).1 pos result returned more enough

theorem arrayLoop_mono {fuel more pos : Nat} {arrVal : List (JsonVal fp.Double)}
    {result : JsonVal fp.Double × Nat} (returned : arrayLoop fp src fuel pos arrVal = some result)
    (enough : fuel ≤ more) : arrayLoop fp src more pos arrVal = some result :=
  (fuel_mono fuel).2.1 pos arrVal result returned more enough

theorem objectLoop_mono {fuel more pos : Nat} {objVal : List (Bytes × JsonVal fp.Double)}
    {result : JsonVal fp.Double × Nat} (returned : objectLoop fp src fuel pos objVal = some result)
    (enough : fuel ≤ more) : objectLoop fp src more pos objVal = some result :=
  (fuel_mono fuel).2.2 pos objVal result returned more enough

/-- Beyond the text there is no character but NUL. -/
theorem lt_length_of_charAt {pos : Nat} (character : charAt src pos ≠ 0) : pos < src.length := by
  by_contra outside
  refine character ?_
  rw [charAt, List.getD_eq_getElem?_getD, List.getElem?_eq_none (Nat.not_lt.mp outside)]
  rfl

/-- A value that is no container: the machine is behind it after one step. -/
theorem parseValue_leaf (fp : FloatingPoint) {pos : Nat} (noArray : charAt src (skipWs src pos) ≠ 91)
    (noObject : charAt src (skipWs src pos) ≠ 123) :
    ∃ val last, (∀ fuel, parseValue fp src (fuel + 1) pos = some (val, last)) ∧
      ∀ around, step fp src ⟨pos, around⟩ = next src around last := by
  simp only [parseValue, step, if_neg noArray, if_neg noObject]
  split_ifs <;> exact ⟨_, _, fun _ => rfl, fun _ => rfl⟩

theorem parseValue_array (fp : FloatingPoint) {pos : Nat} (opens : charAt src (skipWs src pos) = 91) :
    (∀ fuel, parseValue fp src (fuel + 1) pos =
      arrayLoop fp src fuel (skipWs src (skipWs src pos + 1)) []) ∧
      ∀ around, step fp src ⟨pos, around⟩ =
        enter src .array around (skipWs src (skipWs src pos + 1)) := by
  have inside : ¬ src.length ≤ skipWs src pos :=
    Nat.not_le.mpr (lt_length_of_charAt (by rw [opens]; decide))
  constructor
  · intro fuel
    simp [parseValue, inside, opens, doubleQuote]
  · intro around
    simp [step, inside, opens, doubleQuote]

theorem parseValue_object (fp : FloatingPoint) {pos : Nat} (opens : charAt src (skipWs src pos) = 123) :
    (∀ fuel, parseValue fp src (fuel + 1) pos =
      objectLoop fp src fuel (skipWs src (skipWs src pos + 1)) []) ∧
      ∀ around, step fp src ⟨pos, around⟩ =
        enter src .object around (skipWs src (skipWs src pos + 1)) := by
  have inside : ¬ src.length ≤ skipWs src pos :=
    Nat.not_le.mpr (lt_length_of_charAt (by rw [opens]; decide))
  constructor
  · intro fuel
    simp [parseValue, inside, opens, doubleQuote]
  · intro around
    simp [step, inside, opens, doubleQuote]

/-- **What has been parsed, the machine has passed.** -/
theorem leads_of_returned (fuel : Nat) :
    (∀ pos val last, parseValue fp src fuel pos = some (val, last) →
      ∀ around, Leads (step fp src) (some ⟨pos, around⟩) (next src around last)) ∧
    (∀ head arrVal val last, arrayLoop fp src fuel head arrVal = some (val, last) →
      ∀ around, Leads (step fp src) (enter src .array around head) (next src around last)) ∧
    (∀ head objVal val last, objectLoop fp src fuel head objVal = some (val, last) →
      ∀ around, Leads (step fp src) (enter src .object around head) (next src around last)) := by
  induction fuel with
  | zero =>
    refine ⟨fun _ _ _ returned => ?_, fun _ _ _ _ returned => ?_, fun _ _ _ _ returned => ?_⟩
    · rw [parseValue] at returned
      cases returned
    · rw [arrayLoop] at returned
      cases returned
    · rw [objectLoop] at returned
      cases returned
  | succ fuel ih =>
    obtain ⟨value, array, object⟩ := ih
    refine ⟨fun pos val last returned around => ?_, fun head arrVal val last returned around => ?_,
      fun head objVal val last returned around => ?_⟩
    · have moves : Leads (step fp src) (some ⟨pos, around⟩) (step fp src ⟨pos, around⟩) :=
        Leads.step_of _
      by_cases isArray : charAt src (skipWs src pos) = 91
      · obtain ⟨parses, steps⟩ := parseValue_array fp isArray
        rw [parses] at returned
        rw [steps] at moves
        exact moves.trans (array _ _ val last returned around)
      · by_cases isObject : charAt src (skipWs src pos) = 123
        · obtain ⟨parses, steps⟩ := parseValue_object fp isObject
          rw [parses] at returned
          rw [steps] at moves
          exact moves.trans (object _ _ val last returned around)
        · obtain ⟨leaf, behind, parses, steps⟩ := parseValue_leaf fp isArray isObject
          rw [parses] at returned
          cases returned
          rw [steps] at moves
          exact moves
    · by_cases more : head < src.length ∧ charAt src head ≠ 93
      · have entered : enter src .array around head = some ⟨head, .array :: around⟩ := if_pos more
        rw [arrayLoop, if_pos more] at returned
        rw [entered]
        cases element : parseValue fp src fuel head with
        | none =>
          rw [element] at returned
          cases returned
        | some read =>
          rw [element] at returned
          exact (value head read.1 read.2 element _).trans (array _ _ val last returned around)
      · have closed : enter src .array around head = next src around (head + 1) := if_neg more
        rw [arrayLoop, if_neg more] at returned
        cases returned
        rw [closed]
        exact Leads.refl _
    · by_cases more : head < src.length ∧ charAt src head ≠ 125
      · have entered : enter src .object around head =
            some ⟨skipWs src (parseStr src head).2 + 1, .object :: around⟩ := if_pos more
        rw [objectLoop, if_pos more] at returned
        rw [entered]
        cases member : parseValue fp src fuel (skipWs src (parseStr src head).2 + 1) with
        | none =>
          rw [member] at returned
          cases returned
        | some read =>
          rw [member] at returned
          exact (value _ read.1 read.2 member _).trans (object _ _ val last returned around)
      · have closed : enter src .object around head = next src around (head + 1) := if_neg more
        rw [objectLoop, if_neg more] at returned
        cases returned
        rw [closed]
        exact Leads.refl _

/-- **Where the machine halts, the parser returns.** -/
theorem returned_of_halts (steps : Nat) :
    (∀ pos around, after (step fp src) steps (some ⟨pos, around⟩) = none →
      ∃ fuel val last, parseValue fp src fuel pos = some (val, last) ∧
        ∃ left, left < steps ∧ after (step fp src) left (next src around last) = none) ∧
    (∀ head around arrVal, after (step fp src) steps (enter src .array around head) = none →
      ∃ fuel val last, arrayLoop fp src fuel head arrVal = some (val, last) ∧
        ∃ left, left ≤ steps ∧ after (step fp src) left (next src around last) = none) ∧
    (∀ head around objVal, after (step fp src) steps (enter src .object around head) = none →
      ∃ fuel val last, objectLoop fp src fuel head objVal = some (val, last) ∧
        ∃ left, left ≤ steps ∧ after (step fp src) left (next src around last) = none) := by
  induction steps using Nat.strong_induction_on with
  | _ steps ih =>
    have value : ∀ pos around, after (step fp src) steps (some ⟨pos, around⟩) = none →
        ∃ fuel val last, parseValue fp src fuel pos = some (val, last) ∧
          ∃ left, left < steps ∧ after (step fp src) left (next src around last) = none := by
      intro pos around halted
      cases steps with
      | zero => cases halted
      | succ steps =>
        rw [after, Option.bind_some] at halted
        by_cases isArray : charAt src (skipWs src pos) = 91
        · obtain ⟨parses, moves⟩ := parseValue_array fp isArray
          rw [moves] at halted
          obtain ⟨fuel, val, last, returned, left, fewer, rest⟩ :=
            (ih steps (Nat.lt_succ_self _)).2.1 _ _ [] halted
          exact ⟨fuel + 1, val, last, (parses fuel).trans returned, left, by omega, rest⟩
        · by_cases isObject : charAt src (skipWs src pos) = 123
          · obtain ⟨parses, moves⟩ := parseValue_object fp isObject
            rw [moves] at halted
            obtain ⟨fuel, val, last, returned, left, fewer, rest⟩ :=
              (ih steps (Nat.lt_succ_self _)).2.2 _ _ [] halted
            exact ⟨fuel + 1, val, last, (parses fuel).trans returned, left, by omega, rest⟩
          · obtain ⟨leaf, last, parses, moves⟩ := parseValue_leaf fp isArray isObject
            rw [moves] at halted
            exact ⟨1, leaf, last, parses 0, steps, Nat.lt_succ_self _, halted⟩
    refine ⟨value, fun head around arrVal halted => ?_, fun head around objVal halted => ?_⟩
    · by_cases more : head < src.length ∧ charAt src head ≠ 93
      · have entered : enter src .array around head = some ⟨head, .array :: around⟩ := if_pos more
        rw [entered] at halted
        obtain ⟨fuel, val, last, returned, left, fewer, rest⟩ := value head _ halted
        obtain ⟨fuel', val', last', returned', left', fewer', rest'⟩ :=
          (ih left fewer).2.1 _ around (arrVal ++ [val]) rest
        refine ⟨max fuel fuel' + 1, val', last', ?_, left', by omega, rest'⟩
        rw [arrayLoop, if_pos more, parseValue_mono returned (le_max_left _ _)]
        exact arrayLoop_mono returned' (le_max_right _ _)
      · have closed : enter src .array around head = next src around (head + 1) := if_neg more
        refine ⟨1, .arr arrVal, head + 1, ?_, steps, le_rfl, closed ▸ halted⟩
        rw [arrayLoop, if_neg more]
    · by_cases more : head < src.length ∧ charAt src head ≠ 125
      · have entered : enter src .object around head =
            some ⟨skipWs src (parseStr src head).2 + 1, .object :: around⟩ := if_pos more
        rw [entered] at halted
        obtain ⟨fuel, val, last, returned, left, fewer, rest⟩ := value _ _ halted
        obtain ⟨fuel', val', last', returned', left', fewer', rest'⟩ :=
          (ih left fewer).2.2 _ around (SortedMap.insertEntry (parseStr src head).1 val objVal) rest
        refine ⟨max fuel fuel' + 1, val', last', ?_, left', by omega, rest'⟩
        rw [objectLoop, if_pos more, parseValue_mono returned (le_max_left _ _)]
        exact objectLoop_mono returned' (le_max_right _ _)
      · have closed : enter src .object around head = next src around (head + 1) := if_neg more
        refine ⟨1, .obj objVal, head + 1, ?_, steps, le_rfl, closed ▸ halted⟩
        rw [objectLoop, if_neg more]

/-- **The parser returns exactly when the machine halts.** -/
theorem returns_iff_halts :
    (∃ fuel, (parse fp src fuel).isSome = true) ↔ Leads (step fp src) (some ⟨0, []⟩) none := by
  constructor
  · rintro ⟨fuel, returns⟩
    rw [parse, Option.isSome_map] at returns
    obtain ⟨result, returned⟩ := Option.isSome_iff_exists.mp returns
    exact (leads_of_returned fuel).1 0 result.1 result.2 returned []
  · rintro ⟨steps, halted⟩
    obtain ⟨fuel, val, last, returned, -⟩ := (returned_of_halts steps).1 0 [] halted
    exact ⟨fuel, by rw [parse, returned]; rfl⟩

/-! ### The machine moves on in the text -/

theorem le_skipWs {pos : Nat} (inside : skipWs src pos < src.length) : pos ≤ skipWs src pos := by
  rw [skipWs] at inside ⊢
  split_ifs at inside ⊢
  · exact absurd inside (lt_irrefl _)
  · exact Nat.le_add_right _ _

/-- Blanks that have been skipped are not skipped again. -/
theorem skipWs_skipWs {pos : Nat} (inside : skipWs src pos < src.length) :
    skipWs src (skipWs src pos) = skipWs src pos := by
  have split := @List.takeWhile_append_dropWhile _ isSpace (src.drop pos)
  cases solid : (src.drop pos).dropWhile isSpace with
  | nil =>
    have blank : (src.drop pos).all isSpace = true :=
      List.all_eq_true.mpr (List.dropWhile_eq_nil_iff.mp solid)
    rw [skipWs, if_pos blank] at inside
    exact absurd inside (lt_irrefl _)
  | cons character rest =>
    have gap : Blank ((src.drop pos).takeWhile isSpace) := fun byte member =>
      List.mem_takeWhile_imp member
    have stops : isSpace character = false := by
      have head := List.head?_dropWhile_not isSpace (src.drop pos)
      rw [solid] at head
      exact head
    have here : src.drop pos = (src.drop pos).takeWhile isSpace ++ character :: rest := by
      rw [← solid, split]
    have moved := skipWs_of_drop gap stops here
    have behind : src.drop (skipWs src pos) = [] ++ character :: rest := by
      rw [moved, drop_add here, List.nil_append]
    exact skipWs_of_drop (List.forall_mem_nil _) stops behind

theorem le_skipComma (pos : Nat) : pos ≤ skipComma src pos := by
  rw [skipComma]
  split_ifs
  · exact Nat.le_succ _
  · exact le_rfl

namespace Container

/-- A container goes on behind the value that it has read. -/
theorem le_resume (container : Container) {pos : Nat}
    (inside : container.resume src pos < src.length) : pos ≤ container.resume src pos := by
  cases container with
  | array =>
    have skipped : skipWs src pos ≤ skipComma src (skipWs src pos) := le_skipComma _
    exact (le_skipWs (skipped.trans_lt inside)).trans skipped
  | object =>
    have blanks := le_skipWs inside
    have skipped := (le_skipComma (skipWs src pos)).trans blanks
    exact (le_skipWs (skipped.trans_lt inside)).trans skipped

/-- The value of a member of an object stands behind its key. -/
theorem lt_valueAt_object {head : Nat} (inside : head < src.length) :
    head < object.valueAt src head := by
  have key : head < (parseStr src head).2 := by
    rw [parseStr]
    omega
  show head < skipWs src (parseStr src head).2 + 1
  by_cases within : skipWs src (parseStr src head).2 < src.length
  · have behind := le_skipWs within
    omega
  · omega

theorem le_valueAt (container : Container) {head : Nat} (inside : head < src.length) :
    head ≤ container.valueAt src head := by
  cases container with
  | array => exact le_rfl
  | object => exact (lt_valueAt_object inside).le

end Container

/-- Behind the text nothing is read. -/
theorem next_outside (around : List Container) {pos : Nat} (outside : src.length ≤ pos) :
    next src around pos = none := by
  induction around generalizing pos with
  | nil => rfl
  | cons container around ih =>
    have head : ¬ container.resume src pos < src.length := fun inside =>
      absurd (container.le_resume inside) (Nat.not_le.mpr (inside.trans_le outside))
    rw [next_cons, enter, if_neg fun runs => head runs.1]
    exact ih ((Nat.not_lt.mp head).trans (Nat.le_succ _))

/-- The next value is read behind the last one. -/
theorem le_next {around : List Container} {pos : Nat} {state : Reading}
    (reads : next src around pos = some state) : pos ≤ state.pos := by
  induction around generalizing pos with
  | nil => cases reads
  | cons container around ih =>
    rw [next_cons, enter] at reads
    split_ifs at reads with runs
    · cases reads
      exact (container.le_resume runs.1).trans (container.le_valueAt runs.1)
    · have behind := ih reads
      have inside : container.resume src pos < src.length := by
        by_contra outside
        rw [next_outside around ((Nat.not_lt.mp outside).trans (Nat.le_succ _))] at reads
        cases reads
      have later := container.le_resume inside
      omega

theorem le_enter {container : Container} {around : List Container} {head : Nat} {state : Reading}
    (reads : enter src container around head = some state) : head ≤ state.pos := by
  rw [enter] at reads
  split_ifs at reads with runs
  · cases reads
    exact container.le_valueAt runs.1
  · exact (Nat.le_succ _).trans (le_next reads)

/-- The loop of an object moves on whatever was read. -/
theorem lt_next_object {around : List Container} {pos : Nat} {state : Reading}
    (reads : next src (.object :: around) pos = some state) : pos < state.pos := by
  have start := le_next reads
  rw [next_cons, enter] at reads
  split_ifs at reads with runs
  · cases reads
    exact (Container.object.le_resume runs.1).trans_lt (Container.lt_valueAt_object runs.1)
  · have behind := le_next reads
    by_cases inside : Container.object.resume src pos < src.length
    · have head := Container.object.le_resume inside
      omega
    · rw [next_outside around ((Nat.not_lt.mp inside).trans (Nat.le_succ _))] at reads
      cases reads

/-- The loop of an array that has read nothing moves on at a comma and at its bracket. -/
theorem lt_next_array {around : List Container} {pos : Nat} {state : Reading}
    (solid : skipWs src pos = pos) (ends : charAt src pos = 44 ∨ charAt src pos = 93)
    (reads : next src (.array :: around) pos = some state) : pos < state.pos := by
  have head : Container.array.resume src pos = skipComma src pos := by
    rw [Container.resume, solid]
  rw [next_cons, head, skipComma] at reads
  rcases ends with comma | bracket
  · rw [if_pos comma] at reads
    exact le_enter reads
  · have closed : ¬ (pos < src.length ∧ charAt src pos ≠ Container.array.closing) :=
      fun runs => runs.2 bracket
    rw [if_neg (by rw [bracket]; decide), enter, if_neg closed] at reads
    exact le_next reads

theorem lt_skipWs_succ {pos : Nat} (inside : pos < src.length) : pos < skipWs src (pos + 1) := by
  by_cases within : skipWs src (pos + 1) < src.length
  · exact le_skipWs within
  · omega

/-- **Outside the trap every step moves on in the text.** -/
theorem step_progress {state after : Reading} (readable : ¬ Unreadable fp src state)
    (moves : step fp src state = some after) :
    src.length - after.pos < src.length - state.pos := by
  have inside : skipWs src state.pos < src.length := by
    by_contra outside
    have behind := Nat.not_lt.mp outside
    rw [step] at moves
    simp only [if_pos behind, next_outside _ behind] at moves
    cases moves
  have start := le_skipWs inside
  suffices behind : skipWs src state.pos < after.pos by omega
  simp only [step, if_neg (Nat.not_le.mpr inside)] at moves
  split_ifs at moves with string array object true false null
  · have later := le_next moves
    rw [parseStr] at later
    omega
  · exact (lt_skipWs_succ inside).trans_le (le_enter moves)
  · exact (lt_skipWs_succ inside).trans_le (le_enter moves)
  · have later := le_next moves
    omega
  · have later := le_next moves
    omega
  · have later := le_next moves
    omega
  · -- a number: the trap is the one place where nothing is consumed in an array
    by_cases consumed : (fp.fromChars (src.drop (skipWs src state.pos))).2 = 0
    · have stays : (parseNum fp src (skipWs src state.pos)).2 = skipWs src state.pos := by
        rw [parseNum, consumed, Nat.add_zero]
      rw [stays] at moves
      cases enclosing : state.around with
      | nil =>
        rw [enclosing] at moves
        cases moves
      | cons container around =>
        rw [enclosing] at moves
        cases container with
        | object => exact lt_next_object moves
        | array =>
          have ends : charAt src (skipWs src state.pos) ∈ movesOn := by
            by_contra none
            exact readable ⟨by rw [enclosing]; rfl, inside, none, consumed⟩
          have last : charAt src (skipWs src state.pos) = 44 ∨
              charAt src (skipWs src state.pos) = 93 := by
            simpa [movesOn, string, array, object, true, false, null] using ends
          exact lt_next_array (skipWs_skipWs inside) last moves
    · have later := le_next moves
      rw [parseNum] at later
      omega

/-- **The trap is never left**: the same element is read again. -/
theorem unreadable_closed {state : Reading} (unreadable : Unreadable fp src state) :
    ∃ again, step fp src state = some again ∧ Unreadable fp src again := by
  obtain ⟨array, inside, noValue, consumed⟩ := unreadable
  obtain ⟨around, enclosing⟩ : ∃ around, state.around = .array :: around :=
    List.head?_eq_some_iff.mp array
  have solid := skipWs_skipWs inside
  simp only [movesOn, List.mem_cons, List.not_mem_nil, or_false, not_or] at noValue
  obtain ⟨string, arr, obj, true, false, null, comma, bracket⟩ := noValue
  have head : Container.array.resume src (skipWs src state.pos) = skipWs src state.pos := by
    rw [Container.resume, solid, skipComma, if_neg comma]
  refine ⟨⟨skipWs src state.pos, .array :: around⟩, ?_, rfl, ?_, ?_, ?_⟩
  · simp only [step, if_neg (Nat.not_le.mpr inside), if_neg string, if_neg arr, if_neg obj,
      if_neg true, if_neg false, if_neg null, parseNum, consumed, enclosing, Nat.add_zero]
    rw [next_cons, head, enter, if_pos ⟨inside, bracket⟩]
    rfl
  · show skipWs src (skipWs src state.pos) < src.length
    rw [solid]
    exact inside
  · show charAt src (skipWs src (skipWs src state.pos)) ∉ movesOn
    rw [solid]
    simp only [movesOn, List.mem_cons, List.not_mem_nil, or_false, not_or]
    exact ⟨string, arr, obj, true, false, null, comma, bracket⟩
  · show (fp.fromChars (src.drop (skipWs src (skipWs src state.pos)))).2 = 0
    rw [solid]
    exact consumed

/-- **The parser returns exactly when it meets no unreadable element.** -/
theorem returns_iff : (∃ fuel, (parse fp src fuel).isSome = true) ↔
    ∀ state, Meets fp src state → ¬ Unreadable fp src state :=
  returns_iff_halts.trans (halts_iff_avoids (fun state : Reading => src.length - state.pos)
    (fun _ _ => step_progress) (fun _ => unreadable_closed) _)

end JsonParser

/-- **A save file is loaded exactly when no array of it has an unreadable element.** -/
theorem load_returns_iff (fp : FloatingPoint) (content : Bytes) (database : Database) :
    ((∃ fuel, (JsonParser.parse fp content fuel).isSome = true) ↔
      ∀ state, JsonParser.Meets fp content state → ¬ JsonParser.Unreadable fp content state) ∧
    ((∃ fuel, (SaveManager.load fp fuel content database).isSome = true) ↔
      ∀ state, JsonParser.Meets fp content state → ¬ JsonParser.Unreadable fp content state) := by
  refine ⟨JsonParser.returns_iff, ?_⟩
  rw [← JsonParser.returns_iff]
  simp only [SaveManager.load, Option.isSome_map]

/-- **An array that a brace closes is read for ever**, so a start on this save file
does not end. -/
theorem load_unclosed_array :
    (¬ ∃ fuel, (JsonParser.parse integerDouble (ascii "[\x7d") fuel).isSome = true) ∧
      ¬ ∃ fuel, (SaveManager.load integerDouble fuel (ascii "[\x7d") {}).isSome = true := by
  have trapped : ¬ ∃ fuel, (JsonParser.parse integerDouble (ascii "[\x7d") fuel).isSome = true := by
    rw [JsonParser.returns_iff]
    intro avoids
    refine avoids ⟨1, [.array]⟩ ⟨1, rfl⟩ ⟨rfl, ?_, ?_, ?_⟩
    all_goals decide
  refine ⟨trapped, fun loads => trapped ?_⟩
  simpa only [SaveManager.load, Option.isSome_map] using loads

end MyTeams
