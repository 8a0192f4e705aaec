/-
**Lists that only grow at their end.**

`Grown R before after`: the elements of `before` are still there, at the same positions and changed
only as `R` allows, and every new element of `after` comes behind them.

* `refl`, `trans`, `append`, `map`, `modifyFirst` — appending elements and updating them in place are
  growth;
* `Grown.find?` — a lookup by a key that `R` keeps finds the same element as before;
* `Grown.map_prefix` — what the elements keep is a prefix of the grown list.
-/

import MyTeams.Lib.FirstMatch

open FirstMatch

/-- Every old element keeps its position and changes by `R`; new elements come at the end. -/
inductive Grown {α : Type*} (R : α → α → Prop) : List α → List α → Prop
  | nil (added : List α) : Grown R [] added
  | cons {first next : α} {before after : List α} : R first next → Grown R before after →
      Grown R (first :: before) (next :: after)

namespace Grown

variable {α : Type*} {R : α → α → Prop}

theorem map (items : List α) {f : α → α} (changes : ∀ item, R item (f item)) :
    Grown R items (items.map f) := by
  induction items with
  | nil => exact .nil _
  | cons item rest ih => exact .cons (changes item) ih

theorem refl (same : ∀ item, R item item) (items : List α) : Grown R items items := by
  have kept : Grown R items (items.map id) := map items same
  rwa [List.map_id] at kept

theorem trans {before between after : List α} (early : Grown R before between)
    (late : Grown R between after)
    (compose : ∀ first second third : α, R first second → R second third → R first third) :
    Grown R before after := by
  induction early generalizing after with
  | nil => exact .nil _
  | cons head tail ih =>
    cases late with
    | cons next rest => exact .cons (compose _ _ _ head next) (ih rest)

theorem append (same : ∀ item, R item item) (items added : List α) :
    Grown R items (items ++ added) := by
  induction items with
  | nil => exact .nil _
  | cons item rest ih => exact .cons (same item) ih

/-- An update of the first element that satisfies `p`. -/
theorem modifyFirst (same : ∀ item, R item item) (p : α → Bool) {f : α → α} (items : List α)
    (changes : ∀ item ∈ items, p item = true → R item (f item)) :
    Grown R items (modifyFirst p f items) := by
  induction items with
  | nil => exact .nil _
  | cons item rest ih =>
    unfold FirstMatch.modifyFirst
    split_ifs with hit
    · exact .cons (changes item List.mem_cons_self hit) (refl same rest)
    · exact .cons (same item) (ih fun other member => changes other (List.mem_cons_of_mem _ member))

/-- A lookup by a key that is kept finds the same element as before. -/
theorem find? {p : α → Bool} (keeps : ∀ {first next : α}, R first next → p next = p first)
    {before after : List α} (grown : Grown R before after) {item : α}
    (found : before.find? p = some item) : ∃ now, after.find? p = some now ∧ R item now := by
  induction grown with
  | nil => cases found
  | @cons first next before after head tail ih =>
    by_cases hit : p first = true
    · rw [List.find?_cons_of_pos hit, Option.some.injEq] at found
      exact ⟨next, List.find?_cons_of_pos ((keeps head).trans hit), found ▸ head⟩
    · rw [List.find?_cons_of_neg hit] at found
      rw [List.find?_cons_of_neg (by rwa [keeps head])]
      exact ih found

/-- An old element is still there. -/
theorem exists_mem {before after : List α} (grown : Grown R before after) {item : α}
    (member : item ∈ before) : ∃ now ∈ after, R item now := by
  induction grown with
  | nil => cases member
  | cons head tail ih =>
    rcases List.mem_cons.mp member with rfl | inside
    · exact ⟨_, List.mem_cons_self, head⟩
    · obtain ⟨now, later, same⟩ := ih inside
      exact ⟨now, List.mem_cons_of_mem _ later, same⟩

/-- What the elements have in common with their changed versions comes first in the grown list. -/
theorem map_prefix {β : Type*} {f : α → β} {before after : List α} (grown : Grown R before after)
    (keeps : ∀ first ∈ before, ∀ next, R first next → f next = f first) :
    before.map f <+: after.map f := by
  induction grown with
  | nil => exact List.nil_prefix
  | cons head tail ih =>
    rw [List.map_cons, List.map_cons, keeps _ List.mem_cons_self _ head]
    exact List.cons_prefix_cons.mpr
      ⟨rfl, ih fun first member => keeps first (List.mem_cons_of_mem _ member)⟩

/-- The change may be described in another way. -/
theorem mono {S : α → α → Prop} {before after : List α} (grown : Grown R before after)
    (weaken : ∀ first ∈ before, ∀ next, R first next → S first next) : Grown S before after := by
  induction grown with
  | nil => exact .nil _
  | cons head tail ih =>
    exact .cons (weaken _ List.mem_cons_self _ head)
      (ih fun first member => weaken first (List.mem_cons_of_mem _ member))

end Grown
