/-
**Updating the first match of a list.**

A pointer returned by a linear search and then written through is, on a list, the update of the
first element that satisfies the search predicate.

* `modifyFirst p f l` — `l` with `f` applied to its first `p`-element;
* `modifyFirst_split` — the search and the update meet at one position: `l = before ++ a :: after`,
  and the update is `before ++ f a :: after` for every `f`. Every other fact about an update through
  a pointer is read off this decomposition;
* `map_modifyFirst`, `find?_modifyFirst` — what an update keeps.
-/

import Mathlib.Data.List.Nodup

namespace FirstMatch

variable {α β : Type*}

/-- `l` with `f` applied to the first element that satisfies `p`. -/
def modifyFirst (p : α → Bool) (f : α → α) : List α → List α
  | [] => []
  | a :: l => if p a then f a :: l else a :: modifyFirst p f l

variable {p : α → Bool} {f : α → α} {l : List α}

/-- A search by key finds an element of the list that has the key. -/
theorem find?_key {κ : Type*} [DecidableEq κ] {key : α → κ} {wanted : κ} {a : α}
    (found : l.find? (fun a => key a = wanted) = some a) : a ∈ l ∧ key a = wanted :=
  ⟨List.mem_of_find?_eq_some found,
    of_decide_eq_true (List.find?_some (p := fun a => decide (key a = wanted)) found)⟩

/-- **The search and the update meet at one position.** -/
theorem modifyFirst_split {a : α} (found : l.find? p = some a) :
    ∃ before after, l = before ++ a :: after ∧ (∀ b ∈ before, p b = false) ∧
      ∀ f, modifyFirst p f l = before ++ f a :: after := by
  induction l with
  | nil => cases found
  | cons head tail ih =>
    by_cases hit : p head = true
    · rw [List.find?_cons_of_pos hit] at found
      cases found
      exact ⟨[], tail, rfl, fun b member => absurd member List.not_mem_nil,
        fun f => by simp [modifyFirst, hit]⟩
    · rw [List.find?_cons_of_neg hit] at found
      obtain ⟨before, after, split, misses, update⟩ := ih found
      refine ⟨head :: before, after, by rw [split]; rfl, fun b member => ?_, fun f => ?_⟩
      · rcases List.mem_cons.mp member with rfl | member
        · exact Bool.eq_false_iff.mpr hit
        · exact misses b member
      · rw [modifyFirst, if_neg hit, update f]
        rfl

/-- An update of an element with no match in front of it. -/
theorem modifyFirst_append_cons {before after : List α} {a : α} (misses : ∀ b ∈ before, p b = false)
    (hit : p a = true) : modifyFirst p f (before ++ a :: after) = before ++ f a :: after := by
  induction before with
  | nil => simp [modifyFirst, hit]
  | cons head tail ih =>
    have miss := misses head List.mem_cons_self
    have rest := ih fun b member => misses b (List.mem_cons_of_mem _ member)
    simp [modifyFirst, miss, rest]

/-- A search that finds nothing leaves nothing to update. -/
theorem modifyFirst_of_none (missing : l.find? p = none) : modifyFirst p f l = l := by
  induction l with
  | nil => rfl
  | cons head tail ih =>
    have miss : ¬ p head = true := List.find?_eq_none.mp missing head List.mem_cons_self
    rw [List.find?_cons_of_neg miss] at missing
    rw [modifyFirst, if_neg miss, ih missing]

/-- An update keeps every reading that `f` keeps. -/
theorem map_modifyFirst {g : α → β} (keeps : ∀ a, g (f a) = g a) :
    (modifyFirst p f l).map g = l.map g := by
  induction l with
  | nil => rfl
  | cons head tail ih =>
    by_cases hit : p head = true
    · simp [modifyFirst, hit, keeps]
    · simp [modifyFirst, hit, ih]

/-- The elements after an update are old ones or the updated match. -/
theorem mem_modifyFirst {b : α} (member : b ∈ modifyFirst p f l) :
    b ∈ l ∨ ∃ a ∈ l, p a = true ∧ b = f a := by
  cases found : l.find? p with
  | none =>
    rw [modifyFirst_of_none found] at member
    exact Or.inl member
  | some a =>
    obtain ⟨before, after, split, -, update⟩ := modifyFirst_split found
    rw [update f] at member
    rcases List.mem_append.mp member with old | new
    · exact Or.inl (by rw [split]; exact List.mem_append_left _ old)
    · rcases List.mem_cons.mp new with rfl | old
      · exact Or.inr ⟨a, List.mem_of_find?_eq_some found, List.find?_some found, rfl⟩
      · exact Or.inl (by
          rw [split]
          exact List.mem_append_right _ (List.mem_cons_of_mem _ old))

/-- What holds of every element, and is kept by `f`, holds after an update. -/
theorem forall_modifyFirst {Q : α → Prop} (holds : ∀ a ∈ l, Q a) (keeps : ∀ a, Q a → Q (f a)) :
    ∀ a ∈ modifyFirst p f l, Q a := by
  intro a member
  rcases mem_modifyFirst member with old | ⟨source, inside, -, rfl⟩
  · exact holds a old
  · exact keeps source (holds source inside)

/-- What holds of every element, and of the updated match, holds after an update. -/
theorem forall_modifyFirst_of_found {Q : α → Prop} (holds : ∀ a ∈ l, Q a) {a : α}
    (found : l.find? p = some a) (new : Q (f a)) : ∀ b ∈ modifyFirst p f l, Q b := by
  obtain ⟨before, after, rfl, -, update⟩ := modifyFirst_split found
  rw [update f]
  intro b member
  rcases List.mem_append.mp member with front | rest
  · exact holds b (List.mem_append_left _ front)
  · rcases List.mem_cons.mp rest with rfl | back
    · exact new
    · exact holds b (List.mem_append_right _ (List.mem_cons_of_mem _ back))

theorem forall_concat {Q : α → Prop} {added : α} (holds : ∀ a ∈ l, Q a) (new : Q added) :
    ∀ a ∈ l ++ [added], Q a := by
  intro a member
  rcases List.mem_append.mp member with old | last
  · exact holds a old
  · rw [List.mem_singleton.mp last]
    exact new

theorem mem_modifyFirst_of_find? {a : α} (found : l.find? p = some a) : f a ∈ modifyFirst p f l := by
  obtain ⟨before, after, -, -, update⟩ := modifyFirst_split found
  rw [update]
  exact List.mem_append_right _ List.mem_cons_self

/-- **The same search after the update** finds the updated element, when `f` keeps the search key. -/
theorem find?_modifyFirst (keeps : ∀ a, p (f a) = p a) :
    (modifyFirst p f l).find? p = (l.find? p).map f := by
  induction l with
  | nil => rfl
  | cons head tail ih =>
    by_cases hit : p head = true
    · simp [modifyFirst, hit, keeps]
    · simp [modifyFirst, hit, ih]

/-- Where no key occurs twice, a search by a key finds the only element that has it. -/
theorem find?_of_nodup {κ : Type*} [DecidableEq κ] {key : α → κ} (distinct : (l.map key).Nodup) {a : α}
    (member : a ∈ l) : l.find? (fun b => key b = key a) = some a := by
  induction l with
  | nil => cases member
  | cons head tail ih =>
    obtain ⟨absent, rest⟩ := List.nodup_cons.mp distinct
    rcases List.mem_cons.mp member with rfl | later
    · exact List.find?_cons_of_pos (decide_eq_true rfl)
    · rw [List.find?_cons_of_neg]
      · exact ih rest later
      · rw [decide_eq_true_eq]
        exact fun same => absent (same ▸ List.mem_map_of_mem later)

/-- Where no key occurs twice, the update changes the elements with the key. -/
theorem modifyFirst_eq_map {κ : Type*} [DecidableEq κ] {key : α → κ} (distinct : (l.map key).Nodup)
    (wanted : κ) :
    modifyFirst (fun a => key a = wanted) f l = l.map fun a => if key a = wanted then f a else a := by
  induction l with
  | nil => rfl
  | cons head tail ih =>
    obtain ⟨absent, rest⟩ := List.nodup_cons.mp distinct
    rw [List.map_cons, modifyFirst]
    by_cases hit : key head = wanted
    · have others : tail.map (fun a => if key a = wanted then f a else a) = tail := by
        refine (List.map_congr_left fun a member => if_neg fun same => ?_).trans (List.map_id _)
        exact absent (hit.trans same.symm ▸ List.mem_map_of_mem member)
      rw [if_pos (decide_eq_true hit), if_pos hit, others]
    · rw [if_neg (by simpa using hit), if_neg hit, ih rest]

/-- Where no key occurs twice, an update of the match is an update of the elements with its key. -/
theorem modifyFirst_eq_map_of_found {κ : Type*} [DecidableEq κ] {key : α → κ} (distinct : (l.map key).Nodup)
    {a : α} (found : l.find? p = some a) :
    modifyFirst p f l = l.map fun b => if key b = key a then f a else b := by
  obtain ⟨before, after, rfl, -, update⟩ := modifyFirst_split found
  rw [List.map_append, List.map_cons] at distinct
  have apart : ∀ b ∈ before ++ after, (if key b = key a then f a else b) = b := by
    intro b member
    refine if_neg fun same => ?_
    have absent := (List.nodup_cons.mp (List.perm_middle.nodup_iff.mp distinct)).1
    rw [← List.map_append] at absent
    exact absent (same ▸ List.mem_map_of_mem member)
  have front := List.map_congr_left fun b member => apart b (List.mem_append_left _ member)
  have back := List.map_congr_left fun b member => apart b (List.mem_append_right _ member)
  rw [update f, List.map_append, List.map_cons, front, back, if_pos rfl, List.map_id', List.map_id']

/-- An update of the match keeps every reading that it keeps of the match. -/
theorem map_modifyFirst_of_found {g : α → β} {a : α} (found : l.find? p = some a) (same : g (f a) = g a) :
    (modifyFirst p f l).map g = l.map g := by
  obtain ⟨before, after, rfl, -, update⟩ := modifyFirst_split found
  rw [update f, List.map_append, List.map_cons, same, List.map_append, List.map_cons]

/-- An update that keeps a search and a reading keeps what is read of the element that the search finds. -/
theorem find?_map_modifyFirst {q : α → Bool} {g : α → β} (keeps : ∀ a, q (f a) = q a)
    (same : ∀ a, g (f a) = g a) : ((modifyFirst p f l).find? q).map g = (l.find? q).map g := by
  induction l with
  | nil => rfl
  | cons head tail ih =>
    by_cases hit : q head = true
    · by_cases updated : p head = true
      · simp [modifyFirst, updated, keeps, hit, same]
      · simp [modifyFirst, updated, hit]
    · by_cases updated : p head = true
      · simp [modifyFirst, updated, keeps, hit]
      · simpa [modifyFirst, updated, hit] using ih

/-- Any other search finds what it found before, updated or not. -/
theorem find?_modifyFirst_cases {q : α → Bool} (keeps : ∀ a, q (f a) = q a) {a : α}
    (found : l.find? q = some a) :
    (modifyFirst p f l).find? q = some a ∨
      p a = true ∧ (modifyFirst p f l).find? q = some (f a) := by
  induction l with
  | nil => cases found
  | cons head tail ih =>
    by_cases hit : q head = true
    · rw [List.find?_cons_of_pos hit] at found
      cases found
      by_cases updated : p a = true
      · exact Or.inr ⟨updated, by simp [modifyFirst, updated, keeps, hit]⟩
      · exact Or.inl (by simp [modifyFirst, updated, hit])
    · rw [List.find?_cons_of_neg hit] at found
      by_cases updated : p head = true
      · exact Or.inl (by simp [modifyFirst, updated, keeps, hit, found])
      · simpa [modifyFirst, updated, hit] using ih found

/-- A search that the updated elements never match finds what it found before. -/
theorem find?_modifyFirst_of_disjoint {q : α → Bool} (misses : ∀ a, p a = true → q a = false)
    (keeps : ∀ a, q (f a) = q a) : (modifyFirst p f l).find? q = l.find? q := by
  induction l with
  | nil => rfl
  | cons head tail ih =>
    by_cases hit : p head = true
    · simp [modifyFirst, hit, keeps, misses head hit]
    · by_cases sought : q head = true
      · simp [modifyFirst, hit, sought]
      · simpa [modifyFirst, hit, sought] using ih

/-! ### Listing the parts of the elements -/

/-- An update that keeps the parts of every element keeps the list of all parts. -/
theorem flatMap_modifyFirst {g : α → List β} (keeps : ∀ a, g (f a) = g a) :
    (modifyFirst p f l).flatMap g = l.flatMap g := by
  rw [List.flatMap_def, List.flatMap_def, map_modifyFirst keeps]

/-- **An update that adds a part to the match adds it to the list of all parts.** -/
theorem flatMap_modifyFirst_perm {a : α} (found : l.find? p = some a) {g : α → List β} {part : β}
    (grows : (g (f a)).Perm (part :: g a)) :
    ((modifyFirst p f l).flatMap g).Perm (part :: l.flatMap g) := by
  obtain ⟨before, after, split, -, update⟩ := modifyFirst_split found
  rw [update f, split]
  simp only [List.flatMap_append, List.flatMap_cons]
  have inner : (g (f a) ++ after.flatMap g).Perm (part :: (g a ++ after.flatMap g)) :=
    grows.append_right _
  exact (inner.append_left _).trans List.perm_middle

/-- An update of the first part that matches, in the first element that has one, is an update of the list of
all parts. -/
theorem flatMap_modifyFirst_any {g : α → List β} {q : β → Bool} {h : β → β}
    (inside : ∀ a, g (f a) = modifyFirst q h (g a)) :
    (modifyFirst (fun a => (g a).any q) f l).flatMap g = modifyFirst q h (l.flatMap g) := by
  have front : ∀ first second : List β, first.any q = true →
      modifyFirst q h (first ++ second) = modifyFirst q h first ++ second := by
    intro first second
    induction first with
    | nil => exact fun none => by cases none
    | cons part parts ih =>
      intro some
      by_cases hit : q part = true
      · simp [modifyFirst, hit]
      · rw [List.any_cons, Bool.eq_false_iff.mpr hit, Bool.false_or] at some
        simp [modifyFirst, hit, ih some]
  have back : ∀ first second : List β, first.any q = false →
      modifyFirst q h (first ++ second) = first ++ modifyFirst q h second := by
    intro first second
    induction first with
    | nil => exact fun _ => rfl
    | cons part parts ih =>
      intro none
      obtain ⟨miss, rest⟩ := Bool.or_eq_false_iff.mp none
      simp [modifyFirst, miss, ih rest]
  induction l with
  | nil => rfl
  | cons head tail ih =>
    cases hit : (g head).any q with
    | true =>
      rw [modifyFirst, if_pos hit, List.flatMap_cons, List.flatMap_cons, inside, front _ _ hit]
    | false =>
      rw [modifyFirst, if_neg (by simp [hit]), List.flatMap_cons, List.flatMap_cons, ih, back _ _ hit]

/-- An update keeps what is read of the first part that a search finds, if it does so in every element. -/
theorem find?_flatMap_modifyFirst {γ : Type*} {g : α → List β} {q : β → Bool} {r : β → γ}
    (same : ∀ a, ((g (f a)).find? q).map r = ((g a).find? q).map r) :
    (((modifyFirst p f l).flatMap g).find? q).map r = ((l.flatMap g).find? q).map r := by
  induction l with
  | nil => rfl
  | cons head tail ih =>
    have split : ∀ (first : List β) (second : List β),
        ((first ++ second).find? q).map r = ((first.find? q).map r).or ((second.find? q).map r) := by
      intro first second
      rw [List.find?_append]
      cases first.find? q <;> rfl
    by_cases hit : p head = true
    · rw [modifyFirst, if_pos hit, List.flatMap_cons, List.flatMap_cons, split, split, same]
    · rw [modifyFirst, if_neg hit, List.flatMap_cons, List.flatMap_cons, split, split, ih]

/-- A part without repetition lies in one element. -/
theorem eq_of_mem_parts {g : α → List β} (distinct : (l.flatMap g).Nodup) {a b : α} {part : β}
    (first : a ∈ l) (second : b ∈ l) (left : part ∈ g a) (right : part ∈ g b) : a = b := by
  induction l with
  | nil => cases first
  | cons head tail ih =>
    rw [List.flatMap_cons, List.nodup_append] at distinct
    obtain ⟨-, rest, apart⟩ := distinct
    have later : ∀ c ∈ tail, part ∈ g c → part ∈ tail.flatMap g := fun c member holds =>
      List.mem_flatMap.mpr ⟨c, member, holds⟩
    rcases List.mem_cons.mp first with rfl | early <;> rcases List.mem_cons.mp second with rfl | late
    · rfl
    · exact absurd rfl (apart part left part (later b late right))
    · exact absurd rfl (apart part right part (later a early left))
    · exact ih rest early late

/-- An image of a list after a write, by the key of the written element. -/
theorem map_modifyFirst_at {κ : Type*} [DecidableEq κ] {key : α → κ} (seen : β → κ) {g : α → β} {h : β → β}
    (distinct : (l.map key).Nodup) (keys : ∀ a, seen (g a) = key a) {a : α} (found : l.find? p = some a)
    (same : g (f a) = h (g a)) :
    (modifyFirst p f l).map g = (l.map g).map fun b => if seen b = key a then h b else b := by
  rw [modifyFirst_eq_map_of_found distinct found, List.map_map, List.map_map]
  refine List.map_congr_left fun b member => ?_
  show g (if key b = key a then f a else b) = if seen (g b) = key a then h (g b) else g b
  rw [keys]
  split_ifs with hit
  · rw [same, List.inj_on_of_nodup_map distinct member (List.mem_of_find?_eq_some found) hit]
  · rfl

/-- A write to the one element that has a part is a rewriting of all elements that leaves the others alone. -/
theorem modifyFirst_eq_map_of_part {g : α → List β} (distinct : (l.flatMap g).Nodup) {a : α} {part : β}
    (found : l.find? p = some a) (inside : part ∈ g a) {h : α → α} (same : f a = h a)
    (others : ∀ b, part ∉ g b → h b = b) : modifyFirst p f l = l.map h := by
  obtain ⟨before, after, rfl, -, update⟩ := modifyFirst_split found
  rw [List.flatMap_append, List.flatMap_cons, List.nodup_append] at distinct
  obtain ⟨-, right, across⟩ := distinct
  have kept : ∀ side : List α, (∀ b ∈ side, part ∉ g b) → side.map h = side := fun side none =>
    (List.map_congr_left fun b member => others b (none b member)).trans (List.map_id _)
  have front : ∀ b ∈ before, part ∉ g b := fun b member held =>
    across _ (List.mem_flatMap.mpr ⟨b, member, held⟩) _ (List.mem_append_left _ inside) rfl
  have back : ∀ b ∈ after, part ∉ g b := fun b member held =>
    (List.nodup_append.mp right).2.2 _ inside _ (List.mem_flatMap.mpr ⟨b, member, held⟩) rfl
  rw [update, same, List.map_append, List.map_cons, kept before front, kept after back]

/-- The first match among all parts lies in the first element that has a match. -/
theorem find?_flatMap {g : α → List β} {q : β → Bool} {part : β}
    (found : (l.flatMap g).find? q = some part) :
    ∃ a, l.find? (fun a => (g a).any q) = some a ∧ (g a).find? q = some part := by
  induction l with
  | nil => cases found
  | cons head tail ih =>
    rw [List.flatMap_cons, List.find?_append] at found
    cases inside : (g head).find? q with
    | none =>
      have misses : ¬ (g head).any q = true := by
        simpa using inside
      rw [inside, Option.none_or] at found
      obtain ⟨a, first, within⟩ := ih found
      exact ⟨a, (List.find?_cons_of_neg (p := fun a => (g a).any q) misses).trans first, within⟩
    | some first =>
      have hits : (g head).any q = true :=
        List.any_eq_true.mpr ⟨first, List.mem_of_find?_eq_some inside, List.find?_some inside⟩
      rw [inside, Option.some_or] at found
      cases found
      exact ⟨head, List.find?_cons_of_pos hits, inside⟩

/-! ### Lists that look alike -/

/-- Two lists with one image, searched for what the image decides. -/
theorem find?_congr_map {g : α → β} {l' : List α} (alike : l.map g = l'.map g)
    (decides : ∀ a b, g a = g b → p a = p b) : (l.find? p).map g = (l'.find? p).map g := by
  induction l generalizing l' with
  | nil =>
    rw [List.map_nil, eq_comm, List.map_eq_nil_iff] at alike
    rw [alike]
  | cons head tail ih =>
    obtain ⟨other, rest, rfl, same, later⟩ := List.map_eq_cons_iff.mp alike.symm
    rw [List.find?_cons, List.find?_cons, decides other head same]
    cases p head with
    | true => exact congrArg some same.symm
    | false => exact ih later.symm

/-- Two such lists after writes that the image cannot tell apart. -/
theorem modifyFirst_congr_map {g : α → β} {l' : List α} {f' : α → α} (alike : l.map g = l'.map g)
    (decides : ∀ a b, g a = g b → p a = p b) (same : ∀ a b, g a = g b → p a = true → g (f a) = g (f' b)) :
    (modifyFirst p f l).map g = (modifyFirst p f' l').map g := by
  induction l generalizing l' with
  | nil =>
    rw [List.map_nil, eq_comm, List.map_eq_nil_iff] at alike
    rw [alike]
    rfl
  | cons head tail ih =>
    obtain ⟨other, rest, rfl, equal, later⟩ := List.map_eq_cons_iff.mp alike.symm
    rw [modifyFirst, modifyFirst, decides other head equal]
    split_ifs with hit
    · rw [List.map_cons, List.map_cons, same head other equal.symm hit, later]
    · rw [List.map_cons, List.map_cons, equal, ih later.symm]

theorem any_congr_map {g : α → β} {l' : List α} (alike : l.map g = l'.map g)
    (decides : ∀ a b, g a = g b → p a = p b) : l.any p = l'.any p := by
  induction l generalizing l' with
  | nil =>
    rw [List.map_nil, eq_comm, List.map_eq_nil_iff] at alike
    rw [alike]
  | cons head tail ih =>
    obtain ⟨other, rest, rfl, same, later⟩ := List.map_eq_cons_iff.mp alike.symm
    rw [List.any_cons, List.any_cons, decides other head same, ih later.symm]

/-- Two values that may be missing, with one image. -/
theorem alike_cases {g : α → β} {first second : Option α} (alike : first.map g = second.map g) :
    (first = none ∧ second = none) ∨ ∃ a b, first = some a ∧ second = some b ∧ g a = g b := by
  cases first with
  | none => exact Or.inl ⟨rfl, Option.map_eq_none_iff.mp alike.symm⟩
  | some a =>
    obtain ⟨b, found, same⟩ := Option.map_eq_some_iff.mp alike.symm
    exact Or.inr ⟨a, b, rfl, found, same.symm⟩

end FirstMatch
