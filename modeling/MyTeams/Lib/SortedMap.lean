/-
**Finite maps in key order.**

A map is the list of its entries with strictly increasing keys, so that two maps with the same
contents are equal and a traversal visits the keys in order. The ordering is a field, so a map with
a repeated or misplaced key cannot be built.

* `find?`, `insert`, `erase`, `modify`, `mapWithKey` — the operations, with one lookup law each;
* `insertEntry` on bare entry lists is shared with containers that cannot hold the proof (a nested
  inductive cannot);
* `foldl_insertEntry` — entries inserted in key order rebuild the map they were listed from;
* `count_modify`, `count_insert_of_none`, `count_erase` — counting entries after one update.
-/

import Mathlib.Data.List.Basic
import Mathlib.Data.List.Sort
import Mathlib.Order.Lattice

/-- Entries with strictly increasing keys. -/
structure SortedMap (κ β : Type*) [LinearOrder κ] where
  entries : List (κ × β)
  sorted : entries.Pairwise fun a b => a.1 < b.1
deriving DecidableEq

namespace SortedMap

variable {κ β γ : Type*} [LinearOrder κ]

/-- Maps with the same entries are equal. -/
theorem ext_entries {first second : SortedMap κ β} (same : first.entries = second.entries) :
    first = second := by
  obtain ⟨entries, sorted⟩ := first
  obtain ⟨entries', sorted'⟩ := second
  cases same
  rfl

/-! ### Bare entry lists -/

/-- Insert an entry at its place, replacing an entry with the same key. -/
def insertEntry (key : κ) (value : β) : List (κ × β) → List (κ × β)
  | [] => [(key, value)]
  | head :: rest =>
    if key < head.1 then (key, value) :: head :: rest
    else if key = head.1 then (key, value) :: rest
    else head :: insertEntry key value rest

theorem mem_insertEntry {key : κ} {value : β} {entry : κ × β} {entries : List (κ × β)}
    (member : entry ∈ insertEntry key value entries) : entry = (key, value) ∨ entry ∈ entries := by
  induction entries with
  | nil => exact Or.inl (List.mem_singleton.mp member)
  | cons head rest ih =>
    rw [insertEntry] at member
    split_ifs at member with below same
    · exact List.mem_cons.mp member
    · rcases List.mem_cons.mp member with new | old
      · exact Or.inl new
      · exact Or.inr (List.mem_cons_of_mem _ old)
    · rcases List.mem_cons.mp member with first | later
      · exact Or.inr (first ▸ List.mem_cons_self)
      · exact (ih later).imp_right (List.mem_cons_of_mem _)

theorem insertEntry_sorted (key : κ) (value : β) {entries : List (κ × β)}
    (sorted : entries.Pairwise fun a b => a.1 < b.1) :
    (insertEntry key value entries).Pairwise fun a b => a.1 < b.1 := by
  induction entries with
  | nil => exact List.pairwise_singleton _ _
  | cons head rest ih =>
    obtain ⟨least, tail⟩ := List.pairwise_cons.mp sorted
    rw [insertEntry]
    split_ifs with below same
    · refine List.pairwise_cons.mpr ⟨fun entry member => ?_, sorted⟩
      rcases List.mem_cons.mp member with rfl | later
      · exact below
      · exact below.trans (least entry later)
    · refine List.pairwise_cons.mpr ⟨fun entry member => ?_, tail⟩
      rw [same]
      exact least entry member
    · refine List.pairwise_cons.mpr ⟨fun entry member => ?_, ih tail⟩
      rcases mem_insertEntry member with rfl | later
      · exact lt_of_le_of_ne (not_lt.mp below) (Ne.symm same)
      · exact least entry later

/-- An entry above all others is inserted at the end. -/
theorem insertEntry_above {key : κ} (value : β) {entries : List (κ × β)}
    (above : ∀ entry ∈ entries, entry.1 < key) :
    insertEntry key value entries = entries ++ [(key, value)] := by
  induction entries with
  | nil => rfl
  | cons head rest ih =>
    have larger := above head List.mem_cons_self
    rw [insertEntry, if_neg larger.not_gt, if_neg larger.ne',
      ih fun entry member => above entry (List.mem_cons_of_mem _ member)]
    rfl

theorem lookup_insertEntry [BEq κ] [LawfulBEq κ] (key other : κ) (value : β)
    (entries : List (κ × β)) :
    (insertEntry key value entries).lookup other
      = if other = key then some value else entries.lookup other := by
  induction entries with
  | nil => by_cases same : other = key <;> simp [insertEntry, same]
  | cons head rest ih =>
    rw [insertEntry]
    by_cases same : other = key
    · subst same
      rw [if_pos rfl] at ih ⊢
      split_ifs with below equal
      · simp
      · simp
      · rw [List.lookup_cons, beq_eq_false_iff_ne.mpr equal]
        exact ih
    · rw [if_neg same] at ih ⊢
      split_ifs with below equal
      · rw [List.lookup_cons, beq_eq_false_iff_ne.mpr same]
      · rw [List.lookup_cons, beq_eq_false_iff_ne.mpr same, List.lookup_cons,
          beq_eq_false_iff_ne.mpr (equal ▸ same)]
      · rw [List.lookup_cons, List.lookup_cons, ih]

/-- **Entries inserted in key order are appended in that order.** -/
theorem foldl_insertEntry {start entries : List (κ × β)}
    (sorted : (start ++ entries).Pairwise fun a b => a.1 < b.1) :
    entries.foldl (fun built entry => insertEntry entry.1 entry.2 built) start
      = start ++ entries := by
  induction entries generalizing start with
  | nil => simp
  | cons head rest ih =>
    have above : ∀ entry ∈ start, entry.1 < head.1 := fun entry member =>
      (List.pairwise_append.mp sorted).2.2 entry member head List.mem_cons_self
    rw [List.foldl_cons, insertEntry_above _ above, ih (by simpa using sorted)]
    simp

/-! ### Lookup -/

/-- The value stored under a key. -/
def find? (key : κ) (map : SortedMap κ β) : Option β := map.entries.lookup key

/-- Lookup and membership agree: a sorted list has one entry for each key. -/
theorem lookup_eq_some_iff_mem {entries : List (κ × β)}
    (sorted : entries.Pairwise fun a b => a.1 < b.1) {key : κ} {value : β} :
    entries.lookup key = some value ↔ (key, value) ∈ entries := by
  induction entries with
  | nil => simp
  | cons head rest ih =>
    obtain ⟨least, tail⟩ := List.pairwise_cons.mp sorted
    obtain ⟨headKey, headValue⟩ := head
    by_cases same : key = headKey
    · subst same
      rw [List.lookup_cons_self, List.mem_cons]
      constructor
      · intro equal
        cases equal
        exact Or.inl rfl
      · rintro (equal | later)
        · cases equal
          rfl
        · exact absurd (least _ later) (lt_irrefl _)
    · rw [List.lookup_cons, beq_eq_false_iff_ne.mpr same]
      rw [List.mem_cons]
      constructor
      · exact fun found => Or.inr ((ih tail).mp found)
      · rintro (equal | later)
        · cases equal
          exact absurd rfl same
        · exact (ih tail).mpr later

theorem find?_eq_some_iff {map : SortedMap κ β} {key : κ} {value : β} :
    map.find? key = some value ↔ (key, value) ∈ map.entries :=
  lookup_eq_some_iff_mem map.sorted

/-- Maps with the same lookups are equal. -/
theorem ext_find? {first second : SortedMap κ β} (same : ∀ key, first.find? key = second.find? key) :
    first = second := by
  refine ext_entries (List.Pairwise.eq_of_mem_iff first.sorted second.sorted fun entry => ?_)
  rw [← find?_eq_some_iff, ← find?_eq_some_iff, same]

/-- **One entry for each key**: a found entry splits the list, and no other entry has its key. -/
theorem find?_split {map : SortedMap κ β} {key : κ} {value : β} (found : map.find? key = some value) :
    ∃ before after, map.entries = before ++ (key, value) :: after ∧
      (∀ entry ∈ before, entry.1 ≠ key) ∧ ∀ entry ∈ after, entry.1 ≠ key := by
  obtain ⟨before, after, split⟩ := List.append_of_mem (find?_eq_some_iff.mp found)
  have sorted := map.sorted
  rw [split] at sorted
  obtain ⟨-, right, across⟩ := List.pairwise_append.mp sorted
  refine ⟨before, after, split, fun entry member => ?_, fun entry member => ?_⟩
  · exact (across entry member (key, value) List.mem_cons_self).ne
  · exact ((List.pairwise_cons.mp right).1 entry member).ne'

/-! ### The operations -/

/-- The map with no entries. -/
def empty : SortedMap κ β := ⟨[], List.Pairwise.nil⟩

/-- The keys of a map, in order. -/
def keys (map : SortedMap κ β) : List κ := map.entries.map Prod.fst

/-- Bind a key, replacing what it was bound to. -/
def insert (key : κ) (value : β) (map : SortedMap κ β) : SortedMap κ β :=
  ⟨insertEntry key value map.entries, insertEntry_sorted key value map.sorted⟩

/-- Bind a key that is not bound; a bound key keeps its value. -/
def emplace (key : κ) (value : β) (map : SortedMap κ β) : SortedMap κ β :=
  if (map.find? key).isSome then map else map.insert key value

/-- Remove a key. -/
def erase (key : κ) (map : SortedMap κ β) : SortedMap κ β :=
  ⟨map.entries.filter fun entry => entry.1 ≠ key, map.sorted.filter _⟩

/-- Rewrite every value, knowing its key. -/
def mapWithKey (f : κ → β → γ) (map : SortedMap κ β) : SortedMap κ γ :=
  ⟨map.entries.map fun entry => (entry.1, f entry.1 entry.2), map.sorted.map _ fun _ _ => id⟩

/-- Rewrite the value of one key. -/
def modify (key : κ) (f : β → β) (map : SortedMap κ β) : SortedMap κ β :=
  map.mapWithKey fun other value => if other = key then f value else value

@[simp] theorem find?_empty (key : κ) : (empty : SortedMap κ β).find? key = none := rfl

@[simp] theorem find?_mapWithKey (f : κ → β → γ) (map : SortedMap κ β) (key : κ) :
    (map.mapWithKey f).find? key = (map.find? key).map (f key) := by
  obtain ⟨entries, sorted⟩ := map
  simp only [find?, mapWithKey]
  clear sorted
  induction entries with
  | nil => rfl
  | cons head rest ih =>
    rw [List.map_cons, List.lookup_cons, List.lookup_cons, ih]
    by_cases same : key = head.1
    · simp [same]
    · simp [beq_eq_false_iff_ne.mpr same]

theorem find?_modify (key other : κ) (f : β → β) (map : SortedMap κ β) :
    (map.modify key f).find? other
      = if other = key then (map.find? key).map f else map.find? other := by
  rw [modify, find?_mapWithKey]
  split_ifs with same
  · rw [same]
  · cases map.find? other <;> rfl

theorem find?_modify_self (key : κ) (f : β → β) (map : SortedMap κ β) :
    (map.modify key f).find? key = (map.find? key).map f := by
  rw [find?_modify, if_pos rfl]

theorem find?_modify_of_ne {key other : κ} (different : other ≠ key) (f : β → β)
    (map : SortedMap κ β) : (map.modify key f).find? other = map.find? other := by
  rw [find?_modify, if_neg different]

/-- Two updates that agree on the present value are the same update. -/
theorem modify_congr {key : κ} {value : β} {map : SortedMap κ β} (found : map.find? key = some value)
    {f g : β → β} (same : f value = g value) : map.modify key f = map.modify key g := by
  refine ext_entries (List.map_congr_left fun entry member => ?_)
  by_cases hit : entry.1 = key
  · have stored := find?_eq_some_iff.mpr member
    rw [hit, found] at stored
    cases stored
    simp [hit, same]
  · simp [hit]

theorem modify_eq_self {key : κ} {value : β} {map : SortedMap κ β}
    (found : map.find? key = some value) {f : β → β} (same : f value = value) :
    map.modify key f = map := by
  rw [modify_congr found (g := id) same]
  refine ext_entries ?_
  simp [modify, mapWithKey]

theorem find?_insert (key other : κ) (value : β) (map : SortedMap κ β) :
    (map.insert key value).find? other = if other = key then some value else map.find? other :=
  lookup_insertEntry key other value map.entries

theorem find?_emplace (key other : κ) (value : β) (map : SortedMap κ β) :
    (map.emplace key value).find? other
      = if other = key then some ((map.find? key).getD value) else map.find? other := by
  rw [emplace]
  by_cases bound : (map.find? key).isSome
  · rw [if_pos bound]
    split_ifs with same
    · obtain ⟨stored, found⟩ := Option.isSome_iff_exists.mp bound
      rw [same, found]
      rfl
    · rfl
  · rw [if_neg bound, find?_insert, Option.not_isSome_iff_eq_none.mp bound]
    rfl

theorem find?_erase (key other : κ) (map : SortedMap κ β) :
    (map.erase key).find? other = if other = key then none else map.find? other := by
  obtain ⟨entries, sorted⟩ := map
  simp only [find?, erase]
  clear sorted
  induction entries with
  | nil => simp
  | cons head rest ih =>
    by_cases removed : head.1 = key
    · rw [List.filter_cons_of_neg (by simpa using removed), ih, List.lookup_cons]
      split_ifs with same
      · rfl
      · rw [beq_eq_false_iff_ne.mpr (removed ▸ same)]
    · rw [List.filter_cons_of_pos (by simpa using removed), List.lookup_cons, List.lookup_cons, ih]
      split_ifs with same
      · rw [same, beq_eq_false_iff_ne.mpr (Ne.symm removed)]
      · rfl

/-- An update of a key that is removed next is lost. -/
theorem erase_modify (key : κ) (f : β → β) (map : SortedMap κ β) :
    (map.modify key f).erase key = map.erase key := by
  refine ext_entries ?_
  obtain ⟨entries, sorted⟩ := map
  simp only [erase, modify, mapWithKey]
  clear sorted
  induction entries with
  | nil => rfl
  | cons head rest ih =>
    rw [List.map_cons]
    by_cases removed : head.1 = key
    · rw [List.filter_cons_of_neg (by simpa using removed),
        List.filter_cons_of_neg (by simpa using removed), ih]
    · rw [List.filter_cons_of_pos (by simpa using removed),
        List.filter_cons_of_pos (by simpa using removed), ih, if_neg removed]

/-- Inserting the entries of a map in order builds the map. -/
theorem entries_foldl_insertEntry (map : SortedMap κ β) :
    map.entries.foldl (fun built entry => insertEntry entry.1 entry.2 built) [] = map.entries := by
  have sorted : ([] ++ map.entries : List (κ × β)).Pairwise fun a b => a.1 < b.1 := map.sorted
  rw [foldl_insertEntry sorted, List.nil_append]

/-- The same for whole maps, also when every value is rewritten on the way. -/
theorem foldl_insert (g : β → γ) (map : SortedMap κ β) :
    map.entries.foldl (fun built entry => built.insert entry.1 (g entry.2)) empty
      = map.mapWithKey fun _ value => g value := by
  have entriesOf : ∀ (entries : List (κ × β)) (built : SortedMap κ γ),
      (entries.foldl (fun built entry => built.insert entry.1 (g entry.2)) built).entries
        = (entries.map fun entry => (entry.1, g entry.2)).foldl
            (fun built entry => insertEntry entry.1 entry.2 built) built.entries := by
    intro entries
    induction entries with
    | nil => intro built; rfl
    | cons head rest ih => intro built; exact ih _
  have same := entriesOf map.entries empty
  rw [show map.entries.map (fun entry => (entry.1, g entry.2))
      = (map.mapWithKey fun _ value => g value).entries from rfl,
    show (empty : SortedMap κ γ).entries = [] from rfl, entries_foldl_insertEntry] at same
  exact ext_entries same

/-! ### Counting values -/

/-- The number of entries whose value satisfies `p`. -/
def count (p : β → Bool) (map : SortedMap κ β) : Nat := map.entries.countP fun entry => p entry.2

theorem count_pos_iff {p : β → Bool} {map : SortedMap κ β} :
    0 < map.count p ↔ ∃ key value, map.find? key = some value ∧ p value = true := by
  rw [count, List.countP_pos_iff]
  constructor
  · rintro ⟨⟨key, value⟩, member, holds⟩
    exact ⟨key, value, find?_eq_some_iff.mpr member, holds⟩
  · rintro ⟨key, value, found, holds⟩
    exact ⟨(key, value), find?_eq_some_iff.mp found, holds⟩

theorem ite_eq_toNat (bit : Bool) : (if bit = true then 1 else 0) = bit.toNat := by cases bit <;> rfl

/-- A rewriting that keeps `p` keeps the count. -/
theorem count_mapWithKey {p : β → Bool} {q : γ → Bool} {f : κ → β → γ} {map : SortedMap κ β}
    (keeps : ∀ key value, q (f key value) = p value) : (map.mapWithKey f).count q = map.count p := by
  rw [count, count, mapWithKey, List.countP_map]
  exact List.countP_congr fun entry _ => by simp [keeps]

/-- **Counting after one update**: the old value leaves, the new one enters. -/
theorem count_modify {p : β → Bool} {f : β → β} {map : SortedMap κ β} {key : κ} {value : β}
    (found : map.find? key = some value) :
    (map.modify key f).count p + (p value).toNat = map.count p + (p (f value)).toNat := by
  obtain ⟨before, after, split, left, right⟩ := find?_split found
  have unchanged : ∀ part : List (κ × β), (∀ entry ∈ part, entry.1 ≠ key) →
      part.map (fun entry => (entry.1, if entry.1 = key then f entry.2 else entry.2)) = part := by
    intro part others
    conv_rhs => rw [← List.map_id part]
    exact List.map_congr_left fun entry member => by simp [others entry member]
  simp only [count, modify, mapWithKey, split, List.map_append, List.map_cons, if_true,
    unchanged before left, unchanged after right, List.countP_append, List.countP_cons,
    ite_eq_toNat]
  omega

theorem count_erase {p : β → Bool} {map : SortedMap κ β} {key : κ} {value : β}
    (found : map.find? key = some value) :
    (map.erase key).count p + (p value).toNat = map.count p := by
  obtain ⟨before, after, split, left, right⟩ := find?_split found
  have kept : ∀ part : List (κ × β), (∀ entry ∈ part, entry.1 ≠ key) →
      part.filter (fun entry => entry.1 ≠ key) = part := fun part others =>
    List.filter_eq_self.mpr fun entry member => by simpa using others entry member
  simp only [count, erase, split, List.filter_append, kept before left]
  rw [List.filter_cons_of_neg (by simp), kept after right]
  simp only [List.countP_append, List.countP_cons, ite_eq_toNat]
  omega

theorem count_insert_of_none {p : β → Bool} {map : SortedMap κ β} {key : κ} (value : β)
    (missing : map.find? key = none) :
    (map.insert key value).count p = map.count p + (p value).toNat := by
  have bound : (map.insert key value).find? key = some value := by rw [find?_insert, if_pos rfl]
  have removed : (map.insert key value).erase key = map := by
    have absent : ∀ entry ∈ map.entries, entry.1 ≠ key := by
      rintro ⟨other, stored⟩ member rfl
      rw [find?_eq_some_iff.mpr member] at missing
      cases missing
    obtain ⟨entries, sorted⟩ := map
    simp only [erase, insert, SortedMap.mk.injEq]
    change ∀ entry ∈ entries, entry.1 ≠ key at absent
    clear sorted bound missing
    induction entries with
    | nil => simp [insertEntry]
    | cons head rest ih =>
      have headKept : head.1 ≠ key := absent head List.mem_cons_self
      have restKept := fun entry member => absent entry (List.mem_cons_of_mem _ member)
      rw [insertEntry, if_neg (Ne.symm headKept)]
      split_ifs with below
      · rw [List.filter_cons_of_neg (by simp)]
        exact List.filter_eq_self.mpr fun entry member => by simpa using absent entry member
      · rw [List.filter_cons_of_pos (by simpa using headKept), ih restKept]
  rw [← count_erase bound, removed]

end SortedMap
