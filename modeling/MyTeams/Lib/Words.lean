/-
**Words and lines of a sequence.**

`words p l` are the maximal runs of non-separators of `l`, in order; `lines p l` are the texts in
front of the separators and `tail p l` is what follows the last one. Both are read off the
separator split of the core library.

* `words_append_separator` — a separator cuts a text: the words of both sides, one after the other;
* `words_of_clean` — a nonempty text without separators is one word;
* `words_append_separated`, `words_clean_append` — cutting a text in front of a separator, and the first
  word of a text;
* `lines_append`, `tail_append` — reading a text in two pieces gives the same lines;
* `tail_clean`, `tail_suffix` — what is left after the last separator;
* `lines_of_stream` — the first part of a stream of lines has the first lines of the stream;
* `find`, `find_cases` — the next separator from a position on, and the line in front of it.
-/

import Mathlib.Data.List.Basic
import Mathlib.Data.List.Induction
import Mathlib.Data.List.TakeWhile

namespace Words

variable {α : Type*} {p : α → Bool}

/-! ### Words -/

/-- The maximal runs of non-separators. -/
def words (p : α → Bool) (l : List α) : List (List α) :=
  (l.splitOnP p).filter fun word => !word.isEmpty

@[simp] theorem words_nil : words p [] = [] := by simp [words]

/-- **A separator cuts a text.** -/
theorem words_append_separator (left right : List α) {separator : α} (cuts : p separator = true) :
    words p (left ++ separator :: right) = words p left ++ words p right := by
  rw [words, List.splitOnP_append_cons _ _ cuts, List.filter_append, words, words]

theorem words_separator_cons {separator : α} (cuts : p separator = true) (right : List α) :
    words p (separator :: right) = words p right := by
  have cut := words_append_separator [] right cuts
  rwa [List.nil_append, words_nil, List.nil_append] at cut

/-- Separators in front of a text are skipped. -/
theorem words_separators_append {gap : List α} (cuts : ∀ a ∈ gap, p a = true) (right : List α) :
    words p (gap ++ right) = words p right := by
  induction gap with
  | nil => rfl
  | cons head rest ih =>
    rw [List.cons_append, words_separator_cons (cuts head List.mem_cons_self),
      ih fun a member => cuts a (List.mem_cons_of_mem _ member)]

/-- **A nonempty text without separators is one word.** -/
theorem words_of_clean {word : List α} (clean : ∀ a ∈ word, p a = false) (nonempty : word ≠ []) :
    words p word = [word] := by
  rw [words, List.splitOnP_eq_singleton clean]
  cases word with
  | nil => exact absurd rfl nonempty
  | cons head rest => rfl

/-- A word and the separator that ends it come off the front. -/
theorem words_cons_of_clean {word : List α} (clean : ∀ a ∈ word, p a = false) (nonempty : word ≠ [])
    {separator : α} (cuts : p separator = true) (right : List α) :
    words p (word ++ separator :: right) = word :: words p right := by
  rw [words_append_separator _ _ cuts, words_of_clean clean nonempty]
  rfl

/-- A text that is empty or starts with a separator. -/
def Separated (p : α → Bool) (l : List α) : Prop :=
  l = [] ∨ ∃ separator rest, p separator = true ∧ l = separator :: rest

/-- The words of both sides of a text that is cut in front of a separator. -/
theorem words_append_separated (left : List α) {right : List α} (separated : Separated p right) :
    words p (left ++ right) = words p left ++ words p right := by
  rcases separated with rfl | ⟨separator, rest, cuts, rfl⟩
  · rw [List.append_nil, words_nil, List.append_nil]
  · rw [words_append_separator _ _ cuts, words_separator_cons cuts]

/-- A text ends its first word where its next separator stands. -/
theorem exists_separated (l : List α) : ∃ front rest, l = front ++ rest ∧
    (∀ a ∈ front, p a = false) ∧ Separated p rest := by
  induction l with
  | nil => exact ⟨[], [], rfl, fun _ member => absurd member List.not_mem_nil, Or.inl rfl⟩
  | cons head tail ih =>
    by_cases cuts : p head = true
    · exact ⟨[], head :: tail, rfl, fun _ member => absurd member List.not_mem_nil,
        Or.inr ⟨head, tail, cuts, rfl⟩⟩
    · obtain ⟨front, rest, rfl, clean, separated⟩ := ih
      refine ⟨head :: front, rest, rfl, fun a member => ?_, separated⟩
      rcases List.mem_cons.mp member with rfl | inside
      · exact Bool.eq_false_iff.mpr cuts
      · exact clean a inside

/-- A text that starts with a nonempty clean text: this is the start of its first word. -/
theorem words_clean_append {start : List α} (clean : ∀ a ∈ start, p a = false) (nonempty : start ≠ [])
    (more : List α) : ∃ front rest, more = front ++ rest ∧ Separated p rest ∧
      (∀ a ∈ start ++ front, p a = false) ∧
      words p (start ++ more) = (start ++ front) :: words p rest := by
  obtain ⟨front, rest, rfl, cleanFront, separated⟩ := exists_separated (p := p) more
  have cleanWord : ∀ a ∈ start ++ front, p a = false := by
    intro a member
    rcases List.mem_append.mp member with early | late
    · exact clean a early
    · exact cleanFront a late
  refine ⟨front, rest, rfl, separated, cleanWord, ?_⟩
  rw [← List.append_assoc, words_append_separated _ separated,
    words_of_clean cleanWord (by simp [nonempty]), List.singleton_append]

theorem splitOnP_clean (l : List α) : ∀ piece ∈ l.splitOnP p, ∀ a ∈ piece, p a = false := by
  induction l with
  | nil => simp
  | cons head rest ih =>
    rw [List.splitOnP_cons_eq_if_modifyHead]
    split_ifs with cuts
    · intro piece member
      rcases List.mem_cons.mp member with rfl | later
      · exact fun a inside => absurd inside List.not_mem_nil
      · exact ih piece later
    · cases split : rest.splitOnP p with
      | nil => exact absurd split (List.splitOnP_ne_nil _ _)
      | cons first others =>
        rw [split] at ih
        intro piece member
        rw [List.modifyHead_cons] at member
        rcases List.mem_cons.mp member with rfl | later
        · intro a inside
          rcases List.mem_cons.mp inside with rfl | inside
          · exact Bool.eq_false_iff.mpr cuts
          · exact ih first List.mem_cons_self a inside
        · exact ih piece (List.mem_cons_of_mem _ later)

theorem words_clean {l word : List α} (member : word ∈ words p l) : ∀ a ∈ word, p a = false :=
  splitOnP_clean l word (List.mem_filter.mp member).1

theorem words_ne_nil {l word : List α} (member : word ∈ words p l) : word ≠ [] := by
  have kept := (List.mem_filter.mp member).2
  rintro rfl
  cases kept

/-! ### Lines -/

/-- The texts in front of the separators. -/
def lines (p : α → Bool) (l : List α) : List (List α) := (l.splitOnP p).dropLast

/-- What follows the last separator. -/
def tail (p : α → Bool) (l : List α) : List α := (l.splitOnP p).getLast?.getD []

/-- **Reading on**: only the piece after the last separator meets the new text. -/
theorem splitOnP_append (left right : List α) :
    (left ++ right).splitOnP p = lines p left ++ (tail p left ++ right).splitOnP p := by
  induction left with
  | nil => simp [lines, tail]
  | cons head rest ih =>
    rw [List.cons_append, List.splitOnP_cons_eq_if_modifyHead, ih]
    simp only [lines, tail, List.splitOnP_cons_eq_if_modifyHead head rest]
    have nonempty := List.splitOnP_ne_nil p rest
    by_cases cuts : p head = true
    · simp only [cuts, if_true]
      rw [List.dropLast_cons_of_ne_nil nonempty, List.getLast?_cons,
        List.getLast?_eq_some_getLast nonempty]
      rfl
    · simp only [cuts, if_false, Bool.false_eq_true]
      cases split : rest.splitOnP p with
      | nil => exact absurd split nonempty
      | cons first others =>
        cases others with
        | nil =>
          simp [List.splitOnP_cons_eq_if_modifyHead, cuts]
        | cons second later => simp

theorem lines_append (left right : List α) :
    lines p (left ++ right) = lines p left ++ lines p (tail p left ++ right) := by
  rw [lines, splitOnP_append, List.dropLast_append_of_ne_nil (List.splitOnP_ne_nil _ _)]
  rfl

theorem tail_append (left right : List α) :
    tail p (left ++ right) = tail p (tail p left ++ right) := by
  have nonempty := List.splitOnP_ne_nil p (tail p left ++ right)
  rw [tail, splitOnP_append left right, List.getLast?_append_of_ne_nil _ nonempty]
  rfl

theorem lines_eq_nil {text : List α} (clean : ∀ a ∈ text, p a = false) : lines p text = [] := by
  rw [lines, List.splitOnP_eq_singleton clean]
  rfl

theorem tail_eq_self {text : List α} (clean : ∀ a ∈ text, p a = false) : tail p text = text := by
  rw [tail, List.splitOnP_eq_singleton clean]
  rfl

theorem tail_mem (l : List α) : tail p l ∈ l.splitOnP p := by
  rw [tail, List.getLast?_eq_some_getLast (List.splitOnP_ne_nil p l)]
  exact List.getLast_mem _

theorem tail_clean (l : List α) : ∀ a ∈ tail p l, p a = false := splitOnP_clean l _ (tail_mem l)

theorem tail_concat (l : List α) {separator : α} (cuts : p separator = true) :
    tail p (l ++ [separator]) = [] := by
  rw [tail, List.splitOnP_append_cons _ _ cuts, List.splitOnP_nil, List.getLast?_append]
  rfl

theorem tail_suffix (l : List α) : tail p l <:+ l := by
  induction l using List.reverseRecOn with
  | nil => simp [tail]
  | append_singleton l last ih =>
    rw [tail_append]
    by_cases cuts : p last = true
    · rw [tail_concat _ cuts]
      exact List.nil_suffix
    · have clean : ∀ a ∈ tail p l ++ [last], p a = false := by
        intro a member
        rcases List.mem_append.mp member with inside | final
        · exact tail_clean l a inside
        · rw [List.mem_singleton.mp final]
          exact Bool.eq_false_iff.mpr cuts
      rw [tail_eq_self clean]
      exact (List.suffix_append_inj_of_length_eq rfl).mpr ⟨ih, rfl⟩

/-- What is dropped from a text when its lines are taken off. -/
theorem drop_lines (l : List α) : l.drop (l.length - (tail p l).length) = tail p l :=
  (List.suffix_iff_eq_drop.mp (tail_suffix l)).symm

/-- A text that ends in its only separator is one line. -/
theorem lines_of_clean {text : List α} (clean : ∀ a ∈ text, p a = false) {separator : α}
    (cuts : p separator = true) : lines p (text ++ [separator]) = [text] := by
  rw [lines, List.splitOnP_append_cons _ _ cuts, List.splitOnP_eq_singleton clean]
  rfl

/-- **Texts that are ended by a separator each are the lines of what they make together.** -/
theorem lines_flatMap {texts : List (List α)} (clean : ∀ text ∈ texts, ∀ a ∈ text, p a = false)
    {separator : α} (cuts : p separator = true) :
    lines p (texts.flatMap (· ++ [separator])) = texts := by
  induction texts with
  | nil => exact lines_eq_nil fun _ member => absurd member List.not_mem_nil
  | cons text rest ih =>
    have first := clean text List.mem_cons_self
    have others := ih fun later member => clean later (List.mem_cons_of_mem _ member)
    rw [List.flatMap_cons, List.append_assoc, List.singleton_append, lines,
      List.splitOnP_append_cons _ _ cuts, List.splitOnP_eq_singleton first, List.singleton_append,
      List.dropLast_cons_of_ne_nil (List.splitOnP_ne_nil _ _)]
    exact congrArg (text :: ·) others

/-- A text is its lines and what is left behind the last separator. -/
theorem flatMap_lines {separator : α} (only : ∀ a, p a = true ↔ a = separator) (l : List α) :
    (lines p l).flatMap (· ++ [separator]) ++ tail p l = l := by
  have cuts : p separator = true := (only separator).mpr rfl
  induction l using List.reverseRecOn with
  | nil => rfl
  | append_singleton l last ih =>
    rw [lines_append, tail_append]
    by_cases same : last = separator
    · subst same
      rw [lines_of_clean (tail_clean l) cuts, tail_concat _ cuts, List.flatMap_append,
        List.flatMap_singleton, List.append_nil, ← List.append_assoc, ih]
    · have clean : ∀ a ∈ tail p l ++ [last], p a = false := by
        intro a member
        rcases List.mem_append.mp member with inside | final
        · exact tail_clean l a inside
        · rw [List.mem_singleton.mp final]
          exact Bool.eq_false_iff.mpr fun other => same ((only last).mp other)
      rw [lines_eq_nil clean, tail_eq_self clean, List.append_nil, ← List.append_assoc, ih]

/-- **The first part of a stream of lines**: its lines are the first ones of the stream, and what is left
of it starts the others. -/
theorem lines_of_stream {texts : List (List α)} (clean : ∀ text ∈ texts, ∀ a ∈ text, p a = false)
    {separator : α} (only : ∀ a, p a = true ↔ a = separator) {left right : List α}
    (stream : left ++ right = texts.flatMap (· ++ [separator])) :
    ∃ rest, texts = lines p left ++ rest ∧ tail p left ++ right = rest.flatMap (· ++ [separator]) := by
  have whole := lines_flatMap clean ((only separator).mpr rfl)
  rw [← stream, lines_append] at whole
  refine ⟨lines p (tail p left ++ right), whole.symm, ?_⟩
  have cut : (lines p left).flatMap (· ++ [separator]) ++ (tail p left ++ right)
      = (lines p left).flatMap (· ++ [separator])
        ++ (lines p (tail p left ++ right)).flatMap (· ++ [separator]) := by
    rw [← List.append_assoc, flatMap_lines only, ← List.flatMap_append, whole, stream]
  exact List.append_cancel_left cut

/-- A text has as many lines as separators. -/
theorem length_lines (l : List α) : (lines p l).length = l.countP p := by
  have pieces : (l.splitOnP p).length = l.countP p + 1 := by
    induction l with
    | nil => rfl
    | cons head rest ih =>
      rw [List.splitOnP_cons_eq_if_modifyHead, List.countP_cons]
      split_ifs
      · rw [List.length_cons, ih]
      · rw [List.length_modifyHead, ih]
  rw [lines, List.length_dropLast, pieces, Nat.add_sub_cancel]

theorem lines_eq_nil_iff {l : List α} : lines p l = [] ↔ ∀ a ∈ l, p a = false := by
  rw [← List.length_eq_zero_iff, length_lines, List.countP_eq_zero]
  simp only [Bool.not_eq_true]

/-- Behind a separator, reading starts anew. -/
theorem lines_append_of_tail {left : List α} (complete : tail p left = []) (right : List α) :
    lines p (left ++ right) = lines p left ++ lines p right := by
  rw [lines_append, complete, List.nil_append]

theorem lines_cons_of_clean {front : List α} (clean : ∀ a ∈ front, p a = false) {separator : α}
    (cuts : p separator = true) (rest : List α) :
    lines p (front ++ separator :: rest) = front :: lines p rest := by
  rw [lines, List.splitOnP_append_cons _ _ cuts, List.splitOnP_eq_singleton clean,
    List.singleton_append, List.dropLast_cons_of_ne_nil (List.splitOnP_ne_nil _ _)]
  rfl

theorem tail_cons_of_clean {front : List α} {separator : α} (cuts : p separator = true)
    (rest : List α) : tail p (front ++ separator :: rest) = tail p rest := by
  rw [tail, List.splitOnP_append_cons _ _ cuts,
    List.getLast?_append_of_ne_nil _ (List.splitOnP_ne_nil _ _)]
  rfl

/-- The unfinished piece of a list starts a piece of every longer list. -/
theorem tail_prefix_append (left right : List α) :
    (∃ line ∈ lines p (left ++ right), tail p left <+: line) ∨ tail p left <+: tail p (left ++ right) := by
  obtain ⟨front, rest, rfl, cleanFront, separated⟩ := @exists_separated _ p right
  have clean : ∀ a ∈ tail p left ++ front, p a = false := by
    intro a member
    rcases List.mem_append.mp member with early | late
    · exact tail_clean left a early
    · exact cleanFront a late
  rcases separated with rfl | ⟨separator, later, cuts, rfl⟩
  · refine Or.inr ?_
    rw [List.append_nil, tail_append, tail_eq_self clean]
    exact List.prefix_append _ _
  · refine Or.inl ⟨tail p left ++ front, ?_, List.prefix_append _ _⟩
    rw [lines_append, ← List.append_assoc, lines_cons_of_clean clean cuts]
    exact List.mem_append_right _ List.mem_cons_self

/-! ### Searching by position -/

/-- The first position from `pos` on where a separator stands. -/
def find (p : α → Bool) (l : List α) (pos : Nat) : Option Nat :=
  if (l.drop pos).any p then some (pos + ((l.drop pos).takeWhile (!p ·)).length) else none

/-- **What a search finds**: nothing, and there is no line left; or the end of the next line. -/
theorem find_cases (p : α → Bool) (l : List α) (pos : Nat) :
    (find p l pos = none ∧ lines p (l.drop pos) = [] ∧ tail p (l.drop pos) = l.drop pos) ∨
    ∃ index, find p l pos = some index ∧ pos ≤ index ∧ index < l.length ∧
      lines p (l.drop pos)
        = (l.drop pos).take (index - pos) :: lines p (l.drop (index + 1)) ∧
      tail p (l.drop pos) = tail p (l.drop (index + 1)) := by
  by_cases found : (l.drop pos).any p = true
  · refine Or.inr ⟨_, if_pos found, Nat.le_add_right _ _, ?_⟩
    have split := @List.takeWhile_append_dropWhile _ (!p ·) (l.drop pos)
    have clean : ∀ a ∈ (l.drop pos).takeWhile (!p ·), p a = false := fun a member => by
      simpa using List.mem_takeWhile_imp member
    cases behind : (l.drop pos).dropWhile (!p ·) with
    | nil =>
      obtain ⟨a, member, cuts⟩ := List.any_eq_true.mp found
      have all := List.dropWhile_eq_nil_iff.mp behind a member
      rw [cuts] at all
      cases all
    | cons separator rest =>
      have cuts : p separator = true := by
        have head := List.head?_dropWhile_not (!p ·) (l.drop pos)
        rw [behind] at head
        simpa using head
      rw [behind] at split
      generalize (l.drop pos).takeWhile (!p ·) = front at split clean
      have later : l.drop (pos + front.length + 1) = rest := by
        rw [Nat.add_assoc, ← List.drop_drop, ← split, List.drop_append]
        simp
      have inside : pos + front.length < l.length := by
        have length := congrArg List.length split
        rw [List.length_append, List.length_cons, List.length_drop] at length
        omega
      refine ⟨inside, ?_, ?_⟩
      · rw [later, ← split, lines_cons_of_clean clean cuts, Nat.add_sub_cancel_left, List.take_left]
      · rw [later, ← split, tail_cons_of_clean cuts]
  · have clean : ∀ a ∈ l.drop pos, p a = false := fun a member => by
      by_contra cuts
      exact found (List.any_eq_true.mpr ⟨a, member, by simpa using cuts⟩)
    exact Or.inl ⟨if_neg found, lines_eq_nil clean, tail_eq_self clean⟩

end Words
