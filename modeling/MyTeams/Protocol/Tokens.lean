/-
**The two tokenizers.**

`TokenParser::parse` (client) and `parseArgs` (server) read a line with `std::istream >> word` and
put a quoted argument back together from its words, with one blank between two words. Both are the
word loop below, with the inner loop's search for the closing quote as a pending text; they differ
in their guards and at the end of the line, where the client gives up and the server drops the
argument.

* `Storable` — the strings that a tokenizer can produce: words separated by single blanks, and only
  the last word may end in a quote;
* `parseArgs_storable` — every argument of every line is storable;
* `Reads`, `reads_quoted` — a storable value between quotes is read back as one token, whatever
  follows it.
-/

import MyTeams.Lib.Words
import MyTeams.Protocol.Frame

namespace MyTeams

open Words

/-! ### `TokenParser::parse` -/

namespace TokenParser

/-- The word loop. The first argument is the text of a quoted token whose closing quote is still
being searched by the inner loop. -/
def scan : Option Bytes → List Bytes → Option (List Bytes)
  | none, [] => some []
  | some _, [] => none
  | none, word :: rest =>
    if word.head? = some doubleQuote then
      if !word.tail.isEmpty && endsInQuote word.tail then
        (scan none rest).map (word.tail.dropLast :: ·)
      else scan (some word.tail) rest
    else (scan none rest).map (word :: ·)
  | some quoted, nextWord :: rest =>
    if !nextWord.isEmpty && endsInQuote nextWord then
      (scan none rest).map ((quoted ++ blank :: nextWord).dropLast :: ·)
    else scan (some (quoted ++ blank :: nextWord)) rest

/-- `TokenParser::parse` -/
def parse (rawFrame : Bytes) : Option (List Bytes) := scan none (words isSpace rawFrame)

end TokenParser

/-! ### `parseArgs` -/

namespace CommandHandling

/-- The word loop. `quotedArg.back()` on the empty string (a word that is a lone quote) is read as
"not a quote"; an argument whose closing quote is missing is dropped at the end of the line. -/
def scan : Option Bytes → List Bytes → List Bytes
  | _, [] => []
  | none, word :: rest =>
    if word.head? = some doubleQuote then
      if endsInQuote word.tail then word.tail.dropLast :: scan none rest
      else scan (some word.tail) rest
    else word :: scan none rest
  | some quotedArg, nextWord :: rest =>
    if endsInQuote nextWord then (quotedArg ++ blank :: nextWord).dropLast :: scan none rest
    else scan (some (quotedArg ++ blank :: nextWord)) rest

/-- `parseArgs` -/
def parseArgs (rawCommand : Bytes) : List Bytes := scan none (words isSpace rawCommand)

end CommandHandling

/-! ### Storable strings -/

/-- A text without whitespace. -/
def Clean (text : Bytes) : Prop := ∀ byte ∈ text, isSpace byte = false

instance (text : Bytes) : Decidable (Clean text) := List.decidableBAll _ text

/-- A word inside a quoted argument: it neither is empty nor ends the argument. -/
def Inner (word : Bytes) : Prop := Clean word ∧ word ≠ [] ∧ endsInQuote word = false

/-- **The strings that a tokenizer produces.** -/
inductive Storable : Bytes → Prop
  /-- A text without whitespace. -/
  | word {text : Bytes} (clean : Clean text) : Storable text
  /-- Words separated by single blanks; the first and the last may be empty. -/
  | words {first last : Bytes} {middle : List Bytes} (cleanFirst : Clean first)
      (openFirst : endsInQuote first = false) (inner : ∀ word ∈ middle, Inner word)
      (cleanLast : Clean last) : Storable (first ++ middle.flatMap (blank :: ·) ++ blank :: last)

theorem Clean.of_subset {text part : Bytes} (clean : Clean text) (subset : part ⊆ text) :
    Clean part := fun byte member => clean byte (subset member)

theorem Clean.cons_quote {text : Bytes} (clean : Clean text) : Clean (doubleQuote :: text) := by
  intro byte member
  rcases List.mem_cons.mp member with rfl | inside
  · decide
  · exact clean byte inside

theorem Clean.concat_quote {text : Bytes} (clean : Clean text) : Clean (text ++ [doubleQuote]) := by
  intro byte member
  rcases List.mem_append.mp member with inside | back
  · exact clean byte inside
  · rw [List.mem_singleton.mp back]
    decide

theorem clean_nil : Clean [] := fun _ member => absurd member List.not_mem_nil

theorem storable_nil : Storable [] := .word clean_nil

theorem endsInQuote_concat (text : Bytes) (byte : UInt8) :
    endsInQuote (text ++ [byte]) = decide (byte = doubleQuote) := by
  simp [endsInQuote]

/-- A text that ends in a quote is its front and the quote. -/
theorem eq_of_endsInQuote {text : Bytes} (ends : endsInQuote text = true) :
    text = text.dropLast ++ [doubleQuote] := by
  have last : text.getLast? = some doubleQuote := of_decide_eq_true ends
  exact (List.dropLast_append_getLast? doubleQuote last).symm

/-- The text of a quoted argument whose closing quote is still missing. -/
def Pending (quoted : Bytes) : Prop :=
  ∃ (first : Bytes) (middle : List Bytes), Clean first ∧ endsInQuote first = false ∧
    (∀ word ∈ middle, Inner word) ∧ quoted = first ++ middle.flatMap (blank :: ·)

theorem Pending.extend {quoted word : Bytes} (pending : Pending quoted) (inner : Inner word) :
    Pending (quoted ++ blank :: word) := by
  obtain ⟨first, middle, cleanFirst, openFirst, others, rfl⟩ := pending
  refine ⟨first, middle ++ [word], cleanFirst, openFirst, fun other member => ?_, by simp⟩
  rcases List.mem_append.mp member with old | new
  · exact others other old
  · rw [List.mem_singleton.mp new]
    exact inner

theorem Pending.close {quoted word : Bytes} (pending : Pending quoted) (clean : Clean word)
    (ends : endsInQuote word = true) : Storable (quoted ++ blank :: word).dropLast := by
  obtain ⟨first, middle, cleanFirst, openFirst, others, rfl⟩ := pending
  have split := eq_of_endsInQuote ends
  have closed : (first ++ middle.flatMap (blank :: ·) ++ blank :: word).dropLast
      = first ++ middle.flatMap (blank :: ·) ++ blank :: word.dropLast := by
    conv_lhs => rw [split, ← List.cons_append, ← List.append_assoc]
    rw [List.dropLast_concat]
  rw [closed]
  exact .words cleanFirst openFirst others (clean.of_subset (List.dropLast_subset _))

/-- **The word loop produces storable arguments**, from any pending text. -/
theorem CommandHandling.scan_storable (lineWords : List Bytes)
    (clean : ∀ word ∈ lineWords, Clean word ∧ word ≠ []) :
    (∀ arg ∈ scan none lineWords, Storable arg) ∧
      ∀ quoted, Pending quoted → ∀ arg ∈ scan (some quoted) lineWords, Storable arg := by
  induction lineWords with
  | nil => exact ⟨by simp [scan], fun quoted _ => by simp [scan]⟩
  | cons word rest ih =>
    obtain ⟨cleanWord, nonempty⟩ := clean word List.mem_cons_self
    obtain ⟨fresh, inside⟩ := ih fun other member => clean other (List.mem_cons_of_mem _ member)
    have cleanTail : Clean word.tail := cleanWord.of_subset fun _ => List.mem_of_mem_tail
    constructor
    · rw [scan]
      split_ifs with opens closes
      · intro arg member
        rcases List.mem_cons.mp member with rfl | later
        · exact .word (cleanTail.of_subset (List.dropLast_subset _))
        · exact fresh arg later
      · exact inside _ ⟨word.tail, [], cleanTail, Bool.eq_false_iff.mpr closes, by simp, by simp⟩
      · intro arg member
        rcases List.mem_cons.mp member with rfl | later
        · exact .word cleanWord
        · exact fresh arg later
    · intro quoted pending
      rw [scan]
      split_ifs with closes
      · intro arg member
        rcases List.mem_cons.mp member with rfl | later
        · exact pending.close cleanWord closes
        · exact fresh arg later
      · exact inside _ (pending.extend ⟨cleanWord, nonempty, Bool.eq_false_iff.mpr closes⟩)

/-- **Every argument of every line is storable.** -/
theorem CommandHandling.parseArgs_storable (rawCommand : Bytes) :
    ∀ arg ∈ parseArgs rawCommand, Storable arg :=
  (scan_storable _ fun _ member => ⟨words_clean member, words_ne_nil member⟩).1

/-! ### Pending texts -/

/-- The inner loop only appends to its pending text. -/
theorem TokenParser.scan_pending {lineWords : List Bytes} {quoted : Bytes} {tokens : List Bytes}
    (read : scan (some quoted) lineWords = some tokens) :
    ∃ more rest, tokens = (quoted ++ blank :: more) :: rest := by
  induction lineWords generalizing quoted with
  | nil => cases read
  | cons nextWord later ih =>
    rw [scan] at read
    split_ifs at read with closes
    · obtain ⟨rest, -, rfl⟩ := Option.map_eq_some_iff.mp read
      have nonempty : nextWord ≠ [] := by
        rintro rfl
        simp at closes
      refine ⟨nextWord.dropLast, rest, ?_⟩
      rw [List.dropLast_append_of_ne_nil (List.cons_ne_nil _ _),
        List.dropLast_cons_of_ne_nil nonempty]
    · obtain ⟨more, rest, rfl⟩ := ih read
      exact ⟨nextWord ++ blank :: more, rest, by simp⟩

/-- **Where the client finds tokens, the server finds the same.** -/
theorem CommandHandling.scan_of_client {lineWords : List Bytes} {quoted : Option Bytes}
    {tokens : List Bytes} (read : TokenParser.scan quoted lineWords = some tokens) :
    scan quoted lineWords = tokens := by
  induction lineWords generalizing quoted tokens with
  | nil =>
    cases quoted with
    | none =>
      cases read
      rfl
    | some text => cases read
  | cons word rest ih =>
    have guard : ∀ text : Bytes, (!text.isEmpty && endsInQuote text) = endsInQuote text := by
      intro text
      cases text <;> rfl
    cases quoted with
    | none =>
      rw [TokenParser.scan, guard] at read
      rw [scan]
      split_ifs at read ⊢
      · obtain ⟨others, later, rfl⟩ := Option.map_eq_some_iff.mp read
        rw [ih later]
      · exact ih read
      · obtain ⟨others, later, rfl⟩ := Option.map_eq_some_iff.mp read
        rw [ih later]
    | some text =>
      rw [TokenParser.scan, guard] at read
      rw [scan]
      split_ifs at read ⊢
      · obtain ⟨others, later, rfl⟩ := Option.map_eq_some_iff.mp read
        rw [ih later]
      · exact ih read

theorem CommandHandling.parseArgs_of_client {line : Bytes} {tokens : List Bytes}
    (read : TokenParser.parse line = some tokens) : parseArgs line = tokens := scan_of_client read

/-! ### Reading a value back -/

/-- `item` is read as the one token `value`, whatever words follow. -/
def Reads (item value : Bytes) : Prop :=
  ∀ rest, TokenParser.scan none (words isSpace item ++ rest)
    = (TokenParser.scan none rest).map (value :: ·)

/-- A word that does not open a quote is read as it is. -/
theorem reads_word {word : Bytes} (clean : Clean word) (nonempty : word ≠ [])
    (bare : word.head? ≠ some doubleQuote) : Reads word word := by
  intro rest
  rw [words_of_clean clean nonempty, List.singleton_append, TokenParser.scan, if_neg bare]

/-- The inner loop walks over words that do not end in a quote. -/
theorem TokenParser.scan_inner {middle : List Bytes}
    (opened : ∀ word ∈ middle, endsInQuote word = false) (quoted : Bytes) (rest : List Bytes) :
    scan (some quoted) (middle ++ rest)
      = scan (some (quoted ++ middle.flatMap (blank :: ·))) rest := by
  induction middle generalizing quoted with
  | nil => simp
  | cons word later ih =>
    rw [List.cons_append, scan, opened word List.mem_cons_self, Bool.and_false,
      if_neg Bool.false_ne_true, ih (fun other member => opened other (List.mem_cons_of_mem _ member))]
    simp

/-- The words of a storable value between quotes. -/
theorem words_middle (middle : List Bytes) (inner : ∀ word ∈ middle, Inner word) (text : Bytes) :
    words isSpace (middle.flatMap (blank :: ·) ++ blank :: text)
      = middle ++ words isSpace text := by
  have cut : isSpace blank = true := by decide
  induction middle with
  | nil => exact words_separator_cons cut text
  | cons word later ih =>
    obtain ⟨clean, nonempty, -⟩ := inner word List.mem_cons_self
    have rest := ih fun other member => inner other (List.mem_cons_of_mem _ member)
    have cons : (word :: later).flatMap (blank :: ·) ++ blank :: text
        = blank :: (word ++ (later.flatMap (blank :: ·) ++ blank :: text)) := by simp
    rw [cons, words_separator_cons cut]
    cases later with
    | nil => simpa using words_cons_of_clean clean nonempty cut text
    | cons second others =>
      have start : (second :: others).flatMap (blank :: ·) ++ blank :: text
          = blank :: (second ++ others.flatMap (blank :: ·) ++ blank :: text) := by simp
      rw [start] at rest ⊢
      rw [words_separator_cons cut] at rest
      rw [words_cons_of_clean clean nonempty cut, rest]
      rfl

/-- The words of a text that starts with a quote and several words. -/
theorem words_opened {first : Bytes} {middle : List Bytes} (cleanFirst : Clean first)
    (inner : ∀ word ∈ middle, Inner word) (text : Bytes) :
    words isSpace (doubleQuote :: (first ++ middle.flatMap (blank :: ·) ++ blank :: text))
      = (doubleQuote :: first) :: (middle ++ words isSpace text) := by
  have cut : isSpace blank = true := by decide
  have tail := words_middle middle inner text
  have shape : doubleQuote :: (first ++ middle.flatMap (blank :: ·) ++ blank :: text)
      = (doubleQuote :: first) ++ (middle.flatMap (blank :: ·) ++ blank :: text) := by simp
  rw [shape]
  cases middle with
  | nil =>
    rw [List.flatMap_nil, List.nil_append,
      words_cons_of_clean cleanFirst.cons_quote (by simp) cut]
    rfl
  | cons second others =>
    have start : (second :: others).flatMap (blank :: ·) ++ blank :: text
        = blank :: (second ++ others.flatMap (blank :: ·) ++ blank :: text) := by
      simp
    rw [start] at tail ⊢
    rw [words_separator_cons cut] at tail
    rw [words_cons_of_clean cleanFirst.cons_quote (by simp) cut, tail]

/-- The words of a storable value of several words between quotes. -/
theorem words_quoted {first last : Bytes} {middle : List Bytes} (cleanFirst : Clean first)
    (inner : ∀ word ∈ middle, Inner word) (cleanLast : Clean last) :
    words isSpace
        (doubleQuote :: (first ++ middle.flatMap (blank :: ·) ++ blank :: last) ++ [doubleQuote])
      = (doubleQuote :: first) :: (middle ++ [last ++ [doubleQuote]]) := by
  have opened := words_opened cleanFirst inner (last ++ [doubleQuote])
  have closing : words isSpace (last ++ [doubleQuote]) = [last ++ [doubleQuote]] :=
    words_of_clean cleanLast.concat_quote (by simp)
  rw [closing] at opened
  rw [← opened]
  simp

/-- **A storable value between quotes is read back as one token.** -/
theorem reads_quoted {value : Bytes} (storable : Storable value) :
    Reads (doubleQuote :: value ++ [doubleQuote]) value := by
  intro rest
  cases storable with
  | word clean =>
    rw [words_of_clean clean.cons_quote.concat_quote (by simp), List.singleton_append,
      List.cons_append, TokenParser.scan, List.head?_cons, if_pos rfl, List.tail_cons,
      endsInQuote_concat, List.dropLast_concat]
    simp
  | @words first last middle cleanFirst openFirst inner cleanLast =>
    rw [words_quoted cleanFirst inner cleanLast, List.cons_append, TokenParser.scan,
      List.head?_cons, if_pos rfl, List.tail_cons, openFirst, Bool.and_false,
      if_neg Bool.false_ne_true, List.append_assoc, TokenParser.scan_inner fun word member => (inner word member).2.2,
      List.singleton_append, TokenParser.scan, endsInQuote_concat, ← List.cons_append,
      ← List.append_assoc, List.dropLast_concat]
    simp

end MyTeams
