/-
**The quoted texts of a command line.**

`hasUnquotedArgs` accepts an argument part that is made of quoted texts with whitespace in front of
them and behind the last one. `parts` reads these texts with their gaps, `layout` writes them, and an
accepted argument part is the layout of its parts (`layout_parts`).

* `SingleBlanks` — a text whose only whitespace is single blanks: without quotes, this is what a
  tokenizer can produce (`storable_iff`);
* `dispatch_sends` — what is known about a line for which a frame is sent.
-/

import Mathlib.Data.List.Chain
import MyTeams.ClientApp.CommandLine

namespace MyTeams

open Words

/-! ### Parts -/

/-- The quoted texts of an argument part, each with the text in front of it. The first argument is what
has been read of the gap, the second what has been read between two quotes. -/
def parts : Bytes → Option Bytes → Bytes → List (Bytes × Bytes)
  | _, _, [] => []
  | gap, none, byte :: rest =>
    if byte = doubleQuote then parts gap (some []) rest else parts (gap ++ [byte]) none rest
  | gap, some text, byte :: rest =>
    if byte = doubleQuote then (gap, text) :: parts [] none rest
    else parts gap (some (text ++ [byte])) rest

/-- The texts between the successive pairs of quotes. -/
def quotedTexts (argsView : Bytes) : List Bytes := (parts [] none argsView).map Prod.snd

/-- The argument part with these parts. -/
def layout : List (Bytes × Bytes) → Bytes → Bytes
  | [], trailing => trailing
  | (gap, text) :: rest, trailing => gap ++ (doubleQuote :: text ++ doubleQuote :: layout rest trailing)

/-- Whitespace in the gaps, no quote in the texts. -/
structure Part (part : Bytes × Bytes) : Prop where
  gap : ∀ byte ∈ part.1, isSpace byte = true
  text : doubleQuote ∉ part.2

/-- The two states of the scan, each with what it has read. -/
theorem layout_parts_from (argsView : Bytes) :
    (∀ gap : Bytes, (∀ byte ∈ gap, isSpace byte = true) →
      CommandLineDispatcher.hasUnquoted false argsView = false →
      ∃ trailing, (∀ byte ∈ trailing, isSpace byte = true) ∧
        (∀ part ∈ parts gap none argsView, Part part) ∧
        gap ++ argsView = layout (parts gap none argsView) trailing) ∧
    ∀ gap text : Bytes, (∀ byte ∈ gap, isSpace byte = true) → doubleQuote ∉ text →
      CommandLineDispatcher.hasUnquoted true argsView = false →
      ∃ trailing, (∀ byte ∈ trailing, isSpace byte = true) ∧
        (∀ part ∈ parts gap (some text) argsView, Part part) ∧
        gap ++ doubleQuote :: (text ++ argsView) = layout (parts gap (some text) argsView) trailing := by
  induction argsView with
  | nil =>
    refine ⟨fun gap spaces _ => ⟨gap, spaces, by simp [parts], by simp [parts, layout]⟩, ?_⟩
    intro gap text _ _ unquoted
    cases unquoted
  | cons byte rest ih =>
    obtain ⟨outside, inside⟩ := ih
    constructor
    · intro gap spaces unquoted
      rw [CommandLineDispatcher.hasUnquoted] at unquoted
      rw [parts]
      split_ifs at unquoted with space quote
      · have other : byte ≠ doubleQuote := by
          rintro rfl
          cases space
        rw [if_neg other]
        obtain ⟨trailing, blankTail, each, shape⟩ := outside (gap ++ [byte])
          (by simpa [or_imp, forall_and, space] using spaces) unquoted
        exact ⟨trailing, blankTail, each, by rw [← shape]; simp⟩
      · rw [if_pos quote]
        obtain ⟨trailing, blankTail, each, shape⟩ := inside gap [] spaces List.not_mem_nil unquoted
        exact ⟨trailing, blankTail, each, by rw [← shape, quote]; simp⟩
    · intro gap text spaces free unquoted
      rw [CommandLineDispatcher.hasUnquoted] at unquoted
      rw [parts]
      split_ifs at unquoted ⊢ with quote
      · obtain ⟨trailing, blankTail, each, shape⟩ := outside [] (by simp) unquoted
        refine ⟨trailing, blankTail, ?_, ?_⟩
        · exact List.forall_mem_cons.mpr ⟨⟨spaces, free⟩, each⟩
        · rw [layout, ← shape, quote]
          simp
      · obtain ⟨trailing, blankTail, each, shape⟩ := inside gap (text ++ [byte]) spaces
          (by simpa [free] using fun same => quote same.symm) unquoted
        exact ⟨trailing, blankTail, each, by rw [← shape]; simp⟩

/-- **An accepted argument part is the layout of its parts.** -/
theorem layout_parts {argsView : Bytes}
    (quoted : CommandLineDispatcher.hasUnquotedArgs argsView = false) :
    ∃ trailing, (∀ byte ∈ trailing, isSpace byte = true) ∧
      (∀ part ∈ parts [] none argsView, Part part) ∧
      argsView = layout (parts [] none argsView) trailing :=
  (layout_parts_from argsView).1 [] (by simp) quoted

/-! ### Single blanks -/

/-- Whitespace in a text is single blanks. -/
def SingleBlanks (text : Bytes) : Prop :=
  (∀ byte ∈ text, isSpace byte = true → byte = blank) ∧
    List.IsChain (fun first second => ¬ (isSpace first = true ∧ isSpace second = true)) text

instance (text : Bytes) : Decidable (SingleBlanks text) :=
  @instDecidableAnd _ _ (List.decidableBAll _ text) _

theorem SingleBlanks.tail {byte : UInt8} {rest : Bytes} (single : SingleBlanks (byte :: rest)) :
    SingleBlanks rest :=
  ⟨fun other member => single.1 other (List.mem_cons_of_mem _ member),
    (List.isChain_cons.mp single.2).2⟩

theorem endsInQuote_of_free {text : Bytes} (free : doubleQuote ∉ text) : endsInQuote text = false :=
  decide_eq_false fun last => free (List.mem_of_getLast? last)

theorem Clean.cons {byte : UInt8} {text : Bytes} (space : isSpace byte = false) (clean : Clean text) :
    Clean (byte :: text) := by
  intro other member
  rcases List.mem_cons.mp member with rfl | inside
  · exact space
  · exact clean other inside

/-- A text without quotes whose whitespace is single blanks is storable. -/
theorem SingleBlanks.storable {text : Bytes} (single : SingleBlanks text) (free : doubleQuote ∉ text) :
    Storable text := by
  induction text with
  | nil => exact storable_nil
  | cons byte rest ih =>
    have freeRest : doubleQuote ∉ rest := fun member => free (List.mem_cons_of_mem _ member)
    have storable := ih single.tail freeRest
    cases space : isSpace byte with
    | false =>
      cases storable with
      | word clean => exact .word (clean.cons space)
      | @words first last middle cleanFirst openFirst inner cleanLast =>
        have opened : endsInQuote (byte :: first) = false := by
          refine endsInQuote_of_free fun member => free ?_
          rcases List.mem_cons.mp member with rfl | inside
          · exact List.mem_cons_self
          · exact List.mem_cons_of_mem _ (by simp [inside])
        exact .words (cleanFirst.cons space) opened inner cleanLast
    | true =>
      have isBlank : byte = blank := single.1 byte List.mem_cons_self space
      subst isBlank
      cases storable with
      | word clean =>
        have words := Storable.words clean_nil (by decide) (List.forall_mem_nil _) clean
        simpa using words
      | @words first last middle cleanFirst openFirst inner cleanLast =>
        -- the text after a blank does not start with another one
        have nonempty : first ≠ [] := by
          rintro rfl
          have next := (List.isChain_cons.mp single.2).1
          cases middle with
          | nil => exact next blank (by simp) ⟨by decide, by decide⟩
          | cons second others => exact next blank (by simp) ⟨by decide, by decide⟩
        have innerAll : ∀ word ∈ first :: middle, Inner word := by
          intro word member
          rcases List.mem_cons.mp member with rfl | later
          · exact ⟨cleanFirst, nonempty, openFirst⟩
          · exact inner word later
        have words := Storable.words clean_nil (by decide) innerAll cleanLast
        simpa using words

theorem Clean.singleBlanks {text : Bytes} (clean : Clean text) : SingleBlanks text := by
  refine ⟨fun byte member space => ?_, ?_⟩
  · rw [clean byte member] at space
    cases space
  · refine List.Pairwise.isChain (List.pairwise_of_forall_mem_list fun first member _ _ both => ?_)
    rw [clean first member] at both
    exact absurd both.1 Bool.false_ne_true

/-- A clean text in front. -/
theorem SingleBlanks.append {front rest : Bytes} (single : SingleBlanks rest) (clean : Clean front) :
    SingleBlanks (front ++ rest) := by
  refine ⟨fun byte member space => ?_, List.IsChain.append clean.singleBlanks.2 single.2 ?_⟩
  · rcases List.mem_append.mp member with inside | inside
    · rw [clean byte inside] at space
      cases space
    · exact single.1 byte inside space
  · intro last member _ _ both
    rw [clean last (List.mem_of_getLast? member)] at both
    exact absurd both.1 Bool.false_ne_true

/-- A blank in front of a text that does not start with whitespace. -/
theorem SingleBlanks.cons_blank {rest : Bytes} (single : SingleBlanks rest)
    (starts : ∀ byte ∈ rest.head?, isSpace byte = false) : SingleBlanks (blank :: rest) := by
  refine ⟨fun byte member space => ?_, List.isChain_cons.mpr ⟨fun byte member both => ?_, single.2⟩⟩
  · rcases List.mem_cons.mp member with rfl | inside
    · rfl
    · exact single.1 byte inside space
  · rw [starts byte member] at both
    exact absurd both.2 Bool.false_ne_true

/-- The whitespace of a storable text is single blanks. -/
theorem Storable.singleBlanks {text : Bytes} (storable : Storable text) : SingleBlanks text := by
  cases storable with
  | word clean => exact clean.singleBlanks
  | @words first last middle cleanFirst openFirst inner cleanLast =>
    have rest : SingleBlanks (middle.flatMap (blank :: ·) ++ blank :: last) := by
      induction middle with
      | nil =>
        exact cleanLast.singleBlanks.cons_blank fun byte member =>
          cleanLast byte (List.mem_of_head? member)
      | cons word others ih =>
        obtain ⟨clean, nonempty, -⟩ := inner word List.mem_cons_self
        have later := (ih fun other member => inner other (List.mem_cons_of_mem _ member)).append clean
        have whole := later.cons_blank fun byte member => by
          rw [List.head?_append_of_ne_nil _ nonempty] at member
          exact clean byte (List.mem_of_head? member)
        simpa using whole
    rw [List.append_assoc]
    exact rest.append cleanFirst

/-- **Without quotes, a text is storable if and only if its whitespace is single blanks.** -/
theorem storable_iff {text : Bytes} (free : doubleQuote ∉ text) : Storable text ↔ SingleBlanks text :=
  ⟨Storable.singleBlanks, fun single => single.storable free⟩

/-! ### Lines that are sent -/

open CommandLineDispatcher

/-- What is known about a line for which a frame is sent. -/
structure Sends (command argsView : Bytes) : Prop where
  separated : Separated isSpace argsView
  supported : isSupportedServerCommand command = true
  valid : validateArgs command argsView = none

/-- A command word of the client: no whitespace, no quote. -/
theorem supported_word {command : Bytes} (supported : isSupportedServerCommand command = true) :
    Clean command ∧ command ≠ [] ∧ doubleQuote ∉ command := by
  have each : ∀ schema ∈ CommandSchema.schemas,
      Clean schema.name ∧ schema.name ≠ [] ∧ doubleQuote ∉ schema.name := by
    decide
  obtain ⟨schema, member, named⟩ := List.any_eq_true.mp supported
  rw [← of_decide_eq_true named]
  exact each schema member

theorem validateArgs_none {command argsView : Bytes} (valid : validateArgs command argsView = none) :
    hasUnquotedArgs argsView = false ∧ ∃ tokens schema, TokenParser.parse argsView = some tokens ∧
      findSchema command tokens.length = some schema ∧ findTooLong tokens schema.args = none := by
  unfold validateArgs at valid
  split_ifs at valid with unquoted
  refine ⟨Bool.eq_false_iff.mpr unquoted, ?_⟩
  cases read : TokenParser.parse argsView with
  | none =>
    rw [read] at valid
    cases valid
  | some tokens =>
    rw [read] at valid
    cases found : findSchema command tokens.length with
    | none =>
      simp only [found] at valid
      cases valid
    | some schema =>
      simp only [found] at valid
      exact ⟨tokens, schema, rfl, found, valid⟩

/-- Without a quote in front, the first word of a line is its first token. -/
theorem first_token {start argsView : Bytes} {tokens : List Bytes} {command : Bytes}
    (clean : Clean start) (nonempty : start ≠ []) (separated : Separated isSpace argsView)
    (bare : start.head? ≠ some doubleQuote)
    (read : TokenParser.parse (start ++ argsView) = some (command :: tokens)) : command = start := by
  unfold TokenParser.parse at read
  rw [words_append_separated _ separated, words_of_clean clean nonempty, List.singleton_append,
    TokenParser.scan, if_neg bare] at read
  obtain ⟨_, -, same⟩ := Option.map_eq_some_iff.mp read
  exact (List.cons.inj same).1.symm

/-- A line whose command word is quoted has unquoted arguments behind the length of the word. -/
theorem quoted_command {start argsView command : Bytes} {tokens : List Bytes}
    (supported : isSupportedServerCommand command = true) (clean : Clean start)
    (separated : Separated isSpace argsView) (quote : start.head? = some doubleQuote)
    (read : TokenParser.parse (start ++ argsView) = some (command :: tokens)) :
    ¬ hasUnquotedArgs ((start ++ argsView).drop command.length) = false := by
  obtain ⟨cleanCommand, nonempty, free⟩ := supported_word supported
  obtain ⟨inside, rfl⟩ := List.head?_eq_some_iff.mp quote
  unfold TokenParser.parse at read
  rw [words_append_separated _ separated, words_of_clean clean (List.cons_ne_nil _ _),
    List.singleton_append, TokenParser.scan, if_pos quote, List.tail_cons] at read
  split_ifs at read with closes
  · obtain ⟨_, -, same⟩ := Option.map_eq_some_iff.mp read
    have token := (List.cons.inj same).1
    have ends : endsInQuote inside = true := by
      rw [Bool.and_eq_true] at closes
      exact closes.2
    have shape := eq_of_endsInQuote ends
    rw [token] at shape
    -- what is left starts with the last byte of the command word
    obtain ⟨front, last, rfl⟩ : ∃ front last, command = front ++ [last] :=
      ⟨_, _, (List.dropLast_append_getLast nonempty).symm⟩
    have left : (doubleQuote :: inside ++ argsView).drop (front ++ [last]).length
        = last :: doubleQuote :: argsView := by
      have longer : doubleQuote :: inside ++ argsView
          = (doubleQuote :: front) ++ (last :: doubleQuote :: argsView) := by
        rw [shape]
        simp
      have width : (front ++ [last]).length = (doubleQuote :: front).length := by simp
      rw [longer, width, List.drop_left]
    have space : isSpace last = false := cleanCommand last (by simp)
    have other : ¬ last = doubleQuote := fun same => free (by simp [same])
    rw [left, hasUnquotedArgs, hasUnquoted, space, if_neg Bool.false_ne_true, if_neg other]
    exact fun impossible => by cases impossible
  · obtain ⟨more, rest, same⟩ := TokenParser.scan_pending read
    have inWord : blank ∈ command := by
      rw [(List.cons.inj same).1]
      simp
    have space := cleanCommand blank inWord
    exact absurd space (by decide)

/-- **A line for which a frame is sent starts with the command word**, and the frame is the line. -/
theorem dispatch_sends {line command frame : Bytes}
    (sent : ClientApplication.dispatchCommandLine line = .sent command frame) :
    ∃ argsView, frame = command ++ argsView ∧ Sends command argsView := by
  unfold ClientApplication.dispatchCommandLine at sent
  generalize trimmed : trimLeft line = trimmedLine at sent
  simp only at sent
  split_ifs at sent with empty
  cases extracted : extractCommand trimmedLine with
  | none =>
    rw [extracted] at sent
    cases sent
  | some word =>
    rw [extracted] at sent
    simp only at sent
    split_ifs at sent with help slash unknown
    have supported : isSupportedServerCommand word = true := by simpa using unknown
    cases valid : validateArgs word (trimmedLine.drop word.length) with
    | some err =>
      rw [valid] at sent
      cases sent
    | none =>
      rw [valid] at sent
      obtain ⟨rfl, rfl⟩ := Dispatch.sent.inj sent
      obtain ⟨cleanWord, -, freeWord⟩ := supported_word supported
      -- the first word of the line
      obtain ⟨start, argsView, rfl, cleanStart, separated⟩ := exists_separated (p := isSpace) trimmedLine
      have nonempty : start ≠ [] := by
        rintro rfl
        rw [List.nil_append] at empty trimmed
        rcases separated with none | ⟨byte, rest, space, shape⟩
        · exact empty none
        · have first : isSpace byte = false := by
            have starts := List.head?_dropWhile_not isSpace line
            rw [show line.dropWhile isSpace = byte :: rest from trimmed.trans shape] at starts
            simpa using starts
          rw [space] at first
          cases first
      have read : ∃ tokens, TokenParser.parse (start ++ argsView) = some (word :: tokens) := by
        unfold extractCommand at extracted
        split at extracted
        · rename_i first rest parsed
          cases extracted
          exact ⟨rest, parsed⟩
        · cases extracted
      obtain ⟨tokens, read⟩ := read
      by_cases quote : start.head? = some doubleQuote
      · exact absurd (validateArgs_none valid).1
          (quoted_command supported cleanStart separated quote read)
      · have same := first_token cleanStart nonempty separated quote read
        subst same
        rw [List.drop_left] at valid ⊢
        exact ⟨argsView, rfl, separated, supported, valid⟩

/-- **The server reads the command word and the tokens of the argument part.** -/
theorem Sends.parseArgs {command argsView : Bytes} (sends : Sends command argsView)
    {tokens : List Bytes} (read : TokenParser.parse argsView = some tokens) :
    CommandHandling.parseArgs (command ++ argsView) = command :: tokens := by
  obtain ⟨clean, nonempty, free⟩ := supported_word sends.supported
  have bare : command.head? ≠ some doubleQuote := fun head => free (List.mem_of_head? head)
  refine CommandHandling.parseArgs_of_client ?_
  unfold TokenParser.parse at read ⊢
  rw [words_append_separated _ sends.separated, reads_word clean nonempty bare, read]
  rfl

/-- The server takes a sent frame for the command that the client has recorded. -/
theorem sent_command {line command frame : Bytes}
    (sent : ClientApplication.dispatchCommandLine line = .sent command frame) :
    (CommandHandling.parseArgs frame).head? = some command := by
  obtain ⟨argsView, rfl, sends⟩ := dispatch_sends sent
  obtain ⟨-, tokens, -, read, -⟩ := validateArgs_none sends.valid
  rw [sends.parseArgs read]
  rfl

/-- A frame is made of the command word and of bytes of the line; it is not empty. -/
theorem sent_bytes {line command frame : Bytes}
    (sent : ClientApplication.dispatchCommandLine line = .sent command frame) :
    frame ≠ [] ∧ ∀ byte ∈ frame, isSpace byte = false ∨ byte ∈ line := by
  obtain ⟨argsView, shape, sends⟩ := dispatch_sends sent
  obtain ⟨clean, nonempty, -⟩ := supported_word sends.supported
  refine ⟨by simp [shape, nonempty], fun byte member => ?_⟩
  unfold ClientApplication.dispatchCommandLine at sent
  simp only at sent
  split at sent
  · cases sent
  · split at sent
    · cases sent
    · split_ifs at sent
      split at sent
      · cases sent
      · obtain ⟨rfl, rfl⟩ := Dispatch.sent.inj sent
        rcases List.mem_append.mp member with word | argument
        · exact Or.inl (clean byte word)
        · exact Or.inr ((List.dropWhile_suffix isSpace).subset (List.mem_of_mem_drop argument))

end MyTeams
