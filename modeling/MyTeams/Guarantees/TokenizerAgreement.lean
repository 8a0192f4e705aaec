/-
**On which lines the two tokenizers agree.**

A line is well quoted if every quoted argument of it is closed and no argument is opened by a lone
quote (`WellQuoted`). On these lines the server reads the tokens of the client and looks at no
character that is not there; on every other line it does not (`tokenizers_agree_iff`):

* a lone quote that opens an argument makes `parseArgs` call `back()` on the empty string, where the
  client takes the quote as the start of an argument;
* an argument that is not closed makes the client reject the line, while the server drops the
  argument and executes what stands in front of it (`parseArgs_unterminated`).

`checkedParseArgs` is `parseArgs` with every character access made explicit.
-/

import MyTeams.Invariants.Identities

namespace MyTeams

open Words

/-! ### The accesses of `parseArgs` -/

namespace CommandHandling

/-- The word loop of `parseArgs`; `none` if `front()` or `back()` is called on the empty string. What
`pop_back()` is called on ends in a quote, so it is never empty. -/
def checkedScan : Option Bytes → List Bytes → Option (List Bytes)
  | _, [] => some []
  | none, word :: rest =>
    match word.head? with
    | none => none
    | some front =>
      if front = doubleQuote then
        match word.tail.getLast? with
        | none => none
        | some back =>
          if back = doubleQuote then (checkedScan none rest).map (word.tail.dropLast :: ·)
          else checkedScan (some word.tail) rest
      else (checkedScan none rest).map (word :: ·)
  | some quotedArg, nextWord :: rest =>
    match nextWord.getLast? with
    | none => none
    | some back =>
      if back = doubleQuote then
        (checkedScan none rest).map ((quotedArg ++ blank :: nextWord).dropLast :: ·)
      else checkedScan (some (quotedArg ++ blank :: nextWord)) rest

/-- `parseArgs`; `none` where its behaviour is undefined. -/
def checkedParseArgs (rawCommand : Bytes) : Option (List Bytes) :=
  checkedScan none (words isSpace rawCommand)

end CommandHandling

/-! ### Quoted arguments -/

/-- Words whose quoted arguments are all closed, with `Opening` for the texts that may stand behind
an opening quote. -/
inductive Quoting (Opening : Bytes → Prop) : List Bytes → Prop
  | nil : Quoting Opening []
  /-- A word that opens no quoted argument. -/
  | bare {word : Bytes} {rest : List Bytes} (unquoted : word.head? ≠ some doubleQuote)
      (closed : Quoting Opening rest) : Quoting Opening (word :: rest)
  /-- A quoted argument of one word. -/
  | quoted {text : Bytes} {rest : List Bytes} (closes : endsInQuote text = true)
      (closed : Quoting Opening rest) : Quoting Opening ((doubleQuote :: text) :: rest)
  /-- A quoted argument of several words. -/
  | spread {text closing : Bytes} {inner rest : List Bytes} (opening : Opening text)
      (opened : endsInQuote text = false) (open' : ∀ word ∈ inner, endsInQuote word = false)
      (closes : endsInQuote closing = true) (closed : Quoting Opening rest) :
      Quoting Opening ((doubleQuote :: text) :: (inner ++ closing :: rest))

/-- Every quoted argument is closed, and none is opened by a lone quote. -/
def WellQuoted (line : Bytes) : Prop := Quoting (· ≠ []) (words isSpace line)

/-- The words end inside a quoted argument. -/
def Unterminated (lineWords : List Bytes) : Prop :=
  ∃ front text inner, Quoting (fun _ => True) front ∧ endsInQuote text = false ∧
    (∀ word ∈ inner, endsInQuote word = false) ∧ lineWords = front ++ (doubleQuote :: text) :: inner

/-- The command line was answered with one `400 BAD_REQUEST` and had no other effect on what is
stored. -/
def Rejected (fd : Int) (before after : Server) : Prop :=
  Server.newFrames fd before after = [Frame.badRequest] ∧ after.db = before.db

/-- **What the two tokenizers owe each other on a line.** -/
structure TokenizersAgree (line : Bytes) : Prop where
  /-- The server looks at no character that is not there. -/
  defined : (CommandHandling.checkedParseArgs line).isSome = true
  /-- The server finds a list of tokens exactly when the client does, and the same one. -/
  same : ∀ tokens, CommandHandling.checkedParseArgs line = some tokens ↔
    TokenParser.parse line = some tokens
  /-- A line with an unterminated argument is rejected by both. -/
  rejected : Unterminated (words isSpace line) → TokenParser.parse line = none ∧
    ∀ (env : Env) (fd : Int) (server : Server) (client : Client),
      server.clients.find? fd = some client →
        Rejected fd server (CommandHandling.handleCommand env line fd server)

/-! ### The loop of the client -/

namespace TokenParser

theorem scan_bare {word : Bytes} {rest : List Bytes} (unquoted : word.head? ≠ some doubleQuote) :
    scan none (word :: rest) = (scan none rest).map (word :: ·) := by
  rw [scan, if_neg unquoted]

theorem scan_quoted {text : Bytes} {rest : List Bytes} (closes : endsInQuote text = true) :
    scan none ((doubleQuote :: text) :: rest) = (scan none rest).map (text.dropLast :: ·) := by
  have nonempty : text.isEmpty = false := by
    cases text with
    | nil => cases closes
    | cons _ _ => rfl
  simp [scan, nonempty, closes]

theorem scan_opened {text : Bytes} {rest : List Bytes} (opened : endsInQuote text = false) :
    scan none ((doubleQuote :: text) :: rest) = scan (some text) rest := by
  simp [scan, opened]

theorem scan_closing {quoted word : Bytes} {rest : List Bytes} (closes : endsInQuote word = true) :
    scan (some quoted) (word :: rest)
      = (scan none rest).map ((quoted ++ blank :: word).dropLast :: ·) := by
  have nonempty : word.isEmpty = false := by
    cases word with
    | nil => cases closes
    | cons _ _ => rfl
  simp [scan, nonempty, closes]

theorem scan_open {quoted word : Bytes} {rest : List Bytes} (opened : endsInQuote word = false) :
    scan (some quoted) (word :: rest) = scan (some (quoted ++ blank :: word)) rest := by
  simp [scan, opened]

/-- A quoted argument of several words. -/
theorem scan_spread {text closing : Bytes} {inner rest : List Bytes}
    (opened : endsInQuote text = false) (open' : ∀ word ∈ inner, endsInQuote word = false)
    (closes : endsInQuote closing = true) :
    scan none ((doubleQuote :: text) :: (inner ++ closing :: rest))
      = (scan none rest).map
          ((text ++ inner.flatMap (blank :: ·) ++ blank :: closing).dropLast :: ·) := by
  rw [scan_opened opened, scan_inner open', scan_closing closes]

/-- Inside a quoted argument that is not closed the loop finds the end of the line. -/
theorem scan_pending_eq_none {quoted : Bytes} {inner : List Bytes}
    (open' : ∀ word ∈ inner, endsInQuote word = false) : scan (some quoted) inner = none := by
  rw [← List.append_nil inner, scan_inner open', scan]

/-- **A line that ends inside a quoted argument is rejected.** -/
theorem scan_unterminated {lineWords : List Bytes} (unterminated : Unterminated lineWords) :
    scan none lineWords = none := by
  obtain ⟨front, text, inner, closed, opened, open', rfl⟩ := unterminated
  induction closed with
  | nil => rw [List.nil_append, scan_opened opened, scan_pending_eq_none open']
  | bare unquoted _ ih => rw [List.cons_append, scan_bare unquoted, ih, Option.map_none]
  | quoted closes _ ih => rw [List.cons_append, scan_quoted closes, ih, Option.map_none]
  | spread _ opened' open'' closes _ ih =>
    rw [List.cons_append, List.append_assoc, List.cons_append, scan_spread opened' open'' closes, ih,
      Option.map_none]

end TokenParser

/-! ### The loop of the server -/

namespace CommandHandling

theorem checkedScan_bare {word : Bytes} {rest : List Bytes} (nonempty : word ≠ [])
    (unquoted : word.head? ≠ some doubleQuote) :
    checkedScan none (word :: rest) = (checkedScan none rest).map (word :: ·) := by
  cases word with
  | nil => exact absurd rfl nonempty
  | cons front text =>
    have different : front ≠ doubleQuote := fun same => unquoted (congrArg some same)
    simp [checkedScan, different]

/-- The last character of a text that ends in no quote. -/
theorem exists_back {word : Bytes} (nonempty : word ≠ []) (opened : endsInQuote word = false) :
    ∃ back, word.getLast? = some back ∧ back ≠ doubleQuote :=
  ⟨word.getLast nonempty, List.getLast?_eq_some_getLast nonempty, fun same =>
    of_decide_eq_false opened ((List.getLast?_eq_some_getLast nonempty).trans (congrArg some same))⟩

theorem checkedScan_quoted {text : Bytes} {rest : List Bytes} (closes : endsInQuote text = true) :
    checkedScan none ((doubleQuote :: text) :: rest)
      = (checkedScan none rest).map (text.dropLast :: ·) := by
  have back : text.getLast? = some doubleQuote := of_decide_eq_true closes
  simp [checkedScan, back]

theorem checkedScan_opened {text : Bytes} {rest : List Bytes} (nonempty : text ≠ [])
    (opened : endsInQuote text = false) :
    checkedScan none ((doubleQuote :: text) :: rest) = checkedScan (some text) rest := by
  obtain ⟨back, last, different⟩ := exists_back nonempty opened
  simp [checkedScan, last, different]

theorem checkedScan_lone (rest : List Bytes) : checkedScan none ([doubleQuote] :: rest) = none := by
  simp [checkedScan]

theorem checkedScan_closing {quotedArg word : Bytes} {rest : List Bytes}
    (closes : endsInQuote word = true) :
    checkedScan (some quotedArg) (word :: rest)
      = (checkedScan none rest).map ((quotedArg ++ blank :: word).dropLast :: ·) := by
  have back : word.getLast? = some doubleQuote := of_decide_eq_true closes
  simp [checkedScan, back]

theorem checkedScan_open {quotedArg word : Bytes} {rest : List Bytes} (nonempty : word ≠ [])
    (opened : endsInQuote word = false) :
    checkedScan (some quotedArg) (word :: rest)
      = checkedScan (some (quotedArg ++ blank :: word)) rest := by
  obtain ⟨back, last, different⟩ := exists_back nonempty opened
  simp [checkedScan, last, different]

/-- The inner loop walks over words that do not end in a quote. -/
theorem checkedScan_inner {inner : List Bytes} (opened : ∀ word ∈ inner, endsInQuote word = false)
    (nonempty : ∀ word ∈ inner, word ≠ []) (quotedArg : Bytes) (rest : List Bytes) :
    checkedScan (some quotedArg) (inner ++ rest)
      = checkedScan (some (quotedArg ++ inner.flatMap (blank :: ·))) rest := by
  induction inner generalizing quotedArg with
  | nil => simp
  | cons word later ih =>
    rw [List.cons_append, checkedScan_open (nonempty word List.mem_cons_self)
        (opened word List.mem_cons_self),
      ih (fun other member => opened other (List.mem_cons_of_mem _ member))
        (fun other member => nonempty other (List.mem_cons_of_mem _ member))]
    simp

/-- Where the loop is defined it is the loop of `parseArgs`. -/
theorem scan_of_checked {quotedArg : Option Bytes} {lineWords tokens : List Bytes}
    (read : checkedScan quotedArg lineWords = some tokens) : scan quotedArg lineWords = tokens := by
  induction lineWords generalizing quotedArg tokens with
  | nil => cases quotedArg <;> cases read <;> rfl
  | cons word rest ih =>
    cases quotedArg with
    | none =>
      cases word with
      | nil => cases read
      | cons front text =>
        by_cases quote : front = doubleQuote
        · subst quote
          cases closes : endsInQuote text with
          | true =>
            rw [checkedScan_quoted closes] at read
            obtain ⟨others, later, rfl⟩ := Option.map_eq_some_iff.mp read
            simp [scan, closes, ih later]
          | false =>
            by_cases lone : text = []
            · rw [lone, checkedScan_lone] at read
              cases read
            · rw [checkedScan_opened lone closes] at read
              simp [scan, closes, ih read]
        · have unquoted : (front :: text).head? ≠ some doubleQuote := fun same =>
            quote (Option.some.inj same)
          rw [checkedScan_bare (List.cons_ne_nil _ _) unquoted] at read
          obtain ⟨others, later, rfl⟩ := Option.map_eq_some_iff.mp read
          rw [scan, if_neg unquoted, ih later]
    | some text =>
      cases closes : endsInQuote word with
      | true =>
        rw [checkedScan_closing closes] at read
        obtain ⟨others, later, rfl⟩ := Option.map_eq_some_iff.mp read
        simp [scan, closes, ih later]
      | false =>
        by_cases nonempty : word = []
        · subst nonempty
          cases read
        · rw [checkedScan_open nonempty closes] at read
          simp [scan, closes, ih read]

theorem scan_inner {inner : List Bytes} (opened : ∀ word ∈ inner, endsInQuote word = false)
    (quotedArg : Bytes) (rest : List Bytes) :
    scan (some quotedArg) (inner ++ rest)
      = scan (some (quotedArg ++ inner.flatMap (blank :: ·))) rest := by
  induction inner generalizing quotedArg with
  | nil => simp
  | cons word later ih =>
    rw [List.cons_append, scan, opened word List.mem_cons_self, if_neg Bool.false_ne_true,
      ih (fun other member => opened other (List.mem_cons_of_mem _ member))]
    simp

/-- **An argument that is not closed is dropped**: the line is read as what stands in front of it. -/
theorem scan_unterminated {front inner : List Bytes} {text : Bytes}
    (closed : Quoting (fun _ => True) front) (opened : endsInQuote text = false)
    (open' : ∀ word ∈ inner, endsInQuote word = false) :
    scan none (front ++ (doubleQuote :: text) :: inner) = scan none front := by
  induction closed with
  | nil =>
    have ended := scan_inner open' text []
    rw [List.append_nil, scan] at ended
    simp [scan, opened, ended]
  | bare unquoted _ ih => rw [List.cons_append, scan, if_neg unquoted, scan, if_neg unquoted, ih]
  | quoted closes _ ih => simp [scan, closes, ih]
  | spread _ opened' open'' closes _ ih =>
    rw [List.cons_append, List.append_assoc, List.cons_append]
    simp [scan, opened', closes, scan_inner open'', ih]

/-- **Where `parseArgs` is defined it returns these arguments.** -/
theorem parseArgs_of_checked {rawCommand : Bytes} {tokens : List Bytes}
    (read : checkedParseArgs rawCommand = some tokens) : parseArgs rawCommand = tokens :=
  scan_of_checked read

/-- A line that ends inside a quoted argument is executed without the argument. -/
theorem parseArgs_unterminated {rawCommand : Bytes}
    (unterminated : Unterminated (words isSpace rawCommand)) :
    ∃ front dropped, words isSpace rawCommand = front ++ dropped ∧ dropped ≠ [] ∧
      parseArgs rawCommand = scan none front := by
  obtain ⟨front, text, inner, closed, opened, open', split⟩ := unterminated
  refine ⟨front, (doubleQuote :: text) :: inner, split, List.cons_ne_nil _ _, ?_⟩
  rw [parseArgs, split, scan_unterminated closed opened open']

end CommandHandling

/-! ### Agreement -/

section Agreement

variable {lineWords : List Bytes}

/-- On well quoted words both loops find the same tokens. -/
theorem scans_of_quoting (quoting : Quoting (· ≠ []) lineWords)
    (nonempty : ∀ word ∈ lineWords, word ≠ []) :
    ∃ tokens, CommandHandling.checkedScan none lineWords = some tokens ∧
      TokenParser.scan none lineWords = some tokens := by
  induction quoting with
  | nil => exact ⟨[], rfl, rfl⟩
  | @bare word rest unquoted _ ih =>
    obtain ⟨tokens, server, client⟩ := ih fun word member => nonempty word (List.mem_cons_of_mem _ member)
    refine ⟨word :: tokens, ?_, ?_⟩
    · rw [CommandHandling.checkedScan_bare (nonempty _ List.mem_cons_self) unquoted, server]
      rfl
    · rw [TokenParser.scan_bare unquoted, client]
      rfl
  | @quoted text rest closes _ ih =>
    obtain ⟨tokens, server, client⟩ := ih fun word member => nonempty word (List.mem_cons_of_mem _ member)
    refine ⟨text.dropLast :: tokens, ?_, ?_⟩
    · rw [CommandHandling.checkedScan_quoted closes, server]
      rfl
    · rw [TokenParser.scan_quoted closes, client]
      rfl
  | @spread text closing inner rest opening opened open' closes _ ih =>
    obtain ⟨tokens, server, client⟩ := ih fun word member => nonempty word (by simp [member])
    refine ⟨(text ++ inner.flatMap (blank :: ·) ++ blank :: closing).dropLast :: tokens, ?_, ?_⟩
    · rw [CommandHandling.checkedScan_opened opening opened,
        CommandHandling.checkedScan_inner open' (fun word member => nonempty word (by simp [member])),
        CommandHandling.checkedScan_closing closes, server]
      rfl
    · rw [TokenParser.scan_spread opened open' closes, client]
      rfl

/-- Words that both loops read to the end are well quoted; inside a quoted argument they start with
its end. -/
theorem quoting_of_scans (quotedArg : Option Bytes)
    (server : (CommandHandling.checkedScan quotedArg lineWords).isSome = true)
    (client : (TokenParser.scan quotedArg lineWords).isSome = true) :
    match quotedArg with
    | none => Quoting (· ≠ []) lineWords
    | some _ => ∃ inner closing rest, lineWords = inner ++ closing :: rest ∧
        (∀ word ∈ inner, endsInQuote word = false) ∧ endsInQuote closing = true ∧
          Quoting (· ≠ []) rest := by
  induction lineWords generalizing quotedArg with
  | nil =>
    cases quotedArg with
    | none => exact Quoting.nil
    | some text => cases client
  | cons word rest ih =>
    cases quotedArg with
    | none =>
      by_cases quote : word.head? = some doubleQuote
      · obtain ⟨text, rfl⟩ := List.head?_eq_some_iff.mp quote
        cases closes : endsInQuote text with
        | true =>
          rw [CommandHandling.checkedScan_quoted closes, Option.isSome_map] at server
          rw [TokenParser.scan_quoted closes, Option.isSome_map] at client
          exact .quoted closes (ih none server client)
        | false =>
          by_cases lone : text = []
          · rw [lone, CommandHandling.checkedScan_lone] at server
            cases server
          · rw [CommandHandling.checkedScan_opened lone closes] at server
            rw [TokenParser.scan_opened closes] at client
            obtain ⟨inner, closing, later, rfl, open', ends, quoting⟩ := ih (some text) server client
            exact .spread lone closes open' ends quoting
      · by_cases nonempty : word = []
        · subst nonempty
          cases server
        · rw [CommandHandling.checkedScan_bare nonempty quote, Option.isSome_map] at server
          rw [TokenParser.scan_bare quote, Option.isSome_map] at client
          exact .bare quote (ih none server client)
    | some text =>
      cases closes : endsInQuote word with
      | true =>
        rw [CommandHandling.checkedScan_closing closes, Option.isSome_map] at server
        rw [TokenParser.scan_closing closes, Option.isSome_map] at client
        exact ⟨[], word, rest, rfl, List.forall_mem_nil _, closes, ih none server client⟩
      | false =>
        by_cases nonempty : word = []
        · subst nonempty
          cases server
        · rw [CommandHandling.checkedScan_open nonempty closes] at server
          rw [TokenParser.scan_open closes] at client
          obtain ⟨inner, closing, later, rfl, open', ends, quoting⟩ := ih _ server client
          exact ⟨word :: inner, closing, later, rfl, List.forall_mem_cons.mpr ⟨closes, open'⟩, ends,
            quoting⟩

end Agreement

/-- **The tokenizers agree on a line exactly when it is well quoted.** -/
theorem tokenizers_agree_iff (line : Bytes) : TokenizersAgree line ↔ WellQuoted line := by
  have nonempty : ∀ word ∈ words isSpace line, word ≠ [] := fun _ => words_ne_nil
  constructor
  · intro agree
    obtain ⟨tokens, server⟩ := Option.isSome_iff_exists.mp agree.defined
    have client := (agree.same tokens).mp server
    exact quoting_of_scans none agree.defined (Option.isSome_iff_exists.mpr ⟨tokens, client⟩)
  · intro quoting
    obtain ⟨tokens, server, client⟩ := scans_of_quoting quoting nonempty
    have server : CommandHandling.checkedParseArgs line = some tokens := server
    have client : TokenParser.parse line = some tokens := client
    refine ⟨by rw [server]; rfl, fun found => by rw [server, client], fun unterminated => ?_⟩
    have rejected : TokenParser.parse line = none := TokenParser.scan_unterminated unterminated
    rw [rejected] at client
    cases client

open Transition in
/-- **Two lines on which they do not agree.** The server asks for the last character of an empty
argument; and it lists the teams of the user, as for `/subscribed` without an argument, where the
client reports an error. -/
theorem tokenizers_disagree :
    ¬ TokenizersAgree (ascii "/users \"") ∧
      ¬ TokenizersAgree (ascii "/subscribed \"red team") ∧
      CommandHandling.checkedParseArgs (ascii "/users \"") = none ∧
      TokenParser.parse (ascii "/subscribed \"red team") = none ∧
      (let server := run (Server.step sampleEnv) {} [.accept 4, .line 4 (ascii "/login \"al\"")]
       Server.newFrames 4 server
           (CommandHandling.handleCommand sampleEnv (ascii "/subscribed \"red team") 4 server)
         = Frame.listing .teams []) := by
  have undefined : CommandHandling.checkedParseArgs (ascii "/users \"") = none := by decide
  have rejected : TokenParser.parse (ascii "/subscribed \"red team") = none := by decide
  refine ⟨fun agree => ?_, fun agree => ?_, undefined, rejected, by decide⟩
  · have defined := agree.defined
    rw [undefined] at defined
    cases defined
  · have read := (agree.same [ascii "/subscribed"]).mp (by decide)
    rw [rejected] at read
    cases read

end MyTeams
