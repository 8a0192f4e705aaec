/-
**What the user quotes is what the server gets.**

Three scanners read a command line: `hasUnquotedArgs` character by character, `TokenParser::parse` and
`parseArgs` word by word. The two word scanners agree (`parseArgs_of_client`); they put a quoted text
together from its words with one blank between two words, and they look for a closing quote only at
the end of a word. So the arguments of the server are the texts between the quotes if and only if
these have no whitespace but single blanks and no two of them touch (`argument_fidelity_iff`).
-/

import MyTeams.ClientApp.Segments
import MyTeams.Invariants.Identities

namespace MyTeams

open Words CommandLineDispatcher

/-- Quoted texts that the word scanners read: apart from each other, with single blanks inside. -/
def WellSpaced (argsView : Bytes) : Prop :=
  ∀ part ∈ parts [] none argsView, part.1 ≠ [] ∧ SingleBlanks part.2

instance (argsView : Bytes) : Decidable (WellSpaced argsView) := List.decidableBAll _ _

/-! ### Texts that are apart -/

section Layout

variable {ps : List (Bytes × Bytes)} {trailing : Bytes}

theorem separated_layout (blankTail : ∀ byte ∈ trailing, isSpace byte = true)
    (each : ∀ part ∈ ps, Part part) (apart : ∀ part ∈ ps, part.1 ≠ []) :
    Separated isSpace (layout ps trailing) := by
  cases ps with
  | nil =>
    cases trailing with
    | nil => exact Or.inl rfl
    | cons byte rest => exact Or.inr ⟨byte, rest, blankTail byte List.mem_cons_self, rfl⟩
  | cons part rest =>
    obtain ⟨gap, text⟩ := part
    cases gap with
    | nil => exact absurd rfl (apart _ List.mem_cons_self)
    | cons byte later =>
      have space := (each _ List.mem_cons_self).gap byte List.mem_cons_self
      exact Or.inr ⟨byte, _, space, rfl⟩

/-- A part comes off the front when the next one is apart from it. -/
theorem parse_part {gap text rest : Bytes} (part : Part (gap, text)) (storable : Storable text)
    (separated : Separated isSpace rest) :
    TokenParser.parse (gap ++ (doubleQuote :: text ++ doubleQuote :: rest))
      = (TokenParser.parse rest).map (text :: ·) := by
  have item : doubleQuote :: text ++ doubleQuote :: rest
      = (doubleQuote :: text ++ [doubleQuote]) ++ rest := by simp
  unfold TokenParser.parse
  rw [words_separators_append part.gap, item, words_append_separated _ separated,
    reads_quoted storable]

/-- **Texts that are apart are read one by one.** -/
theorem parse_layout (blankTail : ∀ byte ∈ trailing, isSpace byte = true)
    (each : ∀ part ∈ ps, Part part) (storable : ∀ part ∈ ps, Storable part.2)
    (apart : ∀ part ∈ ps.tail, part.1 ≠ []) :
    TokenParser.parse (layout ps trailing) = some (ps.map Prod.snd) := by
  induction ps with
  | nil =>
    have nothing := words_separators_append (p := isSpace) blankTail []
    rw [List.append_nil, words_nil] at nothing
    rw [layout, TokenParser.parse, nothing]
    rfl
  | cons part rest ih =>
    have eachRest : ∀ part ∈ rest, Part part := fun other member =>
      each other (List.mem_cons_of_mem _ member)
    have later := ih eachRest (fun other member => storable other (List.mem_cons_of_mem _ member))
      fun other member => apart other (List.mem_of_mem_tail member)
    rw [layout, parse_part (each part List.mem_cons_self) (storable part List.mem_cons_self)
      (separated_layout blankTail eachRest apart), later]
    rfl

end Layout

/-! ### Texts that touch -/

/-- A closing quote inside a word is part of the token. -/
theorem touching_token {text more token : Bytes} {tokens : List Bytes} (storable : Storable text)
    (read : TokenParser.parse (doubleQuote :: text ++ doubleQuote :: doubleQuote :: more)
      = some (token :: tokens)) : token ≠ text := by
  -- a token that ends with the word of the two quotes, or goes on behind it
  have longer : ∀ (quoted : Bytes) (rest : List Bytes) (ends : Bool),
      (if ends = true then (TokenParser.scan none rest).map (quoted.dropLast :: ·)
        else TokenParser.scan (some quoted) rest) = some (token :: tokens) →
      text.length + 2 ≤ quoted.length → token ≠ text := by
    rintro quoted rest ends scanned long rfl
    cases ends with
    | true =>
      obtain ⟨_, -, same⟩ := Option.map_eq_some_iff.mp scanned
      have width := congrArg List.length (List.cons.inj same).1
      rw [List.length_dropLast] at width
      omega
    | false =>
      obtain ⟨behind, _, same⟩ := TokenParser.scan_pending scanned
      have width := congrArg List.length (List.cons.inj same).1
      rw [List.length_append] at width
      omega
  have quotes : Clean [doubleQuote, doubleQuote] := by decide
  unfold TokenParser.parse at read
  cases storable with
  | word clean =>
    have cleanStart : Clean (doubleQuote :: text ++ [doubleQuote, doubleQuote]) := by
      intro byte member
      rcases List.mem_append.mp member with inside | inside
      · exact clean.cons_quote byte inside
      · exact quotes byte inside
    obtain ⟨front, rest, rfl, -, -, cut⟩ := words_clean_append cleanStart (by simp) more
    have shape : doubleQuote :: text ++ doubleQuote :: doubleQuote :: (front ++ rest)
        = (doubleQuote :: text ++ [doubleQuote, doubleQuote]) ++ (front ++ rest) := by simp
    rw [shape, cut, List.cons_append, List.cons_append, TokenParser.scan, List.head?_cons, if_pos rfl,
      List.tail_cons] at read
    exact longer _ _ _ read (by simp)
  | @words first last middle cleanFirst openFirst inner cleanLast =>
    have cleanStart : Clean (last ++ [doubleQuote, doubleQuote]) := by
      intro byte member
      rcases List.mem_append.mp member with inside | inside
      · exact cleanLast byte inside
      · exact quotes byte inside
    obtain ⟨front, rest, rfl, -, -, cut⟩ := words_clean_append cleanStart (by simp) more
    have shape : doubleQuote :: (first ++ middle.flatMap (blank :: ·) ++ blank :: last)
          ++ doubleQuote :: doubleQuote :: (front ++ rest)
        = doubleQuote :: (first ++ middle.flatMap (blank :: ·)
          ++ blank :: ((last ++ [doubleQuote, doubleQuote]) ++ (front ++ rest))) := by simp
    rw [shape, words_opened cleanFirst inner, cut, TokenParser.scan, List.head?_cons, if_pos rfl,
      List.tail_cons, openFirst, Bool.and_false, if_neg Bool.false_ne_true,
      TokenParser.scan_inner fun word member => (inner word member).2.2, TokenParser.scan] at read
    refine longer _ _ _ read ?_
    simp only [List.length_append, List.length_cons, List.length_nil]
    omega

/-- **Texts that are read one by one are apart.** -/
theorem layout_apart {ps : List (Bytes × Bytes)} {trailing : Bytes} (each : ∀ part ∈ ps, Part part)
    (storable : ∀ part ∈ ps, Storable part.2)
    (read : TokenParser.parse (layout ps trailing) = some (ps.map Prod.snd)) :
    ∀ part ∈ ps.tail, part.1 ≠ [] := by
  induction ps with
  | nil => exact List.forall_mem_nil _
  | cons part rest ih =>
    obtain ⟨gap, text⟩ := part
    have eachRest : ∀ part ∈ rest, Part part := fun other member =>
      each other (List.mem_cons_of_mem _ member)
    have storableRest : ∀ part ∈ rest, Storable part.2 := fun other member =>
      storable other (List.mem_cons_of_mem _ member)
    have storableText : Storable text := storable _ List.mem_cons_self
    have step : ∀ more, Separated isSpace more → layout rest trailing = more →
        TokenParser.parse more = some (rest.map Prod.snd) := by
      rintro more separated rfl
      rw [layout, parse_part (each _ List.mem_cons_self) storableText separated] at read
      obtain ⟨tokens, later, same⟩ := Option.map_eq_some_iff.mp read
      rw [later, (List.cons.inj same).2]
    cases rest with
    | nil => exact List.forall_mem_nil _
    | cons second others =>
      obtain ⟨gap', text'⟩ := second
      cases gap' with
      | nil =>
        -- the two quotes stand in one word
        have touching : layout ((gap, text) :: ([], text') :: others) trailing
            = gap ++ (doubleQuote :: text ++ doubleQuote :: doubleQuote ::
              (text' ++ doubleQuote :: layout others trailing)) := by
          simp [layout]
        rw [touching] at read
        unfold TokenParser.parse at read
        rw [words_separators_append (each _ List.mem_cons_self).gap] at read
        exact absurd rfl (touching_token storableText read)
      | cons byte later =>
        have space : isSpace byte = true := (eachRest _ List.mem_cons_self).gap byte List.mem_cons_self
        have readRest := step _ (Or.inr ⟨byte, _, space, rfl⟩) rfl
        have apart := ih eachRest storableRest readRest
        exact List.forall_mem_cons.mpr ⟨List.cons_ne_nil _ _, apart⟩

/-! ### The arguments on the server -/

/-- A line of several words sets the arguments of the client, whatever its command does. -/
theorem handleCommand_args (env : Env) {rawCommand : Bytes} {fd : Int} {server : Server}
    {client : Client} (found : server.clients.find? fd = some client)
    (some_ : CommandHandling.parseArgs rawCommand ≠ []) :
    ((CommandHandling.handleCommand env rawCommand fd server).clients.find? fd).map Client.args
      = some (CommandHandling.parseArgs rawCommand) := by
  rcases handleCommand_serves env rawCommand found with
    ⟨empty, -⟩ | ⟨name, rest, parsed, ⟨-, stored⟩ | ⟨verb, -, outcome, -, committed⟩⟩
  · exact absurd empty some_
  · rw [stored, find?_setArgs found, parsed]
    rfl
  · rw [committed, outcome.find?_commit_self (find?_setArgs found _), parsed]
    rfl

/-- A frame of the client is one line for the server. -/
theorem lineEvents_wireFrame (fd : Int) {frame : Bytes} (oneLine : newline ∉ frame)
    (nonempty : frame ≠ []) : lineEvents fd (ClientApplication.wireFrame frame) = [.line fd frame] := by
  have clean : ∀ byte ∈ frame ++ [carriageReturn], decide (byte = newline) = false := by
    intro byte member
    refine decide_eq_false fun same => ?_
    rcases List.mem_append.mp member with inside | last
    · exact oneLine (same ▸ inside)
    · rw [List.mem_singleton.mp last] at same
      exact absurd same (by decide)
  have wire : ClientApplication.wireFrame frame = (frame ++ [carriageReturn]) ++ [newline] := by
    simp [ClientApplication.wireFrame]
  have stripped : Server.stripReturn (frame ++ [carriageReturn]) = frame := by
    simp [Server.stripReturn]
  unfold lineEvents
  rw [wire, lines_of_clean clean (by simp), List.map_singleton, stripped]
  simp [nonempty]

/-- The first quoted text stands apart from the command word. -/
theorem first_gap {argsView gap text : Bytes} (separated : Separated isSpace argsView)
    (starts : argsView = gap ++ (doubleQuote :: text)) : gap ≠ [] := by
  rintro rfl
  rw [List.nil_append] at starts
  rcases separated with none | ⟨byte, rest, space, shape⟩
  · rw [none] at starts
    cases starts
  · rw [shape] at starts
    rw [(List.cons.inj starts).1] at space
    exact absurd space (by decide)

/-- **The arguments of the server are the quoted texts if and only if these are well spaced.** -/
theorem argument_fidelity_iff (env : Env) {server : Server} {fd : Int} {client : Client}
    (found : server.clients.find? fd = some client) {line command frame : Bytes}
    (sent : ClientApplication.dispatchCommandLine line = .sent command frame) :
    ((CommandHandling.handleCommand env frame fd server).clients.find? fd).map Client.args
        = some (command :: quotedTexts (frame.drop command.length)) ↔
      WellSpaced (frame.drop command.length) := by
  obtain ⟨argsView, rfl, sends⟩ := dispatch_sends sent
  have separated := sends.separated
  obtain ⟨quoted, tokens, -, read, -⟩ := validateArgs_none sends.valid
  obtain ⟨trailing, blankTail, each, shape⟩ := layout_parts quoted
  have args := sends.parseArgs read
  rw [handleCommand_args env found (by rw [args]; exact List.cons_ne_nil _ _), args, List.drop_left,
    Option.some_inj, List.cons_inj_right]
  unfold quotedTexts WellSpaced
  constructor
  · rintro rfl
    have storable : ∀ part ∈ parts [] none argsView, Storable part.2 := by
      intro part member
      refine CommandHandling.parseArgs_storable argsView part.2 ?_
      rw [CommandHandling.parseArgs_of_client read]
      exact List.mem_map_of_mem member
    have readLayout : TokenParser.parse (layout (parts [] none argsView) trailing)
        = some ((parts [] none argsView).map Prod.snd) := by
      rw [← shape]
      exact read
    have apart := layout_apart each storable readLayout
    intro part member
    refine ⟨?_, (storable part member).singleBlanks⟩
    cases list : parts [] none argsView with
    | nil =>
      rw [list] at member
      cases member
    | cons first rest =>
      rw [list] at member apart
      rcases List.mem_cons.mp member with rfl | later
      · exact first_gap separated (by rw [shape, list]; rfl)
      · exact apart part later
  · intro spaced
    have storable : ∀ part ∈ parts [] none argsView, Storable part.2 := fun part member =>
      (spaced part member).2.storable (each part member).text
    have whole := parse_layout blankTail each storable
      fun part member => (spaced part (List.mem_of_mem_tail member)).1
    rw [← shape, read] at whole
    exact Option.some.inj whole

/-- A server with one client. -/
def oneClient : Server := Server.acceptClient 4 {}

theorem argument_fidelity_sample :
    ((CommandHandling.handleCommand sampleEnv (ascii "/login \"ann lee\"") 4 oneClient).clients.find?
        4).map Client.args = some [ascii "/login", ascii "ann lee"] ↔
      WellSpaced (ascii " \"ann lee\"") :=
  argument_fidelity_iff sampleEnv (rfl : oneClient.clients.find? 4 = some { fd := 4 })
    (by decide : ClientApplication.dispatchCommandLine (ascii "/login \"ann lee\"")
      = .sent (ascii "/login") (ascii "/login \"ann lee\""))

/-- Two blanks become one. -/
theorem not_argument_fidelity : ¬ ∀ (env : Env) (server : Server) (fd : Int) (client : Client),
    server.clients.find? fd = some client → ∀ line command frame : Bytes,
      ClientApplication.dispatchCommandLine line = .sent command frame →
      ((CommandHandling.handleCommand env frame fd server).clients.find? fd).map Client.args
        = some (command :: quotedTexts (frame.drop command.length)) := by
  intro each
  have args := each sampleEnv oneClient 4 { fd := 4 } rfl (ascii "/login \"ann  lee\"") (ascii "/login")
    (ascii "/login \"ann  lee\"") (by decide)
  exact absurd args (by decide)

end MyTeams
