/-
**No frame or field injection.**

The client does not undo the escaping of the server, so what keeps the fields of a frame apart is what
the server can store at all: words with single blanks between them, of which only the last may end in
a quote. Escaping keeps this shape (`Storable.escapeField`), and a text of this shape between quotes is
one token, whatever comes next (`reads_quoted`). There is no other whitespace in it, so a frame is one
line, and the stream of a client falls into the frames that were appended for it.
-/

import MyTeams.Invariants.Provenance

namespace MyTeams

open Transition Words

/-- A text that stays on its line. -/
def OneLine (text : Bytes) : Prop := ∀ byte ∈ text, byte ≠ carriageReturn ∧ byte ≠ newline

instance (text : Bytes) : Decidable (OneLine text) := List.decidableBAll _ text

theorem Clean.oneLine {text : Bytes} (clean : Clean text) : OneLine text := by
  intro byte member
  have solid := clean byte member
  constructor
  · rintro rfl
    cases solid
  · rintro rfl
    cases solid

theorem OneLine.append {first second : Bytes} (early : OneLine first) (late : OneLine second) :
    OneLine (first ++ second) := fun byte member =>
  (List.mem_append.mp member).elim (early byte) (late byte)

theorem oneLine_blank {text : Bytes} (rest : OneLine text) : OneLine (blank :: text) := by
  have mark : OneLine [blank] := by decide
  exact mark.append rest

/-- The only whitespace of a storable text are its blanks. -/
theorem Storable.oneLine {text : Bytes} (storable : Storable text) : OneLine text := by
  cases storable with
  | word clean => exact clean.oneLine
  | @words first last middle cleanFirst _ inner cleanLast =>
    have between : OneLine (middle.flatMap (blank :: ·)) := by
      intro byte member
      obtain ⟨word, inside, part⟩ := List.mem_flatMap.mp member
      exact oneLine_blank (inner word inside).1.oneLine byte part
    exact (cleanFirst.oneLine.append between).append (oneLine_blank cleanLast.oneLine)

theorem oneLine_quoted {text : Bytes} (inside : OneLine text) :
    OneLine (doubleQuote :: text ++ [doubleQuote]) := by
  have quote : OneLine [doubleQuote] := by decide
  exact (quote.append inside).append quote

theorem oneLine_field {field : Field} (storable : field.Carries Storable) : OneLine field.render := by
  cases field with
  | quoted value =>
    have text : Storable value := storable
    exact oneLine_quoted text.escapeField.oneLine
  | plain value => exact oneLine_quoted storable.oneLine
  | number value =>
    intro byte member
    rcases decimal_bytes value byte member with digit | rfl
    · unfold isDigit at digit
      unfold carriageReturn newline
      grind
    · decide

/-- **A frame of storable values is one line.** -/
theorem oneLine_line {frame : Frame} (storable : frame.Carries Storable) : OneLine frame.line := by
  have items : ∀ item ∈ frame.items, OneLine item := by
    intro item member
    rcases List.mem_append.mp member with word | text
    · obtain ⟨keyword, -, rfl⟩ := List.mem_map.mp word
      cases keyword <;> decide
    · obtain ⟨field, inside, rfl⟩ := List.mem_map.mp text
      exact oneLine_field (storable field inside)
  unfold Frame.line
  generalize frame.items = all at items
  induction all with
  | nil => exact fun _ member => absurd member List.not_mem_nil
  | cons item rest ih =>
    have first := items item List.mem_cons_self
    have others := ih fun later member => items later (List.mem_cons_of_mem _ member)
    cases rest with
    | nil =>
      rw [List.intercalate_singleton]
      exact first
    | cons second more =>
      rw [List.intercalate_cons_cons, List.append_assoc]
      exact first.append (oneLine_blank others)

/-- The stream of a client, cut at `'\n'`, is its frames, each with its `'\r'`. -/
theorem lines_render {frames : List Frame} (whole : ∀ frame ∈ frames, OneLine frame.line) :
    lines (· = newline) (frames.flatMap Frame.render)
      = frames.map fun frame => frame.line ++ [carriageReturn] := by
  have cut : frames.flatMap Frame.render
      = (frames.map fun frame => frame.line ++ [carriageReturn]).flatMap (· ++ [newline]) := by
    show (frames.flatMap fun frame => frame.line ++ [carriageReturn, newline]) = _
    simp [List.flatMap_map]
  have clean : ∀ text ∈ frames.map fun frame => frame.line ++ [carriageReturn],
      ∀ byte ∈ text, decide (byte = newline) = false := by
    intro text member byte inside
    obtain ⟨frame, appended, rfl⟩ := List.mem_map.mp member
    rcases List.mem_append.mp inside with within | final
    · exact decide_eq_false (whole frame appended byte within).2
    · rw [List.mem_singleton.mp final]
      decide
  rw [cut, lines_flatMap clean (decide_eq_true rfl)]

/-- With one `'\r'` taken off each line it is its frames. -/
theorem lines_stream {frames : List Frame} (whole : ∀ frame ∈ frames, OneLine frame.line) :
    (lines (· = newline) (frames.flatMap Frame.render)).map Server.stripReturn
      = frames.map Frame.line := by
  rw [lines_render whole, List.map_map]
  refine List.map_congr_left fun frame _ => ?_
  simp [Server.stripReturn]

/-- **No injection.** Whatever bytes the clients send, every message that was appended for a client is
one line and is read as the words and the field texts that the server wrote, one token each, and the
stream of the client is these lines, in order. -/
theorem no_injection (env : Env) (inputs : List Input) (fd : Int) {client : Client}
    (found : (run (Server.handle env) {} inputs).clients.find? fd = some client) :
    (∀ frame ∈ client.appended, OneLine frame.line ∧
      frame.render = frame.line ++ [carriageReturn, newline] ∧
      TokenParser.parse frame.line = some frame.wire) ∧
    (lines (· = newline) (client.appended.flatMap Frame.render)).map Server.stripReturn
      = client.appended.map Frame.line := by
  have storable : ∀ frame ∈ client.appended, frame.Carries Storable := by
    rw [run_trace] at found
    exact ((run_storable (Input.trace env {} inputs)).clients fd client found).appended
  refine ⟨fun frame member => ?_, lines_stream fun frame member => oneLine_line (storable frame member)⟩
  exact ⟨oneLine_line (storable frame member), rfl, parse_line (storable frame member)⟩

/-- A name with quotes, a backslash, several blanks and a carriage return, and then a second line. -/
theorem no_injection_sample :
    let inputs := [Input.accept 4, .accept 5,
      .read 5 (ascii "/login \"a\"b\\  200\r OK\"\r\n/users\n")]
    let frames := (run (Server.handle sampleEnv) {} inputs).appendedTo 4
    let user : User := { uuid := (digitUuid 0).1, name := ascii "a\"b\\ 200 OK", connectedCount := 1 }
    frames = [Frame.eventLoggedIn user] ∧
      (lines (· = newline) (frames.flatMap Frame.render)).map Server.stripReturn
        = [(Frame.eventLoggedIn user).line] ∧
      TokenParser.parse (Frame.eventLoggedIn user).line = some (Frame.eventLoggedIn user).wire := by
  intro inputs frames user
  have appended : frames = [Frame.eventLoggedIn user] := by decide
  obtain ⟨client, found⟩ : ∃ client, (run (Server.handle sampleEnv) {} inputs).clients.find? 4
      = some client := Option.isSome_iff_exists.mp (by decide)
  have sent : client.appended = frames := by
    show _ = (((run (Server.handle sampleEnv) {} inputs).clients.find? 4).map Client.appended).getD []
    rw [found]
    rfl
  obtain ⟨each, stream⟩ := no_injection sampleEnv inputs 4 found
  rw [sent, appended] at each stream
  rw [appended]
  exact ⟨rfl, stream, (each _ List.mem_cons_self).2.2⟩

end MyTeams
