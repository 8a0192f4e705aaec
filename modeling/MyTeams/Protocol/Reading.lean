/-
**What the client reads in a frame.**

`Frame.wire` are the protocol words of a message and the texts between its quotes: the escaped values
of the fields that `quoteProtocolField` wrote. `TokenParser::parse` does not undo the escaping, so it
finds exactly these (`parse_line`), and they are the values of the message if and only if no escaped
value has a quote or a backslash (`wire_eq_values_iff`).
-/

import MyTeams.Protocol.Tokens

namespace MyTeams

open Words

/-! ### Escaped values -/

/-- A value that `quoteProtocolField` writes as it is. -/
def Unescaped (value : Bytes) : Prop := ∀ byte ∈ value, byte ≠ doubleQuote ∧ byte ≠ backslash

instance (value : Bytes) : Decidable (Unescaped value) := List.decidableBAll _ value

@[simp] theorem escapeField_append (first second : Bytes) :
    escapeField (first ++ second) = escapeField first ++ escapeField second :=
  List.flatMap_append

theorem escapeField_cons_of_ne {byte : UInt8} (plain : byte ≠ doubleQuote ∧ byte ≠ backslash)
    (rest : Bytes) : escapeField (byte :: rest) = byte :: escapeField rest := by
  have kept : ¬ (byte = backslash ∨ byte = doubleQuote) := not_or.mpr ⟨plain.2, plain.1⟩
  rw [escapeField, List.flatMap_cons, if_neg kept]
  rfl

theorem length_le_escapeField (value : Bytes) : value.length ≤ (escapeField value).length := by
  induction value with
  | nil => exact le_rfl
  | cons byte rest ih =>
    rw [escapeField, List.flatMap_cons, ← escapeField, List.length_append, List.length_cons]
    split_ifs <;> simp only [List.length_cons, List.length_nil] <;> omega

/-- **A value is written as it is if and only if it has neither a quote nor a backslash.** -/
theorem escapeField_eq_self_iff {value : Bytes} : escapeField value = value ↔ Unescaped value := by
  induction value with
  | nil => exact ⟨fun _ _ member => absurd member List.not_mem_nil, fun _ => rfl⟩
  | cons byte rest ih =>
    by_cases plain : byte ≠ doubleQuote ∧ byte ≠ backslash
    · rw [escapeField_cons_of_ne plain, List.cons_inj_right, ih]
      unfold Unescaped
      simp [plain]
    · constructor
      · intro same
        have escaped : byte = backslash ∨ byte = doubleQuote := by
          by_contra neither
          exact plain ⟨fun quote => neither (Or.inr quote), fun slash => neither (Or.inl slash)⟩
        have longer : (escapeField (byte :: rest)).length = (escapeField rest).length + 2 := by
          rw [escapeField, List.flatMap_cons, if_pos escaped, ← escapeField, List.length_append]
          simp only [List.length_cons, List.length_nil]
          omega
        have bound := length_le_escapeField rest
        rw [same, List.length_cons] at longer
        omega
      · intro unescaped
        exact absurd (unescaped byte List.mem_cons_self) plain

theorem escapeField_clean {text : Bytes} (clean : Clean text) : Clean (escapeField text) := by
  intro byte member
  obtain ⟨source, inside, written⟩ := List.mem_flatMap.mp member
  split_ifs at written
  · rcases List.mem_cons.mp written with rfl | last
    · decide
    · rw [List.mem_singleton.mp last]
      exact clean source inside
  · rw [List.mem_singleton.mp written]
    exact clean source inside

theorem endsInQuote_escapeField (text : Bytes) :
    endsInQuote (escapeField text) = endsInQuote text := by
  induction text using List.reverseRecOn with
  | nil => rfl
  | append_singleton front last _ =>
    have written : ∃ before, escapeField [last] = before ++ [last] := by
      rw [escapeField, List.flatMap_cons, List.flatMap_nil, List.append_nil]
      split_ifs
      · exact ⟨[backslash], rfl⟩
      · exact ⟨[], rfl⟩
    obtain ⟨before, written⟩ := written
    rw [escapeField_append, written, ← List.append_assoc, endsInQuote_concat, endsInQuote_concat]

theorem escapeField_inner {word : Bytes} (inner : Inner word) : Inner (escapeField word) := by
  obtain ⟨clean, nonempty, opened⟩ := inner
  refine ⟨escapeField_clean clean, fun empty => nonempty ?_, ?_⟩
  · have bound := length_le_escapeField word
    rw [empty] at bound
    exact List.length_eq_zero_iff.mp (Nat.le_zero.mp bound)
  · rw [endsInQuote_escapeField, opened]

theorem escapeField_middle (middle : List Bytes) :
    escapeField (middle.flatMap (blank :: ·)) = (middle.map escapeField).flatMap (blank :: ·) := by
  induction middle with
  | nil => rfl
  | cons word rest ih =>
    have blankKept : blank ≠ doubleQuote ∧ blank ≠ backslash := by decide
    rw [List.flatMap_cons, escapeField_append, ih, escapeField_cons_of_ne blankKept]
    rfl

/-- An escaped storable value is storable. -/
theorem Storable.escapeField {value : Bytes} (storable : Storable value) :
    Storable (escapeField value) := by
  cases storable with
  | word clean => exact .word (escapeField_clean clean)
  | @words first last middle cleanFirst openFirst inner cleanLast =>
    have blankKept : blank ≠ doubleQuote ∧ blank ≠ backslash := by decide
    rw [escapeField_append, escapeField_append, escapeField_middle, escapeField_cons_of_ne blankKept]
    refine .words (escapeField_clean cleanFirst) ?_ ?_ (escapeField_clean cleanLast)
    · rw [endsInQuote_escapeField, openFirst]
    · intro word member
      obtain ⟨source, inside, rfl⟩ := List.mem_map.mp member
      exact escapeField_inner (inner source inside)

/-! ### Frames -/

/-- What stands between the quotes of a field. -/
def Field.wire : Field → Bytes
  | .quoted value => escapeField value
  | .plain value => value
  | .number value => decimal value

/-- The words of a message and the texts of its fields. -/
def Frame.wire (frame : Frame) : List Bytes :=
  frame.keywords.map Keyword.text ++ frame.fields.map Field.wire

/-- No field of a message is changed by its escaping. -/
def Frame.Unescaped (frame : Frame) : Prop :=
  ∀ value, Field.quoted value ∈ frame.fields → MyTeams.Unescaped value

theorem wire_eq_values_iff {frame : Frame} : frame.wire = frame.values ↔ frame.Unescaped := by
  unfold Frame.wire Frame.values
  rw [List.append_right_inj, List.map_inj_left]
  constructor
  · intro same value member
    exact escapeField_eq_self_iff.mp (same _ member)
  · rintro unescaped (value | value | value) member
    · exact escapeField_eq_self_iff.mpr (unescaped value member)
    · rfl
    · rfl

/-- The text of a field satisfies `P`. -/
def Field.Carries (P : Bytes → Prop) : Field → Prop
  | .quoted value => P value
  | .plain value => P value
  | .number _ => True

/-- The texts of a message satisfy `P`. -/
def Frame.Carries (P : Bytes → Prop) (frame : Frame) : Prop := ∀ field ∈ frame.fields, field.Carries P

theorem reads_keyword (keyword : Keyword) : Reads keyword.text keyword.text := by
  have each : Clean keyword.text ∧ keyword.text ≠ [] ∧ keyword.text.head? ≠ some doubleQuote := by
    cases keyword <;> decide
  exact reads_word each.1 each.2.1 each.2.2

theorem reads_decimal (value : Int) : Reads (decimal value) (decimal value) := by
  refine reads_word (fun byte member => ?_) (decimal_ne_nil value) fun quote => ?_
  · rcases decimal_bytes value byte member with digit | rfl
    · unfold isDigit at digit
      unfold isSpace
      grind
    · decide
  · have member : doubleQuote ∈ decimal value := List.mem_of_head? quote
    rcases decimal_bytes value _ member with digit | minus
    · exact absurd digit (by decide)
    · exact absurd minus (by decide)

/-- A field with a storable value is read as one token. -/
theorem reads_field {field : Field} (storable : field.Carries Storable) :
    Reads field.render field.wire := by
  cases field with
  | quoted value =>
    have text : Storable value := storable
    exact reads_quoted text.escapeField
  | plain value => exact reads_quoted storable
  | number value => exact reads_decimal value

/-- Items that are read as one token each, separated by blanks, are read one after the other. -/
theorem parse_intercalate {items : List (Bytes × Bytes)} (reads : ∀ item ∈ items, Reads item.1 item.2) :
    TokenParser.parse (List.intercalate [blank] (items.map Prod.fst)) = some (items.map Prod.snd) := by
  have cut : isSpace blank = true := by decide
  unfold TokenParser.parse
  induction items with
  | nil => rfl
  | cons item rest ih =>
    have first := reads item List.mem_cons_self
    have later := ih fun other member => reads other (List.mem_cons_of_mem _ member)
    cases rest with
    | nil =>
      have alone := first []
      rw [List.append_nil] at alone
      rw [List.map_singleton, List.intercalate_singleton, alone]
      rfl
    | cons second others =>
      rw [List.map_cons, List.map_cons, List.intercalate_cons_cons, ← List.map_cons,
        List.append_assoc, List.singleton_append, words_append_separator _ _ cut, first, later]
      rfl

/-- **The client reads the words of a message and the texts of its fields.** -/
theorem parse_line {frame : Frame} (storable : frame.Carries Storable) :
    TokenParser.parse frame.line = some frame.wire := by
  let items : List (Bytes × Bytes) :=
    frame.keywords.map (fun keyword => (keyword.text, keyword.text)) ++
      frame.fields.map (fun field => (field.render, field.wire))
  have reads : ∀ item ∈ items, Reads item.1 item.2 := by
    intro item member
    rcases List.mem_append.mp member with word | text
    · obtain ⟨keyword, -, rfl⟩ := List.mem_map.mp word
      exact reads_keyword keyword
    · obtain ⟨field, inside, rfl⟩ := List.mem_map.mp text
      exact reads_field (storable field inside)
  have parsed := parse_intercalate reads
  have texts : items.map Prod.fst = frame.items := by
    simp [items, Frame.items, Function.comp_def]
  have tokens : items.map Prod.snd = frame.wire := by
    simp [items, Frame.wire, Function.comp_def]
  rwa [texts, tokens] at parsed

end MyTeams
