/-
**The parser reads every layout of a JSON value.**

`Json` is a JSON value as it is written: the members of an object are in text order. `Token json
text` says that `text` is a rendering of `json` without surrounding whitespace; whitespace may
stand between any two tokens inside it. `Json.val` is the value that the parser builds, with object
members stored in a map.

`parseValue_token`: from a position where whitespace, a rendering and a character that does not
continue a number follow, `parseValue` returns the value and stops right behind the rendering. The
proof is one mutual induction on the rendering; the loops of the parser meet the element and member
lists of the grammar (`Elements`, `Members`).

The fuel is counted in characters: twice the length of the rendering suffices.
-/

import MyTeams.Storage.JsonSerializer

namespace MyTeams

/-- A JSON value as it is written. -/
inductive Json
  | null
  | bool (value : Bool)
  | int (value : Int)
  | str (value : Bytes)
  | arr (elements : List Json)
  | obj (members : List (Bytes × Json))

namespace Json

variable (fp : FloatingPoint)

mutual

/-- The value that the parser builds. -/
def val : Json → JsonVal fp.Double
  | null => .null
  | bool value => .bool value
  | int value => .num (fp.ofInt value)
  | str value => .str value
  | arr elements => .arr (vals elements)
  | obj members => .obj (store [] members)

def vals : List Json → List (JsonVal fp.Double)
  | [] => []
  | element :: rest => val element :: vals rest

/-- Members stored into a map one after the other. -/
def store (built : List (Bytes × JsonVal fp.Double)) :
    List (Bytes × Json) → List (Bytes × JsonVal fp.Double)
  | [] => built
  | (key, member) :: rest => store (SortedMap.insertEntry key (val member) built) rest

end

theorem vals_eq_map (elements : List Json) : vals fp elements = elements.map (val fp) := by
  induction elements with
  | nil => rw [vals, List.map_nil]
  | cons element rest ih => rw [vals, ih, List.map_cons]

end Json

/-- Whitespace between tokens. -/
def Blank (gap : Bytes) : Prop := ∀ byte ∈ gap, isSpace byte = true

mutual

/-- The renderings of a value, without surrounding whitespace. -/
inductive Token : Json → Bytes → Prop
  | null : Token .null (ascii "null")
  | true : Token (.bool true) (ascii "true")
  | false : Token (.bool false) (ascii "false")
  | int (value : Int) : Token (.int value) (decimal value)
  | str (value : Bytes) : Token (.str value) (escapeJson value)
  | arr {elements : List Json} {gap text : Bytes} :
      Blank gap → Elements elements text → Token (.arr elements) (91 :: gap ++ text)
  | obj {members : List (Bytes × Json)} {gap text : Bytes} :
      Blank gap → Members members text → Token (.obj members) (123 :: gap ++ text)

/-- The text of an array behind its bracket, from the first element on. -/
inductive Elements : List Json → Bytes → Prop
  | close : Elements [] [93]
  | last {element : Json} {text gap : Bytes} :
      Token element text → Blank gap → Elements [element] (text ++ gap ++ [93])
  | more {element second : Json} {rest : List Json} {text gap gap' later : Bytes} :
      Token element text → Blank gap → Blank gap' → Elements (second :: rest) later →
      Elements (element :: second :: rest) (text ++ gap ++ 44 :: gap' ++ later)

/-- The text of an object behind its brace, from the first key on. -/
inductive Members : List (Bytes × Json) → Bytes → Prop
  | close : Members [] [125]
  | last {key : Bytes} {member : Json} {text gap gap' gap'' : Bytes} :
      Blank gap → Blank gap' → Token member text → Blank gap'' →
      Members [(key, member)] (escapeJson key ++ gap ++ 58 :: gap' ++ text ++ gap'' ++ [125])
  | more {key : Bytes} {member : Json} {second : Bytes × Json} {rest : List (Bytes × Json)}
      {text gap gap' gap'' gap''' later : Bytes} :
      Blank gap → Blank gap' → Token member text → Blank gap'' → Blank gap''' →
      Members (second :: rest) later →
      Members ((key, member) :: second :: rest)
        (escapeJson key ++ gap ++ 58 :: gap' ++ text ++ gap'' ++ 44 :: gap''' ++ later)

end

namespace JsonParser

variable {src : Bytes}

/-! ### Positions -/

theorem charAt_of_drop {pos : Nat} {character : UInt8} {rest : Bytes}
    (here : src.drop pos = character :: rest) : pos < src.length ∧ charAt src pos = character := by
  have inside : pos < src.length := by
    by_contra outside
    rw [List.drop_eq_nil_of_le (not_lt.mp outside)] at here
    cases here
  refine ⟨inside, ?_⟩
  rw [List.drop_eq_getElem_cons inside] at here
  rw [charAt, List.getD_eq_getElem?_getD, List.getElem?_eq_getElem inside]
  exact (List.cons.inj here).1

theorem drop_add {pos : Nat} {front rest : Bytes} (here : src.drop pos = front ++ rest) :
    src.drop (pos + front.length) = rest := by
  rw [← List.drop_drop, here, List.drop_left]

/-- Whitespace is skipped up to the token behind it. -/
theorem skipWs_of_drop {pos : Nat} {gap rest : Bytes} {character : UInt8} (blank : Blank gap)
    (solid : isSpace character = false) (here : src.drop pos = gap ++ character :: rest) :
    skipWs src pos = pos + gap.length := by
  have found : ¬ (gap ++ character :: rest).all isSpace = true := by
    simp [solid]
  have stops : (character :: rest).takeWhile isSpace = [] := by
    rw [List.takeWhile_cons, solid]
    rfl
  rw [skipWs, here, if_neg found, List.takeWhile_append_of_pos blank, stops, List.append_nil]

/-! ### Strings and numbers -/

theorem strLoop_quote (rest : Bytes) : strLoop (doubleQuote :: rest) = ([], 0) := by
  cases rest <;> simp [strLoop]

theorem strLoop_escape (character : UInt8) (rest : Bytes) :
    strLoop (backslash :: character :: rest)
      = (character :: (strLoop rest).1, (strLoop rest).2 + 2) := by
  have distinct : ¬ backslash = doubleQuote := by decide
  simp [strLoop, distinct]

theorem strLoop_plain {character : UInt8} (notQuote : ¬ character = doubleQuote)
    (notBackslash : ¬ character = backslash) (rest : Bytes) :
    strLoop (character :: rest) = (character :: (strLoop rest).1, (strLoop rest).2 + 1) := by
  cases rest <;> simp [strLoop, notQuote, notBackslash]

/-- The string loop undoes the escaping and stops at the closing quote. -/
theorem strLoop_escapeChars (str rest : Bytes) :
    strLoop (escapeChars str ++ doubleQuote :: rest) = (str, (escapeChars str).length) := by
  induction str with
  | nil => exact strLoop_quote rest
  | cons character later ih =>
    rw [escapeChars, List.flatMap_cons]
    show strLoop ((if character = doubleQuote then [backslash, doubleQuote]
        else if character = backslash then [backslash, backslash] else [character])
        ++ escapeChars later ++ doubleQuote :: rest) = (character :: later,
      ((if character = doubleQuote then [backslash, doubleQuote]
        else if character = backslash then [backslash, backslash] else [character])
        ++ escapeChars later).length)
    split_ifs with isQuote isBackslash
    · simp [strLoop_escape, ih, isQuote]
    · simp [strLoop_escape, ih, isBackslash]
    · simp [strLoop_plain isQuote isBackslash, ih]

theorem parseStr_escaped {pos : Nat} {str rest : Bytes}
    (here : src.drop pos = escapeJson str ++ rest) :
    parseStr src pos = (str, pos + (escapeJson str).length) := by
  have tail : src.drop (pos + 1) = escapeChars str ++ doubleQuote :: rest := by
    rw [← List.drop_drop, here, escapeJson]
    simp
  rw [parseStr, tail, strLoop_escapeChars, escapeJson]
  simp only [List.cons_append, List.length_cons, List.length_append, List.length_nil]
  congr 1
  omega

/-- An integer starts with a digit or a minus sign. -/
theorem decimal_head (value : Int) :
    ∃ character rest, decimal value = character :: rest ∧
      (isDigit character = true ∨ character = 45) := by
  cases text : decimal value with
  | nil => exact absurd text (decimal_ne_nil value)
  | cons character rest =>
    exact ⟨character, rest, rfl, decimal_bytes value character (by rw [text]; exact List.mem_cons_self)⟩

/-! ### One mutual induction -/

/-- No whitespace character continues a number. -/
theorem continuesNumber_of_isSpace {byte : UInt8} (space : isSpace byte = true) :
    continuesNumber byte = false := by
  simp only [isSpace, continuesNumber, isDigit, Bool.or_eq_true, Bool.and_eq_true,
    decide_eq_true_eq, Bool.or_eq_false_iff, Bool.and_eq_false_iff, decide_eq_false_iff_not,
    UInt8.le_iff_toNat_le, ← UInt8.toNat_inj] at space ⊢
  simp only [UInt8.reduceToNat] at space ⊢
  omega

/-- Whitespace and a closing character end a number. -/
theorem stops_of_blank {gap : Bytes} (blank : Blank gap) {character : UInt8}
    (stops : continuesNumber character = false) (rest : Bytes) :
    ∀ byte, (gap ++ character :: rest).head? = some byte → continuesNumber byte = false := by
  intro byte head
  cases gap with
  | nil =>
    cases head
    exact stops
  | cons first later =>
    cases head
    exact continuesNumber_of_isSpace (blank _ List.mem_cons_self)

/-- A rendering starts with a character that is neither blank nor a closing bracket. -/
theorem token_head {json : Json} {text : Bytes} (token : Token json text) :
    ∃ character rest, text = character :: rest ∧ isSpace character = false ∧ character ≠ 93 := by
  cases token with
  | null => exact ⟨110, ascii "ull", by decide, by decide, by decide⟩
  | true => exact ⟨116, ascii "rue", by decide, by decide, by decide⟩
  | false => exact ⟨102, ascii "alse", by decide, by decide, by decide⟩
  | int value =>
    obtain ⟨character, rest, shape, digit⟩ := decimal_head value
    have solid : isSpace character = false ∧ character ≠ 93 := by
      rcases digit with digit | rfl
      · simp only [isSpace, isDigit, Bool.and_eq_true, decide_eq_true_eq, Bool.or_eq_false_iff,
          Bool.and_eq_false_iff, decide_eq_false_iff_not, UInt8.le_iff_toNat_le, ne_eq,
          ← UInt8.toNat_inj] at digit ⊢
        simp only [UInt8.reduceToNat] at digit ⊢
        omega
      · decide
    exact ⟨character, rest, shape, solid⟩
  | str value => exact ⟨doubleQuote, _, rfl, by decide, by decide⟩
  | arr => exact ⟨91, _, rfl, by decide, by decide⟩
  | obj => exact ⟨123, _, rfl, by decide, by decide⟩

theorem skipWs_of_elements {elements : List Json} {text : Bytes} (list : Elements elements text)
    {pos : Nat} {gap rest : Bytes} (blank : Blank gap) (here : src.drop pos = gap ++ (text ++ rest)) :
    skipWs src pos = pos + gap.length := by
  have head : ∃ character later, text = character :: later ∧ isSpace character = false := by
    cases list with
    | close => exact ⟨93, [], rfl, by decide⟩
    | last token _ =>
      obtain ⟨character, later, shape, solid, -⟩ := token_head token
      exact ⟨character, _, by rw [shape]; rfl, solid⟩
    | more token _ _ _ =>
      obtain ⟨character, later, shape, solid, -⟩ := token_head token
      exact ⟨character, _, by rw [shape]; rfl, solid⟩
  obtain ⟨character, later, rfl, solid⟩ := head
  exact skipWs_of_drop blank solid here

theorem skipWs_of_members {members : List (Bytes × Json)} {text : Bytes}
    (list : Members members text) {pos : Nat} {gap rest : Bytes} (blank : Blank gap)
    (here : src.drop pos = gap ++ (text ++ rest)) : skipWs src pos = pos + gap.length := by
  have head : ∃ character later, text = character :: later ∧ isSpace character = false := by
    cases list with
    | close => exact ⟨125, [], rfl, by decide⟩
    | last => exact ⟨doubleQuote, _, rfl, by decide⟩
    | more => exact ⟨doubleQuote, _, rfl, by decide⟩
  obtain ⟨character, later, rfl, solid⟩ := head
  exact skipWs_of_drop blank solid here

variable (fp : FloatingPoint)

/-- What the mutual induction proves of a rendering. -/
def TokenRead (src : Bytes) (json : Json) (text : Bytes) : Prop :=
  ∀ (fuel pos : Nat) (gap rest : Bytes), Blank gap →
    (∀ byte, rest.head? = some byte → continuesNumber byte = false) →
    src.drop pos = gap ++ (text ++ rest) → 2 * text.length ≤ fuel →
    parseValue fp src fuel pos = some (json.val fp, pos + gap.length + text.length)

/-- What it proves of the text of an array behind its bracket. -/
def ElementsRead (src : Bytes) (elements : List Json) (text : Bytes) : Prop :=
  ∀ (fuel pos : Nat) (gap rest : Bytes) (arrVal : List (JsonVal fp.Double)), Blank gap →
    (elements = [] → gap = []) → src.drop pos = gap ++ (text ++ rest) → 2 * text.length ≤ fuel →
    arrayLoop fp src fuel pos arrVal
      = some (.arr (arrVal ++ Json.vals fp elements), pos + gap.length + text.length)

/-- What it proves of the text of an object behind its brace. -/
def MembersRead (src : Bytes) (members : List (Bytes × Json)) (text : Bytes) : Prop :=
  ∀ (fuel pos : Nat) (rest : Bytes) (objVal : List (Bytes × JsonVal fp.Double)),
    src.drop pos = text ++ rest → 2 * text.length ≤ fuel →
    objectLoop fp src fuel pos objVal
      = some (.obj (Json.store fp objVal members), pos + text.length)

/-- At a token, `parseValue` looks at its first character. -/
theorem parseValue_at (fuel : Nat) {pos : Nat} {gap rest : Bytes} {character : UInt8} (blank : Blank gap)
    (solid : isSpace character = false) (here : src.drop pos = gap ++ character :: rest) :
    src.drop (pos + gap.length) = character :: rest ∧
    parseValue fp src (fuel + 1) pos =
      if character = doubleQuote then
        some (.str (parseStr src (pos + gap.length)).1, (parseStr src (pos + gap.length)).2)
      else if character = 91 then arrayLoop fp src fuel (skipWs src (pos + gap.length + 1)) []
      else if character = 123 then objectLoop fp src fuel (skipWs src (pos + gap.length + 1)) []
      else if character = 116 then some (.bool true, pos + gap.length + 4)
      else if character = 102 then some (.bool false, pos + gap.length + 5)
      else if character = 110 then some (.null, pos + gap.length + 4)
      else some (parseNum fp src (pos + gap.length)) := by
  have there := drop_add here
  obtain ⟨inside, reads⟩ := charAt_of_drop there
  refine ⟨there, ?_⟩
  rw [parseValue, skipWs_of_drop blank solid here, if_neg (not_le.mpr inside), reads]

/-- The array loop at an element: the element is read, blanks and a comma behind it are skipped. -/
theorem arrayLoop_element {json : Json} {text : Bytes} (token : Token json text)
    (read : TokenRead fp src json text) (fuel : Nat) (arrVal : List (JsonVal fp.Double)) {pos : Nat}
    {gap gap' rest : Bytes} {closing : UInt8} (blank : Blank gap) (blank' : Blank gap')
    (solid : isSpace closing = false) (stops : continuesNumber closing = false)
    (here : src.drop pos = gap ++ (text ++ (gap' ++ closing :: rest)))
    (enough : 2 * text.length ≤ fuel) :
    src.drop (pos + gap.length + text.length + gap'.length) = closing :: rest ∧
    arrayLoop fp src (fuel + 1) pos arrVal =
      arrayLoop fp src fuel
        (skipComma src (pos + gap.length + text.length + gap'.length)) (arrVal ++ [json.val fp]) := by
  have afterGap := drop_add here
  have afterText := drop_add afterGap
  have start : pos < src.length ∧ charAt src pos ≠ 93 := by
    cases gap with
    | nil =>
      obtain ⟨character, later, shape, -, different⟩ := token_head token
      rw [shape] at here
      obtain ⟨inside, reads⟩ := charAt_of_drop here
      exact ⟨inside, reads ▸ different⟩
    | cons first later =>
      obtain ⟨inside, reads⟩ := charAt_of_drop here
      refine ⟨inside, reads ▸ ?_⟩
      rintro rfl
      exact absurd (blank 93 List.mem_cons_self) (by decide)
  refine ⟨drop_add afterText, ?_⟩
  rw [arrayLoop, if_pos start,
    read fuel pos gap _ blank (stops_of_blank blank' stops rest) here enough]
  simp only []
  rw [skipWs_of_drop blank' solid afterText]

theorem skipComma_of_ne {pos : Nat} {character : UInt8} {rest : Bytes}
    (here : src.drop pos = character :: rest) (different : character ≠ 44) :
    skipComma src pos = pos := by
  rw [skipComma, (charAt_of_drop here).2, if_neg different]

theorem skipComma_of_comma {pos : Nat} {rest : Bytes} (here : src.drop pos = 44 :: rest) :
    skipComma src pos = pos + 1 := by
  rw [skipComma, (charAt_of_drop here).2, if_pos rfl]

/-- The array loop ends at the closing bracket. -/
theorem arrayLoop_close {fuel pos : Nat} {rest : Bytes} {arrVal : List (JsonVal fp.Double)}
    (here : src.drop pos = 93 :: rest) :
    arrayLoop fp src (fuel + 1) pos arrVal = some (.arr arrVal, pos + 1) := by
  rw [arrayLoop, (charAt_of_drop here).2, if_neg (by simp)]

theorem objectLoop_close {fuel pos : Nat} {rest : Bytes}
    {objVal : List (Bytes × JsonVal fp.Double)} (here : src.drop pos = 125 :: rest) :
    objectLoop fp src (fuel + 1) pos objVal = some (.obj objVal, pos + 1) := by
  rw [objectLoop, (charAt_of_drop here).2, if_neg (by simp)]

/-- The object loop at a member: key, colon and value are read, blanks and a comma are skipped. -/
theorem objectLoop_member {key : Bytes} {json : Json} {text : Bytes}
    (read : TokenRead fp src json text) (fuel : Nat) (objVal : List (Bytes × JsonVal fp.Double))
    {pos : Nat} {gap gap' gap'' rest : Bytes} {closing : UInt8} (blank : Blank gap)
    (blank' : Blank gap') (blank'' : Blank gap'') (solid : isSpace closing = false)
    (stops : continuesNumber closing = false)
    (here : src.drop pos
      = escapeJson key ++ (gap ++ 58 :: (gap' ++ (text ++ (gap'' ++ closing :: rest)))))
    (enough : 2 * text.length ≤ fuel) :
    src.drop (pos + (escapeJson key).length + gap.length + 1 + gap'.length + text.length
        + gap''.length) = closing :: rest ∧
    objectLoop fp src (fuel + 1) pos objVal =
      objectLoop fp src fuel
        (skipWs src (skipComma src (pos + (escapeJson key).length + gap.length + 1 + gap'.length
          + text.length + gap''.length)))
        (SortedMap.insertEntry key (json.val fp) objVal) := by
  have afterKey := drop_add here
  have atColon := drop_add afterKey
  have afterColon : src.drop (pos + (escapeJson key).length + gap.length + 1)
      = gap' ++ (text ++ (gap'' ++ closing :: rest)) := by
    rw [← List.drop_drop, atColon]
    rfl
  have afterText := drop_add (drop_add afterColon)
  obtain ⟨inside, reads⟩ := charAt_of_drop here
  refine ⟨drop_add afterText, ?_⟩
  rw [objectLoop, if_pos ⟨inside, by rw [reads]; decide⟩, parseStr_escaped here,
    skipWs_of_drop blank (by decide) afterKey,
    read fuel _ gap' _ blank' (stops_of_blank blank'' stops rest) afterColon enough]
  simp only []
  rw [skipWs_of_drop blank'' solid afterText]

theorem parseStr_token (value : Bytes) : TokenRead fp src (.str value) (escapeJson value) := by
  intro fuel pos gap rest blank _ here enough
  obtain ⟨steps, rfl⟩ := Nat.exists_eq_succ_of_ne_zero (n := fuel) (by
    simp [escapeJson] at enough
    omega)
  obtain ⟨there, step⟩ := parseValue_at fp steps blank (by decide) here
  rw [step, if_pos rfl, parseStr_escaped there, Json.val]

theorem parseNum_token (value : Int) : TokenRead fp src (.int value) (decimal value) := by
  intro fuel pos gap rest blank stops here enough
  obtain ⟨character, later, shape, digit⟩ := decimal_head value
  have solid : isSpace character = false ∧ character ≠ doubleQuote ∧ character ≠ 91 ∧
      character ≠ 123 ∧ character ≠ 116 ∧ character ≠ 102 ∧ character ≠ 110 := by
    rcases digit with digit | rfl
    · simp only [isSpace, isDigit, doubleQuote, Bool.and_eq_true, decide_eq_true_eq,
        Bool.or_eq_false_iff, Bool.and_eq_false_iff, decide_eq_false_iff_not,
        UInt8.le_iff_toNat_le, ne_eq, ← UInt8.toNat_inj] at digit ⊢
      simp only [UInt8.reduceToNat] at digit ⊢
      omega
    · decide
  obtain ⟨steps, rfl⟩ := Nat.exists_eq_succ_of_ne_zero (n := fuel) (by
    rw [shape, List.length_cons] at enough
    omega)
  have front : src.drop pos = gap ++ character :: (later ++ rest) := by rw [here, shape]; rfl
  obtain ⟨there, step⟩ := parseValue_at fp steps blank solid.1 front
  have text : character :: (later ++ rest) = decimal value ++ rest := by rw [shape]; rfl
  rw [step, if_neg solid.2.1, if_neg solid.2.2.1, if_neg solid.2.2.2.1, if_neg solid.2.2.2.2.1,
    if_neg solid.2.2.2.2.2.1, if_neg solid.2.2.2.2.2.2, parseNum, there, text,
    fp.fromChars_integer value rest stops, Json.val]

mutual

/-- **Every rendering is read**: the value, and the position right behind the rendering. -/
theorem parseValue_token {json : Json} {text : Bytes} :
    Token json text → TokenRead fp src json text
  | .null => by
      intro fuel pos gap rest blank _ here enough
      obtain ⟨steps, rfl⟩ := Nat.exists_eq_succ_of_ne_zero (n := fuel) (by
        change 2 * 4 ≤ fuel at enough
        omega)
      obtain ⟨-, step⟩ := parseValue_at fp steps blank (by decide) here
      rw [step, Json.val]
      rfl
  | .true => by
      intro fuel pos gap rest blank _ here enough
      obtain ⟨steps, rfl⟩ := Nat.exists_eq_succ_of_ne_zero (n := fuel) (by
        change 2 * 4 ≤ fuel at enough
        omega)
      obtain ⟨-, step⟩ := parseValue_at fp steps blank (by decide) here
      rw [step, Json.val]
      rfl
  | .false => by
      intro fuel pos gap rest blank _ here enough
      obtain ⟨steps, rfl⟩ := Nat.exists_eq_succ_of_ne_zero (n := fuel) (by
        change 2 * 5 ≤ fuel at enough
        omega)
      obtain ⟨-, step⟩ := parseValue_at fp steps blank (by decide) here
      rw [step, Json.val]
      rfl
  | .int value => parseNum_token fp value
  | .str value => parseStr_token fp value
  | @Token.arr elements gap' text blank' list => by
      intro fuel pos gap rest blank _ here enough
      simp only [List.length_append, List.length_cons] at enough ⊢
      obtain ⟨steps, rfl⟩ := Nat.exists_eq_succ_of_ne_zero (n := fuel) (by omega)
      obtain ⟨there, step⟩ := parseValue_at fp steps blank (by decide) here
      have behind : src.drop (pos + gap.length + 1) = gap' ++ (text ++ rest) := by
        rw [← List.drop_drop, there, ← List.append_assoc]
        rfl
      have skipped := skipWs_of_elements list blank' behind
      rw [step, if_neg (by decide), if_pos rfl, skipped,
        arrayLoop_elements list steps _ [] rest [] (by simp [Blank]) (fun _ => rfl)
          (drop_add behind) (by omega), List.nil_append, Json.val]
      simp only [List.length_nil]
      congr 2
      omega
  | @Token.obj members gap' text blank' list => by
      intro fuel pos gap rest blank _ here enough
      simp only [List.length_append, List.length_cons] at enough ⊢
      obtain ⟨steps, rfl⟩ := Nat.exists_eq_succ_of_ne_zero (n := fuel) (by omega)
      obtain ⟨there, step⟩ := parseValue_at fp steps blank (by decide) here
      have behind : src.drop (pos + gap.length + 1) = gap' ++ (text ++ rest) := by
        rw [← List.drop_drop, there, ← List.append_assoc]
        rfl
      have skipped := skipWs_of_members list blank' behind
      rw [step, if_neg (by decide), if_neg (by decide), if_pos rfl, skipped,
        objectLoop_members list steps _ rest [] (drop_add behind) (by omega), Json.val]
      congr 2
      omega

/-- The array loop reads the elements and stops behind the bracket. -/
theorem arrayLoop_elements {elements : List Json} {text : Bytes} :
    Elements elements text → ElementsRead fp src elements text
  | .close => by
      intro fuel pos gap rest arrVal _ tight here enough
      obtain rfl := tight rfl
      obtain ⟨steps, rfl⟩ := Nat.exists_eq_succ_of_ne_zero (n := fuel) (by
        simp at enough
        omega)
      rw [arrayLoop_close fp here, Json.vals, List.append_nil]
      rfl
  | @Elements.last element text gap' token blank' => by
      intro fuel pos gap rest arrVal blank _ here enough
      simp only [List.length_append, List.length_cons, List.length_nil] at enough ⊢
      simp only [List.append_assoc, List.singleton_append] at here
      obtain ⟨steps, rfl⟩ := Nat.exists_eq_add_of_le (show 2 ≤ fuel by omega)
      rw [Nat.add_comm 2 steps]
      obtain ⟨next, step⟩ := arrayLoop_element fp token (parseValue_token token)
        (steps + 1) arrVal blank blank' (by decide) (by decide) here (by omega)
      rw [step, skipComma_of_ne next (by decide), arrayLoop_close fp next, Json.vals, Json.vals]
      congr 2
      omega
  | @Elements.more element second others text gap' gap'' later token blank' blank'' list => by
      intro fuel pos gap rest arrVal blank _ here enough
      simp only [List.length_append, List.length_cons] at enough ⊢
      simp only [List.append_assoc, List.cons_append] at here
      obtain ⟨steps, rfl⟩ := Nat.exists_eq_succ_of_ne_zero (n := fuel) (by omega)
      obtain ⟨next, step⟩ := arrayLoop_element fp token (parseValue_token token)
        steps arrVal blank blank' (by decide) (by decide) here (by omega)
      have behind : src.drop (pos + gap.length + text.length + gap'.length + 1)
          = gap'' ++ (later ++ rest) := by
        rw [← List.drop_drop, next]
        rfl
      rw [step, skipComma_of_comma next,
        arrayLoop_elements list steps _ gap'' rest _ blank'' (fun empty => by cases empty) behind
          (by omega), Json.vals, List.append_assoc, List.singleton_append]
      congr 2
      omega

/-- The object loop stores the members and stops behind the brace. -/
theorem objectLoop_members {members : List (Bytes × Json)} {text : Bytes} :
    Members members text → MembersRead fp src members text
  | .close => by
      intro fuel pos rest objVal here enough
      obtain ⟨steps, rfl⟩ := Nat.exists_eq_succ_of_ne_zero (n := fuel) (by
        simp at enough
        omega)
      rw [objectLoop_close fp here, Json.store]
      rfl
  | @Members.last key member text gap gap' gap'' blank blank' token blank'' => by
      intro fuel pos rest objVal here enough
      simp only [List.length_append, List.length_cons, List.length_nil] at enough ⊢
      simp only [List.append_assoc, List.cons_append, List.nil_append] at here
      obtain ⟨steps, rfl⟩ := Nat.exists_eq_add_of_le (show 2 ≤ fuel by omega)
      rw [Nat.add_comm 2 steps]
      obtain ⟨next, step⟩ := objectLoop_member fp (parseValue_token token)
        (steps + 1) objVal blank blank' blank'' (by decide) (by decide) here
        (by omega)
      have still : skipWs src (pos + (escapeJson key).length + gap.length + 1 + gap'.length
          + text.length + gap''.length) = pos + (escapeJson key).length + gap.length + 1
          + gap'.length + text.length + gap''.length :=
        skipWs_of_drop (List.forall_mem_nil _) (by decide) next
      rw [step, skipComma_of_ne next (by decide), still, objectLoop_close fp next, Json.store,
        Json.store]
      congr 2
      omega
  | @Members.more key member second others text gap gap' gap'' gap''' later blank blank' token
      blank'' blank''' list => by
      intro fuel pos rest objVal here enough
      simp only [List.length_append, List.length_cons] at enough ⊢
      simp only [List.append_assoc, List.cons_append] at here
      obtain ⟨steps, rfl⟩ := Nat.exists_eq_succ_of_ne_zero (n := fuel) (by omega)
      obtain ⟨next, step⟩ := objectLoop_member fp (parseValue_token token)
        steps objVal blank blank' blank'' (by decide) (by decide) here
        (by omega)
      have behind : src.drop (pos + (escapeJson key).length + gap.length + 1 + gap'.length
          + text.length + gap''.length + 1) = gap''' ++ (later ++ rest) := by
        rw [← List.drop_drop, next]
        rfl
      rw [step, skipComma_of_comma next, skipWs_of_members list blank''' behind,
        objectLoop_members list steps _ rest _ (drop_add behind) (by omega), Json.store]
      congr 2
      omega

end

end JsonParser

end MyTeams
