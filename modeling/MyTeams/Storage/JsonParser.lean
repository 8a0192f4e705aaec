/-
**The JSON parser of the save file.**

`JsonParser` reads the text by position: `_src` is the byte string `src`, `_pos` is a number that
the functions below take and return. The parser never reports an error, and on a malformed array it
does not return (an element that consumes nothing is read again and again), so the mutually
recursive functions carry fuel: `none` means that the fuel did not suffice.

The floating-point library is a parameter. `FloatingPoint` holds the type `double`, the part of
`std::from_chars` that the parser uses and the conversion to `time_t`, with what the parser relies
on: a decimal integer is consumed as a whole, and up to `2 ^ 53` it is read exactly.
-/

import MyTeams.Model.Database

namespace MyTeams

/-- A character that would continue a decimal integer in the `std::from_chars` grammar. -/
def continuesNumber (byte : UInt8) : Bool := isDigit byte || byte = 46 || byte = 69 || byte = 101

/-- `double`, `std::from_chars` on it, and `static_cast<time_t>`. -/
structure FloatingPoint where
  Double : Type
  /-- `0.0`, the value of `nVal` before it is read. -/
  zero : Double
  /-- The `double` nearest to an integer. -/
  ofInt : Int → Double
  /-- The value after `std::from_chars` and the number of characters it consumed. -/
  fromChars : Bytes → Double × Nat
  /-- `static_cast<time_t>` -/
  toTime : Double → Int
  /-- The consumed characters are characters of the text. -/
  fromChars_le : ∀ text, (fromChars text).2 ≤ text.length
  /-- A decimal integer is consumed up to the first character that does not continue it. -/
  fromChars_integer : ∀ (value : Int) (rest : Bytes),
    (∀ byte, rest.head? = some byte → continuesNumber byte = false) →
      fromChars (decimal value ++ rest) = (ofInt value, (decimal value).length)
  /-- Integers up to `2 ^ 53` are `double` values. -/
  toTime_ofInt : ∀ value : Int, |value| ≤ 2 ^ 53 → toTime (ofInt value) = value

/-! ### `JsonVal` -/

/-- `JsonVal`: the tag and the one field that a value of this tag sets. The members of an object
are the entries of the `std::map`, in key order. -/
inductive JsonVal (Double : Type)
  | null
  | bool (bVal : Bool)
  | num (nVal : Double)
  | str (sVal : Bytes)
  | arr (arrVal : List (JsonVal Double))
  | obj (objVal : List (Bytes × JsonVal Double))

namespace JsonVal

variable {Double : Type}

/-- `JsonVal::object` -/
def object : JsonVal Double → List (Bytes × JsonVal Double)
  | obj objVal => objVal
  | _ => []

/-- `JsonVal::array` -/
def array : JsonVal Double → List (JsonVal Double)
  | arr arrVal => arrVal
  | _ => []

/-- `JsonVal::str` -/
def string : JsonVal Double → Bytes
  | str sVal => sVal
  | _ => []

/-- `JsonVal::num` -/
def number (zero : Double) : JsonVal Double → Double
  | num nVal => nVal
  | _ => zero

/-- `JsonVal::operator[]` -/
def get (key : Bytes) (val : JsonVal Double) : JsonVal Double :=
  (val.object.lookup key).getD null

end JsonVal

/-! ### `JsonParser` -/

namespace JsonParser

/-- `_src[_pos]`; at the end of the string this is NUL. -/
def charAt (src : Bytes) (pos : Nat) : UInt8 := src.getD pos 0

/-- `JsonParser::skipWs`: the first non-blank position, and the end of the text if there is none,
also from a position beyond the end. -/
def skipWs (src : Bytes) (pos : Nat) : Nat :=
  if (src.drop pos).all isSpace then src.length
  else pos + ((src.drop pos).takeWhile isSpace).length

/-- The loop of `JsonParser::parseStr` on the text from `_pos`: the characters read and how far
`_pos` moved. An escape at the end of the text reads the NUL behind it. -/
def strLoop : Bytes → Bytes × Nat
  | [] => ([], 0)
  | character :: rest =>
    if character = doubleQuote then ([], 0)
    else if character = backslash then
      match rest with
      | [] => ([0], 2)
      | escaped :: later => (escaped :: (strLoop later).1, (strLoop later).2 + 2)
    else (character :: (strLoop rest).1, (strLoop rest).2 + 1)

/-- `JsonParser::parseStr` -/
def parseStr (src : Bytes) (pos : Nat) : Bytes × Nat :=
  ((strLoop (src.drop (pos + 1))).1, pos + 1 + (strLoop (src.drop (pos + 1))).2 + 1)

variable (fp : FloatingPoint) (src : Bytes)

/-- `JsonParser::parseNum` -/
def parseNum (pos : Nat) : JsonVal fp.Double × Nat :=
  (.num (fp.fromChars (src.drop pos)).1, pos + (fp.fromChars (src.drop pos)).2)

/-- `if (_src[_pos] == ',') ++_pos;` -/
def skipComma (pos : Nat) : Nat := if charAt src pos = 44 then pos + 1 else pos

mutual

/-- `JsonParser::parseValue` -/
def parseValue : Nat → Nat → Option (JsonVal fp.Double × Nat)
  | 0, _ => none
  | fuel + 1, start =>
    let pos := skipWs src start
    if src.length ≤ pos then some (.null, pos)
    else if charAt src pos = doubleQuote then
      some (.str (parseStr src pos).1, (parseStr src pos).2)
    else if charAt src pos = 91 then arrayLoop fuel (skipWs src (pos + 1)) []
    else if charAt src pos = 123 then objectLoop fuel (skipWs src (pos + 1)) []
    else if charAt src pos = 116 then some (.bool true, pos + 4)
    else if charAt src pos = 102 then some (.bool false, pos + 5)
    else if charAt src pos = 110 then some (.null, pos + 4)
    else some (parseNum fp src pos)

/-- The loop of `JsonParser::parseArray`; `arrVal` holds the elements pushed so far. -/
def arrayLoop : Nat → Nat → List (JsonVal fp.Double) → Option (JsonVal fp.Double × Nat)
  | 0, _, _ => none
  | fuel + 1, pos, arrVal =>
    if pos < src.length ∧ charAt src pos ≠ 93 then
      match parseValue fuel pos with
      | none => none
      | some (element, next) =>
        arrayLoop fuel (skipComma src (skipWs src next)) (arrVal ++ [element])
    else some (.arr arrVal, pos + 1)

/-- The loop of `JsonParser::parseObject`; `objVal` holds the members stored so far. -/
def objectLoop : Nat → Nat → List (Bytes × JsonVal fp.Double) → Option (JsonVal fp.Double × Nat)
  | 0, _, _ => none
  | fuel + 1, pos, objVal =>
    if pos < src.length ∧ charAt src pos ≠ 125 then
      match parseValue fuel (skipWs src (parseStr src pos).2 + 1) with
      | none => none
      | some (member, next) =>
        objectLoop fuel (skipWs src (skipComma src (skipWs src next)))
          (SortedMap.insertEntry (parseStr src pos).1 member objVal)
    else some (.obj objVal, pos + 1)

end

/-- `JsonParser::parse` -/
def parse (fuel : Nat) : Option (JsonVal fp.Double) := (parseValue fp src fuel 0).map Prod.fst

end JsonParser

end MyTeams
