/-
**Byte strings.**

Both programs handle `std::string` values as bytes: names, bodies, frames and the save file are
lists of `UInt8` here. `ascii` writes a source literal as bytes, `isSpace` is `std::isspace` in the
C locale (also the separator test of `std::istream >> std::string`), `decimal` is the text that
`std::to_string` and `std::ostream <<` give an integer.

`cString` is what is left of a `std::string` that is given to a C function. `IsUuid` is the shape of
a text that `uuid_unparse_lower` writes; `Uuid` carries it.
-/

import Mathlib.Data.Nat.Digits.Defs
import Mathlib.Data.List.Lex
import Mathlib.Data.List.TakeWhile

/-- Bytes in numeric order, the order of `std::string::compare`. -/
instance byteOrder : LinearOrder UInt8 where
  le_refl := UInt8.le_refl
  le_trans _ _ _ := UInt8.le_trans
  le_antisymm _ _ := UInt8.le_antisymm
  le_total := UInt8.le_total
  lt_iff_le_not_ge a b := by
    rw [UInt8.lt_iff_toNat_lt, UInt8.le_iff_toNat_le, UInt8.le_iff_toNat_le]
    omega
  toDecidableLE := inferInstance
  toDecidableLT := inferInstance
  toDecidableEq := inferInstance

namespace MyTeams

/-- A `std::string`. -/
abbrev Bytes := List UInt8

/-- The bytes of a source literal. -/
def ascii (literal : String) : Bytes := literal.toList.map fun character => character.toNat.toUInt8

/-- `'"'` -/
def doubleQuote : UInt8 := 34

/-- `'\\'` -/
def backslash : UInt8 := 92

/-- `' '` -/
def blank : UInt8 := 32

/-- `'\n'` -/
def newline : UInt8 := 10

/-- `'\r'` -/
def carriageReturn : UInt8 := 13

/-- `std::isspace` in the C locale: blank, tab, line feed, vertical tab, form feed, return. -/
def isSpace (byte : UInt8) : Bool := byte = 32 || (9 ≤ byte && byte ≤ 13)

/-- `value.back() == '"'`, read as false on an empty string. -/
def endsInQuote (value : Bytes) : Bool := value.getLast? = some doubleQuote

/-- What a C function reads of `text.c_str()`: the bytes before the first zero byte. -/
def cString (text : Bytes) : Bytes := text.takeWhile (· ≠ 0)

/-! ### Integers as text -/

/-- The decimal digits of a natural number, most significant first. -/
def decimalNat (value : Nat) : Bytes :=
  if value = 0 then [48] else (Nat.digits 10 value).reverse.map fun digit => (48 + digit).toUInt8

/-- `std::to_string`, and `std::ostream <<` on an integer. -/
def decimal : Int → Bytes
  | .ofNat value => decimalNat value
  | .negSucc value => 45 :: decimalNat (value + 1)

/-- `'0' .. '9'` -/
def isDigit (byte : UInt8) : Bool := 48 ≤ byte && byte ≤ 57

theorem decimalNat_ne_nil (value : Nat) : decimalNat value ≠ [] := by
  unfold decimalNat
  split_ifs with zero
  · exact List.cons_ne_nil _ _
  · simpa [Nat.digits_ne_nil_iff_ne_zero] using zero

theorem decimalNat_digits (value : Nat) : ∀ byte ∈ decimalNat value, isDigit byte = true := by
  intro byte member
  unfold decimalNat at member
  split_ifs at member with zero
  · rw [List.mem_singleton.mp member]
    decide
  · obtain ⟨digit, inside, rfl⟩ := List.mem_map.mp member
    have each : ∀ digit, digit < 10 → isDigit (48 + digit).toUInt8 = true := by decide
    exact each digit (Nat.digits_lt_base (by norm_num) (List.mem_reverse.mp inside))

theorem decimal_ne_nil (value : Int) : decimal value ≠ [] := by
  cases value with
  | ofNat value => exact decimalNat_ne_nil value
  | negSucc value => exact List.cons_ne_nil _ _

/-- An integer is written with digits and at most one minus sign. -/
theorem decimal_bytes (value : Int) : ∀ byte ∈ decimal value, isDigit byte = true ∨ byte = 45 := by
  intro byte member
  cases value with
  | ofNat value => exact Or.inl (decimalNat_digits value byte member)
  | negSucc value =>
    rcases List.mem_cons.mp member with rfl | inside
    · exact Or.inr rfl
    · exact Or.inl (decimalNat_digits (value + 1) byte inside)

/-- The value of a run of digits. -/
def digitsValue (text : Bytes) : Nat :=
  text.foldl (fun value byte => value * 10 + (byte.toNat - 48)) 0

theorem digitsValue_decimalNat (value : Nat) : digitsValue (decimalNat value) = value := by
  unfold decimalNat
  split_ifs with zero
  · rw [zero]
    rfl
  · have each : ∀ digit, digit < 10 → ((48 + digit).toUInt8.toNat - 48) = digit := by decide
    have folded : ∀ digits : List Nat, (∀ digit ∈ digits, digit < 10) →
        digitsValue (digits.reverse.map fun digit => (48 + digit).toUInt8)
          = Nat.ofDigits 10 digits := by
      intro digits small
      induction digits with
      | nil => rfl
      | cons digit rest ih =>
        obtain ⟨first, later⟩ := List.forall_mem_cons.mp small
        rw [digitsValue] at ih ⊢
        rw [List.reverse_cons, List.map_append, List.foldl_append, ih later, Nat.ofDigits_cons]
        show Nat.ofDigits 10 rest * 10 + ((48 + digit).toUInt8.toNat - 48) = _
        rw [each digit first]
        omega
    rw [folded _ fun digit inside => Nat.digits_lt_base (by norm_num) inside, Nat.ofDigits_digits]

/-! ### Identifiers -/

/-- The text of `uuid_unparse_lower`: 36 lower-case hexadecimal digits and hyphens. -/
def IsUuid (text : Bytes) : Prop :=
  text.length = 36 ∧ ∀ byte ∈ text, isDigit byte = true ∨ (97 ≤ byte ∧ byte ≤ 102) ∨ byte = 45

instance (text : Bytes) : Decidable (IsUuid text) :=
  @instDecidableAnd _ _ _ (List.decidableBAll _ text)

/-- A uuid is read whole. -/
theorem cString_of_isUuid {uuid : Bytes} (wellFormed : IsUuid uuid) : cString uuid = uuid := by
  refine List.takeWhile_eq_self_iff.mpr fun byte member => decide_eq_true fun zero => ?_
  subst zero
  rcases wellFormed.2 0 member with digit | ⟨letter, -⟩ | hyphen
  · exact absurd digit (by decide)
  · exact absurd letter (by decide)
  · exact absurd hyphen (by decide)

/-- A value of `uuid_generate`, as text. -/
abbrev Uuid := {text : Bytes // IsUuid text}

theorem Uuid.ne_nil (uuid : Uuid) : uuid.1 ≠ [] := by
  intro empty
  have wide := uuid.2.1
  rw [empty] at wide
  cases wide

end MyTeams
