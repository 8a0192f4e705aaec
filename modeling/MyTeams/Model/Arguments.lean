/-
**The port on the command line.**

Both programs read it with `std::stoull`, which skips blanks, takes a sign, and ignores what follows the digits.
A minus sign negates the value modulo 2^64.
-/

import Mathlib.Data.List.TakeWhile
import MyTeams.Model.Bytes

namespace MyTeams

/-- `EXIT_ERROR` -/
def exitError : Nat := 84

/-- `MAX_PORT` -/
def maxPort : Nat := 65535

/-- `std::stoull`: `none` stands for `std::invalid_argument` and `std::out_of_range`. -/
def stoull (text : Bytes) : Option Nat :=
  let signed := text.dropWhile isSpace
  let digits := (if signed.head? = some 43 ∨ signed.head? = some 45 then signed.tail else signed).takeWhile isDigit
  if digits = [] ∨ 2 ^ 64 ≤ digitsValue digits then none
  else if signed.head? = some 45 then some ((2 ^ 64 - digitsValue digits) % 2 ^ 64)
  else some (digitsValue digits)

/-- The port that both programs accept. -/
def readPort (text : Bytes) : Option Nat :=
  match stoull text with
  | none => none
  | some rawPort => if rawPort = 0 ∨ maxPort < rawPort then none else some rawPort

theorem stoull_decimalNat {value : Nat} (small : value < 2 ^ 64) : stoull (decimalNat value) = some value := by
  have digits := decimalNat_digits value
  cases shape : decimalNat value with
  | nil => exact absurd shape (decimalNat_ne_nil value)
  | cons first rest =>
    rw [shape] at digits
    have whole : (first :: rest).takeWhile isDigit = first :: rest := List.takeWhile_eq_self_iff.mpr digits
    have digit := digits first List.mem_cons_self
    have apart : ∀ byte : UInt8, isDigit byte = true → isSpace byte = false ∧ byte ≠ 43 ∧ byte ≠ 45 := by
      intro byte inside
      unfold isDigit at inside
      unfold isSpace
      simp only [Bool.and_eq_true, decide_eq_true_eq, Bool.or_eq_false_iff, Bool.and_eq_false_iff,
        decide_eq_false_iff_not] at inside ⊢
      rw [UInt8.le_iff_toNat_le, UInt8.le_iff_toNat_le] at inside
      refine ⟨⟨?_, ?_⟩, ?_, ?_⟩
      all_goals first
        | (rintro rfl; exact absurd inside (by decide))
        | (rw [UInt8.le_iff_toNat_le, UInt8.le_iff_toNat_le]; simp at inside ⊢; omega)
    obtain ⟨visible, unsigned, positive⟩ := apart first digit
    have value_eq : digitsValue (first :: rest) = value := shape ▸ digitsValue_decimalNat value
    unfold stoull
    have kept : (first :: rest).dropWhile isSpace = first :: rest := by
      rw [List.dropWhile_cons_of_neg (by rw [visible]; decide)]
    simp only [kept, List.head?_cons, Option.some.injEq, unsigned, positive, or_self, if_false, whole, value_eq,
      reduceCtorEq, not_le.mpr small]

/-- **A port is read back** as it is written. -/
theorem readPort_decimalNat {port : Nat} (positive : 0 < port) (small : port ≤ maxPort) :
    readPort (decimalNat port) = some port := by
  have fits : port < 2 ^ 64 := lt_of_le_of_lt small (by decide)
  have accepted : ¬ (port = 0 ∨ maxPort < port) := by omega
  unfold readPort
  rw [stoull_decimalNat fits]
  exact if_neg accepted

theorem readPort_range {text : Bytes} {port : Nat} (read : readPort text = some port) : 0 < port ∧ port ≤ maxPort := by
  unfold readPort at read
  split at read
  · cases read
  · split_ifs at read with refused
    cases read
    omega

end MyTeams
