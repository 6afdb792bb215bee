/-
Numbers written in digits.

Texts of digits that have one length stand in the order of their numbers.
-/

import Mathlib.Data.List.Lemmas
import Mathlib.Tactic.Ring

namespace Data

namespace Digits

abbrev number (digits : List Char) : Nat := Nat.ofDigitChars 10 digits 0

theorem digit_le {symbol : Char} (digit : symbol.isDigit = true) :
    symbol.toNat - '0'.toNat ≤ 9 ∧ '0'.toNat ≤ symbol.toNat := by
  have zero : '0'.toNat = 48 := rfl
  have nine : '9'.toNat = 57 := rfl
  rw [Char.isDigit_iff_toNat] at digit
  omega

/-- The first digit counts by the length of the rest. -/
theorem number_cons (symbol : Char) (digits : List Char) :
    number (symbol :: digits) =
      10 ^ digits.length * (symbol.toNat - '0'.toNat) + number digits := by
  rw [number, Nat.ofDigitChars_cons, Nat.ofDigitChars_eq_ofDigitChars_zero, Nat.mul_zero,
    Nat.zero_add]

theorem number_lt {digits : List Char} (all : ∀ symbol ∈ digits, symbol.isDigit = true) :
    number digits < 10 ^ digits.length := by
  induction digits with
  | nil => simp
  | cons symbol digits ih =>
      have first := (digit_le (all symbol List.mem_cons_self)).1
      have rest := ih fun other later => all other (List.mem_cons_of_mem _ later)
      calc number (symbol :: digits)
          = 10 ^ digits.length * (symbol.toNat - '0'.toNat) + number digits := number_cons ..
        _ < 10 ^ digits.length * (symbol.toNat - '0'.toNat) + 10 ^ digits.length := by omega
        _ = 10 ^ digits.length * (symbol.toNat - '0'.toNat + 1) := by ring
        _ ≤ 10 ^ digits.length * 10 := Nat.mul_le_mul_left _ (by omega)
        _ = 10 ^ (symbol :: digits).length := by rw [List.length_cons, Nat.pow_succ]

/-- Of two texts of one length, the one of the smaller number comes first. -/
theorem lt_of_number_lt {left right : List Char} (lengths : left.length = right.length)
    (digits : ∀ symbol ∈ left, symbol.isDigit = true)
    (others : ∀ symbol ∈ right, symbol.isDigit = true) (smaller : number left < number right) :
    left < right := by
  induction left generalizing right with
  | nil =>
      rw [List.eq_nil_of_length_eq_zero lengths.symm] at smaller
      exact absurd smaller (Nat.lt_irrefl _)
  | cons symbol left ih =>
      cases right with
      | nil => cases lengths
      | cons other right =>
          have same : left.length = right.length := Nat.succ.inj lengths
          have digit := digit_le (digits symbol List.mem_cons_self)
          have otherDigit := digit_le (others other List.mem_cons_self)
          have bound := number_lt fun third later => others third (List.mem_cons_of_mem _ later)
          rw [number_cons, number_cons, same] at smaller
          rw [List.cons_lt_cons_iff]
          rcases Nat.lt_trichotomy symbol.toNat other.toNat with less | equal | more
          · exact .inl less
          · rw [equal] at smaller
            refine .inr ⟨Char.toNat_inj.mp equal, ih same ?_ ?_ (by omega)⟩
            · exact fun third later => digits third (List.mem_cons_of_mem _ later)
            · exact fun third later => others third (List.mem_cons_of_mem _ later)
          · -- a greater first digit outweighs the rest
            have step : other.toNat - '0'.toNat + 1 ≤ symbol.toNat - '0'.toNat := by omega
            have weight := Nat.mul_le_mul_left (10 ^ right.length) step
            rw [Nat.mul_add, Nat.mul_one] at weight
            omega

end Digits

end Data
