/-
`String(value)` and `text.includes(part)`.

The text of a number belongs to the platform.  Distinct finite numbers have distinct
texts, made of digits, signs, a point and an `e`.
-/

import Std.Data.String.ToInt
import SelfService.Core.JsValue

namespace SelfService

/-- From `text.includes(part)`: the part stands somewhere in the text. -/
def includes (text part : String) : Bool := text.toList.tails.any part.toList.isPrefixOf

structure NumberTexts where
  text : Rat → String
  injective : Function.Injective text
  symbols : ∀ number, ∀ symbol ∈ (text number).toList, symbol.isDigit ∨ symbol ∈ "+-.e".toList

namespace NumberTexts

/-- An object shows nothing of what it holds. -/
def objectText : String := "[object Object]"

def boolText (value : Bool) : String := if value then "true" else "false"

mutual

/-- `String(value)`, where `dates` is the text of a date in the time zone of the process. -/
def stringOf (numbers : NumberTexts) (dates : Nat → String) : JsValue → String
  | .undefined => "undefined"
  | .null => "null"
  | .bool value => boolText value
  | .num value => numbers.text value
  | .str value => value
  | .date millis => dates millis
  | .arr items => ",".intercalate (stringsOf numbers dates items)
  | .obj _ => objectText

/-- The texts that `join` puts together. -/
def stringsOf (numbers : NumberTexts) (dates : Nat → String) : List JsValue → List String
  | [] => []
  | .undefined :: rest | .null :: rest => "" :: stringsOf numbers dates rest
  | item :: rest => stringOf numbers dates item :: stringsOf numbers dates rest

end

theorem text_ne (numbers : NumberTexts) (number : Rat) {other : String} {symbol : Char}
    (member : symbol ∈ other.toList) (noDigit : symbol.isDigit = false)
    (noSign : symbol ∉ "+-.e".toList) : numbers.text number ≠ other := by
  intro same
  rw [← same] at member
  rcases numbers.symbols number symbol member with digit | sign
  · exact absurd digit (by simp [noDigit])
  · exact noSign sign

theorem text_ne_bool (numbers : NumberTexts) (number : Rat) (value : Bool) :
    numbers.text number ≠ boolText value := by
  cases value with
  | true => exact @text_ne numbers number _ 't' (by decide) (by decide) (by decide)
  | false => exact @text_ne numbers number _ 'f' (by decide) (by decide) (by decide)

theorem text_ne_object (numbers : NumberTexts) (number : Rat) :
    numbers.text number ≠ objectText :=
  @text_ne numbers number _ '[' (by decide) (by decide) (by decide)

/-! ### Numbers written out -/

theorem digit_of_repr {number : Nat} {symbol : Char} (member : symbol ∈ number.repr.toList) :
    symbol.isDigit = true := by
  rw [Nat.toList_repr] at member
  exact Nat.isDigit_of_mem_toDigits (by decide) (by decide) member

theorem symbols_repr {number : Int} {symbol : Char} (member : symbol ∈ number.repr.toList) :
    symbol.isDigit = true ∨ symbol = '-' := by
  rw [Int.repr_eq_if] at member
  split at member
  · exact .inl (digit_of_repr member)
  · rw [String.toList_append, List.mem_append] at member
    rcases member with minus | digit
    · exact .inr (List.mem_singleton.mp minus)
    · exact .inl (digit_of_repr digit)

/-- An integer in digits, another number as numerator and denominator. -/
def writtenOut (number : Rat) : String :=
  if number.den = 1 then number.num.repr
  else number.num.repr ++ "." ++ number.den.repr

theorem point_writtenOut (number : Rat) :
    '.' ∈ (writtenOut number).toList ↔ number.den ≠ 1 := by
  have none : '.' ∉ number.num.repr.toList := by
    intro member
    rcases symbols_repr member with digit | minus
    · exact absurd digit (by decide)
    · exact absurd minus (by decide)
  unfold writtenOut
  split
  · next whole => exact iff_of_false none (not_not_intro whole)
  · next fraction =>
      refine iff_of_true ?_ fraction
      rw [String.toList_append, String.toList_append]
      exact List.mem_append_left _ (List.mem_append_right _ List.mem_cons_self)

theorem fraction_inj {number other : Int} {lower below : Nat}
    (same : number.repr ++ "." ++ lower.repr = other.repr ++ "." ++ below.repr) :
    number = other ∧ lower = below := by
  have none : ∀ number : Int, ∀ symbol ∈ number.repr.toList, (symbol != '.') = true := by
    intro number symbol member
    rcases symbols_repr member with digit | rfl
    · rw [bne_iff_ne]
      rintro rfl
      exact absurd digit (by decide)
    · rfl
  have cut : ∀ (number : Int) (lower : Nat),
      (number.repr ++ "." ++ lower.repr).toList.takeWhile (fun symbol => symbol != '.') =
        number.repr.toList := by
    intro number lower
    rw [String.toList_append, String.toList_append, List.append_assoc,
      List.takeWhile_append_of_pos (none number)]
    exact List.append_nil _
  have first : number = other := by
    apply Int.repr_injective
    apply String.toList_injective
    rw [← cut number lower, ← cut other below, same]
  subst first
  rw [String.append_assoc, String.append_assoc] at same
  have tails := (String.append_right_inj _).mp same
  exact ⟨rfl, Nat.repr_injective ((String.append_right_inj _).mp tails)⟩

theorem writtenOut_injective : Function.Injective writtenOut := by
  intro number other same
  have points := (point_writtenOut number).symm.trans (same ▸ point_writtenOut other)
  unfold writtenOut at same
  by_cases whole : number.den = 1
  · have also : other.den = 1 := by
      by_contra fraction
      exact points.mpr fraction whole
    rw [if_pos whole, if_pos also] at same
    exact Rat.ext (Int.repr_injective same) (whole.trans also.symm)
  · rw [if_neg whole, if_neg (points.mp whole)] at same
    obtain ⟨above, below⟩ := fraction_inj same
    exact Rat.ext above below

def plain : NumberTexts where
  text := writtenOut
  injective := writtenOut_injective
  symbols := by
    intro number symbol member
    have numerator : symbol ∈ number.num.repr.toList →
        symbol.isDigit = true ∨ symbol ∈ "+-.e".toList := by
      intro inside
      rcases symbols_repr inside with digit | rfl
      · exact .inl digit
      · exact .inr (by decide)
    unfold writtenOut at member
    split at member
    · exact numerator member
    · rw [String.toList_append, String.toList_append, List.mem_append, List.mem_append] at member
      rcases member with (inside | point) | digit
      · exact numerator inside
      · obtain rfl := List.mem_singleton.mp point
        exact .inr (by decide)
      · exact .inl (digit_of_repr digit)

end NumberTexts

end SelfService
