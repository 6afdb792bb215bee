/-
Keys as code units.

A text is determined by its code units, in UTF-16 as in UTF-8, and a colon is one
unit that no other symbol contains.
-/

import SelfService.Caching.CacheStore

namespace SelfService

section Codes

variable {units : Char → List Nat}

/-- A code that can be read from left to right. -/
structure PrefixFree (units : Char → List Nat) : Prop where
  nonempty : ∀ symbol, units symbol ≠ []
  first : ∀ {symbol other : Char} {rest tail : List Nat},
    units symbol ++ rest = units other ++ tail → symbol = other

/-- A text is determined by its code units. -/
theorem PrefixFree.encode_injective (free : PrefixFree units) {left right : String}
    (same : encode units left = encode units right) : left = right := by
  have lists (left : List Char) : ∀ right : List Char,
      left.flatMap units = right.flatMap units → left = right := by
    induction left with
    | nil =>
        intro right same
        cases right with
        | nil => rfl
        | cons symbol rest =>
            exact absurd (List.append_eq_nil_iff.mp same.symm).1 (free.nonempty symbol)
    | cons symbol rest ih =>
        intro right same
        cases right with
        | nil => exact absurd (List.append_eq_nil_iff.mp same).1 (free.nonempty symbol)
        | cons other tail =>
            rw [List.flatMap_cons, List.flatMap_cons] at same
            have head := free.first same
            subst head
            rw [ih tail (List.append_cancel_left same)]
  exact String.ext (lists left.toList right.toList same)

theorem utf16_prefixFree : PrefixFree utf16 where
  nonempty symbol := by
    unfold utf16
    split <;> simp
  first := by
    intro symbol other rest tail same
    apply Char.toNat_inj.mp
    have valid : symbol.toNat < 55296 ∨ 57343 < symbol.toNat ∧ symbol.toNat < 1114112 :=
      symbol.valid
    have legal : other.toNat < 55296 ∨ 57343 < other.toNat ∧ other.toNat < 1114112 := other.valid
    unfold utf16 at same
    -- a unit below the surrogates or above them stands for itself
    split at same <;> split at same <;>
      simp only [List.cons_append, List.nil_append, List.cons.injEq] at same <;> omega

/-- The first byte tells how many follow. -/
theorem utf8_cases (symbol : Char) :
    (symbol.toNat < 128 ∧ utf8 symbol = [symbol.toNat]) ∨
      (128 ≤ symbol.toNat ∧ symbol.toNat < 2048 ∧
        utf8 symbol = [192 + symbol.toNat / 64, 128 + symbol.toNat % 64]) ∨
      (2048 ≤ symbol.toNat ∧ symbol.toNat < 65536 ∧
        utf8 symbol = [224 + symbol.toNat / 4096, 128 + symbol.toNat / 64 % 64,
          128 + symbol.toNat % 64]) ∨
      65536 ≤ symbol.toNat ∧ symbol.toNat < 1114112 ∧
        utf8 symbol = [240 + symbol.toNat / 262144, 128 + symbol.toNat / 4096 % 64,
          128 + symbol.toNat / 64 % 64, 128 + symbol.toNat % 64] := by
  have valid : symbol.toNat < 55296 ∨ 57343 < symbol.toNat ∧ symbol.toNat < 1114112 :=
    symbol.valid
  unfold utf8
  simp only
  split
  · rename_i one
    exact Or.inl ⟨one, rfl⟩
  · split
    · rename_i two
      exact Or.inr (Or.inl ⟨by omega, two, rfl⟩)
    · split
      · rename_i three
        exact Or.inr (Or.inr (Or.inl ⟨by omega, three, rfl⟩))
      · exact Or.inr (Or.inr (Or.inr ⟨by omega, by omega, rfl⟩))

theorem utf8_prefixFree : PrefixFree utf8 where
  nonempty symbol := by
    rcases utf8_cases symbol with ⟨-, code⟩ | ⟨-, -, code⟩ | ⟨-, -, code⟩ | ⟨-, -, code⟩ <;>
      rw [code] <;> simp
  first := by
    intro symbol other rest tail same
    apply Char.toNat_inj.mp
    rcases utf8_cases symbol with ⟨one, code⟩ | ⟨low, high, code⟩ | ⟨low, high, code⟩ |
        ⟨low, high, code⟩ <;>
      rcases utf8_cases other with ⟨single, twin⟩ | ⟨under, above, twin⟩ | ⟨under, above, twin⟩ |
        ⟨under, above, twin⟩ <;>
      rw [code, twin] at same <;>
      simp only [List.cons_append, List.nil_append, List.cons.injEq] at same <;> omega

/-- Only a colon has the code of a colon in it. -/
structure ColonApart (units : Char → List Nat) : Prop extends PrefixFree units where
  colon : units ':' = [58]
  apart : ∀ symbol, 58 ∈ units symbol → symbol = ':'

theorem utf16_colonApart : ColonApart utf16 where
  toPrefixFree := utf16_prefixFree
  colon := by decide
  apart symbol member := by
    apply Char.toNat_inj.mp
    change symbol.toNat = 58
    unfold utf16 at member
    split at member
    · exact (List.mem_singleton.mp member).symm
    · simp only [List.mem_cons, List.not_mem_nil, or_false] at member
      omega

theorem utf8_colonApart : ColonApart utf8 where
  toPrefixFree := utf8_prefixFree
  colon := by decide
  apart symbol member := by
    apply Char.toNat_inj.mp
    change symbol.toNat = 58
    rcases utf8_cases symbol with ⟨-, code⟩ | ⟨-, -, code⟩ | ⟨-, -, code⟩ | ⟨-, -, code⟩ <;>
      rw [code] at member <;> simp only [List.mem_cons, List.not_mem_nil, or_false] at member <;>
      omega

theorem split_at_first {α : Type} {symbol : α} {front other back rest : List α}
    (absent : symbol ∉ front) (missing : symbol ∉ other)
    (same : front ++ symbol :: back = other ++ symbol :: rest) : front = other := by
  rcases List.append_eq_append_iff.mp same with ⟨middle, grown, left⟩ | ⟨middle, grown, left⟩
  · cases middle with
    | nil => rw [grown, List.append_nil]
    | cons head middle =>
        have first := (List.cons.inj left).1
        exact absurd (by rw [grown, ← first]; simp) missing
  · cases middle with
    | nil => rw [grown, List.append_nil]
    | cons head middle =>
        have first := (List.cons.inj left).1
        exact absurd (by rw [grown, ← first]; simp) absent

/-- What stands before the first colon of two texts that begin alike. -/
theorem ColonApart.names_eq (apart : ColonApart units) {name other : String}
    (plain : ':' ∉ name.toList) (clean : ':' ∉ other.toList) {rest tail : List Nat}
    (same : encode units name ++ encode units ":" ++ rest =
      encode units other ++ encode units ":" ++ tail) : name = other := by
  have absent {text : String} (without : ':' ∉ text.toList) : 58 ∉ encode units text := by
    intro member
    obtain ⟨symbol, inText, inUnits⟩ := List.mem_flatMap.mp member
    rw [apart.apart symbol inUnits] at inText
    exact without inText
  have colon : encode units ":" = [58] := by
    change [':'].flatMap units = [58]
    rw [List.flatMap_singleton, apart.colon]
  rw [colon, List.append_assoc, List.append_assoc] at same
  exact apart.encode_injective (split_at_first (absent plain) (absent clean) same)

end Codes

end SelfService
