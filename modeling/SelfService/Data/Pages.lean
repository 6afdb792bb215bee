/-
Lists in pages of one size.
-/

import Mathlib.Data.List.Basic

namespace Data

/-- The items between two indices, as `slice` takes them. -/
def slice {α : Type} (items : List α) (start stop : Nat) : List α :=
  (items.take stop).drop start

/-- How many pages of this size hold so many items: the quotient, rounded up. -/
def pageCount (size total : Nat) : Nat := (total + size - 1) / size

theorem total_le_pages {size : Nat} (positive : 0 < size) (total : Nat) :
    total ≤ pageCount size total * size := by
  have split := Nat.div_add_mod (total + size - 1) size
  have rest := Nat.mod_lt (total + size - 1) positive
  have swapped := Nat.mul_comm size ((total + size - 1) / size)
  unfold pageCount
  omega

theorem pageCount_le {size : Nat} (positive : 0 < size) (total : Nat) :
    pageCount size total ≤ total := by
  have below : (total + size - 1) / size < total + 1 := by
    rw [Nat.div_lt_iff_lt_mul positive, Nat.succ_mul]
    have grown : total ≤ total * size := Nat.le_mul_of_pos_right total positive
    omega
  exact Nat.le_of_lt_succ below

theorem slice_eq_nil {α : Type} {items : List α} {start : Nat} (past : items.length ≤ start)
    (stop : Nat) : slice items start stop = [] := by
  have short : (items.take stop).length ≤ start :=
    Nat.le_trans (List.length_take_le' stop items) past
  exact List.drop_eq_nil_of_le short

/-- The first pages are a beginning of the list. -/
theorem flatMap_slices {α : Type} (size : Nat) (items : List α) (count : Nat) :
    (List.range count).flatMap (fun index => slice items (index * size) (index * size + size)) =
      items.take (count * size) := by
  induction count with
  | zero => simp
  | succ count ih =>
      have kept : (items.take (count * size + size)).take (count * size) =
          items.take (count * size) := by
        rw [List.take_take, Nat.min_eq_left (Nat.le_add_right (count * size) size)]
      rw [List.range_succ, List.flatMap_append, ih, List.flatMap_singleton, Nat.succ_mul, slice]
      rw [← kept]
      exact List.take_append_drop (count * size) (items.take (count * size + size))

/-- All pages in a row are the list. -/
theorem flatMap_pages {α : Type} {size : Nat} (positive : 0 < size) (items : List α) :
    (List.range (pageCount size items.length)).flatMap
        (fun index => slice items (index * size) (index * size + size)) = items := by
  rw [flatMap_slices]
  exact List.take_of_length_le (total_le_pages positive items.length)

end Data
