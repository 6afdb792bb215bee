/-
Finite maps that remember the order of insertion.

Overwriting a key keeps its place, erasing it forgets the place, and iteration
follows the order in which the keys first came in.  A key occurs at most once
by construction.
-/

import Mathlib.Data.List.Nodup

namespace Data

structure OrderedMap (κ ν : Type) where
  entries : List (κ × ν)
  distinct : (entries.map Prod.fst).Nodup

namespace OrderedMap

variable {κ ν : Type} [DecidableEq κ]

def empty : OrderedMap κ ν := ⟨[], List.nodup_nil⟩

def lookupIn (key : κ) : List (κ × ν) → Option ν
  | [] => none
  | (other, value) :: rest => if other = key then some value else lookupIn key rest

def get? (map : OrderedMap κ ν) (key : κ) : Option ν := lookupIn key map.entries

def contains (map : OrderedMap κ ν) (key : κ) : Bool := (map.get? key).isSome

def keys (map : OrderedMap κ ν) : List κ := map.entries.map Prod.fst

def size (map : OrderedMap κ ν) : Nat := map.entries.length

def putIn (key : κ) (value : ν) : List (κ × ν) → List (κ × ν)
  | [] => [(key, value)]
  | (other, old) :: rest =>
      if other = key then (key, value) :: rest else (other, old) :: putIn key value rest

theorem mem_keys_putIn (key other : κ) (value : ν) (entries : List (κ × ν)) :
    other ∈ (putIn key value entries).map Prod.fst ↔
      other = key ∨ other ∈ entries.map Prod.fst := by
  induction entries with
  | nil => simp [putIn]
  | cons entry rest ih =>
      by_cases same : entry.1 = key
      · simp [putIn, same]
      · simp only [putIn, if_neg same, List.map_cons, List.mem_cons, ih]
        exact or_left_comm

theorem nodup_putIn (key : κ) (value : ν) (entries : List (κ × ν))
    (distinct : (entries.map Prod.fst).Nodup) :
    ((putIn key value entries).map Prod.fst).Nodup := by
  induction entries with
  | nil => simp [putIn]
  | cons entry rest ih =>
      obtain ⟨absent, tail⟩ := List.nodup_cons.mp distinct
      by_cases same : entry.1 = key
      · rw [putIn, if_pos same, List.map_cons, ← same]
        exact List.nodup_cons.mpr ⟨absent, tail⟩
      · rw [putIn, if_neg same, List.map_cons, List.nodup_cons]
        refine ⟨?_, ih tail⟩
        rw [mem_keys_putIn]
        rintro (equal | later)
        · exact same equal
        · exact absent later

def set (map : OrderedMap κ ν) (key : κ) (value : ν) : OrderedMap κ ν :=
  ⟨putIn key value map.entries, nodup_putIn key value map.entries map.distinct⟩

theorem putIn_of_notMem {key : κ} (value : ν) {entries : List (κ × ν)}
    (absent : key ∉ entries.map Prod.fst) : putIn key value entries = entries ++ [(key, value)] := by
  induction entries with
  | nil => rfl
  | cons entry rest ih =>
      rw [List.map_cons, List.mem_cons, not_or] at absent
      rw [putIn, if_neg (Ne.symm absent.1), ih absent.2, List.cons_append]

/-- A new key comes last. -/
theorem entries_set_of_notMem {map : OrderedMap κ ν} {key : κ} (value : ν)
    (absent : key ∉ map.keys) : (map.set key value).entries = map.entries ++ [(key, value)] :=
  putIn_of_notMem value absent

/-- Drop every key that `remove` selects. -/
def eraseWhere (map : OrderedMap κ ν) (remove : κ → Bool) : OrderedMap κ ν :=
  ⟨map.entries.filter fun entry => !remove entry.1,
    map.distinct.sublist (List.filter_sublist.map Prod.fst)⟩

def erase (map : OrderedMap κ ν) (key : κ) : OrderedMap κ ν :=
  map.eraseWhere fun other => other = key

theorem lookupIn_putIn (key other : κ) (value : ν) (entries : List (κ × ν)) :
    lookupIn other (putIn key value entries) =
      if key = other then some value else lookupIn other entries := by
  induction entries with
  | nil => rfl
  | cons entry rest ih =>
      by_cases same : entry.1 = key
      · by_cases asked : key = other
        · simp [putIn, lookupIn, same, asked]
        · simp [putIn, lookupIn, same, asked]
      · by_cases asked : key = other
        · subst asked
          simp [putIn, lookupIn, same, ih]
        · simp [putIn, lookupIn, same, asked, ih]

theorem lookupIn_filter (key : κ) (remove : κ → Bool) (entries : List (κ × ν)) :
    lookupIn key (entries.filter fun entry => !remove entry.1) =
      if remove key then none else lookupIn key entries := by
  induction entries with
  | nil => simp [lookupIn]
  | cons entry rest ih =>
      by_cases same : entry.1 = key
      · cases selected : remove key with
        | true => simp [same, selected, ih]
        | false => simp [lookupIn, same, selected]
      · cases dropped : remove entry.1 with
        | true => simp [lookupIn, same, dropped, ih]
        | false => simp [lookupIn, same, dropped, ih]

@[simp] theorem get?_empty (key : κ) : (empty : OrderedMap κ ν).get? key = none := rfl

theorem get?_set (map : OrderedMap κ ν) (key other : κ) (value : ν) :
    (map.set key value).get? other = if key = other then some value else map.get? other :=
  lookupIn_putIn key other value map.entries

@[simp] theorem get?_set_self (map : OrderedMap κ ν) (key : κ) (value : ν) :
    (map.set key value).get? key = some value := by
  rw [get?_set, if_pos rfl]

theorem get?_set_of_ne (map : OrderedMap κ ν) {key other : κ} (value : ν)
    (different : key ≠ other) : (map.set key value).get? other = map.get? other := by
  rw [get?_set, if_neg different]

theorem get?_eraseWhere (map : OrderedMap κ ν) (remove : κ → Bool) (key : κ) :
    (map.eraseWhere remove).get? key = if remove key then none else map.get? key :=
  lookupIn_filter key remove map.entries

theorem mem_keys_of_get? {map : OrderedMap κ ν} {key : κ} {value : ν}
    (found : map.get? key = some value) : key ∈ map.keys := by
  have inEntries : ∀ entries : List (κ × ν), lookupIn key entries = some value →
      key ∈ entries.map Prod.fst := by
    intro entries
    induction entries with
    | nil =>
        intro absent
        cases absent
    | cons entry rest ih =>
        intro looked
        by_cases same : entry.1 = key
        · simp [same]
        · simp only [lookupIn, if_neg same] at looked
          exact List.mem_cons_of_mem _ (ih looked)
  exact inEntries map.entries found

theorem get?_of_mem {map : OrderedMap κ ν} {key : κ} {value : ν}
    (member : (key, value) ∈ map.entries) : map.get? key = some value := by
  obtain ⟨entries, distinct⟩ := map
  change lookupIn key entries = some value
  induction entries with
  | nil => cases member
  | cons entry rest ih =>
      rw [List.map_cons, List.nodup_cons] at distinct
      rcases List.mem_cons.mp member with rfl | later
      · exact if_pos rfl
      · have different : entry.1 ≠ key := by
          intro same
          exact distinct.1 (List.mem_map.mpr ⟨(key, value), later, same.symm⟩)
        rw [lookupIn, if_neg different]
        exact ih distinct.2 later

theorem mem_of_get? {map : OrderedMap κ ν} {key : κ} {value : ν}
    (found : map.get? key = some value) : (key, value) ∈ map.entries := by
  obtain ⟨entry, member, same⟩ := List.mem_map.mp (mem_keys_of_get? found)
  obtain ⟨other, stored⟩ := entry
  cases same
  rw [get?_of_mem member, Option.some.injEq] at found
  exact found ▸ member

theorem get?_of_eraseWhere {map : OrderedMap κ ν} {remove : κ → Bool} {key : κ} {value : ν}
    (found : (map.eraseWhere remove).get? key = some value) :
    map.get? key = some value ∧ remove key = false := by
  rw [get?_eraseWhere] at found
  cases selected : remove key with
  | true => rw [selected] at found; cases found
  | false => rw [selected] at found; exact ⟨found, rfl⟩

theorem get?_erase (map : OrderedMap κ ν) (key other : κ) :
    (map.erase key).get? other = if other = key then none else map.get? other := by
  rw [erase, get?_eraseWhere]
  simp

/-- Every binding of the first map is one of the second. -/
def Within (map larger : OrderedMap κ ν) : Prop :=
  ∀ key value, map.get? key = some value → larger.get? key = some value

theorem within_refl (map : OrderedMap κ ν) : map.Within map := fun _ _ found => found

theorem eraseWhere_within (map : OrderedMap κ ν) (remove : κ → Bool) :
    (map.eraseWhere remove).Within map :=
  fun _ _ found => (get?_of_eraseWhere found).1

theorem erase_within (map : OrderedMap κ ν) (key : κ) : (map.erase key).Within map :=
  map.eraseWhere_within _

end OrderedMap

end Data
