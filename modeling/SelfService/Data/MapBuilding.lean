/-
Maps that are filled item by item.

An item overwrites what an earlier one has left under its key.
-/

import Mathlib.Data.List.Induction
import SelfService.Data.OrderedMap

namespace Data

namespace OrderedMap

variable {α κ ν : Type} [DecidableEq κ] (key : α → κ) (value : α → ν)

def ofItems (items : List α) : OrderedMap κ ν :=
  items.foldl (fun map item => map.set (key item) (value item)) .empty

/-- Under a key stands the value of the last item that has it. -/
theorem get?_ofItems (items : List α) (wanted : κ) :
    (ofItems key value items).get? wanted =
      (items.filter fun item => key item = wanted).getLast?.map value := by
  induction items using List.reverseRecOn with
  | nil => rfl
  | append_singleton items item ih =>
      have last : ofItems key value (items ++ [item]) =
          (ofItems key value items).set (key item) (value item) := List.foldl_concat ..
      rw [last, get?_set, List.filter_append, ih]
      by_cases same : key item = wanted
      · simp [same]
      · simp [same]

/-- Where no key occurs twice, its entries are the items, in their order. -/
theorem entries_ofItems (items : List α) (distinct : (items.map key).Nodup) :
    (ofItems key value items).entries = items.map fun item => (key item, value item) := by
  induction items using List.reverseRecOn with
  | nil => rfl
  | append_singleton items item ih =>
      rw [List.map_append, List.nodup_append] at distinct
      obtain ⟨earlier, _, apart⟩ := distinct
      have last : ofItems key value (items ++ [item]) =
          (ofItems key value items).set (key item) (value item) := List.foldl_concat ..
      have absent : key item ∉ (ofItems key value items).keys := by
        rw [keys, ih earlier, List.map_map]
        intro member
        exact apart _ member _ (List.mem_map_of_mem (List.mem_singleton_self item)) rfl
      rw [last, entries_set_of_notMem _ absent, ih earlier, List.map_append]
      rfl

end OrderedMap

end Data
