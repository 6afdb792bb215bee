/-
A queue that is worked off in batches.

Every round takes the items at the front of the queue.  Those that are accepted leave; those
that are refused keep their places, and are taken again in the next round.
-/

import Mathlib.Data.List.Nodup
import Mathlib.Data.List.TakeWhile
import Mathlib.Logic.Function.Iterate

namespace Data

namespace Batches

section Rounds

variable {α : Type} (size : Nat) (accepts : α → Bool)

/-- The queue after one round. -/
def advance (queue : List α) : List α :=
  (queue.take size).filter (fun item => !accepts item) ++ queue.drop size

/-- How many items of a list are refused. -/
def refusals (items : List α) : Nat := items.countP fun item => !accepts item

variable {size accepts}

theorem advance_sublist (queue : List α) : (advance size accepts queue).Sublist queue := by
  have taken := List.filter_sublist (l := queue.take size) (p := fun item => !accepts item)
  have joined := taken.append (List.Sublist.refl (queue.drop size))
  rwa [List.take_append_drop] at joined

/-- Items behind a whole batch are not reached. -/
theorem advance_append {front : List α} (full : size ≤ front.length) (back : List α) :
    advance size accepts (front ++ back) = advance size accepts front ++ back := by
  unfold advance
  rw [List.take_append_of_le_length full, List.drop_append_of_le_length full, List.append_assoc]

theorem refusals_advance (queue : List α) :
    refusals accepts (advance size accepts queue) = refusals accepts queue := by
  unfold refusals advance
  rw [List.countP_append, List.countP_filter]
  simp only [Bool.and_self]
  rw [← List.countP_append, List.take_append_drop]

/-- A round in which something was accepted makes the queue shorter. -/
theorem length_advance_lt {queue : List α} (full : size ≤ queue.length)
    (few : refusals accepts queue < size) :
    (advance size accepts queue).length < queue.length := by
  have part : refusals accepts (queue.take size) ≤ refusals accepts queue :=
    (List.take_sublist size queue).countP_le
  have kept : ((queue.take size).filter fun item => !accepts item).length =
      refusals accepts (queue.take size) := List.countP_eq_length_filter.symm
  unfold advance
  rw [List.length_append, List.length_drop, kept]
  omega

theorem not_mem_iterate {item : α} (rounds : Nat) {queue : List α} (gone : item ∉ queue) :
    item ∉ (advance size accepts)^[rounds] queue := by
  induction rounds generalizing queue with
  | zero => exact gone
  | succ rounds ih =>
      rw [Function.iterate_succ_apply]
      exact ih fun present => gone ((advance_sublist queue).subset present)

/-- An item that is reached and accepted leaves. -/
theorem not_mem_advance {item : α} {front back : List α} (reached : front.length < size)
    (accepted : accepts item = true) (unseen : item ∉ front) (later : item ∉ back) :
    item ∉ advance size accepts (front ++ item :: back) := by
  intro present
  rcases List.mem_append.mp present with refused | behind
  · have kept := (List.mem_filter.mp refused).2
    rw [accepted] at kept
    cases kept
  · obtain ⟨skipped, split⟩ : ∃ skipped, size = front.length + (skipped + 1) :=
      ⟨size - front.length - 1, by omega⟩
    rw [split, List.drop_append, Nat.add_sub_cancel_left, List.drop_succ_cons] at behind
    rcases List.mem_append.mp behind with before | after
    · exact unseen (List.mem_of_mem_drop before)
    · exact later (List.mem_of_mem_drop after)

/-- The refusals ahead of the item fill no batch, so that every round before its own makes
the queue ahead of it shorter. -/
theorem leaves {item : α} {back : List α} (accepted : accepts item = true)
    (later : item ∉ back) (rounds : Nat) {front : List α} (unseen : item ∉ front)
    (few : refusals accepts front < size) (enough : front.length < rounds) :
    item ∉ (advance size accepts)^[rounds] (front ++ item :: back) := by
  induction rounds generalizing front with
  | zero => omega
  | succ rounds ih =>
      rw [Function.iterate_succ_apply]
      by_cases reached : front.length < size
      · exact not_mem_iterate rounds (not_mem_advance reached accepted unseen later)
      · have full : size ≤ front.length := Nat.le_of_not_lt reached
        have shorter := length_advance_lt full few
        rw [advance_append full]
        apply ih
        · exact fun present => unseen ((advance_sublist front).subset present)
        · rw [refusals_advance]
          exact few
        · omega

/-- Refusals that fill a batch keep everything behind them waiting. -/
theorem waits {item : α} {back : List α} (rounds : Nat) {front : List α}
    (many : size ≤ refusals accepts front) :
    item ∈ (advance size accepts)^[rounds] (front ++ item :: back) := by
  induction rounds generalizing front with
  | zero => exact List.mem_append_right front List.mem_cons_self
  | succ rounds ih =>
      have full : size ≤ front.length := Nat.le_trans many List.countP_le_length
      rw [Function.iterate_succ_apply, advance_append full]
      apply ih
      rw [refusals_advance]
      exact many

end Rounds

section Ahead

variable {α : Type} [DecidableEq α]

/-- The items ahead of this one. -/
def ahead (item : α) (queue : List α) : List α :=
  queue.takeWhile fun other => other ≠ item

theorem not_mem_ahead (item : α) (queue : List α) : item ∉ ahead item queue := by
  intro present
  have apart := List.mem_takeWhile_imp present
  simp at apart

theorem exists_behind {item : α} {queue : List α} (present : item ∈ queue) :
    ∃ back, queue = ahead item queue ++ item :: back := by
  induction queue with
  | nil => cases present
  | cons first rest ih =>
      by_cases same : first = item
      · refine ⟨rest, ?_⟩
        simp [ahead, same]
      · obtain ⟨back, split⟩ := ih ((List.mem_cons.mp present).resolve_left (Ne.symm same))
        refine ⟨back, ?_⟩
        have taken : ahead item (first :: rest) = first :: ahead item rest :=
          List.takeWhile_cons_of_pos (by simpa using same)
        rw [taken, List.cons_append, ← split]

/-- After as many rounds as there are items, an accepted item has left if and only if the
refusals ahead of it do not fill a batch. -/
theorem left_iff {size : Nat} {accepts : α → Bool} {item : α} {queue : List α}
    (distinct : queue.Nodup) (present : item ∈ queue) (accepted : accepts item = true)
    {rounds : Nat} (enough : queue.length ≤ rounds) :
    item ∉ (advance size accepts)^[rounds] queue ↔
      refusals accepts (ahead item queue) < size := by
  obtain ⟨back, split⟩ := exists_behind present
  have later : item ∉ back := by
    rw [split] at distinct
    exact (List.nodup_cons.mp (List.nodup_append.mp distinct).2.1).1
  have counted : queue.length = (ahead item queue).length + (back.length + 1) := by
    have lengths := congrArg List.length split
    rwa [List.length_append, List.length_cons] at lengths
  constructor
  · intro gone
    by_contra many
    apply gone
    have waiting := @waits α size accepts item back rounds _ (Nat.le_of_not_lt many)
    rwa [← split] at waiting
  · intro few
    have gone := leaves accepted later rounds (not_mem_ahead item queue) few (by omega)
    rwa [← split] at gone

end Ahead

end Batches

end Data
