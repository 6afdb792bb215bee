/-
Tasks that run alone and resolve.

`Returns` says of a task that nobody disturbs that it ends with a value, and
what then holds.  Its rules follow the sequencing of tasks.
-/

import SelfService.EventLoop.Alone

namespace EventLoop

variable {S : Signature} {ρ Ext : Type} {α β : Type}

/-- If the task ends, then with a value, and the value and the memory satisfy `post`. -/
def Returns (sys : System S ρ Ext) (answers : Answering S) (task : Task S α) (state : S.State)
    (post : α → S.State → Prop) : Prop :=
  ∀ out after, runAlone sys answers task state = some (out, after) →
    ∃ value, out = .ok value ∧ post value after

namespace Returns

variable {sys : System S ρ Ext} {answers : Answering S} {state : S.State}
  {post : α → S.State → Prop}

theorem done {value : α} (holds : post value state) :
    Returns sys answers (.done value) state post := by
  intro out after ran
  cases ran
  exact ⟨value, rfl, holds⟩

theorem mono {task : Task S α} {weaker : α → S.State → Prop}
    (returns : Returns sys answers task state post)
    (implies : ∀ value after, post value after → weaker value after) :
    Returns sys answers task state weaker := by
  intro out after ran
  obtain ⟨value, ended, holds⟩ := returns out after ran
  exact ⟨value, ended, implies value after holds⟩

theorem bind {task : Task S α} {rest : α → Task S β} {final : β → S.State → Prop}
    (first : Returns sys answers task state post)
    (second : ∀ value middle, post value middle →
      Returns sys answers (rest value) middle final) :
    Returns sys answers (task >>= rest) state final := by
  intro out after ran
  rw [runAlone_bind] at ran
  obtain ⟨⟨ended, middle⟩, firstRan, secondRan⟩ := Option.bind_eq_some_iff.mp ran
  obtain ⟨value, rfl, holds⟩ := first ended middle firstRan
  exact second value middle holds out after secondRan

theorem read {rest : S.State → Task S β} {final : β → S.State → Prop}
    (later : Returns sys answers (rest state) state final) :
    Returns sys answers (Task.read >>= rest) state final := later

theorem note {label : S.Mark} {rest : Unit → Task S β} {final : β → S.State → Prop}
    (later : Returns sys answers (rest ()) state final) :
    Returns sys answers (Task.note label >>= rest) state final := later

/-- Whatever the answer is, the task goes on from what it left. -/
theorem await {request : S.Req} {next : S.Ans request → Task S α}
    (goesOn : ∀ answer after, sys.perform state request answer = some after →
      Returns sys answers (next answer) after post) :
    Returns sys answers (.await request next) state post := by
  intro out after ran
  obtain ⟨middle, performed, later⟩ := Option.bind_eq_some_iff.mp ran
  exact goesOn _ middle performed out after later

theorem attempt {task : Task S α} :
    Returns sys answers task.attempt state fun result after =>
      runAlone sys answers task state = some (result, after) := by
  intro out after ran
  rw [runAlone_attempt] at ran
  obtain ⟨⟨result, last⟩, first, same⟩ := Option.map_eq_some_iff.mp ran
  cases same
  exact ⟨result, rfl, first⟩

/-- The first part of a run, and the run of the rest. -/
theorem peel {task : Task S α} {rest : α → Task S β} {out : Except S.Err β} {after : S.State}
    (first : Returns sys answers task state post)
    (ran : runAlone sys answers (task >>= rest) state = some (out, after)) :
    ∃ value middle, runAlone sys answers task state = some (.ok value, middle) ∧
      post value middle ∧ runAlone sys answers (rest value) middle = some (out, after) := by
  rw [runAlone_bind] at ran
  obtain ⟨⟨ended, middle⟩, firstRan, secondRan⟩ := Option.bind_eq_some_iff.mp ran
  obtain ⟨value, rfl, holds⟩ := first ended middle firstRan
  exact ⟨value, middle, firstRan, holds, secondRan⟩

end Returns

/-- A run ends in its first part, with an error, or in the rest. -/
theorem runAlone_peel {sys : System S ρ Ext} {answers : Answering S} {task : Task S α}
    {rest : α → Task S β} {state after : S.State} {out : Except S.Err β}
    (ran : runAlone sys answers (task >>= rest) state = some (out, after)) :
    (∃ error, runAlone sys answers task state = some (.error error, after) ∧
        out = .error error) ∨
      ∃ value middle, runAlone sys answers task state = some (.ok value, middle) ∧
        runAlone sys answers (rest value) middle = some (out, after) := by
  rw [runAlone_bind] at ran
  obtain ⟨⟨ended, middle⟩, firstRan, secondRan⟩ := Option.bind_eq_some_iff.mp ran
  cases ended with
  | error error =>
      cases secondRan
      exact Or.inl ⟨error, firstRan, rfl⟩
  | ok value => exact Or.inr ⟨value, middle, firstRan, secondRan⟩

end EventLoop
