/-
A task that runs without interference.

`runAlone` lets every request be answered at once by a given rule.  What it
computes is what a pool does when nobody else is scheduled meanwhile, so a
property of sequential use can be stated without a schedule.
-/

import SelfService.EventLoop.Pool

namespace EventLoop

variable {S : Signature} {ρ Ext : Type} {α β : Type}

/-- How the environment answers a request. -/
abbrev Answering (S : Signature) := S.State → (request : S.Req) → S.Ans request

/-- The outcome of a task and the memory it leaves; forked tasks have not run yet.
`none` means that an answer was ruled out. -/
def runAlone (sys : System S ρ Ext) (answers : Answering S) :
    Task S α → S.State → Option (Except S.Err α × S.State)
  | .done value, state => some (.ok value, state)
  | .fail error, state => some (.error error, state)
  | .sync update next, state => runAlone sys answers (next state) (update state)
  | .mark _ next, state => runAlone sys answers next state
  | .fork _ next, state => runAlone sys answers next state
  | .await request next, state =>
      (sys.perform state request (answers state request)).bind fun after =>
        runAlone sys answers (next (answers state request)) after

section Rules

variable (sys : System S ρ Ext) (answers : Answering S)

theorem runAlone_bind (task : Task S α) (rest : α → Task S β) (state : S.State) :
    runAlone sys answers (task >>= rest) state =
      (runAlone sys answers task state).bind fun ended =>
        match ended.1 with
        | .ok value => runAlone sys answers (rest value) ended.2
        | .error error => some (.error error, ended.2) := by
  induction task generalizing state with
  | done value => rfl
  | fail error => rfl
  | sync update next ih => exact ih state (update state)
  | mark label next ih => exact ih state
  | fork call next ih => exact ih state
  | await request next ih =>
      change ((sys.perform state request (answers state request)).bind fun after => _) =
        ((sys.perform state request (answers state request)).bind fun after => _).bind _
      rw [Option.bind_assoc]
      congr 1
      funext after
      exact ih (answers state request) after

theorem runAlone_attempt (task : Task S α) (state : S.State) :
    runAlone sys answers task.attempt state =
      (runAlone sys answers task state).map fun ended => (.ok ended.1, ended.2) := by
  induction task generalizing state with
  | done value => rfl
  | fail error => rfl
  | sync update next ih => exact ih state (update state)
  | mark label next ih => exact ih state
  | fork call next ih => exact ih state
  | await request next ih =>
      change ((sys.perform state request (answers state request)).bind fun after => _) =
        ((sys.perform state request (answers state request)).bind fun after => _).map _
      rw [Option.map_bind]
      congr 1
      funext after
      exact ih (answers state request) after

theorem runAlone_read (rest : S.State → Task S β) (state : S.State) :
    runAlone sys answers (Task.read >>= rest) state =
      runAlone sys answers (rest state) state := rfl

/-- An answer that is known, and what it leaves. -/
theorem runAlone_await {request : S.Req} {next : S.Ans request → Task S β} {state after : S.State}
    {answer : S.Ans request} (answered : answers state request = answer)
    (performed : sys.perform state request answer = some after) :
    runAlone sys answers (.await request next) state =
      runAlone sys answers (next answer) after := by
  subst answered
  simp only [runAlone, performed, Option.bind_some]

theorem runAlone_modify (update : S.State → S.State) (rest : Unit → Task S β) (state : S.State) :
    runAlone sys answers (Task.modify update >>= rest) state =
      runAlone sys answers (rest ()) (update state) := rfl

theorem runAlone_note (label : S.Mark) (rest : Unit → Task S β) (state : S.State) :
    runAlone sys answers (Task.note label >>= rest) state =
      runAlone sys answers (rest ()) state := rfl

end Rules

/-! ### In a pool -/

section Pools

variable {sys : System S ρ Ext} {p : Pool S ρ} {tid : Nat} {call : S.Call}

theorem getElem?_set_running {task : Task S ρ}
    (found : p.threads[tid]? = some (.running call task)) (next : Task S ρ) :
    (p.threads.set tid (.running call next))[tid]? = some (.running call next) :=
  List.getElem?_set_self (List.getElem?_eq_some_iff.mp found).1

variable [DecidableEq S.Req]

/-- Where the resumed task stands after its segment, with its forks appended. -/
theorem Pool.step_resume {task : Task S ρ}
    (found : p.threads[tid]? = some (.running call task)) :
    p.step sys (.resume tid) =
      let segment := settle sys tid p.threads.length task p.snapshot
      let parked := park sys tid call segment.1 segment.2.2
      some
        { snapshot := parked.1
          threads := p.threads.set tid parked.2 ++
            segment.2.1.map fun forked => .running forked (sys.body forked) } := by
  simp only [Pool.step, found]

/-- Resuming a task that already waits changes nothing. -/
theorem Pool.step_resume_await {request : S.Req} {next : S.Ans request → Task S ρ}
    (found : p.threads[tid]? = some (.running call (.await request next))) :
    p.step sys (.resume tid) = some p := by
  obtain ⟨own, at_⟩ := List.getElem?_eq_some_iff.mp found
  rw [Pool.step_resume found]
  simp only [settle, park, List.map_nil, List.append_nil]
  rw [← at_, List.set_getElem_self own]

theorem Pool.step_answer {request : S.Req} {next : S.Ans request → Task S ρ}
    {answer : S.Ans request} {after : S.State}
    (found : p.threads[tid]? = some (.running call (.await request next)))
    (performed : sys.perform p.snapshot.state request answer = some after) :
    p.step sys (.answer tid request answer) = some
      { snapshot := (⟨after, p.snapshot.trace⟩ : Snapshot S ρ).log sys tid
          (.answered request answer)
        threads := p.threads.set tid (.running call (next answer)) } := by
  simp only [Pool.step, found, deliver, dif_pos, performed, Option.map_some]

/-- A task alone is a pool in which only this task is scheduled. -/
theorem run_of_runAlone {answers : Answering S} (task : Task S ρ) :
    ∀ {p : Pool S ρ} {out : Except S.Err ρ} {final : S.State},
      p.threads[tid]? = some (.running call task) →
      runAlone sys answers task p.snapshot.state = some (out, final) →
      ∃ rest q, p.run sys (.resume tid :: rest) = some q ∧ q.snapshot.state = final ∧
        ⟨tid, sys.clock final, .finished call out⟩ ∈ q.snapshot.trace := by
  induction task with
  | done value =>
      intro p out final found ran
      cases ran
      refine ⟨[], ⟨p.snapshot.log sys tid (.finished call (.ok value)),
        p.threads.set tid .finished⟩, ?_, rfl, ?_⟩
      · rw [Pool.run, Pool.step_resume found]
        simp only [settle, park, List.map_nil, List.append_nil, Option.bind_some, Pool.run]
      · exact List.mem_append_right _ (List.mem_singleton.mpr rfl)
  | fail error =>
      intro p out final found ran
      cases ran
      refine ⟨[], ⟨p.snapshot.log sys tid (.finished call (.error error)),
        p.threads.set tid .finished⟩, ?_, rfl, ?_⟩
      · rw [Pool.run, Pool.step_resume found]
        simp only [settle, park, List.map_nil, List.append_nil, Option.bind_some, Pool.run]
      · exact List.mem_append_right _ (List.mem_singleton.mpr rfl)
  | sync update next ih =>
      intro p out final found ran
      have moved := getElem?_set_running found (next p.snapshot.state)
      obtain ⟨rest, q, run, ended⟩ := @ih p.snapshot.state
        ⟨⟨update p.snapshot.state, p.snapshot.trace⟩,
          p.threads.set tid (.running call (next p.snapshot.state))⟩ out final moved ran
      refine ⟨rest, q, ?_, ended⟩
      rw [← run, Pool.run, Pool.run, Pool.step_resume found, Pool.step_resume moved]
      simp only [settle, List.length_set, List.set_set]
  | mark label next ih =>
      intro p out final found ran
      have moved := getElem?_set_running found next
      obtain ⟨rest, q, run, ended⟩ := @ih
        ⟨p.snapshot.log sys tid (.marked label), p.threads.set tid (.running call next)⟩
        out final moved ran
      refine ⟨rest, q, ?_, ended⟩
      rw [← run, Pool.run, Pool.run, Pool.step_resume found, Pool.step_resume moved]
      simp only [settle, List.length_set, List.set_set]
  | fork forked next ih =>
      intro p out final found ran
      have own : tid < p.threads.length := (List.getElem?_eq_some_iff.mp found).1
      have moved : (p.threads.set tid (.running call next) ++
          [.running forked (sys.body forked)])[tid]? = some (.running call next) := by
        rw [List.getElem?_append_left (by simpa using own)]
        exact getElem?_set_running found next
      obtain ⟨rest, q, run, ended⟩ := @ih
        ⟨p.snapshot.log sys p.threads.length (.started forked),
          p.threads.set tid (.running call next) ++ [.running forked (sys.body forked)]⟩
        out final moved ran
      refine ⟨rest, q, ?_, ended⟩
      rw [← run, Pool.run, Pool.run, Pool.step_resume found, Pool.step_resume moved]
      simp [settle, own]
  | await request next ih =>
      intro p out final found ran
      obtain ⟨after, performed, ran⟩ := Option.bind_eq_some_iff.mp ran
      have moved := getElem?_set_running found (next (answers p.snapshot.state request))
      obtain ⟨rest, q, run, ended⟩ := @ih (answers p.snapshot.state request)
        ⟨(⟨after, p.snapshot.trace⟩ : Snapshot S ρ).log sys tid
            (.answered request (answers p.snapshot.state request)),
          p.threads.set tid (.running call (next (answers p.snapshot.state request)))⟩
        out final moved ran
      refine ⟨.answer tid request (answers p.snapshot.state request) :: .resume tid :: rest, q,
        ?_, ended⟩
      rw [← run, Pool.run, Pool.step_resume_await found]
      change p.run sys (.answer tid request _ :: .resume tid :: rest) = _
      rw [Pool.run, Pool.step_answer found performed]
      rfl

end Pools

end EventLoop
