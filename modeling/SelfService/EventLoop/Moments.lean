/-
The moment of an answer.

An answer adds one entry to the trace, so a trace that is split at an answer
shows the pool to which it was told: what came before is all it had on its trace.
-/

import SelfService.EventLoop.Leaving

namespace EventLoop

variable {S : Signature} {ρ Ext : Type} {sys : System S ρ Ext} [DecidableEq S.Req]
  {p next : Pool S ρ} {tid time : Nat} {request : S.Req} {answer : S.Ans request}

/-- A pool that had these entries on its trace when it got the answer. -/
def AnsweredIn (sys : System S ρ Ext) (start : S.State) (before : Trace S ρ) (time : Nat)
    (request : S.Req) (answer : S.Ans request) : Prop :=
  ∃ (q : Pool S ρ) (state : S.State), Reachable sys start q ∧ q.snapshot.trace = before ∧
    sys.perform q.snapshot.state request answer = some state ∧ time = sys.clock state

/-- The step that leaves an answer leaves nothing else. -/
theorem Pool.answer_of_left {action : Action S Ext} (stepped : p.step sys action = some next)
    {more late : Trace S ρ} (left : next.snapshot.trace =
      p.snapshot.trace ++ more ++ ⟨tid, time, .answered request answer⟩ :: late) :
    more = [] ∧ ∃ state, sys.perform p.snapshot.state request answer = some state ∧
      time = sys.clock state := by
  by_cases answers : ∃ tid request answer, action = .answer tid request answer
  · obtain ⟨told, asked, given, rfl⟩ := answers
    simp only [Pool.step] at stepped
    split at stepped
    · obtain ⟨delivered, served, rfl⟩ := Option.map_eq_some_iff.mp stepped
      obtain ⟨state, performed, logged⟩ := delivered_log served
      change delivered.1.trace = _ at left
      rw [logged, Snapshot.log_trace, List.append_assoc] at left
      have alone := List.append_cancel_left left
      cases more with
      | nil =>
          obtain ⟨same, -⟩ := List.cons.inj alone
          cases same
          exact ⟨rfl, state, performed, rfl⟩
      | cons head rest =>
          have lengths := congrArg List.length alone
          simp only [List.length_append, List.length_cons, List.length_nil] at lengths
          omega
    · cases stepped
  · have unanswered (tid : Nat) (request : S.Req) (answer : S.Ans request) :
        action ≠ .answer tid request answer :=
      fun same => answers ⟨tid, request, answer, same⟩
    obtain ⟨added, grown, silent⟩ := Pool.silent_step stepped unanswered
    rw [grown, List.append_assoc] at left
    have same := List.append_cancel_left left
    exact absurd rfl (silent ⟨tid, time, .answered request answer⟩ (by simp [same]) request answer)

theorem Reachable.answered_in {start : S.State} (reached : Reachable sys start p)
    {before after : Trace S ρ}
    (split : p.snapshot.trace = before ++ ⟨tid, time, .answered request answer⟩ :: after) :
    AnsweredIn sys start before time request answer := by
  obtain ⟨schedule, ran⟩ := reached
  have run (schedule : List (Action S Ext)) : ∀ {q : Pool S ρ} {more : Trace S ρ},
      Reachable sys start q → before = q.snapshot.trace ++ more → q.run sys schedule = some p →
        AnsweredIn sys start before time request answer := by
    induction schedule with
    | nil =>
        intro q more reached past ran
        cases ran
        rw [past] at split
        have lengths := congrArg List.length split
        simp only [List.length_append, List.length_cons] at lengths
        omega
    | cons action rest ih =>
        intro q more reached past ran
        obtain ⟨later, stepped, remaining⟩ := Option.bind_eq_some_iff.mp ran
        obtain ⟨rest, whole⟩ := Pool.run_grown _ remaining
        rw [split] at whole
        by_cases early : later.snapshot.trace.length ≤ before.length
        · obtain ⟨more, same⟩ := List.prefix_of_prefix_length_le ⟨rest, whole⟩
            (List.prefix_append before _) early
          exact ih (reached.step stepped) same.symm remaining
        · -- the entry is one that this step left
          have here : before ++ [⟨tid, time, .answered request answer⟩] <+:
              later.snapshot.trace ++ rest := ⟨after, by rw [whole]; simp⟩
          have longer : (before ++ [(⟨tid, time, .answered request answer⟩ : Entry S ρ)]).length ≤
              later.snapshot.trace.length := by
            simp only [List.length_append, List.length_singleton]
            omega
          obtain ⟨late, same⟩ :=
            List.prefix_of_prefix_length_le here (List.prefix_append _ rest) longer
          rw [past, List.append_assoc, List.singleton_append] at same
          obtain ⟨rfl, state, performed, moment⟩ := Pool.answer_of_left stepped same.symm
          exact ⟨q, state, reached, by rw [past, List.append_nil], performed, moment⟩
  exact run schedule ⟨[], rfl⟩ (List.nil_append before).symm ran

end EventLoop
