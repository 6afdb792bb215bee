/-
Steps that leave a part of the memory alone.

Where no task updates a part of the memory between its await points, that part
changes by an answer or by an act of the environment only.  Between them the trace
gets no answers either.
-/

import SelfService.EventLoop.Play
import SelfService.EventLoop.Turns

namespace EventLoop

variable {S : Signature} {ρ Ext α γ : Type} {sys : System S ρ Ext} {part : S.State → γ}

/-- What is left of a segment leaves alone what the segment left alone. -/
theorem Task.Leaves.settle {task : Task S α} (leaves : task.Leaves part)
    (sys : System S ρ Ext) (tid fresh : Nat) (s : Snapshot S ρ) :
    (settle sys tid fresh task s).2.2.Leaves part ∧
      part (EventLoop.settle sys tid fresh task s).1.state = part s.state := by
  induction task generalizing fresh s with
  | done value => exact ⟨trivial, rfl⟩
  | fail error => exact ⟨trivial, rfl⟩
  | sync update next ih =>
      obtain ⟨rest, same⟩ := ih s.state (leaves.2 s.state) fresh { s with state := update s.state }
      exact ⟨rest, same.trans (leaves.1 s.state)⟩
  | mark label next ih => exact ih leaves fresh _
  | fork call next ih => exact ih leaves (fresh + 1) _
  | await request next ih => exact ⟨leaves, rfl⟩

theorem Task.Leaves.park {task : Task S ρ} (leaves : task.Leaves part)
    (sys : System S ρ Ext) (tid : Nat) (call : S.Call) (s : Snapshot S ρ) :
    (∀ parked rest, (park sys tid call s task).2 = .running parked rest → rest.Leaves part) ∧
      (EventLoop.park sys tid call s task).1.state = s.state := by
  cases task with
  | done value => exact ⟨nofun, rfl⟩
  | fail error => exact ⟨nofun, rfl⟩
  | sync update next => exact ⟨fun _ _ parked => by cases parked; exact leaves, rfl⟩
  | mark label next => exact ⟨fun _ _ parked => by cases parked; exact leaves, rfl⟩
  | fork forked next => exact ⟨fun _ _ parked => by cases parked; exact leaves, rfl⟩
  | await request next => exact ⟨fun _ _ parked => by cases parked; exact leaves, rfl⟩

/-! ### Segments hear no answers -/

/-- What came on top of the trace are no answers. -/
def AddsNoAnswer (early late : Trace S ρ) : Prop :=
  ∃ added, late = early ++ added ∧ ∀ entry ∈ added, ∀ request answer,
    entry.event ≠ .answered request answer

theorem AddsNoAnswer.refl (trace : Trace S ρ) : AddsNoAnswer trace trace :=
  ⟨[], (List.append_nil trace).symm, nofun⟩

theorem AddsNoAnswer.trans {early middle late : Trace S ρ} (first : AddsNoAnswer early middle)
    (second : AddsNoAnswer middle late) : AddsNoAnswer early late := by
  obtain ⟨added, rfl, unanswered⟩ := first
  obtain ⟨more, rfl, later⟩ := second
  refine ⟨added ++ more, List.append_assoc .., ?_⟩
  intro entry member
  rcases List.mem_append.mp member with old | new
  · exact unanswered entry old
  · exact later entry new

theorem silent_log (sys : System S ρ Ext) (s : Snapshot S ρ) (tid : Nat) (event : Event S ρ)
    (unanswered : ∀ request answer, event ≠ .answered request answer) :
    AddsNoAnswer s.trace (s.log sys tid event).trace := by
  refine ⟨[_], rfl, ?_⟩
  intro entry member
  rw [List.mem_singleton.mp member]
  exact unanswered

theorem settle_silent (sys : System S ρ Ext) (tid : Nat) (task : Task S α) (fresh : Nat)
    (s : Snapshot S ρ) : AddsNoAnswer s.trace (settle sys tid fresh task s).1.trace := by
  induction task generalizing fresh s with
  | done value => exact .refl s.trace
  | fail error => exact .refl s.trace
  | sync update next ih => exact ih s.state fresh { s with state := update s.state }
  | mark label next ih =>
      have told := silent_log sys s tid (.marked label) fun _ _ same => by cases same
      exact told.trans (ih fresh _)
  | fork call next ih =>
      have told := silent_log sys s fresh (.started call) fun _ _ same => by cases same
      exact told.trans (ih (fresh + 1) _)
  | await request next ih => exact .refl s.trace

theorem park_silent (sys : System S ρ Ext) (tid : Nat) (call : S.Call) (s : Snapshot S ρ)
    (task : Task S ρ) : AddsNoAnswer s.trace (park sys tid call s task).1.trace := by
  cases task with
  | done value => exact silent_log sys s tid _ fun _ _ same => by cases same
  | fail error => exact silent_log sys s tid _ fun _ _ same => by cases same
  | sync update next => exact .refl s.trace
  | mark label next => exact .refl s.trace
  | fork forked next => exact .refl s.trace
  | await request next => exact .refl s.trace

/-! ### Steps -/

/-- Every task in flight leaves the part alone. -/
def Pool.Leaves (part : S.State → γ) (p : Pool S ρ) : Prop :=
  ∀ thread ∈ p.threads, ∀ call task, thread = .running call task → task.Leaves part

variable [DecidableEq S.Req] {p next : Pool S ρ} {action : Action S Ext}

/-- An action keeps the part, unless it is an answer or an act of the environment. -/
theorem Pool.Leaves.step (bodies : ∀ call, (sys.body call).Leaves part) (leaves : p.Leaves part)
    (stepped : p.step sys action = some next) :
    next.Leaves part ∧
      match action with
      | .call _ | .resume _ => part next.snapshot.state = part p.snapshot.state
      | .answer tid request answer =>
          ∃ state, sys.perform p.snapshot.state request answer = some state ∧
            next.snapshot = (⟨state, p.snapshot.trace⟩ : Snapshot S ρ).log sys tid
              (.answered request answer)
      | .external event => sys.external p.snapshot.state event = some next.snapshot.state := by
  cases action with
  | call call =>
      cases stepped
      refine ⟨?_, rfl⟩
      intro thread member running task same
      rcases List.mem_append.mp member with old | new
      · exact leaves thread old running task same
      · rw [List.mem_singleton.mp new] at same
        cases same
        exact bodies call
  | resume tid =>
      simp only [Pool.step] at stepped
      split at stepped
      · rename_i call task found
        cases stepped
        have left := leaves _ (List.mem_of_getElem? found) call task rfl
        obtain ⟨rest, same⟩ := left.settle sys tid p.threads.length p.snapshot
        obtain ⟨parked, kept⟩ := rest.park sys tid call
          (settle sys tid p.threads.length task p.snapshot).1
        refine ⟨?_, (congrArg part kept).trans same⟩
        intro thread member running task same
        rcases List.mem_append.mp member with old | new
        · rcases List.mem_or_eq_of_mem_set old with other | mine
          · exact leaves thread other running task same
          · exact parked running task (mine ▸ same)
        · obtain ⟨forked, -, rfl⟩ := List.mem_map.mp new
          cases same
          exact bodies _
      · cases stepped
  | answer tid request answer =>
      simp only [Pool.step] at stepped
      split at stepped
      · rename_i call task found
        obtain ⟨delivered, told, rfl⟩ := Option.map_eq_some_iff.mp stepped
        have left := leaves _ (List.mem_of_getElem? found) call task rfl
        cases task with
        | await awaited next =>
            simp only [deliver] at told
            split at told
            · rename_i same
              subst same
              obtain ⟨state, performed, rfl⟩ := Option.map_eq_some_iff.mp told
              refine ⟨?_, state, performed, rfl⟩
              intro thread member running task same
              rcases List.mem_or_eq_of_mem_set member with other | mine
              · exact leaves thread other running task same
              · rw [mine] at same
                cases same
                exact left answer
            · cases told
        | done value => cases told
        | fail error => cases told
        | sync update next => cases told
        | mark label next => cases told
        | fork forked next => cases told
      · cases stepped
  | external event =>
      obtain ⟨state, moved, rfl⟩ := Option.map_eq_some_iff.mp stepped
      exact ⟨leaves, moved⟩

theorem Reachable.leaves (bodies : ∀ call, (sys.body call).Leaves part) {state : S.State}
    (reached : Reachable sys state p) : p.Leaves part := by
  obtain ⟨schedule, ran⟩ := reached
  have run (schedule : List (Action S Ext)) :
      ∀ {p final : Pool S ρ}, p.Leaves part → p.run sys schedule = some final →
        final.Leaves part := by
    induction schedule with
    | nil =>
        intro p final leaves ran
        cases ran
        exact leaves
    | cons action rest ih =>
        intro p final leaves ran
        obtain ⟨next, stepped, remaining⟩ := Option.bind_eq_some_iff.mp ran
        exact ih (leaves.step bodies stepped).1 remaining
  exact run schedule (by simp [Pool.Leaves, Pool.initial]) ran

/-- Calls and segments add no answers. -/
theorem Pool.silent_step (stepped : p.step sys action = some next)
    (unanswered : ∀ tid request answer, action ≠ .answer tid request answer) :
    AddsNoAnswer p.snapshot.trace next.snapshot.trace := by
  cases action with
  | call call =>
      cases stepped
      exact silent_log sys p.snapshot _ _ fun _ _ same => by cases same
  | resume tid =>
      simp only [Pool.step] at stepped
      split at stepped
      · cases stepped
        exact (settle_silent sys tid _ _ _).trans (park_silent sys tid _ _ _)
      · cases stepped
  | answer tid request answer => exact absurd rfl (unanswered tid request answer)
  | external event =>
      obtain ⟨state, -, rfl⟩ := Option.map_eq_some_iff.mp stepped
      exact .refl _

/-- The trace only grows. -/
theorem Pool.step_grown (stepped : p.step sys action = some next) :
    p.snapshot.trace <+: next.snapshot.trace := by
  by_cases answers : ∃ tid request answer, action = .answer tid request answer
  · obtain ⟨tid, request, answer, rfl⟩ := answers
    simp only [Pool.step] at stepped
    split at stepped
    · obtain ⟨delivered, told, rfl⟩ := Option.map_eq_some_iff.mp stepped
      obtain ⟨state, -, logged⟩ := delivered_log told
      change p.snapshot.trace <+: delivered.1.trace
      rw [logged]
      exact List.prefix_append _ _
    · cases stepped
  · have unanswered (tid : Nat) (request : S.Req) (answer : S.Ans request) :
        action ≠ .answer tid request answer :=
      fun same => answers ⟨tid, request, answer, same⟩
    obtain ⟨added, grown, -⟩ := Pool.silent_step stepped unanswered
    exact ⟨added, grown.symm⟩

theorem Pool.run_grown (schedule : List (Action S Ext)) :
    ∀ {p last : Pool S ρ}, p.run sys schedule = some last →
      p.snapshot.trace <+: last.snapshot.trace := by
  induction schedule with
  | nil =>
      intro p last ran
      cases ran
      exact List.prefix_refl _
  | cons action rest ih =>
      intro p last ran
      obtain ⟨next, stepped, remaining⟩ := Option.bind_eq_some_iff.mp ran
      exact (Pool.step_grown stepped).trans (ih remaining)

theorem Reachable.run {state : S.State} (reached : Reachable sys state p)
    {schedule : List (Action S Ext)} (ran : p.run sys schedule = some next) :
    Reachable sys state next := by
  obtain ⟨before, first⟩ := reached
  refine ⟨before ++ schedule, ?_⟩
  rw [Pool.run_append, first]
  exact ran

/-! ### Runs under a condition -/

/-- Some schedule leads here whose steps all meet the condition. -/
inductive ReachableUnder (sys : System S ρ Ext) (condition : Pool S ρ → Action S Ext → Prop)
    (state : S.State) : Pool S ρ → Prop
  | start : ReachableUnder sys condition state (Pool.initial state)
  | step {p next : Pool S ρ} {action : Action S Ext}
      (before : ReachableUnder sys condition state p) (meets : condition p action)
      (stepped : p.step sys action = some next) : ReachableUnder sys condition state next

theorem ReachableUnder.reachable {condition : Pool S ρ → Action S Ext → Prop} {state : S.State}
    (run : ReachableUnder sys condition state p) : Reachable sys state p := by
  induction run with
  | start => exact ⟨[], rfl⟩
  | step before meets stepped ih => exact ih.step stepped

/-- What every step under the condition preserves holds in every such run. -/
theorem ReachableUnder.invariant {condition : Pool S ρ → Action S Ext → Prop} {state : S.State}
    {Inv : Pool S ρ → Prop} (initial : Inv (Pool.initial state))
    (preserved : ∀ p action next, Reachable sys state p → Inv p → condition p action →
      p.step sys action = some next → Inv next)
    (run : ReachableUnder sys condition state p) : Inv p := by
  induction run with
  | start => exact initial
  | step before meets stepped ih => exact preserved _ _ _ before.reachable ih meets stepped

/-- A schedule that runs through and whose actions meet the condition anywhere. -/
theorem reachableUnder_run {condition : Pool S ρ → Action S Ext → Prop} {state : S.State}
    (schedule : List (Action S Ext)) (meets : ∀ action ∈ schedule, ∀ p, condition p action)
    (runs : ((Pool.initial state).run sys schedule).isSome = true) :
    ReachableUnder sys condition state (((Pool.initial state).run sys schedule).get runs) := by
  have along (rest : List (Action S Ext)) : ∀ {p final : Pool S ρ},
      (∀ action ∈ rest, ∀ p, condition p action) → ReachableUnder sys condition state p →
        p.run sys rest = some final → ReachableUnder sys condition state final := by
    induction rest with
    | nil =>
        intro p final _ run ran
        cases ran
        exact run
    | cons action rest ih =>
        intro p final meets run ran
        obtain ⟨next, stepped, remaining⟩ := Option.bind_eq_some_iff.mp ran
        have onwards := run.step (meets action List.mem_cons_self p) stepped
        exact ih (fun other member => meets other (List.mem_cons_of_mem _ member)) onwards remaining
  exact along schedule meets .start (Option.some_get runs).symm

end EventLoop
