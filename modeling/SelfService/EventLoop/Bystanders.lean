/-
Calls that leave a part of the memory alone.

Where the calls of some kind never update a part of the memory, neither does a
thread that runs one of them, in whatever way the others act between its turns.
-/

import Mathlib.Logic.Relation
import SelfService.EventLoop.Leaving
import SelfService.EventLoop.Updates

namespace EventLoop

variable {S : Signature} {ρ Ext α γ : Type} {sys : System S ρ Ext} {part : S.State → γ}
  {foreign : S.Call → Prop}

/-- A task leaves alone what each of its updates leaves alone. -/
theorem Task.Updates.leaves {kind : (S.State → S.State) → Prop} {task : Task S α}
    (updates : task.Updates kind)
    (spared : ∀ update, kind update → ∀ state, part (update state) = part state) :
    task.Leaves part := by
  induction task with
  | done value => exact trivial
  | fail error => exact trivial
  | sync update next ih =>
      exact ⟨spared update updates.1, fun state => ih state (updates.2 state)⟩
  | mark label next ih => exact ih updates
  | fork call next ih => exact ih updates
  | await request next ih => exact fun answer => ih answer (updates answer)

/-- Every call of this kind that is in flight leaves the part alone. -/
def Pool.Spares (foreign : S.Call → Prop) (part : S.State → γ) (p : Pool S ρ) : Prop :=
  ∀ thread ∈ p.threads, ∀ call task, thread = .running call task → foreign call →
    task.Leaves part

/-- A parked thread still runs its call. -/
theorem park_keeps_running {tid : Nat} {call other : S.Call} {s : Snapshot S ρ}
    {task rest : Task S ρ}
    (parked : (park sys tid call s task).2 = .running other rest) : call = other ∧ task = rest := by
  cases task with
  | done value => cases parked
  | fail error => cases parked
  | sync update next => exact Thread.running.inj parked
  | mark label next => exact Thread.running.inj parked
  | fork forked next => exact Thread.running.inj parked
  | await request next => exact Thread.running.inj parked

variable [DecidableEq S.Req] {p next : Pool S ρ} {action : Action S Ext}

theorem Pool.Spares.step (bodies : ∀ call, foreign call → (sys.body call).Leaves part)
    (spares : p.Spares foreign part) (stepped : p.step sys action = some next) :
    next.Spares foreign part := by
  cases action with
  | call call =>
      cases stepped
      intro thread member running task same kind
      rcases List.mem_append.mp member with old | new
      · exact spares thread old running task same kind
      · rw [List.mem_singleton.mp new] at same
        cases same
        exact bodies call kind
  | resume tid =>
      simp only [Pool.step] at stepped
      split at stepped
      · rename_i call task found
        cases stepped
        intro thread member running other same kind
        rcases List.mem_append.mp member with old | new
        · rcases List.mem_or_eq_of_mem_set old with unmoved | mine
          · exact spares thread unmoved running other same kind
          · obtain ⟨rfl, rfl⟩ := park_keeps_running (mine.symm.trans same)
            have left := spares _ (List.mem_of_getElem? found) _ _ rfl kind
            exact (left.settle sys tid p.threads.length p.snapshot).1
        · obtain ⟨forked, -, rfl⟩ := List.mem_map.mp new
          cases same
          exact bodies _ kind
      · cases stepped
  | answer tid request answer =>
      simp only [Pool.step] at stepped
      split at stepped
      · rename_i call task found
        obtain ⟨delivered, told, rfl⟩ := Option.map_eq_some_iff.mp stepped
        intro thread member running other same kind
        rcases List.mem_or_eq_of_mem_set member with unmoved | mine
        · exact spares thread unmoved running other same kind
        · rw [mine] at same
          cases same
          have left := spares _ (List.mem_of_getElem? found) _ task rfl kind
          cases task with
          | await awaited next =>
              simp only [deliver] at told
              split at told
              · rename_i same
                subst same
                obtain ⟨state, performed, rfl⟩ := Option.map_eq_some_iff.mp told
                exact left answer
              · cases told
          | done value => cases told
          | fail error => cases told
          | sync update next => cases told
          | mark label next => cases told
          | fork forked next => cases told
      · cases stepped
  | external event =>
      obtain ⟨state, moved, rfl⟩ := Option.map_eq_some_iff.mp stepped
      exact spares

theorem Reachable.spares (bodies : ∀ call, foreign call → (sys.body call).Leaves part)
    {state : S.State} (reached : Reachable sys state p) : p.Spares foreign part := by
  obtain ⟨schedule, ran⟩ := reached
  have run (schedule : List (Action S Ext)) :
      ∀ {p final : Pool S ρ}, p.Spares foreign part → p.run sys schedule = some final →
        final.Spares foreign part := by
    induction schedule with
    | nil =>
        intro p final spares ran
        cases ran
        exact spares
    | cons action rest ih =>
        intro p final spares ran
        obtain ⟨next, stepped, remaining⟩ := Option.bind_eq_some_iff.mp ran
        exact ih (spares.step bodies stepped) remaining
  exact run schedule (by simp [Pool.Spares, Pool.initial]) ran

/-- A thread of a sparing call keeps the part whenever it runs. -/
theorem Pool.Spares.resumed (spares : p.Spares foreign part) {tid : Nat} {call : S.Call}
    {task : Task S ρ} (found : p.threads[tid]? = some (.running call task)) (kind : foreign call)
    (stepped : p.step sys (.resume tid) = some next) :
    part next.snapshot.state = part p.snapshot.state := by
  rw [Pool.step_resume found] at stepped
  cases stepped
  have left := spares _ (List.mem_of_getElem? found) call task rfl kind
  obtain ⟨rest, same⟩ := left.settle sys tid p.threads.length p.snapshot
  obtain ⟨-, kept⟩ := rest.park sys tid call (settle sys tid p.threads.length task p.snapshot).1
  exact (congrArg part kept).trans same

/-- An answer is served by the environment and told to a thread that waits for it. -/
theorem Pool.answered {tid : Nat} {request : S.Req} {answer : S.Ans request}
    (stepped : p.step sys (.answer tid request answer) = some next) :
    ∃ call rest state, p.threads[tid]? = some (.running call (.await request rest)) ∧
      sys.perform p.snapshot.state request answer = some state ∧
      next.snapshot = (⟨state, p.snapshot.trace⟩ : Snapshot S ρ).log sys tid
        (.answered request answer) := by
  simp only [Pool.step] at stepped
  split at stepped
  · rename_i call task found
    obtain ⟨delivered, told, rfl⟩ := Option.map_eq_some_iff.mp stepped
    obtain ⟨state, performed, logged⟩ := delivered_log told
    cases task with
    | await awaited rest =>
        simp only [deliver] at told
        split at told
        · rename_i same
          subst same
          exact ⟨call, rest, state, found, performed, logged⟩
        · cases told
    | done value => cases told
    | fail error => cases told
    | sync update next => cases told
    | mark label next => cases told
    | fork forked next => cases told
  · cases stepped

/-- A thread that runs has begun with its call. -/
theorem Reachable.running_began {state : S.State} (reached : Reachable sys state p) {tid : Nat}
    {call : S.Call} {task : Task S ρ} (found : p.threads[tid]? = some (.running call task)) :
    p.snapshot.Saw tid (.started call) := by
  obtain ⟨time, started, entries, own, stands⟩ := reached.traced.threads tid _ found
  obtain ⟨rfl, -⟩ := stands
  apply saw_of_own
  exact ⟨time, by rw [own]; exact List.mem_cons_self⟩

/-! ### Stretches of a run -/

/-- Steps that all meet the condition lead from one pool to the other. -/
def LeadsTo (sys : System S ρ Ext) (condition : Pool S ρ → Action S Ext → Prop) :
    Pool S ρ → Pool S ρ → Prop :=
  Relation.ReflTransGen fun p next => ∃ action, condition p action ∧ p.step sys action = some next

theorem LeadsTo.reachable {condition : Pool S ρ → Action S Ext → Prop} {state : S.State}
    (reached : Reachable sys state p) (leads : LeadsTo sys condition p next) :
    Reachable sys state next := by
  induction leads with
  | refl => exact reached
  | tail _ step ih =>
      obtain ⟨action, -, stepped⟩ := step
      exact ih.step stepped

/-- A schedule whose actions meet the condition wherever it may come to. -/
theorem leadsTo_of_run {condition : Pool S ρ → Action S Ext → Prop}
    (schedule : List (Action S Ext)) {first : Pool S ρ}
    (meets : ∀ action ∈ schedule, ∀ q : Pool S ρ, LeadsTo sys condition first q →
      condition q action) : ∀ {p last : Pool S ρ}, LeadsTo sys condition first p →
        p.run sys schedule = some last → LeadsTo sys condition first last := by
  induction schedule with
  | nil =>
      intro p last there ran
      cases ran
      exact there
  | cons action rest ih =>
      intro p last there ran
      obtain ⟨next, stepped, remaining⟩ := Option.bind_eq_some_iff.mp ran
      have onwards := there.tail ⟨action, meets action List.mem_cons_self p there, stepped⟩
      exact ih (fun other member => meets other (List.mem_cons_of_mem _ member)) onwards remaining

/-- Along a stretch the trace only grows. -/
theorem LeadsTo.grown {condition : Pool S ρ → Action S Ext → Prop}
    (leads : LeadsTo sys condition p next) : p.snapshot.trace <+: next.snapshot.trace := by
  induction leads with
  | refl => exact List.prefix_refl _
  | tail _ step ih =>
      obtain ⟨action, -, stepped⟩ := step
      exact ih.trans (Pool.step_grown stepped)

/-- What every such step preserves is preserved along the stretch. -/
theorem LeadsTo.preserves {condition : Pool S ρ → Action S Ext → Prop} {state : S.State}
    (reached : Reachable sys state p) (leads : LeadsTo sys condition p next)
    (preserved : ∀ {q later : Pool S ρ} {action : Action S Ext}, Reachable sys state q →
      condition q action → q.step sys action = some later →
      part later.snapshot.state = part q.snapshot.state) :
    part next.snapshot.state = part p.snapshot.state := by
  induction leads with
  | refl => rfl
  | tail before step ih =>
      obtain ⟨action, meets, stepped⟩ := step
      have middle := LeadsTo.reachable reached before
      exact (preserved middle meets stepped).trans ih

end EventLoop
