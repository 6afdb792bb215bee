/-
What threads wait for.

A request is put together in one turn and answered later.  What holds of it when
its task suspends, and is not lost while time passes and the trace grows, still
holds when it is answered.
-/

import SelfService.EventLoop.Leaving
import SelfService.EventLoop.Turns

namespace EventLoop

variable {S : Signature} {ρ Ext α β : Type} {sys : System S ρ Ext} {tid : Nat}
  {fits : S.Req → Snapshot S ρ → Prop}

/-- What a turn waits for at its end fits the moment. -/
def AwaitLaw (fits : S.Req → Snapshot S ρ → Prop) : TurnLaw S ρ := fun _ stop last =>
  match stop with
  | .awaits request => fits request last
  | .ends _ => True

/-- Whatever happened before and whatever comes back, the task only waits for what fits. -/
def Task.AwaitsFitting (sys : System S ρ Ext) (tid : Nat) (fits : S.Req → Snapshot S ρ → Prop)
    (task : Task S α) : Prop :=
  ∀ start s, Turns sys tid (AwaitLaw fits) (fun _ _ _ => True) task start s

theorem Task.AwaitsFitting.bind {task : Task S α} {rest : α → Task S β}
    (first : task.AwaitsFitting sys tid fits) (next : ∀ value, (rest value).AwaitsFitting sys tid fits) :
    (task >>= rest).AwaitsFitting sys tid fits := by
  intro start s
  apply (first start s).andThen
  · exact fun _ _ _ _ => trivial
  · exact fun value start last _ => next value start last

theorem Task.AwaitsFitting.attempt {task : Task S α} (first : task.AwaitsFitting sys tid fits) :
    task.attempt.AwaitsFitting sys tid fits := by
  intro start s
  rw [turns_attempt]
  exact first start s

/-- A request that fits any moment. -/
theorem awaitsFitting_of_always {request : S.Req} {next : S.Ans request → Task S α}
    (always : ∀ s, fits request s) (rest : ∀ answer, (next answer).AwaitsFitting sys tid fits) :
    (Task.await request next).AwaitsFitting sys tid fits :=
  fun _ s => ⟨always s, fun answer _ _ _ _ => rest answer _ _⟩

/-- Some thread of the pool waits for this request. -/
def Pool.Awaits (p : Pool S ρ) (request : S.Req) : Prop :=
  ∃ (tid : Nat) (call : S.Call) (rest : S.Ans request → Task S ρ),
    p.threads[tid]? = some (.running call (.await request rest))

variable [DecidableEq S.Req] {p : Pool S ρ}

/-- In every run, what a thread waits for fits. -/
theorem Reachable.awaits_fitting {state : S.State} (reached : Reachable sys state p)
    (bodies : ∀ tid call, (sys.body call).AwaitsFitting sys tid fits)
    (widens : ∀ tid request (s : Snapshot S ρ), fits request (s.own tid) → fits request s)
    (lasts : ∀ {q next : Pool S ρ} {action : Action S Ext} request, Reachable sys state q →
      q.step sys action = some next → fits request q.snapshot → fits request next.snapshot)
    {request : S.Req} (waits : p.Awaits request) : fits request p.snapshot := by
  have lawful : TurnLawful sys fun _ => AwaitLaw fits := by
    intro tid call time state
    apply (bodies tid call _ _).mono
    intro result start last _
    exact trivial
  obtain ⟨schedule, ran⟩ := reached
  have run (schedule : List (Action S Ext)) : ∀ {p final : Pool S ρ}, Reachable sys state p →
      (∀ request, p.Awaits request → fits request p.snapshot) → p.run sys schedule = some final →
      ∀ request, final.Awaits request → fits request final.snapshot := by
    induction schedule with
    | nil =>
        intro p final reached holds ran
        cases ran
        exact holds
    | cons action remaining ih =>
        intro p final reached holds ran
        obtain ⟨next, stepped, ran⟩ := Option.bind_eq_some_iff.mp ran
        refine ih (reached.step stepped) ?_ ran
        rintro request ⟨tid, call, rest, waits⟩
        rcases reached.comes_to_await lawful stepped waits with waited | ⟨-, -, came⟩ | began
        · exact lasts request reached stepped (holds request ⟨tid, call, rest, waited⟩)
        · exact widens tid request _ came
        · exact widens tid request _ (began next.snapshot.state)
  refine run schedule ⟨[], rfl⟩ ?_ ran request waits
  rintro request ⟨tid, call, rest, waits⟩
  simp [Pool.initial] at waits

end EventLoop
