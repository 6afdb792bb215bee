/-
Runs in which the answers come by rule.

A play names what is left to choose: the calls that begin, the thread whose turn
it is, the answers that break the rule.  A thread takes its turn by running to
its next await point or by receiving the answer it waits for.
-/

import SelfService.EventLoop.Alone

namespace EventLoop

variable {S : Signature} {ρ Ext : Type}

inductive Move (S : Signature) (Ext : Type) : Type
  | act (action : Action S Ext)
  | turn (tid : Nat)

/-- The same thread, again and again. -/
def turns (tid count : Nat) : List (Move S Ext) := List.replicate count (.turn tid)

variable [DecidableEq S.Req]

/-- A finished thread lets its turn pass. -/
def Pool.turn (sys : System S ρ Ext) (answers : Answering S) (p : Pool S ρ) (tid : Nat) :
    Option (Pool S ρ) :=
  match p.threads[tid]? with
  | some (.running _ (.await request _)) =>
      p.step sys (.answer tid request (answers p.snapshot.state request))
  | some (.running _ _) => p.step sys (.resume tid)
  | _ => some p

def Pool.play (sys : System S ρ Ext) (answers : Answering S) (p : Pool S ρ) :
    List (Move S Ext) → Option (Pool S ρ)
  | [] => some p
  | .act action :: rest => (p.step sys action).bind fun next => next.play sys answers rest
  | .turn tid :: rest => (p.turn sys answers tid).bind fun next => next.play sys answers rest

theorem run_of_turn {sys : System S ρ Ext} {answers : Answering S} {p next : Pool S ρ} {tid : Nat}
    (turned : p.turn sys answers tid = some next) :
    ∃ schedule, p.run sys schedule = some next := by
  unfold Pool.turn at turned
  split at turned
  · exact ⟨[.answer tid _ (answers p.snapshot.state _)], by rw [Pool.run, turned]; rfl⟩
  · exact ⟨[.resume tid], by rw [Pool.run, turned]; rfl⟩
  · exact ⟨[], turned⟩

theorem Pool.run_append (sys : System S ρ Ext) (early late : List (Action S Ext)) :
    ∀ p : Pool S ρ, p.run sys (early ++ late) = (p.run sys early).bind fun q => q.run sys late := by
  induction early with
  | nil => exact fun _ => rfl
  | cons action rest ih =>
      intro p
      rw [List.cons_append, Pool.run, Pool.run, Option.bind_assoc]
      congr 1
      funext next
      exact ih next

theorem Reachable.step {sys : System S ρ Ext} {state : S.State} {p next : Pool S ρ}
    (reached : Reachable sys state p) {action : Action S Ext}
    (stepped : p.step sys action = some next) : Reachable sys state next := by
  obtain ⟨schedule, ran⟩ := reached
  refine ⟨schedule ++ [action], ?_⟩
  rw [Pool.run_append, ran, Option.bind_some, Pool.run, stepped]
  rfl

theorem run_of_play {sys : System S ρ Ext} {answers : Answering S} (moves : List (Move S Ext)) :
    ∀ {p last : Pool S ρ}, p.play sys answers moves = some last →
      ∃ schedule, p.run sys schedule = some last := by
  induction moves with
  | nil => exact fun played => ⟨[], played⟩
  | cons move rest ih =>
      intro p last played
      have joined {next : Pool S ρ} (first : ∃ schedule, p.run sys schedule = some next)
          (played : next.play sys answers rest = some last) :
          ∃ schedule, p.run sys schedule = some last := by
        obtain ⟨early, ran⟩ := first
        obtain ⟨late, ends⟩ := ih played
        exact ⟨early ++ late, by rw [Pool.run_append, ran, Option.bind_some, ends]⟩
      cases move with
      | act action =>
          obtain ⟨next, stepped, played⟩ := Option.bind_eq_some_iff.mp played
          exact joined ⟨[action], by rw [Pool.run, stepped]; rfl⟩ played
      | turn tid =>
          obtain ⟨next, turned, played⟩ := Option.bind_eq_some_iff.mp played
          exact joined (run_of_turn turned) played

/-- A play that runs through reaches the pool it ends in. -/
theorem reachable_play (sys : System S ρ Ext) (state : S.State) (answers : Answering S)
    (moves : List (Move S Ext))
    (plays : ((Pool.initial state).play sys answers moves).isSome = true) :
    Reachable sys state (((Pool.initial state).play sys answers moves).get plays) :=
  run_of_play moves (Option.some_get plays).symm

/-- What a play shows in its last pool is true of a pool that can be reached. -/
theorem exists_reachable (sys : System S ρ Ext) (state : S.State) (answers : Answering S)
    (moves : List (Move S Ext)) {holds : Pool S ρ → Prop} [DecidablePred holds]
    (shows : ((Pool.initial state).play sys answers moves).any (fun p => holds p) = true) :
    ∃ p, Reachable sys state p ∧ holds p := by
  obtain ⟨p, played, seen⟩ := (Option.any_eq_true _ _).mp shows
  exact ⟨p, run_of_play moves played, of_decide_eq_true seen⟩

end EventLoop
