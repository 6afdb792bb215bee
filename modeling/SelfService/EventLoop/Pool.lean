/-
Interleaved execution of tasks.

A pool holds the shared memory, the tasks in flight and the trace of everything
observed so far.  One action starts a call, runs one task up to its next await
point, answers one awaited request, or lets the environment act on its own.
Segments are atomic; everything else may interleave.
-/

import SelfService.EventLoop.Task

namespace EventLoop

variable {S : Signature} {ρ Ext : Type}

/-- The program and its surroundings: the code behind every call, how the
environment may answer a request (`none` rules the answer out), how it may act
unasked, and the clock that stamps the trace. -/
structure System (S : Signature) (ρ Ext : Type) where
  body : S.Call → Task S ρ
  perform : S.State → (request : S.Req) → S.Ans request → Option S.State
  external : S.State → Ext → Option S.State
  clock : S.State → Nat

inductive Event (S : Signature) (ρ : Type) : Type
  | started (call : S.Call)
  | answered (request : S.Req) (answer : S.Ans request)
  | marked (label : S.Mark)
  | finished (call : S.Call) (result : Except S.Err ρ)

/-- One line of the trace: which task, when, and what was observed. -/
structure Entry (S : Signature) (ρ : Type) where
  tid : Nat
  time : Nat
  event : Event S ρ

abbrev Trace (S : Signature) (ρ : Type) := List (Entry S ρ)

/-- What a property of runs can see: the memory and the trace that led to it. -/
structure Snapshot (S : Signature) (ρ : Type) where
  state : S.State
  trace : Trace S ρ

def Snapshot.log (sys : System S ρ Ext) (s : Snapshot S ρ) (tid : Nat)
    (event : Event S ρ) : Snapshot S ρ :=
  { s with trace := s.trace ++ [⟨tid, sys.clock s.state, event⟩] }

inductive Thread (S : Signature) (ρ : Type) : Type
  | running (call : S.Call) (task : Task S ρ)
  | finished

/-- Thread identifiers are positions in `threads`; a thread is never removed. -/
structure Pool (S : Signature) (ρ : Type) where
  snapshot : Snapshot S ρ
  threads : List (Thread S ρ)

def Pool.initial (state : S.State) : Pool S ρ := ⟨⟨state, []⟩, []⟩

inductive Action (S : Signature) (Ext : Type) : Type
  | call (call : S.Call)
  | resume (tid : Nat)
  | answer (tid : Nat) (request : S.Req) (answer : S.Ans request)
  | external (event : Ext)

/-- Run a task through its current segment.  `fresh` is the identifier the next
forked task gets; the forked calls are returned in order. -/
def settle (sys : System S ρ Ext) (tid : Nat) {α : Type} :
    Nat → Task S α → Snapshot S ρ → Snapshot S ρ × List S.Call × Task S α
  | fresh, .sync update next, s =>
      settle sys tid fresh (next s.state) { s with state := update s.state }
  | fresh, .mark label next, s =>
      settle sys tid fresh next (s.log sys tid (.marked label))
  | fresh, .fork call next, s =>
      let segment := settle sys tid (fresh + 1) next (s.log sys fresh (.started call))
      (segment.1, call :: segment.2.1, segment.2.2)
  | _, .done value, s => (s, [], .done value)
  | _, .fail error, s => (s, [], .fail error)
  | _, .await request next, s => (s, [], .await request next)

/-- Nothing is left to run before the next await point. -/
def Task.Settled {α : Type} : Task S α → Prop
  | .done _ | .fail _ | .await _ _ => True
  | .sync _ _ | .mark _ _ | .fork _ _ => False

/-- Close the books on a task whose segment is over. -/
def park (sys : System S ρ Ext) (tid : Nat) (call : S.Call) (s : Snapshot S ρ) :
    Task S ρ → Snapshot S ρ × Thread S ρ
  | .done value => (s.log sys tid (.finished call (.ok value)), .finished)
  | .fail error => (s.log sys tid (.finished call (.error error)), .finished)
  | task => (s, .running call task)

variable [DecidableEq S.Req]

/-- Continue a suspended task with the answer to the request it awaits. -/
def deliver (sys : System S ρ Ext) (s : Snapshot S ρ) (tid : Nat) (request : S.Req)
    (answer : S.Ans request) : Task S ρ → Option (Snapshot S ρ × Task S ρ)
  | .await awaited next =>
      if same : request = awaited then
        (sys.perform s.state request answer).map fun state =>
          (({ s with state := state } : Snapshot S ρ).log sys tid (.answered request answer),
            next (same ▸ answer))
      else none
  | _ => none

def Pool.step (sys : System S ρ Ext) (p : Pool S ρ) : Action S Ext → Option (Pool S ρ)
  | .call call => some
      { snapshot := p.snapshot.log sys p.threads.length (.started call)
        threads := p.threads ++ [.running call (sys.body call)] }
  | .resume tid =>
      match p.threads[tid]? with
      | some (.running call task) =>
          let segment := settle sys tid p.threads.length task p.snapshot
          let parked := park sys tid call segment.1 segment.2.2
          some
            { snapshot := parked.1
              threads := p.threads.set tid parked.2 ++
                segment.2.1.map fun forked => .running forked (sys.body forked) }
      | _ => none
  | .answer tid request answer =>
      match p.threads[tid]? with
      | some (.running call task) =>
          (deliver sys p.snapshot tid request answer task).map fun delivered =>
            { snapshot := delivered.1
              threads := p.threads.set tid (.running call delivered.2) }
      | _ => none
  | .external event =>
      (sys.external p.snapshot.state event).map fun state =>
        { p with snapshot := { p.snapshot with state := state } }

def Pool.run (sys : System S ρ Ext) (p : Pool S ρ) : List (Action S Ext) → Option (Pool S ρ)
  | [] => some p
  | action :: rest => (p.step sys action).bind fun next => next.run sys rest

/-- Some schedule leads from the initial memory to this pool. -/
def Reachable (sys : System S ρ Ext) (state : S.State) (p : Pool S ρ) : Prop :=
  ∃ schedule, (Pool.initial state).run sys schedule = some p

/-- A schedule that runs through reaches the pool it ends in. -/
theorem reachable_run (sys : System S ρ Ext) (state : S.State) (schedule : List (Action S Ext))
    (runs : ((Pool.initial state).run sys schedule).isSome = true) :
    Reachable sys state (((Pool.initial state).run sys schedule).get runs) :=
  ⟨schedule, (Option.some_get runs).symm⟩

end EventLoop
