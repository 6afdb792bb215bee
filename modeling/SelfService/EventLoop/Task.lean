/-
Suspended computations of a single-threaded event loop.

A task alternates between synchronous segments, which run without interruption,
and await points, at which a request is handed to the environment and every
other task may run.  Marks are observations: they change no state and exist so
that a property can speak about what a task did.  A fork starts a task that
nobody awaits.

This module fixes the syntax of tasks, their sequencing and their laws.  It
names no application, no store and no scheduler.
-/

import Mathlib.Logic.Basic
import Mathlib.Data.List.Basic

namespace EventLoop

/-- The vocabulary of one event loop: the memory its tasks share, the requests
they await with the answer each request takes, the marks they leave, the calls
they may start and the errors they may reject with. -/
structure Signature where
  State : Type
  Req : Type
  Ans : Req → Type
  Mark : Type
  Call : Type
  Err : Type

/-- What is left to run of an asynchronous function that resolves with an `α`. -/
inductive Task (S : Signature) (α : Type) : Type
  | done (value : α)
  | fail (error : S.Err)
  | sync (update : S.State → S.State) (next : S.State → Task S α)
  | mark (label : S.Mark) (next : Task S α)
  | fork (call : S.Call) (next : Task S α)
  | await (request : S.Req) (next : S.Ans request → Task S α)

namespace Task

variable {S : Signature} {α β γ : Type}

def bind : Task S α → (α → Task S β) → Task S β
  | .done value, rest => rest value
  | .fail error, _ => .fail error
  | .sync update next, rest => .sync update fun state => (next state).bind rest
  | .mark label next, rest => .mark label (next.bind rest)
  | .fork call next, rest => .fork call (next.bind rest)
  | .await request next, rest => .await request fun answer => (next answer).bind rest

instance : Monad (Task S) where
  pure := .done
  bind := bind

/-- Turn a rejection into a value, as a `try` block does for its `catch`. -/
def attempt : Task S α → Task S (Except S.Err α)
  | .done value => .done (.ok value)
  | .fail error => .done (.error error)
  | .sync update next => .sync update fun state => (next state).attempt
  | .mark label next => .mark label next.attempt
  | .fork call next => .fork call next.attempt
  | .await request next => .await request fun answer => (next answer).attempt

def read : Task S S.State := .sync id .done

/-- Change the shared memory within the current segment. -/
def modify (update : S.State → S.State) : Task S Unit := .sync update fun _ => .done ()

def note (label : S.Mark) : Task S Unit := .mark label (.done ())

/-- Start a call and go on without waiting for it. -/
def start (call : S.Call) : Task S Unit := .fork call (.done ())

/-- Hand a request to the environment and suspend until it is answered. -/
def send (request : S.Req) : Task S (S.Ans request) := .await request .done

/-- Resolve or reject with an outcome that is already known. -/
def settleWith : Except S.Err α → Task S α
  | .ok value => .done value
  | .error error => .fail error

@[simp] theorem pure_eq (value : α) : (pure value : Task S α) = .done value := rfl

@[simp] theorem bind_eq (task : Task S α) (rest : α → Task S β) :
    (task >>= rest) = task.bind rest := rfl

@[simp] theorem done_bind (value : α) (rest : α → Task S β) :
    (Task.done value).bind rest = rest value := rfl

@[simp] theorem fail_bind (error : S.Err) (rest : α → Task S β) :
    (Task.fail error : Task S α).bind rest = .fail error := rfl

theorem bind_done (task : Task S α) : task.bind .done = task := by
  induction task with
  | done value => rfl
  | fail error => rfl
  | sync update next ih => exact congrArg (Task.sync update) (funext ih)
  | mark label next ih => exact congrArg (Task.mark label) ih
  | fork call next ih => exact congrArg (Task.fork call) ih
  | await request next ih => exact congrArg (Task.await request) (funext ih)

theorem bind_assoc (task : Task S α) (first : α → Task S β) (second : β → Task S γ) :
    (task.bind first).bind second = task.bind fun value => (first value).bind second := by
  induction task with
  | done value => rfl
  | fail error => rfl
  | sync update next ih => exact congrArg (Task.sync update) (funext ih)
  | mark label next ih => exact congrArg (Task.mark label) ih
  | fork call next ih => exact congrArg (Task.fork call) ih
  | await request next ih => exact congrArg (Task.await request) (funext ih)

instance : LawfulMonad (Task S) :=
  LawfulMonad.mk' (Task S) (fun task => bind_done task) (fun _ _ => rfl)
    (fun task first second => bind_assoc task first second)

end Task

end EventLoop
