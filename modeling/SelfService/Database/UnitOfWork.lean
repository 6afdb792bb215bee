/-
The unit of work and its timeout.

`runInTransaction` races a transaction against a timer.  The timer only settles
the race: the transaction runs on, and commits whenever its callback resolves.
-/

import SelfService.Core.Exceptions

namespace SelfService

/-- A work function: what it resolves or rejects with, the queries it runs in its
transaction and the other promises it awaits. -/
inductive Work (ν : Type) : Type
  | resolves (value : ν)
  | rejects (error : Exn)
  | runs (query : String) (next : Except Exn JsValue → Work ν)
  | awaits (next : Except Exn JsValue → Work ν)

structure TransactionOptions where
  isolationLevel : Option String
  timeout : Option Nat
  readOnly : Bool

namespace DrizzleUnitOfWork

def DEFAULT_TIMEOUT : Nat := 30000

variable {ν : Type}

/-! ### The transaction -/

/-- What the transaction waits for. -/
inductive Phase (ν : Type) : Type
  | beginning
  | isolating
  | restricting
  | working (work : Work ν)
  | committing (value : ν)
  | rollingBack (error : Exn)
  | settled (outcome : Except Exn ν)

/-- `isActive` is the flag of the transaction context, once there is one. -/
structure Transaction (ν : Type) where
  phase : Phase ν
  isActive : Option Bool
  writes : List String
  committed : Option (List String)

def Transaction.opened : Transaction ν := ⟨.beginning, none, [], none⟩

namespace Transaction

/-- The work has come back: `markComplete` on both ways out of the `try`. -/
def conclude (transaction : Transaction ν) (outcome : Except Exn ν) : Transaction ν :=
  match outcome with
  | .ok value =>
      if transaction.isActive = some true then
        { transaction with isActive := some false, phase := .committing value }
      else
        { transaction with
          isActive := some false
          phase := .rollingBack (.error "Transaction context is no longer active") }
  | .error error => { transaction with isActive := some false, phase := .rollingBack error }

/-- The work runs on to its next await point. -/
def work (transaction : Transaction ν) : Work ν → Transaction ν
  | .resolves value => transaction.conclude (.ok value)
  | .rejects error => transaction.conclude (.error error)
  | suspended => { transaction with phase := .working suspended }

def restrict (options : TransactionOptions) (callback : Work ν) (transaction : Transaction ν) :
    Transaction ν :=
  if options.readOnly then { transaction with phase := .restricting }
  else transaction.work callback

def isolate (options : TransactionOptions) (callback : Work ν) (transaction : Transaction ν) :
    Transaction ν :=
  if (options.isolationLevel.filter fun level => level ≠ "").isSome then
    { transaction with phase := .isolating }
  else transaction.restrict options callback

/-- What the transaction waits for has come; a commit and a rollback do not fail. -/
def answer (options : TransactionOptions) (callback : Work ν) (transaction : Transaction ν)
    (reply : Except Exn JsValue) : Option (Transaction ν) :=
  match transaction.phase, reply with
  | .beginning, .ok _ =>
      some ({ transaction with isActive := some true }.isolate options callback)
  | .beginning, .error error => some { transaction with phase := .settled (.error error) }
  | .isolating, .ok _ => some (transaction.restrict options callback)
  | .isolating, .error error => some { transaction with phase := .rollingBack error }
  | .restricting, .ok _ => some (transaction.work callback)
  | .restricting, .error error => some { transaction with phase := .rollingBack error }
  | .working (.runs query next), .ok row =>
      some ({ transaction with writes := transaction.writes ++ [query] }.work (next (.ok row)))
  | .working (.runs _ next), .error error => some (transaction.work (next (.error error)))
  | .working (.awaits next), reply => some (transaction.work (next reply))
  | .working (.resolves _), _ | .working (.rejects _), _ => none
  | .committing value, _ =>
      some { transaction with
        phase := .settled (.ok value)
        committed := some transaction.writes }
  | .rollingBack error, _ => some { transaction with phase := .settled (.error error) }
  | .settled _, _ => none

/-- The transaction on its own, with the answers it gets. -/
def run (options : TransactionOptions) (callback : Work ν) :
    Transaction ν → List (Except Exn JsValue) → Option (Transaction ν)
  | transaction, [] => some transaction
  | transaction, reply :: rest =>
      (transaction.answer options callback reply).bind fun next => run options callback next rest

end Transaction

/-! ### The race -/

structure Call (ν : Type) where
  transaction : Transaction ν
  elapsed : Nat
  outcome : Option (Except Exn ν)
  registered : Bool

/-- The timer and the transaction have been started. -/
def Call.begun : Call ν := ⟨.opened, 0, none, false⟩

inductive Action : Type
  | tick (millis : Nat)
  | timer
  | answer (reply : Except Exn JsValue)

def timeoutOf (options : TransactionOptions) : Nat := options.timeout.getD DEFAULT_TIMEOUT

def timeoutError (options : TransactionOptions) (transactionId : String) : Exn :=
  .error ("Transaction timeout after " ++ toString (timeoutOf options) ++ "ms: " ++ transactionId)

/-- The first promise to settle wins; the `finally` clears the timer and the registration. -/
def Call.settle (call : Call ν) (outcome : Except Exn ν) : Call ν :=
  match call.outcome with
  | none => { call with outcome := some outcome, registered := false }
  | some _ => call

/-- The promise of the transaction, once it is settled. -/
def Transaction.outcome (transaction : Transaction ν) : Option (Except Exn ν) :=
  match transaction.phase with
  | .settled outcome => some outcome
  | _ => none

def Call.step (options : TransactionOptions) (transactionId : String) (callback : Work ν)
    (call : Call ν) : Action → Option (Call ν)
  | .tick millis => some { call with elapsed := call.elapsed + millis }
  | .timer =>
      if call.outcome.isNone ∧ timeoutOf options ≤ call.elapsed then
        some (call.settle (.error (timeoutError options transactionId)))
      else none
  | .answer reply =>
      (call.transaction.answer options callback reply).map fun transaction =>
        let told : Call ν :=
          { call with
            transaction := transaction
            -- The registration follows the context, also where the timer fired before.
            registered := call.registered ||
              (call.transaction.isActive.isNone && transaction.isActive.isSome) }
        match transaction.outcome with
        | some outcome => told.settle outcome
        | none => told

def Call.run (options : TransactionOptions) (transactionId : String) (callback : Work ν) :
    Call ν → List Action → Option (Call ν)
  | call, [] => some call
  | call, action :: rest =>
      (call.step options transactionId callback action).bind fun next =>
        run options transactionId callback next rest

/-! ### What the transaction does by itself -/

def Action.isTimer : Action → Bool
  | .timer => true
  | .tick _ | .answer _ => false

def replies (schedule : List Action) : List (Except Exn JsValue) :=
  schedule.filterMap fun action =>
    match action with
    | .answer reply => some reply
    | _ => none

/-- Left alone with these answers, the callback resolves and its transaction commits. -/
def commits (options : TransactionOptions) (callback : Work ν) (schedule : List Action) : Bool :=
  match Transaction.opened.run options callback (replies schedule) with
  | some transaction => transaction.committed.isSome
  | none => false

variable {options : TransactionOptions} {transactionId : String} {callback : Work ν}
  {call next : Call ν}

theorem settle_transaction (outcome : Except Exn ν) :
    (call.settle outcome).transaction = call.transaction := by
  unfold Call.settle
  split <;> rfl

/-- A step moves the transaction by its answers only. -/
theorem step_transaction {action : Action}
    (stepped : call.step options transactionId callback action = some next) :
    call.transaction.run options callback (replies [action]) = some next.transaction := by
  cases action with
  | tick millis =>
      cases stepped
      rfl
  | timer =>
      simp only [Call.step] at stepped
      split at stepped
      · cases stepped
        exact congrArg some (settle_transaction _).symm
      · cases stepped
  | answer reply =>
      obtain ⟨transaction, answered, rfl⟩ := Option.map_eq_some_iff.mp stepped
      have moved : call.transaction.run options callback (replies [.answer reply]) =
          some transaction := by
        simp [replies, Transaction.run, answered]
      rw [moved]
      simp only
      split
      · rw [settle_transaction]
      · rfl

theorem run_append (transaction : Transaction ν) (early late : List (Except Exn JsValue)) :
    transaction.run options callback (early ++ late) =
      (transaction.run options callback early).bind fun middle =>
        middle.run options callback late := by
  induction early generalizing transaction with
  | nil => rfl
  | cons reply rest ih =>
      simp only [List.cons_append, Transaction.run]
      cases answered : transaction.answer options callback reply with
      | none => rfl
      | some middle => exact ih middle

/-- In every run the transaction goes its own way, whatever the timer does. -/
theorem run_transaction (schedule : List Action) :
    ∀ {call final : Call ν}, call.run options transactionId callback schedule = some final →
      call.transaction.run options callback (replies schedule) = some final.transaction := by
  induction schedule with
  | nil =>
      intro call final ran
      cases ran
      rfl
  | cons action rest ih =>
      intro call final ran
      obtain ⟨middle, stepped, remaining⟩ := Option.bind_eq_some_iff.mp ran
      have split : replies (action :: rest) = replies [action] ++ replies rest := by
        rw [replies, replies, replies, ← List.filterMap_append, List.singleton_append]
      rw [split, run_append, step_transaction stepped]
      exact ih remaining

/-! ### What the caller is told -/

/-- A rejected call commits nothing, and a resolved one committed all its writes. -/
def Atomic (call : Call ν) : Prop :=
  match call.outcome with
  | none => True
  | some (.error _) => call.transaction.committed = none
  | some (.ok _) => call.transaction.committed = some call.transaction.writes

/-- Nothing is committed before the commit. -/
def Transaction.Open (transaction : Transaction ν) : Prop :=
  transaction.committed = none ∧ transaction.outcome = none

/-- Exactly a transaction that settles with a value is committed. -/
def Transaction.Honest (transaction : Transaction ν) : Prop :=
  match transaction.outcome with
  | some (.ok _) => transaction.committed = some transaction.writes
  | _ => transaction.committed = none

theorem Transaction.Honest.open {transaction : Transaction ν} (honest : transaction.Honest)
    (unsettled : transaction.outcome = none) : transaction.Open := by
  rw [Honest, unsettled] at honest
  exact ⟨honest, unsettled⟩

theorem Transaction.Open.honest {transaction : Transaction ν} (opened : transaction.Open) :
    transaction.Honest := by
  rw [Honest, opened.2]
  exact opened.1

namespace Transaction

variable {transaction after : Transaction ν}

theorem open_conclude (uncommitted : transaction.committed = none) (outcome : Except Exn ν) :
    (transaction.conclude outcome).Open := by
  unfold conclude
  split
  · split
    · exact ⟨uncommitted, rfl⟩
    · exact ⟨uncommitted, rfl⟩
  · exact ⟨uncommitted, rfl⟩

theorem open_work (uncommitted : transaction.committed = none) (work : Work ν) :
    (transaction.work work).Open := by
  cases work with
  | resolves value => exact open_conclude uncommitted (.ok value)
  | rejects error => exact open_conclude uncommitted (.error error)
  | runs query next => exact ⟨uncommitted, rfl⟩
  | awaits next => exact ⟨uncommitted, rfl⟩

theorem open_restrict (uncommitted : transaction.committed = none) :
    (transaction.restrict options callback).Open := by
  unfold restrict
  split
  · exact ⟨uncommitted, rfl⟩
  · exact open_work uncommitted callback

theorem open_isolate (uncommitted : transaction.committed = none) :
    (transaction.isolate options callback).Open := by
  unfold isolate
  split
  · exact ⟨uncommitted, rfl⟩
  · exact open_restrict uncommitted

/-- Only an open transaction waits for anything. -/
theorem outcome_of_answer {reply : Except Exn JsValue}
    (answered : transaction.answer options callback reply = some after) :
    transaction.outcome = none := by
  cases same : transaction.phase with
  | settled outcome => simp [answer, same] at answered
  | _ => simp [outcome, same]

theorem honest_answer (honest : transaction.Honest) {reply : Except Exn JsValue}
    (answered : transaction.answer options callback reply = some after) : after.Honest := by
  obtain ⟨uncommitted, -⟩ := honest.open (outcome_of_answer answered)
  unfold answer at answered
  split at answered
  · cases answered
    have activated : ({ transaction with isActive := some true } : Transaction ν).committed = none :=
      uncommitted
    exact (open_isolate activated).honest
  · cases answered
    exact uncommitted
  · cases answered
    exact (open_restrict uncommitted).honest
  · cases answered
    exact uncommitted
  · cases answered
    exact (open_work uncommitted callback).honest
  · cases answered
    exact uncommitted
  · rename_i query next row _
    cases answered
    have written : ({ transaction with writes := transaction.writes ++ [query] } :
        Transaction ν).committed = none := uncommitted
    exact (open_work written (next (.ok row))).honest
  · cases answered
    exact (open_work uncommitted _).honest
  · cases answered
    exact (open_work uncommitted _).honest
  · cases answered
  · cases answered
  · cases answered
    rfl
  · cases answered
    exact uncommitted
  · cases answered

end Transaction

/-- How the race stands: the timer won it, the transaction did, or it is still on. -/
structure Standing (options : TransactionOptions) (transactionId : String) (fired : Bool)
    (call : Call ν) : Prop where
  honest : call.transaction.Honest
  undecided : call.outcome = none → fired = false ∧ call.transaction.outcome = none
  decided : ∀ outcome, call.outcome = some outcome →
    if fired then outcome = .error (timeoutError options transactionId)
    else call.transaction.outcome = some outcome

theorem standing_begun : Standing options transactionId false (Call.begun : Call ν) :=
  ⟨rfl, fun _ => ⟨rfl, rfl⟩, fun outcome same => by cases same⟩

theorem Standing.step {fired : Bool} (standing : Standing options transactionId fired call)
    {action : Action} (stepped : call.step options transactionId callback action = some next) :
    Standing options transactionId (fired || action.isTimer) next := by
  cases action with
  | tick millis =>
      cases stepped
      rw [Action.isTimer, Bool.or_false]
      exact ⟨standing.honest, standing.undecided, standing.decided⟩
  | timer =>
      simp only [Call.step] at stepped
      split at stepped
      · rename_i armed
        cases stepped
        have undecided : call.outcome = none := Option.isNone_iff_eq_none.mp armed.1
        rw [Action.isTimer, Bool.or_true, Call.settle, undecided]
        constructor
        · exact standing.honest
        · intro missing
          cases missing
        · intro outcome same
          cases same
          rfl
      · cases stepped
  | answer reply =>
      obtain ⟨transaction, answered, rfl⟩ := Option.map_eq_some_iff.mp stepped
      have honest := Transaction.honest_answer standing.honest answered
      have unsettled := Transaction.outcome_of_answer answered
      rw [Action.isTimer, Bool.or_false]
      cases told : call.outcome with
      | none =>
          obtain ⟨rfl, -⟩ := standing.undecided told
          cases ended : transaction.outcome with
          | none =>
              constructor
              · exact honest
              · exact fun _ => ⟨rfl, ended⟩
              · intro outcome same
                cases same
          | some outcome =>
              simp only [Call.settle]
              constructor
              · exact honest
              · intro missing
                cases missing
              · intro other same
                exact ended.trans same
      | some first =>
          have earlier := standing.decided first told
          cases fired with
          | false =>
              -- The transaction had won already, so nothing could be answered.
              rw [unsettled] at earlier
              cases earlier
          | true =>
              cases ended : transaction.outcome with
              | none =>
                  constructor
                  · exact honest
                  · intro missing
                    cases missing
                  · intro outcome same
                    exact standing.decided outcome (told.trans same)
              | some outcome =>
                  simp only [Call.settle]
                  constructor
                  · exact honest
                  · intro missing
                    cases missing
                  · intro outcome same
                    exact standing.decided outcome (told.trans same)

theorem Standing.run (schedule : List Action) :
    ∀ {fired : Bool} {call final : Call ν}, Standing options transactionId fired call →
      call.run options transactionId callback schedule = some final →
      Standing options transactionId (fired || schedule.any Action.isTimer) final := by
  induction schedule with
  | nil =>
      intro fired call final standing ran
      cases ran
      simpa using standing
  | cons action rest ih =>
      intro fired call final standing ran
      obtain ⟨middle, stepped, remaining⟩ := Option.bind_eq_some_iff.mp ran
      rw [List.any_cons, ← Bool.or_assoc]
      exact ih (standing.step stepped) remaining

theorem Standing.atomic_unless {fired : Bool} (standing : Standing options transactionId fired call) :
    Atomic call ↔ ¬ (fired = true ∧ call.transaction.committed.isSome = true) := by
  have honest := standing.honest
  unfold Atomic
  cases told : call.outcome with
  | none =>
      obtain ⟨rfl, -⟩ := standing.undecided told
      simp
  | some outcome =>
      have decided := standing.decided outcome told
      cases fired with
      | true =>
          cases (show outcome = _ from decided)
          simp
      | false =>
          have ended : call.transaction.outcome = some outcome := decided
          rw [Transaction.Honest, ended] at honest
          cases outcome with
          | ok value => simpa using honest
          | error error => simpa using honest

/-- A call tells the truth exactly if the timer did not fire or the transaction, left to
itself, does not commit. -/
theorem atomic_iff (options : TransactionOptions) (transactionId : String) (callback : Work ν)
    (schedule : List Action) {final : Call ν}
    (ran : Call.begun.run options transactionId callback schedule = some final) :
    Atomic final ↔
      ¬ (schedule.any Action.isTimer = true ∧ commits options callback schedule = true) := by
  have standing := standing_begun.run schedule ran
  have alone : commits options callback schedule = final.transaction.committed.isSome := by
    have own : (Transaction.opened : Transaction ν).run options callback (replies schedule) =
        some final.transaction := run_transaction schedule ran
    rw [commits, own]
  rw [alone]
  exact standing.atomic_unless

/-! ### A work that outlives its timer -/

def slowWork : Work Nat :=
  .runs "INSERT INTO outbox VALUES ('e-1')" fun _ => .resolves 1

def slowOptions : TransactionOptions := ⟨none, some 50, false⟩

/-- The timer fires while the insert is on its way. -/
def lateCommit : List Action :=
  [.answer (.ok .undefined), .tick 50, .timer, .answer (.ok .undefined), .answer (.ok .undefined)]

def quickCommit : List Action :=
  [.answer (.ok .undefined), .tick 20, .answer (.ok .undefined), .answer (.ok .undefined)]

/-- The caller is told of a timeout, and the insert is committed. -/
theorem timed_out_and_committed :
    ∃ final, Call.begun.run slowOptions "t-1" slowWork lateCommit = some final ∧
      ¬ Atomic final :=
  ⟨_, rfl, fun atomic => Option.some_ne_none ["INSERT INTO outbox VALUES ('e-1')"] atomic⟩

theorem atomic_iff_quick :
    ∃ final, Call.begun.run slowOptions "t-1" slowWork quickCommit = some final ∧
      (Atomic final ↔ ¬ (quickCommit.any Action.isTimer = true ∧
        commits slowOptions slowWork quickCommit = true)) :=
  ⟨_, rfl, atomic_iff slowOptions "t-1" slowWork quickCommit rfl⟩

end DrizzleUnitOfWork

end SelfService
