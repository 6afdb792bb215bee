/-
What a run may cost.

A tariff puts a price on what a task asks for and leaves on the trace, and gives every
call a budget.  A task affords its work out of a credit when its prices and the budgets
of the calls it forks stay within the credit, whatever is answered.  Where every body
affords its work out of the budget of its call, no call overspends, and no run costs
more than the budgets of the calls that were made from outside.
-/

import Mathlib.Algebra.Order.Monoid.Canonical.Basic
import SelfService.EventLoop.Trail

namespace EventLoop

variable {S : Signature} {ρ Ext M α β : Type}

/-- Prices and budgets, as amounts of any kind. -/
structure Tariff (S : Signature) (M : Type) where
  request : S.Req → M
  label : S.Mark → M
  budget : S.Call → M

section Amounts

variable [AddCommMonoid M]

def Tariff.price (tariff : Tariff S M) : Event S ρ → M
  | .answered request _ => tariff.request request
  | .marked label => tariff.label label
  | .started _ | .finished _ _ => 0

def spent (tariff : Tariff S M) (trace : Trace S ρ) : M :=
  (trace.map fun entry => tariff.price entry.event).sum

/-- Only calls bring a budget with them. -/
def Tariff.grant (tariff : Tariff S M) : Action S Ext → M
  | .call call => tariff.budget call
  | .resume _ | .answer _ _ _ | .external _ => 0

/-- The budgets of the calls that a schedule makes. -/
def granted (tariff : Tariff S M) (schedule : List (Action S Ext)) : M :=
  (schedule.map tariff.grant).sum

@[simp] theorem spent_nil (tariff : Tariff S M) : spent tariff ([] : Trace S ρ) = 0 := rfl

theorem spent_snoc (tariff : Tariff S M) (trace : Trace S ρ) (entry : Entry S ρ) :
    spent tariff (trace ++ [entry]) = spent tariff trace + tariff.price entry.event := by
  simp [spent]

@[simp] theorem spent_log (tariff : Tariff S M) (sys : System S ρ Ext) (s : Snapshot S ρ)
    (tid : Nat) (event : Event S ρ) :
    spent tariff (s.log sys tid event).trace = spent tariff s.trace + tariff.price event :=
  spent_snoc tariff s.trace _

end Amounts

/-! ### Credits -/

/-- Whatever is answered, the task and what it forks stay within the credit. -/
def Task.Affords [Add M] [LE M] (sys : System S ρ Ext) (tariff : Tariff S M) : Task S α → M → Prop
  | .done _, _ | .fail _, _ => True
  | .sync _ next, credit => ∀ state, (next state).Affords sys tariff credit
  | .mark label next, credit =>
      ∃ rest, tariff.label label + rest ≤ credit ∧ next.Affords sys tariff rest
  | .fork call next, credit =>
      ∃ rest, tariff.budget call + rest ≤ credit ∧ next.Affords sys tariff rest
  | .await request next, credit =>
      ∃ rest, tariff.request request + rest ≤ credit ∧
        ∀ answer before after, sys.perform before request answer = some after →
          (next answer).Affords sys tariff rest

section Rules

variable [AddCommMonoid M] [PartialOrder M] {sys : System S ρ Ext} {tariff : Tariff S M}

theorem Task.Affords.mono {task : Task S α} {credit more : M}
    (affords : task.Affords sys tariff credit) (enough : credit ≤ more) :
    task.Affords sys tariff more := by
  induction task with
  | done value => exact trivial
  | fail error => exact trivial
  | sync update next ih => exact fun state => ih state (affords state)
  | mark label next ih =>
      obtain ⟨rest, within, next⟩ := affords
      exact ⟨rest, within.trans enough, next⟩
  | fork call next ih =>
      obtain ⟨rest, within, next⟩ := affords
      exact ⟨rest, within.trans enough, next⟩
  | await request next ih =>
      obtain ⟨rest, within, next⟩ := affords
      exact ⟨rest, within.trans enough, next⟩

theorem Task.Affords.attempt {task : Task S α} {credit : M}
    (affords : task.Affords sys tariff credit) : task.attempt.Affords sys tariff credit := by
  induction task generalizing credit with
  | done value => exact trivial
  | fail error => exact trivial
  | sync update next ih => exact fun state => ih state (affords state)
  | mark label next ih =>
      obtain ⟨rest, within, next⟩ := affords
      exact ⟨rest, within, ih next⟩
  | fork call next ih =>
      obtain ⟨rest, within, next⟩ := affords
      exact ⟨rest, within, ih next⟩
  | await request next ih =>
      obtain ⟨rest, within, next⟩ := affords
      exact ⟨rest, within, fun answer before after performed =>
        ih answer (next answer before after performed)⟩

theorem Task.Affords.read {rest : S.State → Task S β} {credit : M}
    (next : ∀ state, (rest state).Affords sys tariff credit) :
    (Task.read >>= rest).Affords sys tariff credit := next

variable [IsOrderedAddMonoid M] [CanonicallyOrderedAdd M]

/-- Sequencing: the credits add up. -/
theorem Task.Affords.bind {task : Task S α} {rest : α → Task S β} {first second : M}
    (affords : task.Affords sys tariff first)
    (next : ∀ value, (rest value).Affords sys tariff second) :
    (task >>= rest).Affords sys tariff (first + second) := by
  induction task generalizing first with
  | done value => exact (next value).mono le_add_self
  | fail error => exact trivial
  | sync update onwards ih => exact fun state => ih state (affords state)
  | mark label onwards ih =>
      obtain ⟨left, within, affords⟩ := affords
      refine ⟨left + second, ?_, ih affords⟩
      rw [← add_assoc]
      exact add_le_add_left within second
  | fork call onwards ih =>
      obtain ⟨left, within, affords⟩ := affords
      refine ⟨left + second, ?_, ih affords⟩
      rw [← add_assoc]
      exact add_le_add_left within second
  | await request onwards ih =>
      obtain ⟨left, within, affords⟩ := affords
      refine ⟨left + second, ?_, ?_⟩
      · rw [← add_assoc]
        exact add_le_add_left within second
      · exact fun answer before after performed =>
          ih answer (affords answer before after performed)

/-- What costs nothing can come first. -/
theorem Task.Affords.before {task : Task S α} {rest : α → Task S β} {credit : M}
    (free : task.Affords sys tariff 0) (next : ∀ value, (rest value).Affords sys tariff credit) :
    (task >>= rest).Affords sys tariff credit := by
  rw [← zero_add credit]
  exact free.bind next

/-- What costs nothing can come last. -/
theorem Task.Affords.followed {task : Task S α} {rest : α → Task S β} {credit : M}
    (affords : task.Affords sys tariff credit)
    (free : ∀ value, (rest value).Affords sys tariff 0) :
    (task >>= rest).Affords sys tariff credit := by
  rw [← add_zero credit]
  exact affords.bind free

end Rules

/-! ### One call -/

section Calls

variable [AddCommMonoid M] [PartialOrder M] [IsOrderedAddMonoid M] [CanonicallyOrderedAdd M]
  {sys : System S ρ Ext} {tariff : Tariff S M}

theorem Task.Affords.obeys {tid : Nat} {task : Task S α} {credit bound : M}
    (affords : task.Affords sys tariff credit) {state : S.State} {past : Trace S ρ}
    (within : spent tariff past + credit ≤ bound) :
    Obeys sys tid (fun past entry => spent tariff (past ++ [entry]) ≤ bound)
      (fun _ _ all => spent tariff all ≤ bound) task state past := by
  have pays {price rest credit : M} (cost : price + rest ≤ credit) {past : Trace S ρ}
      (within : spent tariff past + credit ≤ bound) (entry : Entry S ρ)
      (priced : tariff.price entry.event = price) :
      spent tariff (past ++ [entry]) + rest ≤ bound := by
    rw [spent_snoc, priced, add_assoc]
    exact (add_le_add_right cost _).trans within
  induction task generalizing state past credit with
  | done value => exact le_self_add.trans within
  | fail error => exact le_self_add.trans within
  | sync update next ih => exact ih state (affords state) within
  | mark label next ih =>
      obtain ⟨rest, cost, affords⟩ := affords
      have paid := pays cost within ⟨tid, sys.clock state, .marked label⟩ rfl
      exact ⟨le_self_add.trans paid, ih affords paid⟩
  | fork call next ih =>
      obtain ⟨rest, cost, affords⟩ := affords
      have left : rest ≤ credit := le_add_self.trans cost
      exact ih affords ((add_le_add_right left _).trans within)
  | await request next ih =>
      obtain ⟨rest, cost, affords⟩ := affords
      intro answer before after resumed performed
      have paid := pays cost within ⟨tid, sys.clock after, .answered request answer⟩ rfl
      exact ⟨le_self_add.trans paid, ih answer (affords answer before after performed) paid⟩

/-- A call whose body affords its work never overspends its budget. -/
theorem Reachable.within_budget [DecidableEq S.Req] {state : S.State} {p : Pool S ρ}
    (reached : Reachable sys state p) {tid : Nat} {call : S.Call}
    (began : p.snapshot.Saw tid (.started call))
    (body : (sys.body call).Affords sys tariff (tariff.budget call)) :
    spent tariff (ownEntries tid p.snapshot.trace) ≤ tariff.budget call := by
  have lawful : Lawful sys (fun past entry => spent tariff (past ++ [entry]) ≤ tariff.budget call)
      tid call := by
    constructor
    · intro time
      simp [spent, Tariff.price]
    · intro time state
      apply (body.obeys (by simp [spent, Tariff.price])).mono
      intro result last all within time
      rwa [spent_snoc, Tariff.price, add_zero]
  rcases List.eq_nil_or_concat (ownEntries tid p.snapshot.trace) with none | ⟨front, last, own⟩
  · rw [none, spent_nil]
    exact zero_le
  · rw [List.concat_eq_append] at own
    obtain ⟨before, after, split, same, -⟩ := split_of_own own
    have mine : last.tid = tid := by
      have member : last ∈ ownEntries tid p.snapshot.trace := by
        rw [own]
        exact List.mem_append_right front List.mem_cons_self
      exact (mem_ownEntries.mp member).2
    subst mine
    have within := reached.lawful split fun other saw => by
      rw [reached.started_unique saw began]
      exact lawful
    rwa [same, ← own] at within

end Calls

/-! ### The whole run -/

section Runs

/-- An item of a list and its share of the total can be exchanged together. -/
theorem exchange_share {ι : Type} [AddCommMonoid M] {R : ι → M → Prop} {items : List ι} {shares : List M}
    (shared : List.Forall₂ R items shares) {index : Nat} {item : ι}
    (found : items[index]? = some item) :
    ∃ share others, R item share ∧ shares.sum = share + others ∧
      ∀ changed rest, R changed rest →
        ∃ left, List.Forall₂ R (items.set index changed) left ∧ left.sum = rest + others := by
  induction shared generalizing index with
  | nil => cases found
  | @cons first share items shares related shared ih =>
      cases index with
      | zero =>
          cases found
          refine ⟨share, shares.sum, related, List.sum_cons, ?_⟩
          intro changed rest exchanged
          exact ⟨rest :: shares, .cons exchanged shared, List.sum_cons⟩
      | succ index =>
          obtain ⟨own, others, holds, total, exchange⟩ := ih found
          refine ⟨own, share + others, holds, ?_, ?_⟩
          · rw [List.sum_cons, total, add_left_comm]
          · intro changed rest exchanged
            obtain ⟨left, shared, sum⟩ := exchange changed rest exchanged
            refine ⟨share :: left, .cons related shared, ?_⟩
            rw [List.sum_cons, sum, add_left_comm]

variable [AddCommMonoid M] [PartialOrder M] {sys : System S ρ Ext} {tariff : Tariff S M}

/-- A thread in flight affords the rest of its work. -/
def Thread.Funded (sys : System S ρ Ext) (tariff : Tariff S M) : Thread S ρ → M → Prop
  | .running _ task, credit => task.Affords sys tariff credit
  | .finished, _ => True

/-- What was spent and what the threads may still spend is covered. -/
def Solvent (sys : System S ρ Ext) (tariff : Tariff S M) (p : Pool S ρ) (total : M) : Prop :=
  ∃ credits, List.Forall₂ (Thread.Funded sys tariff) p.threads credits ∧
    spent tariff p.snapshot.trace + credits.sum ≤ total

theorem Task.Affords.park {task : Task S ρ} {credit : M}
    (affords : task.Affords sys tariff credit) (tid : Nat) (call : S.Call) (s : Snapshot S ρ) :
    (park sys tid call s task).2.Funded sys tariff credit ∧
      spent tariff (EventLoop.park sys tid call s task).1.trace = spent tariff s.trace := by
  cases task with
  | done value =>
      refine ⟨trivial, ?_⟩
      rw [EventLoop.park, spent_log, Tariff.price, add_zero]
  | fail error =>
      refine ⟨trivial, ?_⟩
      rw [EventLoop.park, spent_log, Tariff.price, add_zero]
  | sync update next => exact ⟨affords, rfl⟩
  | mark label next => exact ⟨affords, rfl⟩
  | fork forked next => exact ⟨affords, rfl⟩
  | await request next => exact ⟨affords, rfl⟩

variable [IsOrderedAddMonoid M]

/-- A segment spends and hands on no more than it had. -/
theorem Task.Affords.settle {task : Task S α} {credit : M}
    (affords : task.Affords sys tariff credit) (tid fresh : Nat) (s : Snapshot S ρ) :
    ∃ rest, (settle sys tid fresh task s).2.2.Affords sys tariff rest ∧
      spent tariff (EventLoop.settle sys tid fresh task s).1.trace +
        (((EventLoop.settle sys tid fresh task s).2.1.map tariff.budget).sum + rest) ≤
          spent tariff s.trace + credit := by
  induction task generalizing fresh s credit with
  | done value => exact ⟨credit, trivial, by simp [EventLoop.settle]⟩
  | fail error => exact ⟨credit, trivial, by simp [EventLoop.settle]⟩
  | sync update next ih => exact ih s.state (affords s.state) fresh { s with state := update s.state }
  | mark label next ih =>
      obtain ⟨rest, cost, affords⟩ := affords
      obtain ⟨left, residual, covered⟩ := ih affords fresh (s.log sys tid (.marked label))
      refine ⟨left, residual, covered.trans ?_⟩
      rw [spent_log, add_assoc]
      exact add_le_add_right cost _
  | fork call next ih =>
      obtain ⟨rest, cost, affords⟩ := affords
      obtain ⟨left, residual, covered⟩ := ih affords (fresh + 1) (s.log sys fresh (.started call))
      rw [spent_log, Tariff.price, add_zero] at covered
      refine ⟨left, residual, ?_⟩
      have more := add_le_add_left covered (tariff.budget call)
      simp only [EventLoop.settle, List.map_cons, List.sum_cons]
      calc _ = _ + tariff.budget call := by ac_rfl
        _ ≤ spent tariff s.trace + rest + tariff.budget call := more
        _ = spent tariff s.trace + (tariff.budget call + rest) := by ac_rfl
        _ ≤ spent tariff s.trace + credit := add_le_add_right cost _
  | await request next ih => exact ⟨credit, affords, by simp [EventLoop.settle]⟩

variable [DecidableEq S.Req] {p next : Pool S ρ} {action : Action S Ext} {total : M}

theorem Solvent.step
    (bodies : ∀ call, (sys.body call).Affords sys tariff (tariff.budget call))
    (solvent : Solvent sys tariff p total) (stepped : p.step sys action = some next) :
    Solvent sys tariff next (total + tariff.grant action) := by
  obtain ⟨credits, funded, covered⟩ := solvent
  cases action with
  | call call =>
      cases stepped
      refine ⟨credits ++ [tariff.budget call], List.rel_append funded (.cons (bodies call) .nil), ?_⟩
      rw [spent_log, Tariff.price, add_zero, List.sum_append, List.sum_singleton, ← add_assoc]
      exact add_le_add_left covered _
  | resume tid =>
      simp only [Pool.step] at stepped
      split at stepped
      · rename_i call task found
        cases stepped
        obtain ⟨credit, others, affords, sum, exchange⟩ := exchange_share funded found
        obtain ⟨rest, residual, segment⟩ :=
          Task.Affords.settle affords tid p.threads.length p.snapshot
        obtain ⟨parked, kept⟩ := residual.park tid call
          (settle sys tid p.threads.length task p.snapshot).1
        obtain ⟨left, shared, leftSum⟩ := exchange _ rest parked
        refine ⟨left ++ (settle sys tid p.threads.length task p.snapshot).2.1.map tariff.budget,
          List.rel_append shared ?_, ?_⟩
        · rw [List.forall₂_map_left_iff, List.forall₂_map_right_iff, List.forall₂_same]
          exact fun forked _ => bodies forked
        · rw [kept, List.sum_append, leftSum, Tariff.grant, add_zero]
          calc _ = spent tariff (settle sys tid p.threads.length task p.snapshot).1.trace +
                (((settle sys tid p.threads.length task p.snapshot).2.1.map tariff.budget).sum +
                  rest) + others := by ac_rfl
            _ ≤ spent tariff p.snapshot.trace + credit + others := add_le_add_left segment others
            _ = spent tariff p.snapshot.trace + credits.sum := by rw [sum, add_assoc]
            _ ≤ total := covered
      · cases stepped
  | answer tid request answer =>
      simp only [Pool.step] at stepped
      split at stepped
      · rename_i call task found
        obtain ⟨delivered, told, rfl⟩ := Option.map_eq_some_iff.mp stepped
        obtain ⟨credit, others, affords, sum, exchange⟩ := exchange_share funded found
        cases task with
        | await awaited next =>
            simp only [deliver] at told
            split at told
            · rename_i same
              subst same
              obtain ⟨state, performed, rfl⟩ := Option.map_eq_some_iff.mp told
              obtain ⟨rest, cost, affords⟩ := affords
              obtain ⟨left, shared, leftSum⟩ :=
                exchange (.running call (next answer)) rest (affords answer _ state performed)
              refine ⟨left, shared, ?_⟩
              rw [spent_log, leftSum, Tariff.grant, add_zero, Tariff.price]
              calc _ = spent tariff p.snapshot.trace + (tariff.request request + rest) + others := by
                    ac_rfl
                _ ≤ spent tariff p.snapshot.trace + credit + others :=
                    add_le_add_left (add_le_add_right cost _) others
                _ = spent tariff p.snapshot.trace + credits.sum := by rw [sum, add_assoc]
                _ ≤ total := covered
            · cases told
        | done value => cases told
        | fail error => cases told
        | sync update next => cases told
        | mark label next => cases told
        | fork forked next => cases told
      · cases stepped
  | external event =>
      obtain ⟨state, -, rfl⟩ := Option.map_eq_some_iff.mp stepped
      rw [Tariff.grant, add_zero]
      exact ⟨credits, funded, covered⟩

theorem Solvent.run (bodies : ∀ call, (sys.body call).Affords sys tariff (tariff.budget call))
    (schedule : List (Action S Ext)) : ∀ {p last : Pool S ρ} {total : M},
      Solvent sys tariff p total → p.run sys schedule = some last →
        Solvent sys tariff last (total + granted tariff schedule) := by
  induction schedule with
  | nil =>
      intro p last total solvent ran
      cases ran
      rw [granted, List.map_nil, List.sum_nil, add_zero]
      exact solvent
  | cons action rest ih =>
      intro p last total solvent ran
      obtain ⟨next, stepped, remaining⟩ := Option.bind_eq_some_iff.mp ran
      rw [granted, List.map_cons, List.sum_cons, ← add_assoc]
      exact ih (solvent.step bodies stepped) remaining

/-- No run costs more than the budgets of the calls that were made from outside. -/
theorem spent_le_granted [CanonicallyOrderedAdd M]
    (bodies : ∀ call, (sys.body call).Affords sys tariff (tariff.budget call))
    {state : S.State} {schedule : List (Action S Ext)}
    (ran : (Pool.initial state).run sys schedule = some p) :
    spent tariff p.snapshot.trace ≤ granted tariff schedule := by
  have broke : Solvent sys tariff (Pool.initial state : Pool S ρ) 0 :=
    ⟨[], .nil, by simp [Pool.initial]⟩
  obtain ⟨credits, -, covered⟩ := broke.run bodies schedule ran
  rw [zero_add] at covered
  exact le_self_add.trans covered

end Runs

end EventLoop
