/-
What a task does in one turn.

A turn lasts from the moment a task is resumed to its next await point or its
end.  `Turns` checks a law along every turn of a task: what the memory and the
task's own entries were when the turn began, what it then waits for or ends with,
and what the memory is at that point.  In a run the turns of a thread are the
actions that resume it.
-/

import SelfService.EventLoop.Alone
import SelfService.EventLoop.Trail

namespace EventLoop

variable {S : Signature} {ρ Ext α β : Type}

/-- How a turn ends. -/
inductive Stop (S : Signature) (ρ : Type) : Type
  | awaits (request : S.Req)
  | ends (result : Except S.Err ρ)

/-- A law relates the beginning of a turn to its end.  The traces are the task's own. -/
abbrev TurnLaw (S : Signature) (ρ : Type) := Snapshot S ρ → Stop S ρ → Snapshot S ρ → Prop

/-- What a task sees of a snapshot: the memory and its own entries. -/
def Snapshot.own (s : Snapshot S ρ) (tid : Nat) : Snapshot S ρ := ⟨s.state, ownEntries tid s.trace⟩

/-- The task's own snapshot when it resumes with an answer. -/
def Snapshot.told (sys : System S ρ Ext) (s : Snapshot S ρ) (tid : Nat) (request : S.Req)
    (answer : S.Ans request) (after resumed : S.State) : Snapshot S ρ :=
  ⟨resumed, s.trace ++ [⟨tid, sys.clock after, .answered request answer⟩]⟩

/-- From the middle of a turn that began in the first snapshot, every turn of the task obeys
the law, and the last one leads to `post`. -/
def Turns (sys : System S ρ Ext) (tid : Nat) (law : TurnLaw S ρ)
    (post : Except S.Err α → Snapshot S ρ → Snapshot S ρ → Prop) :
    Task S α → Snapshot S ρ → Snapshot S ρ → Prop
  | .done value, start, s => post (.ok value) start s
  | .fail error, start, s => post (.error error) start s
  | .sync update next, start, s =>
      Turns sys tid law post (next s.state) start { s with state := update s.state }
  | .mark label next, start, s =>
      Turns sys tid law post next start (s.log sys tid (.marked label))
  | .fork _ next, start, s => Turns sys tid law post next start s
  | .await request next, start, s =>
      law start (.awaits request) s ∧
        ∀ answer before after resumed, sys.perform before request answer = some after →
          Turns sys tid law post (next answer) (s.told sys tid request answer after resumed)
            (s.told sys tid request answer after resumed)

section Rules

variable {sys : System S ρ Ext} {tid : Nat} {law : TurnLaw S ρ}

theorem Turns.mono {post weaker : Except S.Err α → Snapshot S ρ → Snapshot S ρ → Prop}
    {task : Task S α} {start s : Snapshot S ρ} (turns : Turns sys tid law post task start s)
    (imp : ∀ result start last, post result start last → weaker result start last) :
    Turns sys tid law weaker task start s := by
  induction task generalizing start s with
  | done value => exact imp _ _ _ turns
  | fail error => exact imp _ _ _ turns
  | sync update next ih => exact ih s.state turns
  | mark label next ih => exact ih turns
  | fork call next ih => exact ih turns
  | await request next ih =>
      refine ⟨turns.1, ?_⟩
      intro answer before after resumed performed
      exact ih answer (turns.2 answer before after resumed performed)

theorem turns_bind (post : Except S.Err β → Snapshot S ρ → Snapshot S ρ → Prop)
    (task : Task S α) (rest : α → Task S β) (start s : Snapshot S ρ) :
    Turns sys tid law post (task >>= rest) start s ↔
      Turns sys tid law (fun result start last =>
        match result with
        | .ok value => Turns sys tid law post (rest value) start last
        | .error error => post (.error error) start last) task start s := by
  induction task generalizing start s with
  | done value => exact Iff.rfl
  | fail error => exact Iff.rfl
  | sync update next ih => exact ih s.state start _
  | mark label next ih => exact ih start _
  | fork call next ih => exact ih start s
  | await request next ih =>
      refine and_congr_right fun _ => forall_congr' fun answer => forall_congr' fun before =>
        forall_congr' fun after => forall_congr' fun resumed => imp_congr_right fun _ =>
        ih answer _ _

theorem turns_attempt (post : Except S.Err (Except S.Err α) → Snapshot S ρ → Snapshot S ρ → Prop)
    (task : Task S α) (start s : Snapshot S ρ) :
    Turns sys tid law post task.attempt start s ↔
      Turns sys tid law (fun result start last => post (.ok result) start last) task start s := by
  induction task generalizing start s with
  | done value => exact Iff.rfl
  | fail error => exact Iff.rfl
  | sync update next ih => exact ih s.state start _
  | mark label next ih => exact ih start _
  | fork call next ih => exact ih start s
  | await request next ih =>
      refine and_congr_right fun _ => forall_congr' fun answer => forall_congr' fun before =>
        forall_congr' fun after => forall_congr' fun resumed => imp_congr_right fun _ =>
        ih answer _ _

theorem turns_read (post : Except S.Err β → Snapshot S ρ → Snapshot S ρ → Prop)
    (rest : S.State → Task S β) (start s : Snapshot S ρ) :
    Turns sys tid law post (Task.read >>= rest) start s ↔
      Turns sys tid law post (rest s.state) start s := Iff.rfl

theorem turns_modify (post : Except S.Err β → Snapshot S ρ → Snapshot S ρ → Prop)
    (update : S.State → S.State) (rest : Unit → Task S β) (start s : Snapshot S ρ) :
    Turns sys tid law post (Task.modify update >>= rest) start s ↔
      Turns sys tid law post (rest ()) start { s with state := update s.state } := Iff.rfl

theorem turns_note (post : Except S.Err β → Snapshot S ρ → Snapshot S ρ → Prop) (label : S.Mark)
    (rest : Unit → Task S β) (start s : Snapshot S ρ) :
    Turns sys tid law post (Task.note label >>= rest) start s ↔
      Turns sys tid law post (rest ()) start (s.log sys tid (.marked label)) := Iff.rfl

/-- A law that allows every turn. -/
theorem turns_of_forall (lawful : ∀ start stop last, law start stop last)
    {post : Except S.Err α → Snapshot S ρ → Snapshot S ρ → Prop}
    (ended : ∀ result start last, post result start last) (task : Task S α)
    {start s : Snapshot S ρ} : Turns sys tid law post task start s := by
  induction task generalizing start s with
  | done value => exact ended _ _ _
  | fail error => exact ended _ _ _
  | sync update next ih => exact ih s.state
  | mark label next ih => exact ih
  | fork call next ih => exact ih
  | await request next ih => exact ⟨lawful _ _ _, fun answer _ _ _ _ => ih answer⟩

/-- Sequencing: what the first task can lead to goes on lawfully. -/
theorem Turns.andThen {middle : Except S.Err α → Snapshot S ρ → Snapshot S ρ → Prop}
    {post : Except S.Err β → Snapshot S ρ → Snapshot S ρ → Prop} {task : Task S α}
    {rest : α → Task S β} {start s : Snapshot S ρ}
    (first : Turns sys tid law middle task start s)
    (failed : ∀ error start last, middle (.error error) start last →
      post (.error error) start last)
    (next : ∀ value start last, middle (.ok value) start last →
      Turns sys tid law post (rest value) start last) :
    Turns sys tid law post (task >>= rest) start s := by
  rw [turns_bind]
  apply first.mono
  intro result start last ended
  cases result with
  | ok value => exact next value start last ended
  | error error => exact failed error start last ended

theorem Snapshot.own_log_self (s : Snapshot S ρ) (event : Event S ρ) :
    (s.log sys tid event).own tid = (s.own tid).log sys tid event := by
  rw [Snapshot.own, Snapshot.log_trace, ownEntries_append, ownEntries_self]
  rfl

theorem Snapshot.own_log_other {other : Nat} (different : other ≠ tid) (s : Snapshot S ρ)
    (event : Event S ρ) : (s.log sys other event).own tid = s.own tid := by
  rw [Snapshot.own, Snapshot.log_trace, ownEntries_append, ownEntries_other different,
    List.append_nil]
  rfl

/-- Running a segment takes the task to the end of its turn. -/
theorem Turns.settle {post : Except S.Err α → Snapshot S ρ → Snapshot S ρ → Prop}
    {task : Task S α} {start s : Snapshot S ρ} {fresh : Nat}
    (turns : Turns sys tid law post task start (s.own tid)) (own : tid < fresh) :
    Turns sys tid law post (settle sys tid fresh task s).2.2 start
      ((EventLoop.settle sys tid fresh task s).1.own tid) := by
  induction task generalizing fresh s with
  | done value => exact turns
  | fail error => exact turns
  | sync update next ih => exact ih s.state (s := { s with state := update s.state }) turns own
  | mark label next ih =>
      apply ih (s := s.log sys tid (.marked label)) _ own
      rw [Snapshot.own_log_self]
      exact turns
  | fork call next ih =>
      apply ih (s := s.log sys fresh (.started call)) _ (by omega)
      rw [Snapshot.own_log_other (by omega)]
      exact turns
  | await request next ih => exact turns

end Rules

/-! ### Tasks that leave a part of the memory alone -/

/-- No update of the task changes this part of the memory. -/
def Task.Leaves {γ : Type} (part : S.State → γ) : Task S α → Prop
  | .done _ | .fail _ => True
  | .sync update next => (∀ state, part (update state) = part state) ∧
      ∀ state, (next state).Leaves part
  | .mark _ next | .fork _ next => next.Leaves part
  | .await _ next => ∀ answer, (next answer).Leaves part

section Leaving

variable {γ : Type} {part : S.State → γ}

theorem Task.Leaves.bind {task : Task S α} {rest : α → Task S β} (first : task.Leaves part)
    (second : ∀ value, (rest value).Leaves part) : (task >>= rest).Leaves part := by
  induction task with
  | done value => exact second value
  | fail error => exact trivial
  | sync update next ih => exact ⟨first.1, fun state => ih state (first.2 state)⟩
  | mark label next ih => exact ih first
  | fork call next ih => exact ih first
  | await request next ih => exact fun answer => ih answer (first answer)

theorem Task.Leaves.attempt {task : Task S α} (leaves : task.Leaves part) :
    task.attempt.Leaves part := by
  induction task with
  | done value => exact trivial
  | fail error => exact trivial
  | sync update next ih => exact ⟨leaves.1, fun state => ih state (leaves.2 state)⟩
  | mark label next ih => exact ih leaves
  | fork call next ih => exact ih leaves
  | await request next ih => exact fun answer => ih answer (leaves answer)

theorem Task.Leaves.turns {sys : System S ρ Ext} {tid : Nat} {task : Task S α}
    (leaves : task.Leaves part) {start s : Snapshot S ρ} (same : part s.state = part start.state) :
    Turns sys tid (fun start _ last => part last.state = part start.state)
      (fun _ start last => part last.state = part start.state) task start s := by
  induction task generalizing start s with
  | done value => exact same
  | fail error => exact same
  | sync update next ih => exact ih s.state (leaves.2 s.state) ((leaves.1 s.state).trans same)
  | mark label next ih => exact ih leaves same
  | fork call next ih => exact ih leaves same
  | await request next ih => exact ⟨same, fun answer _ _ _ _ => ih answer (leaves answer) rfl⟩

end Leaving

/-! ### Threads -/

section Threads

variable (sys : System S ρ Ext) (law : S.Call → TurnLaw S ρ)

/-- The turn that ends the call ends it lawfully. -/
def EndsLawfully (law : S.Call → TurnLaw S ρ) (call : S.Call) (result : Except S.Err ρ)
    (start last : Snapshot S ρ) : Prop :=
  law call start (.ends result) last

/-- Whatever the memory is, the task goes on lawfully from a new turn. -/
def Fresh (tid : Nat) (call : S.Call) (task : Task S ρ) (own : Trace S ρ) : Prop :=
  ∀ state, Turns sys tid (law call) (EndsLawfully law call) task ⟨state, own⟩ ⟨state, own⟩

/-- Whatever it is answered, the task goes on lawfully. -/
def Suspended (tid : Nat) (call : S.Call) (task : Task S ρ) (own : Trace S ρ) : Prop :=
  ∃ request next, task = .await request next ∧
    ∀ answer before after, sys.perform before request answer = some after →
      Fresh sys law tid call (next answer)
        (own ++ [⟨tid, sys.clock after, .answered request answer⟩])

structure TurnInv (p : Pool S ρ) : Prop where
  traced : Traced sys p
  threads : ∀ tid call task, p.threads[tid]? = some (.running call task) →
    Fresh sys law tid call task (ownEntries tid p.snapshot.trace) ∨
      Suspended sys law tid call task (ownEntries tid p.snapshot.trace)

/-- Every call goes through lawful turns from its start. -/
def TurnLawful : Prop :=
  ∀ tid call time, Fresh sys law tid call (sys.body call) [⟨tid, time, .started call⟩]

variable {sys law} {p : Pool S ρ} {tid : Nat} {call : S.Call} {task : Task S ρ}

theorem turnInv_initial (state : S.State) : TurnInv sys law (Pool.initial state : Pool S ρ) :=
  ⟨traced_initial state, by simp [Pool.initial]⟩

theorem Fresh.suspended {request : S.Req} {next : S.Ans request → Task S ρ} {own : Trace S ρ}
    (fresh : Fresh sys law tid call (.await request next) own) (state : S.State) :
    Suspended sys law tid call (.await request next) own :=
  ⟨request, next, rfl, fun answer before after performed resumed =>
    (fresh state).2 answer before after resumed performed⟩

/-- What a turn from a fresh task comes to. -/
theorem Fresh.turn {s : Snapshot S ρ} {bound : Nat}
    (fresh : Fresh sys law tid call task (ownEntries tid s.trace)) (own : tid < bound) :
    Turns sys tid (law call) (EndsLawfully law call) (settle sys tid bound task s).2.2
      (s.own tid) ((settle sys tid bound task s).1.own tid) :=
  (fresh s.state).settle own

/-- Parking a task at the end of its lawful turn leaves it suspended. -/
theorem suspended_of_park {start s : Snapshot S ρ}
    (turns : Turns sys tid (law call) (EndsLawfully law call) task start (s.own tid))
    (settled : task.Settled) {current : S.Call} {rest : Task S ρ}
    (parked : (park sys tid call s task).2 = .running current rest) :
    current = call ∧ rest = task ∧ (park sys tid call s task).1 = s ∧
      Suspended sys law tid call task (ownEntries tid s.trace) := by
  cases task with
  | done value => cases parked
  | fail error => cases parked
  | sync update next => cases settled
  | mark label next => cases settled
  | fork forked next => cases settled
  | await request next =>
      cases parked
      exact ⟨rfl, rfl, rfl, request, next, rfl, fun answer before after performed resumed =>
        turns.2 answer before after resumed performed⟩

theorem TurnInv.of_follows (inv : TurnInv sys law p)
    (found : p.threads[tid]? = some (.running call task)) {later : Snapshot S ρ}
    (follows : p.snapshot.Follows tid later) :
    Fresh sys law tid call task (ownEntries tid later.trace) ∨
      Suspended sys law tid call task (ownEntries tid later.trace) := by
  rw [follows.ownEntries_eq]
  exact inv.threads tid call task found

theorem TurnInv.started (lawful : TurnLawful sys law) (inv : TurnInv sys law p) (call : S.Call) :
    TurnInv sys law
      { snapshot := p.snapshot.log sys p.threads.length (.started call)
        threads := p.threads ++ [.running call (sys.body call)] } := by
  refine ⟨inv.traced.call call, ?_⟩
  intro tid current task found
  by_cases older : tid < p.threads.length
  · rw [List.getElem?_append_left older] at found
    exact inv.of_follows found (p.snapshot.follows_log sys _ (by omega))
  · rw [List.getElem?_append_right (by omega)] at found
    have atEnd : tid = p.threads.length := by
      have within := (List.getElem?_eq_some_iff.mp found).1
      simp only [List.length_cons, List.length_nil] at within
      omega
    subst atEnd
    simp only [Nat.sub_self, List.getElem?_cons_zero, Option.some.injEq,
      Thread.running.injEq] at found
    obtain ⟨rfl, rfl⟩ := found
    left
    rw [Snapshot.log_trace, ownEntries_append,
      ownEntries_eq_nil fun entry member => Nat.ne_of_lt (inv.traced.bounded entry member),
      ownEntries_self]
    exact lawful _ _ _

/-- A call that a resumed thread forks has its first turn before it. -/
theorem TurnInv.forked (lawful : TurnLawful sys law) (inv : TurnInv sys law p)
    (found : p.threads[tid]? = some (.running call task)) {other : Nat}
    (younger : p.threads.length ≤ other) {forked : S.Call}
    (forkedAt : (settle sys tid p.threads.length task p.snapshot).2.1[other - p.threads.length]? =
      some forked) :
    let segment := settle sys tid p.threads.length task p.snapshot
    Fresh sys law other forked (sys.body forked)
      (ownEntries other (park sys tid call segment.1 segment.2.2).1.trace) := by
  intro segment
  have own : tid < p.threads.length := (List.getElem?_eq_some_iff.mp found).1
  obtain ⟨moment, alone⟩ := settle_forked task p.threads.length p.snapshot own
    inv.traced.bounded (other - p.threads.length) forked forkedAt
  rw [Nat.add_sub_cancel' younger] at alone
  have follows : segment.1.Follows other (park sys tid call segment.1 segment.2.2).1 :=
    park_follows call segment.2.2 segment.1 (show tid ≠ other by omega)
  rw [follows.ownEntries_eq, alone]
  exact lawful _ _ _

/-- A resumed thread that was suspended stays as it was; any other is now suspended. -/
theorem TurnInv.resume (lawful : TurnLawful sys law) (inv : TurnInv sys law p)
    (found : p.threads[tid]? = some (.running call task)) :
    let segment := settle sys tid p.threads.length task p.snapshot
    let parked := park sys tid call segment.1 segment.2.2
    TurnInv sys law
      { snapshot := parked.1
        threads := p.threads.set tid parked.2 ++
          segment.2.1.map fun forked => .running forked (sys.body forked) } := by
  intro segment parked
  have own : tid < p.threads.length := (List.getElem?_eq_some_iff.mp found).1
  refine ⟨inv.traced.resume found, ?_⟩
  intro other current rest at_
  by_cases older : other < p.threads.length
  · rw [List.getElem?_append_left (by simpa using older)] at at_
    by_cases same : tid = other
    · subst same
      rw [List.getElem?_set_self own, Option.some.injEq] at at_
      right
      rcases inv.threads tid call task found with fresh | ⟨request, next, rfl, onwards⟩
      · obtain ⟨rfl, rfl, still, suspended⟩ := suspended_of_park (fresh.turn own)
          (settle_settled task p.threads.length p.snapshot) at_
        change Suspended sys law tid current segment.2.2 (ownEntries tid parked.1.trace)
        rw [show parked.1 = segment.1 from still]
        exact suspended
      · cases at_
        exact ⟨request, next, rfl, onwards⟩
    · rw [List.getElem?_set_ne same] at at_
      exact inv.of_follows at_ ((settle_follows task _ p.snapshot same older).trans
        (park_follows call segment.2.2 segment.1 same))
  · rw [List.getElem?_append_right (by simpa using older)] at at_
    simp only [List.length_set, List.getElem?_map, Option.map_eq_some_iff,
      Thread.running.injEq] at at_
    obtain ⟨forked, forkedAt, rfl, rfl⟩ := at_
    left
    exact inv.forked lawful found (Nat.le_of_not_lt older) forkedAt

theorem delivered_log [DecidableEq S.Req] {s : Snapshot S ρ} {request : S.Req}
    {answer : S.Ans request} {delivered : Snapshot S ρ × Task S ρ}
    (told : deliver sys s tid request answer task = some delivered) :
    ∃ after, sys.perform s.state request answer = some after ∧
      delivered.1 = (⟨after, s.trace⟩ : Snapshot S ρ).log sys tid (.answered request answer) := by
  cases task with
  | await awaited next =>
      simp only [deliver] at told
      split at told
      · rename_i same
        subst same
        obtain ⟨after, performed, rfl⟩ := Option.map_eq_some_iff.mp told
        exact ⟨after, performed, rfl⟩
      · cases told
  | done value => cases told
  | fail error => cases told
  | sync update next => cases told
  | mark label next => cases told
  | fork forked next => cases told

/-- After an answer the thread is about to begin a turn. -/
theorem TurnInv.told [DecidableEq S.Req] (inv : TurnInv sys law p) {request : S.Req}
    {answer : S.Ans request} (found : p.threads[tid]? = some (.running call task))
    {delivered : Snapshot S ρ × Task S ρ}
    (told : deliver sys p.snapshot tid request answer task = some delivered) :
    Fresh sys law tid call delivered.2 (ownEntries tid delivered.1.trace) := by
  cases task with
  | await awaited next =>
      simp only [deliver] at told
      split at told
      · rename_i same
        subst same
        obtain ⟨after, performed, rfl⟩ := Option.map_eq_some_iff.mp told
        change Fresh sys law tid call (next answer)
          (ownEntries tid (p.snapshot.trace ++ [⟨tid, sys.clock after, .answered request answer⟩]))
        rw [ownEntries_append, ownEntries_self]
        rcases inv.threads tid call _ found with fresh | ⟨awaited, rest, same, onwards⟩
        · exact fun resumed =>
            (fresh p.snapshot.state).2 answer p.snapshot.state after resumed performed
        · cases same
          exact onwards answer p.snapshot.state after performed
      · cases told
  | done value => cases told
  | fail error => cases told
  | sync update next => cases told
  | mark label next => cases told
  | fork forked next => cases told

theorem TurnInv.answer [DecidableEq S.Req] (inv : TurnInv sys law p) {request : S.Req}
    {answer : S.Ans request} (found : p.threads[tid]? = some (.running call task))
    {delivered : Snapshot S ρ × Task S ρ}
    (told : deliver sys p.snapshot tid request answer task = some delivered) :
    TurnInv sys law
      { snapshot := delivered.1
        threads := p.threads.set tid (.running call delivered.2) } := by
  have own : tid < p.threads.length := (List.getElem?_eq_some_iff.mp found).1
  refine ⟨inv.traced.answer found told, ?_⟩
  intro other current rest at_
  by_cases same : tid = other
  · subst same
    rw [List.getElem?_set_self own, Option.some.injEq, Thread.running.injEq] at at_
    obtain ⟨rfl, rfl⟩ := at_
    left
    exact inv.told found told
  · rw [List.getElem?_set_ne same] at at_
    apply inv.of_follows at_
    obtain ⟨after, -, logged⟩ := delivered_log told
    change p.snapshot.Follows other delivered.1
    rw [logged]
    exact (Snapshot.follows_of_trace_eq rfl).trans
      (Snapshot.follows_log sys ⟨after, p.snapshot.trace⟩ _ same)

/-- The thread has come to this stop, with the snapshot that the turn ended in. -/
def Stopped (sys : System S ρ Ext) (next : Pool S ρ) (tid : Nat) (call : S.Call)
    (last : Snapshot S ρ) : Stop S ρ → Prop
  | .awaits request => next.snapshot = last ∧
      ∃ rest, next.threads[tid]? = some (.running call (.await request rest))
  | .ends result => next.snapshot = last.log sys tid (.finished call result) ∧
      next.threads[tid]? = some .finished

theorem Stopped.state_eq {next : Pool S ρ} {last : Snapshot S ρ} {stop : Stop S ρ}
    (stopped : Stopped sys next tid call last stop) : next.snapshot.state = last.state := by
  cases stop with
  | awaits request => rw [stopped.1]
  | ends result => rw [stopped.1, Snapshot.log_state]

variable [DecidableEq S.Req]

theorem TurnInv.step (lawful : TurnLawful sys law) (inv : TurnInv sys law p)
    (action : Action S Ext) {next : Pool S ρ} (stepped : p.step sys action = some next) :
    TurnInv sys law next := by
  cases action with
  | call call =>
      cases stepped
      exact inv.started lawful call
  | resume tid =>
      simp only [Pool.step] at stepped
      split at stepped
      · rename_i call task found
        cases stepped
        exact inv.resume lawful found
      · cases stepped
  | answer tid request answer =>
      simp only [Pool.step] at stepped
      split at stepped
      · rename_i call task found
        obtain ⟨delivered, told, rfl⟩ := Option.map_eq_some_iff.mp stepped
        exact inv.answer found told
      · cases stepped
  | external event =>
      obtain ⟨state, moved, rfl⟩ := Option.map_eq_some_iff.mp stepped
      exact ⟨inv.traced.step (.external event) (by rw [Pool.step, moved]; rfl), inv.threads⟩

theorem TurnInv.run (lawful : TurnLawful sys law) (schedule : List (Action S Ext)) :
    ∀ {p final : Pool S ρ}, TurnInv sys law p → p.run sys schedule = some final →
      TurnInv sys law final := by
  induction schedule with
  | nil =>
      intro p final inv ran
      cases ran
      exact inv
  | cons action rest ih =>
      intro p final inv ran
      obtain ⟨next, stepped, remaining⟩ := Option.bind_eq_some_iff.mp ran
      exact ih (inv.step lawful action stepped) remaining

theorem TurnLawful.reachable (lawful : TurnLawful sys law) {state : S.State}
    (reached : Reachable sys state p) : TurnInv sys law p := by
  obtain ⟨schedule, ran⟩ := reached
  exact TurnInv.run lawful schedule (turnInv_initial state) ran

/-- In every run, whoever is resumed in the middle of a call takes a lawful turn. -/
theorem Reachable.turn (lawful : TurnLawful sys law) {state : S.State}
    (reached : Reachable sys state p) {next : Pool S ρ}
    (found : p.threads[tid]? = some (.running call task))
    (ready : ∀ request rest, task ≠ .await request rest)
    (stepped : p.step sys (.resume tid) = some next) :
    ∃ stop last, Stopped sys next tid call last stop ∧
      law call (p.snapshot.own tid) stop (last.own tid) := by
  have own : tid < p.threads.length := (List.getElem?_eq_some_iff.mp found).1
  have inv := lawful.reachable reached
  rw [Pool.step_resume found] at stepped
  cases stepped
  rcases inv.threads tid call task found with fresh | ⟨request, rest, rfl, -⟩
  · have turns := fresh.turn own
    have settled : (settle sys tid p.threads.length task p.snapshot).2.2.Settled :=
      settle_settled task p.threads.length p.snapshot
    generalize settle sys tid p.threads.length task p.snapshot = segment at turns settled ⊢
    obtain ⟨s, forked, rest⟩ := segment
    have stands (parked : Thread S ρ) (others : List (Thread S ρ)) :
        (p.threads.set tid parked ++ others)[tid]? = some parked := by
      rw [List.getElem?_append_left (by rw [List.length_set]; exact own),
        List.getElem?_set_self own]
    cases rest with
    | done value => exact ⟨.ends (.ok value), s, ⟨rfl, stands _ _⟩, turns⟩
    | fail error => exact ⟨.ends (.error error), s, ⟨rfl, stands _ _⟩, turns⟩
    | sync update next => cases settled
    | mark label next => cases settled
    | fork forked next => cases settled
    | await request next => exact ⟨.awaits request, s, ⟨rfl, next, stands _ _⟩, turns.1⟩
  · exact absurd rfl (ready request rest)

/-- A thread that did not wait for its request before was resumed, or waits before it had
a turn. -/
theorem Reachable.comes_to_await (lawful : TurnLawful sys law) {state : S.State}
    (reached : Reachable sys state p) {action : Action S Ext} {next : Pool S ρ}
    (stepped : p.step sys action = some next) {request : S.Req}
    {rest : S.Ans request → Task S ρ}
    (waits : next.threads[tid]? = some (.running call (.await request rest))) :
    p.threads[tid]? = some (.running call (.await request rest)) ∨
      (action = .resume tid ∧ (∃ task, p.threads[tid]? = some (.running call task)) ∧
        law call (p.snapshot.own tid) (.awaits request) (next.snapshot.own tid)) ∨
      ∀ state, law call ⟨state, ownEntries tid next.snapshot.trace⟩ (.awaits request)
        ⟨state, ownEntries tid next.snapshot.trace⟩ := by
  have inv := lawful.reachable reached
  have fresh_waits {task : Task S ρ} {own : Trace S ρ} (fresh : Fresh sys law tid call task own)
      (same : task = .await request rest) :
      ∀ state, law call ⟨state, own⟩ (.awaits request) ⟨state, own⟩ := by
    subst same
    exact fun state => (fresh state).1
  cases action with
  | call started =>
      cases stepped
      by_cases older : tid < p.threads.length
      · rw [List.getElem?_append_left older] at waits
        exact Or.inl waits
      · right
        right
        rw [List.getElem?_append_right (by omega)] at waits
        have within := (List.getElem?_eq_some_iff.mp waits).1
        simp only [List.length_cons, List.length_nil] at within
        have atEnd : tid = p.threads.length := by omega
        subst atEnd
        simp only [Nat.sub_self, List.getElem?_cons_zero, Option.some.injEq,
          Thread.running.injEq] at waits
        obtain ⟨rfl, same⟩ := waits
        apply fresh_waits _ same
        rw [Snapshot.log_trace, ownEntries_append,
          ownEntries_eq_nil fun entry member => Nat.ne_of_lt (inv.traced.bounded entry member),
          ownEntries_self]
        exact lawful _ _ _
  | resume other =>
      have stepping := stepped
      simp only [Pool.step] at stepped
      split at stepped
      · rename_i current task found
        by_cases same : other = tid
        · subst same
          by_cases waiting : ∃ request rest, task = .await request rest
          · obtain ⟨awaited, next, rfl⟩ := waiting
            rw [Pool.step_resume_await found] at stepping
            cases stepping
            exact Or.inl waits
          · right
            left
            have ready : ∀ request rest, task ≠ .await request rest :=
              fun request rest equal => waiting ⟨request, rest, equal⟩
            obtain ⟨stop, last, stopped, obeyed⟩ := reached.turn lawful found ready stepping
            cases stop with
            | awaits awaited =>
                obtain ⟨rfl, onwards, there⟩ := stopped
                rw [there] at waits
                cases waits
                exact ⟨rfl, ⟨task, found⟩, obeyed⟩
            | ends result =>
                rw [stopped.2] at waits
                cases waits
        · cases stepped
          by_cases older : tid < p.threads.length
          · rw [List.getElem?_append_left (by simpa using older), List.getElem?_set_ne same] at waits
            exact Or.inl waits
          · right
            right
            rw [List.getElem?_append_right (by simpa using older)] at waits
            simp only [List.length_set, List.getElem?_map, Option.map_eq_some_iff,
              Thread.running.injEq] at waits
            obtain ⟨forked, forkedAt, rfl, same⟩ := waits
            exact fresh_waits (inv.forked lawful found (Nat.le_of_not_lt older) forkedAt) same
      · cases stepped
  | answer other asked answer =>
      simp only [Pool.step] at stepped
      split at stepped
      · rename_i current task found
        obtain ⟨delivered, told, rfl⟩ := Option.map_eq_some_iff.mp stepped
        have own : other < p.threads.length := (List.getElem?_eq_some_iff.mp found).1
        by_cases same : other = tid
        · subst same
          right
          right
          rw [List.getElem?_set_self own, Option.some.injEq, Thread.running.injEq] at waits
          obtain ⟨rfl, same⟩ := waits
          exact fresh_waits (inv.told found told) same
        · rw [List.getElem?_set_ne same] at waits
          exact Or.inl waits
      · cases stepped
  | external event =>
      obtain ⟨state, moved, rfl⟩ := Option.map_eq_some_iff.mp stepped
      exact Or.inl waits

/-- The action moves this thread. -/
def Action.Moves (tid : Nat) : Action S Ext → Prop
  | .resume other | .answer other _ _ => other = tid
  | .call _ | .external _ => False

/-- A thread that an action does not move stays as it is, and its entries with it. -/
theorem Pool.step_other {action : Action S Ext} {next : Pool S ρ} {thread : Thread S ρ}
    (stepped : p.step sys action = some next) (found : p.threads[tid]? = some thread)
    (unmoved : ¬ action.Moves tid) :
    next.threads[tid]? = some thread ∧ p.snapshot.Follows tid next.snapshot := by
  have own : tid < p.threads.length := (List.getElem?_eq_some_iff.mp found).1
  cases action with
  | call call =>
      cases stepped
      constructor
      · rw [List.getElem?_append_left own]
        exact found
      · exact p.snapshot.follows_log sys _ (by omega)
  | resume other =>
      have different : other ≠ tid := unmoved
      simp only [Pool.step] at stepped
      split at stepped
      · rename_i call task there
        cases stepped
        constructor
        · rw [List.getElem?_append_left (by rw [List.length_set]; exact own),
            List.getElem?_set_ne different]
          exact found
        · exact (settle_follows task _ p.snapshot different own).trans
            (park_follows call _ _ different)
      · cases stepped
  | answer other request answer =>
      have different : other ≠ tid := unmoved
      simp only [Pool.step] at stepped
      split at stepped
      · rename_i call task there
        obtain ⟨delivered, told, rfl⟩ := Option.map_eq_some_iff.mp stepped
        constructor
        · rw [List.getElem?_set_ne different]
          exact found
        · obtain ⟨after, -, logged⟩ := delivered_log told
          change p.snapshot.Follows tid delivered.1
          rw [logged]
          exact (Snapshot.follows_of_trace_eq rfl).trans
            (Snapshot.follows_log sys ⟨after, p.snapshot.trace⟩ _ different)
      · cases stepped
  | external event =>
      obtain ⟨state, moved, rfl⟩ := Option.map_eq_some_iff.mp stepped
      exact ⟨found, Snapshot.follows_of_trace_eq rfl⟩

end Threads

end EventLoop
