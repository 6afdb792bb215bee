/-
Two memories that no task tells apart.

A task is blind to a relation on memories if its updates keep the relation and
it goes on the same way in related memories.  Two pools with the same threads and
related memories then run in lockstep, and leave the same trace.
-/

import SelfService.EventLoop.Pool

namespace EventLoop

variable {S : Signature} {ρ Ext α β : Type}

/-- The task goes on the same way in related memories, and keeps them related. -/
def Task.Blind (R : S.State → S.State → Prop) : Task S α → Prop
  | .done _ | .fail _ => True
  | .sync update next => ∀ state other, R state other →
      R (update state) (update other) ∧ next state = next other ∧ (next state).Blind R
  | .mark _ next | .fork _ next => next.Blind R
  | .await _ next => ∀ answer, (next answer).Blind R

section Blind

variable {R : S.State → S.State → Prop}

theorem Task.Blind.bind {task : Task S α} {rest : α → Task S β} (first : task.Blind R)
    (second : ∀ value, (rest value).Blind R) : (task >>= rest).Blind R := by
  induction task with
  | done value => exact second value
  | fail error => exact trivial
  | sync update next ih =>
      intro state other related
      obtain ⟨kept, same, blind⟩ := first state other related
      exact ⟨kept, congrArg (Task.bind · rest) same, ih state blind⟩
  | mark label next ih => exact ih first
  | fork call next ih => exact ih first
  | await request next ih => exact fun answer => ih answer (first answer)

theorem Task.Blind.attempt {task : Task S α} (blind : task.Blind R) : task.attempt.Blind R := by
  induction task with
  | done value => exact trivial
  | fail error => exact trivial
  | sync update next ih =>
      intro state other related
      obtain ⟨kept, same, onwards⟩ := blind state other related
      exact ⟨kept, congrArg Task.attempt same, ih state onwards⟩
  | mark label next ih => exact ih blind
  | fork call next ih => exact ih blind
  | await request next ih => exact fun answer => ih answer (blind answer)

end Blind

/-! ### Segments -/

section Segments

variable (sys : System S ρ Ext) (R : S.State → S.State → Prop)

/-- No call, no answer and no move of the environment tells related memories apart. -/
structure Indistinct : Prop where
  bodies : ∀ call, (sys.body call).Blind R
  answers : ∀ state other request answer, R state other →
    Option.Rel R (sys.perform state request answer) (sys.perform other request answer)
  externals : ∀ state other event, R state other →
    Option.Rel R (sys.external state event) (sys.external other event)
  clocks : ∀ state other, R state other → sys.clock state = sys.clock other

/-- The memories are related, and the traces are one. -/
structure Snapshot.Twin (s t : Snapshot S ρ) : Prop where
  state : R s.state t.state
  trace : s.trace = t.trace

/-- The pools stand at the same point. -/
structure Pool.Twin (p q : Pool S ρ) : Prop where
  snapshot : p.snapshot.Twin R q.snapshot
  threads : p.threads = q.threads
  blind : ∀ call task, .running call task ∈ p.threads → task.Blind R

variable {sys R}

theorem Snapshot.Twin.log (indistinct : Indistinct sys R) {s t : Snapshot S ρ} (twin : s.Twin R t)
    (tid : Nat) (event : Event S ρ) : (s.log sys tid event).Twin R (t.log sys tid event) := by
  refine ⟨twin.state, ?_⟩
  change s.trace ++ _ = t.trace ++ _
  rw [twin.trace, indistinct.clocks _ _ twin.state]

theorem settle_twin (indistinct : Indistinct sys R) {tid : Nat} {task : Task S α} {fresh : Nat}
    {s t : Snapshot S ρ} (twin : s.Twin R t) (blind : task.Blind R) :
    (settle sys tid fresh task s).1.Twin R (settle sys tid fresh task t).1 ∧
      (settle sys tid fresh task s).2 = (settle sys tid fresh task t).2 ∧
      (settle sys tid fresh task s).2.2.Blind R := by
  induction task generalizing fresh s t with
  | done value => exact ⟨twin, rfl, trivial⟩
  | fail error => exact ⟨twin, rfl, trivial⟩
  | sync update next ih =>
      obtain ⟨kept, same, onwards⟩ := blind _ _ twin.state
      simp only [settle]
      rw [← same]
      exact ih s.state ⟨kept, twin.trace⟩ onwards
  | mark label next ih => exact ih (twin.log indistinct tid (.marked label)) blind
  | fork call next ih =>
      obtain ⟨later, same, onwards⟩ :=
        @ih (fresh + 1) _ _ (twin.log indistinct fresh (.started call)) blind
      refine ⟨later, ?_, onwards⟩
      simp only [settle, same]
  | await request next ih => exact ⟨twin, rfl, blind⟩

theorem park_twin (indistinct : Indistinct sys R) {tid : Nat} {call : S.Call} {task : Task S ρ}
    {s t : Snapshot S ρ} (twin : s.Twin R t) :
    (park sys tid call s task).1.Twin R (park sys tid call t task).1 ∧
      (park sys tid call s task).2 = (park sys tid call t task).2 := by
  cases task with
  | done value => exact ⟨twin.log indistinct tid _, rfl⟩
  | fail error => exact ⟨twin.log indistinct tid _, rfl⟩
  | sync update next => exact ⟨twin, rfl⟩
  | mark label next => exact ⟨twin, rfl⟩
  | fork forked next => exact ⟨twin, rfl⟩
  | await request next => exact ⟨twin, rfl⟩

theorem park_running {tid : Nat} {call current : S.Call} {task rest : Task S ρ} {s : Snapshot S ρ}
    (running : (park sys tid call s task).2 = .running current rest) : rest = task := by
  cases task with
  | done value => cases running
  | fail error => cases running
  | sync update next =>
      cases running
      rfl
  | mark label next =>
      cases running
      rfl
  | fork forked next =>
      cases running
      rfl
  | await request next =>
      cases running
      rfl

end Segments

/-! ### Runs -/

section Runs

variable [DecidableEq S.Req] {sys : System S ρ Ext} {R : S.State → S.State → Prop}

theorem Pool.Twin.call (indistinct : Indistinct sys R) {p q : Pool S ρ} (twin : p.Twin R q)
    (call : S.Call) : Option.Rel (Pool.Twin R) (p.step sys (.call call)) (q.step sys (.call call)) := by
  constructor
  constructor
  · rw [twin.threads]
    exact twin.snapshot.log indistinct _ _
  · exact congrArg (· ++ [Thread.running call (sys.body call)]) twin.threads
  · intro current task member
    rcases List.mem_append.mp member with old | new
    · exact twin.blind current task old
    · cases List.mem_singleton.mp new
      exact indistinct.bodies call

theorem Pool.Twin.resume (indistinct : Indistinct sys R) {p q : Pool S ρ} (twin : p.Twin R q)
    (tid : Nat) : Option.Rel (Pool.Twin R) (p.step sys (.resume tid)) (q.step sys (.resume tid)) := by
  simp only [Pool.step]
  rw [← twin.threads]
  split
  · rename_i call task found
    have blind := twin.blind call task (List.mem_of_getElem? found)
    obtain ⟨later, same, onwards⟩ :
        (settle sys tid p.threads.length task p.snapshot).1.Twin R
            (settle sys tid p.threads.length task q.snapshot).1 ∧ _ ∧ _ :=
      settle_twin indistinct twin.snapshot blind
    obtain ⟨parked, thread⟩ :
        (park sys tid call (settle sys tid p.threads.length task p.snapshot).1
            (settle sys tid p.threads.length task p.snapshot).2.2).1.Twin R _ ∧ _ :=
      park_twin indistinct later
    rw [← same]
    constructor
    constructor
    · exact parked
    · simp only [thread]
    · intro current rest member
      rcases List.mem_append.mp member with old | new
      · rcases List.mem_or_eq_of_mem_set old with old | here
        · exact twin.blind current rest old
        · rw [park_running here.symm]
          exact onwards
      · obtain ⟨forked, -, there⟩ := List.mem_map.mp new
        cases there
        exact indistinct.bodies _
  · exact .none

theorem deliver_twin (indistinct : Indistinct sys R) {s t : Snapshot S ρ} (twin : s.Twin R t)
    {tid : Nat} {request : S.Req} {answer : S.Ans request} {task : Task S ρ} (blind : task.Blind R) :
    Option.Rel (fun first second => first.1.Twin R second.1 ∧ first.2 = second.2 ∧
        first.2.Blind R)
      (deliver sys s tid request answer task) (deliver sys t tid request answer task) := by
  cases task with
  | await awaited next =>
      simp only [deliver]
      split
      · rename_i same
        subst same
        have told := indistinct.answers _ _ request answer twin.state
        revert told
        generalize sys.perform s.state request answer = first
        generalize sys.perform t.state request answer = second
        intro told
        cases told with
        | none => exact .none
        | some related =>
            have kept : Snapshot.Twin R ⟨_, s.trace⟩ ⟨_, t.trace⟩ := ⟨related, twin.trace⟩
            exact .some ⟨kept.log indistinct tid _, rfl, blind answer⟩
      · exact .none
  | done value => exact .none
  | fail error => exact .none
  | sync update next => exact .none
  | mark label next => exact .none
  | fork forked next => exact .none

theorem Pool.Twin.answer (indistinct : Indistinct sys R) {p q : Pool S ρ} (twin : p.Twin R q)
    (tid : Nat) (request : S.Req) (answer : S.Ans request) :
    Option.Rel (Pool.Twin R) (p.step sys (.answer tid request answer))
      (q.step sys (.answer tid request answer)) := by
  simp only [Pool.step]
  rw [← twin.threads]
  split
  · rename_i call task found
    have blind := twin.blind call task (List.mem_of_getElem? found)
    have delivered : Option.Rel _ (deliver sys p.snapshot tid request answer task)
        (deliver sys q.snapshot tid request answer task) :=
      deliver_twin indistinct twin.snapshot blind
    revert delivered
    generalize deliver sys p.snapshot tid request answer task = first
    generalize deliver sys q.snapshot tid request answer task = second
    intro delivered
    cases delivered with
    | none => exact .none
    | some related =>
        obtain ⟨kept, same, onwards⟩ := related
        constructor
        constructor
        · exact kept
        · simp only [same]
        · intro current rest member
          rcases List.mem_or_eq_of_mem_set member with old | here
          · exact twin.blind current rest old
          · cases here
            exact onwards
  · exact .none

theorem Pool.Twin.step (indistinct : Indistinct sys R) {p q : Pool S ρ} (twin : p.Twin R q)
    (action : Action S Ext) :
    Option.Rel (Pool.Twin R) (p.step sys action) (q.step sys action) := by
  cases action with
  | call call => exact twin.call indistinct call
  | resume tid => exact twin.resume indistinct tid
  | answer tid request answer => exact twin.answer indistinct tid request answer
  | external event =>
      have moved := indistinct.externals _ _ event twin.snapshot.state
      simp only [Pool.step]
      revert moved
      generalize sys.external p.snapshot.state event = first
      generalize sys.external q.snapshot.state event = second
      intro moved
      cases moved with
      | none => exact .none
      | some related => exact .some ⟨⟨related, twin.snapshot.trace⟩, twin.threads, twin.blind⟩

/-- Whatever is scheduled, the pools stay at the same point. -/
theorem Pool.Twin.run (indistinct : Indistinct sys R) (schedule : List (Action S Ext)) :
    ∀ {p q : Pool S ρ}, p.Twin R q →
      Option.Rel (Pool.Twin R) (p.run sys schedule) (q.run sys schedule) := by
  induction schedule with
  | nil => exact fun twin => .some twin
  | cons action rest ih =>
      intro p q twin
      have stepped := twin.step indistinct action
      simp only [Pool.run]
      revert stepped
      generalize p.step sys action = first
      generalize q.step sys action = second
      intro stepped
      cases stepped with
      | none => exact .none
      | some related => exact ih related

/-- In every run the tasks in flight stay blind. -/
theorem Indistinct.reachable (indistinct : Indistinct sys R) (reflexive : ∀ state, R state state)
    {start : S.State} {p : Pool S ρ} (reached : Reachable sys start p) : p.Twin R p := by
  obtain ⟨schedule, ran⟩ := reached
  have initial : Pool.Twin R (Pool.initial start) (Pool.initial start : Pool S ρ) :=
    ⟨⟨reflexive start, rfl⟩, rfl, fun _ _ member => absurd member List.not_mem_nil⟩
  have twins := Pool.Twin.run indistinct schedule initial
  rw [ran] at twins
  cases twins with
  | some twin => exact twin

/-- Every run leaves the same trace. -/
theorem Pool.Twin.traces (indistinct : Indistinct sys R) {p q : Pool S ρ} (twin : p.Twin R q)
    (schedule : List (Action S Ext)) :
    (p.run sys schedule).map (fun last => last.snapshot.trace) =
      (q.run sys schedule).map fun last => last.snapshot.trace := by
  have ran := Pool.Twin.run indistinct schedule twin
  revert ran
  generalize p.run sys schedule = first
  generalize q.run sys schedule = second
  intro ran
  cases ran with
  | none => rfl
  | some related => exact congrArg some related.snapshot.trace

end Runs

end EventLoop
