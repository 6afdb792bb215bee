/-
Two runs that may part at certain marks.

Tasks match when they go on alike in related memories, at least until one of them
leaves a mark at which they may part.  As long as no such mark is left, what runs
in one pool runs in the other, with the same trace.
-/

import Mathlib.Data.List.Forall2
import SelfService.EventLoop.Leaving

namespace EventLoop

variable {S : Signature} {ρ Ext α β : Type}

section Matching

variable (R : S.State → S.State → Prop) (parts : S.Mark → Bool)

/-- The tasks go on alike in related memories, and keep them related, unless they may part. -/
def Task.Matches : Task S α → Task S α → Prop
  | .done value, .done other => value = other
  | .fail error, .fail other => error = other
  | .sync update next, .sync change onwards => ∀ state other, R state other →
      R (update state) (change other) ∧ (next state).Matches (onwards other)
  | .mark label next, .mark other onwards =>
      label = other ∧ (parts label = true ∨ next.Matches onwards)
  | .fork call next, .fork other onwards => call = other ∧ next.Matches onwards
  | .await request next, .await other onwards =>
      ∃ same : request = other, ∀ answer, (next answer).Matches (onwards (same ▸ answer))
  | _, _ => False

variable {R parts}

theorem Task.Matches.bind {task other : Task S α} {rest onwards : α → Task S β}
    (first : task.Matches R parts other)
    (second : ∀ value, (rest value).Matches R parts (onwards value)) :
    (task >>= rest).Matches R parts (other >>= onwards) := by
  induction task generalizing other with
  | done value =>
      cases other with
      | done result =>
          cases first
          exact second value
      | _ => exact first.elim
  | fail error =>
      cases other with
      | fail reason => exact first
      | _ => exact first.elim
  | sync update next ih =>
      cases other with
      | sync change later =>
          intro state twin related
          have ⟨kept, after⟩ := first state twin related
          exact ⟨kept, ih state after⟩
      | _ => exact first.elim
  | mark label next ih =>
      cases other with
      | mark note later => exact ⟨first.1, first.2.imp_right ih⟩
      | _ => exact first.elim
  | fork call next ih =>
      cases other with
      | fork forked later => exact ⟨first.1, ih first.2⟩
      | _ => exact first.elim
  | await request next ih =>
      cases other with
      | await awaited later =>
          obtain ⟨same, after⟩ := first
          exact ⟨same, fun answer => ih answer (after answer)⟩
      | _ => exact first.elim

theorem Task.Matches.attempt {task other : Task S α} (alike : task.Matches R parts other) :
    task.attempt.Matches R parts other.attempt := by
  induction task generalizing other with
  | done value =>
      cases other with
      | done result => exact congrArg Except.ok alike
      | _ => exact alike.elim
  | fail error =>
      cases other with
      | fail reason => exact congrArg Except.error alike
      | _ => exact alike.elim
  | sync update next ih =>
      cases other with
      | sync change later =>
          intro state twin related
          have ⟨kept, after⟩ := alike state twin related
          exact ⟨kept, ih state after⟩
      | _ => exact alike.elim
  | mark label next ih =>
      cases other with
      | mark note later => exact ⟨alike.1, alike.2.imp_right ih⟩
      | _ => exact alike.elim
  | fork call next ih =>
      cases other with
      | fork forked later => exact ⟨alike.1, ih alike.2⟩
      | _ => exact alike.elim
  | await request next ih =>
      cases other with
      | await awaited later =>
          obtain ⟨same, after⟩ := alike
          exact ⟨same, fun answer => ih answer (after answer)⟩
      | _ => exact alike.elim

end Matching

/-! ### Segments -/

section Segments

variable (sys : System S ρ Ext) (R : S.State → S.State → Prop) (parts : S.Mark → Bool)

/-- The code matches itself, and the surroundings tell no related memories apart. -/
structure Paired : Prop where
  bodies : ∀ call, (sys.body call).Matches R parts (sys.body call)
  answers : ∀ state other request answer, R state other →
    Option.Rel R (sys.perform state request answer) (sys.perform other request answer)
  externals : ∀ state other event, R state other →
    Option.Rel R (sys.external state event) (sys.external other event)
  clocks : ∀ state other, R state other → sys.clock state = sys.clock other

/-- The memories are related, and the traces are one. -/
structure Snapshot.Matches (s t : Snapshot S ρ) : Prop where
  state : R s.state t.state
  trace : s.trace = t.trace

inductive Thread.Matches : Thread S ρ → Thread S ρ → Prop
  | running (call : S.Call) (task other : Task S ρ) (alike : task.Matches R parts other) :
      Thread.Matches (.running call task) (.running call other)
  | finished : Thread.Matches .finished .finished

structure Pool.Matches (p q : Pool S ρ) : Prop where
  snapshot : p.snapshot.Matches R q.snapshot
  threads : List.Forall₂ (Thread.Matches R parts) p.threads q.threads

/-- No mark at which the runs may part. -/
def Together (trace : Trace S ρ) : Prop :=
  ∀ entry ∈ trace, ∀ label, entry.event = .marked label → parts label = false

variable {sys R parts}

theorem together_of_all {trace : Trace S ρ}
    (all : (trace.all fun entry =>
      match entry.event with
      | .marked label => !parts label
      | _ => true) = true) : Together parts trace := by
  intro entry member label same
  have kept := List.all_eq_true.mp all entry member
  rw [same] at kept
  exact Bool.not_eq_true' _ ▸ kept

theorem Together.earlier {early late : Trace S ρ} (together : Together parts late)
    (grown : early <+: late) : Together parts early :=
  fun entry member => together entry (grown.subset member)

theorem settle_grows (loop : System S ρ Ext) (tid : Nat) (task : Task S α) (fresh : Nat)
    (s : Snapshot S ρ) : s.trace <+: (settle loop tid fresh task s).1.trace := by
  induction task generalizing fresh s with
  | done value => exact List.prefix_refl _
  | fail error => exact List.prefix_refl _
  | sync update next ih => exact ih s.state fresh { s with state := update s.state }
  | mark label next ih => exact (List.prefix_append _ _).trans (ih fresh (s.log loop tid _))
  | fork call next ih => exact (List.prefix_append _ _).trans (ih (fresh + 1) (s.log loop fresh _))
  | await request next ih => exact List.prefix_refl _

theorem Snapshot.Matches.log (paired : Paired sys R parts) {s t : Snapshot S ρ}
    (matched : s.Matches R t) (tid : Nat) (event : Event S ρ) :
    (s.log sys tid event).Matches R (t.log sys tid event) := by
  refine ⟨matched.state, ?_⟩
  change s.trace ++ _ = t.trace ++ _
  rw [matched.trace, paired.clocks _ _ matched.state]

theorem settle_matches (paired : Paired sys R parts) {tid : Nat} {task other : Task S α}
    {fresh : Nat} {s t : Snapshot S ρ} (matched : s.Matches R t)
    (same : task.Matches R parts other)
    (together : Together parts (settle sys tid fresh task s).1.trace) :
    (settle sys tid fresh task s).1.Matches R (settle sys tid fresh other t).1 ∧
      (settle sys tid fresh task s).2.1 = (settle sys tid fresh other t).2.1 ∧
      (settle sys tid fresh task s).2.2.Matches R parts (settle sys tid fresh other t).2.2 := by
  induction task generalizing fresh s t other with
  | done value =>
      cases other with
      | done result => exact ⟨matched, rfl, same⟩
      | _ => exact same.elim
  | fail error =>
      cases other with
      | fail reason => exact ⟨matched, rfl, same⟩
      | _ => exact same.elim
  | sync update next ih =>
      cases other with
      | sync change later =>
          have ⟨kept, after⟩ := same _ _ matched.state
          exact ih s.state (t := { t with state := change t.state }) ⟨kept, matched.trace⟩ after
            together
      | _ => exact same.elim
  | mark label next ih =>
      cases other with
      | mark note later =>
          obtain ⟨rfl, parted | after⟩ := same
          · have left := (settle_grows sys tid next fresh
              (s.log sys tid (.marked label))).subset
              (List.mem_append_right _ (List.mem_singleton_self _))
            have kept := together _ left label rfl
            rw [parted] at kept
            cases kept
          · exact ih (t := t.log sys tid (.marked label)) (matched.log paired tid _) after together
      | _ => exact same.elim
  | fork call next ih =>
      cases other with
      | fork forked later =>
          obtain ⟨rfl, after⟩ := same
          have ⟨ended, calls, rest⟩ :=
            ih (t := t.log sys fresh (.started call)) (matched.log paired fresh _) after together
          exact ⟨ended, congrArg (List.cons call) calls, rest⟩
      | _ => exact same.elim
  | await request next ih =>
      cases other with
      | await awaited later => exact ⟨matched, rfl, same⟩
      | _ => exact same.elim

theorem park_matches (paired : Paired sys R parts) (tid : Nat) (call : S.Call)
    {task other : Task S ρ} {s t : Snapshot S ρ} (matched : s.Matches R t)
    (same : task.Matches R parts other) :
    (park sys tid call s task).1.Matches R (park sys tid call t other).1 ∧
      Thread.Matches R parts (park sys tid call s task).2 (park sys tid call t other).2 := by
  cases task with
  | done value =>
      cases other with
      | done result =>
          cases same
          exact ⟨matched.log paired tid _, .finished⟩
      | _ => exact same.elim
  | fail error =>
      cases other with
      | fail reason =>
          cases same
          exact ⟨matched.log paired tid _, .finished⟩
      | _ => exact same.elim
  | sync update next =>
      cases other with
      | sync change later => exact ⟨matched, .running _ _ _ same⟩
      | _ => exact same.elim
  | mark label next =>
      cases other with
      | mark note later => exact ⟨matched, .running _ _ _ same⟩
      | _ => exact same.elim
  | fork forked next =>
      cases other with
      | fork also later => exact ⟨matched, .running _ _ _ same⟩
      | _ => exact same.elim
  | await request next =>
      cases other with
      | await awaited later => exact ⟨matched, .running _ _ _ same⟩
      | _ => exact same.elim

theorem park_grows {tid : Nat} (call : S.Call) (s : Snapshot S ρ) (task : Task S ρ) :
    s.trace <+: (park sys tid call s task).1.trace := by
  cases task with
  | done value => exact List.prefix_append _ _
  | fail error => exact List.prefix_append _ _
  | _ => exact List.prefix_refl _

/-- The thread of the other pool at the same place. -/
theorem Pool.Matches.thread {p q : Pool S ρ} (matched : p.Matches R parts q) {tid : Nat}
    {call : S.Call} {task : Task S ρ} (found : p.threads[tid]? = some (.running call task)) :
    ∃ other, q.threads[tid]? = some (.running call other) ∧ task.Matches R parts other := by
  have pair := List.forall₂_iff_get.mp matched.threads
  obtain ⟨bound, here⟩ := List.getElem?_eq_some_iff.mp found
  have there : tid < q.threads.length := pair.1 ▸ bound
  have alike := pair.2 tid bound there
  rw [List.get_eq_getElem, List.get_eq_getElem, here] at alike
  cases same : q.threads[tid] with
  | running other task' =>
      rw [same] at alike
      cases alike with
      | running _ _ _ matches_ =>
          exact ⟨task', (List.getElem?_eq_some_iff.mpr ⟨there, same⟩), matches_⟩
  | finished =>
      rw [same] at alike
      cases alike

theorem forall₂_set {α β : Type} {T : α → β → Prop} {first : List α} {second : List β}
    (alike : List.Forall₂ T first second) {value : α} {other : β} (related : T value other)
    (index : Nat) : List.Forall₂ T (first.set index value) (second.set index other) := by
  induction alike generalizing index with
  | nil => exact .nil
  | cons head tail ih =>
      cases index with
      | zero => exact .cons related tail
      | succ index => exact .cons head (ih index)

end Segments

/-! ### Runs -/

section Runs

variable [DecidableEq S.Req] {sys : System S ρ Ext} {R : S.State → S.State → Prop}
  {parts : S.Mark → Bool} {p q next : Pool S ρ}

theorem Pool.Matches.call (paired : Paired sys R parts) (matched : p.Matches R parts q)
    (call : S.Call) :
    ∃ after, q.step sys (.call call) = some after ∧
      Pool.Matches R parts ⟨p.snapshot.log sys p.threads.length (.started call),
        p.threads ++ [.running call (sys.body call)]⟩ after := by
  refine ⟨_, rfl, ?_, ?_⟩
  · rw [← matched.threads.length_eq]
    exact matched.snapshot.log paired _ _
  · exact List.rel_append matched.threads
      (.cons (.running _ _ _ (paired.bodies call)) .nil)

theorem Pool.Matches.resume (paired : Paired sys R parts) (matched : p.Matches R parts q)
    {tid : Nat} (stepped : p.step sys (.resume tid) = some next)
    (together : Together parts next.snapshot.trace) :
    ∃ after, q.step sys (.resume tid) = some after ∧ next.Matches R parts after := by
  simp only [Pool.step] at stepped
  split at stepped
  · rename_i call task found
    obtain ⟨other, there, same⟩ := matched.thread found
    cases stepped
    obtain ⟨ended, calls, rest⟩ := settle_matches paired matched.snapshot same
      (together.earlier (park_grows call _ _))
    obtain ⟨parked, thread⟩ := park_matches paired tid call ended rest
    refine ⟨_, by rw [Pool.step, there, ← matched.threads.length_eq], parked, ?_⟩
    apply List.rel_append (forall₂_set matched.threads thread tid)
    rw [calls]
    exact List.forall₂_map_left_iff.mpr (List.forall₂_map_right_iff.mpr
      (List.forall₂_same.mpr fun forked _ => .running _ _ _ (paired.bodies forked)))
  · cases stepped

theorem Pool.Matches.answer (paired : Paired sys R parts) (matched : p.Matches R parts q)
    {tid : Nat} {request : S.Req} {answer : S.Ans request}
    (stepped : p.step sys (.answer tid request answer) = some next) :
    ∃ after, q.step sys (.answer tid request answer) = some after ∧
      next.Matches R parts after := by
  simp only [Pool.step] at stepped
  split at stepped
  · rename_i call task found
    obtain ⟨other, there, same⟩ := matched.thread found
    cases task with
    | await awaited rest =>
        cases other with
        | await also later =>
            obtain ⟨rfl, onwards⟩ := same
            simp only [deliver] at stepped
            split at stepped
            · rename_i equal
              subst equal
              have told := paired.answers _ _ request answer matched.snapshot.state
              cases first : sys.perform p.snapshot.state request answer with
              | none =>
                  rw [first] at stepped
                  cases stepped
              | some state =>
                  rw [first] at stepped told
                  cases second : sys.perform q.snapshot.state request answer with
                  | none =>
                      rw [second] at told
                      cases told
                  | some twin =>
                      rw [second] at told
                      cases stepped
                      cases told with
                      | some related =>
                          have kept : Snapshot.Matches R ⟨state, p.snapshot.trace⟩
                              ⟨twin, q.snapshot.trace⟩ :=
                            ⟨related, matched.snapshot.trace⟩
                          refine ⟨_, by simp [Pool.step, there, deliver, second]; rfl,
                            kept.log paired tid _, ?_⟩
                          exact forall₂_set matched.threads (.running _ _ _ (onwards answer)) tid
            · cases stepped
        | _ => exact same.elim
    | _ => cases stepped
  · cases stepped

theorem Pool.Matches.step (paired : Paired sys R parts) (matched : p.Matches R parts q)
    {action : Action S Ext} (stepped : p.step sys action = some next)
    (together : Together parts next.snapshot.trace) :
    ∃ after, q.step sys action = some after ∧ next.Matches R parts after := by
  cases action with
  | call call =>
      cases stepped
      exact matched.call paired call
  | resume tid => exact matched.resume paired stepped together
  | answer tid request answer => exact matched.answer paired stepped
  | external event =>
      have moved := paired.externals _ _ event matched.snapshot.state
      simp only [Pool.step] at stepped ⊢
      obtain ⟨state, first, rfl⟩ := Option.map_eq_some_iff.mp stepped
      rw [first] at moved
      cases second : sys.external q.snapshot.state event with
      | none =>
          rw [second] at moved
          cases moved
      | some twin =>
          rw [second] at moved
          cases moved with
          | some related =>
              exact ⟨_, rfl, ⟨related, matched.snapshot.trace⟩, matched.threads⟩

/-- What runs in one pool without a mark at which the runs may part runs in the other, with the
same trace. -/
theorem Pool.Matches.run (paired : Paired sys R parts) (schedule : List (Action S Ext)) :
    ∀ {p q last : Pool S ρ}, p.Matches R parts q → p.run sys schedule = some last →
      Together parts last.snapshot.trace →
        ∃ after, q.run sys schedule = some after ∧ last.Matches R parts after := by
  induction schedule with
  | nil =>
      intro p q last matched ran together
      cases ran
      exact ⟨q, rfl, matched⟩
  | cons action rest ih =>
      intro p q last matched ran together
      obtain ⟨next, stepped, remaining⟩ := Option.bind_eq_some_iff.mp ran
      obtain ⟨twin, also, onwards⟩ := matched.step paired stepped
        (together.earlier (Pool.run_grown rest remaining))
      obtain ⟨after, final, ended⟩ := ih onwards remaining together
      exact ⟨after, by rw [Pool.run, also]; exact final, ended⟩

end Runs

end EventLoop
