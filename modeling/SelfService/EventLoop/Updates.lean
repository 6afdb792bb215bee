/-
What tasks do to the memory.

`Updates` names the updates a task can make.  A fact that none of them breaks,
nor an answer or a move of the environment, holds along every run, and an
observer of a call may rely on it.
-/

import SelfService.EventLoop.History
import SelfService.EventLoop.Observer

namespace EventLoop

variable {S : Signature} {ρ Ext σ α β : Type}

/-- Every update of the task is of a kind. -/
def Task.Updates (kind : (S.State → S.State) → Prop) : Task S α → Prop
  | .done _ | .fail _ => True
  | .sync update next => kind update ∧ ∀ state, (next state).Updates kind
  | .mark _ next | .fork _ next => next.Updates kind
  | .await _ next => ∀ answer, (next answer).Updates kind

section Updates

variable {kind : (S.State → S.State) → Prop}

theorem Task.Updates.bind {task : Task S α} {rest : α → Task S β} (first : task.Updates kind)
    (second : ∀ value, (rest value).Updates kind) : (task >>= rest).Updates kind := by
  induction task with
  | done value => exact second value
  | fail error => exact trivial
  | sync update next ih => exact ⟨first.1, fun state => ih state (first.2 state)⟩
  | mark label next ih => exact ih first
  | fork call next ih => exact ih first
  | await request next ih => exact fun answer => ih answer (first answer)

theorem Task.Updates.attempt {task : Task S α} (updates : task.Updates kind) :
    task.attempt.Updates kind := by
  induction task with
  | done value => exact trivial
  | fail error => exact trivial
  | sync update next ih => exact ⟨updates.1, fun state => ih state (updates.2 state)⟩
  | mark label next ih => exact ih updates
  | fork call next ih => exact ih updates
  | await request next ih => exact fun answer => ih answer (updates answer)

theorem Task.Updates.mono {wider : (S.State → S.State) → Prop} {task : Task S α}
    (updates : task.Updates kind) (imp : ∀ update, kind update → wider update) :
    task.Updates wider := by
  induction task with
  | done value => exact trivial
  | fail error => exact trivial
  | sync update next ih => exact ⟨imp _ updates.1, fun state => ih state (updates.2 state)⟩
  | mark label next ih => exact ih updates
  | fork call next ih => exact ih updates
  | await request next ih => exact fun answer => ih answer (updates answer)

end Updates

/-! ### Facts that nothing breaks -/

/-- The update does not break the fact. -/
def Keeping (Good : S.State → Prop) (update : S.State → S.State) : Prop :=
  ∀ state, Good state → Good (update state)

/-- No task, no answer and no move of the environment breaks the fact. -/
structure Kept (sys : System S ρ Ext) (Good : S.State → Prop) : Prop where
  bodies : ∀ call, (sys.body call).Updates (Keeping Good)
  answers : ∀ state request answer after, Good state →
    sys.perform state request answer = some after → Good after
  externals : ∀ state event after, Good state → sys.external state event = some after → Good after

/-- As `Observed`, in a memory of which the fact holds.  What the task leaves on the way obeys a
law. -/
def Watched (Good : S.State → Prop) (observe : σ → Event S ρ → σ) (law : σ → Event S ρ → Prop)
    (post : Except S.Err α → σ → Prop) : Task S α → σ → Prop
  | .done value, seen => post (.ok value) seen
  | .fail error, seen => post (.error error) seen
  | .sync _ next, seen => ∀ state, Good state → Watched Good observe law post (next state) seen
  | .mark label next, seen =>
      law seen (.marked label) ∧
        Watched Good observe law post next (observe seen (.marked label))
  | .fork _ next, seen => Watched Good observe law post next seen
  | .await request next, seen =>
      ∀ answer, law seen (.answered request answer) ∧
        Watched Good observe law post (next answer) (observe seen (.answered request answer))

section Rules

variable {Good : S.State → Prop} {observe : σ → Event S ρ → σ} {law : σ → Event S ρ → Prop}

/-- What holds whatever the memory is holds of a good one. -/
theorem Observed.watched {post : Except S.Err α → σ → Prop} {task : Task S α} {seen : σ}
    (observed : Observed observe post task seen) (lawful : ∀ seen event, law seen event) :
    Watched Good observe law post task seen := by
  induction task generalizing seen with
  | done value => exact observed
  | fail error => exact observed
  | sync update next ih => exact fun state _ => ih state (observed state)
  | mark label next ih => exact ⟨lawful _ _, ih observed⟩
  | fork call next ih => exact ih observed
  | await request next ih => exact fun answer => ⟨lawful _ _, ih answer (observed answer)⟩

theorem Watched.mono {post weaker : Except S.Err α → σ → Prop} {task : Task S α} {seen : σ}
    (watched : Watched Good observe law post task seen)
    (imp : ∀ result last, post result last → weaker result last) :
    Watched Good observe law weaker task seen := by
  induction task generalizing seen with
  | done value => exact imp _ _ watched
  | fail error => exact imp _ _ watched
  | sync update next ih => exact fun state good => ih state (watched state good)
  | mark label next ih => exact ⟨watched.1, ih watched.2⟩
  | fork call next ih => exact ih watched
  | await request next ih =>
      exact fun answer => ⟨(watched answer).1, ih answer (watched answer).2⟩

theorem watched_bind (post : Except S.Err β → σ → Prop) (task : Task S α) (rest : α → Task S β)
    (seen : σ) :
    Watched Good observe law post (task >>= rest) seen ↔
      Watched Good observe law (fun result last =>
        match result with
        | .ok value => Watched Good observe law post (rest value) last
        | .error error => post (.error error) last) task seen := by
  induction task generalizing seen with
  | done value => exact Iff.rfl
  | fail error => exact Iff.rfl
  | sync update next ih => exact forall_congr' fun state => imp_congr_right fun _ => ih state seen
  | mark label next ih => exact and_congr_right fun _ => ih _
  | fork call next ih => exact ih _
  | await request next ih =>
      exact forall_congr' fun answer => and_congr_right fun _ => ih answer _

/-- Sequencing: what the first task can end in leads on. -/
theorem Watched.andThen {middle : Except S.Err α → σ → Prop} {post : Except S.Err β → σ → Prop}
    {task : Task S α} {rest : α → Task S β} {seen : σ}
    (first : Watched Good observe law middle task seen)
    (failed : ∀ error last, middle (.error error) last → post (.error error) last)
    (next : ∀ value last, middle (.ok value) last →
      Watched Good observe law post (rest value) last) :
    Watched Good observe law post (task >>= rest) seen := by
  rw [watched_bind]
  apply first.mono
  intro result last ended
  cases result with
  | ok value => exact next value last ended
  | error error => exact failed error last ended

end Rules

/-! ### In a run -/

section Runs

variable {sys : System S ρ Ext} {Good : S.State → Prop} {observe : σ → Event S ρ → σ}

/-- What an observer of every call expects. -/
structure Watch (S : Signature) (ρ σ : Type) where
  initial : S.Call → σ
  law : S.Call → σ → Event S ρ → Prop
  post : S.Call → Except S.Err ρ → σ → Prop

/-- The event is as the observer of the call expects. -/
def Watch.Fits (watch : Watch S ρ σ) (call : S.Call) (seen : σ) : Event S ρ → Prop
  | .started _ => True
  | .finished ended result => ended = call → watch.post call result seen
  | event => watch.law call seen event

/-- The memory is good, and all events are as expected. -/
def Expected (Good : S.State → Prop) (observe : σ → Event S ρ → σ) (watch : Watch S ρ σ)
    (s : Snapshot S ρ) : Prop :=
  Good s.state ∧ Always (fun past entry => ∀ call, Saw past entry.tid (.started call) →
    watch.Fits call (observation observe (watch.initial call) (ownEntries entry.tid past))
      entry.event) s.trace

theorem Expected.log {watch : Watch S ρ σ} {s : Snapshot S ρ}
    (expected : Expected Good observe watch s) {tid : Nat} {event : Event S ρ}
    (fits : ∀ call, Saw s.trace tid (.started call) → watch.Fits call
      (observation observe (watch.initial call) (ownEntries tid s.trace)) event) :
    Expected Good observe watch (s.log sys tid event) :=
  ⟨expected.1, always_snoc.mpr ⟨expected.2, fits⟩⟩

/-- The thread runs this call, and the observer has come to this. -/
structure Stands (observe : σ → Event S ρ → σ) (initial : σ) (call : S.Call) (tid : Nat) (seen : σ)
    (trace : Trace S ρ) : Prop where
  only : ∀ other, Saw trace tid (.started other) → other = call
  seen : observation observe initial (ownEntries tid trace) = seen

theorem Stands.own {initial seen : σ} {call : S.Call} {tid time : Nat} {trace : Trace S ρ}
    (stands : Stands observe initial call tid seen trace) {event : Event S ρ}
    (inside : event.InBody) :
    Stands observe initial call tid (observe seen event) (trace ++ [⟨tid, time, event⟩]) := by
  constructor
  · rintro other ⟨moment, member⟩
    rcases List.mem_append.mp member with old | new
    · exact stands.only other ⟨moment, old⟩
    · cases List.mem_singleton.mp new
      exact inside.elim
  · rw [ownEntries_append, ownEntries_self, observation_snoc, stands.seen]

theorem Stands.follows {initial seen : σ} {call : S.Call} {tid : Nat} {s later : Snapshot S ρ}
    (stands : Stands observe initial call tid seen s.trace) (follows : s.Follows tid later) :
    Stands observe initial call tid seen later.trace := by
  constructor
  · rintro other ⟨moment, member⟩
    obtain ⟨others, grown, foreign⟩ := follows
    rw [grown] at member
    rcases List.mem_append.mp member with old | new
    · exact stands.only other ⟨moment, old⟩
    · exact absurd rfl (foreign _ new)
  · rw [follows.ownEntries_eq]
    exact stands.seen

theorem Task.Updates.safe (kept : Kept sys Good) {tid : Nat} {task : Task S α} {s : Snapshot S ρ}
    (updates : task.Updates (Keeping Good)) (good : Good s.state) :
    Safe sys (fun s => Good s.state) tid (fun _ later => Good later.state) task s := by
  induction task generalizing s with
  | done value => exact good
  | fail error => exact good
  | sync update next ih => exact ih s.state (updates.2 s.state) (updates.1 s.state good)
  | mark label next ih => exact ih updates good
  | fork call next ih => exact fun fresh different => ih updates good
  | await request next ih =>
      refine ⟨good, ?_⟩
      intro now follows holds answer state performed
      refine ⟨kept.answers _ _ _ _ holds performed, ?_⟩
      exact fun later after holdsLater => ih answer (updates answer) holdsLater

/-- A task that keeps the fact goes on safely, and as it was watched to. -/
theorem Watched.safe (kept : Kept sys Good) {watch : Watch S ρ σ} {call : S.Call} {seen : σ}
    {tid : Nat} {ended : Except S.Err α → σ → Prop} {task : Task S α} {s : Snapshot S ρ}
    (watched : Watched Good observe (watch.law call) ended task seen)
    (updates : task.Updates (Keeping Good)) (expected : Expected Good observe watch s)
    (stands : Stands observe (watch.initial call) call tid seen s.trace) :
    Safe sys (Expected Good observe watch) tid
      (fun result later => Expected Good observe watch later ∧ ∃ last,
        Stands observe (watch.initial call) call tid last later.trace ∧ ended result last)
      task s := by
  induction task generalizing seen s with
  | done value => exact ⟨expected, seen, stands, watched⟩
  | fail error => exact ⟨expected, seen, stands, watched⟩
  | sync update next ih =>
      exact ih s.state (watched s.state expected.1) (updates.2 s.state)
        ⟨updates.1 s.state expected.1, expected.2⟩ stands
  | mark label next ih =>
      have logged : Expected Good observe watch (s.log sys tid (.marked label)) := by
        apply expected.log
        intro other saw
        rw [stands.only other saw, stands.seen]
        exact watched.1
      exact ih watched.2 updates logged (stands.own trivial)
  | fork forked next ih =>
      intro fresh different
      have logged : Expected Good observe watch (s.log sys fresh (.started forked)) :=
        expected.log fun _ _ => trivial
      exact ih watched updates logged (stands.follows (s.follows_log sys _ different))
  | await request next ih =>
      refine ⟨expected, ?_⟩
      intro now follows holds answer state performed
      have there := stands.follows follows
      have performed : Expected Good observe watch ⟨state, now.trace⟩ :=
        ⟨kept.answers _ _ _ _ holds.1 performed, holds.2⟩
      have told : Expected Good observe watch ((⟨state, now.trace⟩ : Snapshot S ρ).log sys tid
          (.answered request answer)) := by
        apply performed.log
        intro other saw
        rw [there.only other saw, there.seen]
        exact (watched answer).1
      have heard : Stands observe (watch.initial call) call tid
          (observe seen (.answered request answer)) ((⟨state, now.trace⟩ : Snapshot S ρ).log sys
            tid (.answered request answer)).trace := there.own trivial
      refine ⟨told, ?_⟩
      intro later after holdsLater
      exact ih answer (watched answer).2 (updates answer) holdsLater (heard.follows after)

theorem observation_begins {initial : σ} {call : S.Call}
    (quiet : ∀ seen, observe seen (.started call) = seen) {entries : Trace S ρ}
    (begins : ∀ entry ∈ entries, entry.event = .started call) :
    observation observe initial entries = initial := by
  induction entries with
  | nil => rfl
  | cons entry rest ih =>
      rw [observation, List.foldl_cons, begins entry List.mem_cons_self, quiet]
      exact ih fun other member => begins other (List.mem_cons_of_mem _ member)

theorem Kept.verified (kept : Kept sys Good) {watch : Watch S ρ σ}
    (quiet : ∀ seen started, observe seen (.started started) = seen)
    (bodies : ∀ call, Watched Good observe (watch.law call) (watch.post call) (sys.body call)
      (watch.initial call)) : Verified sys (Expected Good observe watch) := by
  constructor
  · exact fun s fresh started holds _ => holds.log fun _ _ => trivial
  · intro s tid call holds begins
    have stands : Stands observe (watch.initial call) call tid (watch.initial call) s.trace := by
      constructor
      · rintro other ⟨time, member⟩
        exact Event.started.inj (begins.only _ member rfl)
      · apply observation_begins fun seen => quiet seen call
        intro entry member
        obtain ⟨member, own⟩ := mem_ownEntries.mp member
        exact begins.only entry member own
    apply ((bodies call).safe kept (kept.bodies call) holds stands).mono
    rintro result later - ⟨expected, last, there, ended⟩
    apply expected.log
    intro other saw same
    rw [there.only other saw, there.seen]
    exact ended
  · exact fun s event state holds moved => ⟨kept.externals _ _ _ holds.1 moved, holds.2⟩

variable [DecidableEq S.Req] {start : S.State} {p : Pool S ρ}

/-- In every run all events are as expected. -/
theorem Kept.fits (kept : Kept sys Good) (good : Good start) (reached : Reachable sys start p)
    (watch : Watch S ρ σ) (quiet : ∀ seen started, observe seen (.started started) = seen)
    (bodies : ∀ call, Watched Good observe (watch.law call) (watch.post call) (sys.body call)
      (watch.initial call)) {before after : Trace S ρ} {entry : Entry S ρ}
    (split : p.snapshot.trace = before ++ entry :: after) {call : S.Call}
    (began : Saw before entry.tid (.started call)) :
    watch.Fits call (observation observe (watch.initial call) (ownEntries entry.tid before))
      entry.event :=
  ((kept.verified quiet bodies).reachable ⟨good, always_nil _⟩ reached).2 before _ after split
    call began

/-- When a call has ended, its entries sum up to what it was watched to do. -/
theorem Kept.watched (kept : Kept sys Good) (good : Good start) (reached : Reachable sys start p)
    {call : S.Call} {initial : σ} {post : Except S.Err ρ → σ → Prop}
    (quiet : ∀ seen started, observe seen (.started started) = seen)
    (body : Watched Good observe (fun _ _ => True) post (sys.body call) initial)
    {before after : Trace S ρ} {tid time : Nat} {result : Except S.Err ρ}
    (split : p.snapshot.trace = before ++ ⟨tid, time, .finished call result⟩ :: after) :
    post result (observation observe initial (ownEntries tid before)) := by
  let watch : Watch S ρ σ := ⟨fun _ => initial, fun _ _ _ => True,
    fun other result last => other = call → post result last⟩
  have bodies (other : S.Call) : Watched Good observe (watch.law other) (watch.post other)
      (sys.body other) (watch.initial other) := by
    by_cases same : other = call
    · subst same
      exact body.mono fun _ _ ended _ => ended
    · apply Observed.watched _ fun _ _ => trivial
      exact observed_of_forall fun _ _ equal => absurd equal same
  exact kept.fits good reached watch quiet bodies split (reached.finished_began split) rfl rfl

/-- A fact that nothing breaks holds along every run. -/
theorem Kept.reachable (kept : Kept sys Good) (good : Good start)
    (reached : Reachable sys start p) : Good p.snapshot.state := by
  have verified : Verified sys (fun s : Snapshot S ρ => Good s.state) := by
    constructor
    · exact fun _ _ _ holds _ => holds
    · exact fun s tid call holds begins => (kept.bodies call).safe kept holds
    · exact fun s event state holds moved => kept.externals _ _ _ holds moved
  exact verified.reachable good reached

end Runs

end EventLoop
