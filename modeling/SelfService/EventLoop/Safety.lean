/-
Safety of interleaved tasks.

`Safe` is a precondition of one task under interference: between two of its own
steps the task may find any memory the invariant allows, with the trace grown
by other tasks only.  `Verified.reachable` turns a `Safe` proof for every call
into an invariant of every reachable pool, so a proof about an interleaving is
a proof about one task at a time.
-/

import SelfService.EventLoop.Pool

namespace EventLoop

variable {S : Signature} {ρ Ext : Type}

/-! ### Growth of the trace -/

/-- The trace only grew. -/
def Snapshot.Extends (s later : Snapshot S ρ) : Prop := s.trace <+: later.trace

/-- The trace only grew, and by other tasks than `tid`. -/
def Snapshot.Follows (tid : Nat) (s later : Snapshot S ρ) : Prop :=
  ∃ others, later.trace = s.trace ++ others ∧ ∀ entry ∈ others, entry.tid ≠ tid

theorem Snapshot.Extends.refl (s : Snapshot S ρ) : s.Extends s := List.prefix_refl _

theorem Snapshot.Extends.trans {s t u : Snapshot S ρ} (first : s.Extends t)
    (second : t.Extends u) : s.Extends u := List.IsPrefix.trans first second

theorem Snapshot.Extends.mem {s later : Snapshot S ρ} (grown : s.Extends later)
    {entry : Entry S ρ} (member : entry ∈ s.trace) : entry ∈ later.trace :=
  grown.subset member

theorem Snapshot.extends_log (sys : System S ρ Ext) (s : Snapshot S ρ) (tid : Nat)
    (event : Event S ρ) : s.Extends (s.log sys tid event) := List.prefix_append _ _

theorem Snapshot.Follows.refl (tid : Nat) (s : Snapshot S ρ) : s.Follows tid s :=
  ⟨[], by simp, by simp⟩

theorem Snapshot.Follows.trans {tid : Nat} {s t u : Snapshot S ρ} (first : s.Follows tid t)
    (second : t.Follows tid u) : s.Follows tid u := by
  obtain ⟨early, earlyTrace, earlyOthers⟩ := first
  obtain ⟨late, lateTrace, lateOthers⟩ := second
  refine ⟨early ++ late, by rw [lateTrace, earlyTrace, List.append_assoc], ?_⟩
  intro entry member
  rcases List.mem_append.mp member with inEarly | inLate
  · exact earlyOthers entry inEarly
  · exact lateOthers entry inLate

theorem Snapshot.Follows.extends {tid : Nat} {s later : Snapshot S ρ}
    (follows : s.Follows tid later) : s.Extends later := by
  obtain ⟨others, grown, _⟩ := follows
  exact ⟨others, grown.symm⟩

theorem Snapshot.follows_of_trace_eq {tid : Nat} {s later : Snapshot S ρ}
    (same : later.trace = s.trace) : s.Follows tid later :=
  ⟨[], by simp [same], by simp⟩

theorem Snapshot.follows_log (sys : System S ρ Ext) {tid other : Nat} (s : Snapshot S ρ)
    (event : Event S ρ) (different : other ≠ tid) :
    s.Follows tid (s.log sys other event) :=
  ⟨[⟨other, sys.clock s.state, event⟩], rfl, by simp [different]⟩

@[simp] theorem Snapshot.log_state (sys : System S ρ Ext) (s : Snapshot S ρ) (tid : Nat)
    (event : Event S ρ) : (s.log sys tid event).state = s.state := rfl

@[simp] theorem Snapshot.log_trace (sys : System S ρ Ext) (s : Snapshot S ρ) (tid : Nat)
    (event : Event S ρ) :
    (s.log sys tid event).trace = s.trace ++ [⟨tid, sys.clock s.state, event⟩] := rfl

/-- Task `tid` left this event on the trace at some time. -/
def Saw (trace : Trace S ρ) (tid : Nat) (event : Event S ρ) : Prop :=
  ∃ time, ⟨tid, time, event⟩ ∈ trace

abbrev Snapshot.Saw (s : Snapshot S ρ) (tid : Nat) (event : Event S ρ) : Prop :=
  EventLoop.Saw s.trace tid event

theorem Snapshot.Saw.mono {s later : Snapshot S ρ} {tid : Nat} {event : Event S ρ}
    (saw : s.Saw tid event) (grown : s.Extends later) : later.Saw tid event := by
  obtain ⟨time, member⟩ := saw
  exact ⟨time, grown.mem member⟩

theorem Snapshot.saw_log (sys : System S ρ Ext) (s : Snapshot S ρ) (tid : Nat)
    (event : Event S ρ) : (s.log sys tid event).Saw tid event :=
  ⟨sys.clock s.state, by simp⟩

theorem any_of_saw {trace : Trace S ρ} {tid : Nat} {event : Event S ρ} {test : Entry S ρ → Bool}
    (seen : Saw trace tid event) (passes : ∀ time, test ⟨tid, time, event⟩ = true) :
    trace.any test = true := by
  obtain ⟨time, member⟩ := seen
  exact List.any_eq_true.mpr ⟨_, member, passes time⟩

/-- Task `tid` left this event on the trace after the part that is `past`. -/
def SawSince (past trace : Trace S ρ) (tid : Nat) (event : Event S ρ) : Prop :=
  ∃ before time after, trace = before ++ ⟨tid, time, event⟩ :: after ∧ past <+: before

theorem SawSince.saw {past trace : Trace S ρ} {tid : Nat} {event : Event S ρ}
    (seen : SawSince past trace tid event) : Saw trace tid event := by
  obtain ⟨before, time, after, split, _⟩ := seen
  exact ⟨time, by simp [split]⟩

theorem SawSince.mono {past trace grown : Trace S ρ} {tid : Nat} {event : Event S ρ}
    (seen : SawSince past trace tid event) (extends_ : trace <+: grown) :
    SawSince past grown tid event := by
  obtain ⟨before, time, after, rfl, early⟩ := seen
  obtain ⟨rest, rfl⟩ := extends_
  exact ⟨before, time, after ++ rest, by simp, early⟩

theorem SawSince.since {past earlier trace : Trace S ρ} {tid : Nat} {event : Event S ρ}
    (seen : SawSince past trace tid event) (early : earlier <+: past) :
    SawSince earlier trace tid event := by
  obtain ⟨before, time, after, split, later⟩ := seen
  exact ⟨before, time, after, split, early.trans later⟩

/-- All that task `tid` has done so far is to be started with this call. -/
structure Snapshot.Begins (s : Snapshot S ρ) (tid : Nat) (call : S.Call) : Prop where
  seen : s.Saw tid (.started call)
  only : ∀ entry ∈ s.trace, entry.tid = tid → entry.event = .started call

theorem Snapshot.Begins.of_follows {s later : Snapshot S ρ} {tid : Nat} {call : S.Call}
    (begins : s.Begins tid call) (follows : s.Follows tid later) : later.Begins tid call := by
  constructor
  · exact begins.seen.mono follows.extends
  · obtain ⟨others, grown, foreign⟩ := follows
    intro entry member own
    rw [grown] at member
    rcases List.mem_append.mp member with old | new
    · exact begins.only entry old own
    · exact absurd own (foreign entry new)

theorem Snapshot.begins_log (sys : System S ρ Ext) {s : Snapshot S ρ} {tid : Nat}
    (fresh : ∀ entry ∈ s.trace, entry.tid ≠ tid) (call : S.Call) :
    (s.log sys tid (.started call)).Begins tid call := by
  constructor
  · exact s.saw_log sys tid _
  · intro entry member own
    rcases List.mem_append.mp member with old | new
    · exact absurd own (fresh entry old)
    · rw [List.mem_singleton.mp new]

/-- A fact about a trace that only task `tid` itself can change. -/
def OwnFact (tid : Nat) (P : Trace S ρ → Prop) : Prop :=
  ∀ early others, (∀ entry ∈ others, entry.tid ≠ tid) → P early → P (early ++ others)

/-- None of the task's own events is of this kind. -/
def OwnFree (tid : Nat) (kind : Event S ρ → Bool) (trace : Trace S ρ) : Prop :=
  ∀ entry ∈ trace, entry.tid = tid → kind entry.event = false

theorem ownFact_ownFree (tid : Nat) (kind : Event S ρ → Bool) : OwnFact tid (OwnFree tid kind) := by
  intro early others foreign free entry member own
  rcases List.mem_append.mp member with old | new
  · exact free entry old own
  · exact absurd own (foreign entry new)

theorem OwnFree.snoc {tid : Nat} {kind : Event S ρ → Bool} {trace : Trace S ρ}
    (free : OwnFree tid kind trace) {entry : Entry S ρ}
    (clean : entry.tid = tid → kind entry.event = false) : OwnFree tid kind (trace ++ [entry]) := by
  intro other member own
  rcases List.mem_append.mp member with old | new
  · exact free other old own
  · rw [List.mem_singleton.mp new] at own ⊢
    exact clean own

theorem Snapshot.Begins.ownFree {s : Snapshot S ρ} {tid : Nat} {call : S.Call}
    (begins : s.Begins tid call) {kind : Event S ρ → Bool}
    (clean : kind (.started call) = false) : OwnFree tid kind s.trace := by
  intro entry member own
  rw [begins.only entry member own]
  exact clean

/-! ### The safety predicate -/

variable (sys : System S ρ Ext) (Inv : Snapshot S ρ → Prop) (tid : Nat)

/-- From snapshot `s` the task keeps `Inv` at every await point, whatever the
others do, and ends in `post`. -/
def Safe {α : Type} (post : Except S.Err α → Snapshot S ρ → Prop) :
    Task S α → Snapshot S ρ → Prop
  | .done value, s => post (.ok value) s
  | .fail error, s => post (.error error) s
  | .sync update next, s =>
      Safe post (next s.state) { s with state := update s.state }
  | .mark label next, s => Safe post next (s.log sys tid (.marked label))
  | .fork call next, s =>
      ∀ fresh, fresh ≠ tid → Safe post next (s.log sys fresh (.started call))
  | .await request next, s =>
      Inv s ∧ ∀ now, s.Follows tid now → Inv now →
        ∀ answer state, sys.perform now.state request answer = some state →
          let told := (⟨state, now.trace⟩ : Snapshot S ρ).log sys tid (.answered request answer)
          Inv told ∧ ∀ later, told.Follows tid later → Inv later →
            Safe post (next answer) later

section Rules

variable {sys Inv tid} {α β : Type}

@[simp] theorem safe_done (post : Except S.Err α → Snapshot S ρ → Prop) (value : α)
    (s : Snapshot S ρ) : Safe sys Inv tid post (.done value) s ↔ post (.ok value) s := Iff.rfl

@[simp] theorem safe_fail (post : Except S.Err α → Snapshot S ρ → Prop) (error : S.Err)
    (s : Snapshot S ρ) : Safe sys Inv tid post (.fail error) s ↔ post (.error error) s := Iff.rfl

theorem safe_sync_id (post : Except S.Err α → Snapshot S ρ → Prop)
    (next : S.State → Task S α) (s : Snapshot S ρ) :
    Safe sys Inv tid post (.sync id next) s ↔ Safe sys Inv tid post (next s.state) s := Iff.rfl

theorem safe_read (post : Except S.Err β → Snapshot S ρ → Prop)
    (rest : S.State → Task S β) (s : Snapshot S ρ) :
    Safe sys Inv tid post (Task.read >>= rest) s ↔
      Safe sys Inv tid post (rest s.state) s := Iff.rfl

theorem safe_modify (post : Except S.Err β → Snapshot S ρ → Prop)
    (update : S.State → S.State) (rest : Unit → Task S β) (s : Snapshot S ρ) :
    Safe sys Inv tid post (Task.modify update >>= rest) s ↔
      Safe sys Inv tid post (rest ()) { s with state := update s.state } := Iff.rfl

theorem safe_note (post : Except S.Err β → Snapshot S ρ → Prop) (label : S.Mark)
    (rest : Unit → Task S β) (s : Snapshot S ρ) :
    Safe sys Inv tid post (Task.note label >>= rest) s ↔
      Safe sys Inv tid post (rest ()) (s.log sys tid (.marked label)) := Iff.rfl

/-- A weaker postcondition is enough wherever the task can end. -/
theorem Safe.mono {post weaker : Except S.Err α → Snapshot S ρ → Prop} {task : Task S α}
    {s : Snapshot S ρ} (safe : Safe sys Inv tid post task s)
    (imp : ∀ result later, s.Extends later → post result later → weaker result later) :
    Safe sys Inv tid weaker task s := by
  induction task generalizing s with
  | done value => exact imp _ s (.refl s) safe
  | fail error => exact imp _ s (.refl s) safe
  | sync update next ih => exact ih s.state safe imp
  | mark label next ih =>
      exact ih safe fun result later grown =>
        imp result later ((s.extends_log sys tid _).trans grown)
  | fork call next ih =>
      intro fresh different
      exact ih (safe fresh different) fun result later grown =>
        imp result later ((s.extends_log sys fresh _).trans grown)
  | await request next ih =>
      refine ⟨safe.1, ?_⟩
      intro now follows hold answer state performed
      obtain ⟨told, go⟩ := safe.2 now follows hold answer state performed
      refine ⟨told, ?_⟩
      intro later after holdLater
      refine ih answer (go later after holdLater) ?_
      intro result final grown
      exact imp result final
        (((follows.extends.trans (Snapshot.extends_log sys ⟨state, now.trace⟩ tid _)).trans
          after.extends).trans grown)

/-- Sequencing: the first task must leave the second one safe. -/
theorem safe_bind (post : Except S.Err β → Snapshot S ρ → Prop) (task : Task S α)
    (rest : α → Task S β) (s : Snapshot S ρ) :
    Safe sys Inv tid post (task >>= rest) s ↔
      Safe sys Inv tid (fun result later =>
        match result with
        | .ok value => Safe sys Inv tid post (rest value) later
        | .error error => post (.error error) later) task s := by
  induction task generalizing s with
  | done value => exact Iff.rfl
  | fail error => exact Iff.rfl
  | sync update next ih => exact ih s.state _
  | mark label next ih => exact ih _
  | fork call next ih => exact forall_congr' fun fresh => imp_congr_right fun _ => ih _
  | await request next ih =>
      refine and_congr_right fun _ => forall_congr' fun now => imp_congr_right fun _ =>
        imp_congr_right fun _ => forall_congr' fun answer => forall_congr' fun state =>
        imp_congr_right fun _ => and_congr_right fun _ => forall_congr' fun later =>
        imp_congr_right fun _ => imp_congr_right fun _ => ih answer later

/-- Sequencing after a task that cannot reject. -/
theorem Safe.andThen {post : Except S.Err β → Snapshot S ρ → Prop} {task : Task S α}
    {rest : α → Task S β} {s : Snapshot S ρ} {middle : α → Snapshot S ρ → Prop}
    (first : Safe sys Inv tid
      (fun result later => ∃ value, result = .ok value ∧ middle value later) task s)
    (second : ∀ value later, s.Extends later → middle value later →
      Safe sys Inv tid post (rest value) later) :
    Safe sys Inv tid post (task >>= rest) s := by
  rw [safe_bind]
  apply first.mono
  rintro result later grown ⟨value, rfl, held⟩
  exact second value later grown held

/-- A task whose value is only converted at the end. -/
theorem safe_map (post : Except S.Err β → Snapshot S ρ → Prop) (task : Task S α) (convert : α → β)
    (s : Snapshot S ρ) :
    Safe sys Inv tid post (task >>= fun value => .done (convert value)) s ↔
      Safe sys Inv tid (fun result later => post (result.map convert) later) task s := by
  rw [safe_bind]
  constructor
  · intro safe
    apply safe.mono
    intro result later _ ended
    cases result with
    | ok value => exact ended
    | error error => exact ended
  · intro safe
    apply safe.mono
    intro result later _ ended
    cases result with
    | ok value => exact ended
    | error error => exact ended

theorem safe_attempt (post : Except S.Err (Except S.Err α) → Snapshot S ρ → Prop)
    (task : Task S α) (s : Snapshot S ρ) :
    Safe sys Inv tid post task.attempt s ↔
      Safe sys Inv tid (fun result later => post (.ok result) later) task s := by
  induction task generalizing s with
  | done value => exact Iff.rfl
  | fail error => exact Iff.rfl
  | sync update next ih => exact ih s.state _
  | mark label next ih => exact ih _
  | fork call next ih => exact forall_congr' fun fresh => imp_congr_right fun _ => ih _
  | await request next ih =>
      refine and_congr_right fun _ => forall_congr' fun now => imp_congr_right fun _ =>
        imp_congr_right fun _ => forall_congr' fun answer => forall_congr' fun state =>
        imp_congr_right fun _ => and_congr_right fun _ => forall_congr' fun later =>
        imp_congr_right fun _ => imp_congr_right fun _ => ih answer later

/-- A task may rely on facts about its own events. -/
theorem Safe.withOwn {post : Except S.Err α → Snapshot S ρ → Prop} {task : Task S α}
    {s : Snapshot S ρ} {P : Trace S ρ → Prop} (own : OwnFact tid P)
    (safe : Safe sys (fun s => Inv s ∧ P s.trace) tid post task s) :
    Safe sys Inv tid post task s := by
  have carry {early later : Snapshot S ρ} (follows : early.Follows tid later)
      (fact : P early.trace) : P later.trace := by
    obtain ⟨others, grown, foreign⟩ := follows
    rw [grown]
    exact own early.trace others foreign fact
  induction task generalizing s with
  | done value => exact safe
  | fail error => exact safe
  | sync update next ih => exact ih s.state safe
  | mark label next ih => exact ih safe
  | fork call next ih => exact fun fresh different => ih (safe fresh different)
  | await request next ih =>
      obtain ⟨⟨hold, fact⟩, go⟩ := safe
      refine ⟨hold, ?_⟩
      intro now follows holdNow answer state performed
      obtain ⟨⟨told, toldFact⟩, rest⟩ :=
        go now follows ⟨holdNow, carry follows fact⟩ answer state performed
      refine ⟨told, ?_⟩
      intro later after holdLater
      exact ih answer (rest later after ⟨holdLater, carry after toldFact⟩)

/-- A suspended task stays safe while others run. -/
theorem Safe.of_follows {post : Except S.Err α → Snapshot S ρ → Prop} {request : S.Req}
    {next : S.Ans request → Task S α} {s later : Snapshot S ρ}
    (safe : Safe sys Inv tid post (.await request next) s) (follows : s.Follows tid later)
    (hold : Inv later) : Safe sys Inv tid post (.await request next) later :=
  ⟨hold, fun now after => safe.2 now (follows.trans after)⟩

/-! ### Segments -/

/-- A segment is invisible to a task that neither runs it nor is forked by it. -/
theorem settle_follows {other : Nat} (task : Task S α) (fresh : Nat) (s : Snapshot S ρ)
    (different : tid ≠ other) (older : other < fresh) :
    s.Follows other (settle sys tid fresh task s).1 := by
  induction task generalizing fresh s with
  | done value => exact .refl other s
  | fail error => exact .refl other s
  | sync update next ih =>
      exact (Snapshot.follows_of_trace_eq rfl).trans
        (ih s.state fresh { s with state := update s.state } older)
  | mark label next ih => exact (s.follows_log sys _ different).trans (ih fresh _ older)
  | fork call next ih =>
      exact (s.follows_log sys _ (by omega)).trans (ih (fresh + 1) _ (by omega))
  | await request next ih => exact .refl other s

/-- Every entry a segment adds belongs to the running task or to one it forks. -/
theorem settle_tid_lt (task : Task S α) (fresh : Nat) (s : Snapshot S ρ)
    (own : tid < fresh) (bounded : ∀ entry ∈ s.trace, entry.tid < fresh) :
    ∀ entry ∈ (settle sys tid fresh task s).1.trace,
      entry.tid < fresh + (settle sys tid fresh task s).2.1.length := by
  induction task generalizing fresh s with
  | done value => simpa [settle] using bounded
  | fail error => simpa [settle] using bounded
  | sync update next ih => exact ih s.state fresh { s with state := update s.state } own bounded
  | mark label next ih =>
      refine ih fresh _ own ?_
      intro entry member
      rcases List.mem_append.mp member with old | new
      · exact bounded entry old
      · rw [List.mem_singleton.mp new]; exact own
  | fork call next ih =>
      have grown := ih (fresh + 1) (s.log sys fresh (.started call)) (by omega) (by
        intro entry member
        rcases List.mem_append.mp member with old | new
        · have := bounded entry old; omega
        · rw [List.mem_singleton.mp new]; simp)
      intro entry member
      have bound := grown entry member
      simp only [settle, List.length_cons]
      omega
  | await request next ih => simpa [settle] using bounded

/-- Each forked call begins under its own identifier. -/
theorem settle_begins (task : Task S α) (fresh : Nat) (s : Snapshot S ρ) (own : tid < fresh)
    (bounded : ∀ entry ∈ s.trace, entry.tid < fresh) (index : Nat) (call : S.Call)
    (forked : (settle sys tid fresh task s).2.1[index]? = some call) :
    (settle sys tid fresh task s).1.Begins (fresh + index) call := by
  induction task generalizing fresh s index with
  | done value => simp [settle] at forked
  | fail error => simp [settle] at forked
  | sync update next ih =>
      exact ih s.state fresh { s with state := update s.state } own bounded index forked
  | mark label next ih =>
      refine ih fresh _ own ?_ index forked
      intro entry member
      rcases List.mem_append.mp member with old | new
      · exact bounded entry old
      · rw [List.mem_singleton.mp new]; exact own
  | fork started next ih =>
      cases index with
      | zero =>
          have same : started = call := by simpa [settle] using forked
          subst same
          have begins : (s.log sys fresh (.started started)).Begins fresh started :=
            Snapshot.begins_log sys (fun entry member => Nat.ne_of_lt (bounded entry member)) started
          exact begins.of_follows (settle_follows next (fresh + 1) _ (by omega) (by omega))
      | succ index =>
          have begins := ih (fresh + 1) (s.log sys fresh (.started started)) (by omega) (by
            intro entry member
            rcases List.mem_append.mp member with old | new
            · exact Nat.lt_succ_of_lt (bounded entry old)
            · rw [List.mem_singleton.mp new]; exact Nat.lt_succ_self fresh) index
            (by simpa [settle] using forked)
          simpa [settle, Nat.add_assoc, Nat.add_comm 1] using begins
  | await request next ih => simp [settle] at forked

theorem settle_settled (task : Task S α) (fresh : Nat) (s : Snapshot S ρ) :
    (settle sys tid fresh task s).2.2.Settled := by
  induction task generalizing fresh s with
  | done value => trivial
  | fail error => trivial
  | sync update next ih => exact ih s.state fresh { s with state := update s.state }
  | mark label next ih => exact ih fresh _
  | fork call next ih => exact ih (fresh + 1) _
  | await request next ih => trivial

/-- Running a segment moves the safety obligation to its end. -/
theorem Safe.settle {post : Except S.Err α → Snapshot S ρ → Prop} {task : Task S α}
    {s : Snapshot S ρ} {fresh : Nat} (safe : Safe sys Inv tid post task s) (own : tid < fresh) :
    Safe sys Inv tid post (settle sys tid fresh task s).2.2
      (EventLoop.settle sys tid fresh task s).1 := by
  induction task generalizing fresh s with
  | done value => exact safe
  | fail error => exact safe
  | sync update next ih => exact ih s.state safe own
  | mark label next ih => exact ih safe own
  | fork call next ih => exact ih (safe fresh (by omega)) (by omega)
  | await request next ih => exact safe

end Rules

/-! ### Soundness -/

/-- What has to be proved about a program: `Inv` survives a new call and every
move of the environment, and every call is safe and may end under `Inv`. -/
structure Verified : Prop where
  starts : ∀ s fresh call, Inv s → (∀ entry ∈ s.trace, entry.tid ≠ fresh) →
    Inv (s.log sys fresh (.started call))
  bodies : ∀ s tid call, Inv s → s.Begins tid call →
    Safe sys Inv tid (fun result later => Inv (later.log sys tid (.finished call result)))
      (sys.body call) s
  externals : ∀ s event state, Inv s → sys.external s.state event = some state →
    Inv { s with state := state }

/-- A task in flight may be resumed in any later snapshot. -/
def Ready (call : S.Call) (task : Task S ρ) (s : Snapshot S ρ) : Prop :=
  ∀ later, s.Follows tid later → Inv later →
    Safe sys Inv tid (fun result final => Inv (final.log sys tid (.finished call result)))
      task later

structure PoolInv (p : Pool S ρ) : Prop where
  holds : Inv p.snapshot
  bounded : ∀ entry ∈ p.snapshot.trace, entry.tid < p.threads.length
  ready : ∀ tid call task, p.threads[tid]? = some (.running call task) →
    Ready sys Inv tid call task p.snapshot

section Soundness

variable {sys Inv}

theorem Ready.of_follows {tid : Nat} {call : S.Call} {task : Task S ρ}
    {s later : Snapshot S ρ} (ready : Ready sys Inv tid call task s)
    (follows : s.Follows tid later) : Ready sys Inv tid call task later :=
  fun final after => ready final (follows.trans after)

theorem Verified.ready_body (verified : Verified sys Inv) {tid : Nat} {call : S.Call}
    {s : Snapshot S ρ} (begins : s.Begins tid call) :
    Ready sys Inv tid call (sys.body call) s :=
  fun later follows hold => verified.bodies later tid call hold (begins.of_follows follows)

theorem PoolInv.call (verified : Verified sys Inv) {p : Pool S ρ} (pool : PoolInv sys Inv p)
    (call : S.Call) :
    PoolInv sys Inv
      { snapshot := p.snapshot.log sys p.threads.length (.started call)
        threads := p.threads ++ [.running call (sys.body call)] } := by
  have fresh : ∀ entry ∈ p.snapshot.trace, entry.tid ≠ p.threads.length :=
    fun entry member => Nat.ne_of_lt (pool.bounded entry member)
  refine ⟨verified.starts _ _ call pool.holds fresh, ?_, ?_⟩
  · intro entry member
    rcases List.mem_append.mp member with old | new
    · have := pool.bounded entry old
      simp only [List.length_append, List.length_cons, List.length_nil]
      omega
    · rw [List.mem_singleton.mp new]; simp
  · intro tid running task found
    by_cases older : tid < p.threads.length
    · rw [List.getElem?_append_left older] at found
      exact (pool.ready tid running task found).of_follows
        (p.snapshot.follows_log sys _ (by omega))
    · rw [List.getElem?_append_right (by omega)] at found
      have atEnd : tid = p.threads.length := by
        have within := (List.getElem?_eq_some_iff.mp found).1
        simp only [List.length_cons, List.length_nil] at within
        omega
      subst atEnd
      simp only [Nat.sub_self, List.getElem?_cons_zero, Option.some.injEq,
        Thread.running.injEq] at found
      obtain ⟨rfl, rfl⟩ := found
      exact verified.ready_body (Snapshot.begins_log sys fresh _)

/-- Parking a settled task keeps the invariant and leaves the task ready. -/
theorem park_inv {tid : Nat} {call : S.Call} {task : Task S ρ} {s : Snapshot S ρ}
    (safe : Safe sys Inv tid
      (fun result later => Inv (later.log sys tid (.finished call result))) task s)
    (settled : task.Settled) :
    Inv (park sys tid call s task).1 ∧
      ∀ running rest, (park sys tid call s task).2 = .running running rest →
        Ready sys Inv tid running rest (park sys tid call s task).1 := by
  cases task with
  | done value => exact ⟨safe, by simp [park]⟩
  | fail error => exact ⟨safe, by simp [park]⟩
  | sync update next => cases settled
  | mark label next => cases settled
  | fork forked next => cases settled
  | await request next =>
      refine ⟨safe.1, ?_⟩
      intro running rest same
      simp only [park, Thread.running.injEq] at same
      obtain ⟨rfl, rfl⟩ := same
      exact fun later follows hold => safe.of_follows follows hold

theorem park_follows {tid other : Nat} (call : S.Call) (task : Task S ρ) (s : Snapshot S ρ)
    (different : tid ≠ other) : s.Follows other (park sys tid call s task).1 := by
  cases task with
  | done value => exact s.follows_log sys _ different
  | fail error => exact s.follows_log sys _ different
  | sync update next => exact .refl other s
  | mark label next => exact .refl other s
  | fork forked next => exact .refl other s
  | await request next => exact .refl other s

theorem park_tid_lt {tid : Nat} (bound : Nat) (call : S.Call) (task : Task S ρ)
    (s : Snapshot S ρ) (own : tid < bound) (bounded : ∀ entry ∈ s.trace, entry.tid < bound) :
    ∀ entry ∈ (park sys tid call s task).1.trace, entry.tid < bound := by
  have logged : ∀ event, ∀ entry ∈ (s.log sys tid event).trace, entry.tid < bound := by
    intro event entry member
    rcases List.mem_append.mp member with old | new
    · exact bounded entry old
    · rw [List.mem_singleton.mp new]; exact own
  cases task with
  | done value => exact logged _
  | fail error => exact logged _
  | sync update next => exact bounded
  | mark label next => exact bounded
  | fork forked next => exact bounded
  | await request next => exact bounded

theorem PoolInv.resume (verified : Verified sys Inv) {p : Pool S ρ} (pool : PoolInv sys Inv p)
    {tid : Nat} {call : S.Call} {task : Task S ρ}
    (found : p.threads[tid]? = some (.running call task)) :
    let segment := settle sys tid p.threads.length task p.snapshot
    let parked := park sys tid call segment.1 segment.2.2
    PoolInv sys Inv
      { snapshot := parked.1
        threads := p.threads.set tid parked.2 ++
          segment.2.1.map fun forked => .running forked (sys.body forked) } := by
  intro segment parked
  have own : tid < p.threads.length := (List.getElem?_eq_some_iff.mp found).1
  have safe := pool.ready tid call task found p.snapshot (.refl tid _) pool.holds
  obtain ⟨hold, rest⟩ := park_inv (safe.settle own) (settle_settled task p.threads.length p.snapshot)
  refine ⟨hold, ?_, ?_⟩
  · have bounded : ∀ entry ∈ parked.1.trace,
        entry.tid < p.threads.length + segment.2.1.length :=
      park_tid_lt _ call segment.2.2 segment.1 (by omega)
        (settle_tid_lt task p.threads.length p.snapshot own pool.bounded)
    simpa using bounded
  · intro other running remaining at_
    by_cases older : other < p.threads.length
    · rw [List.getElem?_append_left (by simpa using older)] at at_
      by_cases same : tid = other
      · subst same
        rw [List.getElem?_set_self own, Option.some.injEq] at at_
        exact rest running remaining at_
      · rw [List.getElem?_set_ne same] at at_
        exact (pool.ready other running remaining at_).of_follows
          ((settle_follows task _ p.snapshot same older).trans
            (park_follows call segment.2.2 segment.1 same))
    · rw [List.getElem?_append_right (by simpa using older)] at at_
      simp only [List.length_set, List.getElem?_map, Option.map_eq_some_iff,
        Thread.running.injEq] at at_
      obtain ⟨forked, forkedAt, rfl, rfl⟩ := at_
      have begins := settle_begins task p.threads.length p.snapshot own pool.bounded
        (other - p.threads.length) forked forkedAt
      rw [Nat.add_sub_cancel' (Nat.le_of_not_lt older)] at begins
      exact verified.ready_body
        (begins.of_follows (park_follows call segment.2.2 segment.1 (by omega)))

theorem PoolInv.answer [DecidableEq S.Req] {p : Pool S ρ} (pool : PoolInv sys Inv p)
    {tid : Nat} {call : S.Call} {task : Task S ρ} {request : S.Req} {answer : S.Ans request}
    (found : p.threads[tid]? = some (.running call task)) {delivered : Snapshot S ρ × Task S ρ}
    (told : deliver sys p.snapshot tid request answer task = some delivered) :
    PoolInv sys Inv
      { snapshot := delivered.1
        threads := p.threads.set tid (.running call delivered.2) } := by
  have own : tid < p.threads.length := (List.getElem?_eq_some_iff.mp found).1
  have safe := pool.ready tid call task found p.snapshot (.refl tid _) pool.holds
  cases task with
  | await awaited next =>
      simp only [deliver] at told
      split at told
      · rename_i same
        subst same
        obtain ⟨state, performed, rfl⟩ := Option.map_eq_some_iff.mp told
        obtain ⟨hold, go⟩ := safe.2 p.snapshot (.refl tid _) pool.holds answer state performed
        refine ⟨hold, ?_, ?_⟩
        · intro entry member
          rcases List.mem_append.mp member with old | new
          · simpa using pool.bounded entry old
          · rw [List.mem_singleton.mp new]; simpa using own
        · intro other running remaining at_
          by_cases same : tid = other
          · subst same
            rw [List.getElem?_set_self own, Option.some.injEq, Thread.running.injEq] at at_
            obtain ⟨rfl, rfl⟩ := at_
            exact go
          · rw [List.getElem?_set_ne same] at at_
            exact (pool.ready other running remaining at_).of_follows
              ((Snapshot.follows_of_trace_eq rfl).trans
                (Snapshot.follows_log sys ⟨state, p.snapshot.trace⟩ _ same))
      · cases told
  | done value => cases told
  | fail error => cases told
  | sync update next => cases told
  | mark label next => cases told
  | fork forked next => cases told

theorem PoolInv.external (verified : Verified sys Inv) {p : Pool S ρ} (pool : PoolInv sys Inv p)
    {event : Ext} {state : S.State}
    (moved : sys.external p.snapshot.state event = some state) :
    PoolInv sys Inv { p with snapshot := { p.snapshot with state := state } } :=
  ⟨verified.externals p.snapshot event state pool.holds moved, pool.bounded,
    fun tid call task found =>
      (pool.ready tid call task found).of_follows (Snapshot.follows_of_trace_eq rfl)⟩

theorem PoolInv.initial {state : S.State} (hold : Inv ⟨state, []⟩) :
    PoolInv sys Inv (Pool.initial state) :=
  ⟨hold, by simp [Pool.initial], by simp [Pool.initial]⟩

variable [DecidableEq S.Req]

/-- One action, whoever it belongs to, keeps the pool invariant. -/
theorem PoolInv.step (verified : Verified sys Inv) {p next : Pool S ρ}
    (pool : PoolInv sys Inv p) (action : Action S Ext)
    (stepped : p.step sys action = some next) : PoolInv sys Inv next := by
  cases action with
  | call call =>
      cases stepped
      exact pool.call verified call
  | resume tid =>
      simp only [Pool.step] at stepped
      split at stepped
      · rename_i call task found
        cases stepped
        exact pool.resume verified found
      · cases stepped
  | answer tid request answer =>
      simp only [Pool.step] at stepped
      split at stepped
      · rename_i call task found
        obtain ⟨delivered, told, rfl⟩ := Option.map_eq_some_iff.mp stepped
        exact pool.answer found told
      · cases stepped
  | external event =>
      obtain ⟨state, moved, rfl⟩ := Option.map_eq_some_iff.mp stepped
      exact pool.external verified moved

theorem PoolInv.run (verified : Verified sys Inv) (schedule : List (Action S Ext)) :
    ∀ {p final : Pool S ρ}, PoolInv sys Inv p → p.run sys schedule = some final →
      PoolInv sys Inv final := by
  induction schedule with
  | nil =>
      intro p final pool ran
      cases ran
      exact pool
  | cons action rest ih =>
      intro p final pool ran
      obtain ⟨next, stepped, remaining⟩ := Option.bind_eq_some_iff.mp ran
      exact ih (pool.step verified action stepped) remaining

/-- An invariant that every call respects holds in every reachable pool. -/
theorem Verified.reachable (verified : Verified sys Inv) {state : S.State}
    (hold : Inv ⟨state, []⟩) {p : Pool S ρ} (reached : Reachable sys state p) :
    Inv p.snapshot := by
  obtain ⟨schedule, ran⟩ := reached
  exact ((PoolInv.initial hold).run verified schedule ran).holds

end Soundness

end EventLoop
