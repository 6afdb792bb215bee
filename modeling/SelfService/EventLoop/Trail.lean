/-
What one task leaves on the trace.

`Trail` follows a task through its own entries, whatever the others do between
two of its segments.  In every reachable pool the entries of a thread are its
start, a trail of its call and, once it is over, its end.  `Obeys` checks a law
along every trail of a task, so a law about the order of a task's own steps is
proved without a word about interleaving.
-/

import SelfService.EventLoop.Safety

namespace EventLoop

variable {S : Signature} {ρ Ext : Type} {α β : Type}

/-- The entries of one task, in order. -/
def ownEntries (tid : Nat) (trace : Trace S ρ) : Trace S ρ :=
  trace.filter fun entry => entry.tid = tid

@[simp] theorem ownEntries_nil (tid : Nat) : ownEntries tid ([] : Trace S ρ) = [] := rfl

@[simp] theorem ownEntries_append (tid : Nat) (early late : Trace S ρ) :
    ownEntries tid (early ++ late) = ownEntries tid early ++ ownEntries tid late :=
  List.filter_append ..

@[simp] theorem ownEntries_self (tid time : Nat) (event : Event S ρ) :
    ownEntries tid [⟨tid, time, event⟩] = [⟨tid, time, event⟩] := by
  simp [ownEntries]

theorem ownEntries_other {tid other : Nat} (different : other ≠ tid) (time : Nat)
    (event : Event S ρ) : ownEntries tid [⟨other, time, event⟩] = [] := by
  simp [ownEntries, different]

theorem mem_ownEntries {tid : Nat} {trace : Trace S ρ} {entry : Entry S ρ} :
    entry ∈ ownEntries tid trace ↔ entry ∈ trace ∧ entry.tid = tid := by
  simp [ownEntries]

theorem ownEntries_eq_nil {tid : Nat} {trace : Trace S ρ}
    (foreign : ∀ entry ∈ trace, entry.tid ≠ tid) : ownEntries tid trace = [] := by
  rw [ownEntries, List.filter_eq_nil_iff]
  intro entry member
  simp [foreign entry member]

theorem saw_of_own {tid : Nat} {trace : Trace S ρ} {event : Event S ρ}
    (saw : Saw (ownEntries tid trace) tid event) : Saw trace tid event := by
  obtain ⟨time, member⟩ := saw
  exact ⟨time, (mem_ownEntries.mp member).1⟩

/-- Where the entries of a task split, the trace splits. -/
theorem split_of_own {tid : Nat} {trace early late : Trace S ρ} {entry : Entry S ρ}
    (split : ownEntries tid trace = early ++ entry :: late) :
    ∃ before after, trace = before ++ entry :: after ∧ ownEntries tid before = early ∧
      ownEntries tid after = late := by
  obtain ⟨first, rest, rfl, own, remaining⟩ := List.filter_eq_append_iff.mp split
  obtain ⟨skipped, last, rfl, others, -, later⟩ := List.filter_eq_cons_iff.mp remaining
  refine ⟨first ++ skipped, last, by simp, ?_, later⟩
  rw [ownEntries_append]
  have none_ : ownEntries tid skipped = [] := by
    rw [ownEntries, List.filter_eq_nil_iff]
    exact others
  rw [none_, List.append_nil]
  exact own

theorem Snapshot.Follows.ownEntries_eq {tid : Nat} {s later : Snapshot S ρ}
    (follows : s.Follows tid later) : ownEntries tid later.trace = ownEntries tid s.trace := by
  obtain ⟨others, grown, foreign⟩ := follows
  rw [grown, ownEntries_append, ownEntries_eq_nil foreign, List.append_nil]

/-! ### Trails -/

/-- From one state of the memory a task moves on, leaving these entries.  Where it
waits, the memory may become anything. -/
inductive Trail (sys : System S ρ Ext) (tid : Nat) :
    S.State → Task S α → Trace S ρ → S.State → Task S α → Prop
  | here (state : S.State) (task : Task S α) : Trail sys tid state task [] state task
  | waits (state other : S.State) (request : S.Req) (next : S.Ans request → Task S α) :
      Trail sys tid state (.await request next) [] other (.await request next)
  | sync {state last : S.State} {update : S.State → S.State} {next : S.State → Task S α}
      {entries : Trace S ρ} {final : Task S α}
      (rest : Trail sys tid (update state) (next state) entries last final) :
      Trail sys tid state (.sync update next) entries last final
  | mark {state last : S.State} {label : S.Mark} {next final : Task S α} {entries : Trace S ρ}
      (rest : Trail sys tid state next entries last final) :
      Trail sys tid state (.mark label next)
        (⟨tid, sys.clock state, .marked label⟩ :: entries) last final
  | fork {state last : S.State} {call : S.Call} {next final : Task S α} {entries : Trace S ρ}
      (rest : Trail sys tid state next entries last final) :
      Trail sys tid state (.fork call next) entries last final
  | answer {state before after resumed last : S.State} {request : S.Req}
      {next : S.Ans request → Task S α} {answer : S.Ans request} {entries : Trace S ρ}
      {final : Task S α} (performed : sys.perform before request answer = some after)
      (rest : Trail sys tid resumed (next answer) entries last final) :
      Trail sys tid state (.await request next)
        (⟨tid, sys.clock after, .answered request answer⟩ :: entries) last final

section Trails

variable {sys : System S ρ Ext} {tid : Nat}

theorem Trail.trans {state middle last : S.State} {task between final : Task S α}
    {early late : Trace S ρ} (first : Trail sys tid state task early middle between)
    (second : Trail sys tid middle between late last final) :
    Trail sys tid state task (early ++ late) last final := by
  induction first with
  | here state task => exact second
  | waits state other request next =>
      cases second with
      | here => exact .waits _ _ _ _
      | waits => exact .waits _ _ _ _
      | answer performed rest => exact .answer performed rest
  | sync rest ih => exact .sync (ih second)
  | mark rest ih => exact .mark (ih second)
  | fork rest ih => exact .fork (ih second)
  | answer performed rest ih => exact .answer performed (ih second)

/-- The entries of a trail are marks and answers of the task itself. -/
theorem Trail.entry_cases {state last : S.State} {task final : Task S α} {entries : Trace S ρ}
    (trail : Trail sys tid state task entries last final) :
    ∀ entry ∈ entries, entry.tid = tid ∧
      ((∃ label, entry.event = .marked label) ∨
        ∃ request answer, entry.event = .answered request answer) := by
  induction trail with
  | here state task =>
      intro entry member
      cases member
  | waits state other request next =>
      intro entry member
      cases member
  | sync rest ih => exact ih
  | mark rest ih =>
      intro entry member
      rcases List.mem_cons.mp member with rfl | later
      · exact ⟨rfl, Or.inl ⟨_, rfl⟩⟩
      · exact ih entry later
  | fork rest ih => exact ih
  | answer performed rest ih =>
      intro entry member
      rcases List.mem_cons.mp member with rfl | later
      · exact ⟨rfl, Or.inr ⟨_, _, rfl⟩⟩
      · exact ih entry later

/-- A segment is a trail. -/
theorem settle_trail (task : Task S α) (fresh : Nat) (s : Snapshot S ρ) (own : tid < fresh) :
    ∃ entries, Trail sys tid s.state task entries (settle sys tid fresh task s).1.state
        (settle sys tid fresh task s).2.2 ∧
      ownEntries tid (settle sys tid fresh task s).1.trace =
        ownEntries tid s.trace ++ entries := by
  induction task generalizing fresh s with
  | done value => exact ⟨[], .here _ _, (List.append_nil _).symm⟩
  | fail error => exact ⟨[], .here _ _, (List.append_nil _).symm⟩
  | sync update next ih =>
      obtain ⟨entries, trail, left⟩ := ih s.state fresh { s with state := update s.state } own
      exact ⟨entries, .sync trail, left⟩
  | mark label next ih =>
      obtain ⟨entries, trail, left⟩ := ih fresh (s.log sys tid (.marked label)) own
      refine ⟨_ :: entries, .mark trail, ?_⟩
      change ownEntries tid (settle sys tid fresh next (s.log sys tid (.marked label))).1.trace = _
      rw [left, Snapshot.log_trace, ownEntries_append, ownEntries_self, List.append_assoc,
        List.singleton_append]
  | fork call next ih =>
      obtain ⟨entries, trail, left⟩ := ih (fresh + 1) (s.log sys fresh (.started call)) (by omega)
      refine ⟨entries, .fork trail, ?_⟩
      change ownEntries tid (settle sys tid (fresh + 1) next
        (s.log sys fresh (.started call))).1.trace = _
      rw [left, Snapshot.log_trace, ownEntries_append, ownEntries_other (by omega),
        List.append_nil]
  | await request next ih => exact ⟨[], .here _ _, (List.append_nil _).symm⟩

/-- A forked call has left its start and nothing else. -/
theorem settle_forked (task : Task S α) (fresh : Nat) (s : Snapshot S ρ) (own : tid < fresh)
    (bounded : ∀ entry ∈ s.trace, entry.tid < fresh) (index : Nat) (call : S.Call)
    (forked : (settle sys tid fresh task s).2.1[index]? = some call) :
    ∃ time, ownEntries (fresh + index) (settle sys tid fresh task s).1.trace =
      [⟨fresh + index, time, .started call⟩] := by
  induction task generalizing fresh s index with
  | done value => simp [settle] at forked
  | fail error => simp [settle] at forked
  | sync update next ih =>
      exact ih s.state fresh { s with state := update s.state } own bounded index forked
  | mark label next ih =>
      refine ih fresh (s.log sys tid (.marked label)) own ?_ index forked
      intro entry member
      rcases List.mem_append.mp member with old | new
      · exact bounded entry old
      · rw [List.mem_singleton.mp new]
        exact own
  | fork started next ih =>
      cases index with
      | zero =>
          have same : started = call := by simpa [settle] using forked
          subst same
          have follows : (s.log sys fresh (.started started)).Follows fresh
              (settle sys tid (fresh + 1) next (s.log sys fresh (.started started))).1 :=
            settle_follows next (fresh + 1) _ (by omega) (Nat.lt_succ_self fresh)
          refine ⟨sys.clock s.state, ?_⟩
          change ownEntries fresh (settle sys tid (fresh + 1) next
            (s.log sys fresh (.started started))).1.trace = _
          rw [follows.ownEntries_eq, Snapshot.log_trace, ownEntries_append,
            ownEntries_eq_nil fun entry member => Nat.ne_of_lt (bounded entry member),
            ownEntries_self]
          rfl
      | succ index =>
          obtain ⟨time, left⟩ := ih (fresh + 1) (s.log sys fresh (.started started)) (by omega) (by
            intro entry member
            rcases List.mem_append.mp member with old | new
            · exact Nat.lt_succ_of_lt (bounded entry old)
            · rw [List.mem_singleton.mp new]
              exact Nat.lt_succ_self fresh) index (by simpa [settle] using forked)
          rw [Nat.add_assoc, Nat.add_comm 1] at left
          exact ⟨time, left⟩
  | await request next ih => simp [settle] at forked

end Trails

/-! ### Threads -/

/-- What the entries of a thread after its start tell about where it stands. -/
def ThreadTrail (sys : System S ρ Ext) (tid : Nat) (call : S.Call) (entries : Trace S ρ) :
    Thread S ρ → Prop
  | .running current task =>
      current = call ∧ ∀ state, ∃ start, Trail sys tid start (sys.body call) entries state task
  | .finished =>
      ∃ start last trail result time,
        entries = trail ++ [⟨tid, time, .finished call result⟩] ∧
          Trail sys tid start (sys.body call) trail last (Task.settleWith result)

/-- The entries of every thread are its start and what it did since. -/
structure Traced (sys : System S ρ Ext) (p : Pool S ρ) : Prop where
  bounded : ∀ entry ∈ p.snapshot.trace, entry.tid < p.threads.length
  threads : ∀ tid thread, p.threads[tid]? = some thread → ∃ time call entries,
    ownEntries tid p.snapshot.trace = ⟨tid, time, .started call⟩ :: entries ∧
      ThreadTrail sys tid call entries thread

section Threads

variable {sys : System S ρ Ext}

/-- After its start a thread leaves marks and answers, and at last its end. -/
theorem ThreadTrail.entry_cases {tid : Nat} {call : S.Call} {entries : Trace S ρ}
    {thread : Thread S ρ} (stands : ThreadTrail sys tid call entries thread) (state : S.State)
    {before after : Trace S ρ} {entry : Entry S ρ} (split : entries = before ++ entry :: after) :
    (∃ label, entry.event = .marked label) ∨
      (∃ request answer, entry.event = .answered request answer) ∨
      (∃ result, entry.event = .finished call result) ∧ after = [] := by
  cases thread with
  | running current task =>
      obtain ⟨rfl, stands⟩ := stands
      obtain ⟨start, trail⟩ := stands state
      exact ((trail.entry_cases entry (by simp [split])).2).imp_right Or.inl
  | finished =>
      obtain ⟨start, last, trail, result, time, rfl, followed⟩ := stands
      rcases List.eq_nil_or_concat after with rfl | ⟨front, final, rfl⟩
      · obtain ⟨-, same⟩ := List.append_inj' split rfl
        rw [← List.singleton_inj.mp same]
        exact Or.inr (Or.inr ⟨⟨result, rfl⟩, rfl⟩)
      · rw [List.concat_eq_append, ← List.cons_append, ← List.append_assoc] at split
        obtain ⟨inside, -⟩ := List.append_inj' split rfl
        exact ((followed.entry_cases entry (by simp [inside])).2).imp_right Or.inl

theorem traced_initial (state : S.State) : Traced sys (Pool.initial state : Pool S ρ) :=
  ⟨by simp [Pool.initial], by simp [Pool.initial]⟩

/-- A thread that did nothing meanwhile stands where it stood. -/
theorem Traced.of_follows {p : Pool S ρ} (traced : Traced sys p) {tid : Nat} {thread : Thread S ρ}
    (found : p.threads[tid]? = some thread) {later : Snapshot S ρ}
    (follows : p.snapshot.Follows tid later) : ∃ time call entries,
    ownEntries tid later.trace = ⟨tid, time, .started call⟩ :: entries ∧
      ThreadTrail sys tid call entries thread := by
  obtain ⟨time, call, entries, own, stands⟩ := traced.threads tid thread found
  exact ⟨time, call, entries, by rw [follows.ownEntries_eq, own], stands⟩

theorem Traced.call {p : Pool S ρ} (traced : Traced sys p) (call : S.Call) :
    Traced sys
      { snapshot := p.snapshot.log sys p.threads.length (.started call)
        threads := p.threads ++ [.running call (sys.body call)] } := by
  constructor
  · intro entry member
    rcases List.mem_append.mp member with old | new
    · have := traced.bounded entry old
      simp only [List.length_append, List.length_cons, List.length_nil]
      omega
    · rw [List.mem_singleton.mp new]
      simp
  · intro tid thread found
    by_cases older : tid < p.threads.length
    · rw [List.getElem?_append_left older] at found
      exact traced.of_follows found (p.snapshot.follows_log sys _ (by omega))
    · rw [List.getElem?_append_right (by omega)] at found
      have atEnd : tid = p.threads.length := by
        have within := (List.getElem?_eq_some_iff.mp found).1
        simp only [List.length_cons, List.length_nil] at within
        omega
      subst atEnd
      simp only [Nat.sub_self, List.getElem?_cons_zero, Option.some.injEq] at found
      subst found
      refine ⟨sys.clock p.snapshot.state, call, [], ?_, rfl, fun state => ⟨state, .here _ _⟩⟩
      rw [Snapshot.log_trace, ownEntries_append,
        ownEntries_eq_nil fun entry member => Nat.ne_of_lt (traced.bounded entry member),
        ownEntries_self]
      rfl

/-- Parking a thread whose segment is over. -/
theorem park_trail {tid : Nat} {call : S.Call} {task : Task S ρ} {s : Snapshot S ρ}
    {start : S.State} {entries past : Trace S ρ} (own : ownEntries tid s.trace = past ++ entries)
    (trail : Trail sys tid start (sys.body call) entries s.state task) (settled : task.Settled) :
    ∃ entries, ownEntries tid (park sys tid call s task).1.trace = past ++ entries ∧
      ThreadTrail sys tid call entries (park sys tid call s task).2 := by
  have logged (event : Event S ρ) : ownEntries tid (s.log sys tid event).trace =
      past ++ (entries ++ [⟨tid, sys.clock s.state, event⟩]) := by
    rw [Snapshot.log_trace, ownEntries_append, own, ownEntries_self, List.append_assoc]
  cases task with
  | done value => exact ⟨_, logged _, start, s.state, entries, .ok value, _, rfl, trail⟩
  | fail error => exact ⟨_, logged _, start, s.state, entries, .error error, _, rfl, trail⟩
  | sync update next => cases settled
  | mark label next => cases settled
  | fork forked next => cases settled
  | await request next =>
      refine ⟨entries, own, rfl, fun state => ⟨start, ?_⟩⟩
      have waits : Trail sys tid s.state (.await request next) [] state (.await request next) :=
        .waits s.state state request next
      have waiting := trail.trans waits
      rwa [List.append_nil] at waiting

theorem Traced.resume {p : Pool S ρ} (traced : Traced sys p) {tid : Nat} {call : S.Call}
    {task : Task S ρ} (found : p.threads[tid]? = some (.running call task)) :
    let segment := settle sys tid p.threads.length task p.snapshot
    let parked := park sys tid call segment.1 segment.2.2
    Traced sys
      { snapshot := parked.1
        threads := p.threads.set tid parked.2 ++
          segment.2.1.map fun forked => .running forked (sys.body forked) } := by
  intro segment parked
  have own : tid < p.threads.length := (List.getElem?_eq_some_iff.mp found).1
  obtain ⟨time, started, past, left, same, stands⟩ := traced.threads tid _ found
  subst same
  obtain ⟨start, trail⟩ := stands p.snapshot.state
  obtain ⟨entries, moved, added⟩ : ∃ entries, Trail sys tid p.snapshot.state task entries
      segment.1.state segment.2.2 ∧ ownEntries tid segment.1.trace =
        ownEntries tid p.snapshot.trace ++ entries :=
    settle_trail task p.threads.length p.snapshot own
  rw [left, List.cons_append, ← List.singleton_append] at added
  obtain ⟨all, leftNow, standsNow⟩ := park_trail added (trail.trans moved)
    (settle_settled task p.threads.length p.snapshot)
  constructor
  · have bounded : ∀ entry ∈ parked.1.trace,
        entry.tid < p.threads.length + segment.2.1.length :=
      park_tid_lt _ call segment.2.2 segment.1 (by omega)
        (settle_tid_lt task p.threads.length p.snapshot own traced.bounded)
    simpa using bounded
  · intro other thread at_
    by_cases older : other < p.threads.length
    · rw [List.getElem?_append_left (by simpa using older)] at at_
      by_cases same : tid = other
      · subst same
        rw [List.getElem?_set_self own, Option.some.injEq] at at_
        subst at_
        exact ⟨time, call, all, leftNow, standsNow⟩
      · rw [List.getElem?_set_ne same] at at_
        exact traced.of_follows at_ ((settle_follows task _ p.snapshot same older).trans
          (park_follows call segment.2.2 segment.1 same))
    · rw [List.getElem?_append_right (by simpa using older)] at at_
      simp only [List.length_set, List.getElem?_map, Option.map_eq_some_iff] at at_
      obtain ⟨forked, forkedAt, rfl⟩ := at_
      obtain ⟨moment, alone⟩ := settle_forked task p.threads.length p.snapshot own traced.bounded
        (other - p.threads.length) forked forkedAt
      rw [Nat.add_sub_cancel' (Nat.le_of_not_lt older)] at alone
      have follows : segment.1.Follows other parked.1 :=
        park_follows call segment.2.2 segment.1 (show tid ≠ other by omega)
      exact ⟨moment, forked, [], by rw [follows.ownEntries_eq, alone], rfl,
        fun state => ⟨state, .here _ _⟩⟩

theorem Traced.answer [DecidableEq S.Req] {p : Pool S ρ} (traced : Traced sys p) {tid : Nat}
    {call : S.Call} {task : Task S ρ} {request : S.Req} {answer : S.Ans request}
    (found : p.threads[tid]? = some (.running call task)) {delivered : Snapshot S ρ × Task S ρ}
    (told : deliver sys p.snapshot tid request answer task = some delivered) :
    Traced sys
      { snapshot := delivered.1
        threads := p.threads.set tid (.running call delivered.2) } := by
  have own : tid < p.threads.length := (List.getElem?_eq_some_iff.mp found).1
  obtain ⟨time, started, past, left, same, stands⟩ := traced.threads tid _ found
  subst same
  cases task with
  | await awaited next =>
      simp only [deliver] at told
      split at told
      · rename_i same
        subst same
        obtain ⟨after, performed, rfl⟩ := Option.map_eq_some_iff.mp told
        constructor
        · intro entry member
          rcases List.mem_append.mp member with old | new
          · simpa using traced.bounded entry old
          · rw [List.mem_singleton.mp new]
            simpa using own
        · intro other thread at_
          by_cases same : tid = other
          · subst same
            rw [List.getElem?_set_self own, Option.some.injEq] at at_
            subst at_
            refine ⟨time, call, past ++ [⟨tid, sys.clock after, .answered request answer⟩], ?_, rfl,
              ?_⟩
            · rw [Snapshot.log_trace, ownEntries_append, left, ownEntries_self, List.cons_append]
            · intro state
              obtain ⟨start, trail⟩ := stands p.snapshot.state
              exact ⟨start, trail.trans (.answer performed (.here state (next answer)))⟩
          · rw [List.getElem?_set_ne same] at at_
            exact traced.of_follows at_ ((Snapshot.follows_of_trace_eq rfl).trans
              (Snapshot.follows_log sys ⟨after, p.snapshot.trace⟩ _ same))
      · cases told
  | done value => cases told
  | fail error => cases told
  | sync update next => cases told
  | mark label next => cases told
  | fork forked next => cases told

variable [DecidableEq S.Req]

theorem Traced.step {p next : Pool S ρ} (traced : Traced sys p) (action : Action S Ext)
    (stepped : p.step sys action = some next) : Traced sys next := by
  cases action with
  | call call =>
      cases stepped
      exact traced.call call
  | resume tid =>
      simp only [Pool.step] at stepped
      split at stepped
      · rename_i call task found
        cases stepped
        exact traced.resume found
      · cases stepped
  | answer tid request answer =>
      simp only [Pool.step] at stepped
      split at stepped
      · rename_i call task found
        obtain ⟨delivered, told, rfl⟩ := Option.map_eq_some_iff.mp stepped
        exact traced.answer found told
      · cases stepped
  | external event =>
      obtain ⟨state, moved, rfl⟩ := Option.map_eq_some_iff.mp stepped
      exact ⟨traced.bounded, traced.threads⟩

theorem Traced.run (schedule : List (Action S Ext)) :
    ∀ {p final : Pool S ρ}, Traced sys p → p.run sys schedule = some final →
      Traced sys final := by
  induction schedule with
  | nil =>
      intro p final traced ran
      cases ran
      exact traced
  | cons action rest ih =>
      intro p final traced ran
      obtain ⟨next, stepped, remaining⟩ := Option.bind_eq_some_iff.mp ran
      exact ih (traced.step action stepped) remaining

theorem Reachable.traced {state : S.State} {p : Pool S ρ} (reached : Reachable sys state p) :
    Traced sys p := by
  obtain ⟨schedule, ran⟩ := reached
  exact Traced.run schedule (traced_initial state) ran

end Threads

/-! ### Laws -/

/-- A law relates an entry of a task to the entries the task left before. -/
abbrev Law (S : Signature) (ρ : Type) := Trace S ρ → Entry S ρ → Prop

/-- Whatever is answered and whatever the memory becomes at an await point, every
entry the task leaves obeys the law, and the task ends in `post`. -/
def Obeys (sys : System S ρ Ext) (tid : Nat) (law : Law S ρ)
    (post : Except S.Err α → S.State → Trace S ρ → Prop) :
    Task S α → S.State → Trace S ρ → Prop
  | .done value, state, past => post (.ok value) state past
  | .fail error, state, past => post (.error error) state past
  | .sync update next, state, past => Obeys sys tid law post (next state) (update state) past
  | .mark label next, state, past =>
      law past ⟨tid, sys.clock state, .marked label⟩ ∧
        Obeys sys tid law post next state (past ++ [⟨tid, sys.clock state, .marked label⟩])
  | .fork _ next, state, past => Obeys sys tid law post next state past
  | .await request next, _, past =>
      ∀ answer before after resumed, sys.perform before request answer = some after →
        law past ⟨tid, sys.clock after, .answered request answer⟩ ∧
          Obeys sys tid law post (next answer) resumed
            (past ++ [⟨tid, sys.clock after, .answered request answer⟩])

section Laws

variable {sys : System S ρ Ext} {tid : Nat} {law : Law S ρ}

theorem Obeys.mono {post weaker : Except S.Err α → S.State → Trace S ρ → Prop}
    {task : Task S α} {state : S.State} {past : Trace S ρ}
    (obeys : Obeys sys tid law post task state past)
    (imp : ∀ result last all, post result last all → weaker result last all) :
    Obeys sys tid law weaker task state past := by
  induction task generalizing state past with
  | done value => exact imp _ _ _ obeys
  | fail error => exact imp _ _ _ obeys
  | sync update next ih => exact ih state obeys
  | mark label next ih => exact ⟨obeys.1, ih obeys.2⟩
  | fork call next ih => exact ih obeys
  | await request next ih =>
      intro answer before after resumed performed
      obtain ⟨lawful, rest⟩ := obeys answer before after resumed performed
      exact ⟨lawful, ih answer rest⟩

theorem obeys_bind (post : Except S.Err β → S.State → Trace S ρ → Prop) (task : Task S α)
    (rest : α → Task S β) (state : S.State) (past : Trace S ρ) :
    Obeys sys tid law post (task >>= rest) state past ↔
      Obeys sys tid law (fun result last all =>
        match result with
        | .ok value => Obeys sys tid law post (rest value) last all
        | .error error => post (.error error) last all) task state past := by
  induction task generalizing state past with
  | done value => exact Iff.rfl
  | fail error => exact Iff.rfl
  | sync update next ih => exact ih state _ past
  | mark label next ih => exact and_congr_right fun _ => ih _ _
  | fork call next ih => exact ih _ _
  | await request next ih =>
      refine forall_congr' fun answer => forall_congr' fun before => forall_congr' fun after =>
        forall_congr' fun resumed => imp_congr_right fun _ => and_congr_right fun _ =>
        ih answer resumed _

theorem obeys_attempt (post : Except S.Err (Except S.Err α) → S.State → Trace S ρ → Prop)
    (task : Task S α) (state : S.State) (past : Trace S ρ) :
    Obeys sys tid law post task.attempt state past ↔
      Obeys sys tid law (fun result last all => post (.ok result) last all) task state past := by
  induction task generalizing state past with
  | done value => exact Iff.rfl
  | fail error => exact Iff.rfl
  | sync update next ih => exact ih state _ past
  | mark label next ih => exact and_congr_right fun _ => ih _ _
  | fork call next ih => exact ih _ _
  | await request next ih =>
      refine forall_congr' fun answer => forall_congr' fun before => forall_congr' fun after =>
        forall_congr' fun resumed => imp_congr_right fun _ => and_congr_right fun _ =>
        ih answer resumed _

/-- A law that a task obeys holds along its trails. -/
theorem Obeys.along {post : Except S.Err α → S.State → Trace S ρ → Prop} {state last : S.State}
    {task final : Task S α} {entries : Trace S ρ}
    (trail : Trail sys tid state task entries last final) {past : Trace S ρ}
    (obeys : Obeys sys tid law post task state past) :
    (∀ before entry after, entries = before ++ entry :: after → law (past ++ before) entry) ∧
      Obeys sys tid law post final last (past ++ entries) := by
  induction trail generalizing past with
  | here state task =>
      rw [List.append_nil]
      refine ⟨?_, obeys⟩
      intro before entry after same
      simp at same
  | waits state other request next =>
      rw [List.append_nil]
      refine ⟨?_, obeys⟩
      intro before entry after same
      simp at same
  | sync rest ih => exact ih obeys
  | fork rest ih => exact ih obeys
  | mark rest ih =>
      obtain ⟨lawful, onwards⟩ := ih obeys.2
      rw [List.append_assoc, List.singleton_append] at onwards
      refine ⟨?_, onwards⟩
      intro before entry after same
      cases before with
      | nil =>
          obtain ⟨rfl, -⟩ := List.cons.inj same
          rw [List.append_nil]
          exact obeys.1
      | cons head before =>
          obtain ⟨rfl, later⟩ := List.cons.inj same
          have holds := lawful before entry after later
          rwa [List.append_assoc, List.singleton_append] at holds
  | answer performed rest ih =>
      obtain ⟨first, remaining⟩ := obeys _ _ _ _ performed
      obtain ⟨lawful, onwards⟩ := ih remaining
      rw [List.append_assoc, List.singleton_append] at onwards
      refine ⟨?_, onwards⟩
      intro before entry after same
      cases before with
      | nil =>
          obtain ⟨rfl, -⟩ := List.cons.inj same
          rw [List.append_nil]
          exact first
      | cons head before =>
          obtain ⟨rfl, later⟩ := List.cons.inj same
          have holds := lawful before entry after later
          rwa [List.append_assoc, List.singleton_append] at holds

/-- A call that obeys a law from its start to its end. -/
structure Lawful (sys : System S ρ Ext) (law : Law S ρ) (tid : Nat) (call : S.Call) : Prop where
  starts : ∀ time, law [] ⟨tid, time, .started call⟩
  obeys : ∀ time state, Obeys sys tid law
    (fun result _ past => ∀ time, law past ⟨tid, time, .finished call result⟩) (sys.body call)
    state [⟨tid, time, .started call⟩]

theorem obeys_settleWith {post : Except S.Err α → S.State → Trace S ρ → Prop}
    {result : Except S.Err α} {state : S.State} {past : Trace S ρ}
    (obeys : Obeys sys tid law post (Task.settleWith result) state past) :
    post result state past := by
  cases result with
  | ok value => exact obeys
  | error error => exact obeys

theorem Lawful.of_thread {call : S.Call} (lawful : Lawful sys law tid call) {time : Nat}
    {entries : Trace S ρ} {thread : Thread S ρ} (stands : ThreadTrail sys tid call entries thread)
    (state : S.State) {before after : Trace S ρ} {entry : Entry S ρ}
    (same : ⟨tid, time, .started call⟩ :: entries = before ++ entry :: after) :
    law before entry := by
  cases before with
  | nil =>
      obtain ⟨rfl, -⟩ := List.cons.inj same
      exact lawful.starts time
  | cons head before =>
      rw [List.cons_append] at same
      obtain ⟨rfl, later⟩ := List.cons.inj same
      cases thread with
      | running current task =>
          obtain ⟨rfl, stands⟩ := stands
          obtain ⟨start, followed⟩ := stands state
          exact ((lawful.obeys time start).along followed).1 before entry after later
      | finished =>
          obtain ⟨start, last, trail, result, moment, rfl, followed⟩ := stands
          obtain ⟨along, ended⟩ := (lawful.obeys time start).along followed
          rcases List.eq_nil_or_concat after with rfl | ⟨front, final, rfl⟩
          · obtain ⟨sameTrail, sameEntry⟩ := List.append_inj' later rfl
            rw [← sameTrail, ← List.singleton_inj.mp sameEntry]
            exact obeys_settleWith ended moment
          · rw [List.concat_eq_append, ← List.cons_append, ← List.append_assoc] at later
            exact along before entry front (List.append_inj' later rfl).1

/-- Splitting a trace splits the entries of every task. -/
theorem ownEntries_split {trace before after : Trace S ρ} {entry : Entry S ρ}
    (split : trace = before ++ entry :: after) :
    ownEntries entry.tid trace =
      ownEntries entry.tid before ++ entry :: ownEntries entry.tid after := by
  rw [split, ownEntries_append, ← List.singleton_append, ownEntries_append]
  exact congrArg (ownEntries entry.tid before ++ ·) (by simp [ownEntries])

variable [DecidableEq S.Req] {start : S.State} {p : Pool S ρ}

/-- Every entry belongs to a thread, which began with some call. -/
theorem Reachable.thread (reached : Reachable sys start p) {entry : Entry S ρ}
    (member : entry ∈ p.snapshot.trace) : ∃ thread time call entries,
      p.threads[entry.tid]? = some thread ∧
        ownEntries entry.tid p.snapshot.trace = ⟨entry.tid, time, .started call⟩ :: entries ∧
          ThreadTrail sys entry.tid call entries thread := by
  have traced := reached.traced
  have found := List.getElem?_eq_getElem (traced.bounded entry member)
  obtain ⟨time, call, entries, own, stands⟩ := traced.threads entry.tid _ found
  exact ⟨_, time, call, entries, found, own, stands⟩

/-- A thread starts once, before anything else it does. -/
theorem Reachable.started_first (reached : Reachable sys start p) {before after : Trace S ρ}
    {tid time : Nat} {call : S.Call}
    (split : p.snapshot.trace = before ++ ⟨tid, time, .started call⟩ :: after) :
    ownEntries tid before = [] := by
  have member : ⟨tid, time, .started call⟩ ∈ p.snapshot.trace := by simp [split]
  obtain ⟨thread, moment, began, entries, -, own, stands⟩ := reached.thread member
  have owned := ownEntries_split split
  rw [own] at owned
  cases first : ownEntries tid before with
  | nil => rfl
  | cons head rest =>
      rw [first, List.cons_append] at owned
      rcases stands.entry_cases p.snapshot.state (List.cons.inj owned).2 with
        ⟨_, event⟩ | ⟨_, _, event⟩ | ⟨⟨_, event⟩, -⟩
      · cases event
      · cases event
      · cases event

/-- After its end a thread does nothing. -/
theorem Reachable.finished_last (reached : Reachable sys start p) {before after : Trace S ρ}
    {tid time : Nat} {call : S.Call} {result : Except S.Err ρ}
    (split : p.snapshot.trace = before ++ ⟨tid, time, .finished call result⟩ :: after) :
    ownEntries tid after = [] := by
  have member : ⟨tid, time, .finished call result⟩ ∈ p.snapshot.trace := by simp [split]
  obtain ⟨thread, moment, began, entries, -, own, stands⟩ := reached.thread member
  have owned := ownEntries_split split
  rw [own] at owned
  cases first : ownEntries tid before with
  | nil =>
      rw [first, List.nil_append] at owned
      cases (List.cons.inj owned).1
  | cons head rest =>
      rw [first, List.cons_append] at owned
      rcases stands.entry_cases p.snapshot.state (List.cons.inj owned).2 with
        ⟨_, event⟩ | ⟨_, _, event⟩ | ⟨-, empty⟩
      · cases event
      · cases event
      · exact empty

/-- No entry of a thread comes before its start. -/
theorem Reachable.start_first (reached : Reachable sys start p) {before after : Trace S ρ}
    {tid time : Nat} {call : S.Call}
    (split : p.snapshot.trace = before ++ ⟨tid, time, .started call⟩ :: after) {entry : Entry S ρ}
    (member : entry ∈ before) : entry.tid ≠ tid := by
  intro own
  have mine : entry ∈ ownEntries tid before := mem_ownEntries.mpr ⟨member, own⟩
  rw [reached.started_first split] at mine
  cases mine

/-- No entry of a thread comes after its end. -/
theorem Reachable.end_last (reached : Reachable sys start p) {before after : Trace S ρ}
    {entry : Entry S ρ} (split : p.snapshot.trace = before ++ entry :: after) {time : Nat}
    {call : S.Call} {result : Except S.Err ρ} :
    ⟨entry.tid, time, .finished call result⟩ ∉ before := by
  intro member
  obtain ⟨early, late, rfl⟩ := List.append_of_mem member
  rw [List.append_assoc, List.cons_append] at split
  have mine : entry ∈ ownEntries entry.tid (late ++ entry :: after) :=
    mem_ownEntries.mpr ⟨by simp, rfl⟩
  rw [reached.finished_last split] at mine
  cases mine

/-- What ends has begun. -/
theorem Reachable.finished_began (reached : Reachable sys start p) {before after : Trace S ρ}
    {tid time : Nat} {call : S.Call} {result : Except S.Err ρ}
    (split : p.snapshot.trace = before ++ ⟨tid, time, .finished call result⟩ :: after) :
    Saw before tid (.started call) := by
  have member : ⟨tid, time, .finished call result⟩ ∈ p.snapshot.trace := by simp [split]
  obtain ⟨thread, moment, began, entries, -, own, stands⟩ := reached.thread member
  have owned := ownEntries_split split
  rw [own] at owned
  cases first : ownEntries tid before with
  | nil =>
      rw [first, List.nil_append] at owned
      cases (List.cons.inj owned).1
  | cons head rest =>
      rw [first, List.cons_append] at owned
      obtain ⟨rfl, rest⟩ := List.cons.inj owned
      rcases stands.entry_cases p.snapshot.state rest with ⟨_, event⟩ | ⟨_, _, event⟩ | ⟨⟨_, event⟩, -⟩
      · cases event
      · cases event
      · cases event
        apply saw_of_own
        exact ⟨moment, by simp [first]⟩

/-- Every entry is preceded by the start of its thread, or is that start. -/
theorem Reachable.started_before (reached : Reachable sys start p) {before after : Trace S ρ}
    {entry : Entry S ρ} (split : p.snapshot.trace = before ++ entry :: after) :
    (∃ call, entry.event = .started call) ∨
      ∃ call time, ⟨entry.tid, time, .started call⟩ ∈ before := by
  have member : entry ∈ p.snapshot.trace := by simp [split]
  obtain ⟨thread, moment, began, entries, -, own, stands⟩ := reached.thread member
  have owned := ownEntries_split split
  rw [own] at owned
  cases first : ownEntries entry.tid before with
  | nil =>
      rw [first, List.nil_append] at owned
      left
      exact ⟨began, by rw [← (List.cons.inj owned).1]⟩
  | cons head rest =>
      rw [first, List.cons_append] at owned
      right
      refine ⟨began, moment, ?_⟩
      have inBefore : head ∈ ownEntries entry.tid before := by simp [first]
      rw [(List.cons.inj owned).1]
      exact (mem_ownEntries.mp inBefore).1

theorem Reachable.started_unique (reached : Reachable sys start p) {tid : Nat}
    {first second : S.Call} (began : p.snapshot.Saw tid (.started first))
    (other : p.snapshot.Saw tid (.started second)) : first = second := by
  obtain ⟨time, member⟩ := began
  obtain ⟨moment, otherMember⟩ := other
  obtain ⟨before, after, split⟩ := List.append_of_mem member
  obtain ⟨past, later, otherSplit⟩ := List.append_of_mem otherMember
  have alone := ownEntries_split split
  have otherAlone := ownEntries_split otherSplit
  rw [reached.started_first split] at alone
  rw [reached.started_first otherSplit] at otherAlone
  have heads := (List.cons.inj (alone.symm.trans otherAlone)).1
  cases heads
  rfl

/-- In every run the entries of a lawful call obey its law. -/
theorem Reachable.lawful (reached : Reachable sys start p) {before after : Trace S ρ}
    {entry : Entry S ρ} (split : p.snapshot.trace = before ++ entry :: after)
    (lawful : ∀ call, p.snapshot.Saw entry.tid (.started call) →
      Lawful sys law entry.tid call) :
    law (ownEntries entry.tid before) entry := by
  have member : entry ∈ p.snapshot.trace := by simp [split]
  obtain ⟨thread, time, call, entries, -, own, stands⟩ := reached.thread member
  have began : p.snapshot.Saw entry.tid (.started call) := by
    have first : ⟨entry.tid, time, .started call⟩ ∈ ownEntries entry.tid p.snapshot.trace := by
      rw [own]
      exact List.mem_cons_self
    exact ⟨time, (mem_ownEntries.mp first).1⟩
  apply (lawful call began).of_thread stands p.snapshot.state
  rw [← own]
  exact ownEntries_split split

/-- One lawful call is enough where the call of the entry is known. -/
theorem Reachable.lawful_call (reached : Reachable sys start p) {before after : Trace S ρ}
    {entry : Entry S ρ} (split : p.snapshot.trace = before ++ entry :: after) {call : S.Call}
    (began : Saw before entry.tid (.started call)) (lawful : Lawful sys law entry.tid call) :
    law (ownEntries entry.tid before) entry := by
  obtain ⟨time, member⟩ := began
  have seen : p.snapshot.Saw entry.tid (.started call) := ⟨time, by simp [split, member]⟩
  apply reached.lawful split
  intro other saw
  rw [reached.started_unique saw seen]
  exact lawful

end Laws

/-! ### Tasks that only ask -/

/-- The task changes nothing itself: it reads, leaves allowed marks and sends
allowed requests. -/
def Task.Asks (requests : S.Req → Prop) (marks : S.Mark → Prop) : Task S α → Prop
  | .done _ | .fail _ => True
  | .sync update next => update = id ∧ ∀ state, (next state).Asks requests marks
  | .mark label next => marks label ∧ next.Asks requests marks
  | .fork _ _ => False
  | .await request next => requests request ∧ ∀ answer, (next answer).Asks requests marks

section Asking

variable {requests : S.Req → Prop} {marks : S.Mark → Prop}

theorem Task.Asks.bind {task : Task S α} {rest : α → Task S β} (first : task.Asks requests marks)
    (second : ∀ value, (rest value).Asks requests marks) :
    (task >>= rest).Asks requests marks := by
  induction task with
  | done value => exact second value
  | fail error => exact trivial
  | sync update next ih => exact ⟨first.1, fun state => ih state (first.2 state)⟩
  | mark label next ih => exact ⟨first.1, ih first.2⟩
  | fork call next ih => exact first.elim
  | await request next ih => exact ⟨first.1, fun answer => ih answer (first.2 answer)⟩

theorem Task.Asks.attempt {task : Task S α} (asks : task.Asks requests marks) :
    task.attempt.Asks requests marks := by
  induction task with
  | done value => exact trivial
  | fail error => exact trivial
  | sync update next ih => exact ⟨asks.1, fun state => ih state (asks.2 state)⟩
  | mark label next ih => exact ⟨asks.1, ih asks.2⟩
  | fork call next ih => exact asks.elim
  | await request next ih => exact ⟨asks.1, fun answer => ih answer (asks.2 answer)⟩

theorem Task.Asks.weaken {task : Task S α} {allowed : S.Req → Prop}
    (asks : task.Asks requests marks) (imp : ∀ request, requests request → allowed request) :
    task.Asks allowed marks := by
  induction task with
  | done value => exact trivial
  | fail error => exact trivial
  | sync update next ih => exact ⟨asks.1, fun state => ih state (asks.2 state)⟩
  | mark label next ih => exact ⟨asks.1, ih asks.2⟩
  | fork call next ih => exact asks.elim
  | await request next ih =>
      exact ⟨imp request asks.1, fun answer => ih answer (asks.2 answer)⟩

/-- An invariant that survives every allowed answer and mark survives the task. -/
theorem Task.Asks.safe {sys : System S ρ Ext} {Inv : Snapshot S ρ → Prop} {tid : Nat}
    {task : Task S α} (asks : task.Asks requests marks) {s : Snapshot S ρ} (hold : Inv s)
    (answered : ∀ now request answer state, requests request → Inv now →
      sys.perform now.state request answer = some state →
      Inv ((⟨state, now.trace⟩ : Snapshot S ρ).log sys tid (.answered request answer)))
    (marked : ∀ now label, marks label → Inv now → Inv (now.log sys tid (.marked label))) :
    Safe sys Inv tid (fun _ later => Inv later) task s := by
  induction task generalizing s with
  | done value => exact hold
  | fail error => exact hold
  | sync update next ih =>
      obtain ⟨rfl, asks⟩ := asks
      exact ih s.state (asks s.state) hold
  | mark label next ih => exact ih asks.2 (marked s label asks.1 hold)
  | fork call next ih => exact asks.elim
  | await request next ih =>
      refine ⟨hold, ?_⟩
      intro now follows holdNow answer state performed
      refine ⟨answered now request answer state asks.1 holdNow performed, ?_⟩
      intro later after holdLater
      exact ih answer (asks.2 answer) holdLater

/-- What came on top of `past` are marks and answers to these requests. -/
def Adds (tid : Nat) (requests : S.Req → Prop) (past all : Trace S ρ) : Prop :=
  ∃ more, all = past ++ more ∧ ∀ entry ∈ more, entry.tid = tid ∧
    ((∃ label, entry.event = .marked label) ∨
      ∃ request answer, entry.event = .answered request answer ∧ requests request)

theorem Adds.refl (tid : Nat) (requests : S.Req → Prop) (past : Trace S ρ) :
    Adds tid requests past past :=
  ⟨[], (List.append_nil past).symm, fun _ member => (List.not_mem_nil member).elim⟩

theorem Adds.cons {tid time : Nat} {past all : Trace S ρ} {event : Event S ρ}
    (kind : (∃ label, event = .marked label) ∨
      ∃ request answer, event = .answered request answer ∧ requests request)
    (grown : Adds tid requests (past ++ [⟨tid, time, event⟩]) all) :
    Adds tid requests past all := by
  obtain ⟨more, rfl, kinds⟩ := grown
  refine ⟨⟨tid, time, event⟩ :: more, by simp, ?_⟩
  intro other member
  rcases List.mem_cons.mp member with rfl | later
  · exact ⟨rfl, kind⟩
  · exact kinds other later

theorem Adds.grown {tid : Nat} {past all : Trace S ρ} (adds : Adds tid requests past all) :
    past <+: all := by
  obtain ⟨more, rfl, -⟩ := adds
  exact List.prefix_append past more

/-- Where the law allows all that the task does, the task obeys it. -/
theorem Task.Asks.obeys {sys : System S ρ Ext} {tid : Nat} {law : Law S ρ} {task : Task S α}
    (asks : task.Asks requests marks) {state : S.State} {past : Trace S ρ}
    (answered : ∀ past time request answer, requests request →
      law past ⟨tid, time, .answered request answer⟩)
    (marked : ∀ past time label, marks label → law past ⟨tid, time, .marked label⟩) :
    Obeys sys tid law (fun _ _ all => Adds tid requests past all) task state past := by
  induction task generalizing state past with
  | done value => exact .refl tid requests past
  | fail error => exact .refl tid requests past
  | sync update next ih => exact ih state (asks.2 state)
  | mark label next ih =>
      refine ⟨marked past _ label asks.1, ?_⟩
      apply (ih asks.2).mono
      intro result last all grown
      exact grown.cons (Or.inl ⟨label, rfl⟩)
  | fork call next ih => exact asks.elim
  | await request next ih =>
      intro answer before after resumed performed
      refine ⟨answered past _ request answer asks.1, ?_⟩
      apply (ih answer (asks.2 answer)).mono
      intro result last all grown
      exact grown.cons (Or.inr ⟨request, answer, rfl, asks.1⟩)

/-- Sequencing after a task that the law allows as a whole. -/
theorem Task.Asks.obeys_bind {sys : System S ρ Ext} {tid : Nat} {law : Law S ρ} {task : Task S α}
    {rest : α → Task S β} {post : Except S.Err β → S.State → Trace S ρ → Prop}
    (asks : task.Asks requests marks) {state : S.State} {past : Trace S ρ}
    (answered : ∀ past time request answer, requests request →
      law past ⟨tid, time, .answered request answer⟩)
    (marked : ∀ past time label, marks label → law past ⟨tid, time, .marked label⟩)
    (failed : ∀ error last all, Adds tid requests past all → post (.error error) last all)
    (next : ∀ value last all, Adds tid requests past all →
      Obeys sys tid law post (rest value) last all) :
    Obeys sys tid law post (task >>= rest) state past := by
  rw [EventLoop.obeys_bind]
  apply (asks.obeys answered marked).mono
  intro result last all grown
  cases result with
  | ok value => exact next value last all grown
  | error error => exact failed error last all grown

end Asking

end EventLoop
