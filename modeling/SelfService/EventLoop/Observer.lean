/-
Watching one call from its start to its end.

An observer folds the events of a call into a summary.  `Observed` is the rule
of preconditions for it: it says what the summary can be when the task ends,
whatever is answered and whatever the memory is.
-/

import SelfService.EventLoop.Trail

namespace EventLoop

variable {S : Signature} {ρ Ext σ α β : Type}

/-- What an observer makes of a list of entries. -/
def observation (observe : σ → Event S ρ → σ) (summary : σ) (trace : Trace S ρ) : σ :=
  trace.foldl (fun seen entry => observe seen entry.event) summary

theorem observation_snoc (observe : σ → Event S ρ → σ) (summary : σ) (trace : Trace S ρ)
    (entry : Entry S ρ) :
    observation observe summary (trace ++ [entry]) =
      observe (observation observe summary trace) entry.event := by
  rw [observation, List.foldl_append]
  rfl

/-- Whatever comes back at the await points, the task ends in `post`. -/
def Observed (observe : σ → Event S ρ → σ) (post : Except S.Err α → σ → Prop) :
    Task S α → σ → Prop
  | .done value, seen => post (.ok value) seen
  | .fail error, seen => post (.error error) seen
  | .sync _ next, seen => ∀ state, Observed observe post (next state) seen
  | .mark label next, seen => Observed observe post next (observe seen (.marked label))
  | .fork _ next, seen => Observed observe post next seen
  | .await request next, seen =>
      ∀ answer, Observed observe post (next answer) (observe seen (.answered request answer))

section Rules

variable {observe : σ → Event S ρ → σ}

theorem Observed.mono {post weaker : Except S.Err α → σ → Prop} {task : Task S α} {seen : σ}
    (observed : Observed observe post task seen)
    (imp : ∀ result last, post result last → weaker result last) :
    Observed observe weaker task seen := by
  induction task generalizing seen with
  | done value => exact imp _ _ observed
  | fail error => exact imp _ _ observed
  | sync update next ih => exact fun state => ih state (observed state)
  | mark label next ih => exact ih observed
  | fork call next ih => exact ih observed
  | await request next ih => exact fun answer => ih answer (observed answer)

theorem observed_bind (post : Except S.Err β → σ → Prop) (task : Task S α) (rest : α → Task S β)
    (seen : σ) :
    Observed observe post (task >>= rest) seen ↔
      Observed observe (fun result last =>
        match result with
        | .ok value => Observed observe post (rest value) last
        | .error error => post (.error error) last) task seen := by
  induction task generalizing seen with
  | done value => exact Iff.rfl
  | fail error => exact Iff.rfl
  | sync update next ih => exact forall_congr' fun state => ih state seen
  | mark label next ih => exact ih _
  | fork call next ih => exact ih _
  | await request next ih => exact forall_congr' fun answer => ih answer _

theorem observed_attempt (post : Except S.Err (Except S.Err α) → σ → Prop) (task : Task S α)
    (seen : σ) :
    Observed observe post task.attempt seen ↔
      Observed observe (fun result last => post (.ok result) last) task seen := by
  induction task generalizing seen with
  | done value => exact Iff.rfl
  | fail error => exact Iff.rfl
  | sync update next ih => exact forall_congr' fun state => ih state seen
  | mark label next ih => exact ih _
  | fork call next ih => exact ih _
  | await request next ih => exact forall_congr' fun answer => ih answer _

/-- Sequencing: what the first task can end in leads on. -/
theorem Observed.andThen {middle : Except S.Err α → σ → Prop} {post : Except S.Err β → σ → Prop}
    {task : Task S α} {rest : α → Task S β} {seen : σ} (first : Observed observe middle task seen)
    (failed : ∀ error last, middle (.error error) last → post (.error error) last)
    (next : ∀ value last, middle (.ok value) last → Observed observe post (rest value) last) :
    Observed observe post (task >>= rest) seen := by
  rw [observed_bind]
  apply first.mono
  intro result last ended
  cases result with
  | ok value => exact next value last ended
  | error error => exact failed error last ended

theorem observed_of_forall {post : Except S.Err α → σ → Prop} {task : Task S α} {seen : σ}
    (always : ∀ result last, post result last) : Observed observe post task seen := by
  induction task generalizing seen with
  | done value => exact always _ _
  | fail error => exact always _ _
  | sync update next ih => exact fun state => ih state
  | mark label next ih => exact ih
  | fork call next ih => exact ih
  | await request next ih => exact fun answer => ih answer

/-- However the task goes on, it can end, and then in `post`. -/
theorem Observed.completes {post : Except S.Err α → σ → Prop} {task : Task S α} {seen : σ}
    (observed : Observed observe post task seen) (answers : ∀ request, Nonempty (S.Ans request))
    (state : S.State) :
    ∃ (result : Except S.Err α) (events : List (Event S ρ)),
      post result (events.foldl observe seen) := by
  induction task generalizing seen with
  | done value => exact ⟨.ok value, [], observed⟩
  | fail error => exact ⟨.error error, [], observed⟩
  | sync update next ih => exact ih state (observed state)
  | mark label next ih =>
      obtain ⟨result, events, ended⟩ := ih observed
      exact ⟨result, .marked label :: events, ended⟩
  | fork call next ih => exact ih observed
  | await request next ih =>
      obtain ⟨answer⟩ := answers request
      obtain ⟨result, events, ended⟩ := ih answer (observed answer)
      exact ⟨result, .answered request answer :: events, ended⟩

end Rules

/-! ### In a run -/

variable {observe : σ → Event S ρ → σ} {sys : System S ρ Ext}

theorem Observed.obeys {post : Except S.Err α → σ → Prop} {law : Law S ρ} {tid : Nat}
    {task : Task S α} {initial : σ} {state : S.State} {past : Trace S ρ}
    (observed : Observed observe post task (observation observe initial past))
    (answered : ∀ past time request answer, law past ⟨tid, time, .answered request answer⟩)
    (marked : ∀ past time label, law past ⟨tid, time, .marked label⟩) :
    Obeys sys tid law (fun result _ all => post result (observation observe initial all)) task
      state past := by
  induction task generalizing state past with
  | done value => exact observed
  | fail error => exact observed
  | sync update next ih => exact ih state (observed state)
  | mark label next ih =>
      refine ⟨marked past _ label, ih ?_⟩
      rw [observation_snoc]
      exact observed
  | fork call next ih => exact ih observed
  | await request next ih =>
      intro answer before after resumed performed
      refine ⟨answered past _ request answer, ih answer ?_⟩
      rw [observation_snoc]
      exact observed answer

/-- The events of a call that is under way. -/
def Event.InBody : Event S ρ → Prop
  | .answered _ _ | .marked _ => True
  | .started _ | .finished _ _ => False

/-- What an entry of a call adds to the summary leads to an end that was predicted. -/
def Foreseen (observe : σ → Event S ρ → σ) (initial : σ) (post : Except S.Err α → σ → Prop) :
    Law S ρ := fun past entry => entry.event.InBody →
  ∃ (result : Except S.Err α) (events : List (Event S ρ)),
    post result (events.foldl observe (observe (observation observe initial past) entry.event))

theorem Observed.foresees {post : Except S.Err α → σ → Prop} {tid : Nat} {task : Task S α}
    {initial : σ} {state : S.State} {past : Trace S ρ}
    (observed : Observed observe post task (observation observe initial past))
    (answers : ∀ request, Nonempty (S.Ans request)) :
    Obeys sys tid (Foreseen observe initial post)
      (fun result _ all => post result (observation observe initial all)) task state past := by
  induction task generalizing state past with
  | done value => exact observed
  | fail error => exact observed
  | sync update next ih => exact ih state (observed state)
  | mark label next ih =>
      have rest : Observed observe post next (observe (observation observe initial past)
          (.marked label)) := observed
      refine ⟨fun _ => rest.completes answers state, ih ?_⟩
      rw [observation_snoc]
      exact observed
  | fork call next ih => exact ih observed
  | await request next ih =>
      intro answer before after resumed performed
      refine ⟨fun _ => (observed answer).completes answers state, ih answer ?_⟩
      rw [observation_snoc]
      exact observed answer

variable [DecidableEq S.Req] {start : S.State} {p : Pool S ρ}

/-- When a call has ended, its entries sum up to what was predicted. -/
theorem Reachable.observed (reached : Reachable sys start p) {call : S.Call} {initial : σ}
    {post : Except S.Err ρ → σ → Prop}
    (body : Observed observe post (sys.body call) (observe initial (.started call)))
    {before after : Trace S ρ} {tid time : Nat} {result : Except S.Err ρ}
    (split : p.snapshot.trace = before ++ ⟨tid, time, .finished call result⟩ :: after) :
    post result (observation observe initial (ownEntries tid before)) := by
  let law : Law S ρ := fun past entry =>
    ∀ result, entry.event = .finished call result → post result (observation observe initial past)
  have lawful (other : S.Call) (_ : p.snapshot.Saw tid (.started other)) :
      Lawful sys law tid other := by
    constructor
    · intro time result same
      cases same
    · intro time state
      have watched : Observed observe (fun result last => other = call → post result last)
          (sys.body other) (observe initial (.started other)) := by
        by_cases same : other = call
        · subst same
          exact body.mono fun _ _ ended _ => ended
        · exact observed_of_forall fun _ _ equal => absurd equal same
      apply (watched.obeys (fun _ _ _ _ _ same => nomatch same)
        fun _ _ _ _ same => nomatch same).mono
      intro result last all ended moment other same
      cases same
      exact ended rfl
  exact reached.lawful split lawful result rfl

/-- At each of its entries a call is on its way to an end that was predicted. -/
theorem Reachable.foreseen (reached : Reachable sys start p)
    (answers : ∀ request, Nonempty (S.Ans request)) {call : S.Call} {initial : σ}
    {post : Except S.Err ρ → σ → Prop}
    (body : Observed observe post (sys.body call) (observe initial (.started call)))
    {before after : Trace S ρ} {entry : Entry S ρ}
    (split : p.snapshot.trace = before ++ entry :: after) (inside : entry.event.InBody)
    (began : Saw before entry.tid (.started call)) :
    ∃ (result : Except S.Err ρ) (events : List (Event S ρ)), post result (events.foldl observe
      (observe (observation observe initial (ownEntries entry.tid before)) entry.event)) := by
  have lawful : Lawful sys (Foreseen observe initial post) entry.tid call := by
    constructor
    · exact fun time inside => inside.elim
    · intro time state
      have watched : Observed observe post (sys.body call)
          (observation observe initial [⟨entry.tid, time, .started call⟩]) := body
      apply (watched.foresees answers).mono
      exact fun result last all ended moment inside => inside.elim
  exact reached.lawful_call split began lawful inside

end EventLoop
