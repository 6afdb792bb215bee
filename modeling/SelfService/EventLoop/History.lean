/-
Properties of whole histories.

`Always P` says that every event of a history satisfies `P` relative to what
came before it.  `latest` looks a history up backwards.  Both grow one event at
a time, which is how an invariant of interleaved tasks uses them.
-/

import Mathlib.Data.List.Induction

namespace EventLoop

variable {ε β : Type}

/-- Every event of the history satisfies `P` with respect to its past. -/
def Always (P : List ε → ε → Prop) (history : List ε) : Prop :=
  ∀ before event after, history = before ++ event :: after → P before event

theorem always_nil (P : List ε → ε → Prop) : Always P [] := by
  intro before event after same
  simp at same

theorem always_snoc {P : List ε → ε → Prop} {history : List ε} {event : ε} :
    Always P (history ++ [event]) ↔ Always P history ∧ P history event := by
  constructor
  · intro always
    constructor
    · intro before other after same
      apply always before other (after ++ [event])
      rw [same, List.append_assoc, List.cons_append]
    · exact always history event [] rfl
  · rintro ⟨always, last⟩ before other after same
    rcases List.eq_nil_or_concat after with rfl | ⟨front, final, rfl⟩
    · obtain ⟨sameBefore, sameLast⟩ := List.append_inj' same rfl
      rw [← sameBefore, ← List.singleton_inj.mp sameLast]
      exact last
    · have joined : history ++ [event] = (before ++ other :: front) ++ [final] := by
        rw [same, List.concat_eq_append, List.append_assoc, List.cons_append]
      exact always before other front (List.append_inj' joined rfl).1

theorem Always.earlier {P : List ε → ε → Prop} {early late : List ε}
    (always : Always P late) (grown : early <+: late) : Always P early := by
  obtain ⟨rest, rfl⟩ := grown
  intro before event after same
  apply always before event (after ++ rest)
  rw [same, List.append_assoc, List.cons_append]

theorem any_of_grown {early late : List ε} {test : ε → Bool} (grown : early <+: late)
    (found : early.any test = true) : late.any test = true := by
  obtain ⟨event, member, passes⟩ := List.any_eq_true.mp found
  exact List.any_eq_true.mpr ⟨event, grown.subset member, passes⟩

/-- The first event that passes is where `findIdx` and `find?` say. -/
theorem split_of_findIdx {test : ε → Bool} {history : List ε} {event : ε}
    (member : event ∈ history) (passes : test event = true) :
    ∃ early found late, history = early ++ found :: late ∧ test found = true ∧
      (∀ earlier ∈ early, test earlier = false) ∧ history.findIdx test = early.length ∧
      history.find? test = some found := by
  induction history with
  | nil => cases member
  | cons head rest ih =>
      cases first : test head with
      | true =>
          refine ⟨[], head, rest, rfl, first, by simp, ?_, ?_⟩
          · rw [List.findIdx_cons, first, cond_true, List.length_nil]
          · rw [List.find?_cons, first]
      | false =>
          have later : event ∈ rest := by
            rcases List.mem_cons.mp member with rfl | later
            · exact absurd passes (by rw [first]; exact Bool.false_ne_true)
            · exact later
          obtain ⟨early, found, late, rfl, there, before, index, found_⟩ := ih later
          refine ⟨head :: early, found, late, rfl, there, ?_, ?_, ?_⟩
          · intro earlier inside
            rcases List.mem_cons.mp inside with rfl | inside
            · exact first
            · exact before earlier inside
          · rw [List.findIdx_cons, first, cond_false, index, List.length_cons]
          · rw [List.find?_cons, first]
            exact found_

/-- Of two events of one history, one comes first. -/
theorem split_order {first second later latest : List ε} {event other : ε}
    (same : first ++ event :: later = second ++ other :: latest) :
    (first = second ∧ event = other) ∨ (∃ middle, second = first ++ event :: middle) ∨
      ∃ middle, first = second ++ other :: middle := by
  rcases List.append_eq_append_iff.mp same with ⟨middle, grown, rest⟩ | ⟨middle, grown, rest⟩
  · cases middle with
    | nil =>
        rw [List.nil_append] at rest
        exact Or.inl ⟨by simpa using grown.symm, (List.cons.inj rest).1⟩
    | cons head middle =>
        rw [List.cons_append] at rest
        obtain ⟨rfl, -⟩ := List.cons.inj rest
        exact Or.inr (Or.inl ⟨middle, grown⟩)
  · cases middle with
    | nil =>
        rw [List.nil_append] at rest
        exact Or.inl ⟨by simpa using grown, (List.cons.inj rest).1.symm⟩
    | cons head middle =>
        rw [List.cons_append] at rest
        obtain ⟨rfl, -⟩ := List.cons.inj rest
        exact Or.inr (Or.inr ⟨middle, grown⟩)

/-- Check a history event by event, from a given past on. -/
def alwaysFrom (P : List ε → ε → Prop) [∀ before event, Decidable (P before event)]
    (before : List ε) : List ε → Bool
  | [] => true
  | event :: rest => decide (P before event) && alwaysFrom P (before ++ [event]) rest

theorem alwaysFrom_iff (P : List ε → ε → Prop) [∀ before event, Decidable (P before event)]
    (rest past : List ε) :
    alwaysFrom P past rest = true ↔
      ∀ before event after, rest = before ++ event :: after → P (past ++ before) event := by
  induction rest generalizing past with
  | nil => simp [alwaysFrom]
  | cons head rest ih =>
      rw [alwaysFrom, Bool.and_eq_true, decide_eq_true_eq, ih]
      constructor
      · rintro ⟨first, later⟩ before event after same
        cases before with
        | nil =>
            obtain ⟨rfl, -⟩ := List.cons.inj same
            rw [List.append_nil]
            exact first
        | cons other before =>
            obtain ⟨rfl, shifted⟩ := List.cons.inj same
            have holds := later before event after shifted
            rwa [List.append_assoc, List.singleton_append] at holds
      · intro always
        constructor
        · have holds := always [] head rest rfl
          rwa [List.append_nil] at holds
        · intro before event after same
          rw [List.append_assoc, List.singleton_append]
          apply always (head :: before) event after
          rw [same, List.cons_append]

instance (P : List ε → ε → Prop) [∀ before event, Decidable (P before event)]
    (history : List ε) : Decidable (Always P history) :=
  decidable_of_iff (alwaysFrom P [] history = true) (alwaysFrom_iff P history [])

/-- A monitor accepts every event of the history when it comes. -/
def Passes (monitor : List ε → ε → Bool) (history : List ε) : Prop :=
  Always (fun before event => monitor before event = true) history

instance (monitor : List ε → ε → Bool) (history : List ε) : Decidable (Passes monitor history) :=
  inferInstanceAs (Decidable (Always _ history))

/-- A law that is promised for histories under a condition only. -/
def Guarded (condition : List ε → Prop) (law : List ε → ε → Prop) (history : List ε) : Prop :=
  condition history → Always law history

theorem guarded_nil (condition : List ε → Prop) (law : List ε → ε → Prop) :
    Guarded condition law [] := fun _ => always_nil law

/-- If the condition holds of every prefix, the new event is all there is to check. -/
theorem Guarded.snoc {condition : List ε → Prop} {law : List ε → ε → Prop} {history : List ε}
    {event : ε} (closed : ∀ early late, early <+: late → condition late → condition early)
    (hold : Guarded condition law history)
    (last : condition (history ++ [event]) → law history event) :
    Guarded condition law (history ++ [event]) := by
  intro met
  rw [always_snoc]
  exact ⟨hold (closed _ _ (List.prefix_append _ _) met), last met⟩

/-- What the last event that `view` recognises says. -/
def latest (view : ε → Option β) (history : List ε) : Option β :=
  history.foldl (fun found event => (view event).or found) none

@[simp] theorem latest_nil (view : ε → Option β) : latest view [] = none := rfl

theorem latest_snoc (view : ε → Option β) (history : List ε) (event : ε) :
    latest view (history ++ [event]) = (view event).or (latest view history) := by
  simp [latest]

theorem latest_snoc_some {view : ε → Option β} {event : ε} {value : β}
    (seen : view event = some value) (history : List ε) :
    latest view (history ++ [event]) = some value := by
  rw [latest_snoc, seen, Option.some_or]

theorem latest_snoc_none {view : ε → Option β} {event : ε} (unseen : view event = none)
    (history : List ε) : latest view (history ++ [event]) = latest view history := by
  rw [latest_snoc, unseen, Option.none_or]

/-- A value found backwards was said by some event of the history. -/
theorem exists_of_latest {view : ε → Option β} {history : List ε} {value : β}
    (found : latest view history = some value) :
    ∃ event ∈ history, view event = some value := by
  induction history using List.reverseRecOn with
  | nil => cases found
  | append_singleton history event ih =>
      rw [latest_snoc] at found
      cases seen : view event with
      | none =>
          rw [seen, Option.none_or] at found
          obtain ⟨earlier, member, same⟩ := ih found
          exact ⟨earlier, List.mem_append_left [event] member, same⟩
      | some said =>
          rw [seen, Option.some_or] at found
          exact ⟨event, by simp, seen.trans found⟩

/-- Where nothing was found backwards, nothing was said. -/
theorem unsaid_of_latest {view : ε → Option β} {history : List ε}
    (unfound : latest view history = none) {event : ε} (member : event ∈ history) :
    view event = none := by
  induction history using List.reverseRecOn with
  | nil => cases member
  | append_singleton history last ih =>
      rw [latest_snoc, Option.or_eq_none_iff] at unfound
      rcases List.mem_append.mp member with old | new
      · exact ih unfound.2 old
      · rw [List.mem_singleton.mp new]
        exact unfound.1

/-- Where a value was found backwards, and that nothing was said since. -/
theorem split_of_latest {view : ε → Option β} {history : List ε} {value : β}
    (found : latest view history = some value) :
    ∃ early event late, history = early ++ event :: late ∧ view event = some value ∧
      ∀ later ∈ late, view later = none := by
  induction history using List.reverseRecOn with
  | nil => cases found
  | append_singleton history event ih =>
      rw [latest_snoc] at found
      cases seen : view event with
      | none =>
          rw [seen, Option.none_or] at found
          obtain ⟨early, last, late, rfl, said, silent⟩ := ih found
          refine ⟨early, last, late ++ [event], by simp, said, ?_⟩
          intro later member
          rcases List.mem_append.mp member with old | new
          · exact silent later old
          · rw [List.mem_singleton.mp new]
            exact seen
      | some said =>
          rw [seen, Option.some_or] at found
          exact ⟨history, event, [], rfl, seen.trans found, fun _ member => nomatch member⟩

/-- What is said at one event, and nothing else since, is found backwards. -/
theorem latest_of_split {view : ε → Option β} {event : ε} {value : β} (early late : List ε)
    (said : view event = some value)
    (rest : ∀ later ∈ late, view later = none ∨ view later = some value) :
    latest view (early ++ event :: late) = some value := by
  induction late using List.reverseRecOn with
  | nil => exact latest_snoc_some said early
  | append_singleton late last ih =>
      have before := ih fun later member => rest later (List.mem_append_left [last] member)
      rw [← List.cons_append, ← List.append_assoc, latest_snoc, before]
      rcases rest last (by simp) with unseen | same
      · rw [unseen, Option.none_or]
      · rw [same, Option.some_or]

end EventLoop
