/-
Exclusive publishing.

The life of an entry is read off the trace: who holds its lock, who is publishing
it and how often it has been published.  What a status stands for in these terms
is an invariant, and it bounds the attempts and makes the updates by id harmless.
-/

import SelfService.EventLoop.History
import SelfService.EventLoop.Leaving
import SelfService.EventLoop.Play
import SelfService.EventLoop.Safety
import SelfService.Outbox.OutboxProcessor

namespace SelfService

open EventLoop

/-! ### The life of an entry -/

/-- What an event means to one entry. -/
inductive Deed
  | inserted | acquired | publishing | published | released
  deriving DecidableEq

def deedOn (id : String) : OutboxEvent → Option Deed
  | .answered (.addMany rows) (Reply.ok _) =>
      if rows.any fun row => row.id = id then some .inserted else none
  | .answered (.markAsProcessing _ other) (Reply.ok true) =>
      if other = id then some .acquired else none
  | .marked (.publishing other _ _) => if other = id then some .publishing else none
  | .marked (.published other _) => if other = id then some .published else none
  | .answered (.markAsProcessed _ other _) (Reply.ok _) => if other = id then some .released else none
  | .answered (.markAsFailed _ other _) (Reply.ok _) => if other = id then some .released else none
  | _ => none

inductive Stage
  | acquired | publishing | published
  deriving DecidableEq

/-- `publishers` are the tasks inside a `publish` of the entry, and `attempts` counts the
publications since the entry was inserted. -/
structure Life where
  owner : Option (Nat × Stage)
  publishers : List Nat
  attempts : Nat
  deriving DecidableEq

def Life.unborn : Life := ⟨none, [], 0⟩

def Life.step (tid : Nat) (life : Life) : Option Deed → Life
  | none => life
  | some .inserted => { life with attempts := 0 }
  | some .acquired => { life with owner := some (tid, .acquired) }
  | some .publishing =>
      ⟨life.owner.map fun owner => (owner.1, .publishing), tid :: life.publishers, life.attempts + 1⟩
  | some .published =>
      ⟨life.owner.map fun owner => (owner.1, .published), life.publishers.erase tid, life.attempts⟩
  | some .released => { life with owner := none }

def lifeOf (id : String) (trace : OutboxTrace) : Life :=
  trace.foldl (fun life entry => life.step entry.tid (deedOn id entry.event)) .unborn

theorem lifeOf_snoc (id : String) (trace : OutboxTrace) (entry : OutboxTraceEntry) :
    lifeOf id (trace ++ [entry]) = (lifeOf id trace).step entry.tid (deedOn id entry.event) := by
  rw [lifeOf, List.foldl_append]
  rfl

/-! ### What a status stands for -/

/-- Nobody is at work on the entry. -/
structure Life.Idle (life : Life) (attempts : Nat) : Prop where
  unowned : life.owner = none
  unpublished : life.publishers = []
  bounded : life.attempts ≤ attempts

/-- The owner is at one of its stages. -/
inductive Life.Busy (retryCount : Nat) : Life → Prop
  | acquired (tid attempts : Nat) (bounded : attempts ≤ retryCount) :
      Busy retryCount ⟨some (tid, .acquired), [], attempts⟩
  | publishing (tid attempts : Nat) (bounded : attempts ≤ retryCount + 1) :
      Busy retryCount ⟨some (tid, .publishing), [tid], attempts⟩
  | published (tid attempts : Nat) (bounded : attempts ≤ retryCount + 1) :
      Busy retryCount ⟨some (tid, .published), [], attempts⟩

def Fits (maxRetries : Nat) (life : Life) (row : OutboxEntry) : Prop :=
  match row.status with
  | .pending => life.Idle row.retryCount ∧ row.retryCount < maxRetries
  | .processing => life.Busy row.retryCount ∧ row.retryCount < maxRetries
  | .failed => life.Idle row.retryCount ∧ row.retryCount ≤ maxRetries
  | .processed => life.Idle maxRetries

/-- Only the owner publishes and releases, and nobody takes an entry that is owned. -/
def LockLaw (before : OutboxTrace) (entry : OutboxTraceEntry) : Prop :=
  ∀ id, match deedOn id entry.event with
    | none | some .inserted => True
    | some .acquired => (lifeOf id before).owner = none
    | some .publishing => (lifeOf id before).owner = some (entry.tid, .acquired)
    | some .published => (lifeOf id before).owner = some (entry.tid, .publishing)
    | some .released => ∃ stage, stage ≠ .publishing ∧
        (lifeOf id before).owner = some (entry.tid, stage)

structure OutboxInv (maxRetries : Nat) (s : OutboxSnapshot) : Prop where
  fits : ∀ row ∈ s.state.rows, Fits maxRetries (lifeOf row.id s.trace) row
  gone : ∀ id, (∀ row ∈ s.state.rows, row.id ≠ id) → (lifeOf id s.trace).Idle maxRetries
  distinct : (s.state.rows.map OutboxEntry.id).Nodup
  law : Always LockLaw s.trace

def Owns (tid : Nat) (id : String) (stage : Stage) (s : OutboxSnapshot) : Prop :=
  (lifeOf id s.trace).owner = some (tid, stage)

section Invariant

variable {runtime : OutboxRuntime} {lossy : Bool} {maxRetries tid : Nat} {s : OutboxSnapshot}

/-- An event that is nothing to any entry. -/
def Quiet (event : OutboxEvent) : Prop := ∀ id, deedOn id event = none

theorem Fits.owned {life : Life} {row : OutboxEntry} (fits : Fits maxRetries life row)
    {owner : Nat × Stage} (owned : life.owner = some owner) :
    row.status = .processing ∧ life.Busy row.retryCount ∧ row.retryCount < maxRetries := by
  unfold Fits at fits
  split at fits
  · rw [fits.1.unowned] at owned
    cases owned
  · rename_i status
    exact ⟨status, fits⟩
  · rw [fits.1.unowned] at owned
    cases owned
  · rw [fits.unowned] at owned
    cases owned

/-- Whatever its status, an entry was published within its bound by at most one task. -/
theorem Fits.bounds {life : Life} {row : OutboxEntry} (fits : Fits maxRetries life row) :
    life.publishers.length ≤ 1 ∧ life.attempts ≤ maxRetries := by
  have idle {attempts : Nat} (idle : life.Idle attempts) (below : attempts ≤ maxRetries) :
      life.publishers.length ≤ 1 ∧ life.attempts ≤ maxRetries := by
    rw [idle.unpublished]
    exact ⟨Nat.zero_le 1, idle.bounded.trans below⟩
  unfold Fits at fits
  split at fits
  · exact idle fits.1 (by omega)
  · obtain ⟨busy, below⟩ := fits
    cases busy with
    | acquired tid attempts bounded => exact ⟨by simp, by simp only; omega⟩
    | publishing tid attempts bounded => exact ⟨by simp, by simp only; omega⟩
    | published tid attempts bounded => exact ⟨by simp, by simp only; omega⟩
  · exact idle fits.1 fits.2
  · exact idle fits (Nat.le_refl _)

theorem OutboxInv.bounds (hold : OutboxInv maxRetries s) (id : String) :
    (lifeOf id s.trace).publishers.length ≤ 1 ∧ (lifeOf id s.trace).attempts ≤ maxRetries := by
  by_cases present : ∃ row ∈ s.state.rows, row.id = id
  · obtain ⟨row, member, rfl⟩ := present
    exact (hold.fits row member).bounds
  · have idle := hold.gone id fun row member same => present ⟨row, member, same⟩
    rw [idle.unpublished]
    exact ⟨Nat.zero_le 1, idle.bounded⟩

theorem OutboxInv.row_unique (hold : OutboxInv maxRetries s) {row other : OutboxEntry}
    (member : row ∈ s.state.rows) (otherMember : other ∈ s.state.rows) (same : other.id = row.id) :
    other = row :=
  List.inj_on_of_nodup_map hold.distinct otherMember member same

/-- The lock stays with its owner while others move. -/
theorem owner_stays {trace others : OutboxTrace} (law : Always LockLaw (trace ++ others))
    (foreign : ∀ entry ∈ others, entry.tid ≠ tid) {id : String} {stage : Stage}
    (owned : (lifeOf id trace).owner = some (tid, stage)) :
    (lifeOf id (trace ++ others)).owner = some (tid, stage) := by
  induction others using List.reverseRecOn with
  | nil => simpa using owned
  | append_singleton others entry ih =>
      rw [← List.append_assoc, always_snoc] at law
      obtain ⟨lawBefore, last⟩ := law
      have before := ih lawBefore fun other member => foreign other (List.mem_append_left _ member)
      have different : entry.tid ≠ tid := foreign entry (by simp)
      have deed := last id
      rw [← List.append_assoc, lifeOf_snoc]
      split at deed
      · rename_i quiet
        rw [quiet]
        exact before
      · rename_i inserted
        rw [inserted]
        exact before
      · rw [before] at deed
        cases deed
      · rw [before] at deed
        cases deed
        exact absurd rfl different
      · rw [before] at deed
        cases deed
        exact absurd rfl different
      · obtain ⟨other, -, same⟩ := deed
        rw [before] at same
        cases same
        exact absurd rfl different

theorem Owns.of_follows {id : String} {stage : Stage} {later : OutboxSnapshot}
    (owns : Owns tid id stage s) (follows : s.Follows tid later)
    (hold : OutboxInv maxRetries later) : Owns tid id stage later := by
  obtain ⟨others, grown, foreign⟩ := follows
  unfold Owns
  have law := hold.law
  rw [grown] at law ⊢
  exact owner_stays law foreign owns

/-! ### Steps -/

theorem OutboxInv.observe (law : Always LockLaw s.trace) {state : OutboxState} {event : OutboxEvent}
    (fits : ∀ row ∈ state.rows,
      Fits maxRetries ((lifeOf row.id s.trace).step tid (deedOn row.id event)) row)
    (gone : ∀ id, (∀ row ∈ state.rows, row.id ≠ id) →
      ((lifeOf id s.trace).step tid (deedOn id event)).Idle maxRetries)
    (distinct : (state.rows.map OutboxEntry.id).Nodup)
    (lawful : ∀ time, LockLaw s.trace ⟨tid, time, event⟩) :
    OutboxInv maxRetries ((⟨state, s.trace⟩ : OutboxSnapshot).log (outboxSystem runtime lossy) tid
      event) := by
  constructor
  · intro row member
    rw [Snapshot.log_trace, lifeOf_snoc]
    exact fits row member
  · intro id absent
    rw [Snapshot.log_trace, lifeOf_snoc]
    exact gone id absent
  · exact distinct
  · rw [Snapshot.log_trace, always_snoc]
    exact ⟨law, lawful _⟩

/-- A quiet event, after which every row still fits its life. -/
theorem OutboxInv.quietly (hold : OutboxInv maxRetries s) {state : OutboxState} {event : OutboxEvent}
    (quiet : Quiet event)
    (fits : ∀ row ∈ state.rows, Fits maxRetries (lifeOf row.id s.trace) row)
    (gone : ∀ id, (∀ row ∈ state.rows, row.id ≠ id) → (lifeOf id s.trace).Idle maxRetries)
    (distinct : (state.rows.map OutboxEntry.id).Nodup) :
    OutboxInv maxRetries ((⟨state, s.trace⟩ : OutboxSnapshot).log (outboxSystem runtime lossy) tid
      event) := by
  apply OutboxInv.observe hold.law
  · intro row member
    rw [quiet]
    exact fits row member
  · intro id absent
    rw [quiet]
    exact gone id absent
  · exact distinct
  · intro time id
    simp only [quiet id]

theorem OutboxInv.quiet (hold : OutboxInv maxRetries s) {event : OutboxEvent} (quiet : Quiet event) :
    OutboxInv maxRetries (s.log (outboxSystem runtime lossy) tid event) :=
  hold.quietly quiet hold.fits hold.gone hold.distinct

theorem OutboxInv.restate (hold : OutboxInv maxRetries s) {state : OutboxState}
    (rows : state.rows = s.state.rows) : OutboxInv maxRetries ⟨state, s.trace⟩ := by
  constructor
  · intro row member
    rw [rows] at member
    exact hold.fits row member
  · intro id absent
    rw [rows] at absent
    exact hold.gone id absent
  · rw [rows]
    exact hold.distinct
  · exact hold.law

/-- A deed of the owner that changes no row but the owner's. -/
theorem OutboxInv.byOwner (hold : OutboxInv maxRetries s) {id : String} {stage : Stage}
    (owns : Owns tid id stage s) {state : OutboxState} {event : OutboxEvent} {deed : Deed}
    (deeds : ∀ other, deedOn other event = if id = other then some deed else none)
    {update : OutboxEntry → OutboxEntry}
    (rows : state.rows = updateRows (fun row => row.id = id) update s.state.rows)
    (sameId : ∀ row, (update row).id = row.id)
    (fits : ∀ row (life : Life), row.status = .processing → life.Busy row.retryCount →
      life.owner = some (tid, stage) → row.retryCount < maxRetries →
      Fits maxRetries (life.step tid (some deed)) (update row))
    (lawful : match deed with
      | .inserted => False
      | .acquired => False
      | .publishing => stage = .acquired
      | .published => stage = .publishing
      | .released => stage ≠ .publishing) :
    OutboxInv maxRetries ((⟨state, s.trace⟩ : OutboxSnapshot).log (outboxSystem runtime lossy) tid
      event) := by
  apply OutboxInv.observe hold.law
  · intro row member
    rw [rows, updateRows, List.mem_map] at member
    obtain ⟨old, oldMember, rfl⟩ := member
    have oldFits := hold.fits old oldMember
    by_cases mine : old.id = id
    · subst mine
      obtain ⟨status, busy, below⟩ := oldFits.owned owns
      simp only [decide_true, if_true, sameId, deeds]
      exact fits old _ status busy owns below
    · have other : ¬ id = old.id := fun same => mine same.symm
      simp only [mine, decide_false, Bool.false_eq_true, if_false, deeds, other]
      exact oldFits
  · intro other absent
    have kept : ∀ row ∈ s.state.rows, row.id ≠ other := by
      intro row member same
      have updated : (if decide (row.id = id) then update row else row) ∈ state.rows := by
        rw [rows]
        exact List.mem_map_of_mem member
      apply absent _ updated
      split
      · rw [sameId, same]
      · exact same
    have idle := hold.gone other kept
    have foreign : ¬ id = other := by
      rintro rfl
      have unowned := idle.unowned
      rw [show (lifeOf id s.trace).owner = some (tid, stage) from owns] at unowned
      cases unowned
    rw [deeds, if_neg foreign]
    exact idle
  · have ids : state.rows.map OutboxEntry.id = s.state.rows.map OutboxEntry.id := by
      rw [rows, updateRows, List.map_map]
      apply List.map_congr_left
      intro row _
      simp only [Function.comp_apply]
      split
      · exact sameId row
      · rfl
    rw [ids]
    exact hold.distinct
  · intro time other
    by_cases mine : id = other
    · subst mine
      have owned : (lifeOf id s.trace).owner = some (tid, stage) := owns
      simp only [deeds, if_true, owned]
      cases deed with
      | inserted => exact lawful.elim
      | acquired => exact lawful.elim
      | publishing => rw [show stage = .acquired from lawful]
      | published => rw [show stage = .publishing from lawful]
      | released => exact ⟨stage, lawful, rfl⟩
    · simp only [deeds, if_neg mine]

/-! ### The statements -/

theorem mem_updateRows {selects : OutboxEntry → Bool} {update : OutboxEntry → OutboxEntry}
    {rows : List OutboxEntry} {row : OutboxEntry} :
    row ∈ updateRows selects update rows ↔
      ∃ old ∈ rows, row = if selects old then update old else old := by
  simp only [updateRows, List.mem_map, eq_comm]

theorem ids_updateRows {selects : OutboxEntry → Bool} {update : OutboxEntry → OutboxEntry}
    {rows : List OutboxEntry} (sameId : ∀ row, (update row).id = row.id) :
    (updateRows selects update rows).map OutboxEntry.id = rows.map OutboxEntry.id := by
  rw [updateRows, List.map_map]
  apply List.map_congr_left
  intro row _
  simp only [Function.comp_apply]
  split
  · exact sameId row
  · rfl

/-- An identifier that the updated rows lack is lacked by the old ones. -/
theorem absent_of_updateRows {selects : OutboxEntry → Bool} {update : OutboxEntry → OutboxEntry}
    {rows : List OutboxEntry} {id : String}
    (absent : ∀ row ∈ updateRows selects update rows, row.id ≠ id)
    (sameId : ∀ row, (update row).id = row.id) : ∀ row ∈ rows, row.id ≠ id := by
  intro row member same
  have listed : id ∈ (updateRows selects update rows).map OutboxEntry.id := by
    rw [ids_updateRows sameId, ← same]
    exact List.mem_map_of_mem member
  obtain ⟨later, laterMember, laterSame⟩ := List.mem_map.mp listed
  exact absent later laterMember laterSame

/-- An update that selects nothing. -/
theorem updateRows_none {selects : OutboxEntry → Bool} {update : OutboxEntry → OutboxEntry}
    {rows : List OutboxEntry} (none : rows.any selects = false) :
    updateRows selects update rows = rows := by
  have kept : rows.map (fun row => if selects row then update row else row) = rows.map id := by
    apply List.map_congr_left
    intro row member
    rw [if_neg (List.any_eq_false.mp none row member), id]
  rw [updateRows, kept, List.map_id]

theorem updateRows_id (selects : OutboxEntry → Bool) (rows : List OutboxEntry) :
    updateRows selects (fun row => row) rows = rows := by
  simp [updateRows]

/-- A failure is nothing to any entry. -/
theorem OutboxInv.failed (hold : OutboxInv maxRetries s) {request : OutboxRequest} {reason : String}
    {applied : Bool} :
    OutboxInv maxRetries (s.log (outboxSystem runtime lossy) tid
      (.answered request (Reply.failed applied reason))) := by
  apply hold.quiet
  intro id
  cases request <;> rfl

theorem OutboxInv.acquire (hold : OutboxInv maxRetries s) {processor : Nat} {id : String}
    {acquired : Bool} {state : OutboxState}
    (returned : acquired = s.state.rows.any fun row => row.id = id && isPending row)
    (rows : state.rows = effect (.markAsProcessing processor id) s.state.rows) :
    OutboxInv maxRetries ((⟨state, s.trace⟩ : OutboxSnapshot).log (outboxSystem runtime lossy) tid
      (.answered (.markAsProcessing processor id) (Reply.ok acquired))) := by
  cases acquired with
  | false =>
      have unchanged : state.rows = s.state.rows := by
        rw [rows, effect, updateRows_none returned.symm]
      exact (hold.restate unchanged).quiet fun id => rfl
  | true =>
      obtain ⟨taken, takenMember, selected⟩ := List.any_eq_true.mp returned.symm
      rw [Bool.and_eq_true, decide_eq_true_eq] at selected
      obtain ⟨rfl, pendingTaken⟩ := selected
      have pendingStatus : taken.status = .pending := of_decide_eq_true pendingTaken
      have takenFits := hold.fits taken takenMember
      rw [Fits, pendingStatus] at takenFits
      obtain ⟨idle, below⟩ := takenFits
      apply OutboxInv.observe hold.law
      · intro row member
        rw [rows, effect, mem_updateRows] at member
        obtain ⟨old, oldMember, rfl⟩ := member
        by_cases mine : old.id = taken.id
        · cases hold.row_unique takenMember oldMember mine
          simp only [decide_true, Bool.true_and, pendingTaken, if_true, deedOn, Fits]
          refine ⟨?_, below⟩
          have still : (lifeOf taken.id s.trace).step tid (some .acquired) =
              ⟨some (tid, .acquired), [], (lifeOf taken.id s.trace).attempts⟩ := by
            rw [Life.step, idle.unpublished]
          rw [still]
          exact .acquired tid _ idle.bounded
        · have other : ¬ taken.id = old.id := fun same => mine same.symm
          simp only [mine, decide_false, Bool.false_and, Bool.false_eq_true, if_false, deedOn, other]
          exact hold.fits old oldMember
      · intro other absent
        rw [rows, effect] at absent
        have kept := absent_of_updateRows absent fun _ => rfl
        have foreign : ¬ taken.id = other := kept taken takenMember
        simp only [deedOn, if_neg foreign]
        exact hold.gone other kept
      · rw [rows, effect, ids_updateRows]
        · exact hold.distinct
        · exact fun _ => rfl
      · intro time other
        by_cases mine : taken.id = other
        · subst mine
          simp only [deedOn, if_true]
          exact idle.unowned
        · simp only [deedOn, if_neg mine]

theorem OutboxInv.begin (hold : OutboxInv maxRetries s) {id : String} {event : DomainEvent}
    {handlers : List String} (owns : Owns tid id .acquired s) :
    OutboxInv maxRetries (s.log (outboxSystem runtime lossy) tid
      (.marked (.publishing id event handlers))) := by
  apply hold.byOwner owns (fun _ => rfl) (updateRows_id _ _).symm (fun _ => rfl)
  · intro row life status busy owned below
    cases busy with
    | acquired tid attempts bounded =>
        cases owned
        rw [Fits, show row.status = .processing from status]
        exact ⟨.publishing _ _ (Nat.add_le_add_right bounded 1), below⟩
    | publishing tid attempts bounded => cases owned
    | published tid attempts bounded => cases owned
  · rfl

theorem OutboxInv.finish (hold : OutboxInv maxRetries s) {id : String} {resolved : Bool}
    (owns : Owns tid id .publishing s) :
    OutboxInv maxRetries (s.log (outboxSystem runtime lossy) tid
      (.marked (.published id resolved))) := by
  apply hold.byOwner owns (fun _ => rfl) (updateRows_id _ _).symm (fun _ => rfl)
  · intro row life status busy owned below
    cases busy with
    | acquired tid attempts bounded => cases owned
    | publishing publisher attempts bounded =>
        cases owned
        rw [Fits, show row.status = .processing from status]
        have left : Life.step tid ⟨some (tid, .publishing), [tid], attempts⟩ (some .published) =
            ⟨some (tid, .published), [], attempts⟩ := by
          simp [Life.step]
        rw [left]
        exact ⟨.published _ _ bounded, below⟩
    | published tid attempts bounded => cases owned
  · rfl

theorem OutboxInv.process (hold : OutboxInv maxRetries s) {processor processedAt : Nat} {id : String}
    (owns : Owns tid id .published s) {state : OutboxState}
    (rows : state.rows = effect (.markAsProcessed processor id processedAt) s.state.rows) :
    OutboxInv maxRetries ((⟨state, s.trace⟩ : OutboxSnapshot).log (outboxSystem runtime lossy) tid
      (.answered (.markAsProcessed processor id processedAt) (Reply.ok ()))) := by
  apply hold.byOwner owns (fun _ => rfl) rows (fun _ => rfl)
  · intro row life status busy owned below
    cases busy with
    | acquired tid attempts bounded => cases owned
    | publishing tid attempts bounded => cases owned
    | published tid attempts bounded => exact ⟨rfl, rfl, by simp only [Life.step]; omega⟩
  · exact Stage.noConfusion

theorem OutboxInv.fail (hold : OutboxInv maxRetries s) {processor : Nat} {id error : String}
    {stage : Stage} (other : stage ≠ .publishing) (owns : Owns tid id stage s) {state : OutboxState}
    (rows : state.rows = effect (.markAsFailed processor id error) s.state.rows) :
    OutboxInv maxRetries ((⟨state, s.trace⟩ : OutboxSnapshot).log (outboxSystem runtime lossy) tid
      (.answered (.markAsFailed processor id error) (Reply.ok ()))) := by
  apply hold.byOwner owns (fun _ => rfl) rows (fun _ => rfl)
  · intro row life status busy owned below
    cases busy with
    | acquired tid attempts bounded =>
        exact ⟨⟨rfl, rfl, by simp only [Life.step]; omega⟩, below⟩
    | publishing tid attempts bounded =>
        cases owned
        exact absurd rfl other
    | published tid attempts bounded =>
        exact ⟨⟨rfl, rfl, by simp only [Life.step]; omega⟩, below⟩
  · exact other

theorem OutboxInv.reset (hold : OutboxInv maxRetries s) {processor count : Nat} {state : OutboxState}
    (rows : state.rows = effect (.resetForRetry processor maxRetries) s.state.rows) :
    OutboxInv maxRetries ((⟨state, s.trace⟩ : OutboxSnapshot).log (outboxSystem runtime lossy) tid
      (.answered (.resetForRetry processor maxRetries) (Reply.ok count))) := by
  apply hold.quietly fun id => rfl
  · intro row member
    rw [rows, effect, mem_updateRows] at member
    obtain ⟨old, oldMember, rfl⟩ := member
    have oldFits := hold.fits old oldMember
    split
    · rename_i selected
      rw [retriable, Bool.and_eq_true, decide_eq_true_eq, decide_eq_true_eq] at selected
      rw [Fits, selected.1] at oldFits
      exact ⟨oldFits.1, selected.2⟩
    · exact oldFits
  · intro id absent
    rw [rows, effect] at absent
    exact hold.gone id (absent_of_updateRows absent fun _ => rfl)
  · rw [rows, effect, ids_updateRows]
    · exact hold.distinct
    · exact fun _ => rfl

theorem OutboxInv.delete (hold : OutboxInv maxRetries s) {processor olderThan count : Nat}
    {state : OutboxState}
    (rows : state.rows = effect (.deleteProcessed processor olderThan) s.state.rows) :
    OutboxInv maxRetries ((⟨state, s.trace⟩ : OutboxSnapshot).log (outboxSystem runtime lossy) tid
      (.answered (.deleteProcessed processor olderThan) (Reply.ok count))) := by
  apply hold.quietly fun id => rfl
  · intro row member
    rw [rows, effect] at member
    exact hold.fits row (List.mem_of_mem_filter member)
  · intro id absent
    by_cases present : ∃ row ∈ s.state.rows, row.id = id
    · -- The row was there, so it was deleted, and only processed rows are.
      obtain ⟨row, member, rfl⟩ := present
      have dropped : expiredBefore olderThan row = true := by
        cases expired : expiredBefore olderThan row with
        | true => rfl
        | false =>
            have kept : row ∈ state.rows := by
              rw [rows, effect, List.mem_filter, expired]
              exact ⟨member, rfl⟩
            exact absurd rfl (absent row kept)
      rw [expiredBefore, Bool.and_eq_true, decide_eq_true_eq] at dropped
      have fits := hold.fits row member
      rwa [Fits, dropped.1] at fits
    · exact hold.gone id fun row member same => present ⟨row, member, same⟩
  · rw [rows, effect]
    exact hold.distinct.sublist (List.filter_sublist.map _)

/-- New rows are pending and have identifiers of their own. -/
theorem OutboxInv.insert (hold : OutboxInv maxRetries s) (retries : 0 < maxRetries)
    {added : List OutboxEntry} {state : OutboxState}
    (untried : ∀ row ∈ added, row.status = .pending ∧ row.retryCount = 0)
    (returned : returns s.state.rows (.addMany added) () = true)
    (rows : state.rows = effect (.addMany added) s.state.rows) :
    OutboxInv maxRetries ((⟨state, s.trace⟩ : OutboxSnapshot).log (outboxSystem runtime lossy) tid
      (.answered (.addMany added) (Reply.ok ()))) := by
  rw [returns, Bool.and_eq_true, decide_eq_true_eq, List.all_eq_true] at returned
  obtain ⟨addedDistinct, fresh⟩ := returned
  have foreign : ∀ row ∈ s.state.rows, ∀ other ∈ added, row.id ≠ other.id := by
    intro row member other otherMember same
    have unknown := fresh other otherMember
    rw [Bool.not_eq_true', List.any_eq_false] at unknown
    exact unknown row member (decide_eq_true same)
  apply OutboxInv.observe hold.law
  · intro row member
    rw [rows, effect, List.mem_append] at member
    rcases member with old | new
    · have unnamed : added.any (fun other => decide (other.id = row.id)) = false := by
        rw [List.any_eq_false]
        intro other otherMember
        simpa using (foreign row old other otherMember).symm
      simp only [deedOn, unnamed, Bool.false_eq_true, if_false]
      exact hold.fits row old
    · have named : added.any (fun other => decide (other.id = row.id)) = true :=
        List.any_eq_true.mpr ⟨row, new, decide_eq_true rfl⟩
      have idle := hold.gone row.id fun old oldMember => foreign old oldMember row new
      obtain ⟨status, count⟩ := untried row new
      simp only [deedOn, named, if_true, Life.step, Fits, status, count]
      exact ⟨⟨idle.unowned, idle.unpublished, Nat.le_refl 0⟩, retries⟩
  · intro id absent
    rw [rows, effect] at absent
    have idle := hold.gone id fun row member => absent row (List.mem_append_left _ member)
    have unnamed : added.any (fun other => decide (other.id = id)) = false := by
      rw [List.any_eq_false]
      intro other otherMember
      simpa using absent other (List.mem_append_right _ otherMember)
    simp only [deedOn, unnamed, Bool.false_eq_true, if_false]
    exact idle
  · rw [rows, effect, List.map_append, List.nodup_append]
    refine ⟨hold.distinct, addedDistinct, ?_⟩
    intro id old other new same
    obtain ⟨row, member, rfl⟩ := List.mem_map.mp old
    obtain ⟨added, addedMember, rfl⟩ := List.mem_map.mp new
    exact foreign row member added addedMember same
  · intro time id
    cases named : added.any fun other => decide (other.id = id) with
    | true => simp only [deedOn, named, if_true]
    | false => simp only [deedOn, named, Bool.false_eq_true, if_false]

end Invariant

/-! ### The programs -/

section Programs

variable {runtime : OutboxRuntime} {maxRetries tid : Nat} {s : OutboxSnapshot}

/-- The system in which a failing statement has no effect. -/
abbrev faithfulOutbox (runtime : OutboxRuntime) : System outbox Unit OutboxExternal :=
  outboxSystem runtime false

abbrev OutboxSafe (runtime : OutboxRuntime) (tid : Nat) {α : Type}
    (post : Except Exn α → OutboxSnapshot → Prop) : OutboxTask α → OutboxSnapshot → Prop :=
  Safe (faithfulOutbox runtime) (OutboxInv runtime.config.maxRetries) tid post

/-- What a statement that fails leaves behind. -/
theorem performed_failed {state after : OutboxState} {request : OutboxRequest} {applied : Bool}
    {reason : String}
    (performed : performOutbox false state request (.failed applied reason) = some after) :
    after = state := by
  unfold performOutbox at performed
  split at performed
  · cases performed
  · simp only [Bool.false_or, Bool.and_eq_true, Bool.not_eq_true'] at performed
    split at performed
    · rename_i faithful
      rw [faithful.2] at performed
      cases performed
      rfl
    · cases performed

theorem performed_ok {lossy : Bool} {state after : OutboxState} {request : OutboxRequest}
    {value : request.Value} (performed : performOutbox lossy state request (.ok value) = some after) :
    returns state.rows request value = true ∧
      after = { state with rows := effect request state.rows } := by
  unfold performOutbox at performed
  split at performed
  · cases performed
  · simp only at performed
    split at performed
    · rename_i returned
      cases performed
      exact ⟨returned, rfl⟩
    · cases performed

/-- The task asked, was answered, and others moved before and after. -/
def AnsweredWith (runtime : OutboxRuntime) (tid : Nat) (s later : OutboxSnapshot)
    (request : OutboxRequest) (reply : Reply request.Value) : Prop :=
  ∃ (now : OutboxSnapshot) (state : OutboxState),
    s.Follows tid now ∧ OutboxInv runtime.config.maxRetries now ∧
      ((⟨state, now.trace⟩ : OutboxSnapshot).log (faithfulOutbox runtime) tid
        (.answered request reply)).Follows tid later

theorem Owns.log {id : String} {stage : Stage} {event : OutboxEvent} {state : OutboxState}
    (owns : Owns tid id stage s) (quiet : deedOn id event = none) :
    Owns tid id stage ((⟨state, s.trace⟩ : OutboxSnapshot).log (faithfulOutbox runtime) tid
      event) := by
  rw [Owns, Snapshot.log_trace, lifeOf_snoc, quiet]
  exact owns

theorem Owns.answered {id : String} {stage : Stage} {request : OutboxRequest}
    {reply : Reply request.Value} {later : OutboxSnapshot} (owns : Owns tid id stage s)
    (answered : AnsweredWith runtime tid s later request reply)
    (hold : OutboxInv runtime.config.maxRetries later)
    (quiet : deedOn id (.answered request reply) = none) : Owns tid id stage later := by
  obtain ⟨now, state, follows, holdNow, after⟩ := answered
  have ownsTold : Owns tid id stage ((⟨state, now.trace⟩ : OutboxSnapshot).log
      (faithfulOutbox runtime) tid (.answered request reply)) :=
    (owns.of_follows follows holdNow).log quiet
  exact ownsTold.of_follows after hold

/-- A request: its answer keeps the invariant, and both ways on are safe. -/
theorem safe_outboxAsk {α : Type} {post : Except Exn α → OutboxSnapshot → Prop}
    {request : OutboxRequest} {next : request.Value → OutboxTask α}
    (hold : OutboxInv runtime.config.maxRetries s)
    (told : ∀ now value state, s.Follows tid now → OutboxInv runtime.config.maxRetries now →
      returns now.state.rows request value = true →
      state.rows = effect request now.state.rows →
      OutboxInv runtime.config.maxRetries ((⟨state, now.trace⟩ : OutboxSnapshot).log
        (faithfulOutbox runtime) tid (.answered request (.ok value))))
    (go : ∀ value later, AnsweredWith runtime tid s later request (.ok value) →
      OutboxInv runtime.config.maxRetries later → OutboxSafe runtime tid post (next value) later)
    (fail : ∀ applied reason later, AnsweredWith runtime tid s later request (.failed applied reason) →
      OutboxInv runtime.config.maxRetries later → post (.error (.error reason)) later) :
    OutboxSafe runtime tid post ((outboxAsk request).bind next) s := by
  constructor
  · exact hold
  · intro now follows holdNow reply state performed
    cases reply with
    | ok value =>
        have done : performOutbox false now.state request (.ok value) = some state := performed
        obtain ⟨returned, rfl⟩ := performed_ok done
        constructor
        · exact told now value _ follows holdNow returned rfl
        · intro later after holdLater
          exact go value later ⟨now, _, follows, holdNow, after⟩ holdLater
    | failed applied reason =>
        have undone : performOutbox false now.state request (.failed applied reason) =
          some state := performed
        cases performed_failed undone
        constructor
        · exact holdNow.failed
        · intro later after holdLater
          exact fail applied reason later ⟨now, _, follows, holdNow, after⟩ holdLater

/-- Whatever the bus does, the entry stays with the task that publishes it. -/
theorem publish_safe {id : String} {processor : Nat} {event : DomainEvent}
    (hold : OutboxInv runtime.config.maxRetries s) (owns : Owns tid id .publishing s) :
    OutboxSafe runtime tid (fun _ later => OutboxInv runtime.config.maxRetries later ∧
      Owns tid id .publishing later) (EventBus.publish runtime processor event) s := by
  unfold EventBus.publish
  split
  · exact ⟨hold, owns⟩
  · unfold OutboxSafe
    rw [safe_read]
    split
    · exact ⟨hold, owns⟩
    · apply safe_outboxAsk hold
      · intro now value state follows holdNow returned rows
        exact (holdNow.restate rows).quiet fun id => rfl
      · intro value later answered holdLater
        exact ⟨holdLater, owns.answered answered holdLater rfl⟩
      · intro applied reason later answered holdLater
        exact ⟨holdLater, owns.answered answered holdLater rfl⟩

/-- The `try` block leaves the entry released, or with its owner where it throws. -/
theorem publishEntry_safe {id payload : String} {processor : Nat}
    (hold : OutboxInv runtime.config.maxRetries s) (owns : Owns tid id .acquired s) :
    OutboxSafe runtime tid (fun result later => OutboxInv runtime.config.maxRetries later ∧
        match result with
        | .ok _ => True
        | .error _ => ∃ stage, stage ≠ .publishing ∧ Owns tid id stage later)
      (OutboxProcessorService.publishEntry runtime processor id payload) s := by
  unfold OutboxProcessorService.publishEntry
  split
  · exact ⟨hold, .acquired, Stage.noConfusion, owns⟩
  · rename_i event parsed
    have ownsBegun : Owns tid id .publishing (s.log (faithfulOutbox runtime) tid
        (.marked (.publishing id event (s.state.handlersOf processor event.eventType)))) := by
      rw [Owns, Snapshot.log_trace, lifeOf_snoc]
      simp only [deedOn, if_true, Life.step]
      rw [show (lifeOf id s.trace).owner = some (tid, .acquired) from owns]
      rfl
    unfold OutboxSafe
    rw [safe_read, safe_note, safe_bind, safe_attempt]
    apply (publish_safe (hold.begin owns) ownsBegun).mono
    rintro outcome later grown ⟨holdLater, ownsLater⟩
    dsimp only
    rw [safe_note]
    have holdDone : OutboxInv runtime.config.maxRetries (later.log (faithfulOutbox runtime) tid
        (.marked (.published id outcome.isOk))) := holdLater.finish ownsLater
    have ownsDone : Owns tid id .published (later.log (faithfulOutbox runtime) tid
        (.marked (.published id outcome.isOk))) := by
      rw [Owns, Snapshot.log_trace, lifeOf_snoc]
      simp only [deedOn, if_true, Life.step]
      rw [show (lifeOf id later.trace).owner = some (tid, .publishing) from ownsLater]
      rfl
    cases outcome with
    | error error => exact ⟨holdDone, .published, Stage.noConfusion, ownsDone⟩
    | ok value =>
        change OutboxSafe runtime tid _ (Task.read >>= fun state =>
          outboxAsk (.markAsProcessed processor id state.now)) _
        unfold OutboxSafe
        rw [safe_read, ← Task.bind_done (outboxAsk _)]
        apply safe_outboxAsk holdDone
        · intro now value state follows holdNow returned rows
          exact holdNow.process (ownsDone.of_follows follows holdNow) rows
        · intro value last answered holdLast
          exact ⟨holdLast, trivial⟩
        · intro applied reason last answered holdLast
          exact ⟨holdLast, .published, Stage.noConfusion, ownsDone.answered answered holdLast rfl⟩

theorem processEntry_safe {id payload : String} {processor : Nat}
    (hold : OutboxInv runtime.config.maxRetries s) :
    OutboxSafe runtime tid (fun _ later => OutboxInv runtime.config.maxRetries later)
      (OutboxProcessorService.processEntry runtime processor id payload) s := by
  unfold OutboxProcessorService.processEntry
  apply safe_outboxAsk hold
  · intro now value state follows holdNow returned rows
    exact holdNow.acquire (of_decide_eq_true returned) rows
  · intro acquired later answered holdLater
    cases acquired with
    | false => exact holdLater
    | true =>
        obtain ⟨now, state, follows, holdNow, after⟩ := answered
        have ownsTold : Owns tid id .acquired ((⟨state, now.trace⟩ : OutboxSnapshot).log
            (faithfulOutbox runtime) tid
            (.answered (.markAsProcessing processor id) (Reply.ok true))) := by
          rw [Owns, Snapshot.log_trace, lifeOf_snoc]
          simp only [deedOn, if_true, Life.step]
        have owns : Owns tid id .acquired later := ownsTold.of_follows after holdLater
        simp only [if_true]
        change OutboxSafe runtime tid _ ((OutboxProcessorService.publishEntry runtime processor id
          payload).attempt >>= _) later
        unfold OutboxSafe
        rw [safe_bind, safe_attempt]
        apply (publishEntry_safe holdLater owns).mono
        rintro outcome last grown ⟨holdLast, left⟩
        cases outcome with
        | ok value => exact holdLast
        | error error =>
            obtain ⟨stage, other, ownsLast⟩ := left
            simp only
            rw [← Task.bind_done (outboxAsk _)]
            apply safe_outboxAsk holdLast
            · intro now value state follows holdNow returned rows
              exact holdNow.fail other (ownsLast.of_follows follows holdNow) rows
            · exact fun _ _ _ holdFinal => holdFinal
            · exact fun _ _ _ _ holdFinal => holdFinal
  · exact fun _ _ _ _ holdLater => holdLater

theorem processEntries_safe {processor : Nat} (entries : List OutboxEntry)
    (hold : OutboxInv runtime.config.maxRetries s) :
    OutboxSafe runtime tid (fun _ later => OutboxInv runtime.config.maxRetries later)
      (OutboxProcessorService.processEntries runtime processor entries) s := by
  induction entries generalizing s with
  | nil => exact hold
  | cons entry rest ih =>
      unfold OutboxProcessorService.processEntries OutboxSafe
      rw [safe_bind]
      apply (processEntry_safe hold).mono
      intro outcome later grown holdLater
      cases outcome with
      | error error => exact holdLater
      | ok value => exact ih holdLater

theorem processBatch_safe {processor : Nat} (hold : OutboxInv runtime.config.maxRetries s) :
    OutboxSafe runtime tid (fun _ later => OutboxInv runtime.config.maxRetries later)
      (OutboxProcessorService.processBatch runtime processor) s := by
  unfold OutboxProcessorService.processBatch
  apply safe_outboxAsk hold
  · intro now value state follows holdNow returned rows
    exact (holdNow.restate rows).quiet fun id => rfl
  · intro entries later answered holdLater
    split
    · exact holdLater
    · unfold OutboxSafe
      rw [safe_bind]
      apply (processEntries_safe entries holdLater).mono
      intro outcome last grown holdLast
      cases outcome with
      | error error => exact holdLast
      | ok value =>
          apply safe_outboxAsk holdLast
          · intro now value state follows holdNow returned rows
            exact holdNow.reset rows
          · exact fun _ _ _ holdFinal => holdFinal
          · exact fun _ _ _ _ holdFinal => holdFinal
  · exact fun _ _ _ _ holdLater => holdLater

theorem processOutbox_safe {processor : Nat} (hold : OutboxInv runtime.config.maxRetries s) :
    OutboxSafe runtime tid (fun _ later => OutboxInv runtime.config.maxRetries later)
      (OutboxProcessorService.processOutbox runtime processor) s := by
  unfold OutboxProcessorService.processOutbox OutboxSafe
  rw [safe_read]
  split
  · exact hold
  · rw [safe_modify, safe_bind, safe_attempt]
    have started : OutboxInv runtime.config.maxRetries
        ⟨{ s.state with processing := processor :: s.state.processing }, s.trace⟩ :=
      hold.restate rfl
    apply (processBatch_safe started).mono
    intro outcome later grown holdLater
    exact holdLater.restate rfl

theorem cleanupOldEntries_safe {processor : Nat} (hold : OutboxInv runtime.config.maxRetries s) :
    OutboxSafe runtime tid (fun _ later => OutboxInv runtime.config.maxRetries later)
      (OutboxProcessorService.cleanupOldEntries runtime processor) s := by
  unfold OutboxProcessorService.cleanupOldEntries OutboxSafe
  rw [safe_read, safe_bind, safe_attempt, ← Task.bind_done (outboxAsk _)]
  apply safe_outboxAsk hold
  · intro now value state follows holdNow returned rows
    exact holdNow.delete rows
  · exact fun _ _ _ holdLater => holdLater
  · exact fun _ _ _ _ holdLater => holdLater

theorem addMany_safe (retries : 0 < runtime.config.maxRetries) (events : List DomainEvent)
    (hold : OutboxInv runtime.config.maxRetries s) :
    OutboxSafe runtime tid (fun _ later => OutboxInv runtime.config.maxRetries later)
      (OutboxRepository.addMany runtime events) s := by
  unfold OutboxRepository.addMany OutboxSafe
  split
  · exact hold
  · rw [safe_read, ← Task.bind_done (outboxAsk _)]
    apply safe_outboxAsk hold
    · intro now value state follows holdNow returned rows
      apply holdNow.insert retries _ returned rows
      intro row member
      obtain ⟨event, -, rfl⟩ := List.mem_map.mp member
      exact ⟨rfl, rfl⟩
    · exact fun _ _ _ holdLater => holdLater
    · exact fun _ _ _ _ holdLater => holdLater

theorem outbox_verified (retries : 0 < runtime.config.maxRetries) :
    Verified (faithfulOutbox runtime) (OutboxInv runtime.config.maxRetries) where
  starts s fresh call hold _ := hold.quiet fun _ => rfl
  bodies s tid call hold _ := by
    have safe : OutboxSafe runtime tid (fun _ later => OutboxInv runtime.config.maxRetries later)
        (outboxBody runtime call) s := by
      cases call with
      | addMany events => exact addMany_safe retries events hold
      | processOutbox processor => exact processOutbox_safe hold
      | cleanupOldEntries processor => exact cleanupOldEntries_safe hold
    apply safe.mono
    intro result later _ holdLater
    exact holdLater.quiet fun _ => rfl
  externals s event state hold moved := by
    cases event with
    | tick millis =>
        cases moved
        exact hold.restate rfl
    | subscribe subscription =>
        cases moved
        exact hold.restate rfl
    | stop processor =>
        cases moved
        exact hold.restate rfl

/-! ### What steps do to processed entries -/

/-- A processed entry that is still there has kept its status, and one that is not there any
more was processed. -/
def KeepsProcessed (before after : List OutboxEntry) : Prop :=
  (∀ row ∈ before, row.status = .processed → ∀ later ∈ after, later.id = row.id →
    later.status = .processed) ∧
  ∀ row ∈ before, (∀ later ∈ after, later.id ≠ row.id) → row.status = .processed

theorem KeepsProcessed.of_eq {rows : List OutboxEntry} (distinct : (rows.map OutboxEntry.id).Nodup) :
    KeepsProcessed rows rows := by
  constructor
  · intro row member processed later laterMember same
    rw [List.inj_on_of_nodup_map distinct laterMember member same]
    exact processed
  · intro row member gone
    exact absurd rfl (gone row member)

/-- An update that spares the processed entries. -/
theorem KeepsProcessed.of_update {selects : OutboxEntry → Bool} {update : OutboxEntry → OutboxEntry}
    {rows : List OutboxEntry} (distinct : (rows.map OutboxEntry.id).Nodup)
    (sameId : ∀ row, (update row).id = row.id)
    (spares : ∀ row ∈ rows, selects row = true → row.status ≠ .processed) :
    KeepsProcessed rows (updateRows selects update rows) := by
  constructor
  · intro row member processed later laterMember same
    obtain ⟨old, oldMember, rfl⟩ := mem_updateRows.mp laterMember
    have origin : old = row := by
      apply List.inj_on_of_nodup_map distinct oldMember member
      rw [← same]
      split
      · exact (sameId old).symm
      · rfl
    subst origin
    split
    · rename_i selected
      exact absurd processed (spares old member selected)
    · exact processed
  · intro row member gone
    exact absurd rfl (absent_of_updateRows gone sameId row member)

/-- The owner of an entry finds it in processing. -/
theorem OutboxInv.owned_processing (hold : OutboxInv maxRetries s) {id : String} {stage : Stage}
    (owns : Owns tid id stage s) :
    ∀ row ∈ s.state.rows, decide (row.id = id) = true → row.status ≠ .processed := by
  intro row member selected
  have same : row.id = id := of_decide_eq_true selected
  subst same
  rw [((hold.fits row member).owned owns).1]
  exact OutboxStatus.noConfusion

/-- A lawful answer keeps the processed entries. -/
theorem OutboxInv.keeps (hold : OutboxInv maxRetries s) {request : OutboxRequest}
    {reply : Reply request.Value} {state : OutboxState}
    (performed : performOutbox false s.state request reply = some state)
    (lawful : ∀ time, LockLaw s.trace ⟨tid, time, .answered request reply⟩) :
    KeepsProcessed s.state.rows state.rows := by
  unfold performOutbox at performed
  split at performed
  · cases performed
  cases reply with
  | failed applied reason =>
      simp only [Bool.false_or, Option.ite_none_right_eq_some, Option.some.injEq,
        Bool.and_eq_true, Bool.not_eq_true'] at performed
      obtain ⟨⟨-, unapplied⟩, rfl⟩ := performed
      rw [unapplied]
      exact .of_eq hold.distinct
  | ok value =>
      simp only [Option.ite_none_right_eq_some, Option.some.injEq] at performed
      obtain ⟨returned, rfl⟩ := performed
      have released {id : String} (law : ∃ stage, stage ≠ .publishing ∧
          (lifeOf id s.trace).owner = some (tid, stage)) :
          ∀ row ∈ s.state.rows, decide (row.id = id) = true → row.status ≠ .processed := by
        obtain ⟨stage, -, owned⟩ := law
        exact hold.owned_processing owned
      cases request with
      | addMany added =>
          have fresh := returned
          rw [returns, Bool.and_eq_true, List.all_eq_true] at fresh
          constructor
          · intro row member processed later laterMember same
            rcases List.mem_append.mp laterMember with old | new
            · rw [hold.row_unique member old same]
              exact processed
            · have unknown := fresh.2 later new
              rw [Bool.not_eq_true', List.any_eq_false] at unknown
              exact absurd (decide_eq_true same.symm) (unknown row member)
          · intro row member gone
            exact absurd rfl (gone row (List.mem_append_left _ member))
      | getPending processor limit => exact .of_eq hold.distinct
      | handle processor event handlers => exact .of_eq hold.distinct
      | markAsProcessing processor id =>
          refine KeepsProcessed.of_update hold.distinct (fun _ => rfl) ?_
          intro row member selected processed
          rw [Bool.and_eq_true, isPending, decide_eq_true_eq, decide_eq_true_eq, processed] at selected
          exact OutboxStatus.noConfusion selected.2
      | markAsProcessed processor id processedAt =>
          refine KeepsProcessed.of_update hold.distinct (fun _ => rfl) ?_
          have law := lawful 0 id
          simp only [deedOn, if_true] at law
          exact released law
      | markAsFailed processor id error =>
          refine KeepsProcessed.of_update hold.distinct (fun _ => rfl) ?_
          have law := lawful 0 id
          simp only [deedOn, if_true] at law
          exact released law
      | resetForRetry processor maxRetries =>
          refine KeepsProcessed.of_update hold.distinct (fun _ => rfl) ?_
          intro row member selected processed
          rw [retriable, Bool.and_eq_true, decide_eq_true_eq, processed] at selected
          exact OutboxStatus.noConfusion selected.1
      | deleteProcessed processor olderThan =>
          constructor
          · intro row member processed later laterMember same
            rw [hold.row_unique member (List.mem_of_mem_filter laterMember) same]
            exact processed
          · intro row member gone
            cases expired : expiredBefore olderThan row with
            | true =>
                rw [expiredBefore, Bool.and_eq_true, decide_eq_true_eq] at expired
                exact expired.1
            | false =>
                have kept : row ∈ s.state.rows.filter fun row => !expiredBefore olderThan row := by
                  rw [List.mem_filter, expired]
                  exact ⟨member, rfl⟩
                exact absurd rfl (gone row kept)

end Programs

/-! ### The whole outbox -/

section Runs

variable {runtime : OutboxRuntime} {γ : Type} {part : OutboxState → γ}

/-- Between its statements the task leaves the rows alone. -/
abbrev LeavesRows {α : Type} (task : OutboxTask α) : Prop :=
  task.Leaves (S := outbox) OutboxState.rows

/-- Between its statements the task leaves this part of the memory alone. -/
abbrev LeavesPart (part : OutboxState → γ) {α : Type} (task : OutboxTask α) : Prop :=
  task.Leaves (S := outbox) part

theorem outboxAsk_leaves (request : OutboxRequest) :
    LeavesPart part (outboxAsk request) := by
  intro answer
  cases answer with
  | ok value => exact trivial
  | failed applied reason => exact trivial

theorem settleWith_leaves {α : Type} (outcome : Except Exn α) :
    LeavesPart part (Task.settleWith outcome) := by
  cases outcome with
  | ok value => exact trivial
  | error error => exact trivial

theorem EventBus.publish_leaves (processor : Nat) (event : DomainEvent) :
    LeavesPart part (EventBus.publish runtime processor event) := by
  unfold EventBus.publish
  split
  · exact trivial
  · refine ⟨fun _ => rfl, fun state => ?_⟩
    change LeavesPart part (ite _ _ _)
    split
    · exact trivial
    · exact (outboxAsk_leaves _).bind fun _ => trivial

theorem publishEntry_leaves (processor : Nat) (id payload : String) :
    LeavesPart part (OutboxProcessorService.publishEntry runtime processor id payload) := by
  unfold OutboxProcessorService.publishEntry
  split
  · exact trivial
  · refine ⟨fun _ => rfl, fun state => ?_⟩
    apply (EventBus.publish_leaves _ _).attempt.bind
    intro outcome
    apply (settleWith_leaves outcome).bind
    intro _
    exact ⟨fun _ => rfl, fun state => outboxAsk_leaves _⟩

theorem processEntry_leaves (processor : Nat) (id payload : String) :
    LeavesPart part (OutboxProcessorService.processEntry runtime processor id payload) := by
  unfold OutboxProcessorService.processEntry
  apply (outboxAsk_leaves _).bind
  intro acquired
  split
  · apply (publishEntry_leaves _ _ _).attempt.bind
    intro outcome
    split
    · exact trivial
    · exact outboxAsk_leaves _
  · exact trivial

theorem processBatch_leaves (processor : Nat) :
    LeavesPart part (OutboxProcessorService.processBatch runtime processor) := by
  have entriesLeave (entries : List OutboxEntry) :
      LeavesPart part (OutboxProcessorService.processEntries runtime processor entries) := by
    induction entries with
    | nil => exact trivial
    | cons entry rest ih => exact (processEntry_leaves _ _ _).bind fun _ => ih
  unfold OutboxProcessorService.processBatch
  apply (outboxAsk_leaves _).bind
  intro entries
  split
  · exact trivial
  · exact (entriesLeave entries).bind fun _ => (outboxAsk_leaves _).bind fun _ => trivial

theorem addMany_leaves (events : List DomainEvent) :
    LeavesPart part (OutboxRepository.addMany runtime events) := by
  unfold OutboxRepository.addMany
  split
  · exact trivial
  · exact ⟨fun _ => rfl, fun state => outboxAsk_leaves _⟩

/-- Between its statements a call only sets which processors are at work. -/
theorem outboxBody_leavesPart
    (apart : ∀ state processing, part { state with processing } = part state) (call : OutboxCall) :
    LeavesPart part (outboxBody runtime call) := by
  cases call with
  | addMany events => exact addMany_leaves events
  | processOutbox processor =>
      refine ⟨fun _ => rfl, fun state => ?_⟩
      change LeavesPart part (ite _ _ _)
      split
      · exact trivial
      · refine ⟨fun _ => apart _ _, fun _ => ?_⟩
        apply (processBatch_leaves processor).attempt.bind
        exact fun _ => ⟨fun _ => apart _ _, fun _ => trivial⟩
  | cleanupOldEntries processor =>
      refine ⟨fun _ => rfl, fun state => ?_⟩
      exact (outboxAsk_leaves _).attempt.bind fun _ => trivial

/-- Only statements change the rows. -/
theorem outboxBody_leaves (call : OutboxCall) :
    LeavesRows (outboxBody runtime call) :=
  outboxBody_leavesPart (fun _ _ => rfl) call

theorem outboxInv_initial {state : OutboxState} (empty : state.rows = []) (maxRetries : Nat) :
    OutboxInv maxRetries ⟨state, []⟩ := by
  constructor
  · intro row member
    rw [empty] at member
    cases member
  · exact fun id _ => ⟨rfl, rfl, Nat.zero_le _⟩
  · rw [empty]
    exact List.nodup_nil
  · exact always_nil LockLaw

/-- From an empty table on, an entry is published by one task at a time and within the bound,
and whatever happens next, a processed entry stays processed and only such an entry goes. -/
theorem outbox_exclusion (retries : 1 ≤ runtime.config.maxRetries) {state : OutboxState}
    (empty : state.rows = []) {p : Pool outbox Unit}
    (reached : Reachable (faithfulOutbox runtime) state p) :
    (∀ id, (lifeOf id p.snapshot.trace).publishers.length ≤ 1 ∧
      (lifeOf id p.snapshot.trace).attempts ≤ runtime.config.maxRetries) ∧
    ∀ action next, p.step (faithfulOutbox runtime) action = some next →
      KeepsProcessed p.snapshot.state.rows next.snapshot.state.rows := by
  have verified := (outbox_verified retries : Verified (faithfulOutbox runtime) _)
  have hold := verified.reachable (outboxInv_initial empty _) reached
  refine ⟨hold.bounds, ?_⟩
  intro action next stepped
  have holdNext := verified.reachable (outboxInv_initial empty _) (reached.step stepped)
  have moved := ((reached.leaves outboxBody_leaves).step outboxBody_leaves stepped).2
  cases action with
  | call call =>
      rw [show next.snapshot.state.rows = p.snapshot.state.rows from moved]
      exact .of_eq hold.distinct
  | resume tid =>
      rw [show next.snapshot.state.rows = p.snapshot.state.rows from moved]
      exact .of_eq hold.distinct
  | answer tid request answer =>
      obtain ⟨after, performed, logged⟩ := moved
      have law := holdNext.law
      rw [logged, Snapshot.log_trace, always_snoc] at law
      rw [logged]
      exact hold.keeps performed fun _ => law.2
  | external event =>
      have same : next.snapshot.state.rows = p.snapshot.state.rows := by
        cases event with
        | tick millis => exact (congrArg OutboxState.rows (Option.some.inj moved)).symm
        | subscribe subscription => exact (congrArg OutboxState.rows (Option.some.inj moved)).symm
        | stop processor => exact (congrArg OutboxState.rows (Option.some.inj moved)).symm
      rw [same]
      exact .of_eq hold.distinct

end Runs

/-! ### A first delivery -/

def ticketOpened : DomainEvent :=
  ⟨"e-1", "TicketOpened", "t-1", "Ticket", 0, .null⟩

/-- One event is all that this platform ever parses. -/
def ticketRuntime : OutboxRuntime where
  config := DEFAULT_CONFIG
  stringify _ := "{}"
  parse _ := .ok ticketOpened
  cqrsPublish _ := .ok ()

def emptyOutbox : OutboxState := ⟨[], 0, [], [], []⟩

def ticketRow : OutboxEntry := OutboxRepository.row ticketRuntime 0 ticketOpened

/-- The event is added, and a processor publishes it. -/
def firstDelivery : List (Action outbox OutboxExternal) :=
  [.call (.addMany [ticketOpened]), .resume 0, .answer 0 (.addMany [ticketRow]) (.ok ()), .resume 0,
    .call (.processOutbox 1), .resume 1, .answer 1 (.getPending 1 100) (.ok [ticketRow]), .resume 1,
    .answer 1 (.markAsProcessing 1 "e-1") (.ok true), .resume 1,
    .answer 1 (.markAsProcessed 1 "e-1" 0) (.ok ()), .resume 1]

/-- After the first delivery, whatever the schedule goes on with, the entry stays processed. -/
theorem outbox_exclusion_first :
    ∃ p, Reachable (faithfulOutbox ticketRuntime) emptyOutbox p ∧
      p.snapshot.state.rows.map OutboxEntry.status = [.processed] ∧
      (lifeOf "e-1" p.snapshot.trace).attempts = 1 ∧
      (∀ id, (lifeOf id p.snapshot.trace).publishers.length ≤ 1 ∧
        (lifeOf id p.snapshot.trace).attempts ≤ ticketRuntime.config.maxRetries) ∧
      ∀ action next, p.step (faithfulOutbox ticketRuntime) action = some next →
        KeepsProcessed p.snapshot.state.rows next.snapshot.state.rows := by
  have reached := reachable_run (faithfulOutbox ticketRuntime) emptyOutbox firstDelivery
    (by decide +kernel)
  exact ⟨_, reached, by decide +kernel, by decide +kernel,
    outbox_exclusion (by decide) rfl reached⟩

end SelfService
