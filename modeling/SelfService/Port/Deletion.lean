/-
What a deletion by pattern leaves behind.

In memory a deletion is one step.  Over Redis the keys are listed first and
deleted by a second command, and any task may write in between.  Either way, a
key of the pattern that is present afterwards was written after the deletion
began.
-/

import SelfService.Port.RegistrySafety

namespace SelfService

open Data EventLoop PortRegistry

variable {X : Extension}

/-! ### Deletions on the trace -/

/-- This part of the trace shows a complete deletion of a pattern. -/
inductive Wiped (pattern : String) (part : PortTrace X) : Prop
  | atOnce (tid time count : Nat)
      (seen : ⟨tid, time, .answered (.inl (.cache (.deleteByPattern pattern)))
        (Reply.ok count)⟩ ∈ part)
  | nothing (tid time : Nat)
      (seen : ⟨tid, time, .answered (.inl (.cache (.keys pattern))) (Reply.ok [])⟩ ∈ part)
  | listed (tid time later : Nat) (fullKeys : List String) (before after : PortTrace X)
      (split : part = before ++
        ⟨tid, time, .answered (.inl (.cache (.keys pattern))) (Reply.ok fullKeys)⟩ :: after)
      (seen : ⟨tid, later, .answered (.inl (.cache (.del fullKeys))) (Reply.ok ())⟩ ∈ after)

theorem Wiped.widen {pattern : String} {part : PortTrace X} (wiped : Wiped pattern part)
    (front back : PortTrace X) : Wiped pattern (front ++ part ++ back) := by
  cases wiped with
  | atOnce tid time count seen => exact .atOnce tid time count (by simp [seen])
  | nothing tid time seen => exact .nothing tid time (by simp [seen])
  | listed tid time later fullKeys before after split seen =>
      refine .listed tid time later fullKeys (front ++ before) (after ++ back) ?_ ?_
      · simp [split]
      · exact List.mem_append_left _ seen

theorem not_wiped_nil (pattern : String) : ¬ Wiped pattern ([] : PortTrace X) := by
  intro wiped
  cases wiped with
  | atOnce tid time count seen => cases seen
  | nothing tid time seen => cases seen
  | listed tid time later fullKeys before after split seen => simp at split

/-- The pattern was deleted after the part of the trace that is `past`. -/
def WipedSince (past trace : PortTrace X) (pattern : String) : Prop :=
  ∃ part, trace = past ++ part ∧ Wiped pattern part

theorem WipedSince.mono {past trace grown : PortTrace X} {pattern : String}
    (wiped : WipedSince past trace pattern) (extends_ : trace <+: grown) :
    WipedSince past grown pattern := by
  obtain ⟨part, rfl, wiped⟩ := wiped
  obtain ⟨rest, rfl⟩ := extends_
  refine ⟨part ++ rest, by simp, ?_⟩
  have wide := wiped.widen [] rest
  rwa [List.nil_append] at wide

theorem WipedSince.since {past earlier trace : PortTrace X} {pattern : String}
    (wiped : WipedSince past trace pattern) (early : earlier <+: past) :
    WipedSince earlier trace pattern := by
  obtain ⟨part, rfl, wiped⟩ := wiped
  obtain ⟨middle, rfl⟩ := early
  refine ⟨middle ++ part, by simp, ?_⟩
  have wide := wiped.widen middle []
  rwa [List.append_nil] at wide

/-- A write of this key that took effect. -/
def writesKey (key : String) (entry : PortTraceEntry X) : Bool :=
  match entry.event with
  | .answered (.inl (.cache command)) answer => command.written answer = some key
  | _ => false

/-! ### What is present -/

/-- A hash contains no line terminator. -/
theorem ShortHash.dotted (hash : ShortHash) : ∀ unit ∈ encode utf16 hash.text, dot unit = true := by
  have digits : ("0123456789abcdef".toList.all fun symbol => (utf16 symbol).all dot) = true := by
    decide
  intro unit member
  obtain ⟨symbol, inText, inUnits⟩ := List.mem_flatMap.mp member
  have dotted := List.all_eq_true.mp digits symbol (hash.hex symbol inText)
  exact List.all_eq_true.mp dotted unit inUnits

section Present

variable (d : Deployment X)

/-- The cache holds an entry under this key that has not expired. -/
def present (world : World X) (key : String) : Bool :=
  (world.cache.get? (getFullKey d.backend.options key)).any fun entry => !entry.expired world.now

def Selected (pattern key : String) : Prop :=
  d.backend.selects pattern (getFullKey d.backend.options key) = true

/-- Every key of a port's read cache is selected by the port's pattern. -/
theorem selected_portPattern {portName : String} (plain : plainText portName = true)
    (hash : ShortHash) : Selected d (portPattern portName) (cacheKeyOf portName hash) := by
  let word := "cache:v2:port:" ++ portName ++ ":"
  have pattern : portPattern portName = word ++ "*" := by
    simp only [portPattern, word, String.append_assoc]
    rfl
  have key : cacheKeyOf portName hash = word ++ hash.text := rfl
  have plainWord : plainText word = true := by
    simp [word, plainText_append, plain, show plainText "cache:v2:port:" = true by decide,
      show plainText ":" = true by decide]
  unfold Selected Backend.selects
  rw [pattern, key, getFullKey_append]
  cases kind : d.backend.kind with
  | memory =>
      apply (MemoryCacheService.selects_plain_iff d.backend.plainPrefix plainWord _).mpr
      exact ⟨encode utf16 hash.text, encode_append _ _ _, hash.dotted⟩
  | redis =>
      apply (RedisCacheService.selects_plain_iff d.backend.plainPrefix plainWord _).mpr
      exact ⟨encode utf8 hash.text, encode_append _ _ _⟩

/-- How one event relates what is present before and after it. -/
structure Shows (earlier world : World X) (event : PortEvent X) : Prop where
  kept : ∀ key, present d world key = true → present d earlier key = true ∨
    ∀ tid time, writesKey key ⟨tid, time, event⟩ = true
  atOnce : ∀ pattern count,
    event = .answered (.inl (.cache (.deleteByPattern pattern))) (Reply.ok count) →
    ∀ key, Selected d pattern key → present d world key = false
  lists : ∀ pattern fullKeys,
    event = .answered (.inl (.cache (.keys pattern))) (Reply.ok fullKeys) →
    ∀ key, Selected d pattern key → present d world key = true →
      getFullKey d.backend.options key ∈ fullKeys
  deletes : ∀ fullKeys, event = .answered (.inl (.cache (.del fullKeys))) (Reply.ok ()) →
    ∀ key, present d world key = true → getFullKey d.backend.options key ∉ fullKeys

variable {d}

theorem exists_of_present {world : World X} {key : String} (there : present d world key = true) :
    ∃ entry, world.cache.get? (getFullKey d.backend.options key) = some entry ∧
      entry.expired world.now = false := by
  unfold present at there
  cases found : world.cache.get? (getFullKey d.backend.options key) with
  | none =>
      rw [found] at there
      cases there
  | some entry =>
      rw [found] at there
      exact ⟨entry, rfl, by simpa using there⟩

theorem present_of_found {world : World X} {key : String} {entry : CacheEntry}
    (found : world.cache.get? (getFullKey d.backend.options key) = some entry)
    (fresh : entry.expired world.now = false) : present d world key = true := by
  simp [present, found, fresh]

theorem present_of_within {world : World X} {smaller : Store} (within : smaller.Within world.cache)
    {key : String} (there : present d { world with cache := smaller } key = true) :
    present d world key = true := by
  obtain ⟨entry, found, fresh⟩ := exists_of_present there
  exact present_of_found (within _ _ found) fresh

/-- What is present later, with nothing done in between, was present before. -/
theorem present_of_later {world : World X} {millis : Nat} {key : String}
    (there : present d { world with now := world.now + millis } key = true) :
    present d world key = true := by
  obtain ⟨entry, found, fresh⟩ := exists_of_present there
  have alive : entry.expired world.now = false := by
    cases gone : entry.expired world.now with
    | false => rfl
    | true =>
        have expired := CacheEntry.expired_mono (Nat.le_add_right world.now millis) gone
        exact expired.symm.trans fresh
  exact present_of_found found alive

theorem shows_of_uncached {earlier world : World X} {event : PortEvent X}
    (shrunk : ∀ key, present d world key = true → present d earlier key = true)
    (other : Uncached event) : Shows d earlier world event where
  kept key there := Or.inl (shrunk key there)
  atOnce _ _ same := absurd same (other _ _)
  lists _ _ same := absurd same (other _ _)
  deletes _ same := absurd same (other _ _)

theorem shows_of_command {earlier : World X} {command : CacheCommand} {answer : command.Answer}
    {cache : Store}
    (served : d.backend.perform earlier.now earlier.cache command answer = some cache) :
    Shows d earlier { earlier with cache := cache }
      (.answered (.inl (.cache command)) answer) := by
  constructor
  · intro key there
    obtain ⟨entry, found, fresh⟩ := exists_of_present there
    rcases Backend.kept_or_written served found with kept | ⟨other, wrote, same⟩
    · exact Or.inl (present_of_found kept fresh)
    · right
      intro tid time
      rw [getFullKey_injective _ same]
      simp [writesKey, wrote]
  · intro pattern count same key selected
    cases same
    by_contra there
    obtain ⟨entry, found, _⟩ := exists_of_present (Bool.of_not_eq_false there)
    have spared := Backend.unselected_of_deleteByPattern served found
    rw [show d.backend.selects pattern _ = true from selected] at spared
    cases spared
  · intro pattern fullKeys same key selected there
    cases same
    obtain ⟨entry, found, fresh⟩ := exists_of_present there
    rw [Backend.eq_of_keys served] at found
    exact Backend.mem_of_keys served found fresh selected
  · intro fullKeys same key there
    cases same
    obtain ⟨entry, found, _⟩ := exists_of_present there
    exact Backend.not_mem_of_del served rfl found

end Present

/-! ### The invariant -/

/-- Whatever a complete deletion selects, and whatever a listing did not name, was
written since. -/
structure Swept (d : Deployment X) (s : PortSnapshot X) : Prop where
  wiped : ∀ pattern key past part, Selected d pattern key → s.trace = past ++ part →
    Wiped pattern part → present d s.state key = true → part.any (writesKey key) = true
  listed : ∀ pattern key before tid time fullKeys after, Selected d pattern key →
    s.trace = before ++
      ⟨tid, time, .answered (.inl (.cache (.keys pattern))) (Reply.ok fullKeys)⟩ :: after →
    present d s.state key = true →
    getFullKey d.backend.options key ∈ fullKeys ∨ after.any (writesKey key) = true

section Swept

variable {d : Deployment X} {service : Service X} {s : PortSnapshot X}

theorem swept_nil (world : World X) : Swept d (⟨world, []⟩ : PortSnapshot X) := by
  constructor
  · intro pattern key past part selected split wiped there
    obtain ⟨-, rfl⟩ := List.append_eq_nil_iff.mp split.symm
    exact absurd wiped (not_wiped_nil pattern)
  · intro pattern key before tid time fullKeys after selected split there
    simp at split

/-- Nothing new is present, and nothing was observed. -/
theorem Swept.shrink (hold : Swept d s) {world : World X}
    (shrunk : ∀ key, present d world key = true → present d s.state key = true) :
    Swept d (⟨world, s.trace⟩ : PortSnapshot X) where
  wiped pattern key past part selected split wiped there :=
    hold.wiped pattern key past part selected split wiped (shrunk key there)
  listed pattern key before tid time fullKeys after selected split there :=
    hold.listed pattern key before tid time fullKeys after selected split (shrunk key there)

/-- A key that the last event left alone was written before it. -/
theorem any_snoc_of_kept {world : World X} {tid time : Nat} {event : PortEvent X}
    (shows : Shows d s.state world event) {key : String} {part : PortTrace X}
    (there : present d world key = true)
    (old : present d s.state key = true → part.any (writesKey key) = true) :
    (part ++ [(⟨tid, time, event⟩ : PortTraceEntry X)]).any (writesKey key) = true := by
  rw [List.any_append, Bool.or_eq_true]
  rcases shows.kept key there with kept | wrote
  · exact Or.inl (old kept)
  · right
    rw [List.any_cons, wrote tid time, Bool.true_or]

theorem Swept.wiped_snoc (hold : Swept d s) {world : World X} {tid time : Nat}
    {event : PortEvent X} (shows : Shows d s.state world event) {pattern key : String}
    {past front : PortTrace X} (selected : Selected d pattern key)
    (early : s.trace = past ++ front) (wiped : Wiped pattern (front ++ [⟨tid, time, event⟩]))
    (there : present d world key = true) :
    (front ++ [(⟨tid, time, event⟩ : PortTraceEntry X)]).any (writesKey key) = true := by
  apply any_snoc_of_kept shows there
  intro kept
  have before (wiped : Wiped pattern front) : front.any (writesKey key) = true :=
    hold.wiped pattern key past front selected early wiped kept
  cases wiped with
  | atOnce other moment count seen =>
      rcases List.mem_append.mp seen with old | new
      · exact before (.atOnce other moment count old)
      · cases List.mem_singleton.mp new
        rw [shows.atOnce pattern count rfl key selected] at there
        cases there
  | nothing other moment seen =>
      rcases List.mem_append.mp seen with old | new
      · exact before (.nothing other moment old)
      · cases List.mem_singleton.mp new
        cases shows.lists pattern [] rfl key selected there
  | listed other moment later fullKeys beginning rest split seen =>
      rcases List.eq_nil_or_concat rest with rfl | ⟨middle, final, rfl⟩
      · cases seen
      · rw [List.concat_eq_append] at split seen
        rw [← List.cons_append, ← List.append_assoc] at split
        obtain ⟨sameFront, -⟩ := List.append_inj' split rfl
        rcases List.mem_append.mp seen with old | new
        · exact before (.listed other moment later fullKeys beginning middle sameFront old)
        · obtain ⟨-, sameLast⟩ := List.append_inj' split rfl
          cases List.singleton_inj.mp ((List.singleton_inj.mpr (List.mem_singleton.mp new)).trans
            sameLast.symm)
          -- the sweep took what was listed, so the key came in after the listing
          rcases hold.listed pattern key (past ++ beginning) _ moment fullKeys middle selected
            (by rw [early, sameFront, List.append_assoc]) kept with named | wrote
          · exact absurd named (shows.deletes fullKeys rfl key there)
          · rw [sameFront, List.any_append, List.any_cons, wrote, Bool.or_true, Bool.or_true]

theorem Swept.listed_snoc (hold : Swept d s) {world : World X} {tid time : Nat}
    {event : PortEvent X} (shows : Shows d s.state world event) {pattern key : String}
    {before after : PortTrace X} {other moment : Nat} {fullKeys : List String}
    (selected : Selected d pattern key)
    (split : s.trace ++ [⟨tid, time, event⟩] = before ++
      ⟨other, moment, .answered (.inl (.cache (.keys pattern))) (Reply.ok fullKeys)⟩ :: after)
    (there : present d world key = true) :
    getFullKey d.backend.options key ∈ fullKeys ∨ after.any (writesKey key) = true := by
  rcases List.eq_nil_or_concat after with rfl | ⟨middle, last, rfl⟩
  · obtain ⟨-, same⟩ := List.append_inj' split rfl
    cases List.singleton_inj.mp same
    exact Or.inl (shows.lists pattern fullKeys rfl key selected there)
  · rw [List.concat_eq_append] at split ⊢
    rw [← List.cons_append, ← List.append_assoc] at split
    obtain ⟨early, same⟩ := List.append_inj' split rfl
    rw [← same, List.any_append, Bool.or_eq_true]
    rcases shows.kept key there with kept | wrote
    · rcases hold.listed pattern key before other moment fullKeys middle selected early kept
        with named | wrote
      · exact Or.inl named
      · exact Or.inr (Or.inl wrote)
    · right
      right
      rw [List.any_cons, wrote, Bool.true_or]

theorem Swept.observe (hold : Swept d s) {world : World X} {tid : Nat} {event : PortEvent X}
    (shows : Shows d s.state world event) :
    Swept d ((⟨world, s.trace⟩ : PortSnapshot X).log (portSystem d service) tid event) := by
  constructor
  · intro pattern key past part selected split wiped there
    rcases List.eq_nil_or_concat part with rfl | ⟨front, last, rfl⟩
    · exact absurd wiped (not_wiped_nil pattern)
    · rw [List.concat_eq_append] at split wiped ⊢
      obtain ⟨early, same⟩ := List.append_inj' (split.trans (List.append_assoc _ _ _).symm) rfl
      rw [← same] at wiped ⊢
      exact hold.wiped_snoc shows selected early wiped there
  · intro pattern key before other moment fullKeys after selected split there
    exact hold.listed_snoc shows selected split there

theorem Swept.note (hold : Swept d s) {tid : Nat} {event : PortEvent X} (other : Uncached event) :
    Swept d (s.log (portSystem d service) tid event) :=
  hold.observe (shows_of_uncached (fun _ there => there) other)

theorem Swept.told (hold : Swept d s) {command : CacheCommand} {answer : command.Answer}
    {cache : Store} {tid : Nat}
    (served : d.backend.perform s.state.now s.state.cache command answer = some cache) :
    Swept d ((⟨{ s.state with cache := cache }, s.trace⟩ : PortSnapshot X).log
      (portSystem d service) tid (.answered (.inl (.cache command)) answer)) :=
  hold.observe (shows_of_command served)

theorem swept_closed {promise : Promise X} (tid : Nat) (i : Invocation) :
    Closed d service promise (Swept d) tid i := by
  intro s later step hold
  cases step with
  | request => exact hold.note fun _ _ same => by cases same
  | breakers breakers => exact hold.shrink fun _ there => there
  | invalidate => exact hold.shrink fun _ => present_of_within (OrderedMap.eraseWhere_within _ _)
  | answer request answer world issued performed =>
      cases request with
      | cache command =>
          obtain ⟨-, cache, served, rfl⟩ := performPort_cache performed
          exact hold.told served
      | adapter ref context method params =>
          cases performed
          exact hold.note fun _ _ same => by cases same
      | queueAdd payload =>
          have unchanged : world.cache = s.state.cache ∧ world.now = s.state.now := by
            cases answer with
            | ok jobId =>
                cases performed
                exact ⟨rfl, rfl⟩
            | failed applied reason => cases applied <;> cases performed <;> exact ⟨rfl, rfl⟩
          apply hold.observe
          apply shows_of_uncached
          · intro key there
            unfold present at there ⊢
            rw [← unchanged.1, ← unchanged.2]
            exact there
          · intro _ _ same
            cases same
  | settle adapter outcome promised => exact hold.note fun _ _ same => by cases same
  | fill adapter data seen =>
      exact Swept.observe hold
        (shows_of_uncached (fun _ there => there) fun _ _ same => by cases same)
  | fallBack data slot present => exact hold.note fun _ _ same => by cases same
  | detach fresh call other kind => exact hold.note fun _ _ same => by cases same

theorem swept_external {event : PortExternal} {state : World X} (hold : Swept d s)
    (moved : World.external d s.state event = some state) : Swept d { s with state := state } := by
  obtain ⟨_, rfl⟩ | ⟨_, _, rfl⟩ | ⟨_, _, rfl⟩ := external_cases moved
  · exact hold.shrink fun _ => present_of_later
  · exact hold.shrink fun _ => present_of_within (OrderedMap.erase_within _ _)
  · exact hold.shrink fun _ there => there

end Swept

end SelfService
