/-
The cache, as the trace shows it.

`held` looks up what the last command that touched a key left there.  In every run
an entry of the cache is what is held, so a lookup answers what is held or
nothing; a cache that works answers exactly what is held.
-/

import SelfService.Caching.Retention
import SelfService.EventLoop.History
import SelfService.Port.ProcessSteps

namespace SelfService

open Data EventLoop PortRegistry

variable {X : Extension}

/-! ### Time -/

section Time

variable {d : Deployment X} {requests : PortRequest ⊕ X.Req → Prop} {s later : PortSnapshot X}

/-- The trace is stamped in order. -/
structure Timely (s : PortSnapshot X) : Prop where
  past : ∀ entry ∈ s.trace, entry.time ≤ s.state.now
  ordered : Always (fun before entry => ∀ earlier ∈ before, earlier.time ≤ entry.time) s.trace

theorem CacheMove.timely (move : CacheMove d requests s later) (hold : Timely s) :
    Timely later := by
  have log {entry : PortTraceEntry X} (stamped : entry.time = s.state.now)
      (still : later.state.now = s.state.now) (grown : later.trace = s.trace ++ [entry]) :
      Timely later := by
    constructor
    · intro other member
      rw [grown] at member
      rw [still]
      rcases List.mem_append.mp member with old | new
      · exact hold.past other old
      · rw [List.mem_singleton.mp new, stamped]
    · rw [grown, always_snoc]
      refine ⟨hold.ordered, ?_⟩
      intro earlier member
      rw [stamped]
      exact hold.past earlier member
  have stay (onwards : s.state.now ≤ later.state.now) (silent : later.trace = s.trace) :
      Timely later := by
    constructor
    · intro entry member
      rw [silent] at member
      exact (hold.past entry member).trans onwards
    · rw [silent]
      exact hold.ordered
  cases move with
  | told tid command answer asked allowed performed still grown => exact log rfl still grown
  | noted entry other served stamped same still grown => exact log stamped still grown
  | quiet same onwards silent => exact stay onwards silent
  | dropped fullKey allowed erased still silent => exact stay (Nat.le_of_eq still.symm) silent
  | invalidated portName erased still silent => exact stay (Nat.le_of_eq still.symm) silent

end Time

/-! ### What is held under a key -/

/-- How an event of the trace treated a key. -/
def touchOf (d : Deployment X) (fullKey : String) (entry : PortTraceEntry X) :
    Option (Option CacheEntry) :=
  match entry.event with
  | .answered (.inl (.cache command)) answer =>
      d.backend.touch fullKey entry.time command answer
  | _ => none

/-- What the last touch left under a key, expired or not; at first, what was in the cache. -/
def held (d : Deployment X) (start : Store) (fullKey : String) (trace : PortTrace X) :
    Option CacheEntry :=
  (latest (touchOf d fullKey) trace).getD (start.get? fullKey)

/-- The value that is held and has not expired. -/
def recalled (d : Deployment X) (start : Store) (key : String) (now : Nat)
    (trace : PortTrace X) : JsValue :=
  (((held d start (getFullKey d.backend.options key) trace).filter
    fun entry => !entry.expired now).map CacheEntry.value).getD .null

section Held

variable {d : Deployment X} {start : Store} {fullKey : String} {trace : PortTrace X}

@[simp] theorem held_nil : held d start fullKey [] = start.get? fullKey := rfl

theorem held_snoc (entry : PortTraceEntry X) :
    held d start fullKey (trace ++ [entry]) =
      (touchOf d fullKey entry).getD (held d start fullKey trace) := by
  unfold held
  rw [latest_snoc]
  cases touchOf d fullKey entry with
  | none => rw [Option.none_or, Option.getD_none]
  | some left => rw [Option.some_or, Option.getD_some, Option.getD_some]

theorem touchOf_uncached {entry : PortTraceEntry X} (other : Uncached entry.event) :
    touchOf d fullKey entry = none := by
  unfold touchOf
  split
  · rename_i command answer event
    exact absurd event (other command answer)
  · rfl

theorem held_uncached {entry : PortTraceEntry X} (other : Uncached entry.event) :
    held d start fullKey (trace ++ [entry]) = held d start fullKey trace := by
  rw [held_snoc, touchOf_uncached other, Option.getD_none]

/-- What is held was there at the start, or was left by a touch. -/
theorem left_of_held {left : CacheEntry} (there : held d start fullKey trace = some left) :
    start.get? fullKey = some left ∨ ∃ entry ∈ trace, touchOf d fullKey entry = some (some left) := by
  unfold held at there
  cases last : latest (touchOf d fullKey) trace with
  | none =>
      rw [last] at there
      exact Or.inl there
  | some touch =>
      rw [last, Option.getD_some] at there
      subst there
      exact Or.inr (exists_of_latest last)

/-- What is held after a deletion was left there since. -/
theorem left_since {early middle : PortTrace X} {deletion : PortTraceEntry X} {left : CacheEntry}
    (emptied : touchOf d fullKey deletion = some none)
    (there : held d start fullKey (early ++ deletion :: middle) = some left) :
    ∃ before writer after, middle = before ++ writer :: after ∧
      touchOf d fullKey writer = some (some left) := by
  induction middle using List.reverseRecOn with
  | nil =>
      rw [held_snoc, emptied] at there
      cases there
  | append_singleton middle last ih =>
      rw [← List.cons_append, ← List.append_assoc, held_snoc] at there
      cases touched : touchOf d fullKey last with
      | none =>
          rw [touched, Option.getD_none] at there
          obtain ⟨before, writer, after, rfl, wrote⟩ := ih there
          exact ⟨before, writer, after ++ [last], by simp, wrote⟩
      | some touch =>
          rw [touched, Option.getD_some] at there
          subst there
          exact ⟨middle, last, [], rfl, touched⟩

/-- A touch that leaves an entry is a write. -/
theorem wrote_of_touch {backend : Backend} {now : Nat} {command : CacheCommand}
    {answer : command.Answer} {left : CacheEntry}
    (touched : backend.touch fullKey now command answer = some (some left)) :
    ∃ key value ttl, command.Wrote answer key value ttl ∧
      getFullKey backend.options key = fullKey ∧ left = backend.entryOf now value ttl := by
  cases command with
  | set key value ttl =>
      obtain ⟨⟨applied, same⟩, wrote⟩ := Option.ite_none_right_eq_some.mp touched
      exact ⟨key, value, ttl, .set _ _ _ _ applied, same,
        (Option.some.inj (Option.some.inj wrote)).symm⟩
  | setIfNotExist key value ttl =>
      obtain ⟨⟨rfl, same⟩, wrote⟩ := Option.ite_none_right_eq_some.mp touched
      exact ⟨key, value, ttl, .claimed _ _ _, same,
        (Option.some.inj (Option.some.inj wrote)).symm⟩
  | delete key => cases (Option.ite_none_right_eq_some.mp touched).2
  | deleteByPattern pattern => cases (Option.ite_none_right_eq_some.mp touched).2
  | del fullKeys => cases (Option.ite_none_right_eq_some.mp touched).2
  | get key => cases touched
  | ttl key => cases touched
  | keys pattern => cases touched

/-- A value other than `null` is recalled from what is held. -/
theorem held_of_recalled {key : String} {now : Nat} {value : JsValue}
    (same : recalled d start key now trace = value) (present : value ≠ .null) :
    ∃ left, held d start (getFullKey d.backend.options key) trace = some left ∧
      left.expired now = false ∧ left.value = value := by
  unfold recalled at same
  cases there : held d start (getFullKey d.backend.options key) trace with
  | none =>
      rw [there] at same
      exact absurd same.symm present
  | some left =>
      cases gone : left.expired now with
      | true =>
          rw [there, Option.filter_some, gone] at same
          exact absurd same.symm present
      | false =>
          rw [there, Option.filter_some, gone] at same
          exact ⟨left, rfl, gone, same⟩

end Held

/-! ### Lookups -/

/-- Whether an event may have claimed the key unseen, or cleared up what is there. -/
def blurOf (d : Deployment X) (fullKey : String) (entry : PortTraceEntry X) : Option Bool :=
  match entry.event with
  | .answered (.inl (.cache command)) answer =>
      if d.backend.blurs fullKey command answer then some true
      else (d.backend.touch fullKey entry.time command answer).map fun _ => false
  | _ => none

/-- Since the last touch of the key a claim may have taken effect unseen. -/
def blurred (d : Deployment X) (fullKey : String) (trace : PortTrace X) : Bool :=
  (latest (blurOf d fullKey) trace).getD false

/-- A lookup answers what is held, or nothing. -/
def LookupLaw (d : Deployment X) (start : Store) (before : PortTrace X)
    (entry : PortTraceEntry X) : Prop :=
  match entry.event with
  | .answered (.inl (.cache (.get key))) reply =>
      blurred d (getFullKey d.backend.options key) before = false →
        reply.getD .null = .null ∨ reply.getD .null = recalled d start key entry.time before
  | _ => True

/-- No claim may have taken effect unseen. -/
def Clear (trace : PortTrace X) : Prop :=
  ∀ entry ∈ trace, ∀ command answer, entry.event = .answered (.inl (.cache command)) answer →
    command.unclear answer = false

/-- A claim is lost to what is held. -/
def LossLaw (d : Deployment X) (start : Store) (before : PortTrace X)
    (entry : PortTraceEntry X) : Prop :=
  match entry.event with
  | .answered (.inl (.cache (.setIfNotExist key _ _))) reply =>
      blurred d (getFullKey d.backend.options key) before = false → reply = .ok false →
        ∃ left, held d start (getFullKey d.backend.options key) before = some left ∧
          left.expired entry.time = false
  | _ => True

structure Registers (d : Deployment X) (start : Store) (s : PortSnapshot X) : Prop where
  found : ∀ fullKey entry, s.state.cache.get? fullKey = some entry →
    blurred d fullKey s.trace = false → held d start fullKey s.trace = some entry
  lookups : Always (LookupLaw d start) s.trace
  losses : Always (LossLaw d start) s.trace

section Registers

variable {d : Deployment X} {start : Store} {requests : PortRequest ⊕ X.Req → Prop}
  {s later : PortSnapshot X}

theorem Clear.earlier {early late : PortTrace X} (grown : early <+: late) (clear : Clear late) :
    Clear early :=
  fun entry member => clear entry (grown.subset member)

theorem Clear.unblurred {trace : PortTrace X} (clear : Clear trace) (fullKey : String) :
    blurred d fullKey trace = false := by
  unfold blurred
  cases last : latest (blurOf d fullKey) trace with
  | none => rfl
  | some blur =>
      cases blur with
      | false => rfl
      | true =>
          obtain ⟨entry, member, said⟩ := exists_of_latest last
          unfold blurOf at said
          split at said
          · rename_i command answer event
            have clean := clear entry member command answer event
            simp [Backend.blurs, clean] at said
          · cases said

theorem blurOf_uncached {fullKey : String} {entry : PortTraceEntry X}
    (other : Uncached entry.event) : blurOf d fullKey entry = none := by
  unfold blurOf
  split
  · rename_i command answer event
    exact absurd event (other command answer)
  · rfl

theorem blurred_uncached {fullKey : String} {trace : PortTrace X} {entry : PortTraceEntry X}
    (other : Uncached entry.event) : blurred d fullKey (trace ++ [entry]) = blurred d fullKey trace := by
  rw [blurred, latest_snoc_none (blurOf_uncached other), blurred]

theorem recalled_of_found (registers : Registers d start s) {key : String}
    (unblurred : blurred d (getFullKey d.backend.options key) s.trace = false) {entry : CacheEntry}
    (found : s.state.cache.get? (getFullKey d.backend.options key) = some entry)
    (fresh : entry.expired s.state.now = false) :
    recalled d start key s.state.now s.trace = entry.value := by
  rw [recalled, registers.found _ _ found unblurred, Option.filter_some, fresh]
  rfl

theorem lookupLaw_of_told (registers : Registers d start s) {tid : Nat}
    {command : CacheCommand} {answer : command.Answer} {cache : Store}
    (performed : d.backend.perform s.state.now s.state.cache command answer = some cache) :
    LookupLaw d start s.trace ⟨tid, s.state.now, .answered (.inl (.cache command)) answer⟩ := by
  cases command with
  | get key =>
      intro unblurred
      cases answer with
      | failed applied reason => exact Or.inl rfl
      | ok value =>
          by_cases absent : value = .null
          · exact Or.inl absent
          · obtain ⟨entry, found, fresh, rfl⟩ := Backend.get_found performed absent
            exact Or.inr (recalled_of_found registers unblurred found fresh).symm
  | _ => exact trivial

theorem lossLaw_of_told (registers : Registers d start s) {tid : Nat}
    {command : CacheCommand} {answer : command.Answer} {cache : Store}
    (performed : d.backend.perform s.state.now s.state.cache command answer = some cache) :
    LossLaw d start s.trace ⟨tid, s.state.now, .answered (.inl (.cache command)) answer⟩ := by
  cases command with
  | setIfNotExist key value ttl =>
      rintro unblurred rfl
      obtain ⟨left, found, fresh⟩ := Backend.found_of_lost performed
      exact ⟨left, registers.found _ _ found unblurred, fresh⟩
  | _ => exact trivial

theorem CacheMove.registers (move : CacheMove d requests s later) (hold : Registers d start s) :
    Registers d start later := by
  have shrink (smaller : later.state.cache.Within s.state.cache) (silent : later.trace = s.trace) :
      Registers d start later := by
    constructor
    · rw [silent]
      exact fun fullKey entry found => hold.found fullKey entry (smaller fullKey entry found)
    · rw [silent]
      exact hold.lookups
    · rw [silent]
      exact hold.losses
  cases move with
  | told tid command answer asked allowed performed still grown =>
      constructor
      · intro fullKey entry found unblurred
        rw [grown, blurred, latest_snoc] at unblurred
        rw [grown, held_snoc]
        cases blurs : d.backend.blurs fullKey command answer with
        | true => simp [blurOf, blurs] at unblurred
        | false =>
            have left := Backend.touched_of_perform performed blurs found
            change (d.backend.touch fullKey s.state.now command answer).getD _ = _
            cases touched : d.backend.touch fullKey s.state.now command answer with
            | some there =>
                rw [touched] at left
                exact left
            | none =>
                rw [touched] at left
                apply hold.found fullKey entry left
                simpa [blurred, blurOf, blurs, touched] using unblurred
      · rw [grown, always_snoc]
        exact ⟨hold.lookups, lookupLaw_of_told hold performed⟩
      · rw [grown, always_snoc]
        exact ⟨hold.losses, lossLaw_of_told hold performed⟩
  | noted entry other served stamped same still grown =>
      constructor
      · intro fullKey found here unblurred
        rw [same] at here
        rw [grown, blurred_uncached other] at unblurred
        rw [grown, held_uncached other]
        exact hold.found fullKey found here unblurred
      · rw [grown, always_snoc]
        refine ⟨hold.lookups, ?_⟩
        unfold LookupLaw
        split
        · rename_i key reply event
          exact absurd event (other _ _)
        · trivial
      · rw [grown, always_snoc]
        refine ⟨hold.losses, ?_⟩
        unfold LossLaw
        split
        · rename_i key value ttl reply event
          exact absurd event (other _ _)
        · trivial
  | quiet same onwards silent =>
      apply shrink _ silent
      rw [same]
      exact OrderedMap.within_refl _
  | dropped fullKey allowed erased still silent =>
      apply shrink _ silent
      rw [erased]
      exact OrderedMap.erase_within _ _
  | invalidated portName erased still silent =>
      apply shrink _ silent
      rw [erased]
      exact OrderedMap.eraseWhere_within _ _

end Registers

/-! ### A cache that works -/

/-- No deletion of a port reaches the key. -/
def Spared (d : Deployment X) (fullKey : String) : Prop :=
  ∀ portName, MemoryCacheService.selects d.backend.options (portPattern portName) fullKey = false

/-- A lookup of a spared key answers exactly what is held. -/
def FaithfulLaw (d : Deployment X) (start : Store) (before : PortTrace X)
    (entry : PortTraceEntry X) : Prop :=
  match entry.event with
  | .answered (.inl (.cache (.get key))) reply =>
      Spared d (getFullKey d.backend.options key) →
        reply = .ok (recalled d start key entry.time before)
  | _ => True

/-- No command fails. -/
def ServesLaw (_before : PortTrace X) (entry : PortTraceEntry X) : Prop :=
  match entry.event with
  | .answered (.inl (.cache command)) answer => command.succeeds answer = true
  | _ => True

structure Retains (d : Deployment X) (start : Store) (s : PortSnapshot X) : Prop where
  kept : ∀ fullKey entry, Spared d fullKey → held d start fullKey s.trace = some entry →
    entry.expired s.state.now = false → s.state.cache.get? fullKey = some entry
  lookups : Always (FaithfulLaw d start) s.trace
  serves : Always ServesLaw s.trace

section Retains

variable {d : Deployment X} {start : Store} {requests : PortRequest ⊕ X.Req → Prop}
  {s later : PortSnapshot X}

/-- What a lookup reads is what is held and has not expired. -/
theorem Retains.recalled_of_read (hold : Retains d start s) (registers : Registers d start s)
    (clear : Clear s.trace) {key : String} {value : JsValue} {cache : Store}
    (spared : Spared d (getFullKey d.backend.options key))
    (performed : d.backend.perform s.state.now s.state.cache (.get key) (.ok value) = some cache) :
    value = recalled d start key s.state.now s.trace := by
  rw [Backend.value_of_get performed]
  cases there : held d start (getFullKey d.backend.options key) s.trace with
  | none =>
      have missing : s.state.cache.get? (getFullKey d.backend.options key) = none := by
        apply Option.eq_none_iff_forall_ne_some.mpr
        intro entry found
        rw [registers.found _ entry found (clear.unblurred _)] at there
        cases there
      rw [recalled, there, missing]
  | some entry =>
      cases gone : entry.expired s.state.now with
      | false =>
          rw [recalled, there, hold.kept _ entry spared there gone]
      | true =>
          have absent : (s.state.cache.get? (getFullKey d.backend.options key)).filter
              (fun entry => !entry.expired s.state.now) = none := by
            rw [Option.filter_eq_none_iff]
            intro other found
            rw [registers.found _ other found (clear.unblurred _), Option.some.injEq] at there
            rw [there, gone]
            exact Bool.false_ne_true
          rw [recalled, there, absent, Option.filter_some, gone]
          rfl

theorem CacheMove.retains (move : CacheMove d requests s later)
    (working : d.environment = .working d.backend) (registers : Registers d start s)
    (clear : Clear s.trace) (hold : Retains d start s) : Retains d start later := by
  cases move with
  | told tid command answer asked allowed performed still grown =>
      rw [working] at allowed
      constructor
      · intro fullKey entry spared there fresh
        rw [still] at fresh
        rw [grown, held_snoc] at there
        apply Backend.kept_of_perform allowed performed _ fresh
        change (d.backend.touch fullKey s.state.now command answer).getD _ = _ at there
        cases touched : d.backend.touch fullKey s.state.now command answer with
        | some left =>
            rw [touched] at there
            exact there
        | none =>
            rw [touched] at there
            exact hold.kept fullKey entry spared there fresh
      · rw [grown, always_snoc]
        refine ⟨hold.lookups, ?_⟩
        cases command with
        | get key =>
            intro spared
            cases answer with
            | failed applied reason => cases (working_answers allowed).1
            | ok value =>
                exact congrArg Reply.ok (hold.recalled_of_read registers clear spared performed)
        | _ => exact trivial
      · rw [grown, always_snoc]
        exact ⟨hold.serves, (working_answers allowed).1⟩
  | noted entry other served stamped same still grown =>
      constructor
      · intro fullKey left spared there fresh
        rw [grown, held_uncached other] at there
        rw [still] at fresh
        rw [same]
        exact hold.kept fullKey left spared there fresh
      · rw [grown, always_snoc]
        refine ⟨hold.lookups, ?_⟩
        unfold FaithfulLaw
        split
        · rename_i key reply event
          exact absurd event (other _ _)
        · trivial
      · rw [grown, always_snoc]
        refine ⟨hold.serves, ?_⟩
        unfold ServesLaw
        split
        · rename_i command answer event
          exact absurd event (other _ _)
        · trivial
  | quiet same onwards silent =>
      constructor
      · intro fullKey entry spared there fresh
        rw [silent] at there
        rw [same]
        apply hold.kept fullKey entry spared there
        cases gone : entry.expired s.state.now with
        | false => rfl
        | true => exact (CacheEntry.expired_mono onwards gone).symm.trans fresh
      · rw [silent]
        exact hold.lookups
      · rw [silent]
        exact hold.serves
  | dropped fullKey allowed erased still silent =>
      rw [working] at allowed
      constructor
      · intro other entry spared there fresh
        rw [silent] at there
        rw [still] at fresh
        rw [erased]
        exact retained_drop allowed (hold.kept other entry spared there fresh) fresh
      · rw [silent]
        exact hold.lookups
      · rw [silent]
        exact hold.serves
  | invalidated portName erased still silent =>
      constructor
      · intro fullKey entry spared there fresh
        rw [silent] at there
        rw [still] at fresh
        rw [erased, MemoryCacheService.deleteByPattern, OrderedMap.get?_eraseWhere,
          spared portName]
        exact hold.kept fullKey entry spared there fresh
      · rw [silent]
        exact hold.lookups
      · rw [silent]
        exact hold.serves

end Retains

/-! ### Keys the registry leaves alone -/

/-- A listing names what its pattern selects. -/
def ListingLaw (d : Deployment X) (_before : PortTrace X) (entry : PortTraceEntry X) : Prop :=
  match entry.event with
  | .answered (.inl (.cache (.keys pattern))) reply =>
      ∀ fullKey ∈ reply.getD [], d.backend.selects pattern fullKey = true
  | _ => True

/-- Neither a recorded result nor a cached answer is kept under the key, and no port's
pattern selects it. -/
structure Foreign (d : Deployment X) (key : String) : Prop where
  unrecorded : ∀ hash, InboundIdempotencyService.cacheKeyOf hash ≠ key
  uncached : ∀ portName hash, cacheKeyOf portName hash ≠ key
  unselected : ∀ portName,
    d.backend.selects (portPattern portName) (getFullKey d.backend.options key) = false

section Heads

variable {d : Deployment X} {key : String} {symbol : Char} {text : List Char}

theorem recordKey_injective {one other : ShortHash}
    (same : InboundIdempotencyService.cacheKeyOf one = InboundIdempotencyService.cacheKeyOf other) :
    one = other := by
  obtain ⟨text, hex⟩ := one
  obtain ⟨text', hex'⟩ := other
  have texts : text = text' := (String.append_right_inj _).mp same
  subst texts
  rfl

/-- A key that begins with another letter than the pattern of a port. -/
theorem spared_of_head (begins : key.toList = symbol :: text) (ascii : symbol.toNat < 128)
    (different : symbol.toNat ≠ 99) : Spared d (getFullKey d.backend.options key) := by
  intro portName
  obtain ⟨rest, pattern⟩ := portPattern_head portName
  have single : utf16 symbol = [symbol.toNat] := if_pos (by omega)
  exact MemoryCacheService.selects_eq_false d.backend.plainPrefix (encode_head pattern rfl)
    (by simp [Ordinary]) (encode_head begins single) different

theorem unselected_of_head (begins : key.toList = symbol :: text) (ascii : symbol.toNat < 128)
    (different : symbol.toNat ≠ 99) (portName : String) :
    d.backend.selects (portPattern portName) (getFullKey d.backend.options key) = false := by
  unfold Backend.selects
  cases d.backend.kind with
  | memory => exact spared_of_head begins ascii different portName
  | redis =>
      obtain ⟨rest, pattern⟩ := portPattern_head portName
      have single : utf8 symbol = [symbol.toNat] := if_pos ascii
      exact RedisCacheService.selects_eq_false d.backend.plainPrefix (encode_head pattern rfl)
        (by simp [Ordinary]) (encode_head begins single) different

theorem foreign_of_head (begins : key.toList = symbol :: text) (ascii : symbol.toNat < 128)
    (noPort : symbol.toNat ≠ 99) (noResult : symbol.toNat ≠ 105) : Foreign d key where
  unrecorded hash same := by
    obtain ⟨rest, head⟩ := recordKey_head hash
    rw [same, begins] at head
    obtain ⟨rfl, -⟩ := List.cons.inj head
    exact noResult rfl
  uncached portName hash same := by
    obtain ⟨rest, head⟩ := cacheKeyOf_head portName hash
    rw [same, begins] at head
    obtain ⟨rfl, -⟩ := List.cons.inj head
    exact noPort rfl
  unselected := unselected_of_head begins ascii noPort

end Heads

/-- A foreign key is touched by what the service asks. -/
def OwnerLaw (d : Deployment X) (requests : PortRequest ⊕ X.Req → Prop)
    (before : PortTrace X) (entry : PortTraceEntry X) : Prop :=
  match entry.event with
  | .answered (.inl (.cache command)) answer =>
      ∀ key, Foreign d key →
        d.backend.touch (getFullKey d.backend.options key) entry.time command answer ≠ none →
          requests (.inl (.cache command)) ∧ ∃ call, Saw before entry.tid (.started (.inr call))
  | _ => True

/-- Every command was sent by the registry or by the service. -/
def AskedLaw (d : Deployment X) (requests : PortRequest ⊕ X.Req → Prop)
    (before : PortTrace X) (entry : PortTraceEntry X) : Prop :=
  match entry.event with
  | .answered (.inl (.cache command)) _ =>
      ∃ s : PortSnapshot X, s.trace = before ∧ Asked d requests entry.tid s command
  | _ => True

structure Owned (d : Deployment X) (requests : PortRequest ⊕ X.Req → Prop)
    (s : PortSnapshot X) : Prop where
  asked : Always (AskedLaw d requests) s.trace
  listings : Always (ListingLaw d) s.trace
  owners : Always (OwnerLaw d requests) s.trace
  services : Always ServedLaw s.trace

section Owned

variable {d : Deployment X} {requests : PortRequest ⊕ X.Req → Prop} {s later : PortSnapshot X}

/-- What is not a write to the key, nor a deletion that reaches it, does not touch it. -/
theorem touch_eq_none {backend : Backend} {fullKey : String} {now : Nat}
    {command : CacheCommand} {answer : command.Answer}
    (untouched : backend.touches fullKey command = false) :
    backend.touch fullKey now command answer = none := by
  cases command with
  | set key value ttl => exact if_neg fun both => of_decide_eq_false untouched both.2
  | setIfNotExist key value ttl => exact if_neg fun both => of_decide_eq_false untouched both.2
  | delete key => exact if_neg fun both => of_decide_eq_false untouched both.2
  | deleteByPattern pattern => exact if_neg fun both => by simp_all [Backend.touches]
  | del fullKeys => exact if_neg fun both => by simp_all [Backend.touches]
  | get key => rfl
  | ttl key => rfl
  | keys pattern => rfl

/-- The registry touches a key that is no port's only to record a result there. -/
theorem Issues.record_of_touches {tid : Nat} {i : Invocation} {command : CacheCommand}
    (issued : Issues d tid i s (.cache command)) (listings : Always (ListingLaw d) s.trace)
    {key : String} (uncached : ∀ portName hash, cacheKeyOf portName hash ≠ key)
    (unselected : ∀ portName,
      d.backend.selects (portPattern portName) (getFullKey d.backend.options key) = false)
    (touches : d.backend.touches (getFullKey d.backend.options key) command = true) :
    ∃ rawKey adapter data, i.idempotencyKey = some rawKey ∧
      command = .set key data (some InboundIdempotencyService.DEFAULT_TTL) ∧
      InboundIdempotencyService.buildCacheKey d rawKey = key ∧
      s.Saw tid (.marked (.inl (.settled adapter i (.ok data)))) := by
  cases issued with
  | retrieve rawKey keyed => cases touches
  | record rawKey adapter data keyed seen =>
      have same := getFullKey_injective d.backend.options (of_decide_eq_true touches)
      exact ⟨rawKey, adapter, data, keyed, by rw [← same], same, seen⟩
  | lookup readOnly => cases touches
  | fill adapter data cachedAt ttl readOnly seen =>
      have same := getFullKey_injective d.backend.options (of_decide_eq_true touches)
      exact absurd same (uncached _ _)
  | erase =>
      rw [Backend.touches, unselected] at touches
      cases touches
  | list => cases touches
  | sweep fullKeys listed =>
      obtain ⟨time, member⟩ := listed
      obtain ⟨before, after, split⟩ := List.append_of_mem member
      have chosen := listings before _ after split _ (List.contains_iff_mem.mp touches)
      rw [unselected i.portName] at chosen
      cases chosen

theorem Issues.untouched {tid : Nat} {i : Invocation} {command : CacheCommand}
    (issued : Issues d tid i s (.cache command)) (hold : Owned d requests s) {key : String}
    (foreign : Foreign d key) :
    d.backend.touches (getFullKey d.backend.options key) command = false := by
  by_contra touches
  obtain ⟨rawKey, adapter, data, -, -, same, -⟩ := issued.record_of_touches hold.listings
    foreign.uncached foreign.unselected ((Bool.not_eq_false _).mp touches)
  exact foreign.unrecorded _ same

theorem listingLaw_of_told {tid : Nat} {command : CacheCommand} {answer : command.Answer}
    {cache : Store}
    (performed : d.backend.perform s.state.now s.state.cache command answer = some cache) :
    ListingLaw d s.trace ⟨tid, s.state.now, .answered (.inl (.cache command)) answer⟩ := by
  cases command with
  | keys pattern =>
      intro fullKey member
      cases answer with
      | failed applied reason => cases member
      | ok fullKeys => exact Backend.selected_of_keys performed member
  | _ => exact trivial

theorem CacheMove.owned (move : CacheMove d requests s later) (hold : Owned d requests s) :
    Owned d requests later := by
  have stay (silent : later.trace = s.trace) : Owned d requests later :=
    ⟨silent ▸ hold.asked, silent ▸ hold.listings, silent ▸ hold.owners, silent ▸ hold.services⟩
  cases move with
  | told tid command answer asked allowed performed still grown =>
      constructor
      · rw [grown, always_snoc]
        exact ⟨hold.asked, s, rfl, asked⟩
      · rw [grown, always_snoc]
        exact ⟨hold.listings, listingLaw_of_told performed⟩
      · rw [grown, always_snoc]
        refine ⟨hold.owners, ?_⟩
        intro key foreign touched
        cases asked with
        | registry call began issued =>
            exact absurd (touch_eq_none (issued.untouched hold foreign)) touched
        | service call began allowed => exact ⟨allowed, call, began⟩
      · rw [grown, always_snoc]
        exact ⟨hold.services, fun _ _ same => by cases same⟩
  | noted entry other served stamped same still grown =>
      constructor
      · rw [grown, always_snoc]
        refine ⟨hold.asked, ?_⟩
        unfold AskedLaw
        split
        · rename_i command answer event
          exact absurd event (other _ _)
        · trivial
      · rw [grown, always_snoc]
        refine ⟨hold.listings, ?_⟩
        unfold ListingLaw
        split
        · rename_i pattern reply event
          exact absurd event (other _ _)
        · trivial
      · rw [grown, always_snoc]
        refine ⟨hold.owners, ?_⟩
        unfold OwnerLaw
        split
        · rename_i command answer event
          exact absurd event (other _ _)
        · trivial
      · rw [grown, always_snoc]
        exact ⟨hold.services, served⟩
  | quiet same onwards silent => exact stay silent
  | dropped fullKey allowed erased still silent => exact stay silent
  | invalidated portName erased still silent => exact stay silent

end Owned

/-! ### Clear traces -/

section Clear

variable {d : Deployment X} {requests : PortRequest ⊕ X.Req → Prop} {s later : PortSnapshot X}

theorem CacheMove.clear (move : CacheMove d requests s later)
    (never : ∀ key value ttl, ¬ requests (.inl (.cache (.setIfNotExist key value ttl))))
    (hold : Clear s.trace) : Clear later.trace := by
  have logged {entry : PortTraceEntry X} (grown : later.trace = s.trace ++ [entry])
      (last : ∀ command answer, entry.event = .answered (.inl (.cache command)) answer →
        command.unclear answer = false) : Clear later.trace := by
    intro other member
    rw [grown] at member
    rcases List.mem_append.mp member with old | new
    · exact hold other old
    · rw [List.mem_singleton.mp new]
      exact last
  cases move with
  | told tid command answer asked allowed performed still grown =>
      apply logged grown
      intro same reply event
      cases event
      cases command with
      | setIfNotExist key value ttl =>
          cases asked with
          | registry call began issued => cases issued
          | service call began allowed => exact absurd allowed (never key value ttl)
      | _ => rfl
  | noted entry other served stamped same still grown =>
      exact logged grown fun command answer event => absurd event (other command answer)
  | quiet same onwards silent => exact silent ▸ hold
  | dropped fullKey allowed erased still silent => exact silent ▸ hold
  | invalidated portName erased still silent => exact silent ▸ hold

end Clear

/-! ### Runs -/

/-- What the trace tells about the cache. -/
structure Chronicle (d : Deployment X) (requests : PortRequest ⊕ X.Req → Prop) (start : Store)
    (s : PortSnapshot X) : Prop where
  timely : Timely s
  owned : Owned d requests s
  registers : Registers d start s
  retains : d.environment = .working d.backend → Clear s.trace → Retains d start s

section Runs

variable {d : Deployment X} {service : Service X} {requests : PortRequest ⊕ X.Req → Prop}
  {marks : PortMark ⊕ X.Mark → Prop} {start : Store} {s later : PortSnapshot X}

theorem CacheMove.extends (move : CacheMove d requests s later) : s.Extends later := by
  cases move with
  | told tid command answer asked allowed performed still grown => exact ⟨_, grown.symm⟩
  | noted entry other served stamped same still grown => exact ⟨_, grown.symm⟩
  | quiet same onwards silent => exact ⟨[], by rw [silent, List.append_nil]⟩
  | dropped fullKey allowed erased still silent => exact ⟨[], by rw [silent, List.append_nil]⟩
  | invalidated portName erased still silent => exact ⟨[], by rw [silent, List.append_nil]⟩

theorem CacheMove.chronicle (move : CacheMove d requests s later)
    (hold : Chronicle d requests start s) : Chronicle d requests start later where
  timely := move.timely hold.timely
  owned := move.owned hold.owned
  registers := move.registers hold.registers
  retains working clear :=
    have earlier := clear.earlier move.extends
    move.retains working hold.registers earlier (hold.retains working earlier)

theorem chronicle_initial (world : World X) :
    Chronicle d requests world.cache ⟨world, []⟩ where
  timely := ⟨fun _ member => (List.not_mem_nil member).elim, always_nil _⟩
  owned := ⟨always_nil _, always_nil _, always_nil _, always_nil _⟩
  registers := ⟨fun _ _ found _ => found, always_nil _, always_nil _⟩
  retains _ _ := ⟨fun _ _ _ there _ => there, always_nil _, always_nil _⟩

/-- In every run the trace tells what the cache holds. -/
theorem chronicle_reachable (remote : d.adapter = remoteAdapter)
    (asks : ∀ call, (service.body call).Asks requests marks) [DecidableEq (portSignature X).Req]
    {world : World X} {p : Pool (portSignature X) Resolution}
    (reached : Reachable (portSystem d service) world p) :
    Chronicle d requests world.cache p.snapshot :=
  reachable_of_steps remote asks (fun _ _ step hold => step.cacheMove.chronicle hold)
    (chronicle_initial world) reached

theorem clear_reachable (remote : d.adapter = remoteAdapter)
    (asks : ∀ call, (service.body call).Asks requests marks)
    (never : ∀ key value ttl, ¬ requests (.inl (.cache (.setIfNotExist key value ttl))))
    [DecidableEq (portSignature X).Req] {world : World X} {p : Pool (portSignature X) Resolution}
    (reached : Reachable (portSystem d service) world p) : Clear p.snapshot.trace := by
  have keeps (s later : PortSnapshot X) (step : ProcessStep d service requests marks s later)
      (hold : Clear s.trace) : Clear later.trace := step.cacheMove.clear never hold
  exact reachable_of_steps remote asks keeps (fun _ member => (List.not_mem_nil member).elim) reached

end Runs

end SelfService
