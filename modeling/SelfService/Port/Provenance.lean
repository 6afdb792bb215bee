/-
What holds in every run of the registry, whatever service sits on top of it.

Every call ends as `Outcome` says.  A fallback slot holds what the last fill of
its port wrote, and every fill was preceded by a successful adapter call.
-/

import SelfService.EventLoop.History
import SelfService.Port.RegistrySafety

namespace SelfService

open Data EventLoop PortRegistry

variable {X : Extension} {d : Deployment X} {service : Service X} {promise : Promise X}

theorem performPort_fallbackCache {world after : World X} {request : PortRequest}
    {answer : request.Answer} (performed : performPort d world request answer = some after) :
    after.fallbackCache = world.fallbackCache := by
  cases request with
  | cache command =>
      obtain ⟨-, cache, -, rfl⟩ := performPort_cache performed
      rfl
  | adapter ref context method params =>
      cases performed
      rfl
  | queueAdd payload =>
      cases answer with
      | ok jobId =>
          cases performed
          rfl
      | failed applied reason =>
          cases applied <;> cases performed <;> rfl

/-! ### Ends -/

def EndLaw (d : Deployment X) (before : PortTrace X) (entry : PortTraceEntry X) : Prop :=
  match entry.event with
  | .finished (.inl call) result => CallOutcome d entry.tid before call result
  | _ => True

/-- Every call that ended is accounted for. -/
def Accounted (d : Deployment X) (s : PortSnapshot X) : Prop := Always (EndLaw d) s.trace

theorem Accounted.observe {s : PortSnapshot X} {tid : Nat} (hold : Accounted d s)
    {world : World X} {event : PortEvent X} (law : ∀ time, EndLaw d s.trace ⟨tid, time, event⟩) :
    Accounted d ((⟨world, s.trace⟩ : PortSnapshot X).log (portSystem d service) tid event) := by
  unfold Accounted
  rw [Snapshot.log_trace, always_snoc]
  exact ⟨hold, law _⟩

theorem accounted_closed (tid : Nat) (i : Invocation) :
    Closed d service promise (Accounted d) tid i := by
  intro s later step hold
  cases step with
  | request => exact hold.observe fun _ => trivial
  | breakers breakers => exact hold
  | invalidate => exact hold
  | answer request answer world issued performed => exact hold.observe fun _ => trivial
  | settle adapter outcome promised => exact hold.observe fun _ => trivial
  | fill adapter data seen =>
      exact Accounted.observe hold fun _ => trivial
  | fallBack data slot present => exact hold.observe fun _ => trivial
  | detach fresh call other kind => exact hold.observe fun _ => trivial

theorem accounted_stable (wiring : Wiring) :
    Stable wiring.remote noService noPromise (Accounted wiring.remote) where
  closed := accounted_closed
  adapters _ _ _ _ hold :=
    remoteAdapter_keeps (fun _ _ hold => hold.observe fun _ => trivial) hold
  started _ _ _ hold _ := hold.observe fun _ => trivial
  finished _ _ _ _ hold _ outcome := hold.observe fun _ => outcome
  external _ _ _ hold _ := hold

theorem accounted_reachable {wiring : Wiring} {world : World registryOnly}
    {p : Pool (portSignature registryOnly) Resolution}
    (reached : Reachable wiring.registry world p) : Accounted wiring.remote p.snapshot :=
  ((accounted_stable wiring).verified fun _ _ call => call.elim).reachable
    (always_nil _) reached

/-! ### Promises -/

def PromiseLaw (promise : Promise X) (before : PortTrace X) (entry : PortTraceEntry X) : Prop :=
  match entry.event with
  | .marked (.inl (.settled _ i outcome)) => promise i outcome before
  | _ => True

/-- Whatever the adapters promise was kept by every adapter call. -/
def Promised (promise : Promise X) (s : PortSnapshot X) : Prop :=
  Always (PromiseLaw promise) s.trace

theorem Promised.observe {s : PortSnapshot X} {tid : Nat} (hold : Promised promise s)
    {world : World X} {event : PortEvent X}
    (law : ∀ time, PromiseLaw promise s.trace ⟨tid, time, event⟩) :
    Promised promise ((⟨world, s.trace⟩ : PortSnapshot X).log (portSystem d service) tid event) := by
  unfold Promised
  rw [Snapshot.log_trace, always_snoc]
  exact ⟨hold, law _⟩

theorem promised_closed (tid : Nat) (i : Invocation) :
    Closed d service promise (Promised promise) tid i := by
  intro s later step hold
  cases step with
  | request => exact hold.observe fun _ => trivial
  | breakers breakers => exact hold
  | invalidate => exact hold
  | answer request answer world issued performed => exact hold.observe fun _ => trivial
  | settle adapter outcome promised => exact hold.observe fun _ => promised
  | fill adapter data seen => exact Promised.observe hold fun _ => trivial
  | fallBack data slot present => exact hold.observe fun _ => trivial
  | detach fresh call other kind => exact hold.observe fun _ => trivial

/-! ### Slots -/

/-- The fills of one port's slot. -/
def fillsOf (portName : String) (entry : PortTraceEntry X) : Option (Invocation × JsValue) :=
  match entry.event with
  | .marked (.inl (.slotFilled i data)) => if i.portName = portName then some (i, data) else none
  | _ => none

/-- What each event says about its past. -/
def SlotLaw (before : PortTrace X) (entry : PortTraceEntry X) : Prop :=
  match entry.event with
  | .marked (.inl (.slotFilled i data)) =>
      ∃ adapter, Saw before entry.tid (.marked (.inl (.settled adapter i (.ok data))))
  | .marked (.inl (.fellBack i data)) =>
      ∃ j, latest (fillsOf i.portName) before = some (j, data)
  | _ => True

structure Provenance (s : PortSnapshot X) : Prop where
  slot : ∀ portName data, s.state.fallbackCache.get? portName = some data →
    ∃ i, latest (fillsOf portName) s.trace = some (i, data)
  law : Always (SlotLaw) s.trace

theorem fillsOf_eq_some {portName : String} {entry : PortTraceEntry X} {i : Invocation}
    {data : JsValue} (filled : fillsOf portName entry = some (i, data)) :
    entry.event = .marked (.inl (.slotFilled i data)) ∧ i.portName = portName := by
  unfold fillsOf at filled
  split at filled
  · rename_i j value event
    obtain ⟨same, found⟩ := Option.ite_none_right_eq_some.mp filled
    cases found
    exact ⟨event, same⟩
  · cases filled

/-- What the last fill wrote had been returned by an adapter call. -/
theorem settled_of_fill {trace : PortTrace X} (law : Always SlotLaw trace) {portName : String}
    {j : Invocation} {data : JsValue} (last : latest (fillsOf portName) trace = some (j, data)) :
    j.portName = portName ∧
      ∃ tid adapter, Saw trace tid (.marked (.inl (.settled adapter j (.ok data)))) := by
  obtain ⟨fill, member, filled⟩ := exists_of_latest last
  obtain ⟨event, port⟩ := fillsOf_eq_some filled
  obtain ⟨before, after, split⟩ := List.append_of_mem member
  have past := law before fill after split
  unfold SlotLaw at past
  rw [event] at past
  obtain ⟨adapter, time, settled⟩ := past
  refine ⟨port, fill.tid, adapter, time, ?_⟩
  rw [split]
  exact List.mem_append_left _ settled

/-- The call behind the data that another call was answered with. -/
theorem behind_fallback {trace : PortTrace X} (law : Always SlotLaw trace) {tid : Nat}
    {i : Invocation} {data : JsValue}
    (seen : Saw trace tid (.marked (.inl (.fellBack i data)))) :
    ∃ past time rest j, trace = past ++ ⟨tid, time, .marked (.inl (.fellBack i data))⟩ :: rest ∧
      latest (fillsOf i.portName) past = some (j, data) ∧ j.portName = i.portName ∧
      ∃ other adapter, Saw past other (.marked (.inl (.settled adapter j (.ok data)))) := by
  obtain ⟨time, member⟩ := seen
  obtain ⟨past, rest, split⟩ := List.append_of_mem member
  obtain ⟨j, last⟩ := law past _ rest split
  have lawPast : Always SlotLaw past := law.earlier ⟨_, split.symm⟩
  exact ⟨past, time, rest, j, split, last, settled_of_fill lawPast last⟩

namespace Provenance

variable {s : PortSnapshot X} {tid : Nat}

/-- An event that fills no slot keeps the provenance of all of them. -/
theorem observe (hold : Provenance s) {world : World X} {event : PortEvent X}
    (slots : world.fallbackCache = s.state.fallbackCache)
    (unfilled : ∀ i data, event ≠ .marked (.inl (.slotFilled i data)))
    (law : ∀ time, SlotLaw s.trace ⟨tid, time, event⟩) :
    Provenance ((⟨world, s.trace⟩ : PortSnapshot X).log (portSystem d service) tid event) := by
  constructor
  · intro portName data found
    rw [Snapshot.log_state, slots] at found
    rw [Snapshot.log_trace, latest_snoc_none]
    · exact hold.slot portName data found
    · cases seen : fillsOf portName
        (⟨tid, (portSystem d service).clock world, event⟩ : PortTraceEntry X) with
      | none => rfl
      | some fill => exact absurd (fillsOf_eq_some seen).1 (unfilled fill.1 fill.2)
  · rw [Snapshot.log_trace, always_snoc]
    exact ⟨hold.law, law _⟩

theorem fill (hold : Provenance s) {i : Invocation} {data : JsValue} {adapter : AdapterKind}
    (seen : s.Saw tid (.marked (.inl (.settled adapter i (.ok data))))) :
    Provenance (({ s with state := FallbackProvider.setCached i.portName data s.state } :
      PortSnapshot X).log (portSystem d service) tid (.marked (.inl (.slotFilled i data)))) := by
  constructor
  · intro portName value found
    rw [Snapshot.log_trace]
    by_cases same : i.portName = portName
    · subst same
      have written : data = value := by
        simpa [FallbackProvider.setCached] using found
      subst written
      exact ⟨i, latest_snoc_some (by simp [fillsOf]) s.trace⟩
    · rw [latest_snoc_none (by simp [fillsOf, same])]
      apply hold.slot portName value
      simpa [FallbackProvider.setCached, OrderedMap.get?_set_of_ne _ _ same] using found
  · rw [Snapshot.log_trace, always_snoc]
    exact ⟨hold.law, adapter, seen⟩

end Provenance

/-- Every step of the registry respects provenance. -/
theorem provenance_closed (tid : Nat) (i : Invocation) :
    Closed d service promise (Provenance) tid i := by
  intro s later step hold
  cases step with
  | request => exact hold.observe rfl (by simp) fun _ => trivial
  | breakers breakers => exact ⟨hold.slot, hold.law⟩
  | invalidate => exact ⟨hold.slot, hold.law⟩
  | answer request answer world issued performed =>
      exact hold.observe (performPort_fallbackCache performed) (by simp) fun _ => trivial
  | settle adapter outcome promised => exact hold.observe rfl (by simp) fun _ => trivial
  | fill adapter data seen => exact hold.fill seen
  | fallBack data slot present =>
      exact hold.observe rfl (by simp) fun _ => hold.slot i.portName data slot
  | detach fresh call other kind => exact hold.observe rfl (by simp) fun _ => trivial

theorem provenance_external {s : PortSnapshot X} {event : PortExternal} {state : World X}
    (hold : Provenance s) (moved : World.external d s.state event = some state) :
    Provenance { s with state := state } := by
  obtain ⟨_, rfl⟩ | ⟨_, _, rfl⟩ | ⟨_, _, rfl⟩ := external_cases moved
  · exact ⟨hold.slot, hold.law⟩
  · exact ⟨hold.slot, hold.law⟩
  · exact ⟨hold.slot, hold.law⟩

theorem provenance_initial {world : World X} (empty : world.fallbackCache = .empty) :
    Provenance ⟨world, []⟩ := by
  constructor
  · intro portName data found
    rw [empty, OrderedMap.get?_empty] at found
    cases found
  · exact always_nil _

/-- In a run of the registry alone, provenance always holds. -/
theorem provenance_stable (wiring : Wiring) :
    Stable wiring.remote noService noPromise Provenance where
  closed := provenance_closed
  adapters _ _ _ _ hold :=
    remoteAdapter_keeps (fun _ _ hold => hold.observe rfl (by simp) fun _ => trivial) hold
  started _ _ _ hold _ := hold.observe rfl (by simp) fun _ => trivial
  finished _ _ _ _ hold _ _ := hold.observe rfl (by simp) fun _ => trivial
  external _ _ _ hold moved := provenance_external hold moved

theorem provenance_reachable {wiring : Wiring} {world : World registryOnly}
    (empty : world.fallbackCache = .empty) {p : Pool (portSignature registryOnly) Resolution}
    (reached : Reachable wiring.registry world p) : Provenance p.snapshot :=
  ((provenance_stable wiring).verified fun _ _ call => call.elim).reachable
    (provenance_initial empty) reached

end SelfService
