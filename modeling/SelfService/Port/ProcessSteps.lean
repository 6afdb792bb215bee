/-
The steps of the process, when the calls of its service only ask.

`ProcessStep` lists them once, so what every step keeps holds in every run.
`CacheMove` and `ServiceMove` say what a step is to the cache and to the state of
the service.
-/

import SelfService.EventLoop.Observer
import SelfService.Port.Provenance

namespace SelfService

open Data EventLoop PortRegistry

variable {X : Extension}

/-- A step of the process, whoever takes it, when the calls of the service only ask. -/
inductive ProcessStep (d : Deployment X) (service : Service X)
    (requests : PortRequest ⊕ X.Req → Prop) (marks : PortMark ⊕ X.Mark → Prop) :
    PortSnapshot X → PortSnapshot X → Prop
  | registry (s later : PortSnapshot X) (tid : Nat) (call : PortCall)
      (began : s.Saw tid (.started (.inl call)))
      (step : RegistryStep d service noPromise tid call.invocation s later) :
      ProcessStep d service requests marks s later
  | adapter (s : PortSnapshot X) (tid : Nat) (ref : AdapterRef)
      (context : Option RequestContext) (method : String) (params : JsValue)
      (answer : Except Exn JsValue) :
      ProcessStep d service requests marks s
        (s.log (portSystem d service) tid
          (.answered (.inl (.adapter ref context method params)) answer))
  | started (s : PortSnapshot X) (fresh : Nat) (call : PortCall ⊕ X.Call) :
      ProcessStep d service requests marks s
        (s.log (portSystem d service) fresh (.started call))
  | finished (s : PortSnapshot X) (tid : Nat) (call : PortCall ⊕ X.Call)
      (result : Except Exn Resolution)
      (outcome : ∀ port, call = .inl port → CallOutcome d tid s.trace port result) :
      ProcessStep d service requests marks s
        (s.log (portSystem d service) tid (.finished call result))
  | answer (s : PortSnapshot X) (tid : Nat) (request : PortRequest ⊕ X.Req)
      (answer : (portSignature X).Ans request) (world : World X) (call : X.Call)
      (began : s.Saw tid (.started (.inr call))) (allowed : requests request)
      (performed : (portSystem d service).perform s.state request answer = some world) :
      ProcessStep d service requests marks s
        ((⟨world, s.trace⟩ : PortSnapshot X).log (portSystem d service) tid
          (.answered request answer))
  | mark (s : PortSnapshot X) (tid : Nat) (label : PortMark ⊕ X.Mark) (allowed : marks label) :
      ProcessStep d service requests marks s
        (s.log (portSystem d service) tid (.marked label))
  | external (s : PortSnapshot X) (event : PortExternal) (world : World X)
      (moved : World.external d s.state event = some world) :
      ProcessStep d service requests marks s { s with state := world }

section Steps

variable {d : Deployment X} {service : Service X} {requests : PortRequest ⊕ X.Req → Prop}
  {marks : PortMark ⊕ X.Mark → Prop} {Inv : PortSnapshot X → Prop}

theorem ownFact_saw (tid : Nat) (event : PortEvent X) :
    OwnFact tid fun trace : PortTrace X => Saw trace tid event := by
  intro early others _ saw
  obtain ⟨time, member⟩ := saw
  exact ⟨time, List.mem_append_left others member⟩

theorem registry_keeps (remote : d.adapter = remoteAdapter)
    (steps : ∀ s later, ProcessStep d service requests marks s later → Inv s → Inv later)
    {s : PortSnapshot X} {tid : Nat} {call : PortCall} (hold : Inv s)
    (began : s.Saw tid (.started (.inl call))) :
    Safe (portSystem d service) Inv tid (fun result later =>
      Inv (later.log (portSystem d service) tid (.finished (.inl call) result)))
      (portBody d call) s := by
  apply Safe.withOwn (ownFact_saw tid (.started (.inl call)))
  have closed : Closed d service noPromise
      (fun s => Inv s ∧ s.Saw tid (.started (.inl call))) tid call.invocation := by
    rintro now later step ⟨holds, seen⟩
    exact ⟨steps now later (.registry now later tid call seen step) holds,
      seen.mono step.extends⟩
  have adapters : AdaptersKeep d service noPromise
      (fun s => Inv s ∧ s.Saw tid (.started (.inl call))) tid call.invocation := by
    intro adapter now holds
    rw [remote]
    refine remoteAdapter_keeps ?_ holds
    rintro later answer ⟨holdLater, seen⟩
    exact ⟨steps later _ (.adapter later tid _ _ _ _ answer) holdLater,
      seen.mono (later.extends_log (portSystem d service) tid _)⟩
  apply (closed.portBody call adapters ⟨hold, began⟩).mono
  rintro result later - ⟨⟨holdLater, -⟩, outcome⟩
  refine steps later _ (.finished later tid (.inl call) result ?_) holdLater
  rintro port same
  cases same
  exact outcome

theorem service_keeps (asks : ∀ call, (service.body call).Asks requests marks)
    (steps : ∀ s later, ProcessStep d service requests marks s later → Inv s → Inv later)
    {s : PortSnapshot X} {tid : Nat} {call : X.Call} (hold : Inv s)
    (began : s.Saw tid (.started (.inr call))) :
    Safe (portSystem d service) Inv tid (fun result later =>
      Inv (later.log (portSystem d service) tid (.finished (.inr call) result)))
      (service.body call) s := by
  apply Safe.withOwn (ownFact_saw tid (.started (.inr call)))
  have kept : Safe (portSystem d service)
      (fun s => Inv s ∧ s.Saw tid (.started (.inr call))) tid
      (fun _ later => Inv later ∧ later.Saw tid (.started (.inr call))) (service.body call) s := by
    apply (asks call).safe ⟨hold, began⟩
    · rintro now request answer world allowed ⟨holdNow, seen⟩ performed
      exact ⟨steps now _ (.answer now tid request answer world call seen allowed performed) holdNow,
        seen.mono (Snapshot.extends_log (portSystem d service) ⟨world, now.trace⟩ tid _)⟩
    · rintro now label allowed ⟨holdNow, seen⟩
      exact ⟨steps now _ (.mark now tid label allowed) holdNow,
        seen.mono (now.extends_log (portSystem d service) tid _)⟩
  apply kept.mono
  rintro result later - ⟨holdLater, -⟩
  exact steps later _ (.finished later tid (.inr call) result nofun) holdLater

/-- What every step keeps holds in every run. -/
theorem reachable_of_steps (remote : d.adapter = remoteAdapter)
    (asks : ∀ call, (service.body call).Asks requests marks)
    (steps : ∀ s later, ProcessStep d service requests marks s later → Inv s → Inv later)
    {world : World X} (hold : Inv ⟨world, []⟩) {p : Pool (portSignature X) Resolution}
    [DecidableEq (portSignature X).Req] (reached : Reachable (portSystem d service) world p) :
    Inv p.snapshot := by
  have verified : Verified (portSystem d service) Inv :=
    { starts := fun s fresh call holds _ => steps s _ (.started s fresh call) holds
      bodies := by
        intro s tid call holds begins
        cases call with
        | inl call => exact registry_keeps remote steps holds begins.seen
        | inr call => exact service_keeps asks steps holds begins.seen
      externals := fun s event state holds moved => steps s _ (.external s event state moved) holds }
  exact verified.reachable hold reached

theorem ProcessStep.accounted {s later : PortSnapshot X}
    (step : ProcessStep d service requests marks s later) (hold : Accounted d s) :
    Accounted d later := by
  cases step with
  | registry later tid call began step => exact accounted_closed tid _ _ _ step hold
  | adapter tid ref context method params answer => exact hold.observe fun _ => trivial
  | started fresh call => exact hold.observe fun _ => trivial
  | finished tid call result outcome =>
      apply Accounted.observe hold
      intro time
      cases call with
      | inl call => exact outcome call rfl
      | inr call => exact trivial
  | answer tid request answer world call began allowed performed =>
      exact Accounted.observe hold fun _ => trivial
  | mark tid label allowed => exact hold.observe fun _ => trivial
  | external event world moved => exact hold

/-- Whatever the service asks for, the calls of the registry end as they should. -/
theorem accounted_of_asks (remote : d.adapter = remoteAdapter)
    (asks : ∀ call, (service.body call).Asks requests marks) {world : World X}
    {p : Pool (portSignature X) Resolution} [DecidableEq (portSignature X).Req]
    (reached : Reachable (portSystem d service) world p) : Accounted d p.snapshot :=
  reachable_of_steps remote asks (fun _ _ step hold => step.accounted hold) (always_nil _) reached

end Steps

/-! ### Steps, as the cache sees them -/

/-- What a service is answered was asked by one of its calls. -/
def ServedLaw (before : PortTrace X) (entry : PortTraceEntry X) : Prop :=
  ∀ request answer, entry.event = .answered (.inr request) answer →
    ∃ call, Saw before entry.tid (.started (.inr call))

/-- Who may have sent a cache command. -/
inductive Asked (d : Deployment X) (requests : PortRequest ⊕ X.Req → Prop) (tid : Nat)
    (s : PortSnapshot X) (command : CacheCommand) : Prop
  | registry (call : PortCall) (began : s.Saw tid (.started (.inl call)))
      (issued : Issues d tid call.invocation s (.cache command))
  | service (call : X.Call) (began : s.Saw tid (.started (.inr call)))
      (allowed : requests (.inl (.cache command)))

inductive CacheMove (d : Deployment X) (requests : PortRequest ⊕ X.Req → Prop)
    (s later : PortSnapshot X) : Prop
  | told (tid : Nat) (command : CacheCommand) (answer : command.Answer)
      (asked : Asked d requests tid s command)
      (allowed : d.environment.answers s.state.now s.state.cache command answer = true)
      (performed : d.backend.perform s.state.now s.state.cache command answer =
        some later.state.cache)
      (still : later.state.now = s.state.now)
      (grown : later.trace =
        s.trace ++ [⟨tid, s.state.now, .answered (.inl (.cache command)) answer⟩])
  | noted (entry : PortTraceEntry X) (other : Uncached entry.event)
      (served : ServedLaw s.trace entry) (stamped : entry.time = s.state.now) (same : later.state.cache = s.state.cache)
      (still : later.state.now = s.state.now) (grown : later.trace = s.trace ++ [entry])
  | quiet (same : later.state.cache = s.state.cache) (onwards : s.state.now ≤ later.state.now)
      (silent : later.trace = s.trace)
  | dropped (fullKey : String)
      (allowed : d.environment.drops s.state.now s.state.cache fullKey = true)
      (erased : later.state.cache = s.state.cache.erase fullKey)
      (still : later.state.now = s.state.now) (silent : later.trace = s.trace)
  | invalidated (portName : String)
      (erased : later.state.cache = (MemoryCacheService.deleteByPattern d.backend.options
        (portPattern portName) s.state.cache).2)
      (still : later.state.now = s.state.now) (silent : later.trace = s.trace)

section Moves

variable {d : Deployment X} {service : Service X} {requests : PortRequest ⊕ X.Req → Prop}
  {marks : PortMark ⊕ X.Mark → Prop} {s later : PortSnapshot X}

theorem cacheMove_of_answer {tid : Nat} {request : PortRequest} {answer : request.Answer}
    {world : World X} (performed : performPort d s.state request answer = some world)
    (asked : ∀ command, request = .cache command → Asked d requests tid s command) :
    CacheMove d requests s ((⟨world, s.trace⟩ : PortSnapshot X).log (portSystem d service) tid
      (.answered (.inl request) answer)) := by
  cases request with
  | cache command =>
      obtain ⟨allowed, cache, served, rfl⟩ := performPort_cache performed
      exact .told tid command answer (asked command rfl) allowed served rfl rfl
  | adapter ref context method params =>
      cases performed
      exact .noted _ (fun _ _ same => by cases same) (fun _ _ same => by cases same) rfl rfl rfl rfl
  | queueAdd payload =>
      cases answer with
      | ok jobId =>
          cases performed
          exact .noted _ (fun _ _ same => by cases same) (fun _ _ same => by cases same) rfl rfl rfl rfl
      | failed applied reason =>
          cases applied with
          | true =>
              cases performed
              exact .noted _ (fun _ _ same => by cases same) (fun _ _ same => by cases same) rfl rfl rfl rfl
          | false =>
              cases performed
              exact .noted _ (fun _ _ same => by cases same) (fun _ _ same => by cases same) rfl rfl rfl rfl

theorem RegistryStep.cacheMove {tid : Nat} {call : PortCall}
    (began : s.Saw tid (.started (.inl call)))
    (step : RegistryStep d service noPromise tid call.invocation s later) :
    CacheMove d requests s later := by
  cases step with
  | request => exact .noted _ (fun _ _ same => by cases same) (fun _ _ same => by cases same) rfl rfl rfl rfl
  | breakers breakers => exact .quiet rfl (Nat.le_refl _) rfl
  | invalidate => exact .invalidated call.invocation.portName rfl rfl rfl
  | answer request answer world issued performed =>
      apply cacheMove_of_answer performed
      rintro command rfl
      exact .registry call began issued
  | settle adapter outcome promised =>
      exact .noted _ (fun _ _ same => by cases same) (fun _ _ same => by cases same) rfl rfl rfl rfl
  | fill adapter data seen => exact .noted _ (fun _ _ same => by cases same) (fun _ _ same => by cases same) rfl rfl rfl rfl
  | fallBack data slot present => exact .noted _ (fun _ _ same => by cases same) (fun _ _ same => by cases same) rfl rfl rfl rfl
  | detach fresh other different kind => exact .noted _ (fun _ _ same => by cases same) (fun _ _ same => by cases same) rfl rfl rfl rfl

theorem ProcessStep.cacheMove (step : ProcessStep d service requests marks s later) :
    CacheMove d requests s later := by
  cases step with
  | registry later tid call began step => exact step.cacheMove began
  | adapter tid ref context method params answer =>
      exact .noted _ (fun _ _ same => by cases same) (fun _ _ same => by cases same) rfl rfl rfl rfl
  | started fresh call => exact .noted _ (fun _ _ same => by cases same) (fun _ _ same => by cases same) rfl rfl rfl rfl
  | finished tid call result outcome => exact .noted _ (fun _ _ same => by cases same) (fun _ _ same => by cases same) rfl rfl rfl rfl
  | answer tid request answer world call began allowed performed =>
      cases request with
      | inl request =>
          apply cacheMove_of_answer performed
          rintro command rfl
          exact .service call began allowed
      | inr request =>
          obtain ⟨state, -, rfl⟩ := Option.map_eq_some_iff.mp performed
          exact .noted _ (fun _ _ same => by cases same) (fun _ _ _ => ⟨call, began⟩) rfl rfl rfl rfl
  | mark tid label allowed => exact .noted _ (fun _ _ same => by cases same) (fun _ _ same => by cases same) rfl rfl rfl rfl
  | external event world moved =>
      rcases external_cases moved with ⟨millis, rfl⟩ | ⟨fullKey, allowed, rfl⟩ | ⟨mode, config, rfl⟩
      · exact .quiet rfl (Nat.le_add_right _ _) rfl
      · exact .dropped fullKey allowed rfl rfl rfl
      · exact .quiet rfl (Nat.le_refl _) rfl

end Moves

/-! ### Steps, as the service sees them -/

inductive ServiceMove (service : Service X) (requests : PortRequest ⊕ X.Req → Prop)
    (s later : PortSnapshot X) : Prop
  | told (tid : Nat) (request : X.Req) (answer : X.Ans request)
      (allowed : requests (.inr request))
      (performed : service.perform s.state.service request answer = some later.state.service)
      (grown : later.trace =
        s.trace ++ [⟨tid, s.state.now, .answered (.inr request) answer⟩])
  | noted (entry : PortTraceEntry X)
      (other : ∀ request answer, entry.event ≠ .answered (.inr request) answer)
      (same : later.state.service = s.state.service) (grown : later.trace = s.trace ++ [entry])
  | quiet (same : later.state.service = s.state.service) (silent : later.trace = s.trace)

section ServiceMoves

variable {d : Deployment X} {service : Service X} {requests : PortRequest ⊕ X.Req → Prop}
  {marks : PortMark ⊕ X.Mark → Prop} {s later : PortSnapshot X}

theorem RegistryStep.serviceMove {tid : Nat} {i : Invocation}
    (step : RegistryStep d service noPromise tid i s later) :
    ServiceMove service requests s later := by
  have same := step.service_eq
  cases step with
  | request => exact .noted _ (fun _ _ same => by cases same) same rfl
  | breakers breakers => exact .quiet same rfl
  | invalidate => exact .quiet same rfl
  | answer request answer world issued performed =>
      exact .noted _ (fun _ _ same => by cases same) same rfl
  | settle adapter outcome promised => exact .noted _ (fun _ _ same => by cases same) same rfl
  | fill adapter data seen => exact .noted _ (fun _ _ same => by cases same) same rfl
  | fallBack data slot present => exact .noted _ (fun _ _ same => by cases same) same rfl
  | detach fresh call other kind => exact .noted _ (fun _ _ same => by cases same) same rfl

theorem ProcessStep.serviceMove (step : ProcessStep d service requests marks s later) :
    ServiceMove service requests s later := by
  cases step with
  | registry later tid call began step => exact step.serviceMove
  | adapter tid ref context method params answer =>
      exact .noted _ (fun _ _ same => by cases same) rfl rfl
  | started fresh call => exact .noted _ (fun _ _ same => by cases same) rfl rfl
  | finished tid call result outcome => exact .noted _ (fun _ _ same => by cases same) rfl rfl
  | answer tid request answer world call began allowed performed =>
      cases request with
      | inl request =>
          exact .noted _ (fun _ _ same => by cases same) (performPort_service performed) rfl
      | inr request =>
          obtain ⟨state, served, rfl⟩ := Option.map_eq_some_iff.mp performed
          exact .told tid request answer allowed served rfl
  | mark tid label allowed => exact .noted _ (fun _ _ same => by cases same) rfl rfl
  | external event world moved =>
      rcases external_cases moved with ⟨millis, rfl⟩ | ⟨fullKey, allowed, rfl⟩ | ⟨mode, config, rfl⟩
      · exact .quiet rfl rfl
      · exact .quiet rfl rfl
      · exact .quiet rfl rfl

end ServiceMoves

/-! ### The service methods along a trail -/

section Methods

variable {d : Deployment X} {service : Service X} {tid : Nat} {law : Law (portSignature X) Resolution}
  {β : Type} {post : Except Exn β → World X → PortTrace X → Prop} {state : World X}
  {past : PortTrace X} {key : String}

theorem obeys_get {rest : JsValue → PortTask X β}
    (step : ∀ (reply : Reply JsValue) time,
      law past ⟨tid, time, .answered (.inl (.cache (.get key))) reply⟩)
    (next : ∀ (reply : Reply JsValue) time last,
      Obeys (portSystem d service) tid law post (rest (reply.getD .null)) last
        (past ++ [⟨tid, time, .answered (.inl (.cache (.get key))) reply⟩])) :
    Obeys (portSystem d service) tid law post (CacheService.get key >>= rest) state past :=
  fun reply _ _ resumed _ => ⟨step reply _, next reply _ resumed⟩

theorem obeys_set {value : JsValue} {ttl : Option Nat} {rest : Unit → PortTask X β}
    (step : ∀ (reply : Reply Unit) time,
      law past ⟨tid, time, .answered (.inl (.cache (.set key value ttl))) reply⟩)
    (next : ∀ time last, Obeys (portSystem d service) tid law post (rest ()) last
      (past ++ [⟨tid, time, .answered (.inl (.cache (.set key value ttl))) (Reply.ok ())⟩]))
    (failed : ∀ applied reason time last, post (.error (.error reason)) last
      (past ++ [⟨tid, time, .answered (.inl (.cache (.set key value ttl)))
        (Reply.failed applied reason)⟩])) :
    Obeys (portSystem d service) tid law post (CacheService.set key value ttl >>= rest) state
      past := by
  intro reply before after resumed performed
  refine ⟨step reply _, ?_⟩
  cases reply with
  | ok done => exact next _ resumed
  | failed applied reason => exact failed applied reason _ resumed

end Methods

/-! ### The service methods under observation -/

section Observers

variable {σ β : Type} {observe : σ → PortEvent X → σ} {post : Except Exn β → σ → Prop} {seen : σ}
  {key : String}

theorem observed_get {rest : JsValue → PortTask X β}
    (next : ∀ reply : Reply JsValue, Observed observe post (rest (reply.getD .null))
      (observe seen (.answered (.inl (.cache (.get key))) reply))) :
    Observed observe post (CacheService.get key >>= rest) seen :=
  fun reply => next reply

theorem observed_set {value : JsValue} {ttl : Option Nat} {rest : Unit → PortTask X β}
    (next : Observed observe post (rest ())
      (observe seen (.answered (.inl (.cache (.set key value ttl))) (Reply.ok ()))))
    (failed : ∀ applied reason, post (.error (.error reason))
      (observe seen (.answered (.inl (.cache (.set key value ttl)))
        (Reply.failed applied reason)))) :
    Observed observe post (CacheService.set key value ttl >>= rest) seen := by
  intro reply
  cases reply with
  | ok done => exact next
  | failed applied reason => exact failed applied reason

theorem observed_delete {rest : Unit → PortTask X β}
    (next : ∀ reply : Reply Unit, Observed observe post (rest ())
      (observe seen (.answered (.inl (.cache (.delete key))) reply))) :
    Observed observe post (CacheService.delete key >>= rest) seen :=
  fun reply => next reply

end Observers

end SelfService
