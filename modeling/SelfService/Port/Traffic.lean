/-
What the registry asks of the outside, at most.

One call of the registry asks its port's adapter once and the queue once; a replay asks
the adapter once, a refresh the queue once, and an invalidation neither.
-/

import Mathlib
import SelfService.EventLoop.Credits
import SelfService.Port.Registry

namespace SelfService

open Data EventLoop

variable {X : Extension}

/-- What goes out of the process, counted port by port. -/
inductive Traffic : Type
  | adapter (portName : String)
  | queue (portName : String)
  deriving DecidableEq

/-- How much there is of each kind. -/
abbrev Demand := Traffic → Nat

def once (kind : Traffic) : Demand := fun other => if other = kind then 1 else 0

/-- An adapter is asked once, and at most one job is added. -/
def executing (portName : String) : Demand := once (.adapter portName) + once (.queue portName)

def PortRequest.demand : PortRequest → Demand
  | .cache _ => 0
  | .adapter ref _ _ _ => once (.adapter ref.portName)
  | .queueAdd payload => once (.queue payload.portName)

def PortCall.demand : PortCall → Demand
  | .execute invocation => executing invocation.portName
  | .replay payload => once (.adapter payload.portName)
  | .invalidate _ => 0
  | .refresh cause => once (.queue cause.portName)

/-- The tariff of a process, from what its service's own requests and calls come to. -/
def portTariff (requests : X.Req → Demand) (calls : X.Call → Demand) :
    Tariff (portSignature X) Demand where
  request := Sum.elim PortRequest.demand requests
  label _ := 0
  budget := Sum.elim PortCall.demand calls

section Programs

variable {requests : X.Req → Demand} {calls : X.Call → Demand}
  {sys : System (portSignature X) Resolution PortExternal} {d : Deployment X}

/-- The task stays within the demand. -/
abbrev Costs (sys : System (portSignature X) Resolution PortExternal) (requests : X.Req → Demand)
    (calls : X.Call → Demand) {α : Type} (task : PortTask X α) (demand : Demand) : Prop :=
  task.Affords sys (portTariff requests calls) demand

/-- The adapters of every port go out once. -/
def AdaptersCostOnce (sys : System (portSignature X) Resolution PortExternal)
    (requests : X.Req → Demand) (calls : X.Call → Demand) (d : Deployment X) : Prop :=
  ∀ ref context method params,
    Costs sys requests calls (d.adapter ref context method params) (once (.adapter ref.portName))

theorem remoteAdapter_costs (ref : AdapterRef) (context : Option RequestContext)
    (method : String) (params : JsValue) :
    Costs sys requests calls (remoteAdapter ref context method params)
      (once (.adapter ref.portName)) := by
  refine ⟨0, (add_zero _).le, ?_⟩
  intro answer before after performed
  cases (answer : Except Exn JsValue) with
  | ok data => exact trivial
  | error error => exact trivial

/-! ### The cache is not counted -/

theorem ask_costs (command : CacheCommand) :
    Costs sys requests calls (CacheService.ask command) 0 :=
  ⟨0, (add_zero _).le, fun _ _ _ _ => trivial⟩

theorem get_costs (key : String) : Costs sys requests calls (CacheService.get key) 0 := by
  apply (ask_costs _).before
  intro reply
  exact trivial

theorem set_costs (key : String) (value : JsValue) (ttl : Option Nat) :
    Costs sys requests calls (CacheService.set key value ttl) 0 := by
  apply (ask_costs _).before
  intro reply
  cases (reply : Reply Unit) with
  | ok done => exact trivial
  | failed applied reason => exact trivial

theorem deleteByPattern_costs (kind : BackendKind) (pattern : String) :
    Costs sys requests calls (CacheService.deleteByPattern kind pattern) 0 := by
  unfold CacheService.deleteByPattern
  cases kind with
  | memory => exact (ask_costs _).before fun _ => trivial
  | redis =>
      apply (ask_costs (.keys pattern)).before
      intro reply
      cases (reply : Reply (List String)) with
      | failed applied reason => exact trivial
      | ok fullKeys =>
          cases fullKeys with
          | nil => exact trivial
          | cons first rest =>
              apply (ask_costs (.del (first :: rest))).before
              intro reply
              cases (reply : Reply Unit) with
              | ok done => exact trivial
              | failed applied reason => exact trivial

theorem check_costs (rawKey : String) :
    Costs sys requests calls (InboundIdempotencyService.check d rawKey) 0 := get_costs _

theorem store_costs (rawKey : String) (result : JsValue) :
    Costs sys requests calls (InboundIdempotencyService.store d rawKey result) 0 :=
  (set_costs _ _ _).attempt.before fun _ => trivial

/-! ### Queue and fallback -/

theorem enqueue_costs (payload : ReplayJobPayload) :
    Costs sys requests calls (QueueService.enqueue d payload) (once (.queue payload.portName)) := by
  unfold QueueService.enqueue
  split
  · refine ⟨0, (add_zero _).le, ?_⟩
    intro reply before after performed
    cases (reply : Reply (Option String)) with
    | ok jobId => exact trivial
    | failed applied reason => exact trivial
  · exact trivial

namespace PortRegistry

variable {invocation : Invocation} {entry : PortEntry} {adapter : AdapterKind} {startTime : Nat}

theorem executeFallback_costs (originalError : Option Exn) :
    Costs sys requests calls (executeFallback invocation adapter startTime originalError) 0 := by
  unfold executeFallback
  intro world
  dsimp only
  split
  · exact ⟨0, (add_zero _).le, trivial⟩
  · exact trivial

theorem enqueueAndReject_costs :
    Costs sys requests calls (enqueueAndReject d invocation)
      (once (.queue invocation.portName)) :=
  (enqueue_costs (replayPayload invocation)).followed fun _ => trivial

theorem executeWithQueue_costs (originalError : Option Exn) :
    Costs sys requests calls
      (executeWithQueue d invocation entry adapter startTime originalError)
      (once (.queue invocation.portName)) := by
  unfold executeWithQueue
  split
  · exact (executeFallback_costs originalError).mono zero_le
  · split
    · intro world
      change Task.Affords sys _ (ite _ _ _) _
      split
      · exact enqueueAndReject_costs
      · exact ⟨0, (add_zero _).le, 0, (add_zero _).le, trivial⟩
    · exact enqueueAndReject_costs

/-! ### What follows an answer -/

theorem invalidatePort_costs : Costs sys requests calls (invalidatePort d invocation) 0 := by
  unfold invalidatePort
  split
  · exact fun world => trivial
  · exact ⟨0, (add_zero _).le, trivial⟩

theorem writeCache_costs (data : JsValue) :
    Costs sys requests calls (writeCache d invocation entry data) 0 := by
  unfold writeCache
  split
  · intro world
    exact (set_costs _ _ _).attempt.before fun _ => trivial
  · exact trivial

theorem fillSlot_costs (data : JsValue) :
    Costs sys requests calls (fillSlot invocation data) 0 :=
  fun _ => ⟨0, (add_zero _).le, trivial⟩

theorem recordResult_costs (data : JsValue) :
    Costs sys requests calls (recordResult d invocation data) 0 := by
  unfold recordResult
  split
  · split
    · exact store_costs _ _
    · exact trivial
  · exact trivial

theorem postProcess_costs (data : JsValue) :
    Costs sys requests calls (postProcess d invocation entry data) 0 := by
  unfold postProcess
  have rest : Costs sys requests calls (do
      writeCache d invocation entry data
      fillSlot invocation data
      recordResult d invocation data) 0 :=
    (writeCache_costs data).before fun _ => (fillSlot_costs data).before fun _ =>
      recordResult_costs data
  split
  · exact invalidatePort_costs.before fun _ => rest
  · exact rest

/-! ### Execution -/

theorem callAdapter_costs (adapters : AdaptersCostOnce sys requests calls d) :
    Costs sys requests calls (callAdapter d adapter invocation)
      (once (.adapter invocation.portName)) := by
  unfold callAdapter
  apply (adapters _ _ _ _).attempt.followed
  intro outcome
  exact ⟨0, (add_zero _).le, trivial⟩

theorem executeThroughBreaker_costs (adapters : AdaptersCostOnce sys requests calls d) :
    Costs sys requests calls (executeThroughBreaker d invocation entry adapter startTime)
      (executing invocation.portName) := by
  intro world
  change Task.Affords sys _ (ite _ _ _) _
  split
  · exact (executeWithQueue_costs none).mono le_add_self
  · intro admitted
    apply (callAdapter_costs adapters).bind
    intro outcome
    cases outcome with
    | ok data =>
        intro later changed
        apply Task.Affords.mono _ zero_le
        exact (postProcess_costs data).before fun _ => trivial
    | error error => exact fun changed => executeWithQueue_costs (some error)

theorem executeThroughCache_costs (adapters : AdaptersCostOnce sys requests calls d) :
    Costs sys requests calls (executeThroughCache d invocation entry adapter startTime)
      (executing invocation.portName) := by
  unfold executeThroughCache
  split
  · apply (get_costs _).before
    intro cached world
    change Task.Affords sys _ (ite _ _ _) _
    split
    · exact executeThroughBreaker_costs adapters
    · exact trivial
  · exact executeThroughBreaker_costs adapters

theorem executeRegistered_costs (adapters : AdaptersCostOnce sys requests calls d) :
    Costs sys requests calls (executeRegistered d invocation entry adapter startTime)
      (executing invocation.portName) := by
  unfold executeRegistered
  split
  · split
    · apply (check_costs _).before
      intro recorded world
      change Task.Affords sys _ (ite _ _ _) _
      split
      · exact executeThroughCache_costs adapters
      · exact trivial
    · exact executeThroughCache_costs adapters
  · exact executeThroughCache_costs adapters

theorem execute_costs (adapters : AdaptersCostOnce sys requests calls d) (invocation : Invocation) :
    Costs sys requests calls (execute d invocation) (executing invocation.portName) := by
  unfold execute
  refine ⟨executing invocation.portName, (zero_add _).le, ?_⟩
  refine Task.Affords.read fun world => ?_
  split
  · exact trivial
  · exact executeRegistered_costs adapters

theorem executeReplay_costs (adapters : AdaptersCostOnce sys requests calls d)
    (payload : ReplayJobPayload) :
    Costs sys requests calls (executeReplay d payload) (once (.adapter payload.portName)) := by
  unfold executeReplay
  refine Task.Affords.read fun world => ?_
  split
  · exact trivial
  · apply (callAdapter_costs adapters).followed
    intro outcome
    cases outcome with
    | ok data => exact (fillSlot_costs data).before fun _ => trivial
    | error error => exact trivial

end PortRegistry

theorem portBody_costs (adapters : AdaptersCostOnce sys requests calls d) (call : PortCall) :
    Costs sys requests calls (portBody d call) call.demand := by
  cases call with
  | execute invocation =>
      exact (PortRegistry.execute_costs adapters invocation).followed fun _ => trivial
  | replay payload =>
      intro world
      change Task.Affords sys _ (ite _ _ _) _
      split
      · exact (PortRegistry.executeReplay_costs adapters payload).followed fun _ => trivial
      · exact trivial
  | invalidate cause => exact (deleteByPattern_costs _ _).attempt.before fun _ => trivial
  | refresh cause => exact (enqueue_costs _).attempt.followed fun _ => trivial

end Programs

end SelfService
