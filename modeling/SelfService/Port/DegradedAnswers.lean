/-
Answers of the fallback path.

A port keeps one fallback slot for all its methods and parameters.  Degraded
data therefore belongs to the call it is served to only while the slot was last
filled by a call for the same data.  Errors are never passed on: whatever an
adapter rejects with, `execute` rejects with something else or not at all.
-/

import SelfService.Port.Provenance

namespace SelfService

open Data EventLoop PortRegistry

/-! ### Whose data a degraded answer carries -/

/-- An adapter call for the same port, method and parameters returned this data. -/
def fetchedFor (i : Invocation) (data : JsValue) (entry : PortTraceEntry registryOnly) : Bool :=
  match entry.event with
  | .marked (.inl (.settled _ j (.ok value))) =>
      j.portName = i.portName && j.method = i.method && j.params = i.params && value = data
  | _ => false

/-- A degraded answer carries data fetched earlier for this very call. -/
def degradedAnswerIsOwn (before : PortTrace registryOnly)
    (entry : PortTraceEntry registryOnly) : Bool :=
  match entry.event with
  | .finished (.inl (.execute i)) (.ok (.port result)) =>
      !result.degraded || before.any (fetchedFor i result.data)
  | _ => true

/-- A call is answered from its port's slot only after the last fill of the slot
was made for the same method and parameters. -/
def slotFitsCall (before : PortTrace registryOnly) (entry : PortTraceEntry registryOnly) : Bool :=
  match entry.event with
  | .marked (.inl (.fellBack i _)) =>
      (latest (fillsOf i.portName) before).all fun fill =>
        fill.1.method = i.method && fill.1.params = i.params
  | _ => true

/-- While the slots fit the calls they serve, degraded answers are isolated. -/
theorem degraded_answer_is_own (wiring : Wiring) (world : World registryOnly)
    (empty : world.fallbackCache = .empty) (p : Pool (portSignature registryOnly) Resolution)
    (reached : Reachable wiring.registry world p)
    (fits : Passes slotFitsCall p.snapshot.trace) :
    Passes degradedAnswerIsOwn p.snapshot.trace := by
  have provenance := provenance_reachable empty reached
  intro before entry after split
  have lawBefore : Always SlotLaw before :=
    provenance.law.earlier ⟨entry :: after, split.symm⟩
  have ended := accounted_reachable reached before entry after split
  unfold degradedAnswerIsOwn
  split
  · rename_i i result finished
    unfold EndLaw at ended
    rw [finished] at ended
    obtain ⟨_, same, outcome⟩ := ended
    cases same
    cases outcome with
    | recorded rawKey result keyed seen present healthy => rw [healthy]; rfl
    | cached entry result readOnly seen present same healthy => rw [healthy]; rfl
    | fresh adapter result seen healthy => rw [healthy]; rfl
    | degraded result seen ill =>
        obtain ⟨past, time, rest, j, splitBefore, last, port, other, adapter, ended, settled⟩ :=
          behind_fallback lawBefore seen
        have fit := fits past _ (rest ++ entry :: after) (by
          rw [split, splitBefore, List.append_assoc, List.cons_append])
        simp only [slotFitsCall, last, Option.all_some, Bool.and_eq_true,
          decide_eq_true_eq] at fit
        rw [Bool.or_eq_true, List.any_eq_true]
        right
        refine ⟨⟨other, ended, .marked (.inl (.settled adapter j (.ok result.data)))⟩, ?_, ?_⟩
        · rw [splitBefore]
          exact List.mem_append_left _ settled
        · simp [fetchedFor, port, fit]
  · rfl

/-! ### What becomes of an error that blames the caller -/

/-- The error, blaming the caller, with which an adapter call of this task rejected. -/
def callerRejection (tid : Nat) (entry : PortTraceEntry registryOnly) : Option Exn :=
  match entry.event with
  | .marked (.inl (.settled _ _ (.error error))) =>
      if entry.tid = tid && error.isCallerError then some error else none
  | _ => none

/-- A call whose adapter blamed the caller rejects with that same error. -/
def callerErrorSurfaces (before : PortTrace registryOnly)
    (entry : PortTraceEntry registryOnly) : Bool :=
  match entry.event with
  | .finished (.inl (.execute _)) result =>
      (before.filterMap (callerRejection entry.tid)).all fun error =>
        result = .error error
  | _ => true

/-- A call whose adapter blamed the caller does not reject with that error. -/
def callerErrorHidden (before : PortTrace registryOnly)
    (entry : PortTraceEntry registryOnly) : Bool :=
  match entry.event with
  | .finished (.inl (.execute _)) result =>
      (before.filterMap (callerRejection entry.tid)).all fun error =>
        result ≠ .error error
  | _ => true

theorem isCallerError_of_rejection {tid : Nat} {entry : PortTraceEntry registryOnly}
    {error : Exn} (rejected : callerRejection tid entry = some error) :
    error.isCallerError = true := by
  unfold callerRejection at rejected
  split at rejected
  · obtain ⟨both, found⟩ := Option.ite_none_right_eq_some.mp rejected
    cases found
    rw [Bool.and_eq_true] at both
    exact both.2
  · cases rejected

/-- No outcome of `execute` is an error that blames the caller. -/
theorem Outcome.not_callerError {X : Extension} {d : Deployment X} {tid : Nat} {i : Invocation}
    {trace : PortTrace X} {error : Exn} (outcome : Outcome d tid i trace (.error error)) :
    error.isCallerError = false := by
  cases outcome with
  | unregistered => rfl
  | failed cause => rfl
  | queued jobId seen => rfl
  | unqueued reason => rfl

/-- In every run, every call whose adapter blamed the caller hides that error. -/
theorem caller_error_hidden (wiring : Wiring) (world : World registryOnly)
    (p : Pool (portSignature registryOnly) Resolution)
    (reached : Reachable wiring.registry world p) :
    Passes callerErrorHidden p.snapshot.trace := by
  intro before entry after split
  have ended := accounted_reachable reached before entry after split
  unfold callerErrorHidden
  split
  · rename_i i result finished
    rw [List.all_eq_true]
    intro error member
    obtain ⟨earlier, _, rejected⟩ := List.mem_filterMap.mp member
    have caller := isCallerError_of_rejection rejected
    rw [decide_eq_true_eq]
    rintro rfl
    unfold EndLaw at ended
    rw [finished] at ended
    rw [ended.not_callerError] at caller
    cases caller
  · rfl

/-! ### A foreign invoice -/

abbrev RegistryAction := Action (portSignature registryOnly) PortExternal

def invoiceRead (invoiceId customerId : String) : Invocation where
  context := none
  portName := "invoice"
  method := "get-by-id"
  params := .obj [("invoiceId", .str invoiceId), ("customerId", .str customerId)]
  idempotencyKey := none

/-- SHA-256 of the JSON texts that occur below. -/
def readHash (payload : JsValue) : ShortHash :=
  if payload = .obj [("method", .str "get-by-id"),
      ("params", .obj [("invoiceId", .str "HD-1"), ("customerId", .str "KH-1")])] then
    ⟨"2741280a7a5b96ac", by decide +kernel⟩
  else ⟨"b6017b25aa6aa2b9", by decide +kernel⟩

def invoiceWiring : Wiring :=
  .configured true (fun _ => ⟨"e3b0c44298fc1c14", isHex_empty⟩) readHash

def invoiceWorld : World registryOnly :=
  register "invoice" (bareWorld 1700000000000 .empty apiEndpoints ())

def readKey (i : Invocation) : String :=
  buildCacheKey invoiceWiring.remote i.portName i.method i.params

def invoiceOfFirst : JsValue :=
  .obj [("invoiceId", .str "HD-1"), ("totalAmount", .num 105000), ("paymentStatus", .str "unpaid")]

/-- Start a read and bring it to its adapter call. -/
def toAdapter (tid : Nat) (i : Invocation) : List RegistryAction :=
  [.call (.inl (.execute i)), .resume tid,
    .answer tid (.inl (.cache (.get (readKey i)))) (Reply.ok .null), .resume tid]

/-- The adapter answers with data, which is cached and kept in the slot. -/
def toSuccess (tid : Nat) (i : Invocation) (data : JsValue) : List RegistryAction :=
  [.answer tid (.inl (.adapter ⟨"invoice", .mock⟩ i.context i.method i.params)) (.ok data),
    .resume tid,
    .answer tid (.inl (.cache (.set (readKey i)
      (.obj [("data", data), ("cachedAt", .str "2023-11-14T22:13:20.000Z")]) (some 900))))
      (Reply.ok ()),
    .resume tid]

def toFailure (tid : Nat) (i : Invocation) (error : Exn) : List RegistryAction :=
  [.answer tid (.inl (.adapter ⟨"invoice", .mock⟩ i.context i.method i.params)) (.error error),
    .resume tid]

/-- The owner reads HD-1; then another customer asks for it, and the adapter answers
that there is no such invoice. -/
def foreignRead : List RegistryAction :=
  toAdapter 0 (invoiceRead "HD-1" "KH-1") ++
    toSuccess 0 (invoiceRead "HD-1" "KH-1") invoiceOfFirst ++
    toAdapter 1 (invoiceRead "HD-1" "KH-2") ++
    toFailure 1 (invoiceRead "HD-1" "KH-2")
      (.notFound "Invoice not found" "INVOICE_NOT_FOUND" (.obj [("invoiceId", .str "HD-1")]))

/-- The owner reads HD-1 twice; the cached copy is lost and the adapter fails. -/
def ownRead : List RegistryAction :=
  toAdapter 0 (invoiceRead "HD-1" "KH-1") ++
    toSuccess 0 (invoiceRead "HD-1" "KH-1") invoiceOfFirst ++
    [.external (.evict (getFullKey invoiceWiring.backend.options
      (readKey (invoiceRead "HD-1" "KH-1"))))] ++
    toAdapter 1 (invoiceRead "HD-1" "KH-1") ++
    toFailure 1 (invoiceRead "HD-1" "KH-1") (.portTimeout "invoice" 3000)

def runOf (schedule : List RegistryAction) : Option (Pool (portSignature registryOnly) Resolution) :=
  (Pool.initial invoiceWorld).run invoiceWiring.registry schedule

/-- The second customer is served the owner's invoice. -/
theorem degraded_answer_foreign :
    ∃ p, Reachable invoiceWiring.registry invoiceWorld p ∧
      ¬ Passes degradedAnswerIsOwn p.snapshot.trace :=
  ⟨_, reachable_run invoiceWiring.registry invoiceWorld foreignRead (by decide +kernel),
    by decide +kernel⟩

theorem degraded_answer_own_read :
    ∃ p, Reachable invoiceWiring.registry invoiceWorld p ∧ p.snapshot.trace.length = 16 ∧
      Passes degradedAnswerIsOwn p.snapshot.trace :=
  ⟨_, reachable_run invoiceWiring.registry invoiceWorld ownRead (by decide +kernel),
    by decide +kernel,
    degraded_answer_is_own invoiceWiring invoiceWorld rfl _
      (reachable_run invoiceWiring.registry invoiceWorld ownRead (by decide +kernel))
      (by decide +kernel)⟩

/-- The not-found error of the second read never reaches its caller. -/
theorem caller_error_replaced :
    ∃ p, Reachable invoiceWiring.registry invoiceWorld p ∧
      ¬ Passes callerErrorSurfaces p.snapshot.trace :=
  ⟨_, reachable_run invoiceWiring.registry invoiceWorld foreignRead (by decide +kernel),
    by decide +kernel⟩

theorem caller_error_hidden_foreign :
    ∃ p, Reachable invoiceWiring.registry invoiceWorld p ∧
      p.snapshot.trace.any (fun entry => (callerRejection 1 entry).isSome) = true ∧
      Passes callerErrorHidden p.snapshot.trace :=
  ⟨_, reachable_run invoiceWiring.registry invoiceWorld foreignRead (by decide +kernel),
    by decide +kernel,
    caller_error_hidden invoiceWiring invoiceWorld _
      (reachable_run invoiceWiring.registry invoiceWorld foreignRead (by decide +kernel))⟩

end SelfService
