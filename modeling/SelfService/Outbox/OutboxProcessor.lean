/-
The transactional outbox: its table, its processors and the event bus.

Any number of processors poll one table.  The status of an entry is the only
lock: `markAsProcessing` takes it, `markAsProcessed` and `markAsFailed` release it
by id, and `resetForRetry` returns failed entries in bulk.
-/

import SelfService.Caching.RedisCacheService
import SelfService.Domain.AggregateRoot
import SelfService.EventLoop.Pool

namespace SelfService

open EventLoop

inductive OutboxStatus
  | pending | processing | processed | failed
  deriving DecidableEq

structure OutboxEntry where
  id : String
  aggregateId : String
  aggregateType : String
  eventType : String
  payload : String
  status : OutboxStatus
  createdAt : Nat
  processedAt : Option Nat
  retryCount : Nat
  lastError : Option String
  deriving DecidableEq

structure OutboxConfig where
  batchSize : Nat
  maxRetries : Nat
  retentionPeriodMs : Nat

def DEFAULT_CONFIG : OutboxConfig := ⟨100, 3, 7 * 24 * 60 * 60 * 1000⟩

/-- The configuration, the platform's JSON and the bus of the framework.  `parse` is
`JSON.parse` with the date restored, or the message of what it throws. -/
structure OutboxRuntime where
  config : OutboxConfig
  stringify : DomainEvent → String
  parse : String → Except String DomainEvent
  cqrsPublish : DomainEvent → Except String Unit

/-- A custom handler of the bus in the process of one processor. -/
structure Subscription where
  processor : Nat
  eventType : String
  handler : String
  deriving DecidableEq

/-- Processors are numbered; `processing` lists those whose `isProcessing` is set, and
`stopped` those that stopped where they were. -/
structure OutboxState where
  rows : List OutboxEntry
  now : Nat
  processing : List Nat
  stopped : List Nat
  customHandlers : List Subscription

def OutboxState.handlersOf (state : OutboxState) (processor : Nat) (eventType : String) :
    List String :=
  (state.customHandlers.filter fun subscription =>
    subscription.processor = processor && subscription.eventType = eventType).map
      Subscription.handler

/-! ### Requests -/

inductive OutboxRequest : Type
  | addMany (rows : List OutboxEntry)
  | getPending (processor limit : Nat)
  | markAsProcessing (processor : Nat) (id : String)
  | markAsProcessed (processor : Nat) (id : String) (processedAt : Nat)
  | markAsFailed (processor : Nat) (id error : String)
  | resetForRetry (processor maxRetries : Nat)
  | deleteProcessed (processor olderThan : Nat)
  /-- The custom handlers of one event, all at once. -/
  | handle (processor : Nat) (event : DomainEvent) (handlers : List String)
  deriving DecidableEq

abbrev OutboxRequest.Value : OutboxRequest → Type
  | .addMany _ => Unit
  | .getPending _ _ => List OutboxEntry
  | .markAsProcessing _ _ => Bool
  | .markAsProcessed _ _ _ => Unit
  | .markAsFailed _ _ _ => Unit
  | .resetForRetry _ _ => Nat
  | .deleteProcessed _ _ => Nat
  | .handle _ _ _ => List (Except String Unit)

def OutboxRequest.processor : OutboxRequest → Option Nat
  | .addMany _ => none
  | .getPending processor _ => some processor
  | .markAsProcessing processor _ => some processor
  | .markAsProcessed processor _ _ => some processor
  | .markAsFailed processor _ _ => some processor
  | .resetForRetry processor _ => some processor
  | .deleteProcessed processor _ => some processor
  | .handle processor _ _ => some processor

/-- What the processors leave on the trace. -/
inductive OutboxMark : Type
  | publishing (id : String) (event : DomainEvent) (handlers : List String)
  | published (id : String) (resolved : Bool)

inductive OutboxCall : Type
  | addMany (events : List DomainEvent)
  | processOutbox (processor : Nat)
  | cleanupOldEntries (processor : Nat)

abbrev outbox : Signature where
  State := OutboxState
  Req := OutboxRequest
  Ans request := Reply request.Value
  Mark := OutboxMark
  Call := OutboxCall
  Err := Exn

abbrev OutboxTask := Task outbox

/-- Await a request; a failure rejects. -/
def outboxAsk (request : OutboxRequest) : OutboxTask request.Value :=
  Task.await request fun
    | .ok value => .done value
    | .failed _ reason => .fail (.error reason)

/-! ### The table -/

def isPending (row : OutboxEntry) : Bool := row.status = .pending

def retriable (maxRetries : Nat) (row : OutboxEntry) : Bool :=
  row.status = .failed && row.retryCount < maxRetries

def expiredBefore (olderThan : Nat) (row : OutboxEntry) : Bool :=
  row.status = .processed && row.processedAt.any fun processedAt => processedAt ≤ olderThan

/-- An update of the rows that a `WHERE` selects. -/
def updateRows (selects : OutboxEntry → Bool) (update : OutboxEntry → OutboxEntry)
    (rows : List OutboxEntry) : List OutboxEntry :=
  rows.map fun row => if selects row then update row else row

/-- Some pending rows, oldest first, none of them twice and none left out for a newer one. -/
def isBatch (rows : List OutboxEntry) (limit : Nat) (batch : List OutboxEntry) : Bool :=
  let pending := rows.filter isPending
  decide (batch.length = min limit pending.length) &&
    decide (batch.Pairwise fun early late => early.createdAt ≤ late.createdAt ∧ early.id ≠ late.id) &&
    batch.all fun taken => pending.contains taken &&
      pending.all fun row => batch.contains row || taken.createdAt ≤ row.createdAt

/-- What a statement does to the rows. -/
def effect : OutboxRequest → List OutboxEntry → List OutboxEntry
  | .addMany added, rows => rows ++ added
  | .markAsProcessing _ id, rows =>
      updateRows (fun row => row.id = id && isPending row)
        (fun row => { row with status := .processing }) rows
  | .markAsProcessed _ id processedAt, rows =>
      updateRows (fun row => row.id = id)
        (fun row => { row with status := .processed, processedAt := some processedAt }) rows
  | .markAsFailed _ id error, rows =>
      updateRows (fun row => row.id = id)
        (fun row => { row with
          status := .failed
          lastError := some error
          retryCount := row.retryCount + 1 }) rows
  | .resetForRetry _ maxRetries, rows =>
      updateRows (retriable maxRetries) (fun row => { row with status := .pending }) rows
  | .deleteProcessed _ olderThan, rows => rows.filter fun row => !expiredBefore olderThan row
  | .getPending _ _, rows => rows
  | .handle _ _ _, rows => rows

/-- What a statement that succeeds may return. -/
def returns (rows : List OutboxEntry) : (request : OutboxRequest) → request.Value → Bool
  | .addMany added, _ =>
      decide ((added.map OutboxEntry.id).Nodup) &&
        added.all fun row => !rows.any fun known => known.id = row.id
  | .getPending _ limit, batch => isBatch rows limit batch
  | .markAsProcessing _ id, acquired => acquired = rows.any fun row => row.id = id && isPending row
  | .markAsProcessed _ _ _, _ => true
  | .markAsFailed _ _ _, _ => true
  | .resetForRetry _ maxRetries, count => count = (rows.filter (retriable maxRetries)).length
  | .deleteProcessed _ olderThan, count => count = (rows.filter (expiredBefore olderThan)).length
  | .handle _ _ handlers, outcomes => outcomes.length = handlers.length

def isStatement : OutboxRequest → Bool
  | .handle _ _ _ => false
  | _ => true

/-- The database and the handlers.  A stopped processor hears nothing any more.  A statement
may fail; where `lossy` is set, one that took effect may fail too. -/
def performOutbox (lossy : Bool) (state : OutboxState) (request : OutboxRequest)
    (reply : Reply request.Value) : Option OutboxState :=
  if request.processor.any fun processor => state.stopped.contains processor then none
  else
    match reply with
    | .ok value =>
        if returns state.rows request value then
          some { state with rows := effect request state.rows }
        else none
    | .failed applied _ =>
        if isStatement request && (lossy || !applied) then
          some (if applied then { state with rows := effect request state.rows } else state)
        else none

/-! ### The event bus and the repository -/

/-- Errors of custom handlers are caught and logged. -/
def EventBus.publish (runtime : OutboxRuntime) (processor : Nat) (event : DomainEvent) :
    OutboxTask Unit :=
  match runtime.cqrsPublish event with
  | .error message => .fail (.error message)
  | .ok _ => do
      let state ← Task.read
      if state.handlersOf processor event.eventType = [] then return ()
      else
        let _ ← outboxAsk (.handle processor event (state.handlersOf processor event.eventType))
        return ()

def OutboxRepository.row (runtime : OutboxRuntime) (now : Nat) (event : DomainEvent) : OutboxEntry where
  id := event.eventId
  aggregateId := event.aggregateId
  aggregateType := event.aggregateType
  eventType := event.eventType
  payload := runtime.stringify event
  status := .pending
  createdAt := now
  processedAt := none
  retryCount := 0
  lastError := none

def OutboxRepository.addMany (runtime : OutboxRuntime) (events : List DomainEvent) :
    OutboxTask Unit := do
  if events = [] then return ()
  else
    let state ← Task.read
    outboxAsk (.addMany (events.map (OutboxRepository.row runtime state.now)))

/-! ### The processor -/

namespace OutboxProcessorService

/-- The `try` block of `processEntry`. -/
def publishEntry (runtime : OutboxRuntime) (processor : Nat) (id payload : String) :
    OutboxTask Unit :=
  match runtime.parse payload with
  | .error message => .fail (.error message)
  | .ok event => do
      let state ← Task.read
      Task.note (.publishing id event (state.handlersOf processor event.eventType))
      let outcome ← (EventBus.publish runtime processor event).attempt
      Task.note (.published id outcome.isOk)
      Task.settleWith outcome
      let state ← Task.read
      outboxAsk (.markAsProcessed processor id state.now)

def processEntry (runtime : OutboxRuntime) (processor : Nat) (id payload : String) :
    OutboxTask Unit := do
  if ← outboxAsk (.markAsProcessing processor id) then
    match ← (publishEntry runtime processor id payload).attempt with
    | .ok _ => return ()
    | .error error => outboxAsk (.markAsFailed processor id error.message)
  else return ()

def processEntries (runtime : OutboxRuntime) (processor : Nat) : List OutboxEntry → OutboxTask Unit
  | [] => .done ()
  | entry :: rest => do
      processEntry runtime processor entry.id entry.payload
      processEntries runtime processor rest

/-- The `try` block of `processOutbox`. -/
def processBatch (runtime : OutboxRuntime) (processor : Nat) : OutboxTask Unit := do
  let entries ← outboxAsk (.getPending processor runtime.config.batchSize)
  if entries = [] then return ()
  else
    processEntries runtime processor entries
    let _ ← outboxAsk (.resetForRetry processor runtime.config.maxRetries)
    return ()

def processOutbox (runtime : OutboxRuntime) (processor : Nat) : OutboxTask Unit := do
  let state ← Task.read
  if state.processing.contains processor then return ()
  else
    Task.modify fun state => { state with processing := processor :: state.processing }
    let _ ← (processBatch runtime processor).attempt
    Task.modify fun state => { state with
      processing := state.processing.filter fun other => other ≠ processor }

def cleanupOldEntries (runtime : OutboxRuntime) (processor : Nat) : OutboxTask Unit := do
  let state ← Task.read
  let _ ← (outboxAsk (.deleteProcessed processor
    (state.now - runtime.config.retentionPeriodMs))).attempt
  return ()

end OutboxProcessorService

def outboxBody (runtime : OutboxRuntime) : OutboxCall → OutboxTask Unit
  | .addMany events => OutboxRepository.addMany runtime events
  | .processOutbox processor => OutboxProcessorService.processOutbox runtime processor
  | .cleanupOldEntries processor => OutboxProcessorService.cleanupOldEntries runtime processor

/-- The clock runs, handlers subscribe, and processors stop. -/
inductive OutboxExternal : Type
  | tick (millis : Nat)
  | subscribe (subscription : Subscription)
  | stop (processor : Nat)

def outboxExternal (state : OutboxState) : OutboxExternal → Option OutboxState
  | .tick millis => some { state with now := state.now + millis }
  | .subscribe subscription =>
      some { state with customHandlers := state.customHandlers ++ [subscription] }
  | .stop processor => some { state with stopped := processor :: state.stopped }

abbrev outboxSystem (runtime : OutboxRuntime) (lossy : Bool) : System outbox Unit OutboxExternal where
  body := outboxBody runtime
  perform := performOutbox lossy
  external := outboxExternal
  clock := OutboxState.now

abbrev OutboxTrace := Trace outbox Unit

abbrev OutboxSnapshot := Snapshot outbox Unit

abbrev OutboxEvent := Event outbox Unit

abbrev OutboxTraceEntry := Entry outbox Unit

end SelfService
