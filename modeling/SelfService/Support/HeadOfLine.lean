/-
Refused messages at the head of the chat outbox.

A flush takes the oldest messages that wait, and a message that the receiver refuses keeps its
place.  The table is followed through a flush as a queue that is worked off in batches.
-/

import SelfService.Data.Batches
import SelfService.EventLoop.Alone
import SelfService.Support.ChatFlushes

namespace SelfService

open Data EventLoop PortRegistry ChatOutboxForwarder

/-! ### The queue of a table -/

section Tables

/-- What waits, in the order in which it is selected. -/
def waiting (rows : List OutboxRow) : List OutboxRow :=
  byCreation (rows.filter fun row => row.forwardedAt.isNone)

theorem filter_orderedInsert (test : OutboxRow → Bool) (row : OutboxRow) {rows : List OutboxRow}
    (sorted : rows.Pairwise fun left right => left.createdAt ≤ right.createdAt) :
    (rows.orderedInsert (fun left right => left.createdAt ≤ right.createdAt) row).filter test =
      if test row then
        (rows.filter test).orderedInsert (fun left right => left.createdAt ≤ right.createdAt) row
      else rows.filter test := by
  induction rows with
  | nil => cases kept : test row <;> simp [kept]
  | cons first rest ih =>
      have after := (List.pairwise_cons.mp sorted).1
      have shorter := ih (List.pairwise_cons.mp sorted).2
      by_cases before : row.createdAt ≤ first.createdAt
      · rw [List.orderedInsert, if_pos before, List.filter_cons]
        cases kept : test row with
        | false => rfl
        | true =>
            -- the row stands before everything that is left
            have least : ∀ other ∈ (first :: rest).filter test,
                row.createdAt ≤ other.createdAt := by
              intro other member
              rcases List.mem_cons.mp (List.mem_of_mem_filter member) with same | behind
              · exact same ▸ before
              · exact Nat.le_trans before (after other behind)
            cases left : (first :: rest).filter test with
            | nil => rfl
            | cons head tail =>
                have ordered := least head (left ▸ List.mem_cons_self)
                simp [List.orderedInsert, ordered]
      · rw [List.orderedInsert, if_neg before, List.filter_cons, shorter]
        cases kept : test first with
        | false =>
            cases inserted : test row <;> simp [kept]
        | true =>
            cases inserted : test row <;> simp [kept, before]

/-- The order is stable: rows that leave do not disturb the others. -/
theorem filter_byCreation (test : OutboxRow → Bool) (rows : List OutboxRow) :
    (byCreation rows).filter test = byCreation (rows.filter test) := by
  induction rows with
  | nil => rfl
  | cons row rest ih =>
      have sorted := List.pairwise_insertionSort
        (fun left right : OutboxRow => left.createdAt ≤ right.createdAt) rest
      unfold byCreation at ih ⊢
      rw [List.insertionSort_cons, filter_orderedInsert test row sorted, List.filter_cons, ih]
      cases kept : test row <;> simp

theorem waiting_setForwarded (messageId : String) (time : Nat) (rows : List OutboxRow) :
    waiting (setForwarded messageId time rows) =
      (waiting rows).filter fun row => row.messageId ≠ messageId := by
  have unsent : (setForwarded messageId time rows).filter (fun row => row.forwardedAt.isNone) =
      (rows.filter fun row => row.forwardedAt.isNone).filter
        fun row => row.messageId ≠ messageId := by
    unfold setForwarded
    induction rows with
    | nil => rfl
    | cons row rest ih =>
        rw [List.map_cons, List.filter_cons, ih]
        by_cases same : row.messageId = messageId
        · cases pending : row.forwardedAt <;> simp [same, pending]
        · cases pending : row.forwardedAt <;> simp [same, pending]
  rw [waiting, waiting, unsent, filter_byCreation]

/-- The rows of a batch that are accepted are marked one after the other. -/
def markRows (accepts : OutboxRow → Bool) (time : Nat) :
    List OutboxRow → List OutboxRow → List OutboxRow
  | [], rows => rows
  | row :: rest, rows =>
      markRows accepts time rest
        (if accepts row then setForwarded row.messageId time rows else rows)

theorem waiting_markRows (accepts : OutboxRow → Bool) (time : Nat) (batch rows : List OutboxRow) :
    waiting (markRows accepts time batch rows) =
      (waiting rows).filter fun row =>
        batch.all fun sent => !accepts sent || row.messageId ≠ sent.messageId := by
  induction batch generalizing rows with
  | nil => exact (List.filter_eq_self.mpr fun _ _ => rfl).symm
  | cons sent rest ih =>
      rw [markRows, ih]
      cases accepted : accepts sent with
      | false => simp [accepted]
      | true =>
          simp only [if_true, waiting_setForwarded, List.filter_filter, List.all_cons, accepted,
            Bool.not_true, Bool.false_or]
          exact List.filter_congr fun row _ => Bool.and_comm _ _

theorem distinct_waiting {rows : List OutboxRow} (keys : DistinctKeys rows) :
    ((waiting rows).map OutboxRow.messageId).Nodup := by
  have pending : ((rows.filter fun row => row.forwardedAt.isNone).map
      OutboxRow.messageId).Nodup := keys.sublist (List.filter_sublist.map OutboxRow.messageId)
  exact ((List.perm_insertionSort _ _).map OutboxRow.messageId).nodup_iff.mpr pending

theorem distinct_markRows {accepts : OutboxRow → Bool} {time : Nat} (batch : List OutboxRow)
    {rows : List OutboxRow} (keys : DistinctKeys rows) :
    DistinctKeys (markRows accepts time batch rows) := by
  induction batch generalizing rows with
  | nil => exact keys
  | cons sent rest ih =>
      apply ih
      cases accepts sent with
      | false => exact keys
      | true =>
          unfold DistinctKeys
          rw [if_pos rfl, ids_setForwarded]
          exact keys

/-- A flush is one round over the queue of the table. -/
theorem waiting_flushed (accepts : OutboxRow → Bool) (time limit : Nat) {rows : List OutboxRow}
    (keys : DistinctKeys rows) :
    waiting (markRows accepts time (pendingRows rows limit) rows) =
      Batches.advance limit accepts (waiting rows) := by
  have split : waiting rows = pendingRows rows limit ++ (waiting rows).drop limit :=
    (List.take_append_drop limit (waiting rows)).symm
  have distinct := distinct_waiting keys
  rw [split, List.map_append, List.nodup_append] at distinct
  obtain ⟨apart, -, across⟩ := distinct
  rw [waiting_markRows]
  nth_rewrite 1 [split]
  rw [List.filter_append]
  unfold Batches.advance
  congr 1
  · apply List.filter_congr
    intro row member
    cases accepted : accepts row with
    | true =>
        have itself : ((pendingRows rows limit).all fun sent =>
            !accepts sent || row.messageId ≠ sent.messageId) = false := by
          rw [List.all_eq_false]
          exact ⟨row, member, by simp [accepted]⟩
        rw [itself]
        rfl
    | false =>
        refine List.all_eq_true.mpr fun sent listed => ?_
        by_cases same : row.messageId = sent.messageId
        · rw [← List.inj_on_of_nodup_map apart member listed same, accepted]
          rfl
        · simp [same]
  · apply List.filter_eq_self.mpr
    intro row member
    refine List.all_eq_true.mpr fun sent listed => ?_
    have different : row.messageId ≠ sent.messageId := fun same =>
      across sent.messageId (List.mem_map_of_mem listed) row.messageId
        (List.mem_map_of_mem member) same.symm
    simp [different]

end Tables

/-! ### A flush -/

/-- The receiver is up and gives a verdict on every message; the table can be read and
written. -/
structure Receives (accepts : JsValue → Bool) (answers : Answering (portSignature chat)) :
    Prop where
  accepted : ∀ world request, accepts request.body = true → ∃ status statusText json,
    answers world (.inr (.fetch request)) = FetchOutcome.response status statusText json ∧
      CskhChatAdapter.isOk status = true
  refused : ∀ world request, accepts request.body = false → ∃ status statusText json,
    answers world (.inr (.fetch request)) = FetchOutcome.response status statusText json ∧
      (status = 401 ∨ status = 403)
  probed : ∀ world host port, answers world (.inr (.probe host port)) = true
  selected : ∀ world limit, answers world (.inr (.selectPending limit)) =
    Reply.ok (pendingRows world.service.outbox limit)
  stored : ∀ world messageId time,
    answers world (.inr (.markForwarded messageId time)) = Reply.ok ()

/-- The chat port is registered, its breaker is closed, and the receiver was there when it was
last probed. -/
structure Online (world : World chat) : Prop where
  registered : (world.ports.get? "cskh-chat").isSome = true
  closed : ∀ breaker, world.circuitBreakers.get? "cskh-chat" = some breaker →
    breaker.state = .closed
  reachable : world.service.probeOk = true

section Flushes

variable {wiring : Wiring} {settings : ChatSettings} {accepts : JsValue → Bool}
variable {answers : Answering (portSignature chat)} {world : World chat}

theorem closed_recordSuccess (now : Nat) {breaker : CircuitBreakerState}
    (closed : breaker.state = .closed) : (breaker.recordSuccess now).state = .closed := by
  unfold CircuitBreakerState.recordSuccess CircuitBreakerState.cleanupOldRequests
  simp only [closed, reduceCtorEq, if_false]
  split <;> rfl

/-- The adapter answers with the verdict. -/
theorem sendMessage_alone {url secret : String} (receives : Receives accepts answers)
    (wired : settings.webhookUrl = some url) (signed : settings.hmacSecret = some secret)
    (context : Option RequestContext) (row : OutboxRow) :
    ∃ data, runAlone (chatSystem wiring settings) answers
        (CskhChatAdapter.execute settings "send-message" (sendInvocation context row).params)
        world = some (.ok data, world) ∧
      (data.field "sent").truthy = accepts (bodyOf row) := by
  let request := CskhChatAdapter.postRequest settings secret world.now url (bodyOf row)
  have asked : CskhChatAdapter.execute settings "send-message" (sendInvocation context row).params =
      CskhChatAdapter.post settings url secret (sendInvocation context row).params
        (.str row.messageId) := by
    simp only [CskhChatAdapter.execute, if_true, CskhChatAdapter.sendMessage, wired, signed]
    rfl
  have fetched : ∀ status statusText json,
      answers world (.inr (.fetch request)) = FetchOutcome.response status statusText json →
      runAlone (chatSystem wiring settings) answers
        (CskhChatAdapter.execute settings "send-message" (sendInvocation context row).params)
        world = runAlone (chatSystem wiring settings) answers
          (if status = 401 ∨ status = 403 then .done (CskhChatAdapter.refusal "unauthorized")
            else if CskhChatAdapter.isOk status then .done (CskhChatAdapter.receipt json)
            else .fail (CskhChatAdapter.wireError url (.response status statusText json)) :
            ChatTask JsValue) world := by
    intro status statusText json answered
    rw [asked]
    unfold CskhChatAdapter.post chatAsk
    rw [runAlone_read]
    change (some world).bind (fun after => runAlone (chatSystem wiring settings) answers
      (EventLoop.Task.bind (.done (answers world (.inr (.fetch request)))) _) after) = _
    rw [answered]
    rfl
  cases accepted : accepts (bodyOf row) with
  | true =>
      obtain ⟨status, statusText, json, answered, good⟩ := receives.accepted world request accepted
      have passed : ¬ (status = 401 ∨ status = 403) := by
        intro refused
        rcases refused with rfl | rfl <;> exact absurd good (by decide)
      refine ⟨CskhChatAdapter.receipt json, ?_, rfl⟩
      rw [fetched status statusText json answered, if_neg passed, if_pos good, runAlone]
  | false =>
      obtain ⟨status, statusText, json, answered, refused⟩ :=
        receives.refused world request accepted
      refine ⟨CskhChatAdapter.refusal "unauthorized", ?_, rfl⟩
      rw [fetched status statusText json answered, if_pos refused, runAlone]

/-- The world is online as before, with the same tables at the same time. -/
structure SameService (world later : World chat) : Prop where
  online : Online later
  service : later.service = world.service
  now : later.now = world.now

theorem SameService.setBreaker {change : CircuitBreakerState → CircuitBreakerState}
    {later : World chat} (same : SameService world later)
    (closes : ∀ breaker, breaker.state = .closed → (change breaker).state = .closed) :
    SameService world (PortRegistry.setBreaker "cskh-chat" change later) := by
  unfold PortRegistry.setBreaker
  cases found : later.circuitBreakers.get? "cskh-chat" with
  | none => exact same
  | some breaker =>
      refine ⟨⟨same.online.registered, ?_, same.online.reachable⟩, same.service, same.now⟩
      intro changed known
      have set : some (change breaker) = some changed := by
        rw [← known]
        exact (OrderedMap.get?_set_self _ "cskh-chat" (change breaker)).symm
      exact Option.some.inj set ▸ closes breaker (same.online.closed breaker found)

theorem callAdapter_alone {url secret : String} (receives : Receives accepts answers)
    (wired : settings.webhookUrl = some url) (signed : settings.hmacSecret = some secret)
    (adapter : AdapterKind) (context : Option RequestContext) (row : OutboxRow) :
    ∃ data, runAlone (chatSystem wiring settings) answers
        (callAdapter (chatDeployment wiring settings) adapter (sendInvocation context row)) world =
        some (.ok (.ok data), world) ∧
      (data.field "sent").truthy = accepts (bodyOf row) := by
  obtain ⟨data, sent, verdict⟩ := @sendMessage_alone wiring _ _ _ world _ _ receives
    wired signed context row
  refine ⟨data, ?_, verdict⟩
  have own : (chatDeployment wiring settings).adapter ⟨"cskh-chat", adapter⟩ context
      "send-message" (sendInvocation context row).params =
        CskhChatAdapter.execute settings "send-message" (sendInvocation context row).params := by
    simp [chatDeployment]
  unfold callAdapter
  rw [runAlone_bind, runAlone_attempt]
  change (Option.map _ (runAlone _ _ ((chatDeployment wiring settings).adapter
    ⟨"cskh-chat", adapter⟩ context "send-message" _) _)).bind _ = _
  rw [own, sent]
  rfl

/-- What follows a send touches the caches of the registry only. -/
theorem postProcess_alone {later : World chat} (same : SameService world later)
    (context : Option RequestContext) (row : OutboxRow) (entry : PortEntry) (data : JsValue) :
    ∃ final, runAlone (chatSystem wiring settings) answers
        (postProcess (chatDeployment wiring settings) (sendInvocation context row) entry data)
        later = some (.ok (), final) ∧ SameService world final := by
  have mutation : isMutationMethod "send-message" = true := by decide
  have sending : isMutationMethod (sendInvocation context row).method = true := mutation
  have unwritten : writeCache (chatDeployment wiring settings) (sendInvocation context row) entry
      data = .done () := by
    unfold writeCache
    rw [if_neg]
    simp [shouldCache, sending]
  have recorded : recordResult (chatDeployment wiring settings) (sendInvocation context row)
      data = .done () := rfl
  have steps : postProcess (chatDeployment wiring settings) (sendInvocation context row) entry
      data = (invalidatePort (chatDeployment wiring settings) (sendInvocation context row) >>=
        fun _ => fillSlot (sendInvocation context row) data) := by
    unfold postProcess
    rw [unwritten, recorded, if_pos sending]
    rfl
  have filled : ∀ before, SameService world before → ∃ final,
      runAlone (chatSystem wiring settings) answers
        (fillSlot (sendInvocation context row) data : ChatTask Unit) before =
          some (.ok (), final) ∧ SameService world final := by
    intro before same
    exact ⟨_, rfl, ⟨same.online.registered, same.online.closed, same.online.reachable⟩,
      same.service, same.now⟩
  rw [steps, runAlone_bind]
  unfold invalidatePort
  cases (chatDeployment wiring settings).backend.kind with
  | memory =>
      exact filled _ ⟨⟨same.online.registered, same.online.closed, same.online.reachable⟩,
        same.service, same.now⟩
  | redis => exact filled later same

/-- A registered port is looked up once, before anything else. -/
theorem execute_registered {invocation : Invocation} {entry : PortEntry}
    (registered : world.ports.get? invocation.portName = some entry) :
    runAlone (chatSystem wiring settings) answers
        (PortRegistry.execute (chatDeployment wiring settings) invocation) world =
      runAlone (chatSystem wiring settings) answers
        (executeRegistered (chatDeployment wiring settings) invocation entry
          (adapterUsed world invocation.portName) world.now) world := by
  unfold PortRegistry.execute
  rw [runAlone_note, runAlone_read]
  simp only [registered]

/-- The registry passes the verdict on. -/
theorem execute_alone {url secret : String} (receives : Receives accepts answers)
    (wired : settings.webhookUrl = some url) (signed : settings.hmacSecret = some secret)
    (online : Online world) (context : Option RequestContext) (row : OutboxRow) :
    ∃ result later, runAlone (chatSystem wiring settings) answers
        (PortRegistry.execute (chatDeployment wiring settings) (sendInvocation context row))
        world = some (.ok result, later) ∧
      (result.data.field "sent").truthy = accepts (bodyOf row) ∧ SameService world later := by
  obtain ⟨entry, registered⟩ := Option.isSome_iff_exists.mp online.registered
  let adapter := adapterUsed world "cskh-chat"
  let admitted := admitProbe "cskh-chat" world
  have closed : rejectsNow world "cskh-chat" = false := by
    unfold rejectsNow
    cases found : world.circuitBreakers.get? "cskh-chat" with
    | none => rfl
    | some breaker => simp [online.closed breaker found]
  have probed : SameService world admitted :=
    SameService.setBreaker ⟨online, rfl, rfl⟩ fun breaker closed => by simp [closed]
  have noted : SameService world (noteSuccess "cskh-chat" admitted) :=
    probed.setBreaker fun breaker closed => closed_recordSuccess _ closed
  obtain ⟨data, called, verdict⟩ := @callAdapter_alone wiring _ _ _ admitted _ _
    receives wired signed adapter context row
  obtain ⟨final, processed, kept⟩ := @postProcess_alone wiring settings
    answers _ _ noted context row entry data
  let result : PortResult :=
    { data := data
      adapterUsed := adapter
      fromCache := false
      duration := admitted.now - world.now
      metadata := none }
  have passed : runAlone (chatSystem wiring settings) answers
      (executeThroughBreaker (chatDeployment wiring settings) (sendInvocation context row) entry
        adapter world.now) world = some (.ok result, final) := by
    unfold executeThroughBreaker
    rw [runAlone_read]
    change runAlone (chatSystem wiring settings) answers
      (if rejectsNow world "cskh-chat" = true then _ else _) world = _
    rw [closed, if_neg Bool.false_ne_true, runAlone_modify, runAlone_bind]
    change (runAlone (chatSystem wiring settings) answers _ admitted).bind _ = _
    rw [called]
    change runAlone (chatSystem wiring settings) answers
      (postProcess (chatDeployment wiring settings) (sendInvocation context row) entry data >>=
        fun _ => pure result) (noteSuccess "cskh-chat" admitted) = _
    rw [runAlone_bind, processed]
    rfl
  have uncached : shouldCache entry "send-message" = false := by
    have sending : isMutationMethod "send-message" = true := by decide
    simp [shouldCache, sending]
  have chosen : executeRegistered (chatDeployment wiring settings) (sendInvocation context row)
      entry adapter world.now =
        executeThroughBreaker (chatDeployment wiring settings) (sendInvocation context row) entry
          adapter world.now := by
    change executeThroughCache (chatDeployment wiring settings) (sendInvocation context row) entry
      adapter world.now = _
    unfold executeThroughCache
    rw [if_neg]
    simpa [sendInvocation] using uncached
  refine ⟨result, final, ?_, verdict, kept⟩
  rw [execute_registered registered]
  change runAlone (chatSystem wiring settings) answers (executeRegistered _ _ entry adapter _)
    world = _
  rw [chosen]
  exact passed

theorem SameService.trans {first second third : World chat} (early : SameService first second)
    (late : SameService second third) : SameService first third :=
  ⟨late.online, late.service.trans early.service, late.now.trans early.now⟩

/-- A world in which the table has changed. -/
structure SameButTable (world later : World chat) (outbox : List OutboxRow) : Prop where
  online : Online later
  outbox : later.service.outbox = outbox
  now : later.now = world.now

theorem forwardRow_alone {url secret : String} (receives : Receives accepts answers)
    (wired : settings.webhookUrl = some url) (signed : settings.hmacSecret = some secret)
    (online : Online world) (context : Option RequestContext) (row : OutboxRow) :
    ∃ later, runAlone (chatSystem wiring settings) answers
        (forwardRow (chatDeployment wiring settings) context row) world =
        some (.ok (accepts (bodyOf row)), later) ∧
      SameButTable world later (if accepts (bodyOf row) then
        setForwarded row.messageId world.now world.service.outbox else world.service.outbox) := by
  obtain ⟨result, later, executed, verdict, same⟩ := @execute_alone wiring _ _ _ _ _ _ receives
    wired signed online context row
  unfold forwardRow
  rw [runAlone_bind, executed]
  cases accepted : accepts (bodyOf row) with
  | false =>
      rw [accepted] at verdict
      refine ⟨later, ?_, same.online, congrArg ChatState.outbox same.service, same.now⟩
      change runAlone _ _ (if (result.data.field "sent").truthy = true then _ else _) later = _
      rw [verdict]
      rfl
  | true =>
      rw [accepted] at verdict
      refine ⟨{ later with service := { later.service with
        outbox := setForwarded row.messageId world.now world.service.outbox } }, ?_,
        ⟨same.online.registered, same.online.closed, same.online.reachable⟩, rfl, same.now⟩
      change runAlone _ _ (if (result.data.field "sent").truthy = true then _ else _) later = _
      rw [verdict, if_pos rfl, runAlone_read]
      have performed : (chatSystem wiring settings).perform later
          (.inr (.markForwarded row.messageId later.now)) (Reply.ok ()) =
            some { later with service := { later.service with
              outbox := setForwarded row.messageId world.now world.service.outbox } } := by
        rw [← same.now, ← same.service]
        rfl
      exact runAlone_await _ _ (receives.stored later row.messageId later.now) performed

/-- The rows of the batch are marked one after the other. -/
theorem forwardRows_alone {url secret : String} (receives : Receives accepts answers)
    (wired : settings.webhookUrl = some url) (signed : settings.hmacSecret = some secret)
    (context : Option RequestContext) (batch : List OutboxRow) (online : Online world)
    (forwarded : Nat) :
    ∃ total later, runAlone (chatSystem wiring settings) answers
        (forwardRows (chatDeployment wiring settings) context batch forwarded) world =
        some (.ok total, later) ∧
      SameButTable world later
        (markRows (fun row => accepts (bodyOf row)) world.now batch world.service.outbox) := by
  induction batch generalizing world forwarded with
  | nil => exact ⟨forwarded, world, rfl, online, rfl, rfl⟩
  | cons row rest ih =>
      obtain ⟨later, ran, same⟩ := @forwardRow_alone wiring _ _ _ _ _ _ receives wired signed online
        context row
      have goesOn : runAlone (chatSystem wiring settings) answers
          (forwardRows (chatDeployment wiring settings) context (row :: rest) forwarded) world =
          runAlone (chatSystem wiring settings) answers
            (forwardRows (chatDeployment wiring settings) context rest
              (if accepts (bodyOf row) then forwarded + 1 else forwarded)) later := by
        rw [forwardRows, runAlone_bind, runAlone_attempt, ran]
        cases accepts (bodyOf row) <;> rfl
      obtain ⟨total, final, ended, kept⟩ := ih same.online
        (if accepts (bodyOf row) then forwarded + 1 else forwarded)
      refine ⟨total, final, goesOn.trans ended, kept.online, ?_, kept.now.trans same.now⟩
      rw [kept.outbox, same.now, same.outbox]
      rfl

theorem wireReachable_alone (receives : Receives accepts answers) (online : Online world) :
    ∃ later, runAlone (chatSystem wiring settings) answers (wireReachable settings) world =
        some (.ok true, later) ∧ SameButTable world later world.service.outbox := by
  unfold wireReachable
  cases settings.wire with
  | none => exact ⟨world, rfl, online, rfl, rfl⟩
  | some wire =>
      rw [runAlone_read]
      by_cases recent : world.now - world.service.probeAt < PROBE_CACHE_MS
      · refine ⟨world, ?_, online, rfl, rfl⟩
        rw [if_pos recent, online.reachable]
        rfl
      · rw [if_neg recent, runAlone_modify]
        let state : ChatState := { world.service with probeAt := world.now }
        let probing : World chat := { world with service := state }
        refine ⟨{ probing with service := { state with probeOk := true } }, ?_,
          ⟨online.registered, online.closed, rfl⟩, rfl, rfl⟩
        exact runAlone_await _ _ (receives.probed probing wire.1 wire.2) rfl

/-- A flush works off one batch of the table. -/
theorem flushOnce_alone {url secret : String} (receives : Receives accepts answers)
    (wired : settings.webhookUrl = some url) (signed : settings.hmacSecret = some secret)
    (context : Option RequestContext) (online : Online world) :
    ∃ total later, runAlone (chatSystem wiring settings) answers
        (flushOnce (chatDeployment wiring settings) settings context) world =
        some (.ok total, later) ∧
      SameButTable world later (markRows (fun row => accepts (bodyOf row)) world.now
        (pendingRows world.service.outbox FLUSH_BATCH) world.service.outbox) := by
  obtain ⟨probed, reached, same⟩ := @wireReachable_alone wiring settings _ _ _
    receives online
  obtain ⟨total, later, ended, kept⟩ := @forwardRows_alone wiring _ _ _ _ _ _ receives wired signed
    context (pendingRows world.service.outbox FLUSH_BATCH) same.online 0
  refine ⟨total, later, ?_, kept.online, ?_, kept.now.trans same.now⟩
  · have listed : pendingRows world.service.outbox FLUSH_BATCH =
        pendingRows probed.service.outbox FLUSH_BATCH := by
      rw [same.outbox]
    have selected := receives.selected probed FLUSH_BATCH
    rw [← listed] at selected
    have performed : (chatSystem wiring settings).perform probed
        (.inr (.selectPending FLUSH_BATCH))
        (Reply.ok (pendingRows world.service.outbox FLUSH_BATCH)) = some probed :=
      congrArg (Option.map _) (if_pos listed)
    have asked : runAlone (chatSystem wiring settings) answers
        (flushOnce (chatDeployment wiring settings) settings context) world =
        runAlone (chatSystem wiring settings) answers
          (.await (.inr (.selectPending FLUSH_BATCH)) fun answer =>
            match (answer : Reply (List OutboxRow)) with
            | .ok pending => forwardRows (chatDeployment wiring settings) context pending 0
            | .failed _ reason => .fail (.error reason)) probed := by
      unfold flushOnce
      rw [runAlone_bind, reached]
      rfl
    rw [asked, runAlone_await _ _ selected performed]
    exact ended
  · rw [kept.outbox, same.outbox, same.now]

end Flushes

/-! ### Flush after flush -/

section Runs

variable (wiring : Wiring) (settings : ChatSettings) (answers : Answering (portSignature chat))
variable (context : Option RequestContext)

/-- One flush after the other; each begins at its time. -/
def flushes : List Nat → World chat → Option (World chat)
  | [], world => some world
  | moment :: later, world =>
      (runAlone (chatSystem wiring settings) answers
        (flushOnce (chatDeployment wiring settings) settings context)
        { world with now := moment }).bind fun ended => flushes later ended.2

/-- The message is marked as forwarded. -/
def Forwarded (messageId : String) (rows : List OutboxRow) : Prop :=
  ∃ later ∈ rows, later.messageId = messageId ∧ later.forwardedAt.isSome = true

/-- How many of the rows that are selected before this one are refused. -/
def refusedAhead (accepts : JsValue → Bool) (row : OutboxRow) (rows : List OutboxRow) : Nat :=
  Batches.refusals (fun other => accepts (bodyOf other)) (Batches.ahead row (waiting rows))

variable {wiring settings answers context} {accepts : JsValue → Bool} {world : World chat}

theorem rowsKept_markRows (sends : OutboxRow → Bool) (time : Nat) (batch rows : List OutboxRow) :
    RowsKept rows (markRows sends time batch rows) := by
  induction batch generalizing rows with
  | nil => exact .refl rows
  | cons sent rest ih =>
      refine RowsKept.trans ?_ (ih _)
      cases sends sent with
      | false => exact .refl rows
      | true => exact rowsKept_setForwarded sent.messageId time rows

theorem flushes_advance {url secret : String} (receives : Receives accepts answers)
    (wired : settings.webhookUrl = some url) (signed : settings.hmacSecret = some secret)
    (moments : List Nat) (online : Online world) (keys : DistinctKeys world.service.outbox) :
    ∃ final, flushes wiring settings answers context moments world = some final ∧
      DistinctKeys final.service.outbox ∧ RowsKept world.service.outbox final.service.outbox ∧
      waiting final.service.outbox =
        (Batches.advance FLUSH_BATCH fun row => accepts (bodyOf row))^[moments.length]
          (waiting world.service.outbox) := by
  induction moments generalizing world with
  | nil => exact ⟨world, rfl, keys, .refl _, rfl⟩
  | cons moment later ih =>
      obtain ⟨total, flushed, ran, same⟩ := @flushOnce_alone wiring _ _ _
        { world with now := moment } _ _ receives wired signed context
        ⟨online.registered, online.closed, online.reachable⟩
      have table := same.outbox
      have distinct : DistinctKeys flushed.service.outbox := by
        rw [table]
        exact distinct_markRows _ keys
      obtain ⟨final, ended, last, kept, left⟩ := ih same.online distinct
      refine ⟨final, ?_, last, ?_, ?_⟩
      · rw [flushes, ran]
        exact ended
      · refine RowsKept.trans ?_ kept
        rw [table]
        exact rowsKept_markRows _ moment _ _
      · rw [left, table, List.length_cons, Function.iterate_succ_apply]
        exact congrArg _ (waiting_flushed _ moment FLUSH_BATCH keys)

theorem mem_waiting {row : OutboxRow} {rows : List OutboxRow} :
    row ∈ waiting rows ↔ row ∈ rows ∧ row.forwardedAt = none := by
  unfold waiting byCreation
  rw [List.mem_insertionSort, List.mem_filter, Option.isNone_iff_eq_none]

/-- A row that was waiting is forwarded when it does not wait any more. -/
theorem forwarded_iff {row : OutboxRow} {before after : List OutboxRow}
    (kept : RowsKept before after) (keys : DistinctKeys after) (member : row ∈ before)
    (pending : row.forwardedAt = none) :
    Forwarded row.messageId after ↔ row ∉ waiting after := by
  constructor
  · intro forwarded waits
    obtain ⟨later, listed, same, done⟩ := forwarded
    have present := mem_waiting.mp waits
    have itself := List.inj_on_of_nodup_map keys listed present.1 same
    rw [itself, pending] at done
    cases done
  · intro gone
    obtain ⟨later, listed, onwards⟩ := kept row member
    refine ⟨later, listed, onwards.messageId, ?_⟩
    cases stamped : later.forwardedAt with
    | some time => rfl
    | none =>
        have same : later = row := by
          cases row
          cases later
          simp_all only [OutboxRow.mk.injEq]
          exact ⟨onwards.messageId, onwards.userId, onwards.text, onwards.createdAt, trivial⟩
        exact absurd (mem_waiting.mpr ⟨same ▸ listed, pending⟩) gone

/-- After as many flushes as there are messages waiting, a message that the receiver accepts has
been forwarded if and only if the refused ones ahead of it do not fill a batch. -/
theorem forwarded_iff_few_refused {url secret : String} {row : OutboxRow} {moments : List Nat}
    (receives : Receives accepts answers) (wired : settings.webhookUrl = some url)
    (signed : settings.hmacSecret = some secret) (online : Online world)
    (keys : DistinctKeys world.service.outbox) (member : row ∈ world.service.outbox)
    (pending : row.forwardedAt = none) (accepted : accepts (bodyOf row) = true)
    (enough : (waiting world.service.outbox).length ≤ moments.length) :
    (∃ final, flushes wiring settings answers context moments world = some final ∧
      Forwarded row.messageId final.service.outbox) ↔
      refusedAhead accepts row world.service.outbox < FLUSH_BATCH := by
  obtain ⟨final, ended, last, kept, left⟩ := @flushes_advance wiring _ _
    context _ _ _ _ receives wired signed moments online keys
  have distinct : (waiting world.service.outbox).Nodup :=
    List.Nodup.of_map OutboxRow.messageId (distinct_waiting keys)
  have leaves := @Batches.left_iff _ _ FLUSH_BATCH (fun row => accepts (bodyOf row)) _ _ distinct
    (mem_waiting.mpr ⟨member, pending⟩) accepted _ enough
  unfold refusedAhead
  rw [← leaves, ← left, ← forwarded_iff kept last member pending]
  constructor
  · intro sent
    obtain ⟨other, reached, forwarded⟩ := sent
    have same : final = other := Option.some.inj (ended.symm.trans reached)
    exact same ▸ forwarded
  · exact fun forwarded => ⟨final, ended, forwarded⟩

end Runs

/-! ### A full batch of refused messages -/

/-- A receiver that takes only the messages it accepts, and answers all others with 401. -/
def receiver (accepts : JsValue → Bool) : Answering (portSignature chat)
  | world, .inl (.cache command) => chatWiring.backend.reliable world.now world.cache command
  | _, .inl (.adapter _ _ _ _) => .error (.error "unavailable")
  | _, .inl (.queueAdd _) => Reply.ok none
  | _, .inr (.probe _ _) => true
  | _, .inr .randomUUID => "1b4e28ba-2fa1-41d2-883f-0016d3cca427"
  | _, .inr (.fetch request) =>
      if accepts request.body then FetchOutcome.response 200 "OK" none
      else FetchOutcome.response 401 "Unauthorized" none
  | _, .inr (.insert _) => Reply.ok ()
  | world, .inr (.selectPending limit) => Reply.ok (pendingRows world.service.outbox limit)
  | world, .inr (.selectByUser userId) =>
      Reply.ok (byCreation (world.service.outbox.filter fun row => row.userId = userId))
  | _, .inr (.markForwarded _ _) => Reply.ok ()

theorem receives_receiver (accepts : JsValue → Bool) : Receives accepts (receiver accepts) := by
  constructor
  · intro world request accepted
    refine ⟨200, "OK", none, ?_, by decide⟩
    exact if_pos accepted
  · intro world request refused
    refine ⟨401, "Unauthorized", none, ?_, Or.inl rfl⟩
    exact if_neg (by simp [refused])
  · exact fun _ _ _ => rfl
  · exact fun _ _ => rfl
  · exact fun _ _ _ => rfl

def onlyFirst (body : JsValue) : Bool := body = bodyOf firstRow

def refusedRow (index : Nat) : OutboxRow :=
  ⟨"R-" ++ toString index, "U-9", "Xin chao", 1699999900000 + index, none⟩

/-- Fifty messages are refused, and the next one would be accepted. -/
def crowd : List OutboxRow := (List.range 50).map refusedRow

def crowdedWorld : World chat :=
  register "cskh-chat" (bareWorld 1700000000000 .empty apiEndpoints
    ⟨crowd ++ [firstRow], true, 0⟩)

theorem online_register (now : Nat) (state : ChatState) (probed : state.probeOk = true) :
    Online (register "cskh-chat" (bareWorld now .empty apiEndpoints state)) := by
  refine ⟨?_, ?_, probed⟩
  · exact congrArg Option.isSome (OrderedMap.get?_set_self _ "cskh-chat" _)
  · intro breaker known
    have set : some _ = some breaker := (OrderedMap.get?_set_self _ "cskh-chat" _).symm.trans known
    rw [← Option.some.inj set]
    rfl

/-- However often the outbox is flushed, the message that would be accepted is not sent. -/
theorem never_forwarded_behind_crowd : ∀ moments, ∃ final,
    flushes chatWiring chatSettings (receiver onlyFirst) none moments crowdedWorld = some final ∧
      ¬ Forwarded firstRow.messageId final.service.outbox := by
  intro moments
  have keys : ((crowd ++ [firstRow]).map OutboxRow.messageId).Nodup := by decide +kernel
  have queue : waiting (crowd ++ [firstRow]) = crowd ++ firstRow :: [] := by decide +kernel
  have many : FLUSH_BATCH ≤ Batches.refusals (fun row => onlyFirst (bodyOf row)) crowd := by
    decide +kernel
  obtain ⟨final, ended, last, kept, left⟩ := @flushes_advance chatWiring
    chatSettings _ none _ _ _ _ (receives_receiver onlyFirst) rfl rfl moments
    (online_register 1700000000000 ⟨crowd ++ [firstRow], true, 0⟩ rfl) keys
  have table : crowdedWorld.service.outbox = crowd ++ [firstRow] := rfl
  refine ⟨final, ended, ?_⟩
  rw [forwarded_iff kept last (List.mem_append_right crowd List.mem_cons_self) rfl, left]
  have waits := @Batches.waits _ _ _ firstRow [] moments.length _ many
  rw [← queue] at waits
  exact not_not_intro waits

/-- As many flushes as there are pending messages. -/
theorem not_forwarded_behind_crowd : ∃ final,
    flushes chatWiring chatSettings (receiver onlyFirst) none
      ((List.range 51).map fun index => 1700000000000 + 10000 * index) crowdedWorld = some final ∧
      ¬ Forwarded firstRow.messageId final.service.outbox :=
  never_forwarded_behind_crowd _

/-- The first message is refused, and the second one is sent nevertheless. -/
theorem forwarded_iff_few_refused_second :
    ∃ final, flushes chatWiring chatSettings (receiver fun body => body = bodyOf secondRow) none
      [1700000000000, 1700000010000] waitingWorld = some final ∧
      Forwarded secondRow.messageId final.service.outbox :=
  (forwarded_iff_few_refused (receives_receiver fun body => body = bodyOf secondRow)
    rfl rfl
    (online_register 1700000000000 ⟨[firstRow, secondRow], true, 0⟩ rfl)
    (by unfold DistinctKeys; decide +kernel) (by decide +kernel) rfl (by decide +kernel)
    (by decide +kernel)).mpr
    (by decide +kernel)

end SelfService
