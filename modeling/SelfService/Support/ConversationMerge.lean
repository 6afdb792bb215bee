/-
What a customer sees of a conversation.

The thread that the chat port answers with is merged with the customer's rows of the outbox.
The two are joined by identifier and ordered by the text of a timestamp.  The registry decides
which thread that is: while the receiver is down, the port's slot is answered, whatever call
has filled it.
-/

import SelfService.Support.HeadOfLine
import Mathlib.Data.List.Pairwise
import Mathlib.Data.String.Basic

namespace SelfService

open Data EventLoop PortRegistry SupportService

/-! ### Two orders -/

section Orders

variable {α κ τ : Type} [LinearOrder κ] [LinearOrder τ]

/-- A list that is ordered by a key is ordered by the time of the key where the key does not
contradict the time. -/
theorem pairwise_time_iff (key : α → κ) (time : κ → τ) {items : List α}
    (sorted : items.Pairwise fun left right => key left ≤ key right) :
    (items.Pairwise fun left right => time (key left) ≤ time (key right)) ↔
      ∀ left ∈ items, ∀ right ∈ items, key left < key right →
        time (key left) ≤ time (key right) := by
  constructor
  · intro timed
    let agree (left right : α) : Prop :=
      (key left < key right → time (key left) ≤ time (key right)) ∧
        (key right < key left → time (key right) ≤ time (key left))
    have symmetric : Std.Symm agree := ⟨fun _ _ both => ⟨both.2, both.1⟩⟩
    have itself : ∀ item ∈ items, agree item item := by
      intro item _
      exact ⟨fun _ => le_refl _, fun _ => le_refl _⟩
    have forward : items.Pairwise agree := by
      apply (sorted.and timed).imp
      intro left right both
      exact ⟨fun _ => both.2, fun less => absurd less (not_lt_of_ge both.1)⟩
    intro left early right late less
    exact (List.Pairwise.forall_of_forall itself forward early late).1 less
  · intro agrees
    apply sorted.imp_of_mem
    intro left right early late ordered
    rcases eq_or_lt_of_le ordered with same | less
    · rw [same]
    · exact agrees left early right late less

theorem countP_key_eq_one {κ : Type} [DecidableEq κ] (key : α → κ) {items : List α} {item : α}
    (distinct : (items.map key).Nodup) (member : item ∈ items) :
    items.countP (fun other => key other = key item) = 1 := by
  have counted := List.count_eq_one_of_mem distinct (List.mem_map_of_mem member)
  rw [List.count, List.countP_map] at counted
  rw [← counted]
  apply List.countP_congr
  intro other _
  simp

end Orders

/-! ### Threads -/

/-- A message of a thread at the receiver, as its type declares it. -/
structure ChatMessage where
  value : JsValue
  id : String
  createdAt : String
  hasId : value.field "id" = .str id
  hasCreatedAt : value.field "createdAt" = .str createdAt

/-- The message that a row is shown as. -/
def OutboxRow.message (row : OutboxRow) : ChatMessage where
  value := localMessage row
  id := row.messageId
  createdAt := JsValue.toISOString row.createdAt
  hasId := rfl
  hasCreatedAt := rfl

/-- The customer's rows, as they are selected. -/
def rowsOf (userId : String) (outbox : List OutboxRow) : List OutboxRow :=
  byCreation (outbox.filter fun row => row.userId = userId)

/-- The messages of a thread, and of the port's answer; a missing list is empty. -/
def messagesOf (data : JsValue) : List JsValue :=
  match data.field "messages" with
  | .arr items => items
  | _ => []

/-- How often a message with this identifier stands in a list. -/
def timesShown (messageId : String) (messages : List JsValue) : Nat :=
  messages.countP fun message => message.field "id" = .str messageId

/-- What the order of a thread looks at. -/
def creationText (message : JsValue) : String := (creationOf message).getD ""

/-- The message stands in the thread that the receiver keeps for the customer, or in the
customer's part of the outbox. -/
def BelongsTo (own : List ChatMessage) (rows : List OutboxRow) (message : JsValue) : Prop :=
  ∃ known ∈ own ++ rows.map OutboxRow.message, known.value = message

/-- The rows of a customer are merged into what was served: every row is shown once, every
served message of the customer is shown, nothing of anybody else is, and the messages are
ordered by their instants. -/
structure CompleteThread (own : List ChatMessage) (instant : String → Nat)
    (rows : List OutboxRow) (served messages : List JsValue) : Prop where
  once : ∀ row ∈ rows, timesShown row.messageId messages = 1
  served : ∀ message ∈ served, BelongsTo own [] message → message ∈ messages
  belongs : ∀ message ∈ messages, BelongsTo own rows message
  ordered : messages.Pairwise fun left right =>
    instant (creationText left) ≤ instant (creationText right)

/-- A message was served, or it is a row that no served message has the identifier of. -/
def OfferedMessage (served : List JsValue) (rows : List OutboxRow) (message : JsValue) : Prop :=
  message ∈ served ∨
    ∃ row ∈ rows, timesShown row.messageId served = 0 ∧ localMessage row = message

/-- The port has answered with the customer's own thread: a list or nothing, in which no row is
repeated, and whose timestamps are ordered as texts the way they are ordered in time. -/
structure OwnThread (own : List ChatMessage) (instant : String → Nat)
    (rows : List OutboxRow) (data : JsValue) : Prop where
  listed : (data.field "messages").isNullish = true ∨
    ∃ items, data.field "messages" = .arr items
  belongs : ∀ message ∈ messagesOf data, BelongsTo own rows message
  once : ∀ row ∈ rows, timesShown row.messageId (messagesOf data) ≤ 1
  dated : ∀ left right, OfferedMessage (messagesOf data) rows left →
    OfferedMessage (messagesOf data) rows right → creationText left < creationText right →
      instant (creationText left) ≤ instant (creationText right)

/-! ### The merge -/

section Merges

variable {own : List ChatMessage} {instant : String → Nat} {rows : List OutboxRow}
variable {served : List JsValue} {data : JsValue}

/-- What is sorted. -/
def joined (served : List JsValue) (rows : List OutboxRow) : List JsValue :=
  served ++ (rows.filter fun row =>
    !(served.map (JsValue.field "id")).contains (.str row.messageId)).map localMessage

theorem contains_iff (messageId : String) (served : List JsValue) :
    (served.map (JsValue.field "id")).contains (.str messageId) = true ↔
      timesShown messageId served ≠ 0 := by
  unfold timesShown
  rw [List.contains_iff_mem, List.mem_map, ← Nat.pos_iff_ne_zero, List.countP_pos_iff]
  simp only [decide_eq_true_eq]

theorem mem_unseen {row : OutboxRow} :
    row ∈ rows.filter (fun row =>
      !(served.map (JsValue.field "id")).contains (.str row.messageId)) ↔
      row ∈ rows ∧ timesShown row.messageId served = 0 := by
  rw [List.mem_filter, Bool.not_eq_true', ← Bool.not_eq_true, contains_iff, not_not]

theorem mem_joined {message : JsValue} :
    message ∈ joined served rows ↔ OfferedMessage served rows message := by
  unfold joined OfferedMessage
  rw [List.mem_append, List.mem_map]
  apply or_congr_right
  constructor
  · intro found
    obtain ⟨row, unseen, shown⟩ := found
    exact ⟨row, (mem_unseen.mp unseen).1, (mem_unseen.mp unseen).2, shown⟩
  · intro found
    obtain ⟨row, member, absent, shown⟩ := found
    exact ⟨row, mem_unseen.mpr ⟨member, absent⟩, shown⟩

theorem timesShown_append (messageId : String) (first second : List JsValue) :
    timesShown messageId (first ++ second) =
      timesShown messageId first + timesShown messageId second :=
  List.countP_append

theorem timesShown_local (messageId : String) (rows : List OutboxRow) :
    timesShown messageId (rows.map localMessage) =
      rows.countP fun row => row.messageId = messageId := by
  unfold timesShown
  rw [List.countP_map]
  apply List.countP_congr
  intro row _
  have field : (localMessage row).field "id" = .str row.messageId := rfl
  simp [field]

/-- A row is added where it is missing, and nowhere else. -/
theorem timesShown_joined {row : OutboxRow} (keys : DistinctKeys rows) (member : row ∈ rows) :
    timesShown row.messageId (joined served rows) = max 1 (timesShown row.messageId served) := by
  unfold joined
  rw [timesShown_append, timesShown_local]
  by_cases absent : timesShown row.messageId served = 0
  · have unseen := (@mem_unseen rows served row).mpr ⟨member, absent⟩
    have added := countP_key_eq_one OutboxRow.messageId
      (keys.sublist (List.filter_sublist.map OutboxRow.messageId)) unseen
    rw [absent, added]
    rfl
  · have nothing : (rows.filter fun row =>
        !(served.map (JsValue.field "id")).contains (.str row.messageId)).countP
          (fun other => other.messageId = row.messageId) = 0 := by
      rw [List.countP_eq_zero]
      intro other unseen
      have missing := (mem_unseen.mp unseen).2
      intro same
      rw [of_decide_eq_true same] at missing
      exact absent missing
    rw [nothing]
    omega

theorem dated_of_belongs {message : JsValue} (belongs : BelongsTo own rows message) :
    (creationOf message).isSome = true := by
  obtain ⟨known, -, same⟩ := belongs
  rw [← same, creationOf, known.hasCreatedAt]
  rfl

theorem sortThread_eq_some {messages sorted : List JsValue}
    (done : sortThread messages = some sorted) :
    sorted = messages.insertionSort fun left right => creationText left ≤ creationText right := by
  unfold sortThread at done
  split at done
  · exact (Option.some.inj done).symm
  · cases done

theorem mergeThread_eq (listed : (data.field "messages").isNullish = true ∨
      ∃ items, data.field "messages" = .arr items) :
    mergeThread data rows = (sortThread (joined (messagesOf data) rows)).map fun messages =>
      .obj [("conversationId", if (data.field "conversationId").isNullish then .null
          else data.field "conversationId"),
        ("messages", .arr messages)] := by
  unfold mergeThread messagesOf
  rcases listed with nothing | ⟨items, listed⟩
  · cases read : data.field "messages" with
    | undefined => rfl
    | null => rfl
    | _ => rw [read] at nothing; cases nothing
  · rw [listed]
    rfl

theorem listed_of_mergeThread {thread : JsValue} (done : mergeThread data rows = some thread) :
    (data.field "messages").isNullish = true ∨ ∃ items, data.field "messages" = .arr items := by
  unfold mergeThread at done
  cases read : data.field "messages" with
  | arr items => exact Or.inr ⟨items, rfl⟩
  | undefined => exact Or.inl rfl
  | null => exact Or.inl rfl
  | _ => rw [read] at done; cases done

theorem sorted_joined (messages : List JsValue) :
    (messages.insertionSort fun left right => creationText left ≤ creationText right).Pairwise
      fun left right => creationText left ≤ creationText right :=
  List.pairwise_insertionSort (fun left right => creationText left ≤ creationText right) messages

theorem timesShown_sorted (messageId : String) (messages : List JsValue) :
    timesShown messageId
        (messages.insertionSort fun left right => creationText left ≤ creationText right) =
      timesShown messageId messages :=
  (List.perm_insertionSort (fun left right => creationText left ≤ creationText right)
    messages).countP_eq _

/-- The merge is complete exactly where the port has answered with the customer's thread. -/
theorem mergeThread_complete_iff (keys : DistinctKeys rows) :
    (∃ thread, mergeThread data rows = some thread ∧
      CompleteThread own instant rows (messagesOf data) (messagesOf thread)) ↔
      OwnThread own instant rows data := by
  constructor
  · intro shown
    obtain ⟨thread, done, complete⟩ := shown
    have listed := listed_of_mergeThread done
    rw [mergeThread_eq listed] at done
    obtain ⟨messages, sorted, same⟩ := Option.map_eq_some_iff.mp done
    have contents : messagesOf thread = messages := same ▸ rfl
    rw [contents] at complete
    have arranged := sortThread_eq_some sorted
    have members : ∀ message, message ∈ messages ↔
        OfferedMessage (messagesOf data) rows message := by
      intro message
      rw [arranged, List.mem_insertionSort, mem_joined]
    constructor
    · exact listed
    · exact fun message member => complete.belongs message ((members message).mpr (.inl member))
    · intro row member
      have all := complete.once row member
      rw [arranged, timesShown_sorted, timesShown_joined keys member] at all
      omega
    · intro left right early late less
      have ordered := complete.ordered
      rw [arranged, pairwise_time_iff creationText instant (sorted_joined _), ← arranged] at ordered
      exact ordered left ((members left).mpr early) right ((members right).mpr late) less
  · intro thread
    have belongs : ∀ message, OfferedMessage (messagesOf data) rows message →
        BelongsTo own rows message := by
      intro message offered
      rcases offered with served | ⟨row, member, -, shown⟩
      · exact thread.belongs message served
      · exact ⟨row.message, List.mem_append_right own (List.mem_map_of_mem member), shown⟩
    have sorted : sortThread (joined (messagesOf data) rows) =
        some ((joined (messagesOf data) rows).insertionSort
          fun left right => creationText left ≤ creationText right) := by
      apply if_pos
      refine Or.inr (List.all_eq_true.mpr fun message member => ?_)
      exact dated_of_belongs (belongs message (mem_joined.mp member))
    refine ⟨_, by rw [mergeThread_eq thread.listed, sorted, Option.map_some], ?_⟩
    change CompleteThread own instant rows _ ((joined (messagesOf data) rows).insertionSort
      fun left right => creationText left ≤ creationText right)
    constructor
    · intro row member
      have few := thread.once row member
      rw [timesShown_sorted, timesShown_joined keys member]
      omega
    · intro message served _
      exact (List.mem_insertionSort _).mpr (mem_joined.mpr (.inl served))
    · intro message member
      exact belongs message (mem_joined.mp ((List.mem_insertionSort _).mp member))
    · rw [pairwise_time_iff creationText instant (sorted_joined _)]
      intro left early right late less
      exact thread.dated left right (mem_joined.mp ((List.mem_insertionSort _).mp early))
        (mem_joined.mp ((List.mem_insertionSort _).mp late)) less

theorem distinct_rowsOf (userId : String) {outbox : List OutboxRow} (keys : DistinctKeys outbox) :
    DistinctKeys (rowsOf userId outbox) := by
  have selected : ((outbox.filter fun row => row.userId = userId).map
      OutboxRow.messageId).Nodup := keys.sublist (List.filter_sublist.map OutboxRow.messageId)
  exact ((List.perm_insertionSort _ _).map OutboxRow.messageId).nodup_iff.mpr selected

end Merges

/-! ### The call -/

/-- What was served, if anything was. -/
def servedBy : Except Exn PortResult → List JsValue
  | .ok result => messagesOf result.data
  | .error _ => []

/-- The call answers, and its answer is complete. -/
def CompleteAnswer (own : List ChatMessage) (instant : String → Nat) (rows : List OutboxRow)
    (read : Except Exn PortResult) (answer : Except Exn JsValue) : Prop :=
  ∃ thread, answer = .ok thread ∧
    CompleteThread own instant rows (servedBy read) (messagesOf thread)

/-- The read has succeeded, and with the customer's own thread. -/
def ReadsOwnThread (own : List ChatMessage) (instant : String → Nat) (rows : List OutboxRow)
    (read : Except Exn PortResult) : Prop :=
  ∃ result, read = .ok result ∧ OwnThread own instant rows result.data

/-- What the outcome of the read and the selected rows are turned into. -/
def conversationOf (rows : List OutboxRow) : Except Exn PortResult → Except Exn JsValue
  | .error error => .error error
  | .ok result =>
      match mergeThread result.data rows with
      | some thread => .ok thread
      | none => .error (.error "TypeError")

theorem conversationOf_eq_ok {rows : List OutboxRow} {result : PortResult} {thread : JsValue} :
    conversationOf rows (.ok result) = .ok thread ↔
      mergeThread result.data rows = some thread := by
  cases merged : mergeThread result.data rows <;> simp [conversationOf, merged]

section Calls

variable {wiring : Wiring} {settings : ChatSettings} {answers : Answering (portSignature chat)}
variable {world later : World chat} {context : Option RequestContext} {userId : String}
variable {read : Except Exn PortResult}

theorem getConversation_alone
    (asked : runAlone (chatSystem wiring settings) answers
      (PortRegistry.execute (chatDeployment wiring settings)
        (conversationInvocation context userId)) world = some (read, later))
    (selected : answers later (.inr (.selectByUser userId)) =
      Reply.ok (rowsOf userId later.service.outbox)) :
    runAlone (chatSystem wiring settings) answers
      (getConversation (chatDeployment wiring settings) context userId) world =
        some (conversationOf (rowsOf userId later.service.outbox) read, later) := by
  unfold getConversation
  rw [runAlone_bind, asked, Option.bind_some]
  cases read with
  | error error => rfl
  | ok result =>
      have performed : (chatSystem wiring settings).perform later (.inr (.selectByUser userId))
          (Reply.ok (rowsOf userId later.service.outbox)) = some later :=
        congrArg (Option.map _) (if_pos rfl)
      change runAlone (chatSystem wiring settings) answers (.await (.inr (.selectByUser userId)) _)
        later = _
      rw [runAlone_await _ _ selected performed]
      change runAlone _ _ (match mergeThread result.data (rowsOf userId later.service.outbox) with
        | some thread => .done thread
        | none => .fail (.error "TypeError") : ChatTask JsValue) later = _
      cases merged : mergeThread result.data (rowsOf userId later.service.outbox) with
      | none => simp only [conversationOf, merged, runAlone]
      | some thread => simp only [conversationOf, merged, runAlone]

theorem completeAnswer_iff {own : List ChatMessage} {instant : String → Nat}
    {rows : List OutboxRow} (keys : DistinctKeys rows) :
    CompleteAnswer own instant rows read (conversationOf rows read) ↔
      ReadsOwnThread own instant rows read := by
  unfold CompleteAnswer ReadsOwnThread
  cases read with
  | error error => simp [conversationOf]
  | ok result =>
      have merges := @mergeThread_complete_iff own instant rows result.data keys
      simp only [Except.ok.injEq, exists_eq_left', servedBy, ← merges, conversationOf_eq_ok]

/-- For every user, every outbox and every outcome of the read, the conversation is complete if
and only if the read has succeeded with the customer's own thread. -/
theorem conversation_complete_iff (own : List ChatMessage) (instant : String → Nat)
    (asked : runAlone (chatSystem wiring settings) answers
      (PortRegistry.execute (chatDeployment wiring settings)
        (conversationInvocation context userId)) world = some (read, later))
    (selected : answers later (.inr (.selectByUser userId)) =
      Reply.ok (rowsOf userId later.service.outbox))
    (keys : DistinctKeys later.service.outbox) :
    (∃ answer, runAlone (chatSystem wiring settings) answers
        (getConversation (chatDeployment wiring settings) context userId) world =
          some (answer, later) ∧
      CompleteAnswer own instant (rowsOf userId later.service.outbox) read answer) ↔
      ReadsOwnThread own instant (rowsOf userId later.service.outbox) read := by
  rw [getConversation_alone asked selected, ← completeAnswer_iff (distinct_rowsOf userId keys)]
  constructor
  · intro complete
    obtain ⟨answer, answered, complete⟩ := complete
    cases answered
    exact complete
  · exact fun complete => ⟨_, rfl, complete⟩

end Calls

/-! ### An outage -/

section Outages

variable {wiring : Wiring} {settings : ChatSettings} {answers : Answering (portSignature chat)}
variable {world later : World chat} {context : Option RequestContext} {userId : String}

/-- Nothing is cached for this customer, and the breaker is open. -/
structure Outage (wiring : Wiring) (settings : ChatSettings)
    (answers : Answering (portSignature chat)) (userId : String) (world later : World chat) :
    Prop where
  registered : ∃ entry, world.ports.get? "cskh-chat" = some entry ∧
    entry.config.queuePolicy = .never ∧ shouldCache entry "get-conversation" = true
  missed : ∃ cached, cached.isNullish = true ∧ runAlone (chatSystem wiring settings) answers
    (CacheService.get (buildCacheKey (chatDeployment wiring settings) "cskh-chat"
      "get-conversation" (.obj [("userId", .str userId)]))) world = some (.ok cached, later)
  rejects : rejectsNow later "cskh-chat" = true
  installed : later.fallbacks.contains "cskh-chat" = true

/-- What a slot is worth to a read. -/
def slotRead (adapter : AdapterKind) (startTime now : Nat) (slot : JsValue) :
    Except Exn PortResult :=
  if slot.isNullish then
    .error (.portFallback "cskh-chat" (.error "Circuit breaker open for cskh-chat"))
  else
    .ok (degradedResult adapter startTime now
      "Service temporarily unavailable, serving cached data" slot)

/-- The port has one slot, and every customer is answered from it. -/
theorem execute_outage (outage : Outage wiring settings answers userId world later) :
    runAlone (chatSystem wiring settings) answers
      (PortRegistry.execute (chatDeployment wiring settings)
        (conversationInvocation context userId)) world =
      some (slotRead (adapterUsed world "cskh-chat") world.now later.now
        (FallbackProvider.getCached later "cskh-chat"), later) := by
  obtain ⟨entry, registered, unqueued, cacheable⟩ := outage.registered
  obtain ⟨cached, nothing, missed⟩ := outage.missed
  let invocation := conversationInvocation context userId
  have fallen : runAlone (chatSystem wiring settings) answers
      (executeFallback invocation (adapterUsed world "cskh-chat") world.now none :
        ChatTask PortResult) later =
      some (slotRead (adapterUsed world "cskh-chat") world.now later.now
        (FallbackProvider.getCached later "cskh-chat"), later) := by
    have served : FallbackProvider.execute later invocation.portName
        (.error ("Circuit breaker open for " ++ invocation.portName)) =
        if (FallbackProvider.getCached later "cskh-chat").isNullish then
          .error (.error "Circuit breaker open for cskh-chat")
        else .ok (FallbackProvider.getCached later "cskh-chat") :=
      if_pos outage.installed
    unfold executeFallback
    simp only [runAlone, Option.getD_none, served]
    unfold slotRead
    cases (FallbackProvider.getCached later "cskh-chat").isNullish <;> rfl
  have rejected : runAlone (chatSystem wiring settings) answers
      (executeThroughBreaker (chatDeployment wiring settings) invocation entry
        (adapterUsed world "cskh-chat") world.now) later =
      some (slotRead (adapterUsed world "cskh-chat") world.now later.now
        (FallbackProvider.getCached later "cskh-chat"), later) := by
    unfold executeThroughBreaker
    rw [runAlone_read]
    change runAlone (chatSystem wiring settings) answers
      (if rejectsNow later "cskh-chat" = true then _ else _) later = _
    rw [if_pos outage.rejects, executeWithQueue, if_pos (Or.inl unqueued)]
    exact fallen
  rw [execute_registered registered]
  change runAlone (chatSystem wiring settings) answers
    (executeThroughCache (chatDeployment wiring settings) invocation entry
      (adapterUsed world "cskh-chat") world.now) world = _
  unfold executeThroughCache
  rw [if_pos (show shouldCache entry invocation.method = true from cacheable), runAlone_bind]
  change (runAlone (chatSystem wiring settings) answers (CacheService.get (buildCacheKey
    (chatDeployment wiring settings) "cskh-chat" "get-conversation"
      (.obj [("userId", .str userId)]))) world).bind _ = _
  rw [missed, Option.bind_some]
  change runAlone (chatSystem wiring settings) answers
    (if cached.isNullish = true then _ else _) later = _
  rw [if_pos nothing]
  exact rejected

/-- While the breaker is open, a conversation is complete if and only if the slot happens to
hold the customer's own thread. -/
theorem complete_while_open_iff (own : List ChatMessage) (instant : String → Nat)
    (outage : Outage wiring settings answers userId world later)
    (selected : answers later (.inr (.selectByUser userId)) =
      Reply.ok (rowsOf userId later.service.outbox))
    (keys : DistinctKeys later.service.outbox) :
    (∃ thread, runAlone (chatSystem wiring settings) answers
        (getConversation (chatDeployment wiring settings) context userId) world =
          some (.ok thread, later) ∧
      CompleteThread own instant (rowsOf userId later.service.outbox)
        (messagesOf (FallbackProvider.getCached later "cskh-chat")) (messagesOf thread)) ↔
      (FallbackProvider.getCached later "cskh-chat").isNullish = false ∧
        OwnThread own instant (rowsOf userId later.service.outbox)
          (FallbackProvider.getCached later "cskh-chat") := by
  rw [getConversation_alone (execute_outage outage) selected,
    ← mergeThread_complete_iff (distinct_rowsOf userId keys)]
  unfold slotRead
  cases empty : (FallbackProvider.getCached later "cskh-chat").isNullish with
  | true => simp [conversationOf]
  | false =>
      simp only [Bool.false_eq_true, if_false, Option.some.injEq, Prod.mk.injEq, and_true,
        conversationOf_eq_ok, true_and]
      rfl

end Outages

/-! ### The thread of another customer -/

/-- Five sends have failed. -/
def failingBreaker : CircuitBreakerState :=
  (fun breaker =>
    let recorded := breaker.recordFailure 1700000000000 (.portTimeout "cskh-chat" 3000)
    if recorded.shouldOpen then recorded.open 1700000000000 else recorded)^[5]
    (.new (breakerOptions "cskh-chat" none) 1700000000000)

/-- The receiver is down, and the port's slot was filled before. -/
def outageWorld (slot : JsValue) (outbox : List OutboxRow) : World chat :=
  let state : ChatState := ⟨outbox, true, 0⟩
  let started : World chat := bareWorld 1700000000000 .empty apiEndpoints state
  { register "cskh-chat" started with
    circuitBreakers := OrderedMap.empty.set "cskh-chat" failingBreaker
    fallbackCache := OrderedMap.empty.set "cskh-chat" slot }

/-- What the staff has answered to the first message. -/
def reply : ChatMessage where
  value := .obj [("id", .str "S-1"), ("content", .str "Chung toi dang xu ly"),
    ("direction", .str "OUTBOUND"), ("senderType", .str "AGENT"),
    ("createdAt", .str "2023-11-14T22:13:10.500Z")]
  id := "S-1"
  createdAt := "2023-11-14T22:13:10.500Z"
  hasId := by decide +kernel
  hasCreatedAt := by decide +kernel

def replyThread : JsValue :=
  .obj [("conversationId", .str "C-1"), ("messages", .arr [reply.value])]

/-- The digits of a UTC timestamp, read as one number. -/
def digitsOf (text : String) : Nat :=
  (text.toList.filter Char.isDigit).foldl (fun read digit => 10 * read + (digit.toNat - 48)) 0

theorem outage_outageWorld (slot : JsValue) (outbox : List OutboxRow) (userId : String) :
    Outage chatWiring chatSettings (receiver fun _ => false) userId (outageWorld slot outbox)
      (outageWorld slot outbox) := by
  have unlisted : apiEndpoints.get? "cskh-chat" = none := by decide +kernel
  constructor
  · refine ⟨_, OrderedMap.get?_set_self _ "cskh-chat" _, ?_, ?_⟩
    · change (resolveConfig "cskh-chat" (apiEndpoints.get? "cskh-chat")).queuePolicy = _
      rw [unlisted]
      rfl
    · change shouldCache ⟨"cskh-chat", resolveConfig "cskh-chat" (apiEndpoints.get? "cskh-chat")⟩
        "get-conversation" = true
      rw [unlisted]
      decide +kernel
  · let key := buildCacheKey (chatDeployment chatWiring chatSettings) "cskh-chat"
      "get-conversation" (.obj [("userId", .str userId)])
    have empty : RedisCacheService.get chatWiring.backend.options 1700000000000 key
        OrderedMap.empty = .null := rfl
    have answered : receiver (fun _ => false) (outageWorld slot outbox)
        (.inl (.cache (.get key))) = Reply.ok .null := congrArg Reply.ok empty
    have performed : (chatSystem chatWiring chatSettings).perform (outageWorld slot outbox)
        (.inl (.cache (.get key))) (Reply.ok .null) = some (outageWorld slot outbox) := by
      have served : chatWiring.backend.perform 1700000000000 OrderedMap.empty (.get key)
          (Reply.ok .null) = some OrderedMap.empty := @if_pos _ _ empty.symm _ _ none
      change (if CacheEnvironment.any.answers 1700000000000 OrderedMap.empty (.get key)
          (Reply.ok .null) = true then
        (chatWiring.backend.perform 1700000000000 OrderedMap.empty (.get key)
          (Reply.ok .null)).map fun cache => { outageWorld slot outbox with cache := cache }
        else none) = _
      rw [served]
      rfl
    exact ⟨.null, rfl, runAlone_await _ _ answered performed⟩
  · have rejects : (failingBreaker.state = .open &&
        !failingBreaker.shouldAttemptReset 1700000000000) = true := by decide +kernel
    change ((OrderedMap.empty.set "cskh-chat" failingBreaker).get? "cskh-chat").any _ = true
    rw [OrderedMap.get?_set_self]
    exact rejects
  · rfl

theorem other_thread_shown : ∃ thread,
    runAlone (chatSystem chatWiring chatSettings) (receiver fun _ => false)
      (getConversation (chatDeployment chatWiring chatSettings) none "U-2")
      (outageWorld replyThread [firstRow]) =
        some (.ok thread, outageWorld replyThread [firstRow]) ∧
      reply.value ∈ messagesOf thread ∧
      ¬ CompleteThread [] digitsOf (rowsOf "U-2" [firstRow]) (messagesOf replyThread)
        (messagesOf thread) := by
  have asked := @execute_outage chatWiring chatSettings _ _ _ none "U-2"
    (outage_outageWorld replyThread [firstRow] "U-2")
  have merged : mergeThread replyThread (rowsOf "U-2" [firstRow]) = some replyThread := by
    decide +kernel
  have shown : reply.value ∈ messagesOf replyThread := by decide +kernel
  refine ⟨replyThread, ?_, shown, ?_⟩
  · rw [getConversation_alone asked rfl]
    exact congrArg (fun answer => some (answer, _)) (conversationOf_eq_ok.mpr merged)
  · intro complete
    obtain ⟨known, member, -⟩ := complete.belongs reply.value shown
    have nobody : rowsOf "U-2" [firstRow] = [] := by decide +kernel
    rw [nobody] at member
    cases member

/-- The customer's own thread: one message has been echoed, the other has not. -/
def echo : ChatMessage where
  value := .obj [("id", .str "M-1"), ("content", .str "Xin chao"), ("direction", .str "INBOUND"),
    ("senderType", .str "CUSTOMER"), ("createdAt", .str "2023-11-14T22:13:10.100Z")]
  id := "M-1"
  createdAt := "2023-11-14T22:13:10.100Z"
  hasId := by decide +kernel
  hasCreatedAt := by decide +kernel

def echoThread : JsValue :=
  .obj [("conversationId", .str "C-1"), ("messages", .arr [echo.value, reply.value])]

theorem ownThread_echoThread :
    OwnThread [echo, reply] digitsOf (rowsOf "U-1" [firstRow, secondRow]) echoThread := by
  have dated : ∀ left ∈ joined (messagesOf echoThread) (rowsOf "U-1" [firstRow, secondRow]),
      ∀ right ∈ joined (messagesOf echoThread) (rowsOf "U-1" [firstRow, secondRow]),
        creationText left < creationText right →
          digitsOf (creationText left) ≤ digitsOf (creationText right) := by
    decide +kernel
  constructor
  · exact Or.inr ⟨[echo.value, reply.value], rfl⟩
  · intro message member
    rcases List.mem_cons.mp member with same | rest
    · exact ⟨echo, List.mem_cons_self, same.symm⟩
    · exact ⟨reply, by simp, (List.mem_singleton.mp rest).symm⟩
  · decide +kernel
  · exact fun left right early late => dated left (mem_joined.mpr early) right (mem_joined.mpr late)

theorem conversation_complete_iff_echo : ∃ answer,
    runAlone (chatSystem chatWiring chatSettings) (receiver fun _ => false)
      (getConversation (chatDeployment chatWiring chatSettings) none "U-1")
      (outageWorld echoThread [firstRow, secondRow]) =
        some (answer, outageWorld echoThread [firstRow, secondRow]) ∧
      CompleteAnswer [echo, reply] digitsOf (rowsOf "U-1" [firstRow, secondRow])
        (slotRead .live 1700000000000 1700000000000 echoThread) answer :=
  (conversation_complete_iff [echo, reply] digitsOf
    (execute_outage (outage_outageWorld echoThread [firstRow, secondRow] "U-1")) rfl
    (by unfold DistinctKeys; decide +kernel)).mpr ⟨_, rfl, ownThread_echoThread⟩

end SelfService
