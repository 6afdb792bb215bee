/-
Flushes that overlap.

No lock keeps two flushes apart, and the table is read again while rows of it are
being marked.  What makes this safe is that the table is a function of the statements
on the trace, that a flush sends only rows of the one batch it read, and that a row
keeps its identifier through every retry.
-/

import SelfService.EventLoop.Leaving
import SelfService.Support.ChatDelivery

namespace SelfService

open Data EventLoop PortRegistry

variable {wiring : Wiring} {settings : ChatSettings}

/-! ### A receiver that ignores what it has -/

section Receiver

variable {κ ε : Type} [DecidableEq κ]

/-- A message whose key is known is ignored. -/
def accept (key : ε → κ) (thread : List ε) (message : ε) : List ε :=
  if thread.any fun known => key known = key message then thread else thread ++ [message]

theorem accept_nodup {key : ε → κ} {thread : List ε} (distinct : (thread.map key).Nodup)
    (message : ε) : ((accept key thread message).map key).Nodup := by
  unfold accept
  split
  · exact distinct
  · rename_i unknown
    rw [List.map_append, List.map_cons, List.map_nil]
    refine List.Nodup.append distinct (List.nodup_singleton _) ?_
    intro known member same
    obtain ⟨other, otherMember, rfl⟩ := List.mem_map.mp member
    apply unknown
    rw [List.any_eq_true]
    exact ⟨other, otherMember, decide_eq_true (List.mem_singleton.mp same)⟩

theorem accepted_nodup {key : ε → κ} (messages : List ε) :
    ∀ {thread : List ε}, (thread.map key).Nodup →
      ((messages.foldl (accept key) thread).map key).Nodup := by
  induction messages with
  | nil => exact fun distinct => distinct
  | cons message rest ih => exact fun distinct => ih (accept_nodup distinct message)

/-- Among distinct keys each one is there once at most. -/
theorem countP_key_le_one {key : ε → κ} (value : κ) {thread : List ε}
    (distinct : (thread.map key).Nodup) :
    thread.countP (fun message => key message = value) ≤ 1 := by
  have counted := List.nodup_iff_count_le_one.mp distinct value
  rw [List.count_eq_countP, List.countP_map] at counted
  refine le_trans (le_of_eq (List.countP_congr ?_)) counted
  intro message _
  simp

end Receiver

/-! ### The table in the trace -/

/-- What a statement that was answered has written. -/
def rowsWritten (rows : List OutboxRow) : PortEvent chat → List OutboxRow
  | .answered (.inr (.insert row)) (Reply.ok _) => rows ++ [row]
  | .answered (.inr (.insert row)) (Reply.failed applied _) =>
      if applied && !rows.any (fun other => other.messageId = row.messageId) then rows ++ [row]
      else rows
  | .answered (.inr (.markForwarded messageId forwardedAt)) (Reply.ok _) =>
      setForwarded messageId forwardedAt rows
  | .answered (.inr (.markForwarded messageId forwardedAt)) (Reply.failed applied _) =>
      if applied then setForwarded messageId forwardedAt rows else rows
  | _ => rows

def tableOf (rows : List OutboxRow) (trace : PortTrace chat) : List OutboxRow :=
  trace.foldl (fun table entry => rowsWritten table entry.event) rows

theorem tableOf_snoc (rows : List OutboxRow) (trace : PortTrace chat)
    (entry : PortTraceEntry chat) :
    tableOf rows (trace ++ [entry]) = rowsWritten (tableOf rows trace) entry.event := by
  rw [tableOf, List.foldl_append]
  rfl

theorem tableOf_append (rows : List OutboxRow) (early late : PortTrace chat) :
    tableOf rows (early ++ late) = tableOf (tableOf rows early) late :=
  List.foldl_append ..

/-- The row is still there, as it was; once it is forwarded it stays so. -/
structure RowLater (row later : OutboxRow) : Prop where
  messageId : later.messageId = row.messageId
  userId : later.userId = row.userId
  text : later.text = row.text
  createdAt : later.createdAt = row.createdAt
  forwarded : row.forwardedAt.isSome = true → later.forwardedAt.isSome = true

theorem RowLater.refl (row : OutboxRow) : RowLater row row := ⟨rfl, rfl, rfl, rfl, id⟩

theorem RowLater.trans {row later latest : OutboxRow} (first : RowLater row later)
    (second : RowLater later latest) : RowLater row latest where
  messageId := second.messageId.trans first.messageId
  userId := second.userId.trans first.userId
  text := second.text.trans first.text
  createdAt := second.createdAt.trans first.createdAt
  forwarded := second.forwarded ∘ first.forwarded

/-- No row is deleted, and none is altered but for `forwardedAt`. -/
def RowsKept (before after : List OutboxRow) : Prop :=
  ∀ row ∈ before, ∃ later ∈ after, RowLater row later

theorem RowsKept.refl (rows : List OutboxRow) : RowsKept rows rows :=
  fun row member => ⟨row, member, .refl row⟩

theorem RowsKept.trans {first second third : List OutboxRow} (early : RowsKept first second)
    (late : RowsKept second third) : RowsKept first third := by
  intro row member
  obtain ⟨later, laterMember, kept⟩ := early row member
  obtain ⟨latest, latestMember, onwards⟩ := late later laterMember
  exact ⟨latest, latestMember, kept.trans onwards⟩

theorem rowsKept_append (rows added : List OutboxRow) : RowsKept rows (rows ++ added) :=
  fun row member => ⟨row, List.mem_append_left added member, .refl row⟩

theorem rowsKept_setForwarded (messageId : String) (forwardedAt : Nat) (rows : List OutboxRow) :
    RowsKept rows (setForwarded messageId forwardedAt rows) := by
  intro row member
  refine ⟨_, List.mem_map_of_mem member, ?_⟩
  split
  · exact ⟨rfl, rfl, rfl, rfl, fun _ => rfl⟩
  · exact .refl row

theorem rowsKept_rowsWritten (rows : List OutboxRow) (event : PortEvent chat) :
    RowsKept rows (rowsWritten rows event) := by
  unfold rowsWritten
  split
  · exact rowsKept_append rows _
  · split
    · exact rowsKept_append rows _
    · exact .refl rows
  · exact rowsKept_setForwarded _ _ rows
  · split
    · exact rowsKept_setForwarded _ _ rows
    · exact .refl rows
  · exact .refl rows

theorem rowsKept_tableOf (trace : PortTrace chat) :
    ∀ rows : List OutboxRow, RowsKept rows (tableOf rows trace) := by
  induction trace with
  | nil => exact fun rows => .refl rows
  | cons entry rest ih => exact fun rows => (rowsKept_rowsWritten rows _).trans (ih _)

theorem ids_setForwarded (messageId : String) (forwardedAt : Nat) (rows : List OutboxRow) :
    (setForwarded messageId forwardedAt rows).map OutboxRow.messageId =
      rows.map OutboxRow.messageId := by
  unfold setForwarded
  rw [List.map_map]
  apply List.map_congr_left
  intro row _
  change OutboxRow.messageId (ite _ _ _) = row.messageId
  split <;> rfl

/-! ### What a flush sends -/

/-- The message carries this row. -/
structure Carries (row : OutboxRow) (message : JsValue) : Prop where
  userId : message.field "userId" = .str row.userId
  messageId : message.field "messageId" = .str row.messageId
  text : message.field "text" = .str row.text

theorem Carries.later {row later : OutboxRow} {message : JsValue} (carries : Carries row message)
    (kept : RowLater row later) : Carries later message where
  userId := by rw [carries.userId, kept.userId]
  messageId := by rw [carries.messageId, kept.messageId]
  text := by rw [carries.text, kept.text]

/-- The message of a send, as the adapter was called with it or as it posted it. -/
def messageSent : PortEvent chat → Option JsValue
  | .answered (.inr (.fetch request)) _ =>
      if request.method = "POST" then some request.body else none
  | .marked (.inl (.settled _ i _)) =>
      if i.portName = "cskh-chat" ∧ i.method = "send-message" then some i.params else none
  | _ => none

def ReadBatch (trace : PortTrace chat) (tid : Nat) (batch : List OutboxRow) : Prop :=
  ∃ limit, Saw trace tid (.answered (.inr (.selectPending limit)) (Reply.ok batch))

def Flushes (trace : PortTrace chat) (tid : Nat) : Prop :=
  ∃ context, Saw trace tid (.started (.inr (.flushOnce context)))

/-- A task of the registry sends what it was called with, and a flush a row that it read. -/
def Licensed (trace : PortTrace chat) (tid : Nat) (message : JsValue) : Prop :=
  (∃ call, Saw trace tid (.started (.inl call))) ∨
    (Flushes trace tid ∧ ∃ batch, ReadBatch trace tid batch ∧ ∃ row ∈ batch, Carries row message)

theorem Licensed.mono {early late : PortTrace chat} {tid : Nat} {message : JsValue}
    (licensed : Licensed early tid message) (grown : early <+: late) :
    Licensed late tid message := by
  have carry {event : PortEvent chat} (saw : Saw early tid event) : Saw late tid event := by
    obtain ⟨time, member⟩ := saw
    exact ⟨time, grown.subset member⟩
  rcases licensed with ⟨call, began⟩ | ⟨⟨context, began⟩, batch, ⟨limit, read⟩, carried⟩
  · exact .inl ⟨call, carry began⟩
  · exact .inr ⟨⟨context, carry began⟩, batch, ⟨limit, carry read⟩, carried⟩

/-- Keys are fresh, a flush reads the table once, and what is sent is licensed. -/
structure ChatLaw (rows : List OutboxRow) (past : PortTrace chat)
    (entry : PortTraceEntry chat) : Prop where
  fresh : ∀ row done, entry.event = .answered (.inr (.insert row)) (Reply.ok done) →
    (tableOf rows past).any (fun other => other.messageId = row.messageId) = false
  reads : ∀ limit batch,
    entry.event = .answered (.inr (.selectPending limit)) (Reply.ok batch) →
      batch = pendingRows (tableOf rows past) limit ∧
        (∀ other, ¬ ReadBatch past entry.tid other) ∧ Flushes past entry.tid
  sends : ∀ message, messageSent entry.event = some message → Licensed past entry.tid message

/-- The table is what the trace says, and the trace is lawful. -/
structure FlushInv (rows : List OutboxRow) (s : PortSnapshot chat) : Prop where
  table : s.state.service.outbox = tableOf rows s.trace
  law : Always (ChatLaw rows) s.trace

/-- Such events write nothing, read nothing and send nothing. -/
def Idle (event : PortEvent chat) : Prop :=
  (∀ table, rowsWritten table event = table) ∧
    (∀ row done, event ≠ .answered (.inr (.insert row)) (Reply.ok done)) ∧
    (∀ limit batch, event ≠ .answered (.inr (.selectPending limit)) (Reply.ok batch))

namespace FlushInv

variable {rows : List OutboxRow} {s : PortSnapshot chat} {tid : Nat}

theorem restate (hold : FlushInv rows s) {world : World chat}
    (same : world.service.outbox = s.state.service.outbox) : FlushInv rows ⟨world, s.trace⟩ :=
  ⟨same.trans hold.table, hold.law⟩

theorem observe (hold : FlushInv rows s) {world : World chat} {event : PortEvent chat}
    (written : world.service.outbox = rowsWritten s.state.service.outbox event)
    (lawful : ∀ time, ChatLaw rows s.trace ⟨tid, time, event⟩) :
    FlushInv rows ((⟨world, s.trace⟩ : PortSnapshot chat).log (chatSystem wiring settings) tid
      event) := by
  constructor
  · rw [Snapshot.log_trace, tableOf_snoc]
    exact written.trans (congrArg (fun table => rowsWritten table event) hold.table)
  · rw [Snapshot.log_trace, always_snoc]
    exact ⟨hold.law, lawful _⟩

/-- An event that only may send. -/
theorem idle (hold : FlushInv rows s) {world : World chat} {event : PortEvent chat}
    (same : world.service.outbox = s.state.service.outbox) (idle : Idle event)
    (licensed : ∀ message, messageSent event = some message → Licensed s.trace tid message) :
    FlushInv rows ((⟨world, s.trace⟩ : PortSnapshot chat).log (chatSystem wiring settings) tid
      event) := by
  apply hold.observe
  · rw [idle.1]
    exact same
  · intro time
    exact ⟨fun row done told => absurd told (idle.2.1 row done),
      fun limit batch told => absurd told (idle.2.2 limit batch), licensed⟩

end FlushInv

/-! ### Sending -/

section Programs

variable {rows : List OutboxRow} {s : PortSnapshot chat} {tid : Nat} {i : Invocation}

/-- Whatever the adapter of the chat port posts for this call, it may. -/
def MaySend (tid : Nat) (i : Invocation) (trace : PortTrace chat) : Prop :=
  i.portName = "cskh-chat" → i.method = "send-message" → Licensed trace tid i.params

theorem ownFact_maySend (tid : Nat) (i : Invocation) : OwnFact tid (MaySend tid i) :=
  fun _ others _ may port method => (may port method).mono (List.prefix_append _ others)

/-- The calls of the registry are idle, but for the adapter call that settles. -/
theorem registry_closed (tid : Nat) (i : Invocation) :
    Closed (chatDeployment wiring settings) (chatService wiring settings) noPromise
      (fun s => FlushInv rows s ∧ MaySend tid i s.trace) tid i := by
  rintro s later step ⟨hold, may⟩
  have onwards : MaySend tid i later.trace :=
    fun port method => (may port method).mono step.extends
  refine ⟨?_, onwards⟩
  have unsent {event : PortEvent chat} (silent : messageSent event = none) (message : JsValue)
      (sent : messageSent event = some message) : Licensed s.trace tid message := by
    rw [silent] at sent
    cases sent
  cases step with
  | request => exact hold.idle rfl ⟨fun _ => rfl, nofun, nofun⟩ (unsent rfl)
  | breakers breakers => exact hold.restate rfl
  | invalidate => exact hold.restate rfl
  | answer request answer world issued performed =>
      exact hold.idle (congrArg ChatState.outbox (performPort_service performed))
        ⟨fun _ => rfl, nofun, nofun⟩ (unsent rfl)
  | settle adapter outcome promised =>
      refine hold.idle rfl ⟨fun _ => rfl, nofun, nofun⟩ ?_
      intro message sent
      simp only [messageSent, Option.ite_none_right_eq_some, Option.some.injEq] at sent
      obtain ⟨⟨port, method⟩, rfl⟩ := sent
      exact may port method
  | fill adapter data seen => exact hold.idle rfl ⟨fun _ => rfl, nofun, nofun⟩ (unsent rfl)
  | fallBack data slot present => exact hold.idle rfl ⟨fun _ => rfl, nofun, nofun⟩ (unsent rfl)
  | detach fresh call other kind =>
      exact hold.idle rfl ⟨fun _ => rfl, nofun, nofun⟩ fun _ sent => nomatch sent

/-- A request of the chat that writes nothing. -/
theorem safe_idle {α : Type} {post : Except Exn α → PortSnapshot chat → Prop}
    {request : ChatRequest} {next : request.Answer → ChatTask α} {P : PortTrace chat → Prop}
    (kept : ∀ trace time answer, P trace →
      P (trace ++ [⟨tid, time, .answered (.inr request) answer⟩]))
    (idle : ∀ answer, Idle (.answered (.inr request) answer))
    (still : ∀ state answer after, performChat state request answer = some after →
      after.outbox = state.outbox)
    (licensed : ∀ answer trace, P trace → ∀ message,
      messageSent (.answered (.inr request) answer) = some message → Licensed trace tid message)
    (hold : FlushInv rows s) (fact : P s.trace)
    (go : ∀ answer later, FlushInv rows later → P later.trace →
      Safe (chatSystem wiring settings) (fun s => FlushInv rows s ∧ P s.trace) tid post
        (next answer) later) :
    Safe (chatSystem wiring settings) (fun s => FlushInv rows s ∧ P s.trace) tid post
      ((chatAsk request).bind next) s := by
  apply safe_service ⟨hold, fact⟩
  · rintro now answer state grown ⟨holdNow, factNow⟩ performed
    refine ⟨holdNow.idle (still _ _ _ performed) (idle answer) (licensed answer _ factNow), ?_⟩
    exact kept _ _ answer factNow
  · rintro answer later grown ⟨holdLater, factLater⟩ seen
    exact go answer later holdLater factLater

theorem MaySend.grown {trace : PortTrace chat} (may : MaySend tid i trace)
    (entry : PortTraceEntry chat) : MaySend tid i (trace ++ [entry]) :=
  fun port method => (may port method).mono (List.prefix_append trace [entry])

/-- A post carries the row that the call carries. -/
theorem licensed_payload {trace : PortTrace chat} {params messageId : JsValue}
    (same : (params.field "messageId").isNullish = false → messageId = params.field "messageId")
    (licensed : Licensed trace tid params) :
    Licensed trace tid (CskhChatAdapter.payload params messageId) := by
  rcases licensed with began | ⟨flushes, batch, read, row, member, carries⟩
  · exact .inl began
  · have kept : messageId = .str row.messageId := by
      rw [same (by rw [carries.messageId]; rfl), carries.messageId]
    refine .inr ⟨flushes, batch, read, row, member, ?_, ?_, ?_⟩
    · simp [CskhChatAdapter.payload, JsValue.field]
      exact carries.userId
    · simp [CskhChatAdapter.payload, JsValue.field, List.lookup_cons, kept]
    · simp [CskhChatAdapter.payload, JsValue.field, List.lookup_cons]
      exact carries.text

theorem post_sends {url secret : String} {messageId : JsValue}
    (port : i.portName = "cskh-chat") (method : i.method = "send-message")
    (same : (i.params.field "messageId").isNullish = false →
      messageId = i.params.field "messageId")
    (hold : FlushInv rows s) (may : MaySend tid i s.trace) :
    Safe (chatSystem wiring settings) (fun s => FlushInv rows s ∧ MaySend tid i s.trace) tid
      (fun _ later => FlushInv rows later ∧ MaySend tid i later.trace)
      (CskhChatAdapter.post settings url secret i.params messageId) s := by
  unfold CskhChatAdapter.post
  rw [safe_read]
  apply safe_idle fun _ _ _ may => may.grown _
  · exact fun _ => ⟨fun _ => rfl, nofun, nofun⟩
  · intro state answer after performed
    cases performed
    rfl
  · intro answer trace may message sent
    simp only [messageSent, CskhChatAdapter.postRequest, if_true, Option.some.injEq] at sent
    rw [← sent]
    exact licensed_payload same (may port method)
  · exact hold
  · exact may
  · intro answer later holdLater mayLater
    cases answer with
    | aborted => exact ⟨holdLater, mayLater⟩
    | unreachable reason => exact ⟨holdLater, mayLater⟩
    | response status statusText json =>
        simp only
        split
        · exact ⟨holdLater, mayLater⟩
        · split
          · exact ⟨holdLater, mayLater⟩
          · exact ⟨holdLater, mayLater⟩

theorem sendMessage_sends (port : i.portName = "cskh-chat") (method : i.method = "send-message")
    (hold : FlushInv rows s) (may : MaySend tid i s.trace) :
    Safe (chatSystem wiring settings) (fun s => FlushInv rows s ∧ MaySend tid i s.trace) tid
      (fun _ later => FlushInv rows later ∧ MaySend tid i later.trace)
      (CskhChatAdapter.sendMessage settings i.params) s := by
  unfold CskhChatAdapter.sendMessage
  split
  · exact ⟨hold, may⟩
  · exact ⟨hold, may⟩
  · unfold CskhChatAdapter.messageIdOf
    split
    · rename_i missing
      apply safe_idle fun _ _ _ may => may.grown _
      · exact fun _ => ⟨fun _ => rfl, nofun, nofun⟩
      · intro state answer after performed
        cases performed
        rfl
      · exact fun _ _ _ _ sent => nomatch sent
      · exact hold
      · exact may
      · intro drawn later holdLater mayLater
        refine post_sends port method ?_ holdLater mayLater
        intro present
        rw [missing] at present
        cases present
    · exact post_sends port method (fun _ => rfl) hold may

/-- A read of a thread posts nothing. -/
theorem getConversation_sends {params : JsValue} (hold : FlushInv rows s)
    (may : MaySend tid i s.trace) :
    Safe (chatSystem wiring settings) (fun s => FlushInv rows s ∧ MaySend tid i s.trace) tid
      (fun _ later => FlushInv rows later ∧ MaySend tid i later.trace)
      (CskhChatAdapter.getConversation settings params) s := by
  unfold CskhChatAdapter.getConversation
  split
  · rw [safe_read]
    apply safe_idle fun _ _ _ may => may.grown _
    · exact fun _ => ⟨fun _ => rfl, nofun, nofun⟩
    · intro state answer after performed
      cases performed
      rfl
    · exact fun _ _ _ _ sent => nomatch sent
    · exact hold
    · exact may
    · intro answer later holdLater mayLater
      cases answer with
      | aborted => exact ⟨holdLater, mayLater⟩
      | unreachable reason => exact ⟨holdLater, mayLater⟩
      | response status statusText json =>
          simp only
          split
          · exact ⟨holdLater, mayLater⟩
          · exact ⟨holdLater, mayLater⟩
  · exact ⟨hold, may⟩

theorem adapters_send (tid : Nat) (i : Invocation) :
    AdaptersKeep (chatDeployment wiring settings) (chatService wiring settings) noPromise
      (fun s => FlushInv rows s ∧ MaySend tid i s.trace) tid i := by
  rintro adapter s ⟨hold, may⟩
  have done {task : ChatTask JsValue} (safe : Safe (chatSystem wiring settings)
      (fun s => FlushInv rows s ∧ MaySend tid i s.trace) tid
      (fun _ later => FlushInv rows later ∧ MaySend tid i later.trace) task s) :
      Safe (chatSystem wiring settings) (fun s => FlushInv rows s ∧ MaySend tid i s.trace) tid
        (fun outcome later => (FlushInv rows later ∧ MaySend tid i later.trace) ∧
          noPromise i outcome later.trace) task s :=
    safe.mono fun _ _ _ held => ⟨held, trivial⟩
  unfold chatDeployment
  simp only
  split
  · rename_i port
    unfold CskhChatAdapter.execute
    split
    · rename_i method
      exact done (sendMessage_sends port method hold may)
    · split
      · exact done (getConversation_sends hold may)
      · exact ⟨⟨hold, may⟩, trivial⟩
  · refine remoteAdapter_keeps ?_ ⟨hold, may⟩
    rintro now answer ⟨holdNow, mayNow⟩
    constructor
    · exact holdNow.idle rfl ⟨fun _ => rfl, nofun, nofun⟩ fun _ sent => nomatch sent
    · exact mayNow.grown _

/-- The registry executes what its caller may send. -/
theorem execute_sends (hold : FlushInv rows s) (may : MaySend tid i s.trace) :
    Safe (chatSystem wiring settings) (FlushInv rows) tid (fun _ later => FlushInv rows later)
      (PortRegistry.execute (chatDeployment wiring settings) i) s := by
  apply Safe.withOwn (ownFact_maySend tid i)
  apply ((registry_closed tid i).execute (adapters_send tid i) ⟨hold, may⟩).mono
  rintro result later - ended
  cases result with
  | ok result => exact ended.1.1
  | error error => exact ended.1.1

/-! ### The calls of the chat -/

def isRead : PortEvent chat → Bool
  | .answered (.inr (.selectPending _)) _ => true
  | _ => false

/-- A flush that has not read the table yet. -/
def Unread (tid : Nat) (trace : PortTrace chat) : Prop :=
  Flushes trace tid ∧ OwnFree tid isRead trace

theorem ownFact_unread (tid : Nat) : OwnFact tid (Unread tid) := by
  rintro early others foreign ⟨⟨context, time, member⟩, free⟩
  exact ⟨⟨context, time, List.mem_append_left others member⟩,
    ownFact_ownFree tid isRead early others foreign free⟩

theorem Unread.grown {trace : PortTrace chat} (unread : Unread tid trace)
    {entry : PortTraceEntry chat} (clean : isRead entry.event = false) :
    Unread tid (trace ++ [entry]) := by
  obtain ⟨⟨context, time, member⟩, free⟩ := unread
  exact ⟨⟨context, time, List.mem_append_left _ member⟩, free.snoc fun _ => clean⟩

theorem wireReachable_sends (hold : FlushInv rows s) (unread : Unread tid s.trace) :
    Safe (chatSystem wiring settings) (fun s => FlushInv rows s ∧ Unread tid s.trace) tid
      (fun _ later => FlushInv rows later ∧ Unread tid later.trace)
      (ChatOutboxForwarder.wireReachable settings) s := by
  unfold ChatOutboxForwarder.wireReachable
  split
  · exact ⟨hold, unread⟩
  · rw [safe_read]
    split
    · exact ⟨hold, unread⟩
    · rw [safe_modify]
      apply safe_idle fun _ _ _ unread => unread.grown rfl
      · exact fun _ => ⟨fun _ => rfl, nofun, nofun⟩
      · intro state answer after performed
        cases performed
        rfl
      · exact fun _ _ _ _ sent => nomatch sent
      · exact hold.restate rfl
      · exact unread
      · intro answer later holdLater unreadLater
        change Safe _ _ _ _ (Task.modify _ >>= _) later
        rw [safe_modify]
        exact ⟨holdLater.restate rfl, unreadLater⟩

theorem carries_row (context : Option RequestContext) (row : OutboxRow) :
    Carries row (ChatOutboxForwarder.sendInvocation context row).params := by
  constructor <;> simp [ChatOutboxForwarder.sendInvocation, JsValue.field, List.lookup_cons]

/-- The row may be sent by the task. -/
def Sendable (tid : Nat) (row : OutboxRow) (trace : PortTrace chat) : Prop :=
  ∀ message, Carries row message → Licensed trace tid message

theorem forwardRow_sends (context : Option RequestContext) (row : OutboxRow)
    (hold : FlushInv rows s) (sendable : Sendable tid row s.trace) :
    Safe (chatSystem wiring settings) (FlushInv rows) tid (fun _ later => FlushInv rows later)
      (ChatOutboxForwarder.forwardRow (chatDeployment wiring settings) context row) s := by
  unfold ChatOutboxForwarder.forwardRow
  rw [safe_bind]
  apply (execute_sends hold fun _ _ => sendable _ (carries_row context row)).mono
  intro result later _ holdLater
  cases result with
  | error error => exact holdLater
  | ok result =>
      simp only
      split
      · rw [safe_read]
        apply safe_service holdLater
        · intro now answer state _ holdNow performed
          refine holdNow.observe ?_ fun _ => ⟨nofun, nofun, nofun⟩
          cases answer with
          | ok done =>
              cases performed
              rfl
          | failed applied reason =>
              cases performed
              cases applied <;> rfl
        · intro answer final _ holdFinal _
          cases answer with
          | ok done => exact holdFinal
          | failed applied reason => exact holdFinal
      · exact holdLater

theorem forwardRows_sends (context : Option RequestContext) (batch : List OutboxRow)
    (forwarded : Nat) (hold : FlushInv rows s)
    (sendable : ∀ row ∈ batch, Sendable tid row s.trace) :
    Safe (chatSystem wiring settings) (FlushInv rows) tid (fun _ later => FlushInv rows later)
      (ChatOutboxForwarder.forwardRows (chatDeployment wiring settings) context batch forwarded)
      s := by
  induction batch generalizing forwarded s with
  | nil => exact hold
  | cons row rest ih =>
      unfold ChatOutboxForwarder.forwardRows
      rw [safe_bind, safe_attempt]
      apply (forwardRow_sends context row hold (sendable row List.mem_cons_self)).mono
      intro result later grown holdLater
      have onwards : ∀ other ∈ rest, Sendable tid other later.trace :=
        fun other member message carries =>
          (sendable other (List.mem_cons_of_mem _ member) message carries).mono grown
      simp only
      split
      · exact ih (forwarded + 1) holdLater onwards
      · exact ih forwarded holdLater onwards

/-- The one read of a flush. -/
theorem selectPending_sends {α : Type} {post : Except Exn α → PortSnapshot chat → Prop}
    {limit : Nat} {next : Reply (List OutboxRow) → ChatTask α}
    (hold : FlushInv rows s) (unread : Unread tid s.trace)
    (go : ∀ answer later, FlushInv rows later → Flushes later.trace tid →
      later.Saw tid (.answered (.inr (.selectPending limit)) answer) →
      Safe (chatSystem wiring settings) (FlushInv rows) tid post (next answer) later) :
    Safe (chatSystem wiring settings) (FlushInv rows) tid post
      ((chatAsk (.selectPending limit)).bind next) s := by
  refine ⟨hold, ?_⟩
  intro now follows holdNow answer world performed
  have unreadNow : Unread tid now.trace := by
    obtain ⟨others, grown, foreign⟩ := follows
    rw [grown]
    exact ownFact_unread tid s.trace others foreign unread
  obtain ⟨state, served, rfl⟩ := Option.map_eq_some_iff.mp performed
  have same : state.outbox = now.state.service.outbox := by
    cases answer with
    | ok batch =>
        obtain ⟨-, same⟩ := Option.ite_none_right_eq_some.mp served
        cases same
        rfl
    | failed applied reason =>
        cases served
        rfl
  have told : FlushInv rows ((⟨{ now.state with service := state }, now.trace⟩ :
      PortSnapshot chat).log (chatSystem wiring settings) tid
        (.answered (.inr (.selectPending limit)) answer)) := by
    refine holdNow.observe same fun time => ⟨nofun, ?_, nofun⟩
    rintro asked batch answered
    cases answered
    obtain ⟨rfl, -⟩ := Option.ite_none_right_eq_some.mp served
    refine ⟨by rw [← holdNow.table], ?_, unreadNow.1⟩
    rintro other ⟨asked, moment, member⟩
    have free := unreadNow.2 _ member rfl
    cases free
  refine ⟨told, ?_⟩
  intro later after holdLater
  obtain ⟨context, moment, member⟩ := unreadNow.1
  have grown : now.trace <+: later.trace := (List.prefix_append _ _).trans after.extends
  exact go answer later holdLater ⟨context, moment, grown.subset member⟩
    ((Snapshot.saw_log _ _ _ _).mono after.extends)

theorem flushOnce_sends (context : Option RequestContext) (hold : FlushInv rows s)
    (begins : s.Begins tid (.inr (.flushOnce context))) :
    Safe (chatSystem wiring settings) (FlushInv rows) tid (fun _ later => FlushInv rows later)
      (ChatOutboxForwarder.flushOnce (chatDeployment wiring settings) settings context) s := by
  have unread : Unread tid s.trace := ⟨⟨context, begins.seen⟩, begins.ownFree rfl⟩
  unfold ChatOutboxForwarder.flushOnce
  rw [safe_bind]
  apply Safe.withOwn (ownFact_unread tid)
  apply (wireReachable_sends hold unread).mono
  rintro reachable later - ⟨holdLater, unreadLater⟩
  cases reachable with
  | error error => exact holdLater
  | ok reachable =>
      simp only
      split
      · apply selectPending_sends holdLater unreadLater
        intro answer final holdFinal flushes read
        cases answer with
        | failed applied reason => exact holdFinal
        | ok batch =>
            apply forwardRows_sends context batch 0 holdFinal
            intro row member message carries
            exact .inr ⟨flushes, batch, ⟨_, read⟩, row, member, carries⟩
      · exact holdLater

/-- A message is stored under a fresh key, and a flush is started. -/
theorem serviceSend_sends (context : Option RequestContext) (userId text messageId : String)
    (hold : FlushInv rows s) :
    Safe (chatSystem wiring settings) (FlushInv rows) tid (fun _ later => FlushInv rows later)
      (SupportService.sendMessage settings context userId text messageId) s := by
  unfold SupportService.sendMessage
  split
  · rw [safe_read]
    apply safe_service hold
    · intro now answer state _ holdNow performed
      cases answer with
      | ok done =>
          simp only [chatService, performChat] at performed
          split at performed
          · cases performed
          · rename_i fresh
            cases performed
            refine holdNow.observe rfl fun _ => ⟨?_, (fun _ _ wrong => by cases wrong),
              (fun _ wrong => by cases wrong)⟩
            rintro row done stored
            cases stored
            rw [← holdNow.table]
            exact Bool.eq_false_iff.mpr fresh
      | failed applied reason =>
          refine holdNow.observe ?_ fun _ => ⟨(fun _ _ wrong => by cases wrong),
            (fun _ _ wrong => by cases wrong), (fun _ wrong => by cases wrong)⟩
          simp only [chatService, performChat] at performed
          simp only [rowsWritten]
          split at performed
          · rename_i stored
            cases performed
            rw [if_pos stored]
          · rename_i dropped
            cases performed
            rw [if_neg dropped]
    · intro answer later _ holdLater _
      cases answer with
      | failed applied reason => exact holdLater
      | ok done =>
          intro fresh _
          exact holdLater.idle rfl ⟨fun _ => rfl, (fun _ _ wrong => by cases wrong),
            (fun _ _ wrong => by cases wrong)⟩ fun _ sent => by cases sent
  · exact hold

theorem safe_merged (merged : Option JsValue) (hold : FlushInv rows s) :
    Safe (chatSystem wiring settings) (FlushInv rows) tid (fun _ later => FlushInv rows later)
      (match merged with
        | some thread => .done thread
        | none => .fail (.error "TypeError") : ChatTask JsValue) s := by
  cases merged with
  | none => exact hold
  | some thread => exact hold

theorem serviceThread_sends (context : Option RequestContext) (userId : String)
    (hold : FlushInv rows s) :
    Safe (chatSystem wiring settings) (FlushInv rows) tid (fun _ later => FlushInv rows later)
      (SupportService.getConversation (chatDeployment wiring settings) context userId) s := by
  unfold SupportService.getConversation
  rw [safe_bind]
  have may : MaySend tid (SupportService.conversationInvocation context userId) s.trace :=
    fun _ method => absurd (show "get-conversation" = "send-message" from method) (by decide)
  apply (execute_sends hold may).mono
  intro result later _ holdLater
  cases result with
  | error error => exact holdLater
  | ok result =>
      apply safe_service holdLater
      · intro now answer state _ holdNow performed
        refine holdNow.idle ?_ ⟨fun _ => rfl, (fun _ _ wrong => by cases wrong),
          (fun _ _ wrong => by cases wrong)⟩ fun _ sent => by cases sent
        cases answer with
        | ok read =>
            obtain ⟨-, same⟩ := Option.ite_none_right_eq_some.mp performed
            cases same
            rfl
        | failed applied reason =>
            cases performed
            rfl
      · intro answer final _ holdFinal _
        cases answer with
        | failed applied reason => exact holdFinal
        | ok read => exact safe_merged (SupportService.mergeThread result.data read) holdFinal

theorem chatBody_sends (call : ChatCall) (hold : FlushInv rows s)
    (begins : s.Begins tid (.inr call)) :
    Safe (chatSystem wiring settings) (FlushInv rows) tid (fun _ later => FlushInv rows later)
      (chatBody wiring settings call) s := by
  cases call with
  | sendMessage context userId text messageId =>
      unfold chatBody
      exact (safe_map _ _ _ s).mpr (serviceSend_sends context userId text messageId hold)
  | getConversation context userId =>
      unfold chatBody
      exact (safe_map _ _ _ s).mpr (serviceThread_sends context userId hold)
  | flushOnce context =>
      unfold chatBody
      exact (safe_map _ _ _ s).mpr (flushOnce_sends context hold begins)

theorem flush_verified (wiring : Wiring) (settings : ChatSettings) (rows : List OutboxRow) :
    Verified (chatSystem wiring settings) (FlushInv rows) where
  starts _ _ _ hold _ := hold.idle rfl ⟨fun _ => rfl, nofun, nofun⟩ fun _ sent => nomatch sent
  bodies s tid call hold begins := by
    have ended {later : PortSnapshot chat} (result : Except Exn Resolution)
        (holdLater : FlushInv rows later) : FlushInv rows
          (later.log (chatSystem wiring settings) tid (.finished call result)) :=
      holdLater.idle rfl ⟨fun _ => rfl, nofun, nofun⟩ fun _ sent => nomatch sent
    cases call with
    | inl call =>
        have may : MaySend tid call.invocation s.trace := fun _ _ => .inl ⟨call, begins.seen⟩
        apply Safe.withOwn (ownFact_maySend tid call.invocation)
        apply ((registry_closed tid call.invocation).portBody call
          (adapters_send tid call.invocation) ⟨hold, may⟩).mono
        rintro result later - ⟨⟨holdLater, -⟩, -⟩
        exact ended result holdLater
    | inr call =>
        apply (chatBody_sends call hold begins).mono
        intro result later _ holdLater
        exact ended result holdLater
  externals s event state hold moved := by
    obtain ⟨_, rfl⟩ | ⟨_, _, rfl⟩ | ⟨_, _, rfl⟩ := external_cases moved
    · exact hold.restate rfl
    · exact hold.restate rfl
    · exact hold.restate rfl

end Programs

/-! ### Whole runs -/

section Runs

variable {rows : List OutboxRow} {trace : PortTrace chat} {tid : Nat}

/-- No key is used twice. -/
def DistinctKeys (table : List OutboxRow) : Prop := (table.map OutboxRow.messageId).Nodup

theorem distinctKeys_append {table : List OutboxRow} {row : OutboxRow}
    (distinct : DistinctKeys table)
    (fresh : table.any (fun other => other.messageId = row.messageId) = false) :
    DistinctKeys (table ++ [row]) := by
  unfold DistinctKeys
  rw [List.map_append, List.map_cons, List.map_nil]
  refine List.Nodup.append distinct (List.nodup_singleton _) ?_
  intro known member same
  obtain ⟨other, otherMember, rfl⟩ := List.mem_map.mp member
  have unused := List.any_eq_false.mp fresh other otherMember
  exact unused (decide_eq_true (List.mem_singleton.mp same))

theorem distinctKeys_rowsWritten {past : PortTrace chat} {entry : PortTraceEntry chat}
    (law : ChatLaw rows past entry) (distinct : DistinctKeys (tableOf rows past)) :
    DistinctKeys (rowsWritten (tableOf rows past) entry.event) := by
  have marked (messageId : String) (forwardedAt : Nat) :
      DistinctKeys (setForwarded messageId forwardedAt (tableOf rows past)) := by
    unfold DistinctKeys
    rw [ids_setForwarded]
    exact distinct
  unfold rowsWritten
  split
  · rename_i row done stored
    exact distinctKeys_append distinct (law.fresh row done stored)
  · split
    · rename_i fresh
      rw [Bool.and_eq_true, Bool.not_eq_true'] at fresh
      exact distinctKeys_append distinct fresh.2
    · exact distinct
  · exact marked _ _
  · split
    · exact marked _ _
    · exact distinct
  · exact distinct

theorem distinctKeys_tableOf (keys : DistinctKeys rows) (law : Always (ChatLaw rows) trace) :
    DistinctKeys (tableOf rows trace) := by
  induction trace using List.reverseRecOn with
  | nil => exact keys
  | append_singleton past entry ih =>
      obtain ⟨before, lawful⟩ := always_snoc.mp law
      rw [tableOf_snoc]
      exact distinctKeys_rowsWritten lawful (ih before)

/-- A batch was read at one point of the trace, from the table as it was then. -/
theorem batch_read (law : Always (ChatLaw rows) trace) {batch : List OutboxRow}
    (read : ReadBatch trace tid batch) : ∃ past rest limit time,
      trace = past ++
        ⟨tid, time, .answered (.inr (.selectPending limit)) (Reply.ok batch)⟩ :: rest ∧
      batch = pendingRows (tableOf rows past) limit := by
  obtain ⟨limit, time, member⟩ := read
  obtain ⟨past, rest, rfl⟩ := List.append_of_mem member
  exact ⟨past, rest, limit, time, rfl, ((law past _ rest rfl).reads limit batch rfl).1⟩

theorem mem_pendingRows {table : List OutboxRow} {limit : Nat} {row : OutboxRow}
    (member : row ∈ pendingRows table limit) : row ∈ table ∧ row.forwardedAt = none := by
  have sorted := List.mem_of_mem_take member
  rw [byCreation, List.mem_insertionSort, List.mem_filter, Option.isNone_iff_eq_none] at sorted
  exact sorted

/-- What a task of the chat sends is a flush's, and carries a row of the table. -/
def SendsStored (s : PortSnapshot chat) : Prop :=
  ∀ entry ∈ s.trace, ∀ call, s.Saw entry.tid (.started (.inr call)) →
    ∀ message, messageSent entry.event = some message →
      (∃ context, call = .flushOnce context) ∧
        ∃ row ∈ s.state.service.outbox, Carries row message

/-- A row that was forwarded before a task read the table is never sent by it. -/
def NotResent (early late : PortSnapshot chat) : Prop :=
  ∀ row ∈ early.state.service.outbox, row.forwardedAt.isSome = true →
    ∀ tid, (∀ batch, ¬ ReadBatch early.trace tid batch) →
      ∀ call, late.Saw tid (.started (.inr call)) → ∀ entry ∈ late.trace, entry.tid = tid →
        ∀ message, messageSent entry.event = some message →
          message.field "messageId" ≠ .str row.messageId

/-- The messages that reached the receiver, in whatever order and however often, are sends. -/
def Arrived (s : PortSnapshot chat) (arrivals : List JsValue) : Prop :=
  ∀ message ∈ arrivals, ∃ entry ∈ s.trace, ∃ call, s.Saw entry.tid (.started (.inr call)) ∧
    messageSent entry.event = some message

/-- The thread of a receiver that ignores the identifiers it has accepted. -/
def threadOf (arrivals : List JsValue) : List JsValue :=
  arrivals.foldl (accept fun message => message.field "messageId") []

/-- Every message of the thread carries a row, and no row is there twice. -/
def OnceInThread (s : PortSnapshot chat) (arrivals : List JsValue) : Prop :=
  (∀ message ∈ threadOf arrivals, ∃ row ∈ s.state.service.outbox, Carries row message) ∧
    ∀ row ∈ s.state.service.outbox, (threadOf arrivals).countP
      (fun message => message.field "messageId" = .str row.messageId) ≤ 1

theorem mem_accepted {κ ε : Type} [DecidableEq κ] {key : ε → κ} {message : ε} (messages : List ε) :
    ∀ {thread : List ε}, message ∈ messages.foldl (accept key) thread →
      message ∈ thread ∨ message ∈ messages := by
  induction messages with
  | nil => exact fun member => .inl member
  | cons first rest ih =>
      intro thread member
      rcases ih member with known | later
      · unfold accept at known
        split at known
        · exact .inl known
        · rcases List.mem_append.mp known with old | new
          · exact .inl old
          · exact .inr (List.mem_cons.mpr (.inl (List.mem_singleton.mp new)))
      · exact .inr (List.mem_cons_of_mem _ later)

variable {world : World chat} {p q : Pool (portSignature chat) Resolution}

theorem flushInv_reachable (reached : Reachable (chatSystem wiring settings) world p) :
    FlushInv world.service.outbox p.snapshot :=
  (flush_verified wiring settings world.service.outbox).reachable ⟨rfl, always_nil _⟩ reached

/-- The license of a send by a task of the chat. -/
theorem chat_licensed (reached : Reachable (chatSystem wiring settings) world p)
    {entry : PortTraceEntry chat} (member : entry ∈ p.snapshot.trace) {call : ChatCall}
    (began : p.snapshot.Saw entry.tid (.started (.inr call))) {message : JsValue}
    (sent : messageSent entry.event = some message) :
    (∃ context, call = .flushOnce context) ∧
      ∃ batch, ReadBatch p.snapshot.trace entry.tid batch ∧ ∃ row ∈ batch, Carries row message := by
  have hold := flushInv_reachable reached
  obtain ⟨before, after, split⟩ := List.append_of_mem member
  have grown : before <+: p.snapshot.trace := ⟨_, split.symm⟩
  have licensed := ((hold.law before entry after split).sends message sent).mono grown
  rcases licensed with ⟨other, foreign⟩ | ⟨⟨context, flush⟩, read⟩
  · cases reached.started_unique began foreign
  · cases reached.started_unique began flush
    exact ⟨⟨context, rfl⟩, read⟩

theorem sendsStored (reached : Reachable (chatSystem wiring settings) world p) :
    SendsStored p.snapshot := by
  have hold := flushInv_reachable reached
  intro entry member call began message sent
  obtain ⟨flush, batch, read, row, inBatch, carries⟩ := chat_licensed reached member began sent
  obtain ⟨past, rest, limit, time, split, rfl⟩ := batch_read hold.law read
  obtain ⟨later, laterMember, kept⟩ :=
    rowsKept_tableOf _ (tableOf world.service.outbox past) row (mem_pendingRows inBatch).1
  refine ⟨flush, later, ?_, carries.later kept⟩
  rw [hold.table, split, tableOf_append]
  exact laterMember

theorem notResent (reached : Reachable (chatSystem wiring settings) world p)
    (keys : DistinctKeys world.service.outbox)
    (onwards : Reachable (chatSystem wiring settings) world q)
    (grown : p.snapshot.trace <+: q.snapshot.trace) : NotResent p.snapshot q.snapshot := by
  have hold := flushInv_reachable reached
  have holdLater := flushInv_reachable onwards
  rintro row member forwarded tid unread call began entry later rfl message sent same
  obtain ⟨-, batch, read, other, inBatch, carries⟩ := chat_licensed onwards later began sent
  obtain ⟨past, rest, limit, time, split, rfl⟩ := batch_read holdLater.law read
  -- The batch was read after the point at which the row was forwarded.
  have before : p.snapshot.trace <+: past := by
    rcases List.prefix_or_prefix_of_prefix grown ⟨_, split.symm⟩ with inside | outside
    · exact inside
    · obtain ⟨more, earlier⟩ := outside
      cases more with
      | nil => exact ⟨[], by rw [List.append_nil, ← earlier, List.append_nil]⟩
      | cons head more =>
          obtain ⟨end_, full⟩ := grown
          rw [← earlier, split, List.append_assoc] at full
          have first := (List.cons.inj (List.append_cancel_left full)).1
          have early : head ∈ p.snapshot.trace := by rw [← earlier]; simp
          rw [first] at early
          exact absurd ⟨limit, time, early⟩ (unread _)
  obtain ⟨more, rfl⟩ := before
  rw [hold.table] at member
  obtain ⟨stored, storedMember, kept⟩ := rowsKept_tableOf more _ row member
  rw [← tableOf_append] at storedMember
  obtain ⟨otherMember, pending⟩ := mem_pendingRows inBatch
  have law : Always (ChatLaw world.service.outbox) (p.snapshot.trace ++ more) :=
    holdLater.law.earlier ⟨_, split.symm⟩
  have sameRow : other = stored := by
    apply List.inj_on_of_nodup_map (distinctKeys_tableOf keys law) otherMember storedMember
    rw [carries.messageId] at same
    rw [kept.messageId]
    exact JsValue.str.inj same
  have still := kept.forwarded forwarded
  rw [← sameRow, pending] at still
  cases still

theorem onceInThread (stored : SendsStored p.snapshot) {arrivals : List JsValue}
    (arrived : Arrived p.snapshot arrivals) : OnceInThread p.snapshot arrivals := by
  constructor
  · intro message member
    rcases mem_accepted arrivals member with known | arrival
    · cases known
    · obtain ⟨entry, inTrace, call, began, sent⟩ := arrived message arrival
      exact (stored entry inTrace call began message sent).2
  · intro row _
    exact countP_key_le_one _ (accepted_nodup arrivals List.nodup_nil)

/-- Whatever is saved and however flushes overlap: what is sent is a stored row, rows only become
forwarded, what was forwarded before a flush read is not sent by it, and a receiver that ignores
known identifiers has each row at most once. -/
theorem flushes_are_safe (wiring : Wiring) (settings : ChatSettings)
    (keys : DistinctKeys world.service.outbox)
    (reached : Reachable (chatSystem wiring settings) world p) :
    SendsStored p.snapshot ∧ DistinctKeys p.snapshot.state.service.outbox ∧
      (∀ schedule q, p.run (chatSystem wiring settings) schedule = some q →
        RowsKept p.snapshot.state.service.outbox q.snapshot.state.service.outbox ∧
          NotResent p.snapshot q.snapshot) ∧
      ∀ arrivals, Arrived p.snapshot arrivals → OnceInThread p.snapshot arrivals := by
  have hold := flushInv_reachable reached
  refine ⟨sendsStored reached, ?_, ?_, fun _ => onceInThread (sendsStored reached)⟩
  · rw [hold.table]
    exact distinctKeys_tableOf keys hold.law
  · intro schedule q ran
    have grown := Pool.run_grown schedule ran
    refine ⟨?_, notResent reached keys (reached.run ran) grown⟩
    rw [hold.table, (flushInv_reachable (reached.run ran)).table]
    obtain ⟨more, same⟩ := grown
    rw [← same, tableOf_append]
    exact rowsKept_tableOf more _

end Runs

/-- Both messages were accepted; whatever the run goes on with, it stays safe. -/
theorem flushes_are_safe_accepted :
    ∃ p, Reachable (chatSystem chatWiring chatSettings) waitingWorld p ∧
      p.snapshot.state.service.outbox.all (fun row => row.forwardedAt.isSome) = true ∧
      SendsStored p.snapshot ∧ DistinctKeys p.snapshot.state.service.outbox ∧
        (∀ schedule q, p.run (chatSystem chatWiring chatSettings) schedule = some q →
          RowsKept p.snapshot.state.service.outbox q.snapshot.state.service.outbox ∧
            NotResent p.snapshot q.snapshot) ∧
        ∀ arrivals, Arrived p.snapshot arrivals → OnceInThread p.snapshot arrivals := by
  have reached := reachable_run (chatSystem chatWiring chatSettings) waitingWorld acceptedFlush
    (by decide +kernel)
  have keys : DistinctKeys waitingWorld.service.outbox := by
    unfold DistinctKeys
    decide +kernel
  exact ⟨_, reached, by decide +kernel, flushes_are_safe chatWiring chatSettings keys reached⟩

end SelfService
