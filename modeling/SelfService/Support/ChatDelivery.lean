/-
What a forwarded row of the chat outbox is worth.

The adapter reports a send as accepted only after the receiver acknowledged it.
The forwarder, however, trusts whatever the registry returns, and the registry
may return what another message was answered with.
-/

import SelfService.Port.Provenance
import SelfService.Support.ChatOutbox

namespace SelfService

open Data EventLoop PortRegistry

variable {wiring : Wiring} {settings : ChatSettings}

def isSend (i : Invocation) (messageId : String) : Bool :=
  i.portName = "cskh-chat" && i.method = "send-message" &&
    i.params.field "messageId" = .str messageId

/-- The receiver acknowledged a send that carried this identifier.  Without
`CSKH_WEBHOOK_URL` the adapter is the receiver and accepts by itself. -/
def acknowledges (settings : ChatSettings) (messageId : String)
    (entry : PortTraceEntry chat) : Bool :=
  match entry.event with
  | .answered (.inr (.fetch request)) (FetchOutcome.response status _ _) =>
      CskhChatAdapter.isOk status && request.method = "POST" &&
        request.body.field "messageId" = .str messageId
  | .marked (.inl (.settled _ i (.ok _))) => settings.webhookUrl.isNone && isSend i messageId
  | _ => false

def Acknowledged (settings : ChatSettings) (messageId : String) (trace : PortTrace chat) : Prop :=
  ∃ entry ∈ trace, acknowledges settings messageId entry = true

/-- No row is marked as forwarded without an acknowledgement of its own message. -/
def ForwardedAreAcknowledged (settings : ChatSettings) (s : PortSnapshot chat) : Prop :=
  ∀ row ∈ s.state.service.outbox, row.forwardedAt.isSome = true →
    Acknowledged settings row.messageId s.trace

instance (settings : ChatSettings) (messageId : String) (trace : PortTrace chat) :
    Decidable (Acknowledged settings messageId trace) :=
  inferInstanceAs (Decidable (∃ entry ∈ trace, acknowledges settings messageId entry = true))

instance (settings : ChatSettings) (s : PortSnapshot chat) :
    Decidable (ForwardedAreAcknowledged settings s) :=
  inferInstanceAs (Decidable (∀ row ∈ s.state.service.outbox, row.forwardedAt.isSome = true →
    Acknowledged settings row.messageId s.trace))

/-- Where a send is answered from the slot, the slot does not hold the receipt of
another message. -/
def slotHoldsNoOtherReceipt (before : PortTrace chat) (entry : PortTraceEntry chat) : Bool :=
  match entry.event with
  | .marked (.inl (.fellBack i _)) =>
      i.portName ≠ "cskh-chat" || i.method ≠ "send-message" ||
        (latest (fillsOf i.portName) before).all fun fill =>
          !(fill.2.field "sent").truthy ||
            fill.1.method = "send-message" &&
              fill.1.params.field "messageId" = i.params.field "messageId"
  | _ => true

theorem Acknowledged.mono {messageId : String} {early late : PortTrace chat}
    (acknowledged : Acknowledged settings messageId early) (grown : early <+: late) :
    Acknowledged settings messageId late := by
  obtain ⟨entry, member, acknowledged⟩ := acknowledged
  exact ⟨entry, grown.subset member, acknowledged⟩

theorem Passes.earlier {ε : Type} {monitor : List ε → ε → Bool} {early late : List ε}
    (passes : Passes monitor late) (grown : early <+: late) : Passes monitor early :=
  Always.earlier passes grown

/-! ### The adapter -/

/-- An accepted send was acknowledged, unless there is no receiver to ask. -/
def chatPromise (settings : ChatSettings) : Promise chat := fun i outcome trace =>
  settings.webhookUrl.isSome = true → ∀ data messageId, outcome = .ok data →
    (data.field "sent").truthy = true → isSend i messageId = true →
    Acknowledged settings messageId trace

structure ChatInv (settings : ChatSettings) (s : PortSnapshot chat) : Prop where
  provenance : Provenance s
  promised : Promised (chatPromise settings) s
  delivered : Passes slotHoldsNoOtherReceipt s.trace → ForwardedAreAcknowledged settings s

namespace ChatInv

variable {s : PortSnapshot chat} {tid : Nat}

/-- Rows that nobody touched stay acknowledged. -/
theorem delivered_extend (hold : ChatInv settings s) {later : PortSnapshot chat}
    (rows : later.state.service.outbox = s.state.service.outbox) (grown : s.Extends later)
    (passes : Passes slotHoldsNoOtherReceipt later.trace) :
    ForwardedAreAcknowledged settings later := by
  intro row member forwarded
  rw [rows] at member
  exact (hold.delivered (Passes.earlier passes grown) row member forwarded).mono grown

theorem restate (hold : ChatInv settings s) {world : World chat}
    (slots : world.fallbackCache = s.state.fallbackCache)
    (rows : world.service.outbox = s.state.service.outbox) :
    ChatInv settings ⟨world, s.trace⟩ := by
  constructor
  · constructor
    · intro portName data found
      rw [slots] at found
      exact hold.provenance.slot portName data found
    · exact hold.provenance.law
  · exact hold.promised
  · exact hold.delivered_extend rows (.refl s)

/-- Observations other than the registry's own marks, which may add rows that are
pending or acknowledged. -/
theorem observeRows (hold : ChatInv settings s) {world : World chat} {event : PortEvent chat}
    (slots : world.fallbackCache = s.state.fallbackCache)
    (rows : ∀ row ∈ world.service.outbox, row.forwardedAt.isSome = true →
      row ∈ s.state.service.outbox ∨
        (Passes slotHoldsNoOtherReceipt s.trace → Acknowledged settings row.messageId s.trace))
    (unmarked : ∀ mark, event ≠ .marked (.inl mark)) :
    ChatInv settings ((⟨world, s.trace⟩ : PortSnapshot chat).log
      (chatSystem wiring settings) tid event) := by
  have grown := Snapshot.extends_log (chatSystem wiring settings) ⟨world, s.trace⟩ tid event
  constructor
  · apply hold.provenance.observe slots
    · intro i data
      exact unmarked _
    · intro time
      unfold SlotLaw
      split
      · rename_i same
        exact absurd same (unmarked _)
      · rename_i same
        exact absurd same (unmarked _)
      · trivial
  · apply hold.promised.observe
    intro time
    unfold PromiseLaw
    split
    · rename_i same
      exact absurd same (unmarked _)
    · trivial
  · intro passes row member forwarded
    have passesBefore := Passes.earlier passes grown
    rcases rows row member forwarded with old | worth
    · exact (hold.delivered passesBefore row old forwarded).mono grown
    · exact (worth passesBefore).mono grown

theorem observe (hold : ChatInv settings s) {world : World chat} {event : PortEvent chat}
    (slots : world.fallbackCache = s.state.fallbackCache)
    (rows : world.service.outbox = s.state.service.outbox)
    (unmarked : ∀ mark, event ≠ .marked (.inl mark)) :
    ChatInv settings ((⟨world, s.trace⟩ : PortSnapshot chat).log
      (chatSystem wiring settings) tid event) := by
  apply hold.observeRows slots _ unmarked
  intro row member _
  left
  rwa [rows] at member

theorem closed (tid : Nat) (i : Invocation) :
    Closed (chatDeployment wiring settings) (chatService wiring settings)
      (chatPromise settings) (ChatInv settings) tid i := by
  intro s later step hold
  constructor
  · exact provenance_closed tid i s later step hold.provenance
  · exact promised_closed tid i s later step hold.promised
  · exact hold.delivered_extend (congrArg ChatState.outbox step.service_eq) step.extends

end ChatInv

section Adapter

variable {s : PortSnapshot chat} {tid : Nat}

/-- A chat request that leaves the rows alone. -/
theorem safe_chatAsk {α : Type} {post : Except Exn α → PortSnapshot chat → Prop}
    {request : ChatRequest} {next : request.Answer → ChatTask α}
    (still : ∀ state answer after, performChat state request answer = some after →
      after.outbox = state.outbox)
    (hold : ChatInv settings s)
    (go : ∀ answer later, s.Extends later → ChatInv settings later →
      later.Saw tid (.answered (.inr request) answer) →
      Safe (chatSystem wiring settings) (ChatInv settings) tid post (next answer) later) :
    Safe (chatSystem wiring settings) (ChatInv settings) tid post
      ((chatAsk request).bind next) s := by
  apply safe_service hold
  · intro now answer state grown holdNow performed
    exact holdNow.observe rfl (still _ _ _ performed) (by simp)
  · exact go

theorem post_safe {i : Invocation} {url secret : String} {messageId : JsValue}
    (same : ∀ text, isSend i text = true → messageId = .str text) (hold : ChatInv settings s) :
    Safe (chatSystem wiring settings) (ChatInv settings) tid
      (fun outcome later => ChatInv settings later ∧
        chatPromise settings i outcome later.trace)
      (CskhChatAdapter.post settings url secret i.params messageId) s := by
  unfold CskhChatAdapter.post
  rw [safe_read]
  apply safe_chatAsk
  · intro state answer after performed
    cases performed
    rfl
  · exact hold
  · intro answer later grown holdLater seen
    cases answer with
    | aborted => exact ⟨holdLater, fun _ _ _ failed => by cases failed⟩
    | unreachable reason => exact ⟨holdLater, fun _ _ _ failed => by cases failed⟩
    | response status statusText json =>
        simp only
        split
        · constructor
          · exact holdLater
          · intro _ data text returned accepted
            cases returned
            cases accepted
        · split
          · rename_i ok
            constructor
            · exact holdLater
            · intro _ data text returned accepted send
              obtain ⟨time, member⟩ := seen
              refine ⟨_, member, ?_⟩
              have carried := same text send
              simp [acknowledges, ok, CskhChatAdapter.postRequest, CskhChatAdapter.payload,
                JsValue.field, List.lookup_cons, carried]
          · exact ⟨holdLater, fun _ _ _ failed => by cases failed⟩

theorem sendMessage_safe {i : Invocation} (hold : ChatInv settings s) :
    Safe (chatSystem wiring settings) (ChatInv settings) tid
      (fun outcome later => ChatInv settings later ∧
        chatPromise settings i outcome later.trace)
      (CskhChatAdapter.sendMessage settings i.params) s := by
  unfold CskhChatAdapter.sendMessage
  split
  · rename_i unset
    constructor
    · exact hold
    · intro configured
      rw [unset] at configured
      cases configured
  · constructor
    · exact hold
    · intro _ data text returned accepted
      cases returned
      cases accepted
  · unfold CskhChatAdapter.messageIdOf
    split
    · rename_i missing
      apply safe_chatAsk
      · intro state answer after performed
        cases performed
        rfl
      · exact hold
      · intro drawn later grown holdLater seen
        apply post_safe _ holdLater
        intro text send
        simp only [isSend, Bool.and_eq_true, decide_eq_true_eq] at send
        rw [send.2] at missing
        cases missing
    · apply post_safe _ hold
      intro text send
      simp only [isSend, Bool.and_eq_true, decide_eq_true_eq] at send
      exact send.2

theorem getConversation_safe {params : JsValue} (hold : ChatInv settings s) :
    Safe (chatSystem wiring settings) (ChatInv settings) tid
      (fun _ later => ChatInv settings later)
      (CskhChatAdapter.getConversation settings params) s := by
  unfold CskhChatAdapter.getConversation
  split
  · rw [safe_read]
    apply safe_chatAsk
    · intro state answer after performed
      cases performed
      rfl
    · exact hold
    · intro answer later grown holdLater seen
      cases answer with
      | aborted => exact holdLater
      | unreachable reason => exact holdLater
      | response status statusText json =>
          simp only
          split
          · exact holdLater
          · exact holdLater
  · exact hold

theorem chat_adapters (tid : Nat) (i : Invocation) :
    AdaptersKeep (chatDeployment wiring settings) (chatService wiring settings)
      (chatPromise settings) (ChatInv settings) tid i := by
  intro adapter s hold
  unfold chatDeployment
  simp only
  split
  · unfold CskhChatAdapter.execute
    split
    · exact sendMessage_safe hold
    · rename_i other
      have noSend (text : String) : isSend i text = false := by simp [isSend, other]
      split
      · apply (getConversation_safe hold).mono
        intro outcome later _ holdLater
        constructor
        · exact holdLater
        · intro _ data text _ _ send
          rw [noSend] at send
          cases send
      · exact ⟨hold, fun _ _ _ failed => by cases failed⟩
  · rename_i foreign
    have noSend (text : String) : isSend i text = false := by
      have other : i.portName ≠ "cskh-chat" := foreign
      simp [isSend, other]
    apply (remoteAdapter_keeps (i := i) (fun s answer hold =>
      hold.observe rfl rfl (by simp)) hold).mono
    rintro outcome later _ ⟨holdLater, _⟩
    constructor
    · exact holdLater
    · intro _ data text _ _ send
      rw [noSend] at send
      cases send

end Adapter

/-! ### The forwarder -/

theorem acknowledged_of_settled {trace : PortTrace chat}
    (promised : Always (PromiseLaw (chatPromise settings)) trace) {tid : Nat}
    {adapter : AdapterKind} {j : Invocation} {data : JsValue} {messageId : String}
    (settled : Saw trace tid (.marked (.inl (.settled adapter j (.ok data)))))
    (accepted : (data.field "sent").truthy = true) (send : isSend j messageId = true) :
    Acknowledged settings messageId trace := by
  obtain ⟨time, member⟩ := settled
  cases configured : settings.webhookUrl.isSome with
  | true =>
      obtain ⟨before, after, split⟩ := List.append_of_mem member
      have kept := promised before _ after split
      have acknowledged := kept configured data messageId rfl accepted send
      exact acknowledged.mono ⟨_, split.symm⟩
  | false =>
      refine ⟨_, member, ?_⟩
      have unset : settings.webhookUrl.isNone = true := by simpa using configured
      simp [acknowledges, unset, send]

theorem isSend_row (context : Option RequestContext) (row : OutboxRow) :
    isSend (ChatOutboxForwarder.sendInvocation context row) row.messageId = true := by
  simp [isSend, ChatOutboxForwarder.sendInvocation, JsValue.field, List.lookup_cons]

/-- What the registry reports as sent was acknowledged, if no slot held the receipt
of another message. -/
theorem acknowledged_of_outcome {s : PortSnapshot chat} {tid : Nat}
    {context : Option RequestContext} {row : OutboxRow} {result : PortResult}
    (hold : ChatInv settings s)
    (outcome : Outcome (chatDeployment wiring settings) tid
      (ChatOutboxForwarder.sendInvocation context row) s.trace (.ok result))
    (accepted : (result.data.field "sent").truthy = true)
    (passes : Passes slotHoldsNoOtherReceipt s.trace) :
    Acknowledged settings row.messageId s.trace := by
  have send := isSend_row context row
  cases outcome with
  | recorded rawKey result keyed seen present healthy => cases keyed
  | cached entry result readOnly seen present same healthy =>
      have mutation : isMutationMethod "send-message" = true := by decide
      have notMutation : isMutationMethod "send-message" = false := readOnly
      rw [mutation] at notMutation
      cases notMutation
  | fresh adapter result seen healthy =>
      exact acknowledged_of_settled hold.promised seen accepted send
  | degraded result seen ill =>
      obtain ⟨past, time, rest, j, split, last, port, other, adapter, settled⟩ :=
        behind_fallback hold.provenance.law seen
      have grown : past <+: s.trace := ⟨_, split.symm⟩
      have fits := passes past _ rest split
      have sameMessage : j.method = "send-message" ∧
          j.params.field "messageId" = .str row.messageId := by
        have field : (ChatOutboxForwarder.sendInvocation context row).params.field "messageId" =
            .str row.messageId := by
          simp [ChatOutboxForwarder.sendInvocation, JsValue.field, List.lookup_cons]
        simp only [slotHoldsNoOtherReceipt, last, Option.all_some, accepted, field] at fits
        simpa [ChatOutboxForwarder.sendInvocation] using fits
      have sendOther : isSend j row.messageId = true := by
        have chatPort : j.portName = "cskh-chat" := port
        simp [isSend, chatPort, sameMessage]
      exact (acknowledged_of_settled (hold.promised.earlier grown) settled accepted
        sendOther).mono grown

theorem mem_setForwarded {messageId : String} {time : Nat} {rows : List OutboxRow}
    {row : OutboxRow} (member : row ∈ setForwarded messageId time rows) :
    row.messageId = messageId ∨ row ∈ rows := by
  obtain ⟨old, inRows, rfl⟩ := List.mem_map.mp member
  split
  · rename_i same
    exact Or.inl same
  · exact Or.inr inRows

theorem mem_of_insert {state after : ChatState} {messageId userId text : String}
    {createdAt : Nat} {answer : Reply Unit}
    (performed : performChat state (.insert ⟨messageId, userId, text, createdAt, none⟩) answer =
      some after) {row : OutboxRow} (member : row ∈ after.outbox)
    (forwarded : row.forwardedAt.isSome = true) : row ∈ state.outbox := by
  have appended (inserted : row ∈ state.outbox ++ [⟨messageId, userId, text, createdAt, none⟩]) :
      row ∈ state.outbox := by
    rcases List.mem_append.mp inserted with old | new
    · exact old
    · rw [List.mem_singleton.mp new] at forwarded
      cases forwarded
  cases answer with
  | ok done =>
      simp only [performChat] at performed
      split at performed
      · cases performed
      · cases performed
        exact appended member
  | failed applied reason =>
      simp only [performChat] at performed
      split at performed
      · cases performed
        exact appended member
      · cases performed
        exact member

section Bodies

variable {s : PortSnapshot chat} {tid : Nat}

theorem markForwarded_safe {row : OutboxRow} (time : Nat) (hold : ChatInv settings s)
    (worth : Passes slotHoldsNoOtherReceipt s.trace →
      Acknowledged settings row.messageId s.trace)
    {α : Type} {post : Except Exn α → PortSnapshot chat → Prop}
    {next : Reply Unit → ChatTask α}
    (go : ∀ answer later, ChatInv settings later →
      Safe (chatSystem wiring settings) (ChatInv settings) tid post (next answer) later) :
    Safe (chatSystem wiring settings) (ChatInv settings) tid post
      ((chatAsk (.markForwarded row.messageId time)).bind next) s := by
  apply safe_service hold
  · intro now answer state grown holdNow performed
    have worthNow (other : OutboxRow)
        (member : other ∈ setForwarded row.messageId time now.state.service.outbox) :
        other ∈ now.state.service.outbox ∨
          (Passes slotHoldsNoOtherReceipt now.trace →
            Acknowledged settings other.messageId now.trace) := by
      rcases mem_setForwarded member with same | old
      · right
        intro passes
        rw [same]
        exact (worth (Passes.earlier passes grown)).mono grown
      · exact Or.inl old
    refine holdNow.observeRows rfl ?_ (by simp)
    intro other member _
    cases answer with
    | ok done =>
        cases performed
        exact worthNow other member
    | failed applied reason =>
        cases applied with
        | true =>
            cases performed
            exact worthNow other member
        | false =>
            cases performed
            exact Or.inl member
  · intro answer later _ holdLater _
    exact go answer later holdLater

theorem forwardRow_safe (context : Option RequestContext) (row : OutboxRow)
    (hold : ChatInv settings s) :
    Safe (chatSystem wiring settings) (ChatInv settings) tid
      (fun _ later => ChatInv settings later)
      (ChatOutboxForwarder.forwardRow (chatDeployment wiring settings) context row) s := by
  unfold ChatOutboxForwarder.forwardRow
  rw [safe_bind]
  apply ((ChatInv.closed tid _).execute (chat_adapters tid _) hold).mono
  rintro result later - ⟨holdLater, outcome⟩
  cases result with
  | error error => exact holdLater
  | ok result =>
      simp only
      split
      · rename_i accepted
        rw [safe_read]
        apply markForwarded_safe later.state.now holdLater
        · exact acknowledged_of_outcome holdLater outcome accepted
        · intro answer final holdFinal
          cases answer with
          | ok done => exact holdFinal
          | failed applied reason => exact holdFinal
      · exact holdLater

/-- Whatever becomes of one row, the loop goes on with the next. -/
theorem forwardRows_safe (context : Option RequestContext) (rows : List OutboxRow)
    (forwarded : Nat) (hold : ChatInv settings s) :
    Safe (chatSystem wiring settings) (ChatInv settings) tid
      (fun _ later => ChatInv settings later)
      (ChatOutboxForwarder.forwardRows (chatDeployment wiring settings) context rows forwarded)
      s := by
  induction rows generalizing forwarded s with
  | nil => exact hold
  | cons row rest ih =>
      unfold ChatOutboxForwarder.forwardRows
      rw [safe_bind, safe_attempt]
      apply (forwardRow_safe context row hold).mono
      intro result later _ holdLater
      simp only
      split
      · exact ih (forwarded + 1) holdLater
      · exact ih forwarded holdLater

theorem wireReachable_safe (hold : ChatInv settings s) :
    Safe (chatSystem wiring settings) (ChatInv settings) tid
      (fun _ later => ChatInv settings later)
      (ChatOutboxForwarder.wireReachable settings) s := by
  unfold ChatOutboxForwarder.wireReachable
  split
  · exact hold
  · rw [safe_read]
    split
    · exact hold
    · rw [safe_modify]
      apply safe_chatAsk
      · intro state answer after performed
        cases performed
        rfl
      · exact hold.restate rfl rfl
      · intro answer later _ holdLater _
        change Safe _ _ _ _ (Task.modify _ >>= _) later
        rw [safe_modify]
        exact holdLater.restate rfl rfl

theorem flushOnce_safe (context : Option RequestContext) (hold : ChatInv settings s) :
    Safe (chatSystem wiring settings) (ChatInv settings) tid
      (fun _ later => ChatInv settings later)
      (ChatOutboxForwarder.flushOnce (chatDeployment wiring settings) settings context) s := by
  unfold ChatOutboxForwarder.flushOnce
  rw [safe_bind]
  apply (wireReachable_safe hold).mono
  intro reachable later _ holdLater
  cases reachable with
  | error error => exact holdLater
  | ok reachable =>
      simp only
      split
      · apply safe_chatAsk
        · intro state answer after performed
          cases answer with
          | ok rows =>
              obtain ⟨-, same⟩ := Option.ite_none_right_eq_some.mp performed
              cases same
              rfl
          | failed applied reason =>
              cases performed
              rfl
        · exact holdLater
        · intro answer final _ holdFinal _
          cases answer with
          | ok pending => exact forwardRows_safe context pending 0 holdFinal
          | failed applied reason => exact holdFinal
      · exact holdLater

theorem serviceSend_safe (context : Option RequestContext) (userId text messageId : String)
    (hold : ChatInv settings s) :
    Safe (chatSystem wiring settings) (ChatInv settings) tid
      (fun _ later => ChatInv settings later)
      (SupportService.sendMessage settings context userId text messageId) s := by
  unfold SupportService.sendMessage
  split
  · rw [safe_read]
    apply safe_service hold
    · intro now answer state grown holdNow performed
      refine holdNow.observeRows rfl ?_ (by simp)
      intro row member forwarded
      left
      exact mem_of_insert performed member forwarded
    · intro answer later _ holdLater _
      cases answer with
      | failed applied reason => exact holdLater
      | ok done =>
          intro fresh _
          exact holdLater.observe rfl rfl (by simp)
  · exact hold

theorem serviceThread_safe (context : Option RequestContext) (userId : String)
    (hold : ChatInv settings s) :
    Safe (chatSystem wiring settings) (ChatInv settings) tid
      (fun _ later => ChatInv settings later)
      (SupportService.getConversation (chatDeployment wiring settings) context userId) s := by
  unfold SupportService.getConversation
  rw [safe_bind]
  apply ((ChatInv.closed tid _).execute (chat_adapters tid _) hold).mono
  rintro result later - ⟨holdLater, _⟩
  cases result with
  | error error => exact holdLater
  | ok result =>
      apply safe_chatAsk
      · intro state answer after performed
        cases answer with
        | ok rows =>
            obtain ⟨-, same⟩ := Option.ite_none_right_eq_some.mp performed
            cases same
            rfl
        | failed applied reason =>
            cases performed
            rfl
      · exact holdLater
      · intro answer final _ holdFinal _
        cases answer with
        | failed applied reason => exact holdFinal
        | ok rows =>
            simp only
            split
            · exact holdFinal
            · exact holdFinal

theorem chatBody_safe (call : ChatCall) (hold : ChatInv settings s) :
    Safe (chatSystem wiring settings) (ChatInv settings) tid
      (fun _ later => ChatInv settings later) (chatBody wiring settings call) s := by
  cases call with
  | sendMessage context userId text messageId =>
      unfold chatBody
      exact (safe_map _ _ _ s).mpr (serviceSend_safe context userId text messageId hold)
  | getConversation context userId =>
      unfold chatBody
      exact (safe_map _ _ _ s).mpr (serviceThread_safe context userId hold)
  | flushOnce context =>
      unfold chatBody
      exact (safe_map _ _ _ s).mpr (flushOnce_safe context hold)

end Bodies

/-! ### Whole runs -/

theorem chat_stable (wiring : Wiring) (settings : ChatSettings) :
    Stable (chatDeployment wiring settings) (chatService wiring settings)
      (chatPromise settings) (ChatInv settings) where
  closed := ChatInv.closed
  adapters := chat_adapters
  started _ _ _ hold _ := hold.observe rfl rfl (by simp)
  finished _ _ _ _ hold _ _ := hold.observe rfl rfl (by simp)
  external s event state hold moved := by
    obtain ⟨_, rfl⟩ | ⟨_, _, rfl⟩ | ⟨_, _, rfl⟩ := external_cases moved
    · exact hold.restate rfl rfl
    · exact hold.restate rfl rfl
    · exact hold.restate rfl rfl

/-- A process that has not answered anything yet, with every stored message pending. -/
structure ChatStart (world : World chat) : Prop where
  noSlots : world.fallbackCache = .empty
  pending : ∀ row ∈ world.service.outbox, row.forwardedAt = none

/-- While no slot answers a send with another message's receipt, every forwarded row
was acknowledged. -/
theorem forwarded_was_acknowledged (wiring : Wiring) (settings : ChatSettings)
    (world : World chat) (start : ChatStart world) (p : Pool (portSignature chat) Resolution)
    (reached : Reachable (chatSystem wiring settings) world p)
    (passes : Passes slotHoldsNoOtherReceipt p.snapshot.trace) :
    ForwardedAreAcknowledged settings p.snapshot := by
  have verified : Verified (chatSystem wiring settings) (ChatInv settings) := by
    apply (chat_stable wiring settings).verified
    intro s tid call hold _
    apply (chatBody_safe call hold).mono
    intro result later _ holdLater
    exact holdLater.observe rfl rfl (by simp)
  have initial : ChatInv settings ⟨world, []⟩ := by
    constructor
    · exact provenance_initial start.noSlots
    · exact always_nil _
    · intro _ row member forwarded
      rw [start.pending row member] at forwarded
      cases forwarded
  exact (verified.reachable initial reached).delivered passes

/-! ### A message that never arrived -/

def firstRow : OutboxRow := ⟨"M-1", "U-1", "Xin chao", 1699999990000, none⟩

def secondRow : OutboxRow := ⟨"M-2", "U-1", "Toi can ho tro", 1699999991000, none⟩

/-- Two messages wait; the chat port has no entry in the YAML file. -/
def waitingWorld : World chat :=
  register "cskh-chat" (bareWorld 1700000000000 .empty apiEndpoints
    ⟨[firstRow, secondRow], true, 0⟩)

def bodyOf (row : OutboxRow) : JsValue :=
  .obj [("userId", .str row.userId), ("messageId", .str row.messageId), ("text", .str row.text)]

def chatUrl : String := "http://cskh.local:4000/webhooks/app"

/-- The digests of the two requests below. -/
def chatCrypto : Crypto where
  sha256Hex body :=
    if body = bodyOf firstRow then
      "492427f0074b798c7b7a920fb30d2951d6937653ac49bcdc5de188df5445260b"
    else "ebcf03286064f0afb262d37512e0d7dbd46b9722618f02e7ea7b140b9963b856"
  hmacSha256Hex _ canonical :=
    if canonical = "v1:1700000000:POST:/webhooks/app:" ++
        "492427f0074b798c7b7a920fb30d2951d6937653ac49bcdc5de188df5445260b" then
      "6d0f603328c0b98379dfbf0ab9e85fbe5942f7618e36372f7b02430744612f67"
    else "6d02dcba49b952959ff05ff421d0439c1fb85cceab6c846ac2c6deabc1c49ce1"
  pathAndQuery _ := "/webhooks/app"

def chatSettings : ChatSettings where
  webhookUrl := some chatUrl
  wire := some ("cskh.local", 4000)
  hmacSecret := some "wire-secret"
  crypto := chatCrypto
  rejection _ := "Invalid input"

def chatWiring : Wiring :=
  .configured true (fun _ => ⟨"e3b0c44298fc1c14", isHex_empty⟩)
    fun _ => ⟨"e3b0c44298fc1c14", isHex_empty⟩

abbrev ChatAction := Action (portSignature chat) PortExternal

/-- The flush reads the table and sends the first row. -/
def flushStarts : List ChatAction :=
  [.call (.inr (.flushOnce none)), .resume 0,
    .answer 0 (.inr (.probe "cskh.local" 4000)) true, .resume 0,
    .answer 0 (.inr (.selectPending 50)) (Reply.ok [firstRow, secondRow]), .resume 0]

def sendEnds (row : OutboxRow) (status : Nat) (statusText : String) (json : Option JsValue) :
    List ChatAction :=
  [.answer 0 (.inr (.fetch (CskhChatAdapter.postRequest chatSettings "wire-secret" 1700000000000
      chatUrl (bodyOf row)))) (FetchOutcome.response status statusText json),
    .resume 0,
    .answer 0 (.inr (.markForwarded row.messageId 1700000000000)) (Reply.ok ()),
    .resume 0]

def acceptance (row : OutboxRow) : Option JsValue :=
  some (.obj [("data", .obj [("ok", .bool true), ("conversationId", .str "C-1"),
    ("messageId", .str row.messageId)])])

/-- The receiver accepts the first message and fails on the second. -/
def failedFlush : List ChatAction :=
  flushStarts ++ sendEnds firstRow 200 "OK" (acceptance firstRow) ++
    sendEnds secondRow 500 "Internal Server Error" none

def acceptedFlush : List ChatAction :=
  flushStarts ++ sendEnds firstRow 200 "OK" (acceptance firstRow) ++
    sendEnds secondRow 200 "OK" (acceptance secondRow)

/-- The second message is marked as forwarded with the first one's receipt. -/
theorem forwarded_never_acknowledged :
    ∃ p, ChatStart waitingWorld ∧ Reachable (chatSystem chatWiring chatSettings) waitingWorld p ∧
      ¬ ForwardedAreAcknowledged chatSettings p.snapshot :=
  ⟨_, ⟨rfl, by decide +kernel⟩,
    reachable_run (chatSystem chatWiring chatSettings) waitingWorld failedFlush
      (by decide +kernel),
    by decide +kernel⟩

theorem forwarded_was_acknowledged_accepted :
    ∃ p, Reachable (chatSystem chatWiring chatSettings) waitingWorld p ∧
      p.snapshot.state.service.outbox.all (fun row => row.forwardedAt.isSome) = true ∧
      ForwardedAreAcknowledged chatSettings p.snapshot :=
  ⟨_, reachable_run (chatSystem chatWiring chatSettings) waitingWorld acceptedFlush
      (by decide +kernel),
    by decide +kernel,
    forwarded_was_acknowledged chatWiring chatSettings waitingWorld ⟨rfl, by decide +kernel⟩ _
      (reachable_run (chatSystem chatWiring chatSettings) waitingWorld acceptedFlush
        (by decide +kernel))
      (by decide +kernel)⟩

end SelfService
