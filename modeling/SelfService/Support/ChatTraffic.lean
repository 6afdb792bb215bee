/-
What the chat asks of its receiver, at most.

A flush goes over one batch and sends every row of it at most once; a message that is
saved starts one flush, and a conversation is read once.  The batch is what the database
answers, so here the demand rests on what it may answer.
-/

import SelfService.Port.Traffic
import SelfService.Support.ChatDelivery

namespace SelfService

open Data EventLoop ChatOutboxForwarder

/-- The chat adapter goes out by `fetch`. -/
def ChatRequest.demand : ChatRequest → Demand
  | .fetch _ => once (.adapter "cskh-chat")
  | .probe _ _ | .randomUUID | .insert _ | .selectPending _ | .selectByUser _
  | .markForwarded _ _ => 0

/-- Every row of a batch may be sent, or queued for a replay. -/
def flushDemand : Demand := FLUSH_BATCH • executing "cskh-chat"

def ChatCall.demand : ChatCall → Demand
  | .sendMessage _ userId text _ => if SupportService.validMessage userId text then flushDemand else 0
  | .getConversation _ _ => executing "cskh-chat"
  | .flushOnce _ => flushDemand

def chatTariff : Tariff (portSignature chat) Demand := portTariff ChatRequest.demand ChatCall.demand

section Programs

variable {wiring : Wiring} {settings : ChatSettings}

/-- The task costs at most the demand. -/
abbrev ChatCosts (wiring : Wiring) (settings : ChatSettings) {α : Type} (task : ChatTask α)
    (demand : Demand) : Prop :=
  task.Affords (chatSystem wiring settings) chatTariff demand

/-- Requests that do not leave the process are free. -/
theorem chatAsk_free (request : ChatRequest) (inside : request.demand = 0) :
    ChatCosts wiring settings (chatAsk request) 0 :=
  ⟨0, by rw [add_zero]; exact inside.le, fun _ _ _ _ => trivial⟩

/-! ### The adapter -/

theorem post_costs (url secret : String) (params messageId : JsValue) :
    ChatCosts wiring settings (CskhChatAdapter.post settings url secret params messageId)
      (once (.adapter "cskh-chat")) := by
  intro world
  refine ⟨0, (add_zero _).le, ?_⟩
  intro outcome before after performed
  cases (outcome : FetchOutcome) with
  | response status statusText json =>
      change Task.Affords _ _ (ite _ _ (ite _ _ _)) _
      split
      · exact trivial
      · split
        · exact trivial
        · exact trivial
  | aborted => exact trivial
  | unreachable reason => exact trivial

theorem messageIdOf_costs (params : JsValue) :
    ChatCosts wiring settings (CskhChatAdapter.messageIdOf params) 0 := by
  unfold CskhChatAdapter.messageIdOf
  split
  · exact (chatAsk_free .randomUUID rfl).before fun _ => trivial
  · exact trivial

theorem adapter_sendMessage_costs (params : JsValue) :
    ChatCosts wiring settings (CskhChatAdapter.sendMessage settings params)
      (once (.adapter "cskh-chat")) := by
  unfold CskhChatAdapter.sendMessage
  split
  · exact trivial
  · exact trivial
  · exact (messageIdOf_costs params).before fun messageId => post_costs _ _ params messageId

theorem adapter_getConversation_costs (params : JsValue) :
    ChatCosts wiring settings (CskhChatAdapter.getConversation settings params)
      (once (.adapter "cskh-chat")) := by
  unfold CskhChatAdapter.getConversation
  split
  · intro world
    refine ⟨0, (add_zero _).le, ?_⟩
    intro outcome before after performed
    cases (outcome : FetchOutcome) with
    | response status statusText json =>
        change Task.Affords _ _ (ite _ _ _) _
        split
        · exact trivial
        · exact trivial
    | aborted => exact trivial
    | unreachable reason => exact trivial
  · exact trivial

theorem chat_adapters_cost : AdaptersCostOnce (chatSystem wiring settings) ChatRequest.demand
    ChatCall.demand (chatDeployment wiring settings) := by
  intro ref context method params
  change Task.Affords _ _ (ite _ _ _) _
  split
  · rename_i own
    rw [own]
    unfold CskhChatAdapter.execute
    split
    · exact adapter_sendMessage_costs params
    · split
      · exact adapter_getConversation_costs params
      · exact trivial
  · exact remoteAdapter_costs ref context method params

/-! ### The forwarder -/

theorem wireReachable_costs : ChatCosts wiring settings (wireReachable settings) 0 := by
  unfold wireReachable
  split
  · exact trivial
  · intro world
    change Task.Affords _ _ (ite _ _ _) _
    split
    · exact trivial
    · intro started
      exact (chatAsk_free (.probe _ _) rfl).before fun reachable noted => trivial

theorem forwardRow_costs (context : Option RequestContext) (row : OutboxRow) :
    ChatCosts wiring settings (forwardRow (chatDeployment wiring settings) context row)
      (executing "cskh-chat") := by
  apply (PortRegistry.execute_costs chat_adapters_cost (sendInvocation context row)).followed
  intro result
  change Task.Affords _ _ (ite _ _ _) _
  split
  · intro world
    apply (chatAsk_free (.markForwarded _ _) rfl).before
    intro reply
    cases (reply : Reply Unit) with
    | ok done => exact trivial
    | failed applied reason => exact trivial
  · exact trivial

theorem forwardRows_costs (context : Option RequestContext) (rows : List OutboxRow)
    (forwarded : Nat) :
    ChatCosts wiring settings
      (forwardRows (chatDeployment wiring settings) context rows forwarded)
      (rows.length • executing "cskh-chat") := by
  induction rows generalizing forwarded with
  | nil => exact trivial
  | cons row rest ih =>
      rw [List.length_cons, succ_nsmul']
      unfold forwardRows
      apply (forwardRow_costs context row).attempt.bind
      intro outcome
      split
      · exact ih (forwarded + 1)
      · exact ih forwarded

/-- The database never answers with more rows than the batch holds. -/
theorem flushOnce_costs (context : Option RequestContext) :
    ChatCosts wiring settings (flushOnce (chatDeployment wiring settings) settings context)
      flushDemand := by
  apply wireReachable_costs.before
  intro reachable
  split
  · refine ⟨flushDemand, (zero_add _).le, ?_⟩
    intro reply before after performed
    cases (reply : Reply (List OutboxRow)) with
    | failed applied reason => exact trivial
    | ok rows =>
        obtain ⟨state, answered, -⟩ := Option.map_eq_some_iff.mp performed
        obtain ⟨batch, -⟩ := Option.ite_none_right_eq_some.mp answered
        have short : rows.length ≤ FLUSH_BATCH := by
          rw [batch]
          exact List.length_take_le _ _
        apply (forwardRows_costs context rows 0).mono
        intro kind
        exact Nat.mul_le_mul_right _ short
  · exact trivial

/-! ### The service -/

theorem sendMessage_costs (context : Option RequestContext) (userId text messageId : String) :
    ChatCosts wiring settings
      (SupportService.sendMessage settings context userId text messageId)
      (ChatCall.sendMessage context userId text messageId).demand := by
  simp only [SupportService.sendMessage, ChatCall.demand]
  split
  · intro world
    apply (chatAsk_free (.insert _) rfl).before
    intro reply
    cases (reply : Reply Unit) with
    | ok done => exact ⟨0, (add_zero _).le, trivial⟩
    | failed applied reason => exact trivial
  · exact trivial

theorem getConversation_costs (context : Option RequestContext) (userId : String) :
    ChatCosts wiring settings
      (SupportService.getConversation (chatDeployment wiring settings) context userId)
      (executing "cskh-chat") := by
  unfold SupportService.getConversation
  apply (PortRegistry.execute_costs chat_adapters_cost
    (SupportService.conversationInvocation context userId)).followed
  intro result
  apply (chatAsk_free (.selectByUser userId) rfl).before
  intro reply
  cases (reply : Reply (List OutboxRow)) with
  | failed applied reason => exact trivial
  | ok rows =>
      dsimp only
      split
      · exact trivial
      · exact trivial

theorem chat_body_costs (call : PortCall ⊕ ChatCall) :
    ChatCosts wiring settings ((chatSystem wiring settings).body call) (chatTariff.budget call) := by
  cases call with
  | inl call => exact portBody_costs chat_adapters_cost call
  | inr call =>
      cases call with
      | sendMessage context userId text messageId =>
          exact (sendMessage_costs context userId text messageId).followed fun _ => trivial
      | getConversation context userId =>
          exact (getConversation_costs context userId).followed fun _ => trivial
      | flushOnce context => exact (flushOnce_costs context).followed fun _ => trivial

end Programs

/-- In every run, no call asks more of the receivers than its own demand, and all of them
together, with the flushes they started, ask no more than the calls made from outside. -/
theorem chat_traffic_bounded (wiring : Wiring) (settings : ChatSettings) (world : World chat)
    {schedule : List (Action (portSignature chat) PortExternal)}
    {p : Pool (portSignature chat) Resolution}
    (ran : (Pool.initial world).run (chatSystem wiring settings) schedule = some p)
    (kind : Traffic) :
    (∀ tid call, p.snapshot.Saw tid (.started call) →
      spent chatTariff (ownEntries tid p.snapshot.trace) kind ≤ chatTariff.budget call kind) ∧
      spent chatTariff p.snapshot.trace kind ≤ granted chatTariff schedule kind := by
  constructor
  · intro tid call began
    have reached : Reachable (chatSystem wiring settings) world p := ⟨schedule, ran⟩
    exact reached.within_budget began (chat_body_costs call) kind
  · exact spent_le_granted chat_body_costs ran kind

/-- Two waiting messages are sent once each, by a flush that might send fifty. -/
theorem chat_traffic_bounded_flush :
    ∃ p, (Pool.initial waitingWorld).run (chatSystem chatWiring chatSettings) acceptedFlush =
        some p ∧
      spent chatTariff p.snapshot.trace (.adapter "cskh-chat") = 2 ∧
      granted chatTariff acceptedFlush (.adapter "cskh-chat") = 50 ∧
      spent chatTariff p.snapshot.trace (.adapter "cskh-chat") ≤
        granted chatTariff acceptedFlush (.adapter "cskh-chat") := by
  have shows : ((Pool.initial waitingWorld).run (chatSystem chatWiring chatSettings)
      acceptedFlush).any (fun p =>
        spent chatTariff p.snapshot.trace (.adapter "cskh-chat") = 2) = true := by
    decide +kernel
  obtain ⟨p, ran, seen⟩ := (Option.any_eq_true _ _).mp shows
  refine ⟨p, ran, of_decide_eq_true seen, ?_, ?_⟩
  · decide +kernel
  · exact (chat_traffic_bounded chatWiring chatSettings waitingWorld ran _).2

end SelfService
