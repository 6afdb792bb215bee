/-
Which customer a user is taken for.

A bind writes the row before it leaves the entry for the guard, and the guard
puts back only what it read from a row.  So whatever the cache drops, and in
whatever order binds, guards and reads come, the customer that is attached to a
request and the one `GET /auth/me` tells are customers the user was bound to,
and nobody who was bound is turned away for want of a binding.
-/

import SelfService.Binding.BindingProvenance
import SelfService.EventLoop.Moments

namespace SelfService

open Data EventLoop BindingService BindingVerifiedGuard PiiEncryptionService

variable {client : CustomerServiceClient}

/-! ### What the readers make of an entry -/

/-- The entry for a row. -/
def entryOf (row : CustomerBinding) : JsValue :=
  bindingEntry row.customerId row.customerRef
    ((row.verifiedAt.map JsValue.date).getD .null) row.deviceInfo

/-- What the guard attaches for an entry. -/
def attached (aes : AesGcm) (userId : String) (entry : JsValue) : Except Exn JsValue :=
  if entry.truthy then
    match decryptCipher aes (entry.field "customerIdCipher") with
    | .error error => .error error
    | .ok customerId =>
        match customerId.filter fun text => text ≠ "" with
        | none => .error integrityError
        | some customerId => .ok (boundCustomer userId customerId entry)
  else .error forbidden

theorem filter_named {text : String} (named : text ≠ "") :
    (some text).filter (fun text => decide (text ≠ "")) = some text := by
  simp [named]

theorem canActivate_eq (aes : AesGcm) {userId : String} (named : userId ≠ "") :
    (canActivate aes (some userId) false : BindingTask client (Option JsValue)) =
      resolveBinding userId >>= fun entry =>
        Task.settleWith ((attached aes userId entry).map some) := by
  rw [canActivate, filter_named named]
  simp only [Bool.false_eq_true, if_false]
  congr 1
  funext entry
  unfold attached
  split
  · cases decryptCipher aes (entry.field "customerIdCipher") with
    | error error => rfl
    | ok customerId =>
        simp only
        cases customerId.filter fun text => decide (text ≠ "") with
        | none => rfl
        | some customerId => rfl
  · rfl

/-- The ciphertext of an entry comes back from either cache. -/
theorem stored_bindingEntry (backend : Backend) (encCustomerId : Option String)
    (customerRef : String) (verifiedAt : JsValue) (deviceInfo : Option String) :
    ∃ fields, backend.stored (bindingEntry encCustomerId customerRef verifiedAt deviceInfo) =
      .obj fields ∧ (JsValue.obj fields).field "customerIdCipher" =
        (encCustomerId.map JsValue.str).getD .null := by
  unfold Backend.stored
  cases backend.kind with
  | memory => exact ⟨_, rfl, rfl⟩
  | redis =>
      cases encCustomerId with
      | none => exact ⟨_, rfl, rfl⟩
      | some cipher => exact ⟨_, rfl, rfl⟩

/-- What a ciphertext that opens to a customer is attached as. -/
theorem attached_of_sealed {aes : AesGcm} {userId customerId : String} {entry : JsValue}
    {encCustomerId : Option String} {fields : List (String × JsValue)} (same : entry = .obj fields)
    (cipher : entry.field "customerIdCipher" = (encCustomerId.map JsValue.str).getD .null)
    (opens : decryptIfNeeded aes encCustomerId = .ok (some customerId)) (named : customerId ≠ "") :
    attached aes userId entry = .ok (boundCustomer userId customerId entry) := by
  cases encCustomerId with
  | none => cases opens
  | some text =>
      have truthy : entry.truthy = true := by
        rw [same]
        rfl
      rw [attached, if_pos truthy, cipher]
      simp only [Option.map_some, Option.getD_some, decryptCipher]
      rw [opens]
      simp only [filter_named named]

/-! ### Keys -/

/-- A user without a colon has no key in common with the other families. -/
theorem ne_bindKey {userId start : String} (plain : ':' ∉ userId.toList)
    (colon : ':' ∈ start.toList.drop 5) (rest : String) : start ++ rest ≠ bindKey userId := by
  intro same
  have behind := congrArg (fun key => key.toList.drop 5) same
  have user : (bindKey userId).toList.drop 5 = userId.toList := by
    rw [bindKey, String.toList_append]
    rfl
  rw [user, String.toList_append, List.drop_append] at behind
  rw [← behind] at plain
  exact plain (List.mem_append_left _ colon)

theorem bindKey_injective {first second : String} (same : bindKey first = bindKey second) :
    first = second :=
  (String.append_right_inj _).mp same

/-- Requests that put nothing under the key of a user. -/
def SparesBindings : PortRequest ⊕ BindingRequest → Prop
  | .inl (.cache (.set key _ _)) => ∀ userId, ':' ∉ userId.toList → key ≠ bindKey userId
  | _ => True

theorem IsCeiling.failKey_ne {ceiling : Ceiling} (kind : IsCeiling ceiling) {userId : String}
    (plain : ':' ∉ userId.toList) : ceiling.failKey ≠ bindKey userId := by
  cases kind with
  | userRef user customerRef =>
      change "bind:fail:user:" ++ user ++ ":" ++ customerRef ≠ _
      rw [String.append_assoc, String.append_assoc]
      exact ne_bindKey plain (by decide) _
  | customer customerRef => exact ne_bindKey plain (by decide) customerRef
  | userTotal user => exact ne_bindKey plain (by decide) user

theorem IsCeiling.lockKey_ne {ceiling : Ceiling} (kind : IsCeiling ceiling) {userId : String}
    (plain : ':' ∉ userId.toList) : ceiling.lockKey ≠ bindKey userId := by
  cases kind with
  | userRef user customerRef =>
      change "bind:lock:user:" ++ user ++ ":" ++ customerRef ≠ _
      rw [String.append_assoc, String.append_assoc]
      exact ne_bindKey plain (by decide) _
  | customer customerRef => exact ne_bindKey plain (by decide) customerRef
  | userTotal user => exact ne_bindKey plain (by decide) user

theorem LimiterIssues.sparesBindings {request : PortRequest ⊕ BindingRequest}
    (issued : LimiterIssues request) : SparesBindings request := by
  cases issued with
  | count ceiling kind now entry => exact fun _ plain => kind.failKey_ne plain
  | lock ceiling kind => exact fun _ plain => kind.lockKey_ne plain
  | _ => exact trivial

/-! ### The law -/

/-- A row of the user was named and written with these values. -/
def WrittenFor (past : BindingTrace client) (userId : String) (values : VerifiedValues) : Prop :=
  ∃ named ∈ past, ∃ wrote ∈ past, ∃ id customerRef,
    ownerIn named = some (id, userId, customerRef) ∧ writtenBy wrote = some (id, values)

/-- The task wrote this ciphertext into a row of the user, or read it from one. -/
def Traceable (past : BindingTrace client) (tid : Nat) (userId : String)
    (encCustomerId : Option String) : Prop :=
  (∃ values, WrittenFor past userId values ∧ values.encCustomerId = encCustomerId) ∨
    ∃ row, Saw past tid (.answered (.inr (.selectVerified userId)) (Reply.ok (some row))) ∧
      row.customerId = encCustomerId

/-- Whoever is told that he is bound has a row with the customer he is told. -/
def Concludes (aes : AesGcm) (past : BindingTrace client) (userId : String)
    (result : Except Exn BindResult) : Prop :=
  ∀ made, result = .ok made → made.bound = true → ∃ values iv customerId,
    WrittenFor past userId values ∧
      values.encCustomerId = encryptIfNeeded aes iv (some customerId) ∧
      made.customerId = some customerId

/-- What a lookup of the user's binding ends in. -/
inductive Found (past : BindingTrace client) (tid : Nat) (userId : String) :
    Except Exn JsValue → Prop
  | cached (entry : JsValue) (truthy : entry.truthy = true)
      (looked : Saw past tid (.answered (.inl (.cache (.get (bindKey userId)))) (Reply.ok entry))) :
      Found past tid userId (.ok entry)
  | read (row : CustomerBinding)
      (looked : Saw past tid
        (.answered (.inr (.selectVerified userId)) (Reply.ok (some row)))) :
      Found past tid userId (.ok (entryOf row))
  | unbound (looked : Saw past tid (.answered (.inr (.selectVerified userId)) (Reply.ok none))) :
      Found past tid userId (.ok .null)
  | unread (applied : Bool) (reason : String)
      (looked : Saw past tid
        (.answered (.inr (.selectVerified userId)) (Reply.failed applied reason))) :
      Found past tid userId (.error (.error reason))

def GuardEnds (aes : AesGcm) (past : BindingTrace client) (tid : Nat) (userId : String)
    (result : Except Exn Resolution) : Prop :=
  ∃ found, Found past tid userId found ∧
    result = (found.bind (attached aes userId)).map Resolution.value

/-- What `GET /auth/me` ends in. -/
inductive MeEnds (aes : AesGcm) (past : BindingTrace client) (tid : Nat) (userId : String) :
    Except Exn JsValue → Prop
  | unknown (applied : Bool) (reason : String)
      (looked : Saw past tid
        (.answered (.inr (.selectIdentity userId)) (Reply.failed applied reason))) :
      MeEnds aes past tid userId (.error (.error reason))
  | unread (applied : Bool) (reason : String)
      (looked : Saw past tid
        (.answered (.inr (.selectVerified userId)) (Reply.failed applied reason))) :
      MeEnds aes past tid userId (.error (.error reason))
  | told (row : Option CustomerBinding) (result : Except Exn JsValue)
      (looked : Saw past tid (.answered (.inr (.selectVerified userId)) (Reply.ok row)))
      (tells : ∀ customerId,
        decryptIfNeeded aes (row.bind CustomerBinding.customerId) = .ok customerId →
          ∃ me, result = .ok me ∧
            me.field "customerId" = AuthController.optionalText customerId ∧
            me.field "linked" = .bool row.isSome) : MeEnds aes past tid userId result

def BindingLaw (aes : AesGcm) (past : BindingTrace client) (entry : BindingTraceEntry client) :
    Prop :=
  match entry.event with
  | .answered (.inl (.cache (.set key value _))) _ => ∀ userId, ':' ∉ userId.toList →
      key = bindKey userId → ∃ encCustomerId customerRef verifiedAt deviceInfo,
        value = bindingEntry encCustomerId customerRef verifiedAt deviceInfo ∧
          Traceable past entry.tid userId encCustomerId
  | .finished (.inr (.bind userId _ _ _ _ _)) (.ok (.value result)) =>
      ∃ made, result = BindResult.toJs made ∧ Concludes aes past userId (.ok made)
  | .finished (.inr (.bindRegister userId _ _ _ _ _)) (.ok (.value result)) =>
      ∃ made, result = BindResult.toJs made ∧ Concludes aes past userId (.ok made)
  | .finished (.inr (.guard (some userId) false)) result => userId ≠ "" →
      GuardEnds aes past entry.tid userId result
  | .finished (.inr (.getMe userId)) result => ∃ told, result = told.map Resolution.value ∧
      MeEnds aes past entry.tid userId told
  | _ => True

theorem bindingLaw_of_spares {aes : AesGcm} {past : BindingTrace client} {tid time : Nat}
    {request : PortRequest ⊕ BindingRequest}
    {answer : (portSignature (binding client)).Ans request} (spares : SparesBindings request) :
    BindingLaw aes past ⟨tid, time, .answered request answer⟩ := by
  rcases request with (command | other | other) | request
  · cases command with
    | set key value ttl => exact fun userId plain same => absurd same (spares userId plain)
    | _ => exact trivial
  · exact trivial
  · exact trivial
  · exact trivial

section Walk

variable {aes : AesGcm} {wiring : Wiring} {environment : CacheEnvironment} {tid : Nat}
  {α β : Type} {state : BindingWorld client} {past : BindingTrace client}
  {post : Except Exn β → BindingWorld client → BindingTrace client → Prop}

/-- From here on the task obeys the law, and ends so. -/
abbrev Minds (aes : AesGcm) (wiring : Wiring) (environment : CacheEnvironment) (tid : Nat)
    (post : Except Exn β → BindingWorld client → BindingTrace client → Prop)
    (task : BindingTask client β) (state : BindingWorld client) (past : BindingTrace client) :
    Prop :=
  Obeys (bindingSystem client aes wiring environment) tid (BindingLaw aes) post task state past

/-- A bind that has not written a row yet. -/
abbrev Concluding (aes : AesGcm) (wiring : Wiring) (environment : CacheEnvironment) (tid : Nat)
    (userId : String) (task : BindingTask client BindResult) (state : BindingWorld client)
    (past : BindingTrace client) : Prop :=
  Minds aes wiring environment tid (fun result _ all => Concludes aes all userId result) task
    state past

theorem concludes_error {userId : String} (error : Exn) :
    Concludes aes past userId (.error error) := by
  intro made same
  cases same

theorem concludes_unbound {userId : String} :
    Concludes aes past userId (.ok ⟨false, none⟩) := by
  intro made same bound
  cases same
  cases bound

theorem minds_bind {task : BindingTask client α} {rest : α → BindingTask client β}
    (spares : task.Asks SparesBindings fun _ => True)
    (failed : ∀ error last all, past <+: all → post (.error error) last all)
    (next : ∀ value last all, past <+: all →
      Minds aes wiring environment tid post (rest value) last all) :
    Minds aes wiring environment tid post (task >>= rest) state past :=
  spares.obeys_bind (fun _ _ _ _ => bindingLaw_of_spares) (fun _ _ _ _ => trivial)
    (fun error last all adds => failed error last all adds.grown)
    fun value last all adds => next value last all adds.grown

theorem concluding_bind {userId : String} {task : BindingTask client α}
    {rest : α → BindingTask client BindResult} (spares : task.Asks SparesBindings fun _ => True)
    (next : ∀ value last all, past <+: all →
      Concluding aes wiring environment tid userId (rest value) last all) :
    Concluding aes wiring environment tid userId (task >>= rest) state past :=
  minds_bind spares (fun error _ _ _ => concludes_error error) next

theorem Limits.sparesBindings {task : BindingTask client α} (limits : Limits task) :
    task.Asks SparesBindings fun _ => True :=
  limits.weaken fun _ => LimiterIssues.sparesBindings

theorem Consults.sparesBindings {task : BindingTask client α} (consults : Consults task) :
    task.Asks SparesBindings fun _ => True := by
  apply consults.weaken
  rintro _ ⟨request⟩
  exact trivial

/-- Once the row is written the rest knows it. -/
theorem minds_upsertVerified (state : BindingWorld client) {userId customerRef rowId : String}
    {values : VerifiedValues}
    {rest : Unit → BindingTask client β}
    (failed : ∀ error last all, post (.error error) last all)
    (next : ∀ last all, WrittenFor all userId values →
      Minds aes wiring environment tid post (rest ()) last all) :
    Minds aes wiring environment tid post (upsertVerified userId customerRef values rowId >>= rest)
      state past := by
  intro answer before after resumed performed
  refine ⟨trivial, ?_⟩
  cases answer with
  | failed applied reason => exact failed _ _ _
  | ok found =>
      cases found with
      | none =>
          intro reply beforeWrite afterWrite later written
          refine ⟨trivial, ?_⟩
          cases reply with
          | failed applied reason => exact failed _ _ _
          | ok done =>
              apply next
              have last := List.mem_append_right
                (past ++ [⟨tid, (bindingSystem client aes wiring environment).clock after,
                  .answered (.inr (.selectBinding userId customerRef)) (Reply.ok none)⟩])
                (List.mem_singleton_self (⟨tid,
                  (bindingSystem client aes wiring environment).clock afterWrite,
                  .answered (.inr (.insertBinding rowId userId customerRef values))
                    (Reply.ok ())⟩ : BindingTraceEntry client))
              exact ⟨_, last, _, last, rowId, customerRef, rfl, rfl⟩
      | some id =>
          intro reply beforeWrite afterWrite later written
          refine ⟨trivial, ?_⟩
          cases reply with
          | failed applied reason => exact failed _ _ _
          | ok done =>
              apply next
              refine ⟨_, List.mem_append_left _ (List.mem_append_right _
                (List.mem_singleton_self _)), _,
                List.mem_append_right _ (List.mem_singleton_self _), id, customerRef, ?_, ?_⟩
              · exact rfl
              · exact rfl

theorem WrittenFor.mono {all : BindingTrace client} {userId : String} {values : VerifiedValues}
    (written : WrittenFor past userId values) (within : past ⊆ all) :
    WrittenFor all userId values := by
  obtain ⟨named, namedIn, wrote, wroteIn, rest⟩ := written
  exact ⟨named, within namedIn, wrote, within wroteIn, rest⟩

/-- What is put back under a user's key comes from a row. -/
theorem minds_put {userId customerRef : String} {encCustomerId : Option String}
    {verifiedAt : JsValue} {deviceInfo : Option String} {ttl : Option Nat}
    {rest : Except Exn Unit → BindingTask client β}
    (traceable : Traceable past tid userId encCustomerId)
    (next : ∀ outcome last all, past <+: all →
      Minds aes wiring environment tid post (rest outcome) last all) :
    Minds aes wiring environment tid post
      ((CacheService.set (bindKey userId)
        (bindingEntry encCustomerId customerRef verifiedAt deviceInfo) ttl :
          BindingTask client Unit).attempt >>= rest) state past := by
  intro reply before after resumed performed
  constructor
  · intro user plain same
    rw [← bindKey_injective same]
    exact ⟨encCustomerId, customerRef, verifiedAt, deviceInfo, rfl, traceable⟩
  · cases reply with
    | ok done => exact next _ _ _ (List.prefix_append _ _)
    | failed applied reason => exact next _ _ _ (List.prefix_append _ _)

theorem concluding_warm {userId customerRef : String} {values : VerifiedValues}
    {customerId : String} {iv : Iv} (written : WrittenFor past userId values)
    (sealed_ : values.encCustomerId = encryptIfNeeded aes iv (some customerId)) :
    Concluding aes wiring environment tid userId
      (warm userId customerRef values >>= fun _ => .done ⟨true, some customerId⟩) state past := by
  rw [Concluding, warm, bind_assoc]
  apply minds_put (Or.inl ⟨values, written, rfl⟩)
  intro outcome last all grown made same bound
  cases same
  exact ⟨values, iv, customerId, written.mono grown.subset, sealed_, rfl⟩

/-! ### The calls -/

theorem concluding_complete {userId sessionId : String} {body : BindBody}
    {deviceInfo ip : Option String} {draws : Draws} :
    Concluding aes wiring environment tid userId
      (complete aes userId sessionId body deviceInfo ip draws) state past := by
  apply concluding_bind (consults_profile _).sparesBindings
  intro profile last all _
  apply minds_upsertVerified last fun error _ _ => concludes_error error
  intro last all written
  apply concluding_bind (limits_clearFailures _ _).sparesBindings
  intro _ last more longer
  apply concluding_bind (asks_delete trivial)
  intro _ last longest further
  apply concluding_bind (consults_writeAudit _).sparesBindings
  intro _ last whole rest
  exact concluding_warm (written.mono (longer.trans (further.trans rest)).subset) rfl

theorem concluding_refuse {userId : String} {body : BindBody} {deviceInfo ip : Option String} :
    Concluding aes wiring environment tid userId (refuse userId body deviceInfo ip) state past := by
  apply concluding_bind (limits_recordFailure _ _).sparesBindings
  intro fail last all _
  simp only
  split
  · exact concluding_bind (consults_writeAudit _).sparesBindings
      fun _ _ _ _ => concludes_error _
  · exact concluding_bind (consults_writeAudit _).sparesBindings fun _ _ _ _ => concludes_unbound

theorem concluding_challenge {userId sessionId : String} {body : BindBody}
    {deviceInfo ip : Option String} {draws : Draws} :
    Concluding aes wiring environment tid userId
      (challenge aes userId sessionId body deviceInfo ip draws) state past := by
  apply concluding_bind (limits_checkLocked _ _).sparesBindings
  intro lock last all _
  simp only
  split
  · exact concluding_bind (consults_writeAudit _).sparesBindings
      fun _ _ _ _ => concludes_error _
  · apply concluding_bind (consults_verify _).sparesBindings
    intro verdict last all _
    split
    · exact concluding_complete
    · exact concluding_refuse

theorem concluding_bindCall {userId sessionId : String} {body : BindBody}
    {deviceInfo ip : Option String} {draws : Draws} :
    Concluding aes wiring environment tid userId
      (bind aes userId sessionId body deviceInfo ip draws) state past := by
  apply concluding_bind (asks_get trivial)
  intro init last all _
  split
  · split
    · exact concludes_error _
    · split
      · exact concluding_challenge
      · exact concluding_bind (consults_writeAudit _).sparesBindings
          fun _ _ _ _ => concludes_error _
  · exact concluding_bind (consults_writeAudit _).sparesBindings fun _ _ _ _ => concludes_error _

theorem concluding_register {userId sessionId : String} {created : CreateCustomerResult}
    {deviceInfo ip : Option String} {draws : Draws} :
    Concluding aes wiring environment tid userId
      (register aes userId sessionId created deviceInfo ip draws) state past := by
  apply minds_upsertVerified state fun error _ _ => concludes_error error
  intro last all written
  apply concluding_bind (asks_delete trivial)
  intro _ last more longer
  apply concluding_bind (consults_writeAudit _).sparesBindings
  intro _ last whole rest
  exact concluding_warm (written.mono (longer.trans rest).subset) rfl

theorem concluding_bindRegister {userId sessionId : String} {request : CreateCustomerRequest}
    {deviceInfo ip : Option String} {draws : Draws} :
    Concluding aes wiring environment tid userId
      (bindRegister aes userId sessionId request deviceInfo ip draws) state past := by
  apply concluding_bind (consults_getSessionPhone userId).sparesBindings
  intro phone last all _
  cases phone with
  | none => exact concludes_error _
  | some phone =>
      apply concluding_bind (consults_resolve phone).sparesBindings
      intro resolved last all _
      simp only
      split
      · apply concluding_bind (consults_create phone request).sparesBindings.attempt
        intro outcome last all _
        split
        · exact concluding_register
        · exact concluding_bind (consults_writeAudit _).sparesBindings
            fun _ _ _ _ => concludes_error _
        · exact concludes_error _
      · exact concluding_bind (consults_writeAudit _).sparesBindings
          fun _ _ _ _ => concludes_error _

theorem spares_bindInit (userId sessionId : String) (deviceInfo ip : Option String) :
    (bindInit userId sessionId deviceInfo ip : BindingTask client ResolveResult).Asks
      SparesBindings fun _ => True := by
  apply (consults_getSessionPhone userId).sparesBindings.bind
  intro phone
  cases phone with
  | none => exact trivial
  | some phone =>
      apply (consults_resolve phone).sparesBindings.bind
      intro result
      apply (consults_writeAudit _).sparesBindings.bind
      intro _
      have spares : SparesBindings
          (.inl (.cache (.set (initKey sessionId) result.toJs (some INIT_TTL_SEC)))) :=
        fun _ plain => ne_bindKey plain (by decide) sessionId
      exact (asks_set spares).bind fun _ => trivial

/-- The guard looks into the cache, and then for a row, which it puts back. -/
theorem minds_resolveBinding {userId : String} :
    Minds aes wiring environment tid (fun result _ all => Found all tid userId result)
      (resolveBinding userId) state past := by
  apply obeys_get
  · exact fun _ _ => trivial
  · intro reply time last
    simp only
    split
    · rename_i truthy
      cases reply with
      | ok cached =>
          exact .cached cached truthy ⟨_, List.mem_append_right _ (List.mem_singleton_self _)⟩
      | failed applied reason => cases truthy
    · intro answer before after resumed performed
      refine ⟨trivial, ?_⟩
      have looked := List.mem_append_right
        (past ++ [⟨tid, time, .answered (.inl (.cache (.get (bindKey userId)))) reply⟩])
        (List.mem_singleton_self (⟨tid, (bindingSystem client aes wiring environment).clock after,
          .answered (.inr (.selectVerified userId)) answer⟩ : BindingTraceEntry client))
      cases answer with
      | failed applied reason => exact .unread applied reason ⟨_, looked⟩
      | ok found =>
          cases found with
          | none => exact .unbound ⟨_, looked⟩
          | some row =>
              apply minds_put (Or.inr ⟨row, ⟨_, looked⟩, rfl⟩)
              intro outcome last all grown
              exact .read row ⟨_, grown.subset looked⟩

theorem minds_canActivate {userId : String} (named : userId ≠ "") :
    Minds aes wiring environment tid
      (fun result _ all => ∃ found, Found all tid userId found ∧
        result = (found.bind (attached aes userId)).map some)
      (canActivate aes (some userId) false) state past := by
  rw [canActivate_eq aes named, Minds, obeys_bind]
  apply minds_resolveBinding.mono
  intro result last all found
  cases result with
  | error error => exact ⟨_, found, rfl⟩
  | ok entry =>
      change Minds aes wiring environment tid _ (Task.settleWith _) last all
      cases made : attached aes userId entry with
      | error error => exact ⟨_, found, by rw [Except.bind, made]; rfl⟩
      | ok customer => exact ⟨_, found, by rw [Except.bind, made]; rfl⟩

theorem minds_getMe {userId : String} :
    Minds aes wiring environment tid (fun result _ all => MeEnds aes all tid userId result)
      (AuthController.getMe aes userId) state past := by
  intro identity before after resumed performed
  refine ⟨trivial, ?_⟩
  cases identity with
  | failed applied reason =>
      exact .unknown applied reason ⟨_, List.mem_append_right _ (List.mem_singleton_self _)⟩
  | ok user =>
      intro answer beforeRead afterRead later performedRead
      refine ⟨trivial, ?_⟩
      cases answer with
      | failed applied reason =>
          exact .unread applied reason ⟨_, List.mem_append_right _ (List.mem_singleton_self _)⟩
      | ok row =>
          have looked := List.mem_append_right
            (past ++ [⟨tid, (bindingSystem client aes wiring environment).clock after,
              .answered (.inr (.selectIdentity userId)) (Reply.ok user)⟩])
            (List.mem_singleton_self (⟨tid,
              (bindingSystem client aes wiring environment).clock afterRead,
              .answered (.inr (.selectVerified userId)) (Reply.ok row)⟩ :
                BindingTraceEntry client))
          change Minds aes wiring environment tid _
            (EventLoop.Task.bind (.done row) _) _ _
          rw [Task.done_bind]
          cases opened : decryptIfNeeded aes (row.bind CustomerBinding.customerId) with
          | error error =>
              refine .told row _ ⟨_, looked⟩ ?_
              intro customerId opens
              rw [opened] at opens
              cases opens
          | ok customerId =>
              refine .told row _ ⟨_, looked⟩ ?_
              intro other opens
              rw [opened] at opens
              cases opens
              exact ⟨_, rfl, rfl, rfl⟩

theorem minds_body {time : Nat} (call : BindingCall) :
    Minds aes wiring environment tid
      (fun result _ all => ∀ moment, BindingLaw aes all ⟨tid, moment, .finished (.inr call) result⟩)
      (bindingBody aes call) state
      ([⟨tid, time, .started (.inr call)⟩] : BindingTrace client) := by
  cases call with
  | bindInit userId sessionId deviceInfo ip =>
      exact minds_bind (spares_bindInit _ _ _ _) (fun _ _ _ _ _ => trivial)
        fun _ _ _ _ _ => trivial
  | bind userId sessionId body deviceInfo ip draws =>
      rw [Minds, bindingBody, obeys_bind]
      apply concluding_bindCall.mono
      intro result last all concludes
      cases result with
      | error error => exact fun _ => trivial
      | ok made => exact fun _ => ⟨made, rfl, concludes⟩
  | bindRegister userId sessionId profile deviceInfo ip draws =>
      rw [Minds, bindingBody, obeys_bind]
      apply concluding_bindRegister.mono
      intro result last all concludes
      cases result with
      | error error => exact fun _ => trivial
      | ok made => exact fun _ => ⟨made, rfl, concludes⟩
  | guard userId skip =>
      rw [Minds, bindingBody, obeys_bind]
      cases userId with
      | none => exact fun _ => trivial
      | some userId =>
          by_cases named : userId = ""
          · subst named
            cases skip with
            | true => exact fun _ => trivial
            | false => exact fun _ present => absurd rfl present
          · cases skip with
            | true =>
                have idle : (canActivate aes (some userId) true :
                    BindingTask client (Option JsValue)) = .done none := by
                  rw [canActivate, filter_named named]
                  rfl
                rw [idle]
                exact fun _ => trivial
            | false =>
                apply (minds_canActivate named).mono
                rintro result last all ⟨found, seen, rfl⟩
                have ends : GuardEnds aes all tid userId
                    ((found.bind (attached aes userId)).map Resolution.value) := ⟨found, seen, rfl⟩
                cases made : found.bind (attached aes userId) with
                | error error =>
                    rw [made] at ends
                    exact fun _ _ => ends
                | ok customer =>
                    rw [made] at ends
                    exact fun _ _ => ends
  | getMe userId =>
      rw [Minds, bindingBody, obeys_bind]
      apply minds_getMe.mono
      intro result last all ends
      cases result with
      | error error => exact fun _ => ⟨_, rfl, ends⟩
      | ok me => exact fun _ => ⟨_, rfl, ends⟩

theorem minds_lawful (call : BindingCall) :
    Lawful (bindingSystem client aes wiring environment) (BindingLaw aes) tid (.inr call) where
  starts _ := trivial
  obeys _ _ := minds_body call

end Walk

/-! ### Every run -/

/-- A call of the user earned a row with the customer's id in it. -/
def BoundTo (aes : AesGcm) (trace : BindingTrace client) (userId customerId : String) : Prop :=
  customerId ≠ "" ∧ ∃ writer customerRef values,
    Earned aes (ownEntries writer trace) writer userId customerRef values ∧
      decryptIfNeeded aes values.encCustomerId = .ok (some customerId)

theorem BoundTo.mono {aes : AesGcm} {early late : BindingTrace client} {userId customerId : String}
    (bound : BoundTo aes early userId customerId) (grown : early <+: late) :
    BoundTo aes late userId customerId := by
  obtain ⟨named, writer, customerRef, values, earned, opens⟩ := bound
  exact ⟨named, writer, customerRef, values, earned.mono (grown.filter _), opens⟩

/-- The user and the answer of a bind or a registration that has ended. -/
def concludedIn (entry : BindingTraceEntry client) : Option (String × JsValue) :=
  match entry.event with
  | .finished (.inr (.bind userId _ _ _ _ _)) (.ok (.value result)) => some (userId, result)
  | .finished (.inr (.bindRegister userId _ _ _ _ _)) (.ok (.value result)) =>
      some (userId, result)
  | _ => none

/-- The user was told that he is bound. -/
def ToldBound (trace : BindingTrace client) (userId : String) : Prop :=
  ∃ entry ∈ trace, ∃ result, concludedIn entry = some (userId, result) ∧
    result.field "bound" = .bool true

/-- Nothing of the user is bound or cached at the start. -/
structure Stranger (wiring : Wiring) (world : BindingWorld client) (userId : String) : Prop where
  rows : ∀ id row, world.service.bindings.get? id = some row → row.userId = userId →
    row.status ≠ .verified
  entry : world.cache.get? (getFullKey wiring.backend.options (bindKey userId)) = none

section Runs

variable {aes : AesGcm} {wiring : Wiring} {environment : CacheEnvironment}
  {world : BindingWorld client} {p : BindingPool client} {before after : BindingTrace client}
  {tid time : Nat} {userId : String}

theorem boundTo_of_earned (named : customersNamed p.snapshot.trace = true)
    (grown : before <+: p.snapshot.trace) {writer : Nat} {customerRef : String}
    {values : VerifiedValues}
    (earned : Earned aes (ownEntries writer before) writer userId customerRef values) :
    ∃ customerId, BoundTo aes before userId customerId ∧
      decryptIfNeeded aes values.encCustomerId = .ok (some customerId) := by
  have inTrace {entry : BindingTraceEntry client} (member : entry ∈ ownEntries writer before) :
      entry ∈ p.snapshot.trace :=
    grown.subset (mem_ownEntries.mp member).1
  have sealedFor {iv : Iv} {customerId : String} (present : customerId ≠ "")
      (same : values.encCustomerId = encryptIfNeeded aes iv (some customerId)) :
      ∃ customerId, BoundTo aes before userId customerId ∧
        decryptIfNeeded aes values.encCustomerId = .ok (some customerId) := by
    have opens : decryptIfNeeded aes values.encCustomerId = .ok (some customerId) := by
      rw [same]
      exact decryptIfNeeded_encryptIfNeeded aes iv present
    exact ⟨customerId, ⟨present, writer, customerRef, values, earned, opens⟩, opens⟩
  cases earned with
  | challenge early late time sessionId body deviceInfo ip draws init profile split began chosen
      offered verified profiled encrypted =>
      obtain ⟨moment, seen⟩ := profiled
      have member := inTrace (split ▸ List.mem_append_right early (List.mem_cons_of_mem _ seen))
      exact sealedFor (named_of_saw named member rfl) encrypted
  | registration sessionId phone request deviceInfo ip draws created began made chosen encrypted =>
      obtain ⟨moment, seen⟩ := made
      exact sealedFor (created_named_of_saw named (inTrace seen) rfl) encrypted

/-- Whatever is written into a row of the user was earned by the user. -/
theorem boundTo_of_write
    (reached : Reachable (bindingSystem client aes wiring environment) world p)
    (named : customersNamed p.snapshot.trace = true) {id : String}
    (owned : ∀ entry ∈ p.snapshot.trace, ∀ user customerRef,
      ownerIn entry = some (id, user, customerRef) → user = userId)
    {wrote : BindingTraceEntry client} (split : p.snapshot.trace = before ++ wrote :: after)
    {values : VerifiedValues} (writes : writtenBy wrote = some (id, values)) :
    ∃ customerId, BoundTo aes before userId customerId ∧
      decryptIfNeeded aes values.encCustomerId = .ok (some customerId) := by
  have earlier : before <+: p.snapshot.trace := ⟨_, split.symm⟩
  obtain ⟨tid, time, event⟩ := wrote
  unfold writtenBy at writes
  split at writes
  · rename_i request answer same
    cases same
    have served := (binding_chronicle reached).owned.services before _ after split _ _ rfl
    have law := binding_lawful (fun tid call => earns_lawful call) reached split served
    cases request with
    | updateBinding other written =>
        obtain ⟨-, same⟩ := Option.ite_none_right_eq_some.mp writes
        cases same
        obtain ⟨user, customerRef, selected, earned⟩ := law
        obtain ⟨moment, seen⟩ := saw_of_own selected
        have mine := owned _ (earlier.subset seen) user customerRef rfl
        subst mine
        exact boundTo_of_earned named earlier earned
    | insertBinding other user customerRef written =>
        obtain ⟨applied, same⟩ := Option.ite_none_right_eq_some.mp writes
        cases same
        have mine := owned
          ⟨tid, time, .answered (.inr (.insertBinding id user customerRef values)) answer⟩
          (split ▸ List.mem_append_right before List.mem_cons_self) user customerRef
          (if_pos applied)
        subst mine
        exact boundTo_of_earned named earlier law
    | _ => cases writes
  · cases writes

theorem boundTo_of_writtenFor
    (reached : Reachable (bindingSystem client aes wiring environment) world p)
    (named : customersNamed p.snapshot.trace = true) (grown : before <+: p.snapshot.trace)
    {values : VerifiedValues} (written : WrittenFor before userId values) :
    ∃ customerId, BoundTo aes before userId customerId ∧
      decryptIfNeeded aes values.encCustomerId = .ok (some customerId) := by
  obtain ⟨owner, ownerMember, wrote, member, id, customerRef, owns, writes⟩ := written
  have owners := (tables_reachable reached).owners
  obtain ⟨row, there, ofUser, -⟩ := owners owner (grown.subset ownerMember) _ _ _ owns
  obtain ⟨early, late, rfl⟩ := List.append_of_mem member
  obtain ⟨later, whole⟩ := grown
  rw [List.append_assoc, List.cons_append] at whole
  have owned (entry : BindingTraceEntry client) (entryIn : entry ∈ p.snapshot.trace)
      (user ref : String) (alsoOwns : ownerIn entry = some (id, user, ref)) : user = userId := by
    obtain ⟨other, found, same, -⟩ := owners entry entryIn _ _ _ alsoOwns
    rw [there, Option.some.injEq] at found
    rw [← same, ← found, ofUser]
  obtain ⟨customerId, bound, opens⟩ := boundTo_of_write reached named owned whole.symm writes
  exact ⟨customerId, bound.mono (List.prefix_append _ _), opens⟩

/-- A row that was read was one of the user's, with a customer he is bound to. -/
theorem boundTo_of_read
    (reached : Reachable (bindingSystem client aes wiring environment) world p)
    (named : customersNamed p.snapshot.trace = true) (stranger : Stranger wiring world userId)
    {row : CustomerBinding} (split : p.snapshot.trace = before ++
      ⟨tid, time, .answered (.inr (.selectVerified userId)) (Reply.ok (some row))⟩ :: after) :
    ∃ customerId, BoundTo aes before userId customerId ∧
      decryptIfNeeded aes row.customerId = .ok (some customerId) := by
  obtain ⟨q, state, reachedThen, past, performed, -⟩ := reached.answered_in split
  subst past
  have namedThen : customersNamed q.snapshot.trace = true := by
    unfold customersNamed at *
    rw [List.all_eq_true] at *
    intro entry member
    exact named entry (by rw [split]; exact List.mem_append_left _ member)
  obtain ⟨service, read, -⟩ := Option.map_eq_some_iff.mp performed
  obtain ⟨read, -⟩ := Option.ite_none_right_eq_some.mp read
  rw [Bool.and_eq_true, List.any_eq_true] at read
  obtain ⟨verified, entry, member, same⟩ := read
  rw [decide_eq_true_eq] at same
  subst same
  simp only [Bindings.isVerifiedOf, Bool.and_eq_true, decide_eq_true_eq] at verified
  have there := OrderedMap.get?_of_mem member
  have tables := tables_reachable reachedThen
  rcases tables.rows _ _ there with old | ⟨wrote, wroteIn, left⟩
  · exact absurd verified.2 (stranger.rows _ _ old verified.1)
  · obtain ⟨values, writes, -, sealed_⟩ := left
    obtain ⟨early, late, parts⟩ := List.append_of_mem wroteIn
    have owned (other : BindingTraceEntry client) (otherIn : other ∈ q.snapshot.trace)
        (user customerRef : String) (owns : ownerIn other = some (entry.1, user, customerRef)) :
        user = userId := by
      obtain ⟨row, found, ofUser, -⟩ := tables.owners other otherIn _ _ _ owns
      rw [there, Option.some.injEq] at found
      rw [← ofUser, ← found, verified.1]
    obtain ⟨customerId, bound, opens⟩ :=
      boundTo_of_write reachedThen namedThen owned parts writes
    exact ⟨customerId, bound.mono ⟨_, parts.symm⟩, by rw [sealed_, opens]⟩

/-- What the cache holds for the user is a customer he is bound to. -/
theorem boundTo_of_cached
    (reached : Reachable (bindingSystem client aes wiring environment) world p)
    (named : customersNamed p.snapshot.trace = true) (stranger : Stranger wiring world userId)
    (plain : ':' ∉ userId.toList) {entry : JsValue} (truthy : entry.truthy = true)
    (split : p.snapshot.trace = before ++
      ⟨tid, time, .answered (.inl (.cache (.get (bindKey userId)))) (Reply.ok entry)⟩ :: after) :
    ∃ customerId, BoundTo aes before userId customerId ∧
      attached aes userId entry = .ok (boundCustomer userId customerId entry) := by
  have present : entry ≠ .null := by
    rintro rfl
    cases truthy
  have clear : Clear before := (binding_clear reached).earlier ⟨_, split.symm⟩
  have looked := (binding_chronicle reached).registers.lookups before _ after split
    (clear.unblurred _)
  have recalls : recalled (bindingDeployment client wiring environment) world.cache
      (bindKey userId) time before = entry :=
    (looked.resolve_left present).symm
  obtain ⟨left, there, -, same⟩ := held_of_recalled recalls present
  rcases binding_wrote reached split there with
    old | ⟨past, rest, writer, moment, value, ttl, reply, wrote, -, left_, -, call⟩
  · exact absurd stranger.entry (ne_of_eq_of_ne old (Option.some_ne_none left))
  · have whole := split
    rw [wrote, List.append_assoc, List.cons_append] at whole
    have law := binding_lawful (fun tid call => minds_lawful call) reached whole call
    obtain ⟨encCustomerId, customerRef, verifiedAt, deviceInfo, rfl, traceable⟩ :=
      law userId plain rfl
    have own : ownEntries writer past ⊆ past := fun _ member => (mem_ownEntries.mp member).1
    have bound : ∃ customerId, BoundTo aes past userId customerId ∧
        decryptIfNeeded aes encCustomerId = .ok (some customerId) := by
      rcases traceable with ⟨values, written, rfl⟩ | ⟨row, ⟨seenAt, seen⟩, rfl⟩
      · exact boundTo_of_writtenFor reached named ⟨_, whole.symm⟩ (written.mono own)
      · obtain ⟨early, late, rfl⟩ := List.append_of_mem (own seen)
        rw [List.append_assoc, List.cons_append] at whole
        obtain ⟨customerId, bound, opens⟩ := boundTo_of_read reached named stranger whole
        exact ⟨customerId, bound.mono (List.prefix_append _ _), opens⟩
    obtain ⟨customerId, bound, opens⟩ := bound
    refine ⟨customerId, bound.mono ⟨_, wrote.symm⟩, ?_⟩
    obtain ⟨fields, stored, cipher⟩ :=
      stored_bindingEntry wiring.backend encCustomerId customerRef verifiedAt deviceInfo
    have asStored : entry = .obj fields := by
      rw [← same, left_, ← stored]
      rfl
    exact attached_of_sealed asStored (by rw [asStored, cipher]) opens bound.1

/-- Who was told that he is bound has a row with the customer he was told. -/
theorem concludes_of_concludedIn
    (reached : Reachable (bindingSystem client aes wiring environment) world p)
    {entry : BindingTraceEntry client} (split : p.snapshot.trace = before ++ entry :: after)
    {result : JsValue} (concluded : concludedIn entry = some (userId, result))
    (told : result.field "bound" = .bool true) :
    ∃ values iv customerId, WrittenFor before userId values ∧
      values.encCustomerId = encryptIfNeeded aes iv (some customerId) ∧
      result.field "customerId" = .str customerId := by
  have conclusion (made : BindResult) (same : result = made.toJs)
      (concludes : Concludes aes (ownEntries entry.tid before) userId (.ok made)) :
      ∃ values iv customerId, WrittenFor before userId values ∧
        values.encCustomerId = encryptIfNeeded aes iv (some customerId) ∧
        result.field "customerId" = .str customerId := by
    obtain ⟨bound, customerId⟩ := made
    subst same
    have isBound : bound = true := by simpa [BindResult.toJs, JsValue.field] using told
    obtain ⟨values, iv, customerId, written, sealed_, same⟩ := concludes _ rfl isBound
    cases same
    refine ⟨values, iv, customerId, ?_, sealed_, ?_⟩
    · exact written.mono fun _ member => (mem_ownEntries.mp member).1
    · simp [BindResult.toJs, JsValue.field, optionalField, List.lookup_cons]
  obtain ⟨tid, time, event⟩ := entry
  unfold concludedIn at concluded
  split at concluded
  · rename_i same
    cases same
    cases concluded
    obtain ⟨made, same, concludes⟩ := binding_lawful (fun tid call => minds_lawful call) reached
      split ⟨_, reached.finished_began split⟩
    exact conclusion made same concludes
  · rename_i same
    cases same
    cases concluded
    obtain ⟨made, same, concludes⟩ := binding_lawful (fun tid call => minds_lawful call) reached
      split ⟨_, reached.finished_began split⟩
    exact conclusion made same concludes
  · cases concluded

/-- Where no row is found, nobody has been told that the user is bound. -/
theorem not_toldBound
    (reached : Reachable (bindingSystem client aes wiring environment) world p)
    (split : p.snapshot.trace = before ++
      ⟨tid, time, .answered (.inr (.selectVerified userId)) (Reply.ok none)⟩ :: after) :
    ¬ ToldBound before userId := by
  rintro ⟨entry, member, result, concluded, told⟩
  obtain ⟨early, late, rfl⟩ := List.append_of_mem member
  have read := (tables_reachable reached).reads _ _ after split
  rw [List.append_assoc, List.cons_append] at split
  obtain ⟨values, iv, customerId, written, -⟩ := concludes_of_concludedIn reached split concluded told
  obtain ⟨owner, ownerMember, wrote, wroteMember, id, customerRef, owns, writes⟩ :=
    written.mono (List.subset_append_left early (entry :: late))
  exact read owner ownerMember wrote wroteMember id customerRef values owns writes

/-- No row is found where the user was told so before the call began. -/
theorem not_toldBound_before
    (reached : Reachable (bindingSystem client aes wiring environment) world p)
    {rest : BindingTrace client} (split : p.snapshot.trace = before ++ rest) {call : BindingCall}
    (looked : Saw before tid (.answered (.inr (.selectVerified userId)) (Reply.ok none)))
    {early late : BindingTrace client} (parts : before = early ++ late)
    (began : Saw late tid (.started (.inr call))) : ¬ ToldBound early userId := by
  obtain ⟨started, startedIn⟩ := began
  obtain ⟨moment, seen⟩ := looked
  obtain ⟨middle, own, rfl⟩ := List.append_of_mem startedIn
  have whole : p.snapshot.trace =
      (early ++ middle) ++ ⟨tid, started, .started (.inr call)⟩ :: (own ++ rest) := by
    rw [split, parts]
    simp
  have later : (⟨tid, moment, .answered (.inr (.selectVerified userId)) (Reply.ok none)⟩ :
      BindingTraceEntry client) ∈ own := by
    rw [parts, ← List.append_assoc] at seen
    rcases List.mem_append.mp seen with first | same | second
    · exact absurd rfl (reached.start_first whole first)
    · assumption
  obtain ⟨between, remaining, rfl⟩ := List.append_of_mem later
  have read : p.snapshot.trace =
      (early ++ (middle ++ ⟨tid, started, .started (.inr call)⟩ :: between)) ++
        ⟨tid, moment, .answered (.inr (.selectVerified userId)) (Reply.ok none)⟩ ::
          (remaining ++ rest) := by
    rw [whole]
    simp
  rintro ⟨entry, member, told⟩
  exact not_toldBound reached read ⟨entry, List.mem_append_left _ member, told⟩

/-- What a run tells a user of the customer he is bound to. -/
structure Recognised (aes : AesGcm) (userId : String) (trace : BindingTrace client) : Prop where
  returned : ∀ (before after : BindingTrace client) (entry : BindingTraceEntry client)
      (result : JsValue), trace = before ++ entry :: after →
    concludedIn entry = some (userId, result) → result.field "bound" = .bool true →
      ∃ customerId, BoundTo aes before userId customerId ∧
        result.field "customerId" = .str customerId
  /-- Without a customer a request is stopped because the database failed, or because the user
  had not been told that he is bound when the request came. -/
  admitted : ∀ (before after : BindingTrace client) (tid time : Nat)
      (result : Except Exn Resolution), trace =
        before ++ ⟨tid, time, .finished (.inr (.guard (some userId) false)) result⟩ :: after →
    (∃ customerId entry, BoundTo aes before userId customerId ∧
      result = .ok (.value (boundCustomer userId customerId entry))) ∨
    (∃ applied reason, result = .error (.error reason) ∧
      Saw before tid (.answered (.inr (.selectVerified userId)) (Reply.failed applied reason))) ∨
    result = .error forbidden ∧ ∀ early late, before = early ++ late →
      Saw late tid (.started (.inr (.guard (some userId) false))) → ¬ ToldBound early userId
  reported : ∀ (before after : BindingTrace client) (tid time : Nat)
      (result : Except Exn Resolution),
    trace = before ++ ⟨tid, time, .finished (.inr (.getMe userId)) result⟩ :: after →
    (∃ me, result = .ok (.value me) ∧
      ((∃ customerId, BoundTo aes before userId customerId ∧ me.field "linked" = .bool true ∧
          me.field "customerId" = .str customerId) ∨
        (me.field "linked" = .bool false ∧ me.field "customerId" = .null ∧
          ∀ early late, before = early ++ late →
            Saw late tid (.started (.inr (.getMe userId))) → ¬ ToldBound early userId))) ∨
    ∃ reason, result = .error (.error reason) ∧ ∃ applied,
      Saw before tid (.answered (.inr (.selectIdentity userId)) (Reply.failed applied reason)) ∨
      Saw before tid (.answered (.inr (.selectVerified userId)) (Reply.failed applied reason))

/-- In every run, whatever is evicted and whoever else binds, a user is taken for a customer he is
bound to. -/
theorem customer_recognised
    (reached : Reachable (bindingSystem client aes wiring environment) world p)
    (named : customersNamed p.snapshot.trace = true) (stranger : Stranger wiring world userId)
    (known : userId ≠ "") (plain : ':' ∉ userId.toList) :
    Recognised aes userId p.snapshot.trace := by
  constructor
  · intro before after entry result split concluded told
    obtain ⟨values, iv, customerId, written, sealed_, same⟩ :=
      concludes_of_concludedIn reached split concluded told
    obtain ⟨other, bound, opens⟩ :=
      boundTo_of_writtenFor reached named ⟨_, split.symm⟩ written
    refine ⟨customerId, ?_, same⟩
    rw [sealed_] at opens
    by_cases empty : customerId = ""
    · subst empty
      cases opens
    · rw [decryptIfNeeded_encryptIfNeeded aes iv empty] at opens
      cases opens
      exact bound
  · intro before after tid time result split
    obtain ⟨found, seen, rfl⟩ := binding_lawful (fun tid call => minds_lawful call) reached
      split ⟨_, reached.finished_began split⟩ known
    cases seen with
    | cached entry truthy looked =>
        obtain ⟨moment, member⟩ := saw_of_own looked
        obtain ⟨early, late, rfl⟩ := List.append_of_mem member
        rw [List.append_assoc, List.cons_append] at split
        obtain ⟨customerId, bound, made⟩ :=
          boundTo_of_cached reached named stranger plain truthy split
        refine Or.inl ⟨customerId, entry, bound.mono (List.prefix_append _ _), ?_⟩
        rw [Except.bind, made]
        rfl
    | read row looked =>
        obtain ⟨moment, member⟩ := saw_of_own looked
        obtain ⟨early, late, rfl⟩ := List.append_of_mem member
        rw [List.append_assoc, List.cons_append] at split
        obtain ⟨customerId, bound, opens⟩ := boundTo_of_read reached named stranger split
        refine Or.inl ⟨customerId, entryOf row, bound.mono (List.prefix_append _ _), ?_⟩
        have made : attached aes userId (entryOf row) = .ok _ :=
          attached_of_sealed rfl rfl opens bound.1
        rw [Except.bind, made]
        rfl
    | unbound looked =>
        refine Or.inr (Or.inr ⟨rfl, ?_⟩)
        intro early late parts began
        exact not_toldBound_before reached split (saw_of_own looked) parts began
    | unread applied reason looked =>
        exact Or.inr (Or.inl ⟨applied, reason, rfl, saw_of_own looked⟩)
  · intro before after tid time result split
    obtain ⟨told, rfl, ends⟩ := binding_lawful (fun tid call => minds_lawful call) reached split
      ⟨_, reached.finished_began split⟩
    cases ends with
    | unknown applied reason looked =>
        exact Or.inr ⟨reason, rfl, applied, Or.inl (saw_of_own looked)⟩
    | unread applied reason looked =>
        exact Or.inr ⟨reason, rfl, applied, Or.inr (saw_of_own looked)⟩
    | told row _ looked tells =>
        cases row with
        | none =>
            obtain ⟨me, rfl, customer, linked⟩ := tells none rfl
            refine Or.inl ⟨me, rfl, Or.inr ⟨linked, customer, ?_⟩⟩
            intro early late parts began
            exact not_toldBound_before reached split (saw_of_own looked) parts began
        | some row =>
            obtain ⟨moment, member⟩ := saw_of_own looked
            obtain ⟨early, late, rfl⟩ := List.append_of_mem member
            rw [List.append_assoc, List.cons_append] at split
            obtain ⟨customerId, bound, opens⟩ := boundTo_of_read reached named stranger split
            obtain ⟨me, rfl, customer, linked⟩ := tells (some customerId) opens
            exact Or.inl ⟨me, rfl, Or.inl ⟨customerId, bound.mono (List.prefix_append _ _), linked,
              customer⟩⟩

end Runs

/-! ### Bound, evicted and read again -/

/-- The customer a guard attached or `GET /auth/me` told. -/
def customerIn (entry : BindingTraceEntry client) : Option JsValue :=
  match entry.event with
  | .finished (.inr (.guard _ _)) (.ok (.value customer)) => some (customer.field "customerId")
  | .finished (.inr (.getMe _)) (.ok (.value me)) => some (me.field "customerId")
  | _ => none

def boundAndRead : List BindingMove :=
  bindsFirst ++ arrives 2 (.guard (some "U-1") false) 4 ++
    [.act (.external (.evict (getFullKey memoryBinding.backend.options (bindKey "U-1"))))] ++
    arrives 3 (.guard (some "U-1") false) 8 ++ arrives 4 (.getMe "U-1") 6

theorem customer_recognised_evicted :
    ∃ p, Reachable (mockBinding memoryBinding) (freshBinding 1700000000000) p ∧
      p.snapshot.trace.filterMap customerIn =
        [.str "QN-0912345", .str "QN-0912345", .str "QN-0912345"] ∧
      Recognised sampleCipher "U-1" p.snapshot.trace := by
  have stranger : Stranger memoryBinding (freshBinding 1700000000000) "U-1" := by
    constructor
    · intro id row found
      cases found
    · rfl
  obtain ⟨p, reached, named, told⟩ : ∃ p, Reachable (mockBinding memoryBinding)
      (freshBinding 1700000000000) p ∧ customersNamed p.snapshot.trace = true ∧
        p.snapshot.trace.filterMap customerIn =
          [.str "QN-0912345", .str "QN-0912345", .str "QN-0912345"] :=
    exists_reachable _ _ (obliging memoryBinding.backend "+84987654321") boundAndRead
      (by decide +kernel)
  exact ⟨p, reached, told,
    customer_recognised reached named stranger (by decide) (by decide)⟩

end SelfService
