/-
Which tokens are handed out, and when one is asked for.

However the calls interleave, the token that is kept and its expiry come from
one and the same response.  So a token that is handed out to somebody who did
not ask for it has time left, and nobody asks while there is such a token.
-/

import SelfService.EventLoop.Play
import SelfService.Notification.ServiceAccountToken

namespace SelfService

open EventLoop KeycloakSaTokenService

/-! ### The law -/

def storing : NotificationEntry → Option (Option String × Rat)
  | ⟨_, _, .marked (.stored token expiresAt)⟩ => some (token, expiresAt)
  | _ => none

/-- The token and the expiry that were stored last. -/
def heldAfter (trace : NotificationTrace) : Option String × Rat :=
  (latest storing trace).getD (none, 0)

/-- The task asked at this time, and was answered with this body. -/
def Granted (trace : NotificationTrace) (tid since : Nat) (body : TokenBody) : Prop :=
  (⟨tid, since, .marked .asked⟩ : NotificationEntry) ∈ trace ∧
    Saw trace tid (.answered .readBody (.ok body))

def TokenLaw (past : NotificationTrace) (entry : NotificationEntry) : Prop :=
  match entry.event with
  | .marked .asked => ¬ Live (heldAfter past) entry.time
  | .marked (.stored token expiresAt) => ∃ since body, Granted past entry.tid since body ∧
      token = body.access_token ∧ expiresAt = expiry since body
  | .marked (.handedOut token) => (heldAfter past).1 = token ∧
      (Live (heldAfter past) entry.time ∨
        ∃ since body, Granted past entry.tid since body ∧ token = body.access_token)
  | .answered (.send _ (some authorization)) _ => ∃ token, authorization = "Bearer " ++ token ∧
      token ≠ "" ∧ Saw past entry.tid (.marked (.handedOut (some token)))
  | .finished .getToken (.ok (.token (some token))) =>
      Saw past entry.tid (.marked (.handedOut (some token)))
  | _ => True

/-- The service keeps what was stored last, and every event is lawful. -/
structure TokenInv (s : NotificationSnapshot) : Prop where
  held : (s.state.token, s.state.expiresAt) = heldAfter s.trace
  law : Always TokenLaw s.trace

section Programs

variable {config : NotificationConfig} {tid : Nat} {s : NotificationSnapshot}

theorem TokenInv.log (hold : TokenInv s) {event : NotificationEvent} {state : TokenState}
    (kept : (state.token, state.expiresAt) = (s.state.token, s.state.expiresAt))
    (silent : ∀ time, storing ⟨tid, time, event⟩ = none)
    (lawful : TokenLaw s.trace ⟨tid, state.now, event⟩) :
    TokenInv ((⟨state, s.trace⟩ : NotificationSnapshot).log (notificationSystem config) tid event) where
  held := by
    rw [Snapshot.log_state, Snapshot.log_trace, heldAfter, latest_snoc_none (silent _)]
    exact kept.trans hold.held
  law := by
    rw [Snapshot.log_trace, always_snoc]
    exact ⟨hold.law, lawful⟩

abbrev NotificationSafe (config : NotificationConfig) (tid : Nat) {α : Type}
    (post : Except Exn α → NotificationSnapshot → Prop) :
    NotificationTask α → NotificationSnapshot → Prop :=
  Safe (notificationSystem config) TokenInv tid post

/-- A request that is answered leaves the token alone. -/
theorem safe_ask {α : Type} {post : Except Exn α → NotificationSnapshot → Prop}
    {request : NotificationRequest} {next : request.Answer → NotificationTask α} (hold : TokenInv s)
    (lawful : ∀ past time answer, s.trace <+: past →
      TokenLaw past ⟨tid, time, .answered request answer⟩)
    (go : ∀ answer later, s.Extends later → Saw later.trace tid (.answered request answer) →
      TokenInv later → NotificationSafe config tid post (next answer) later) :
    NotificationSafe config tid post (.await request next) s := by
  refine ⟨hold, ?_⟩
  rintro now follows holdNow answer state performed
  cases performed
  refine ⟨holdNow.log rfl (fun _ => rfl) (lawful _ _ _ follows.extends), ?_⟩
  intro later after holdLater
  exact go answer later ((follows.extends.trans (now.extends_log _ _ _)).trans after.extends)
    ((now.saw_log (notificationSystem config) tid (.answered request answer)).mono after.extends)
    holdLater

/-- What was handed out to the task is on the trace. -/
def Handed (tid : Nat) (result : Except Exn (Option String)) (later : NotificationSnapshot) : Prop :=
  TokenInv later ∧ ∀ token, result = .ok (some token) →
    later.Saw tid (.marked (.handedOut (some token)))

theorem handed_of_failed {reason : Exn} {later : NotificationSnapshot} (hold : TokenInv later) :
    Handed tid (.error reason) later := by
  refine ⟨hold, ?_⟩
  intro token impossible
  cases impossible

theorem handed_of_mark {token : Option String} (hold : TokenInv
      (s.log (notificationSystem config) tid (.marked (.handedOut token)))) :
    Handed tid (.ok token) (s.log (notificationSystem config) tid (.marked (.handedOut token))) := by
  refine ⟨hold, ?_⟩
  intro text same
  cases same
  exact s.saw_log _ tid _

theorem fetchToken_safe (hold : TokenInv s)
    (stale : ¬ Live (s.state.token, s.state.expiresAt) s.state.now) :
    NotificationSafe config tid (Handed tid) (fetchToken config s.state.now) s := by
  have begun : TokenInv (s.log (notificationSystem config) tid (.marked .asked)) := by
    refine hold.log rfl (fun _ => rfl) ?_
    rw [hold.held] at stale
    exact stale
  have asked : (⟨tid, s.state.now, .marked .asked⟩ : NotificationEntry) ∈
      (s.log (notificationSystem config) tid (.marked .asked)).trace := by simp
  apply safe_ask begun
  · exact fun _ _ _ _ => trivial
  intro response later grown _ holdLater
  cases response with
  | error reason => exact handed_of_failed holdLater
  | ok status =>
      dsimp only
      split
      · apply safe_ask holdLater
        · exact fun _ _ _ _ => trivial
        intro reply last more answered holdLast
        cases reply with
        | error reason => exact handed_of_failed holdLast
        | ok body =>
            have granted : Granted last.trace tid s.state.now body :=
              ⟨more.mem (grown.mem asked), answered⟩
            -- the store and both marks belong to one segment
            let kept : NotificationSnapshot :=
              ⟨{ last.state with
                token := body.access_token
                expiresAt := expiry s.state.now body }, last.trace⟩
            have view : storing ⟨tid, kept.state.now, .marked (.stored body.access_token
                (expiry s.state.now body))⟩ = some (body.access_token, expiry s.state.now body) := rfl
            have stored : TokenInv (kept.log (notificationSystem config) tid
                (.marked (.stored body.access_token (expiry s.state.now body)))) := by
              constructor
              · rw [Snapshot.log_trace, heldAfter, latest_snoc_some view]
                rfl
              · rw [Snapshot.log_trace, always_snoc]
                exact ⟨holdLast.law, s.state.now, body, granted, rfl, rfl⟩
            apply handed_of_mark
            refine stored.log rfl (fun _ => rfl) ⟨?_, Or.inr ⟨s.state.now, body, ?_, rfl⟩⟩
            · rw [← stored.held]
              rfl
            · exact ⟨List.mem_append_left _ granted.1,
                Snapshot.Saw.mono granted.2 (kept.extends_log _ _ _)⟩
      · apply safe_ask holdLater
        · exact fun _ _ _ _ => trivial
        exact fun _ _ _ _ holdLast => handed_of_failed holdLast

theorem getToken_safe (hold : TokenInv s) :
    NotificationSafe config tid (Handed tid) (getToken config) s := by
  unfold getToken
  split
  · unfold NotificationSafe
    rw [safe_sync_id]
    split
    · rename_i live
      apply handed_of_mark
      rw [hold.held] at live
      exact hold.log rfl (fun _ => rfl) ⟨congrArg Prod.fst hold.held.symm, Or.inl live⟩
    · rename_i stale
      exact fetchToken_safe hold stale
  · refine ⟨hold, ?_⟩
    intro token impossible
    cases impossible

theorem settleWith_safe {α : Type} {post : Except Exn α → NotificationSnapshot → Prop}
    {outcome : Except Exn α} (ended : post outcome s) :
    NotificationSafe config tid post (Task.settleWith outcome) s := by
  cases outcome with
  | ok value => exact ended
  | error error => exact ended

theorem sendOtp_safe (hold : TokenInv s) (phoneNumber code : String) :
    NotificationSafe config tid (fun _ later => TokenInv later)
      (NotificationGrpcAdapter.sendOtp config phoneNumber code) s := by
  unfold NotificationGrpcAdapter.sendOtp
  split
  · exact hold
  · unfold NotificationSafe
    rw [safe_bind, safe_attempt]
    apply (getToken_safe hold).mono
    rintro outcome later - ⟨holdLater, handed⟩
    dsimp only
    split
    · apply safe_ask holdLater
      · intro past time reply grown
        cases carried : given (outcome.toOption.getD none) with
        | none => exact trivial
        | some token =>
            rw [given, Option.filter_eq_some_iff, decide_eq_true_eq] at carried
            have kept : outcome = .ok (some token) := by
              cases outcome with
              | error error => cases carried.1
              | ok value => exact congrArg _ carried.1
            obtain ⟨moment, member⟩ := handed token kept
            exact ⟨token, rfl, carried.2, moment, grown.subset member⟩
      · exact fun reply last _ _ holdLast => settleWith_safe holdLast
    · exact holdLater

theorem notification_verified : Verified (notificationSystem config) TokenInv where
  starts s fresh call hold _ := hold.log rfl (fun _ => rfl) trivial
  bodies s tid call hold _ := by
    cases call with
    | getToken =>
        change NotificationSafe config tid _ (getToken config >>= _) s
        unfold NotificationSafe
        rw [safe_bind]
        apply (getToken_safe hold).mono
        rintro result later - ⟨holdLater, handed⟩
        cases result with
        | error error => exact holdLater.log rfl (fun _ => rfl) trivial
        | ok token =>
            refine holdLater.log rfl (fun _ => rfl) ?_
            cases token with
            | none => exact trivial
            | some text => exact handed text rfl
    | sendOtp phoneNumber code =>
        change NotificationSafe config tid _
          (NotificationGrpcAdapter.sendOtp config phoneNumber code >>= _) s
        unfold NotificationSafe
        rw [safe_bind]
        apply (sendOtp_safe hold phoneNumber code).mono
        intro result later _ holdLater
        cases result with
        | error error => exact holdLater.log rfl (fun _ => rfl) trivial
        | ok value => exact holdLater.log rfl (fun _ => rfl) trivial
    | delegated method params =>
        apply safe_ask hold
        · exact fun _ _ _ _ => trivial
        · intro outcome later _ _ holdLater
          apply settleWith_safe
          exact holdLater.log rfl (fun _ => rfl) trivial
  externals s millis state hold moved := by
    cases moved
    exact ⟨hold.held, hold.law⟩

end Programs

/-! ### Every run -/

/-- The service account's tokens, as a run shows them. -/
structure ServesTokens (trace : NotificationTrace) : Prop where
  /-- A token that is handed out was granted, to the task itself or with time left. -/
  fresh : ∀ (before after : NotificationTrace) (tid time : Nat) (token : String), trace =
      before ++ ⟨tid, time, .marked (.handedOut (some token))⟩ :: after →
    ∃ issuer since body, Granted before issuer since body ∧ body.access_token = some token ∧
      (issuer = tid ∨ (time : Rat) < expiry since body)
  /-- What a message carries was handed out to its sender, and so is what `getToken` returns. -/
  carried : ∀ (before after : NotificationTrace) (tid time : Nat) (message : JsValue)
      (authorization : String) (reply : SendReply), trace = before ++
        ⟨tid, time, .answered (.send message (some authorization)) reply⟩ :: after →
    ∃ token, authorization = "Bearer " ++ token ∧ Saw before tid (.marked (.handedOut (some token)))
  returned : ∀ (before after : NotificationTrace) (tid time : Nat) (token : String), trace =
      before ++ ⟨tid, time, .finished .getToken (.ok (.token (some token)))⟩ :: after →
    Saw before tid (.marked (.handedOut (some token)))
  /-- Nobody asks while the token that was stored last has time left. -/
  sparing : ∀ (before after : NotificationTrace) (tid time : Nat),
    trace = before ++ ⟨tid, time, .marked .asked⟩ :: after →
    ¬ Live (heldAfter before) time

/-- What is kept was granted as a whole. -/
theorem granted_of_held {trace : NotificationTrace} (law : Always TokenLaw trace) {now : Nat}
    (live : Live (heldAfter trace) now) : ∃ issuer since body, Granted trace issuer since body ∧
      heldAfter trace = (body.access_token, expiry since body) := by
  cases found : latest storing trace with
  | none =>
      rw [heldAfter, found] at live
      cases live.1
  | some held =>
      obtain ⟨early, entry, late, rfl, said, -⟩ := split_of_latest found
      obtain ⟨issuer, moment, event⟩ := entry
      have lawful := law early _ late rfl
      unfold storing at said
      split at said
      · cases said
        rename_i token expiresAt same
        cases same
        obtain ⟨since, body, ⟨asked, moment, answered⟩, rfl, rfl⟩ := lawful
        refine ⟨issuer, since, body, ⟨List.mem_append_left _ asked, moment,
          List.mem_append_left _ answered⟩, ?_⟩
        rw [heldAfter, found]
        rfl
      · cases said

/-- In every run, whoever calls and however the responses come in, tokens are served so. -/
theorem serves_tokens (config : NotificationConfig) (now : Nat)
    {p : Pool notifications NotificationAnswer}
    (reached : Reachable (notificationSystem config) (noToken now) p) :
    ServesTokens p.snapshot.trace := by
  have law := (notification_verified.reachable ⟨rfl, always_nil _⟩ reached).law
  constructor
  · intro before after tid time token split
    obtain ⟨same, live | ⟨since, body, granted, own⟩⟩ := law before _ after split
    · have earlier := law.earlier (split ▸ List.prefix_append before _)
      obtain ⟨issuer, since, body, granted, held⟩ := granted_of_held earlier live
      rw [held] at same live
      exact ⟨issuer, since, body, granted, same, Or.inr live.2⟩
    · exact ⟨tid, since, body, granted, own.symm, Or.inl rfl⟩
  · intro before after tid time message authorization reply split
    obtain ⟨token, same, -, handed⟩ := law before _ after split
    exact ⟨token, same, handed⟩
  · exact fun before after tid time token split => law before _ after split
  · exact fun before after tid time split => law before _ after split

/-! ### Two callers at once -/

def wiredNotifications : NotificationConfig where
  KEYCLOAK_SA_CLIENT_ID := some "bff"
  KEYCLOAK_SA_CLIENT_SECRET := some "secret"
  KEYCLOAK_URL := none
  KEYCLOAK_REALM := none
  NOTIFICATION_GRPC_URL := some "notification:50051"
  NOTIFICATION_TENANT_ID := none
  stringify _ := "{}"
  validMetadata _ := true

def asksForToken : NotificationRequest :=
  .fetchToken (endpoint wiredNotifications) "bff" "secret"

/-- Two callers ask, the later one is answered first, and a third one asks nobody. -/
def twoAsk : List (Action notifications Nat) :=
  [.call .getToken, .resume 0, .external 1000, .call .getToken, .resume 1,
    .answer 1 asksForToken (.ok 200), .answer 1 .readBody (.ok ⟨some "late", some 60⟩), .resume 1,
    .answer 0 asksForToken (.ok 200), .answer 0 .readBody (.ok ⟨some "early", some 60⟩), .resume 0,
    .external 48999, .call .getToken, .resume 2]

/-- What was asked for first is kept, for fifty seconds from when it was asked for. -/
theorem serves_tokens_twice : ∃ p : Pool notifications NotificationAnswer,
    Reachable (notificationSystem wiredNotifications) (noToken 0) p ∧
      heldAfter p.snapshot.trace = (some "early", 50000) ∧ p.snapshot.state.now = 49999 ∧
      ServesTokens p.snapshot.trace := by
  have reached := reachable_run (notificationSystem wiredNotifications) (noToken 0) twoAsk
    (by decide +kernel)
  exact ⟨_, reached, by decide +kernel, by decide +kernel,
    serves_tokens wiredNotifications 0 reached⟩

end SelfService
