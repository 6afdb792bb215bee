/-
How a one-time password is sent.

The login flow is told that the message was sent whether the platform took it,
refused it or is not wired at all; only a client that throws stops it.
-/

import SelfService.Notification.TokenLife

namespace SelfService

open EventLoop NotificationGrpcAdapter

/-- One call of `Send`, and how it ended. -/
structure Sending where
  message : JsValue
  authorization : Option String
  reply : SendReply
  deriving DecidableEq

def sendings (sent : List Sending) : NotificationEvent → List Sending
  | .answered (.send message authorization) reply => sent ++ [⟨message, authorization, reply⟩]
  | _ => sent

/-- Where the platform is wired the message is sent once and its fate decides, unless its token
is no header; elsewhere nothing is sent. -/
def OtpEnds (config : NotificationConfig) (phoneNumber code : String)
    (result : Except Exn JsValue) (sent : List Sending) : Prop :=
  match given config.NOTIFICATION_GRPC_URL with
  | none => sent = [] ∧ result = .ok sentOnly
  | some _ =>
      (∃ sending, sent = [sending] ∧ sending.message = otpMessage config phoneNumber code ∧
        result = sendReply sending.reply) ∨
      sent = [] ∧ result = .error illegalMetadata ∧ ∃ token, config.validMetadata token = false

section Calls

variable {config : NotificationConfig} {sent : List Sending}

/-- Asking for a token sends nothing. -/
theorem getToken_sends_nothing : Observed sendings (fun _ last => last = sent)
    (KeycloakSaTokenService.getToken config) sent := by
  unfold KeycloakSaTokenService.getToken
  split
  · intro state
    change Observed _ _ (ite _ _ _) _
    split
    · exact rfl
    · intro response
      cases (response : Except String Nat) with
      | error reason => exact rfl
      | ok status =>
          change Observed _ _ (ite _ _ _) _
          split
          · intro reply
            cases (reply : Except String TokenBody) with
            | error reason => exact rfl
            | ok body => exact fun _ => rfl
          · exact fun _ => rfl
  · exact rfl

theorem observed_settleWith {post : Except Exn JsValue → List Sending → Prop}
    {outcome : Except Exn JsValue} (ended : post outcome sent) :
    Observed sendings post (Task.settleWith outcome : NotificationTask JsValue) sent := by
  cases outcome with
  | ok value => exact ended
  | error error => exact ended

theorem sendOtp_ends (phoneNumber code : String) :
    Observed sendings (OtpEnds config phoneNumber code) (sendOtp config phoneNumber code) [] := by
  unfold sendOtp OtpEnds
  cases given config.NOTIFICATION_GRPC_URL with
  | none => exact ⟨rfl, rfl⟩
  | some url =>
      dsimp only
      rw [observed_bind, observed_attempt]
      apply getToken_sends_nothing.mono
      rintro outcome last rfl
      dsimp only
      split
      · intro reply
        apply observed_settleWith
        exact Or.inl ⟨⟨otpMessage config phoneNumber code, _, reply⟩, rfl, rfl, rfl⟩
      · rename_i illegal
        refine Or.inr ⟨rfl, rfl, ?_⟩
        rw [Option.all_eq_true] at illegal
        push Not at illegal
        obtain ⟨token, -, refused⟩ := illegal
        exact ⟨token, Bool.eq_false_iff.mpr refused⟩

end Calls

/-! ### Every run -/

/-- The platform is down, the token service too, and the message goes out all the same. -/
def outage : List (Action notifications Nat) :=
  [.call (.sendOtp "0901" "123456"), .resume 0, .answer 0 asksForToken (.error "refused"),
    .resume 0, .answer 0 (.send (otpMessage wiredNotifications "0901" "123456") none)
      (.failed "UNAVAILABLE"), .resume 0]

end SelfService
