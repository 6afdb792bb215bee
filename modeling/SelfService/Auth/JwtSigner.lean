/-
The tokens that name the caller to the services behind the BFF.

`JwtSignerService` signs an identity for some minutes.  It checks a token against its own secret
and, while secrets are rotated, against the one before.  The package `jose` makes the tokens and
opens them.
-/

import SelfService.Port.OutboundIdempotency

namespace SelfService

open PortHttpClient (nullish)

/-! ### Tokens -/

inductive JwtError
  | expired
  | claimInvalid (claim : String)
  | signatureInvalid
  | malformed
  deriving DecidableEq

/-- The package `jose`: the token for some claims under a secret, and what a check of a token
against a secret and an issuer gives at a time in seconds. -/
structure Jose where
  sign : String → JsValue → String
  verify : String → String → Nat → String → Except JwtError JsValue

/-- What is checked once the signature fits: the issuer, where one is asked for, and `exp`. -/
def Jose.validated (issuer : String) (seconds : Nat) (claims : JsValue) : Except JwtError JsValue :=
  if issuer ≠ "" ∧ claims.field "iss" ≠ .str issuer then .error (.claimInvalid "iss")
  else
    match claims.field "exp" with
    | .num exp => if exp ≤ seconds then .error .expired else .ok claims
    | .undefined => .ok claims
    | _ => .error (.claimInvalid "exp")

/-- The token for the claims opens under the secret it was signed with, and under no other of the
secrets. -/
structure Jose.Opens (jose : Jose) (secrets : List String) (secret : String) (claims : JsValue) :
    Prop where
  own : ∀ issuer seconds, jose.verify secret issuer seconds (jose.sign secret claims) =
    validated issuer seconds claims.roundTrip
  foreign : ∀ other ∈ secrets, other ≠ secret → ∀ issuer seconds,
    jose.verify other issuer seconds (jose.sign secret claims) = .error .signatureInvalid

/-! ### The service -/

/-- The lifetime is in seconds. -/
structure JwtSignerService where
  secret : String
  oldSecret : Option String
  ttl : Nat
  issuer : String

namespace JwtSignerService

/-- From the variables `JWT_SECRET`, `JWT_SECRET_OLD` and `JWT_ISSUER`, and what `jose` reads in
`JWT_TTL`. -/
def configured (secret : String) (oldSecret issuer : Option String) (ttl : Nat) :
    JwtSignerService where
  secret := secret
  oldSecret := oldSecret.filter fun text => text ≠ ""
  ttl := ttl
  issuer := issuer.getD "cskh-bff"

def secrets (signer : JwtSignerService) : List String := signer.secret :: signer.oldSecret.toList

/-- What is signed; the times of a token are in seconds. -/
def claimsOf (signer : JwtSignerService) (now : Nat) (payload : JsValue) : JsValue :=
  .obj [("sub", payload.field "sub"), ("roles", payload.field "roles"),
    ("provider", payload.field "provider"), ("session_id", payload.field "sessionId"),
    ("xi_nghiep", payload.field "xiNghiep"), ("iat", .num (now / 1000 : Nat)),
    ("exp", .num (now / 1000 + signer.ttl : Nat)), ("iss", .str signer.issuer)]

def sign (signer : JwtSignerService) (jose : Jose) (now : Nat) (payload : JsValue) : String :=
  jose.sign signer.secret (signer.claimsOf now payload)

def mapPayload (claims : JsValue) : JsValue :=
  .obj [("sub", claims.field "sub"),
    ("roles", nullish (claims.field "roles") (.arr [.str "customer"])),
    ("provider", nullish (claims.field "provider") (.str "app")),
    ("sessionId", nullish (claims.field "session_id") (.str "")),
    ("xiNghiep", claims.field "xi_nghiep")]

/-- A token that has expired is not tried again, and the error is that of the first trial. -/
def verify (signer : JwtSignerService) (jose : Jose) (now : Nat) (token : String) :
    Except JwtError JsValue :=
  match jose.verify signer.secret signer.issuer (now / 1000) token with
  | .ok claims => .ok (mapPayload claims)
  | .error .expired => .error .expired
  | .error error =>
      match signer.oldSecret with
      | none => .error error
      | some oldSecret =>
          match jose.verify oldSecret signer.issuer (now / 1000) token with
          | .ok claims => .ok (mapPayload claims)
          | .error _ => .error error

end JwtSignerService

/-! ### Round trip -/

/-- An identity as the BFF knows it. -/
structure CallerIdentity where
  userId : String
  roles : List String
  provider : String
  sessionId : String
  tenantId : Option String

def CallerIdentity.payload (identity : CallerIdentity) : JsValue :=
  .obj [("sub", .str identity.userId), ("roles", .arr (identity.roles.map JsValue.str)),
    ("provider", .str identity.provider), ("sessionId", .str identity.sessionId),
    ("xiNghiep", (identity.tenantId.map JsValue.str).getD .undefined)]

namespace JwtSignerService

variable {jose : Jose} {signer reader : JwtSignerService} {identity : CallerIdentity}
  {signedAt now : Nat}

theorem roundTripItems_texts (texts : List String) :
    JsValue.roundTripItems (texts.map JsValue.str) = texts.map JsValue.str := by
  induction texts with
  | nil => rfl
  | cons text rest ih =>
      rw [List.map_cons, JsValue.roundTripItems, ih]
      · rfl
      · exact JsValue.noConfusion

/-- The claims as they come out of the token. -/
theorem claimsOf_roundTrip (signer : JwtSignerService) (now : Nat) (identity : CallerIdentity) :
    (signer.claimsOf now identity.payload).roundTrip.field "exp" =
        .num (now / 1000 + signer.ttl : Nat) ∧
      (signer.claimsOf now identity.payload).roundTrip.field "iss" = .str signer.issuer ∧
      mapPayload (signer.claimsOf now identity.payload).roundTrip = identity.payload := by
  obtain ⟨userId, roles, provider, sessionId, tenantId⟩ := identity
  cases tenantId <;>
    simp [claimsOf, CallerIdentity.payload, mapPayload, JsValue.roundTrip, JsValue.roundTripFields,
      roundTripItems_texts, List.lookup_cons, nullish, JsValue.isNullish]

/-- The reader has the secret of the signer, asks for its issuer, and the lifetime lasts. -/
def Admits (reader signer : JwtSignerService) (signedAt now : Nat) : Prop :=
  (reader.secret = signer.secret ∨ reader.oldSecret = some signer.secret) ∧
    (reader.issuer = "" ∨ signer.issuer = reader.issuer) ∧ now / 1000 < signedAt / 1000 + signer.ttl

instance : Decidable (Admits reader signer signedAt now) := by
  unfold Admits
  infer_instance

/-- What is found wrong with the claims of a token. -/
def verdict (reader signer : JwtSignerService) (signedAt now : Nat) : Except JwtError Unit :=
  if reader.issuer ≠ "" ∧ signer.issuer ≠ reader.issuer then .error (.claimInvalid "iss")
  else if signedAt / 1000 + signer.ttl ≤ now / 1000 then .error .expired
  else .ok ()

theorem validated_claimsOf (reader signer : JwtSignerService) (signedAt now : Nat)
    (identity : CallerIdentity) :
    Jose.validated reader.issuer (now / 1000) (signer.claimsOf signedAt identity.payload).roundTrip =
      (verdict reader signer signedAt now).map fun _ =>
        (signer.claimsOf signedAt identity.payload).roundTrip := by
  obtain ⟨exp, iss, -⟩ := claimsOf_roundTrip signer signedAt identity
  unfold Jose.validated verdict
  rw [exp, iss]
  by_cases other : reader.issuer ≠ "" ∧ signer.issuer ≠ reader.issuer
  · rw [if_pos other, if_pos ⟨other.1, fun same => other.2 (JsValue.str.inj same)⟩]
    rfl
  · rw [if_neg other, if_neg fun both => other ⟨both.1, fun same => both.2 (by rw [same])⟩]
    by_cases late : signedAt / 1000 + signer.ttl ≤ now / 1000
    · rw [if_pos late]
      exact if_pos (by exact_mod_cast late)
    · rw [if_neg late]
      exact if_neg (by exact_mod_cast late)

theorem verdict_eq_ok_iff : verdict reader signer signedAt now = .ok () ↔
    (reader.issuer = "" ∨ signer.issuer = reader.issuer) ∧
      now / 1000 < signedAt / 1000 + signer.ttl := by
  unfold verdict
  by_cases other : reader.issuer ≠ "" ∧ signer.issuer ≠ reader.issuer
  · rw [if_pos other]
    constructor
    · intro same
      cases same
    · rintro ⟨fits | fits, -⟩
      · exact absurd fits other.1
      · exact absurd fits other.2
  · rw [if_neg other]
    have fits : reader.issuer = "" ∨ signer.issuer = reader.issuer := by
      by_contra none
      exact other (not_or.mp none)
    by_cases late : signedAt / 1000 + signer.ttl ≤ now / 1000
    · rw [if_pos late]
      constructor
      · intro same
        cases same
      · rintro ⟨-, ahead⟩
        omega
    · rw [if_neg late]
      exact ⟨fun _ => ⟨fits, by omega⟩, fun _ => rfl⟩

theorem verify_of_read {token : String} {claims : JsValue}
    (read : jose.verify reader.secret reader.issuer (now / 1000) token = .ok claims) :
    reader.verify jose now token = .ok (mapPayload claims) := by
  unfold verify
  rw [read]

/-- Where the secret before does not help, the first error stands. -/
theorem verify_of_refused {token : String} {error : JwtError}
    (refused : jose.verify reader.secret reader.issuer (now / 1000) token = .error error)
    (again : ∀ oldSecret, reader.oldSecret = some oldSecret → ∃ later,
      jose.verify oldSecret reader.issuer (now / 1000) token = .error later) :
    reader.verify jose now token = .error error := by
  unfold verify
  rw [refused]
  cases before : reader.oldSecret with
  | none => cases error <;> rfl
  | some oldSecret =>
      obtain ⟨later, failed⟩ := again oldSecret before
      simp only [failed]
      cases error <;> rfl

theorem verify_of_readBefore {token oldSecret : String} {error : JwtError} {claims : JsValue}
    (refused : jose.verify reader.secret reader.issuer (now / 1000) token = .error error)
    (current : error ≠ .expired) (before : reader.oldSecret = some oldSecret)
    (read : jose.verify oldSecret reader.issuer (now / 1000) token = .ok claims) :
    reader.verify jose now token = .ok (mapPayload claims) := by
  unfold verify
  rw [refused, before]
  cases error with
  | expired => exact absurd rfl current
  | _ => simp only [read]

/-- What the check of a token says.  Only the reader's own secret tells why a token is refused:
one that was signed with the secret before and has expired counts as forged. -/
theorem verify_sign (opens : jose.Opens reader.secrets signer.secret
    (signer.claimsOf signedAt identity.payload)) :
    reader.verify jose now (signer.sign jose signedAt identity.payload) =
      if reader.secret = signer.secret then
        (verdict reader signer signedAt now).map fun _ => identity.payload
      else if reader.oldSecret = some signer.secret ∧ verdict reader signer signedAt now = .ok ()
        then .ok identity.payload
      else .error .signatureInvalid := by
  have opened := opens.own reader.issuer (now / 1000)
  rw [validated_claimsOf] at opened
  have mapped := (claimsOf_roundTrip signer signedAt identity).2.2
  have foreign : ∀ oldSecret, reader.oldSecret = some oldSecret → oldSecret ≠ signer.secret →
      jose.verify oldSecret reader.issuer (now / 1000)
        (jose.sign signer.secret (signer.claimsOf signedAt identity.payload)) =
          .error .signatureInvalid :=
    fun oldSecret before other => opens.foreign _ (by simp [secrets, before]) other _ _
  by_cases own : reader.secret = signer.secret
  · rw [if_pos own]
    cases found : verdict reader signer signedAt now with
    | ok checked =>
        rw [found, ← congrArg (jose.verify · _ _ _) own] at opened
        rw [sign, verify_of_read opened, mapped]
        rfl
    | error error =>
        rw [found] at opened
        refine verify_of_refused ((congrArg (jose.verify · _ _ _) own).trans opened) ?_
        intro oldSecret before
        by_cases same : oldSecret = signer.secret
        · rw [same]
          exact ⟨error, opened⟩
        · exact ⟨.signatureInvalid, foreign oldSecret before same⟩
  · rw [if_neg own]
    have refused := opens.foreign _ (by simp [secrets] : reader.secret ∈ reader.secrets) own
      reader.issuer (now / 1000)
    by_cases fits : reader.oldSecret = some signer.secret ∧
        verdict reader signer signedAt now = .ok ()
    · rw [fits.2] at opened
      rw [if_pos fits, sign, verify_of_readBefore refused (by decide) fits.1 opened, mapped]
    · rw [if_neg fits]
      refine verify_of_refused refused ?_
      intro oldSecret before
      by_cases same : oldSecret = signer.secret
      · subst same
        cases found : verdict reader signer signedAt now with
        | ok checked => exact absurd ⟨before, found⟩ fits
        | error error =>
            rw [found] at opened
            exact ⟨error, opened⟩
      · exact ⟨.signatureInvalid, foreign oldSecret before same⟩

/-- A token is taken for the identity it was signed for, exactly where its signer is admitted. -/
theorem verify_eq_ok_iff (opens : jose.Opens reader.secrets signer.secret
    (signer.claimsOf signedAt identity.payload)) {payload : JsValue} :
    reader.verify jose now (signer.sign jose signedAt identity.payload) = .ok payload ↔
      Admits reader signer signedAt now ∧ payload = identity.payload := by
  rw [verify_sign opens, Admits, ← verdict_eq_ok_iff]
  by_cases own : reader.secret = signer.secret
  · rw [if_pos own]
    cases verdict reader signer signedAt now with
    | ok checked => simp [Except.map, own, eq_comm]
    | error error => simp [Except.map]
  · rw [if_neg own]
    by_cases fits : reader.oldSecret = some signer.secret ∧
        verdict reader signer signedAt now = .ok ()
    · rw [if_pos fits]
      simp [fits.1, fits.2, eq_comm]
    · rw [if_neg fits]
      constructor
      · intro same
        cases same
      · rintro ⟨⟨known, checked⟩, -⟩
        exact absurd ⟨known.resolve_left own, checked⟩ fits

end JwtSignerService

end SelfService
