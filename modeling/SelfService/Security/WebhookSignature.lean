/-
Signatures of webhook requests.

The canonical text joins the version, the timestamp, the method, the path with the query and the
hash of the body by colons.  The path may contain colons of its own: what stands before it has none,
and the hash after it has a fixed length, so the text still tells its fields.
-/

import SelfService.Core.JsText
import SelfService.Data.Hex

namespace SelfService

open Data

namespace HmacSign

/-- The output of SHA-256 and of HMAC-SHA256. -/
abbrev Digest := { bytes : List UInt8 // bytes.length = 32 }

/-- What the signer takes from its platform.  `parseUrl` gives `pathname` and `search` of a URL, and
nothing for a text that is none. -/
structure SigningPlatform where
  toUpperCase : String → String
  /-- A colon is no letter's upper case. -/
  upper_colon : ∀ text, ':' ∉ text.toList → ':' ∉ (toUpperCase text).toList
  numbers : NumberTexts
  sha256 : List UInt8 → Digest
  hmacSha256 : String → String → Digest
  parseUrl : String → Option (String × String)

inductive WebhookBody
  | absent
  | text (content : String)
  | buffer (bytes : List UInt8)
  deriving DecidableEq

/-- The bytes of `body ?? ''`. -/
def WebhookBody.bytes : WebhookBody → List UInt8
  | .absent => []
  | .text content => content.toUTF8.toList
  | .buffer bytes => bytes

structure WebhookSignatureHeaders where
  timestamp : String
  signature : String
  deriving DecidableEq

/-- From `digest('hex')`. -/
def hex (digest : Digest) : String := String.ofList (Hex.encode digest.val)

section Signer

variable (platform : SigningPlatform)

def bodyHash (body : WebhookBody) : String := hex (platform.sha256 body.bytes)

def buildCanonicalString (timestamp method pathAndQuery : String) (body : WebhookBody) : String :=
  "v1:" ++ timestamp ++ ":" ++ platform.toUpperCase method ++ ":" ++ pathAndQuery ++ ":" ++
    bodyHash platform body

def signWebhook (secret method url : String) (body : WebhookBody) (timestampSeconds : Rat) :
    Option WebhookSignatureHeaders :=
  (platform.parseUrl url).map fun (pathname, search) =>
    let ts := platform.numbers.text timestampSeconds
    let canonical := buildCanonicalString platform ts method (pathname ++ search) body
    { timestamp := ts, signature := "v1=" ++ hex (platform.hmacSha256 secret canonical) }

/-- The receiver builds the same text from what has arrived and compares the signatures. -/
def Verifies (secret timestamp method pathAndQuery : String) (body : WebhookBody)
    (signature : String) : Prop :=
  signature = "v1=" ++ hex (platform.hmacSha256 secret
    (buildCanonicalString platform timestamp method pathAndQuery body))

def Collision (left right : WebhookBody) : Prop :=
  left.bytes ≠ right.bytes ∧ platform.sha256 left.bytes = platform.sha256 right.bytes

/-- The signature of one text is that of another text, which was not signed. -/
def Forgery (secret signed other : String) : Prop :=
  other ≠ signed ∧ platform.hmacSha256 secret other = platform.hmacSha256 secret signed

end Signer

variable {platform : SigningPlatform}

theorem hex_injective {left right : Digest} (same : hex left = hex right) : left = right := by
  have encoded : Hex.encode left.val = Hex.encode right.val := by
    have symbols := congrArg String.toList same
    rwa [hex, hex, String.toList_ofList, String.toList_ofList] at symbols
  apply Subtype.ext
  rw [← Hex.decode_encode left.val, encoded, Hex.decode_encode]

theorem length_hex (digest : Digest) : (hex digest).toList.length = 64 := by
  rw [hex, String.toList_ofList, Hex.length_encode, digest.property]

/-- Up to the first separator two texts agree if they agree at all. -/
theorem fields_of_append {separator : Char} {first second : List Char} (rest others : List Char)
    (plain : separator ∉ first) (alsoPlain : separator ∉ second)
    (same : first ++ separator :: rest = second ++ separator :: others) :
    first = second ∧ rest = others := by
  induction first generalizing second with
  | nil =>
      cases second with
      | nil => exact ⟨rfl, (List.cons.inj same).2⟩
      | cons symbol second =>
          have here : separator = symbol := (List.cons.inj same).1
          rw [here] at alsoPlain
          exact absurd List.mem_cons_self alsoPlain
  | cons symbol first ih =>
      cases second with
      | nil =>
          have here : symbol = separator := (List.cons.inj same).1
          rw [here] at plain
          exact absurd List.mem_cons_self plain
      | cons other second =>
          obtain ⟨here, later⟩ := List.cons.inj same
          obtain ⟨fields, tails⟩ := ih (fun member => plain (List.mem_cons_of_mem _ member))
            (fun member => alsoPlain (List.mem_cons_of_mem _ member)) later
          exact ⟨by rw [here, fields], tails⟩

theorem toList_buildCanonicalString (timestamp method pathAndQuery : String)
    (body : WebhookBody) :
    (buildCanonicalString platform timestamp method pathAndQuery body).toList =
      'v' :: '1' :: ':' :: (timestamp.toList ++ ':' :: ((platform.toUpperCase method).toList ++
        ':' :: (pathAndQuery.toList ++ ':' :: (bodyHash platform body).toList))) := by
  simp [buildCanonicalString, List.append_assoc]

/-- Equal texts have equal fields, if no timestamp and no method contains a colon. -/
theorem buildCanonicalString_fields {timestamp method pathAndQuery timestamp' method'
    pathAndQuery' : String} {body body' : WebhookBody}
    (plain : ':' ∉ timestamp.toList) (plain' : ':' ∉ timestamp'.toList)
    (token : ':' ∉ method.toList) (token' : ':' ∉ method'.toList)
    (same : buildCanonicalString platform timestamp method pathAndQuery body =
      buildCanonicalString platform timestamp' method' pathAndQuery' body') :
    timestamp = timestamp' ∧ platform.toUpperCase method = platform.toUpperCase method' ∧
      pathAndQuery = pathAndQuery' ∧ bodyHash platform body = bodyHash platform body' := by
  have symbols := congrArg String.toList same
  rw [toList_buildCanonicalString, toList_buildCanonicalString] at symbols
  have joined := @List.append_cancel_left _ ['v', '1', ':'] _ _ symbols
  obtain ⟨times, joined⟩ := fields_of_append _ _ plain plain' joined
  obtain ⟨methods, joined⟩ := fields_of_append _ _ (platform.upper_colon _ token)
    (platform.upper_colon _ token') joined
  -- the hashes have one length, so the texts are cut at the same place before them
  have lengths : (':' :: (bodyHash platform body).toList).length =
      (':' :: (bodyHash platform body').toList).length := by
    rw [List.length_cons, List.length_cons, bodyHash, bodyHash, length_hex, length_hex]
  obtain ⟨paths, hashes⟩ := List.append_inj' joined lengths
  exact ⟨String.toList_injective times, String.toList_injective methods,
    String.toList_injective paths, String.toList_injective (List.cons.inj hashes).2⟩

theorem number_plain (number : Rat) : ':' ∉ (platform.numbers.text number).toList := by
  intro member
  rcases platform.numbers.symbols number ':' member with digit | sign
  · exact absurd digit (by decide)
  · exact absurd sign (by decide)

/-- A signature that verifies for a request was made for it, or the digests are broken. -/
theorem same_request_of_verifies {secret method url : String} {body : WebhookBody}
    {timestampSeconds : Rat} {headers : WebhookSignatureHeaders}
    (signed : signWebhook platform secret method url body timestampSeconds = some headers)
    (token : ':' ∉ method.toList) {timestamp' method' pathAndQuery' : String}
    {body' : WebhookBody} (plain' : ':' ∉ timestamp'.toList) (token' : ':' ∉ method'.toList)
    (verified : Verifies platform secret timestamp' method' pathAndQuery' body'
      headers.signature) :
    ∃ pathname search, platform.parseUrl url = some (pathname, search) ∧
      ((timestamp' = headers.timestamp ∧
          platform.toUpperCase method' = platform.toUpperCase method ∧
          pathAndQuery' = pathname ++ search ∧ body'.bytes = body.bytes) ∨
        Collision platform body' body ∨
        Forgery platform secret
          (buildCanonicalString platform headers.timestamp method (pathname ++ search) body)
          (buildCanonicalString platform timestamp' method' pathAndQuery' body')) := by
  unfold signWebhook at signed
  rw [Option.map_eq_some_iff] at signed
  obtain ⟨⟨pathname, search⟩, parsed, rfl⟩ := signed
  refine ⟨pathname, search, parsed, ?_⟩
  have tags := hex_injective ((String.append_right_inj _).mp verified)
  by_cases same : buildCanonicalString platform timestamp' method' pathAndQuery' body' =
      buildCanonicalString platform (platform.numbers.text timestampSeconds) method
        (pathname ++ search) body
  · obtain ⟨times, methods, paths, hashes⟩ :=
      buildCanonicalString_fields plain' (number_plain timestampSeconds) token' token same
    by_cases bodies : body'.bytes = body.bytes
    · exact .inl ⟨times, methods, paths, bodies⟩
    · exact .inr (.inl ⟨bodies, hex_injective hashes⟩)
  · exact .inr (.inr ⟨same, tags.symm⟩)

/-- Equal texts have equal fields, and a signature verifies for no other request, unless two bodies
collide under SHA-256 or a text that was not signed has the signature. -/
theorem signature_binds (platform : SigningPlatform) :
    (∀ timestamp method pathAndQuery body timestamp' method' pathAndQuery' body',
      ':' ∉ timestamp.toList → ':' ∉ timestamp'.toList →
      ':' ∉ method.toList → ':' ∉ method'.toList →
      buildCanonicalString platform timestamp method pathAndQuery body =
        buildCanonicalString platform timestamp' method' pathAndQuery' body' →
      timestamp = timestamp' ∧ platform.toUpperCase method = platform.toUpperCase method' ∧
        pathAndQuery = pathAndQuery' ∧ bodyHash platform body = bodyHash platform body') ∧
    (∀ secret method url body timestampSeconds headers,
      signWebhook platform secret method url body timestampSeconds = some headers →
      ':' ∉ method.toList →
      ∀ timestamp' method' pathAndQuery' body',
        ':' ∉ timestamp'.toList → ':' ∉ method'.toList →
        Verifies platform secret timestamp' method' pathAndQuery' body' headers.signature →
        ∃ pathname search, platform.parseUrl url = some (pathname, search) ∧
          ((timestamp' = headers.timestamp ∧
              platform.toUpperCase method' = platform.toUpperCase method ∧
              pathAndQuery' = pathname ++ search ∧ body'.bytes = body.bytes) ∨
            Collision platform body' body ∨
            Forgery platform secret
              (buildCanonicalString platform headers.timestamp method (pathname ++ search) body)
              (buildCanonicalString platform timestamp' method' pathAndQuery' body'))) := by
  constructor
  · intro timestamp method pathAndQuery body timestamp' method' pathAndQuery' body' plain plain'
      token token' same
    exact buildCanonicalString_fields plain plain' token token' same
  · intro secret method url body timestampSeconds headers signed token timestamp' method'
      pathAndQuery' body' plain' token' verified
    exact same_request_of_verifies signed token plain' token' verified

/-- The digests of the empty text and of the canonical text below. -/
def conversationPlatform : SigningPlatform where
  toUpperCase := id
  upper_colon := fun _ plain => plain
  numbers := NumberTexts.plain
  sha256 := fun _ => ⟨[227, 176, 196, 66, 152, 252, 28, 20, 154, 251, 244, 200, 153, 111, 185, 36,
    39, 174, 65, 228, 100, 155, 147, 76, 164, 149, 153, 27, 120, 82, 184, 85], rfl⟩
  hmacSha256 := fun _ _ => ⟨[28, 149, 143, 247, 107, 19, 55, 96, 116, 140, 229, 217, 236, 1, 22, 4,
    100, 107, 65, 240, 79, 200, 190, 148, 187, 187, 160, 114, 113, 83, 230, 51], rfl⟩
  parseUrl := fun _ => some ("/webhooks/app/conversation", "?userId=u1")

def conversationHeaders : WebhookSignatureHeaders where
  timestamp := "1700000000"
  signature := "v1=1c958ff76b133760748ce5d9ec011604646b41f04fc8be94bbbba0727153e633"

theorem signature_binds_conversation :
    signWebhook conversationPlatform "s3cret" "GET"
      "http://cskh:3000/webhooks/app/conversation?userId=u1" .absent 1700000000 =
        some conversationHeaders ∧
    Verifies conversationPlatform "s3cret" "1700000000" "GET"
      "/webhooks/app/conversation?userId=u1" .absent conversationHeaders.signature ∧
    ∃ pathname search,
      conversationPlatform.parseUrl "http://cskh:3000/webhooks/app/conversation?userId=u1" =
        some (pathname, search) := by
  have signed : signWebhook conversationPlatform "s3cret" "GET"
      "http://cskh:3000/webhooks/app/conversation?userId=u1" .absent 1700000000 =
        some conversationHeaders := by decide
  have verified : Verifies conversationPlatform "s3cret" "1700000000" "GET"
      "/webhooks/app/conversation?userId=u1" .absent conversationHeaders.signature := by
    unfold Verifies
    decide
  obtain ⟨pathname, search, parsed, _⟩ := (signature_binds conversationPlatform).2 _ _ _ _ _ _
    signed (by decide) _ _ _ _ (by decide) (by decide) verified
  exact ⟨signed, verified, pathname, search, parsed⟩

end HmacSign

end SelfService
