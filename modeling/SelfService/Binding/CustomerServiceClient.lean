/-
The customer service, as the binding flow talks to it.

Every method may answer or reject.  What stands behind the interface is a
parameter: `CustomerServiceClient` says which answers may come, and what they
do to the state of the service.
-/

import SelfService.Core.Exceptions

namespace SelfService

inductive SecretType : Type
  | lastInvoiceAmount
  | maKh
  deriving DecidableEq, Repr

def SecretType.text : SecretType → String
  | .lastInvoiceAmount => "last_invoice_amount"
  | .maKh => "ma_kh"

inductive InputMode : Type
  | numeric
  | text
  deriving DecidableEq, Repr

def InputMode.name : InputMode → String
  | .numeric => "numeric"
  | .text => "text"

/-- The factor the service chose for a customer, as the client renders it. -/
structure ChallengeDescriptor where
  type : SecretType
  label : String
  inputMode : InputMode
  deriving DecidableEq

structure Candidate where
  customerRef : String
  maskedHint : String
  challenge : ChallengeDescriptor
  deriving DecidableEq

inductive ResolveStatus : Type
  | none
  | one
  | many
  deriving DecidableEq, Repr

def ResolveStatus.text : ResolveStatus → String
  | .none => "none"
  | .one => "one"
  | .many => "many"

structure ResolveResult where
  status : ResolveStatus
  customerRef : Option String
  maskedHint : Option String
  challenge : Option ChallengeDescriptor
  candidates : Option (List Candidate)
  capped : Option Bool
  deriving DecidableEq

/-- Nothing but a `status`. -/
def ResolveResult.bare (status : ResolveStatus) : ResolveResult where
  status := status
  customerRef := Option.none
  maskedHint := Option.none
  challenge := Option.none
  candidates := Option.none
  capped := Option.none

structure VerifyRequest where
  customerRef : String
  secretType : SecretType
  secretValue : String
  deriving DecidableEq

structure VerifyResult where
  verified : Bool
  deriving DecidableEq

inductive Classification : Type
  | sinhHoat
  | sanXuat
  | hanhChinh
  deriving DecidableEq, Repr

structure CustomerAddress where
  street : String
  ward : String
  district : String
  city : String
  deriving DecidableEq

structure CreateCustomerRequest where
  fullName : String
  classification : Classification
  address : CustomerAddress
  email : Option String
  deriving DecidableEq

structure CreateCustomerResult where
  customerId : String
  customerRef : String
  deriving DecidableEq

/-- Of the full profile the binding flow reads the id only. -/
structure CustomerProfileResponse where
  customerId : String
  deriving DecidableEq

inductive ClientRequest : Type
  | resolve (phone : String)
  | verify (request : VerifyRequest)
  | profile (customerRef : String)
  | create (phone : String) (profile : CreateCustomerRequest)
  deriving DecidableEq

abbrev ClientRequest.Answer : ClientRequest → Type
  | .resolve _ => Except Exn ResolveResult
  | .verify _ => Except Exn VerifyResult
  | .profile _ => Except Exn CustomerProfileResponse
  | .create _ _ => Except Exn CreateCustomerResult

/-- An implementation: which answers may come, and the state each leaves. -/
structure CustomerServiceClient where
  State : Type
  answer : State → (request : ClientRequest) → request.Answer → Option State

/-! ### As plain data -/

/-- A property that is there only when it has a value. -/
def optionalField (name : String) : Option JsValue → List (String × JsValue)
  | none => []
  | some value => [(name, value)]

def ChallengeDescriptor.toJs (challenge : ChallengeDescriptor) : JsValue :=
  .obj [("type", .str challenge.type.text), ("label", .str challenge.label),
    ("inputMode", .str challenge.inputMode.name)]

def Candidate.toJs (candidate : Candidate) : JsValue :=
  .obj [("customerRef", .str candidate.customerRef), ("maskedHint", .str candidate.maskedHint),
    ("challenge", candidate.challenge.toJs)]

def ResolveResult.toJs (result : ResolveResult) : JsValue :=
  .obj ([("status", .str result.status.text)] ++
    optionalField "customerRef" (result.customerRef.map .str) ++
    optionalField "maskedHint" (result.maskedHint.map .str) ++
    optionalField "challenge" (result.challenge.map ChallengeDescriptor.toJs) ++
    optionalField "candidates"
      (result.candidates.map fun candidates => .arr (candidates.map Candidate.toJs)) ++
    optionalField "capped" (result.capped.map .bool))

/-- The references a result offers: its own, or those of its candidates. -/
def ResolveResult.refs (result : ResolveResult) : List String :=
  match result.status with
  | .none => []
  | .one => (result.customerRef.filter fun ref => ref ≠ "").toList
  | .many => (result.candidates.getD []).map Candidate.customerRef

theorem fieldsAreJson_append (left right : List (String × JsValue)) :
    JsValue.fieldsAreJson (left ++ right) =
      (JsValue.fieldsAreJson left && JsValue.fieldsAreJson right) := by
  induction left with
  | nil => rfl
  | cons field rest ih =>
      obtain ⟨name, value⟩ := field
      rw [List.cons_append, JsValue.fieldsAreJson, JsValue.fieldsAreJson, ih, Bool.and_assoc]

theorem fieldsAreJson_optionalField {name : String} {value : Option JsValue}
    (json : ∀ present, value = some present → present.isJson = true) :
    JsValue.fieldsAreJson (optionalField name value) = true := by
  cases value with
  | none => rfl
  | some present => simp [optionalField, JsValue.fieldsAreJson, json present rfl]

theorem ChallengeDescriptor.isJson_toJs (challenge : ChallengeDescriptor) :
    challenge.toJs.isJson = true := rfl

theorem areJson_candidates (candidates : List Candidate) :
    JsValue.areJson (candidates.map Candidate.toJs) = true := by
  induction candidates with
  | nil => rfl
  | cons candidate rest ih =>
      rw [List.map_cons, JsValue.areJson, ih, Bool.and_true]
      rfl

/-- A resolve result survives every cache as it is. -/
theorem ResolveResult.isJson_toJs (result : ResolveResult) : result.toJs.isJson = true := by
  have ofMap {α : Type} {convert : α → JsValue} (value : Option α)
      (json : ∀ inner, (convert inner).isJson = true) :
      ∀ present, value.map convert = some present → present.isJson = true := by
    intro present same
    obtain ⟨inner, -, rfl⟩ := Option.map_eq_some_iff.mp same
    exact json inner
  unfold toJs
  rw [JsValue.isJson]
  simp only [fieldsAreJson_append, Bool.and_eq_true]
  refine ⟨⟨⟨⟨⟨rfl, ?_⟩, ?_⟩, ?_⟩, ?_⟩, ?_⟩
  · exact fieldsAreJson_optionalField (ofMap _ fun _ => rfl)
  · exact fieldsAreJson_optionalField (ofMap _ fun _ => rfl)
  · exact fieldsAreJson_optionalField (ofMap _ fun _ => rfl)
  · exact fieldsAreJson_optionalField (ofMap _ areJson_candidates)
  · exact fieldsAreJson_optionalField (ofMap _ fun _ => rfl)

end SelfService
