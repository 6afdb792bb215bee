/-
The binding module in the process.

Its calls share the cache and the event loop with everything else; its tables
and the customer service are its own state, reached by requests that are
awaited like any other.
-/

import SelfService.Auth.PiiEncryptionService
import SelfService.Binding.CustomerBindings
import SelfService.Port.Registry

namespace SelfService

open Data EventLoop

/-- The body of `POST /auth/bind`. -/
structure BindBody where
  customerRef : String
  secretType : SecretType
  secretValue : String
  deriving DecidableEq

/-- The random values a call may draw: an initialization vector and a row id. -/
structure Draws where
  iv : Iv
  rowId : String
  deriving DecidableEq

/-- A `guard` is the check in front of a customer-data route; `skip` says whether the
route opted out. -/
inductive BindingCall : Type
  | bindInit (userId sessionId : String) (deviceInfo ip : Option String)
  | bind (userId sessionId : String) (body : BindBody) (deviceInfo ip : Option String)
      (draws : Draws)
  | bindRegister (userId sessionId : String) (profile : CreateCustomerRequest)
      (deviceInfo ip : Option String) (draws : Draws)
  | guard (userId : Option String) (skip : Bool)
  | getMe (userId : String)

/-- A counter is about to be read; the clock was read just now. -/
inductive BindingMark : Type
  | counts (failKey : String)
  deriving DecidableEq

def binding (client : CustomerServiceClient) : Extension where
  State := BindingState client
  Req := BindingRequest
  Ans := BindingRequest.Answer
  Mark := BindingMark
  Call := BindingCall

variable {client : CustomerServiceClient}

instance : DecidableEq (portSignature (binding client)).Req :=
  inferInstanceAs (DecidableEq (PortRequest ⊕ BindingRequest))

abbrev BindingTask (client : CustomerServiceClient) := PortTask (binding client)

abbrev BindingWorld (client : CustomerServiceClient) := World (binding client)

/-- What a database reply is to the caller: a failure throws. -/
def ofReply {α : Type} : Reply α → BindingTask client α
  | .ok value => .done value
  | .failed _ reason => .fail (.error reason)

namespace CustomerServiceClient

def resolve (phone : String) : BindingTask client ResolveResult :=
  .await (.inr (.client (.resolve phone))) fun outcome => Task.settleWith outcome

def verify (request : VerifyRequest) : BindingTask client VerifyResult :=
  .await (.inr (.client (.verify request))) fun outcome => Task.settleWith outcome

def profile (customerRef : String) : BindingTask client CustomerProfileResponse :=
  .await (.inr (.client (.profile customerRef))) fun outcome => Task.settleWith outcome

def create (phone : String) (profile : CreateCustomerRequest) :
    BindingTask client CreateCustomerResult :=
  .await (.inr (.client (.create phone profile))) fun outcome => Task.settleWith outcome

end CustomerServiceClient

namespace BindingAuditRepository

def record (entry : BindingAuditEntry) : BindingTask client Unit :=
  .await (.inr (.insertAudit entry)) fun reply => ofReply reply

end BindingAuditRepository

end SelfService
