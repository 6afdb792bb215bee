/-
The customer service that ships with the application, and the process with it.

A fixed set of customers can be resolved, verified and read.  A customer made
by `create` can be resolved from then on; `verify` and `profile` know the fixed
set only.
-/

import SelfService.Binding.BindingVerifiedGuard
import SelfService.EventLoop.Play

namespace SelfService

open Data EventLoop

/-- Of a customer's record, what the client's answers are made of. -/
structure SeedCustomer where
  customerRef : String
  fullName : String
  phone : String
  customerId : String
  lastInvoiceAmount : String
  addressPrefix : String
  deriving DecidableEq

/-- The customers created in this process by their phone, and how many there were. -/
structure MockCustomerServiceClient where
  createdCustomers : OrderedMap String SeedCustomer
  createdCustomerCounter : Nat

namespace MockCustomerServiceClient

def SEED_CUSTOMERS : List SeedCustomer :=
  [⟨"REF-001", "Nguyễn Văn Nam", "987654321", "QN-0912345", "247500", "12 Lê Lợi, Hải Châu"⟩,
    ⟨"REF-002", "Trần Thị Hoa", "912345678", "QN-0888891", "189000", "45 Trần Phú, Sơn Trà"⟩,
    ⟨"REF-003", "Lê Minh", "9777666555", "QN-0777123", "312000", "Lê Lợi, Hải Châu"⟩,
    ⟨"REF-004", "Lê Minh Khôi", "9777666555", "QN-0666001", "156000", "Trần Phú, Sơn Trà"⟩,
    ⟨"REF-005", "Phạm Văn Năm", "666555444", "QN-0555001", "100000", "Hùng Vương, Liên Chiểu"⟩,
    ⟨"REF-006", "Phạm Thị Sáu", "666555444", "QN-0666002", "110000",
      "Điện Biên Phủ, Thanh Khê"⟩,
    ⟨"REF-007", "Phạm Văn Bảy", "666555444", "QN-0777003", "120000",
      "Nguyễn Tri Phương, Liên Chiểu"⟩,
    ⟨"REF-008", "Phạm Thị Tám", "666555444", "QN-0888004", "130000", "Hải Phòng, Thanh Khê"⟩]

/-- Digits only, without the country code and leading zeros. -/
def normalizePhone (phone : String) : String :=
  let digits := phone.toList.filter Char.isDigit
  let national := if ['8', '4'] <+: digits then digits.drop 2 else digits
  String.ofList (national.dropWhile fun digit => digit = '0')

/-- What a regular expression counts as white space. -/
def isSpace (symbol : Char) : Bool :=
  symbol.toNat ∈ [9, 10, 11, 12, 13, 32, 160, 5760, 8232, 8233, 8239, 8287, 12288, 65279] ||
    (8192 ≤ symbol.toNat && symbol.toNat ≤ 8202)

def maskedName (fullName : String) : String :=
  match fullName.toList.splitOnP isSpace |>.filter fun part => part ≠ [] with
  | [] => "***"
  | [only] => String.ofList only ++ "***"
  | first :: second :: _ => String.ofList (first ++ ' ' :: second.take 1) ++ "***"

def hint (customer : SeedCustomer) : String :=
  maskedName customer.fullName ++ " • " ++ customer.addressPrefix

def challengeFor (_customer : SeedCustomer) : ChallengeDescriptor where
  type := .lastInvoiceAmount
  label := "Số tiền hoá đơn gần nhất"
  inputMode := .numeric

def candidate (customer : SeedCustomer) : Candidate where
  customerRef := customer.customerRef
  maskedHint := hint customer
  challenge := challengeFor customer

/-- Created customers come first. -/
def matching (store : MockCustomerServiceClient) (phone : String) : List SeedCustomer :=
  (store.createdCustomers.entries.map Prod.snd ++ SEED_CUSTOMERS).filter fun customer =>
    customer.phone = normalizePhone phone

def resolve (store : MockCustomerServiceClient) (phone : String) : ResolveResult :=
  match store.matching phone with
  | [] => .bare .none
  | [customer] =>
      { ResolveResult.bare .one with
        customerRef := some customer.customerRef
        maskedHint := some (hint customer)
        challenge := some (challengeFor customer) }
  | several =>
      if several.length > 3 then { ResolveResult.bare .many with capped := some true }
      else { ResolveResult.bare .many with candidates := some (several.map candidate) }

def padded (count : Nat) : String :=
  let digits := toString count
  String.ofList (List.replicate (6 - digits.length) '0') ++ digits

/-- The customer that `create` makes out of a profile. -/
def newCustomer (count : Nat) (phone : String) (profile : CreateCustomerRequest) :
    SeedCustomer where
  customerRef := "REF-NEW-" ++ padded count
  fullName := profile.fullName
  phone := phone
  customerId := "APP-" ++ padded count
  lastInvoiceAmount := ""
  addressPrefix := profile.address.street ++ ", " ++ profile.address.district

def create (store : MockCustomerServiceClient) (phone : String) (profile : CreateCustomerRequest) :
    Except Exn CreateCustomerResult × MockCustomerServiceClient :=
  let norm := normalizePhone phone
  if store.createdCustomers.contains norm || SEED_CUSTOMERS.any (fun known => known.phone = norm)
  then
    (.error (.conflict "A customer for this phone already exists" "CUSTOMER_PHONE_EXISTS"
      (.obj [("phone", .str norm)])), store)
  else
    let count := store.createdCustomerCounter + 1
    let customer := newCustomer count norm profile
    (.ok ⟨customer.customerId, customer.customerRef⟩,
      ⟨store.createdCustomers.set norm customer, count⟩)

def seed (customerRef : String) : Option SeedCustomer :=
  SEED_CUSTOMERS.find? fun known => known.customerRef = customerRef

def verify (request : VerifyRequest) : VerifyResult :=
  match seed request.customerRef with
  | none => ⟨false⟩
  | some customer =>
      if request.secretType ≠ .lastInvoiceAmount then ⟨false⟩
      else ⟨customer.lastInvoiceAmount = request.secretValue⟩

def profile (customerRef : String) : Except Exn CustomerProfileResponse :=
  match seed customerRef with
  | none => .error (.error ("Mock profile: unknown customerRef " ++ customerRef))
  | some customer => .ok ⟨customer.customerId⟩

/-- The one answer to a request, and the state after it. -/
def respond (store : MockCustomerServiceClient) :
    (request : ClientRequest) → request.Answer × MockCustomerServiceClient
  | .resolve phone => (.ok (store.resolve phone), store)
  | .verify request => (.ok (verify request), store)
  | .profile customerRef => (profile customerRef, store)
  | .create phone profile => store.create phone profile

instance (request : ClientRequest) : DecidableEq request.Answer :=
  match request with
  | .resolve _ => inferInstanceAs (DecidableEq (Except Exn ResolveResult))
  | .verify _ => inferInstanceAs (DecidableEq (Except Exn VerifyResult))
  | .profile _ => inferInstanceAs (DecidableEq (Except Exn CustomerProfileResponse))
  | .create _ _ => inferInstanceAs (DecidableEq (Except Exn CreateCustomerResult))

/-- Nothing was created yet. -/
def empty : MockCustomerServiceClient := ⟨.empty, 0⟩

end MockCustomerServiceClient

def mockCustomerService : CustomerServiceClient where
  State := MockCustomerServiceClient
  answer store request given :=
    if (store.respond request).1 = given then some (store.respond request).2 else none

/-! ### The process -/

/-- Nothing is cached, bound or created. -/
def freshBinding (now : Nat) : BindingWorld mockCustomerService :=
  PortRegistry.bareWorld now .empty .empty ⟨.empty, [], .empty⟩

abbrev BindingMove := Move (portSignature (binding mockCustomerService)) PortExternal

/-- A call arrives and takes its turns. -/
def arrives (tid : Nat) (call : BindingCall) (count : Nat) : List BindingMove :=
  .act (.call (.inr call)) :: turns tid count

/-- What is answered when everything is up: the first row that matches, and no
identity beyond the phone. -/
def obliging (backend : Backend) (phone : String) :
    Answering (portSignature (binding mockCustomerService))
  | world, .inl (.cache command) => backend.reliable world.now world.cache command
  | _, .inl (.adapter _ _ _ _) => .error (.error "no adapter")
  | _, .inl (.queueAdd _) => .ok none
  | _, .inr (.selectPhone _) => .ok (some phone)
  | _, .inr (.selectIdentity _) => .ok none
  | world, .inr (.selectBinding userId customerRef) =>
      .ok ((world.service.bindings.entries.find? fun entry =>
        Bindings.isOf userId customerRef entry.2).map Prod.fst)
  | world, .inr (.selectVerified userId) =>
      .ok ((world.service.bindings.entries.find? fun entry =>
        Bindings.isVerifiedOf userId entry.2).map Prod.snd)
  | _, .inr (.updateBinding _ _) => .ok ()
  | _, .inr (.insertBinding _ _ _ _) => .ok ()
  | _, .inr (.insertAudit _) => .ok ()
  | world, .inr (.client request) => (world.service.customers.respond request).1

/-- The binding module hashes nothing; two hashes stand in. -/
def bindingWiring (redisHost : Bool) : Wiring :=
  .configured redisHost (fun _ => ⟨"e3b0c44298fc1c14", isHex_empty⟩)
    fun _ => ⟨"d29ad42d4a509ebb", isHex_params⟩

abbrev memoryBinding : Wiring := bindingWiring false

abbrev redisBinding : Wiring := bindingWiring true

def hexBytes (text : String) : List UInt8 := Hex.decode text.toList

def firstIv : Iv := ⟨hexBytes "0f0e0d0c0b0a09080706050403020100", by decide +kernel⟩

def secondIv : Iv := ⟨hexBytes "00112233445566778899aabbccddeeff", by decide +kernel⟩

/-- AES-256-GCM under the key `000102…1f`. -/
def sampleCipher : AesGcm :=
  .recorded
    [⟨firstIv, "QN-0912345", hexBytes "146e5c1755996d406dbc9c9a02ae7f45",
        hexBytes "ea9ebf31343e6708e850"⟩,
      ⟨secondIv, "QN-0777123", hexBytes "2a88cc5fbde03166607bee70c912859b",
        hexBytes "4ac9c9456d008c981096"⟩,
      ⟨firstIv, "QN-0666001", hexBytes "2c168a8aa11d8a75d59558dc0ab7f052",
        hexBytes "ea9ebf313b39630bec54"⟩,
      ⟨firstIv, "APP-000001", hexBytes "31a5546131b5939862f6b595695d0d5a",
        hexBytes "fa80c22c3d3f650bec54"⟩]
    (by decide +kernel)

/-- The system with the mock client, in an environment where anything may fail. -/
abbrev mockBinding (wiring : Wiring) :
    System (portSignature (binding mockCustomerService)) Resolution PortExternal :=
  bindingSystem mockCustomerService sampleCipher wiring .any

/-- A session asks for its customer and binds it. -/
def bindsFirst : List BindingMove :=
  arrives 0 (.bindInit "U-1" "S-1" none none) 9 ++
    arrives 1 (.bind "U-1" "S-1" ⟨"REF-001", .lastInvoiceAmount, "247500"⟩ none none
      ⟨firstIv, "1"⟩) 30

end SelfService
