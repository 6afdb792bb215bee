/-
The history of a session in pages.

A request is read into a query that has been validated, the store is asked for the events of
the range, and one page of those over the channel is answered.
-/

import SelfService.Data.Pages
import SelfService.Session.InMemorySessionStore

namespace SelfService

open Data

/-! ### The query -/

/-- `Number.MAX_SAFE_INTEGER`. -/
def maxSafeInteger : Nat := 2 ^ 53 - 1

/-- No array is longer. -/
def maxArrayLength : Nat := 2 ^ 32 - 1

/-- `from` and `to` are the first and the last time. -/
structure SessionEventsQuery where
  first : Option Int
  last : Option Int
  channel : Option ChannelType
  page : Nat
  pageSize : Nat
  page_positive : 0 < page
  page_safe : page ≤ maxSafeInteger
  pageSize_positive : 0 < pageSize
  pageSize_bounded : pageSize ≤ 50

/-- The same query for another page. -/
def SessionEventsQuery.turnedTo (query : SessionEventsQuery) (page : Nat) (positive : 0 < page)
    (safe : page ≤ maxSafeInteger) : SessionEventsQuery :=
  { query with page := page, page_positive := positive, page_safe := safe }

def ChannelType.all : List ChannelType := [.app, .zalo, .web, .hotline, .counter]

namespace SessionEventsQuerySchema

/-- `z.coerce.number().int()`: a safe integer. -/
def int (number : JsValue → JsNumber) (value : JsValue) : Option Int :=
  (number value).integer?.filter fun value => value.natAbs ≤ maxSafeInteger

/-- `.optional()`: only a missing value is passed over. -/
def optional {α : Type} (read : JsValue → Option α) : JsValue → Option (Option α)
  | .undefined => some none
  | value => (read value).map some

/-- `ChannelTypeSchema`. -/
def channelType : JsValue → Option ChannelType
  | .str text => ChannelType.all.find? fun channel => channel.text = text
  | _ => none

/-- `.positive().default(value)`. -/
def positive (number : JsValue → JsNumber) (otherwise : Nat) : JsValue → Option Nat
  | .undefined => some otherwise
  | value => ((int number value).filter fun value => 0 < value).map Int.toNat

/-- What `Number` makes of a value is a parameter. -/
def safeParse (number : JsValue → JsNumber) (query : JsValue) : Option SessionEventsQuery :=
  match optional (int number) (query.field "from"), optional (int number) (query.field "to"),
      optional channelType (query.field "channel"), positive number 1 (query.field "page"),
      positive number 20 (query.field "pageSize") with
  | some first, some last, some channel, some page, some pageSize =>
      if valid : (0 < page ∧ page ≤ maxSafeInteger) ∧ 0 < pageSize ∧ pageSize ≤ 50 then
        some ⟨first, last, channel, page, pageSize, valid.1.1, valid.1.2, valid.2.1, valid.2.2⟩
      else none
  | _, _, _, _, _ => none

end SessionEventsQuerySchema

/-! ### The service -/

/-- The reads of `ISessionStore`, each an answer or the error it is rejected with. -/
structure ISessionStore where
  getSession : String → Except String (Option SessionMetadata)
  getEvents : String → Option Int → Option Int → Except String (List JsValue)

/-- The default range begins at zero and has no end. -/
def firstOf (first : Option Int) : JsNumber := .finite (first.getD 0 : Int)

def lastOf : Option Int → JsNumber
  | none => .infinity
  | some last => .finite last

def RedisSessionStore.reads (runtime : SessionRuntime) (now : Nat) (db : RedisDb) :
    ISessionStore where
  getSession userId := RedisSessionStore.getSession now userId db
  getEvents userId first last :=
    RedisSessionStore.getEvents runtime now userId (firstOf first) (lastOf last) db

def InMemorySessionStore.reads (runtime : SessionRuntime) (sessions : SessionMap) :
    ISessionStore where
  getSession userId := .ok (InMemorySessionStore.getSession userId sessions)
  getEvents userId first last :=
    .ok ((InMemorySessionStore.getEvents runtime userId (firstOf first) (lastOf last)
      sessions).map SessionEvent.toJs)

structure SessionEventsResponse where
  sessionId : Option String
  events : List JsValue
  totalCount : Nat
  page : Nat
  pageSize : Nat

/-- A `ValidationException`, or what the store was rejected with. -/
inductive SessionFailure : Type
  | validation
  | store (reason : String)

/-- `e.channel === channel`. -/
def overChannel (channel : ChannelType) (event : JsValue) : Bool :=
  match event.field "channel" with
  | .str text => text = channel.text
  | _ => false

/-- The events of a range, or those of them over one channel. -/
def secondaryFilter (channel : Option ChannelType) (events : List JsValue) : List JsValue :=
  match channel with
  | none => events
  | some channel => events.filter (overChannel channel)

namespace SessionService

section Requests

variable (number : JsValue → JsNumber) (store : ISessionStore) (userId : String)

def getMyEvents (query : JsValue) : Except SessionFailure SessionEventsResponse :=
  match SessionEventsQuerySchema.safeParse number query with
  | none => .error .validation
  | some validated =>
      match store.getSession userId with
      | .error reason => .error (.store reason)
      | .ok metadata =>
          match store.getEvents userId validated.first validated.last with
          | .error reason => .error (.store reason)
          | .ok found =>
              let events := secondaryFilter validated.channel found
              let offset := (validated.page - 1) * validated.pageSize
              .ok
                { sessionId := metadata.map SessionMetadata.sessionId
                  events := slice events offset (offset + validated.pageSize)
                  totalCount := events.length
                  page := validated.page
                  pageSize := validated.pageSize }

/-! ### All pages -/

/-- What is answered for one page of a filtered list. -/
def answered (metadata : Option SessionMetadata) (events : List JsValue) (pageSize page : Nat) :
    SessionEventsResponse where
  sessionId := metadata.map SessionMetadata.sessionId
  events := slice events ((page - 1) * pageSize) ((page - 1) * pageSize + pageSize)
  totalCount := events.length
  page := page
  pageSize := pageSize

/-- Requests that differ in their page only: each is read as the query for its page. -/
def Pages (query : SessionEventsQuery) (requests : Nat → JsValue) : Prop :=
  ∀ page (positive : 0 < page) (safe : page ≤ maxSafeInteger),
    SessionEventsQuerySchema.safeParse number (requests page) =
      some (query.turnedTo page positive safe)

variable {number store userId} {query : SessionEventsQuery} {requests : Nat → JsValue}
variable {metadata : Option SessionMetadata} {found : List JsValue}

theorem getMyEvents_page (pages : Pages number query requests)
    (known : store.getSession userId = .ok metadata)
    (listed : store.getEvents userId query.first query.last = .ok found) {page : Nat}
    (positive : 0 < page) (safe : page ≤ maxSafeInteger) :
    getMyEvents number store userId (requests page) =
      .ok (answered metadata (secondaryFilter query.channel found) query.pageSize page) := by
  unfold getMyEvents
  rw [pages page positive safe]
  simp only [SessionEventsQuery.turnedTo, known, listed]
  rfl

theorem length_secondaryFilter_le (channel : Option ChannelType) (events : List JsValue) :
    (secondaryFilter channel events).length ≤ events.length := by
  cases channel with
  | none => exact Nat.le_refl events.length
  | some channel => exact List.length_filter_le (overChannel channel) events

/-- The pages of the list are asked for one after the other and all are answered. -/
theorem mapM_pages (pages : Pages number query requests)
    (known : store.getSession userId = .ok metadata)
    (listed : store.getEvents userId query.first query.last = .ok found) {count : Nat}
    (safe : count ≤ maxSafeInteger) :
    (List.range count).mapM (fun index => getMyEvents number store userId (requests (index + 1))) =
      .ok ((List.range count).map fun index =>
        answered metadata (secondaryFilter query.channel found) query.pageSize (index + 1)) := by
  induction count with
  | zero => rfl
  | succ count ih =>
      have last := getMyEvents_page pages known listed (Nat.succ_pos count) safe
      rw [List.range_succ, List.mapM_append, ih (Nat.le_of_succ_le safe), List.map_append]
      simp only [List.mapM_cons, List.mapM_nil, last, List.map_cons, List.map_nil]
      rfl

/-- The pages of a session's history are the filtered list of the store, cut into pieces. -/
theorem session_pages_partition (number : JsValue → JsNumber) (store : ISessionStore)
    (userId : String) (query : SessionEventsQuery) (requests : Nat → JsValue)
    (metadata : Option SessionMetadata) (found : List JsValue)
    (pages : Pages number query requests) (known : store.getSession userId = .ok metadata)
    (listed : store.getEvents userId query.first query.last = .ok found)
    (array : found.length ≤ maxArrayLength) :
    let filtered := secondaryFilter query.channel found
    let count := pageCount query.pageSize filtered.length
    (∃ answers,
      (List.range count).mapM (fun index =>
        getMyEvents number store userId (requests (index + 1))) = .ok answers ∧
      answers.flatMap SessionEventsResponse.events = filtered) ∧
    ∀ page, 0 < page → page ≤ maxSafeInteger → ∃ answer,
      getMyEvents number store userId (requests page) = .ok answer ∧
      answer.totalCount = filtered.length ∧
      (count < page → answer.events = []) := by
  intro filtered count
  have positive := query.pageSize_positive
  have few : count ≤ maxSafeInteger := by
    have pages : count ≤ filtered.length := pageCount_le positive filtered.length
    have shorter : filtered.length ≤ found.length :=
      length_secondaryFilter_le query.channel found
    have small : maxArrayLength ≤ maxSafeInteger := by decide
    omega
  constructor
  · refine ⟨_, mapM_pages pages known listed few, ?_⟩
    rw [List.flatMap_map]
    exact flatMap_pages positive filtered
  · intro page begun safe
    refine ⟨_, getMyEvents_page pages known listed begun safe, rfl, ?_⟩
    intro past
    have all : filtered.length ≤ count * query.pageSize := total_le_pages positive filtered.length
    have further : count * query.pageSize ≤ (page - 1) * query.pageSize :=
      Nat.mul_le_mul_right query.pageSize (by omega)
    exact slice_eq_nil (Nat.le_trans all further) ((page - 1) * query.pageSize + query.pageSize)

end Requests

/-! ### Two events on two pages -/

/-- `Number` of a number is the number. -/
def numberOfNumber : JsValue → JsNumber
  | .num value => .finite value
  | _ => .nan

def oneByOne (page : Nat) : JsValue :=
  .obj [("channel", .str "app"), ("page", .num page), ("pageSize", .num 1)]

def firstEvent : SessionEventsQuery where
  first := none
  last := none
  channel := some .app
  page := 1
  pageSize := 1
  page_positive := by decide
  page_safe := by decide
  pageSize_positive := by decide
  pageSize_bounded := by decide

theorem int_natCast {value : Nat} (safe : value ≤ maxSafeInteger) :
    SessionEventsQuerySchema.int numberOfNumber (.num value) = some (value : Int) := by
  have whole : JsNumber.integer? (.finite (value : Rat)) = some (value : Int) := by
    simp [JsNumber.integer?]
  unfold SessionEventsQuerySchema.int
  rw [numberOfNumber, whole]
  simpa [Option.filter] using safe

theorem pages_oneByOne : Pages numberOfNumber firstEvent oneByOne := by
  intro page positive safe
  have read : SessionEventsQuerySchema.positive numberOfNumber 1 (.num page) = some page := by
    simp [SessionEventsQuerySchema.positive, int_natCast safe, Option.filter, positive]
  have size : SessionEventsQuerySchema.positive numberOfNumber 20 (.num 1) = some 1 := by
    decide +kernel
  have channel : SessionEventsQuerySchema.optional SessionEventsQuerySchema.channelType
      (.str "app") = some (some .app) := by
    decide +kernel
  have fields : (oneByOne page).field "from" = .undefined ∧
      (oneByOne page).field "to" = .undefined ∧ (oneByOne page).field "channel" = .str "app" ∧
      (oneByOne page).field "page" = .num page ∧ (oneByOne page).field "pageSize" = .num 1 :=
    ⟨rfl, rfl, rfl, rfl, rfl⟩
  obtain ⟨first, last, beyond, turned, sized⟩ := fields
  have valid : (0 < page ∧ page ≤ maxSafeInteger) ∧ 0 < 1 ∧ 1 ≤ 50 :=
    ⟨⟨positive, safe⟩, by decide, by decide⟩
  unfold SessionEventsQuerySchema.safeParse
  rw [first, last, beyond, turned, sized, read, size, channel]
  simp only [SessionEventsQuerySchema.optional]
  rw [dif_pos valid]
  rfl

/-- Both events of the user are stored. -/
def twoStored : SessionMap :=
  InMemorySessionStore.appendEvent (BothStores.noted BothStores.ticketCreated)
    (InMemorySessionStore.appendEvent (BothStores.noted SessionRun.invoiceViewed) .empty)

theorem session_pages_two :
    ∃ answers, (List.range 2).mapM (fun index => getMyEvents numberOfNumber
        (InMemorySessionStore.reads BothStores.twoEvents twoStored) "user-1"
        (oneByOne (index + 1))) = .ok answers ∧
      answers.flatMap SessionEventsResponse.events =
        [SessionRun.invoiceViewed.toJs, BothStores.ticketCreated.toJs] :=
  (session_pages_partition numberOfNumber
    (InMemorySessionStore.reads BothStores.twoEvents twoStored) "user-1" firstEvent oneByOne _
    [SessionRun.invoiceViewed.toJs, BothStores.ticketCreated.toJs] pages_oneByOne rfl (by rfl)
    (by decide)).1

end SessionService

end SelfService
