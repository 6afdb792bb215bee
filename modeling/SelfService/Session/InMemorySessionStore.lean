/-
The session store without Redis.

It keeps events in the order in which they were appended and the channel of the
last one, where Redis orders them by their times and keeps the channel of the first.
-/

import Mathlib.Data.List.Induction
import SelfService.Session.SessionCounts

namespace SelfService

open Data

structure SessionData where
  metadata : SessionMetadata
  events : List SessionEvent

abbrev SessionMap := OrderedMap String SessionData

namespace InMemorySessionStore

/-- The id of the first event is the id of the session. -/
def newSession (call : AppendCall) : SessionData where
  metadata :=
    { sessionId := call.event.id
      userId := call.userId
      channel := call.event.channel.text
      createdAt := JsValue.toISOString call.now
      updatedAt := JsValue.toISOString call.now
      eventCount := 0 }
  events := []

/-- The ttl is not used. -/
def appendEvent (call : AppendCall) (sessions : SessionMap) : SessionMap :=
  let session := (sessions.get? call.userId).getD (newSession call)
  let events := session.events ++ [call.event]
  sessions.set call.userId
    ⟨{ session.metadata with
        updatedAt := call.event.timestamp
        channel := call.event.channel.text
        eventCount := events.length },
      events⟩

def getSession (userId : String) (sessions : SessionMap) : Option SessionMetadata :=
  (sessions.get? userId).map SessionData.metadata

def getEvents (runtime : SessionRuntime) (userId : String) (first last : JsNumber)
    (sessions : SessionMap) : List SessionEvent :=
  match sessions.get? userId with
  | none => []
  | some session => session.events.filter fun event =>
      (runtime.getTime event.timestamp).any fun time => first.boundedBy time && last.bounds time

end InMemorySessionStore

/-! ### Both stores -/

/-- The state of both stores. -/
structure BothStores where
  db : RedisDb
  sessions : SessionMap

def SessionMetadata.shared (session : SessionMetadata) : String × String × Nat :=
  (session.userId, session.channel, session.eventCount)

namespace BothStores

section Runs

variable (runtime : SessionRuntime) (defaultTtl : JsNumber)

def append (stores : BothStores) (call : AppendCall) : BothStores where
  db := (RedisSessionStore.appendEvent runtime defaultTtl call stores.db).1
  sessions := InMemorySessionStore.appendEvent call stores.sessions

def after (calls : List AppendCall) : BothStores :=
  calls.foldl (append runtime defaultTtl) ⟨.empty, .empty⟩

/-- Both stores tell the same of a user. -/
def Agree (now : Nat) (userId : String) (stores : BothStores) : Prop :=
  (∀ first last, first ≠ .nan → last ≠ .nan →
    RedisSessionStore.getEvents runtime now userId first last stores.db =
      .ok ((InMemorySessionStore.getEvents runtime userId first last stores.sessions).map
        SessionEvent.toJs)) ∧
  (RedisSessionStore.getSession now userId stores.db).map (Option.map SessionMetadata.shared) =
    .ok ((InMemorySessionStore.getSession userId stores.sessions).map SessionMetadata.shared)

/-- The session that the call began or went on with has not expired. -/
def Lasts (call : AppendCall) (now : Nat) : Prop :=
  ∃ seconds, RedisDb.expirySeconds call.now (call.ttl.getD defaultTtl) = some seconds ∧
    0 < seconds ∧ now ≤ call.now + seconds * 1000

/-- Calls with valid times and distinct events, while no session expires. -/
structure Regular (calls : List AppendCall) : Prop where
  timed : ∀ call ∈ calls, (runtime.getTime call.event.timestamp).isSome = true
  distinct : calls.Pairwise fun earlier later =>
    earlier.userId = later.userId → earlier.event.json ≠ later.event.json
  valid : ∀ call ∈ calls, Lasts defaultTtl call call.now
  lasting : calls.Pairwise fun earlier later =>
    earlier.userId = later.userId → Lasts defaultTtl earlier later.now

end Runs

def ownCalls (userId : String) (calls : List AppendCall) : List AppendCall :=
  calls.filter fun call => call.userId = userId

/-- The time of the event of a call. -/
def score (runtime : SessionRuntime) (call : AppendCall) : Int :=
  (runtime.getTime call.event.timestamp).getD 0

def scored (runtime : SessionRuntime) (call : AppendCall) : JsValue × Int :=
  (call.event.json, score runtime call)

/-- The user's events came in the order of their times, those of one time in the order of their
texts; the last one came over the channel of the first; and their contents are plain JSON. -/
structure InStep (runtime : SessionRuntime) (calls : List AppendCall) : Prop where
  ordered : calls.Pairwise fun earlier later =>
    RedisSessionStore.scoredBefore runtime (scored runtime earlier) (scored runtime later) = true
  oneChannel : calls.head?.map (fun call => call.event.channel) =
    calls.getLast?.map fun call => call.event.channel
  plain : ∀ call ∈ calls, call.event.content.isJson = true

/-! ### What both stores keep of a user -/

/-- The state of both stores after the calls of a user. -/
inductive Tracks (runtime : SessionRuntime) (defaultTtl : JsNumber) (stores : BothStores)
    (userId : String) : List AppendCall → Prop
  | missing (session : stores.db (RedisSessionStore.sessionKey userId) = none)
      (events : stores.db (RedisSessionStore.eventsKey userId) = none)
      (memory : stores.sessions.get? userId = none) :
      Tracks runtime defaultTtl stores userId []
  | present (calls : List AppendCall) (first last : AppendCall) (seconds : Int)
      (fields : SessionMetadata) (members : OrderedMap JsValue Int) (data : SessionData)
      (begins : calls.head? = some first) (ends : calls.getLast? = some last)
      (valid : RedisDb.expirySeconds last.now (last.ttl.getD defaultTtl) = some seconds)
      (session : stores.db (RedisSessionStore.sessionKey userId) =
        some ⟨.hash fields, some (last.now + seconds * 1000)⟩)
      (events : stores.db (RedisSessionStore.eventsKey userId) =
        some ⟨.zset members, some (last.now + seconds * 1000)⟩)
      (memory : stores.sessions.get? userId = some data)
      (hashed : fields.shared = (userId, first.event.channel.text, calls.length))
      (listed : members.entries = calls.map (scored runtime))
      (summarised : data.metadata.shared = (userId, last.event.channel.text, calls.length))
      (kept : data.events = calls.map AppendCall.event) :
      Tracks runtime defaultTtl stores userId calls

section Tracking

open RedisSessionStore RedisDb

variable {runtime : SessionRuntime} {defaultTtl : JsNumber} {stores : BothStores}
  {userId : String} {calls : List AppendCall}

/-- What is found under the keys of a user while the session lasts. -/
theorem Tracks.live (tracks : Tracks runtime defaultTtl stores userId calls) {now : Nat}
    (lasts : ∀ call ∈ calls, Lasts defaultTtl call now) :
    stores.db.live now (sessionKey userId) = stores.db (sessionKey userId) ∧
      stores.db.live now (eventsKey userId) = stores.db (eventsKey userId) := by
  cases tracks with
  | missing session events =>
      rw [RedisDb.live, RedisDb.live, session, events]
      exact ⟨rfl, rfl⟩
  | present _ first last seconds fields members data begins ends valid session events =>
      obtain ⟨same, also, -, due⟩ := lasts last (List.mem_of_getLast? ends)
      rw [valid] at also
      cases also
      rw [session, events]
      exact ⟨live_eq_some.mpr ⟨session, decide_eq_true due⟩,
        live_eq_some.mpr ⟨events, decide_eq_true due⟩⟩

theorem Tracks.wellTyped (tracks : Tracks runtime defaultTtl stores userId calls) {now : Nat}
    (lasts : ∀ call ∈ calls, Lasts defaultTtl call now) : WellTyped now userId stores.db := by
  have ⟨session, events⟩ := tracks.live lasts
  cases tracks with
  | missing noSession noEvents =>
      constructor
      · intro fields expiresAt found
        rw [events, noEvents] at found
        cases found
      · intro members expiresAt found
        rw [session, noSession] at found
        cases found
  | present _ first last seconds fields members data begins ends valid hash zset =>
      constructor
      · intro fields expiresAt found
        rw [events, zset] at found
        cases found
      · intro members expiresAt found
        rw [session, hash] at found
        cases found

theorem append_valid {call : AppendCall} {time seconds : Int} (plain : ¬ Colliding call.userId)
    (typed : WellTyped call.now call.userId stores.db)
    (timed : runtime.getTime call.event.timestamp = some time)
    (valid : expirySeconds call.now (call.ttl.getD defaultTtl) = some seconds) :
    stores.append runtime defaultTtl call =
      ⟨written call time seconds stores.db,
        InMemorySessionStore.appendEvent call stores.sessions⟩ := by
  rw [append, appendEvent_valid plain typed timed valid]

/-- The calls of other users leave a user as it is. -/
theorem Tracks.other (tracks : Tracks runtime defaultTtl stores userId calls)
    {call : AppendCall} {time seconds : Int} (plain : ¬ Colliding call.userId)
    (own : ¬ Colliding userId) (apart : userId ≠ call.userId) :
    Tracks runtime defaultTtl
      ⟨written call time seconds stores.db,
        InMemorySessionStore.appendEvent call stores.sessions⟩ userId calls := by
  have session : written call time seconds stores.db (sessionKey userId) =
      stores.db (sessionKey userId) :=
    written_other (fun key => apart (sessionKey_inj.mp key)) (sessionKey_ne_eventsKey own _)
  have events : written call time seconds stores.db (eventsKey userId) =
      stores.db (eventsKey userId) :=
    written_other (sessionKey_ne_eventsKey plain _).symm
      fun key => apart (eventsKey_inj.mp key)
  have memory : (InMemorySessionStore.appendEvent call stores.sessions).get? userId =
      stores.sessions.get? userId :=
    OrderedMap.get?_set_of_ne _ _ apart.symm
  cases tracks with
  | missing noSession noEvents noMemory =>
      exact .missing (session.trans noSession) (events.trans noEvents) (memory.trans noMemory)
  | present _ first last latest fields members data begins ends valid hash zset stored hashed
      listed summarised kept =>
      exact .present calls first last latest fields members data begins ends valid
        (session.trans hash) (events.trans zset) (memory.trans stored) hashed listed summarised
        kept

/-- The call is the next one of its user. -/
theorem Tracks.own {call : AppendCall} {time seconds : Int}
    (tracks : Tracks runtime defaultTtl stores call.userId calls)
    (plain : ¬ Colliding call.userId)
    (timed : runtime.getTime call.event.timestamp = some time)
    (valid : expirySeconds call.now (call.ttl.getD defaultTtl) = some seconds)
    (positive : 0 < seconds) (lasts : ∀ earlier ∈ calls, Lasts defaultTtl earlier call.now)
    (distinct : ∀ earlier ∈ calls, earlier.event.json ≠ call.event.json) :
    Tracks runtime defaultTtl
      ⟨written call time seconds stores.db,
        InMemorySessionStore.appendEvent call stores.sessions⟩ call.userId (calls ++ [call]) := by
  obtain ⟨liveSession, liveEvents⟩ := tracks.live lasts
  have remains : ¬ seconds ≤ 0 := Int.not_le.mpr positive
  have session : written call time seconds stores.db (sessionKey call.userId) =
      some ⟨.hash (nextFields call stores.db), some (call.now + seconds * 1000)⟩ := by
    rw [written_session, expiring, if_neg remains]
  have events : written call time seconds stores.db (eventsKey call.userId) =
      some ⟨.zset (nextMembers call time stores.db), some (call.now + seconds * 1000)⟩ := by
    rw [written_events plain, expiring, if_neg remains]
  have ends : (calls ++ [call]).getLast? = some call := List.getLast?_concat
  have latest : scored runtime call = (call.event.json, time) := by
    rw [scored, score, timed, Option.getD_some]
  cases tracks with
  | missing noSession noEvents noMemory =>
      rw [noSession] at liveSession
      rw [noEvents] at liveEvents
      refine .present _ call call seconds _ _ _ rfl ends valid session events
        (OrderedMap.get?_set_self _ _ _) ?_ ?_ ?_ ?_
      · rw [nextFields, liveSession]
        rfl
      · rw [nextMembers, liveEvents, List.nil_append, List.map_singleton, latest]
        rfl
      · rw [noMemory]
        rfl
      · rw [noMemory]
        rfl
  | present _ first last past fields members data begins _ _ hash zset stored hashed listed
      summarised kept =>
      rw [hash] at liveSession
      rw [zset] at liveEvents
      have absent : call.event.json ∉ members.keys := by
        rw [OrderedMap.keys, listed, List.map_map]
        intro member
        obtain ⟨earlier, inCalls, same⟩ := List.mem_map.mp member
        exact distinct earlier inCalls same
      have starts : (calls ++ [call]).head? = some first := by
        rw [List.head?_append, begins]
        rfl
      obtain ⟨owner, channel, count⟩ : fields.userId = call.userId ∧
          fields.channel = first.event.channel.text ∧ fields.eventCount = calls.length := by
        simpa [SessionMetadata.shared] using hashed
      obtain ⟨memoryOwner, -, -⟩ : data.metadata.userId = call.userId ∧
          data.metadata.channel = _ ∧ data.metadata.eventCount = calls.length := by
        simpa [SessionMetadata.shared] using summarised
      refine .present _ first call seconds _ _ _ starts ends valid session events
        (OrderedMap.get?_set_self _ _ _) ?_ ?_ ?_ ?_
      · rw [nextFields, liveSession, counted, SessionMetadata.shared, owner, channel, count,
          List.length_append, List.length_singleton]
      · rw [nextMembers, liveEvents, membersOf, OrderedMap.entries_set_of_notMem time absent,
          listed, List.map_append, List.map_singleton, latest]
      · simp [stored, SessionMetadata.shared, memoryOwner, kept]
      · rw [stored, Option.getD_some, kept, List.map_append, List.map_singleton]

/-- Both stores keep every user's calls. -/
theorem tracks_after (calls : List AppendCall)
    (regular : Regular runtime defaultTtl calls)
    (plain : ∀ call ∈ calls, ¬ Colliding call.userId) (own : ¬ Colliding userId) :
    Tracks runtime defaultTtl (after runtime defaultTtl calls) userId
      (ownCalls userId calls) := by
  induction calls using List.reverseRecOn generalizing userId with
  | nil => exact .missing rfl rfl rfl
  | append_singleton calls call ih =>
      have ⟨before, _, distinct⟩ := List.pairwise_append.mp regular.distinct
      have ⟨early, _, lasting⟩ := List.pairwise_append.mp regular.lasting
      have earlier : Regular runtime defaultTtl calls :=
        ⟨fun other member => regular.timed other (List.mem_append_left _ member), before,
          fun other member => regular.valid other (List.mem_append_left _ member), early⟩
      have plainBefore (other : AppendCall) (member : other ∈ calls) :
          ¬ Colliding other.userId :=
        plain other (List.mem_append_left _ member)
      have last : call ∈ calls ++ [call] := List.mem_append_right _ (List.mem_singleton_self _)
      have lasts : ∀ other ∈ ownCalls call.userId calls, Lasts defaultTtl other call.now := by
        intro other member
        obtain ⟨inCalls, same⟩ := List.mem_filter.mp member
        exact lasting other inCalls call (List.mem_singleton_self _) (of_decide_eq_true same)
      have apart : ∀ other ∈ ownCalls call.userId calls,
          other.event.json ≠ call.event.json := by
        intro other member
        obtain ⟨inCalls, same⟩ := List.mem_filter.mp member
        exact distinct other inCalls call (List.mem_singleton_self _) (of_decide_eq_true same)
      have mine := ih earlier plainBefore (plain call last)
      obtain ⟨time, timed⟩ := Option.isSome_iff_exists.mp (regular.timed call last)
      obtain ⟨seconds, valid, positive, -⟩ := regular.valid call last
      have stepped : after runtime defaultTtl (calls ++ [call]) =
          ⟨written call time seconds (after runtime defaultTtl calls).db,
            InMemorySessionStore.appendEvent call (after runtime defaultTtl calls).sessions⟩ := by
        rw [after, List.foldl_append]
        exact append_valid (plain call last) (mine.wellTyped lasts) timed valid
      rw [stepped, ownCalls, List.filter_append]
      by_cases same : userId = call.userId
      · subst same
        simp only [List.filter_cons, decide_true, if_true, List.filter_nil]
        exact mine.own (plain call last) timed valid positive lasts apart
      · have others : [call].filter (fun call => call.userId = userId) = [] := by
          simp [Ne.symm same]
        rw [others, List.append_nil]
        exact (ih earlier plainBefore own).other (plain call last) own same

/-! ### Agreement -/

theorem SessionEvent.isJson_toJs (event : SessionEvent) :
    event.toJs.isJson = event.content.isJson := by
  simp [SessionEvent.toJs, JsValue.isJson, JsValue.fieldsAreJson]

theorem scoredBefore_trans (runtime : SessionRuntime) (left middle right : JsValue × Int)
    (first : scoredBefore runtime left middle = true)
    (second : scoredBefore runtime middle right = true) :
    scoredBefore runtime left right = true := by
  simp only [scoredBefore, Bool.or_eq_true, Bool.and_eq_true, decide_eq_true_eq] at *
  rcases first with sooner | ⟨same, text⟩
  · left
    rcases second with later | ⟨equal, -⟩ <;> omega
  · rcases second with later | ⟨equal, next⟩
    · left
      omega
    · right
      exact ⟨same.trans equal, String.le_trans text next⟩

theorem scoredBefore_total (runtime : SessionRuntime) (left right : JsValue × Int) :
    (scoredBefore runtime left right || scoredBefore runtime right left) = true := by
  simp only [scoredBefore, Bool.or_eq_true, Bool.and_eq_true, decide_eq_true_eq]
  rcases Int.lt_trichotomy left.2 right.2 with sooner | same | later
  · exact Or.inl (Or.inl sooner)
  · rcases String.le_total (runtime.stringify left.1) (runtime.stringify right.1) with before | after
    · exact Or.inl (Or.inr ⟨same, before⟩)
    · exact Or.inr (Or.inr ⟨same.symm, after⟩)
  · exact Or.inr (Or.inl later)

/-- The event of the call lies in the range. -/
def inRange (runtime : SessionRuntime) (first last : JsNumber) (call : AppendCall) : Bool :=
  first.boundedBy (score runtime call) && last.bounds (score runtime call)

theorem rangeByScore_ordered {members : OrderedMap JsValue Int}
    (listed : members.entries = calls.map (scored runtime))
    (ordered : calls.Pairwise fun earlier later =>
      scoredBefore runtime (scored runtime earlier) (scored runtime later) = true)
    (first last : JsNumber) :
    rangeByScore runtime first last members =
      (calls.filter (inRange runtime first last)).map fun call => call.event.json := by
  have sorted : (calls.map (scored runtime)).Pairwise fun left right =>
      scoredBefore runtime left right = true :=
    List.pairwise_map.mpr ordered
  rw [rangeByScore, listed, List.mergeSort_of_pairwise sorted, List.filter_map, List.map_map]
  rfl

theorem getEvents_memory {data : SessionData} (timed : ∀ call ∈ calls,
      (runtime.getTime call.event.timestamp).isSome = true)
    (memory : stores.sessions.get? userId = some data)
    (kept : data.events = calls.map AppendCall.event) (first last : JsNumber) :
    InMemorySessionStore.getEvents runtime userId first last stores.sessions =
      (calls.filter (inRange runtime first last)).map AppendCall.event := by
  simp only [InMemorySessionStore.getEvents, memory, kept, List.filter_map]
  congr 1
  apply List.filter_congr
  intro call member
  obtain ⟨time, known⟩ := Option.isSome_iff_exists.mp (timed call member)
  simp [inRange, score, known]

/-- Two listings of the same entries with the same members are the same. -/
theorem entries_ext {left right : List (JsValue × Int)}
    (members : left.map Prod.fst = right.map Prod.fst) (entries : left.Perm right)
    (distinct : (right.map Prod.fst).Nodup) : left = right := by
  have lengths : left.length = right.length := entries.length_eq
  apply List.ext_getElem lengths
  intro index inLeft inRight
  have named : left[index].1 = right[index].1 := by
    have at_ := congrArg (fun names => names[index]?) members
    simpa [inLeft, inRight] using at_
  exact List.inj_on_of_nodup_map distinct (entries.subset (List.getElem_mem inLeft))
    (List.getElem_mem inRight) named

theorem inStep_of_full {members : OrderedMap JsValue Int}
    (listed : members.entries = calls.map (scored runtime))
    (same : rangeByScore runtime .negInfinity .infinity members =
      calls.map fun call => call.event.toJs) :
    (∀ call ∈ calls, call.event.content.isJson = true) ∧
      calls.Pairwise fun earlier later =>
        scoredBefore runtime (scored runtime earlier) (scored runtime later) = true := by
  have sorted := List.pairwise_mergeSort (scoredBefore_trans runtime)
    (scoredBefore_total runtime) members.entries
  have perm := List.mergeSort_perm members.entries (scoredBefore runtime)
  have told : ((members.entries.mergeSort (scoredBefore runtime)).map Prod.fst) =
      calls.map fun call => call.event.toJs := by
    simpa [rangeByScore, JsNumber.boundedBy, JsNumber.bounds] using same
  have plain : ∀ call ∈ calls, call.event.content.isJson = true := by
    intro call member
    have listedThere : call.event.toJs ∈ (members.entries.mergeSort
        (scoredBefore runtime)).map Prod.fst := by
      rw [told]
      exact List.mem_map.mpr ⟨call, member, rfl⟩
    have inEntries := (perm.map Prod.fst).subset listedThere
    rw [listed, List.map_map] at inEntries
    obtain ⟨other, -, equal⟩ := List.mem_map.mp inEntries
    rw [← SessionEvent.isJson_toJs, ← equal]
    exact JsValue.isJson_roundTrip other.event.toJs (by simp [SessionEvent.toJs])
  refine ⟨plain, ?_⟩
  have equal : members.entries.mergeSort (scoredBefore runtime) = members.entries := by
    apply entries_ext _ perm members.distinct
    rw [told, listed, List.map_map]
    apply List.map_congr_left
    intro call member
    have json : call.event.toJs.isJson = true := by
      rw [SessionEvent.isJson_toJs]
      exact plain call member
    exact (JsValue.roundTrip_of_isJson _ json).symm
  rw [equal, listed, List.pairwise_map] at sorted
  exact sorted

theorem ChannelType.text_inj {channel other : ChannelType} :
    channel.text = other.text ↔ channel = other := by
  constructor
  · intro same
    cases channel <;> cases other <;> simp [ChannelType.text] at same ⊢
  · exact congrArg ChannelType.text

theorem Tracks.agree_iff (tracks : Tracks runtime defaultTtl stores userId calls) {now : Nat}
    (timed : ∀ call ∈ calls, (runtime.getTime call.event.timestamp).isSome = true)
    (lasts : ∀ call ∈ calls, Lasts defaultTtl call now) :
    stores.Agree runtime now userId ↔ InStep runtime calls := by
  have ⟨liveSession, liveEvents⟩ := tracks.live lasts
  cases tracks with
  | missing noSession noEvents noMemory =>
      rw [noSession] at liveSession
      rw [noEvents] at liveEvents
      constructor
      · intro _
        exact ⟨List.Pairwise.nil, rfl, fun call member => absurd member List.not_mem_nil⟩
      · intro _
        constructor
        · intro first last isFirst isLast
          simp [RedisSessionStore.getEvents, isFirst, isLast, liveEvents,
            InMemorySessionStore.getEvents, noMemory]
        · simp [RedisSessionStore.getSession, liveSession, InMemorySessionStore.getSession,
            noMemory, Except.map]
  | present _ first last seconds fields members data begins ends valid hash zset memory hashed
      listed summarised kept =>
      rw [hash] at liveSession
      rw [zset] at liveEvents
      have channels : (RedisSessionStore.getSession now userId stores.db).map
          (Option.map SessionMetadata.shared) =
            .ok ((InMemorySessionStore.getSession userId stores.sessions).map
              SessionMetadata.shared) ↔ first.event.channel = last.event.channel := by
        have redis : (RedisSessionStore.getSession now userId stores.db).map
            (Option.map SessionMetadata.shared) = .ok (some fields.shared) := by
          rw [RedisSessionStore.getSession, liveSession]
          rfl
        rw [redis, InMemorySessionStore.getSession, memory, Option.map_some, Option.map_some,
          hashed, summarised, ← ChannelType.text_inj]
        simp
      have redisEvents (low high : JsNumber) (isLow : low ≠ .nan) (isHigh : high ≠ .nan) :
          RedisSessionStore.getEvents runtime now userId low high stores.db =
            .ok (rangeByScore runtime low high members) := by
        simp [RedisSessionStore.getEvents, isLow, isHigh, liveEvents]
      constructor
      · intro agree
        have full := agree.1 .negInfinity .infinity (by decide) (by decide)
        rw [redisEvents _ _ (by decide) (by decide), getEvents_memory timed memory kept] at full
        have everything : calls.filter (inRange runtime .negInfinity .infinity) = calls := by
          simp [inRange, JsNumber.boundedBy, JsNumber.bounds]
        rw [everything, List.map_map] at full
        obtain ⟨plain, ordered⟩ := inStep_of_full listed (Except.ok.inj full)
        refine ⟨ordered, ?_, plain⟩
        rw [begins, ends, Option.map_some, Option.map_some, channels.mp agree.2]
      · intro inStep
        constructor
        · intro low high isLow isHigh
          rw [redisEvents low high isLow isHigh, getEvents_memory timed memory kept,
            rangeByScore_ordered listed inStep.ordered, List.map_map]
          congr 1
          apply List.map_congr_left
          intro call member
          apply JsValue.roundTrip_of_isJson
          rw [SessionEvent.isJson_toJs]
          exact inStep.plain call (List.mem_of_mem_filter member)
        · apply channels.mpr
          have one := inStep.oneChannel
          rw [begins, ends, Option.map_some, Option.map_some] at one
          exact Option.some.inj one

end Tracking

/-- After every regular sequence of calls, both stores tell the same of a user exactly if the
user's events came in step. -/
theorem stores_agree_iff (runtime : SessionRuntime) (defaultTtl : JsNumber)
    (calls : List AppendCall) (regular : Regular runtime defaultTtl calls)
    (plain : ∀ call ∈ calls, ¬ Colliding call.userId) (userId : String)
    (own : ¬ Colliding userId) (now : Nat)
    (unexpired : ∀ call ∈ ownCalls userId calls, Lasts defaultTtl call now) :
    (after runtime defaultTtl calls).Agree runtime now userId ↔
      InStep runtime (ownCalls userId calls) := by
  have timed : ∀ call ∈ ownCalls userId calls,
      (runtime.getTime call.event.timestamp).isSome = true :=
    fun call member => regular.timed call (List.mem_of_mem_filter member)
  exact (tracks_after calls regular plain own).agree_iff timed unexpired

/-! ### A late event -/

open SessionRun

def ticketCreated : SessionEvent where
  id := "16fd2706-8baf-433b-82eb-8c7fada847da"
  type := .ticketCreated
  channel := .app
  timestamp := "2026-01-01T00:00:01.000Z"
  content := .obj []

/-- The times and texts of the two events below. -/
def twoEvents : SessionRuntime where
  getTime timestamp :=
    if timestamp = ticketCreated.timestamp then some 1767225601000
    else newYear.getTime timestamp
  stringify value :=
    if value = ticketCreated.json then
      "\x7b\"id\":\"16fd2706-8baf-433b-82eb-8c7fada847da\",\"type\":\"ticket_created\"," ++
        "\"channel\":\"app\",\"timestamp\":\"2026-01-01T00:00:01.000Z\",\"content\":\x7b\x7d\x7d"
    else newYear.stringify value

def noted (event : SessionEvent) : AppendCall :=
  { viewed with event := event, now := 1767225602000 }

theorem lasts_noted (event : SessionEvent) : Lasts day (noted event) 1767225602000 := by
  have valid : RedisDb.expirySeconds 1767225602000 day = some 86400 := by decide +kernel
  refine ⟨86400, valid, by decide, ?_⟩
  change ((1767225602000 : Nat) : Int) ≤ ((1767225602000 : Nat) : Int) + 86400 * 1000
  omega

theorem regular_noted {events : List SessionEvent}
    (timed : ∀ event ∈ events, (twoEvents.getTime event.timestamp).isSome = true)
    (distinct : events.Pairwise fun earlier later => earlier.json ≠ later.json) :
    Regular twoEvents day (events.map noted) := by
  constructor
  · intro call member
    obtain ⟨event, listed, rfl⟩ := List.mem_map.mp member
    exact timed event listed
  · refine List.pairwise_map.mpr (distinct.imp ?_)
    exact fun apart _ => apart
  · intro call member
    obtain ⟨event, -, rfl⟩ := List.mem_map.mp member
    exact lasts_noted event
  · refine List.pairwise_map.mpr (distinct.imp ?_)
    exact fun _ _ => lasts_noted _

/-- Redis lists the invoice first, the memory store the ticket. -/
theorem late_event_disagrees :
    ¬ (after twoEvents day ([ticketCreated, invoiceViewed].map noted)).Agree twoEvents
      1767225602000 "user-1" := by
  intro agree
  have regular : Regular twoEvents day ([ticketCreated, invoiceViewed].map noted) :=
    regular_noted (by decide +kernel) (by decide +kernel)
  have tracks : Tracks twoEvents day (after twoEvents day _) "user-1" (ownCalls "user-1" _) :=
    tracks_after _ regular (by decide +kernel) (by decide +kernel)
  have timed : ∀ call ∈ ownCalls "user-1" ([ticketCreated, invoiceViewed].map noted),
      (twoEvents.getTime call.event.timestamp).isSome = true := by
    decide +kernel
  have lasts : ∀ call ∈ ownCalls "user-1" ([ticketCreated, invoiceViewed].map noted),
      Lasts day call 1767225602000 := by
    intro call member
    obtain ⟨event, -, rfl⟩ := List.mem_map.mp (List.mem_of_mem_filter member)
    exact lasts_noted event
  have inStep := (tracks.agree_iff timed lasts).mp agree
  exact absurd inStep.ordered (by decide +kernel)

theorem stores_agree_iff_noted :
    (after twoEvents day ([invoiceViewed, ticketCreated].map noted)).Agree twoEvents
        1767225602000 "user-1" ↔
      InStep twoEvents (ownCalls "user-1" ([invoiceViewed, ticketCreated].map noted)) := by
  have regular : Regular twoEvents day ([invoiceViewed, ticketCreated].map noted) :=
    regular_noted (by decide +kernel) (by decide +kernel)
  refine stores_agree_iff twoEvents day _ regular (by decide +kernel) "user-1" (by decide +kernel)
    1767225602000 ?_
  intro call member
  obtain ⟨event, -, rfl⟩ := List.mem_map.mp (List.mem_of_mem_filter member)
  exact lasts_noted event

end BothStores

end SelfService
