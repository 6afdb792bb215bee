/-
The event count of a session.

The count is raised with every appended event, while the sorted set takes an event
whose text it already has for the same one.
-/

import Mathlib.Tactic.Common
import SelfService.Session.RedisSessionStore

namespace SelfService

open Data RedisSessionStore

/-! ### Keys -/

/-- The hash of such a user has the key of the events of another. -/
def Colliding (userId : String) : Prop := ":events".toList <:+ userId.toList

instance (userId : String) : Decidable (Colliding userId) :=
  inferInstanceAs (Decidable (_ <:+ _))

theorem colliding_append (userId : String) : Colliding (userId ++ ":events") := by
  rw [Colliding, String.toList_append]
  exact List.suffix_append _ _

theorem exists_of_colliding {userId : String} (colliding : Colliding userId) :
    ∃ other, userId = other ++ ":events" := by
  obtain ⟨front, same⟩ := colliding
  refine ⟨String.ofList front, ?_⟩
  rw [← String.toList_inj, String.toList_append, String.toList_ofList, same]

theorem sessionKey_append (userId : String) :
    sessionKey (userId ++ ":events") = eventsKey userId := by
  rw [sessionKey, eventsKey, String.append_assoc]

theorem sessionKey_inj {userId other : String} :
    sessionKey userId = sessionKey other ↔ userId = other :=
  String.append_right_inj _

theorem sessionKey_ne_eventsKey {userId : String} (plain : ¬ Colliding userId) (other : String) :
    sessionKey userId ≠ eventsKey other := by
  intro same
  rw [← sessionKey_append, sessionKey_inj] at same
  exact plain (same ▸ colliding_append other)

theorem eventsKey_inj {userId other : String} :
    eventsKey userId = eventsKey other ↔ userId = other := by
  rw [← sessionKey_append, ← sessionKey_append, sessionKey_inj]
  exact String.append_left_inj _

/-! ### The commands of the script -/

namespace RedisDb

variable {db : RedisDb} {now : Nat} {key : String}

@[simp] theorem put_self (entry : Option RedisEntry) : db.put key entry key = entry :=
  Function.update_self _ _ _

theorem put_of_ne {other : String} (entry : Option RedisEntry) (apart : other ≠ key) :
    db.put key entry other = db other :=
  Function.update_of_ne apart _ _

theorem live_put_of_ne {other : String} (entry : Option RedisEntry) (apart : other ≠ key) :
    (db.put key entry).live now other = db.live now other := by
  rw [live, live, put_of_ne entry apart]

/-- The entry is there and has not expired. -/
def Alive (now : Nat) (entry : RedisEntry) : Prop :=
  entry.expiresAt.all (fun expiry => (now : Int) ≤ expiry) = true

theorem live_eq_some {entry : RedisEntry} :
    db.live now key = some entry ↔ db key = some entry ∧ Alive now entry :=
  Option.filter_eq_some_iff

theorem live_put_self {entry : RedisEntry} (alive : Alive now entry) :
    (db.put key (some entry)).live now key = some entry :=
  live_eq_some.mpr ⟨put_self _, alive⟩

def membersOf : Option RedisEntry → OrderedMap JsValue Int
  | some ⟨.zset members, _⟩ => members
  | _ => .empty

/-- The hash that the script leaves. -/
def counted (fresh : SessionMetadata) : Option RedisEntry → SessionMetadata
  | some ⟨.hash fields, _⟩ =>
      { fields with updatedAt := fresh.updatedAt, eventCount := fields.eventCount + 1 }
  | _ => { fresh with eventCount := 1 }

/-- What `EXPIRE` makes of a value. -/
def expiring (now : Nat) (seconds : Int) (value : RedisValue) : Option RedisEntry :=
  if seconds ≤ 0 then none else some ⟨value, some (now + seconds * 1000)⟩

theorem expire_put {ttl : JsNumber} {seconds : Int} {entry : RedisEntry}
    (valid : expirySeconds now ttl = some seconds) (alive : Alive now entry) :
    (db.put key (some entry)).expire now key ttl =
      .ok (db.put key (expiring now seconds entry.value)) := by
  have found : (db.put key (some entry)).live now key = some entry := live_put_self alive
  rw [expire, valid]
  simp only [found, Option.map_some]
  rw [put, put, Function.update_idem, expiring, put]

theorem zadd_expire {ttl : JsNumber} {seconds : Int} (score : Int) (member : JsValue)
    (valid : expirySeconds now ttl = some seconds)
    (sorted : ∀ fields expiresAt, db.live now key ≠ some ⟨.hash fields, expiresAt⟩) :
    ∃ added, db.zadd now key (some score) member = .ok added ∧
      added.expire now key ttl = .ok (db.put key (expiring now seconds
        (.zset ((membersOf (db.live now key)).set member score)))) := by
  unfold zadd
  cases found : db.live now key with
  | none => exact ⟨_, rfl, expire_put valid rfl⟩
  | some entry =>
      have alive := (live_eq_some.mp found).2
      cases entry with
      | mk value expiresAt =>
          cases value with
          | zset members => exact ⟨_, rfl, expire_put valid alive⟩
          | hash fields => exact absurd found (sorted fields expiresAt)

theorem hset_expire {ttl : JsNumber} {seconds : Int} (fresh : SessionMetadata)
    (valid : expirySeconds now ttl = some seconds)
    (hashed : ∀ members expiresAt, db.live now key ≠ some ⟨.zset members, expiresAt⟩) :
    ∃ written, db.hset now key fresh = .ok written ∧
      written.expire now key ttl = .ok (db.put key (expiring now seconds
        (.hash (counted fresh (db.live now key))))) := by
  unfold hset
  cases found : db.live now key with
  | none => exact ⟨_, rfl, expire_put valid rfl⟩
  | some entry =>
      have alive := (live_eq_some.mp found).2
      cases entry with
      | mk value expiresAt =>
          cases value with
          | hash fields => exact ⟨_, rfl, expire_put valid alive⟩
          | zset members => exact absurd found (hashed members expiresAt)

end RedisDb

section Script

variable {runtime : SessionRuntime} {defaultTtl : JsNumber} {call : AppendCall} {db : RedisDb}

open RedisDb

/-- The keys of the user have no values of the wrong kind. -/
structure WellTyped (now : Nat) (userId : String) (db : RedisDb) : Prop where
  events : ∀ fields expiresAt, db.live now (eventsKey userId) ≠ some ⟨.hash fields, expiresAt⟩
  session : ∀ members expiresAt,
    db.live now (sessionKey userId) ≠ some ⟨.zset members, expiresAt⟩

def nextMembers (call : AppendCall) (score : Int) (db : RedisDb) : OrderedMap JsValue Int :=
  (membersOf (db.live call.now (eventsKey call.userId))).set call.event.json score

def nextFields (call : AppendCall) (db : RedisDb) : SessionMetadata :=
  counted (freshMetadata call) (db.live call.now (sessionKey call.userId))

/-- The keys of the user after a valid call. -/
def written (call : AppendCall) (score seconds : Int) (db : RedisDb) : RedisDb :=
  (db.put (eventsKey call.userId)
      (expiring call.now seconds (.zset (nextMembers call score db)))).put
    (sessionKey call.userId) (expiring call.now seconds (.hash (nextFields call db)))

theorem written_other {score seconds : Int} {key : String}
    (session : key ≠ sessionKey call.userId) (events : key ≠ eventsKey call.userId) :
    written call score seconds db key = db key := by
  rw [written, put_of_ne _ session, put_of_ne _ events]

theorem written_session {score seconds : Int} :
    written call score seconds db (sessionKey call.userId) =
      expiring call.now seconds (.hash (nextFields call db)) :=
  put_self _

theorem written_events {score seconds : Int}
    (plain : ¬ Colliding call.userId) :
    written call score seconds db (eventsKey call.userId) =
      expiring call.now seconds (.zset (nextMembers call score db)) := by
  rw [written, put_of_ne _ (sessionKey_ne_eventsKey plain _).symm, put_self]

theorem appendEvent_valid {score seconds : Int} (plain : ¬ Colliding call.userId)
    (typed : WellTyped call.now call.userId db)
    (timed : runtime.getTime call.event.timestamp = some score)
    (valid : expirySeconds call.now (call.ttl.getD defaultTtl) = some seconds) :
    appendEvent runtime defaultTtl call db = (written call score seconds db, .ok ()) := by
  obtain ⟨added, first, refreshed⟩ := zadd_expire score call.event.json valid typed.events
  have unchanged : (db.put (eventsKey call.userId)
      (expiring call.now seconds (.zset (nextMembers call score db)))).live call.now
        (sessionKey call.userId) = db.live call.now (sessionKey call.userId) :=
    live_put_of_ne _ (sessionKey_ne_eventsKey plain call.userId)
  have sessionTyped : ∀ members expiresAt, (db.put (eventsKey call.userId)
      (expiring call.now seconds (.zset (nextMembers call score db)))).live call.now
        (sessionKey call.userId) ≠ some ⟨.zset members, expiresAt⟩ := by
    rw [unchanged]
    exact typed.session
  obtain ⟨hashed, second, final⟩ := hset_expire (freshMetadata call) valid sessionTyped
  rw [unchanged] at final
  rw [nextMembers] at second
  simp only [appendEvent, appendScript, timed, first, refreshed, second, final]
  rfl

/-- An event without a time is rejected before anything is written. -/
theorem appendEvent_untimed (untimed : runtime.getTime call.event.timestamp = none) :
    ∃ error, appendEvent runtime defaultTtl call db = (db, .error error) := by
  rw [appendEvent, appendScript, untimed]
  exact ⟨_, rfl⟩

end Script

/-! ### Runs -/

/-- The server, and the events whose appending to the present session of a user was
accepted. -/
structure SessionRun where
  db : RedisDb
  appended : String → List SessionEvent

namespace SessionRun

def initial : SessionRun := ⟨.empty, fun _ => []⟩

def alive (now : Nat) (userId : String) (run : SessionRun) : Bool :=
  match getSession now userId run.db with
  | .ok (some _) => true
  | _ => false

/-- The events of the session that the call finds. -/
def presentEvents (run : SessionRun) (call : AppendCall) : List SessionEvent :=
  if run.alive call.now call.userId then run.appended call.userId else []

section Truth

variable (runtime : SessionRuntime) (defaultTtl : JsNumber)

def step (run : SessionRun) (call : AppendCall) : SessionRun :=
  let (db, outcome) := appendEvent runtime defaultTtl call run.db
  { db
    appended := Function.update run.appended call.userId
      (match outcome with
      | .ok _ => run.presentEvents call ++ [call.event]
      | .error _ => run.presentEvents call) }

def after (run : SessionRun) (calls : List AppendCall) : SessionRun :=
  calls.foldl (step runtime defaultTtl) run

/-- The count of the session is the number of its events, and all events that were appended
to it are among them. -/
def Truthful (now : Nat) (userId : String) (run : SessionRun) : Prop :=
  match getSession now userId run.db with
  | .ok (some session) => ∃ events,
      getEvents runtime now userId .negInfinity .infinity run.db = .ok events ∧
        events.length = session.eventCount ∧
        ∀ event ∈ run.appended userId, event.json ∈ events
  | .ok none => getEvents runtime now userId .negInfinity .infinity run.db = .ok []
  | .error _ => True

/-- The event has no time and is rejected; or the ttl is one that `EXPIRE` accepts, the text
of the event is not yet among those of the session, and the keys of the user are not those
of another. -/
def Sound (run : SessionRun) (call : AppendCall) : Prop :=
  runtime.getTime call.event.timestamp = none ∨
    ¬ Colliding call.userId ∧
      ∃ seconds, RedisDb.expirySeconds call.now (call.ttl.getD defaultTtl) = some seconds ∧
        (seconds ≤ 0 ∨ call.event.json ∉
          (RedisDb.membersOf (run.db.live call.now (eventsKey call.userId))).keys)

def SoundRun (run : SessionRun) : List AppendCall → Prop
  | [] => True
  | call :: rest => run.Sound runtime defaultTtl call ∧
      (run.step runtime defaultTtl call).SoundRun rest

end Truth

/-! ### What a run keeps -/

/-- The two keys of a user come and go together. -/
inductive SessionAt (db : RedisDb) (appended : List SessionEvent) (userId : String) : Prop
  | missing (session : db (sessionKey userId) = none) (events : db (eventsKey userId) = none)
  | present (fields : SessionMetadata) (members : OrderedMap JsValue Int) (expiry : Int)
      (session : db (sessionKey userId) = some ⟨.hash fields, some expiry⟩)
      (events : db (eventsKey userId) = some ⟨.zset members, some expiry⟩)
      (counts : fields.eventCount = members.size)
      (complete : ∀ event ∈ appended, event.json ∈ members.keys)

structure Kept (run : SessionRun) : Prop where
  sessions : ∀ userId, ¬ Colliding userId → SessionAt run.db (run.appended userId) userId
  others : ∀ userId, Colliding userId → run.db (eventsKey userId) = none

theorem kept_initial : initial.Kept :=
  ⟨fun _ _ => .missing rfl rfl, fun _ _ => rfl⟩

variable {runtime : SessionRuntime} {defaultTtl : JsNumber} {run : SessionRun}

theorem SessionAt.mono {db : RedisDb} {appended fewer : List SessionEvent} {userId : String}
    (kept : SessionAt db appended userId) (subset : fewer ⊆ appended) :
    SessionAt db fewer userId := by
  cases kept with
  | missing session events => exact .missing session events
  | present fields members expiry session events counts complete =>
      exact .present fields members expiry session events counts
        fun event member => complete event (subset member)

/-- What the script finds under the keys of a user. -/
theorem SessionAt.live {db : RedisDb} {appended : List SessionEvent} {userId : String}
    (kept : SessionAt db appended userId) (now : Nat) :
    (db.live now (sessionKey userId) = none ∧ db.live now (eventsKey userId) = none) ∨
      ∃ fields members expiry,
        db.live now (sessionKey userId) = some ⟨.hash fields, some expiry⟩ ∧
        db.live now (eventsKey userId) = some ⟨.zset members, some expiry⟩ ∧
        fields.eventCount = members.size ∧ ∀ event ∈ appended, event.json ∈ members.keys := by
  cases kept with
  | missing session events =>
      left
      rw [RedisDb.live, RedisDb.live, session, events]
      exact ⟨rfl, rfl⟩
  | present fields members expiry session events counts complete =>
      by_cases due : (now : Int) ≤ expiry
      · right
        refine ⟨fields, members, expiry, ?_, ?_, counts, complete⟩
        · exact RedisDb.live_eq_some.mpr ⟨session, decide_eq_true due⟩
        · exact RedisDb.live_eq_some.mpr ⟨events, decide_eq_true due⟩
      · left
        rw [RedisDb.live, RedisDb.live, session, events]
        simp [due]

theorem SessionAt.wellTyped {db : RedisDb} {appended : List SessionEvent} {userId : String}
    (kept : SessionAt db appended userId) (now : Nat) : WellTyped now userId db := by
  rcases kept.live now with ⟨session, events⟩ | ⟨fields, members, expiry, session, events, -⟩
  · constructor
    · intro fields expiresAt found
      rw [events] at found
      cases found
    · intro members expiresAt found
      rw [session] at found
      cases found
  · constructor
    · intro other expiresAt found
      rw [events] at found
      cases found
    · intro other expiresAt found
      rw [session] at found
      cases found

theorem presentEvents_subset (run : SessionRun) (call : AppendCall) :
    run.presentEvents call ⊆ run.appended call.userId := by
  unfold presentEvents
  split
  · exact List.Subset.refl _
  · exact List.nil_subset _

/-- The session of a user after a valid call. -/
theorem SessionAt.written {call : AppendCall} {score seconds : Int}
    (plain : ¬ Colliding call.userId)
    (kept : SessionAt run.db (run.appended call.userId) call.userId)
    (fresh : seconds ≤ 0 ∨ call.event.json ∉
      (RedisDb.membersOf (run.db.live call.now (eventsKey call.userId))).keys) :
    SessionAt (written call score seconds run.db) (run.presentEvents call ++ [call.event])
      call.userId := by
  by_cases passed : seconds ≤ 0
  · apply SessionAt.missing
    · rw [written_session, RedisDb.expiring, if_pos passed]
    · rw [written_events plain, RedisDb.expiring, if_pos passed]
  · have absent := fresh.resolve_left passed
    have added := OrderedMap.entries_set_of_notMem score absent
    refine .present (nextFields call run.db) (nextMembers call score run.db)
      (call.now + seconds * 1000) ?_ ?_ ?_ ?_
    · rw [written_session, RedisDb.expiring, if_neg passed]
    · rw [written_events plain, RedisDb.expiring, if_neg passed]
    · rw [OrderedMap.size, nextMembers, added, List.length_append, nextFields]
      rcases kept.live call.now with ⟨session, events⟩ |
        ⟨fields, members, expiry, session, events, counts, -⟩
      · rw [session, events]
        rfl
      · rw [session, events]
        simp only [RedisDb.counted, RedisDb.membersOf, counts, OrderedMap.size,
          List.length_singleton]
    · intro event member
      rw [OrderedMap.keys, nextMembers, added, List.map_append, List.mem_append]
      rcases List.mem_append.mp member with earlier | last
      · left
        rcases kept.live call.now with ⟨session, -⟩ |
          ⟨fields, members, expiry, -, events, -, complete⟩
        · simp [presentEvents, alive, getSession, session] at earlier
        · rw [events]
          exact complete event (run.presentEvents_subset call earlier)
      · right
        rw [List.mem_singleton.mp last]
        exact List.mem_singleton_self _

theorem Kept.rejected (kept : run.Kept) {call : AppendCall}
    (untimed : runtime.getTime call.event.timestamp = none) :
    (run.step runtime defaultTtl call).Kept := by
  obtain ⟨error, rejects⟩ : ∃ error, appendEvent runtime defaultTtl call run.db =
    (run.db, .error error) := appendEvent_untimed untimed
  have stepped : run.step runtime defaultTtl call =
      ⟨run.db, Function.update run.appended call.userId (run.presentEvents call)⟩ := by
    rw [step, rejects]
  rw [stepped]
  refine ⟨?_, kept.others⟩
  intro userId own
  by_cases same : userId = call.userId
  · subst same
    simp only [Function.update_self]
    exact (kept.sessions call.userId own).mono (run.presentEvents_subset call)
  · simp only [Function.update_of_ne same]
    exact kept.sessions userId own

theorem Kept.accepted (kept : run.Kept) {call : AppendCall} {score seconds : Int}
    (plain : ¬ Colliding call.userId)
    (timed : runtime.getTime call.event.timestamp = some score)
    (valid : RedisDb.expirySeconds call.now (call.ttl.getD defaultTtl) = some seconds)
    (fresh : seconds ≤ 0 ∨ call.event.json ∉
      (RedisDb.membersOf (run.db.live call.now (eventsKey call.userId))).keys) :
    (run.step runtime defaultTtl call).Kept := by
  have typed := (kept.sessions call.userId plain).wellTyped call.now
  have stepped : run.step runtime defaultTtl call = ⟨written call score seconds run.db,
      Function.update run.appended call.userId (run.presentEvents call ++ [call.event])⟩ := by
    rw [step, appendEvent_valid plain typed timed valid]
  have unwritten {userId : String} (apart : userId ≠ call.userId) :
      written call score seconds run.db (eventsKey userId) = run.db (eventsKey userId) :=
    written_other (sessionKey_ne_eventsKey plain _).symm
      fun same => apart (eventsKey_inj.mp same)
  rw [stepped]
  constructor
  · intro userId own
    by_cases same : userId = call.userId
    · subst same
      simp only [Function.update_self]
      exact (kept.sessions call.userId plain).written plain fresh
    · simp only [Function.update_of_ne same]
      have session : written call score seconds run.db (sessionKey userId) =
          run.db (sessionKey userId) :=
        written_other (fun key => same (sessionKey_inj.mp key)) (sessionKey_ne_eventsKey own _)
      cases kept.sessions userId own with
      | missing noSession noEvents =>
          exact .missing (session.trans noSession) ((unwritten same).trans noEvents)
      | present fields members expiry hash zset counts complete =>
          exact .present fields members expiry (session.trans hash) ((unwritten same).trans zset)
            counts complete
  · intro userId collides
    have apart : userId ≠ call.userId := by
      rintro rfl
      exact plain collides
    exact (unwritten apart).trans (kept.others userId collides)

/-- A sound call keeps every session. -/
theorem Kept.step (kept : run.Kept) {call : AppendCall}
    (sound : run.Sound runtime defaultTtl call) : (run.step runtime defaultTtl call).Kept := by
  cases timed : runtime.getTime call.event.timestamp with
  | none => exact kept.rejected timed
  | some score =>
      rcases sound with untimed | ⟨plain, seconds, valid, fresh⟩
      · rw [timed] at untimed
        cases untimed
      · exact kept.accepted plain timed valid fresh

theorem Kept.after (calls : List AppendCall) (kept : run.Kept)
    (sound : run.SoundRun runtime defaultTtl calls) :
    (run.after runtime defaultTtl calls).Kept := by
  induction calls generalizing run with
  | nil => exact kept
  | cons call rest ih => exact ih (kept.step sound.1) sound.2

/-! ### What a run tells -/

theorem length_rangeByScore_full (runtime : SessionRuntime) (members : OrderedMap JsValue Int) :
    (rangeByScore runtime .negInfinity .infinity members).length = members.size := by
  simp [rangeByScore, JsNumber.boundedBy, JsNumber.bounds, OrderedMap.size]

theorem mem_rangeByScore_full (runtime : SessionRuntime) {members : OrderedMap JsValue Int}
    {member : JsValue} (listed : member ∈ members.keys) :
    member ∈ rangeByScore runtime .negInfinity .infinity members := by
  simpa [rangeByScore, JsNumber.boundedBy, JsNumber.bounds, OrderedMap.keys] using listed

theorem Kept.truthful (kept : run.Kept) (now : Nat) (userId : String) :
    run.Truthful runtime now userId := by
  unfold Truthful
  by_cases collides : Colliding userId
  · have noEvents : run.db.live now (eventsKey userId) = none := by
      rw [RedisDb.live, kept.others userId collides, Option.filter_none]
    -- its hash has the key of the events of another user
    obtain ⟨other, rfl⟩ := exists_of_colliding collides
    rw [getSession, sessionKey_append]
    cases found : run.db.live now (eventsKey other) with
    | none => simp [getEvents, noEvents]
    | some entry =>
        by_cases nested : Colliding other
        · rw [RedisDb.live, kept.others other nested] at found
          cases found
        · rcases (kept.sessions other nested).live now with ⟨-, events⟩ |
            ⟨fields, members, expiry, -, events, -⟩
          · rw [events] at found
            cases found
          · rw [events] at found
            cases found
            trivial
  · rcases (kept.sessions userId collides).live now with ⟨session, events⟩ |
      ⟨fields, members, expiry, session, events, counts, complete⟩
    · simp [getSession, getEvents, session, events]
    · simp only [getSession, getEvents, session, events, reduceCtorEq, or_self, if_false]
      refine ⟨_, rfl, ?_, ?_⟩
      · rw [length_rangeByScore_full, counts]
      · exact fun event member => mem_rangeByScore_full runtime (complete event member)

/-- In every run of sound calls the counts of all sessions are true at all times. -/
theorem event_counts_truthful (runtime : SessionRuntime) (defaultTtl : JsNumber)
    (calls : List AppendCall) (sound : initial.SoundRun runtime defaultTtl calls) (now : Nat)
    (userId : String) :
    (initial.after runtime defaultTtl calls).Truthful runtime now userId :=
  (kept_initial.after calls sound).truthful now userId

/-! ### One event twice -/

def invoiceViewed : SessionEvent where
  id := "7c9e6679-7425-40de-944b-e07fc1f90ae7"
  type := .invoiceViewed
  channel := .app
  timestamp := "2026-01-01T00:00:00.000Z"
  content := .obj []

/-- The only time and the only text that are asked for below. -/
def newYear : SessionRuntime where
  getTime timestamp := if timestamp = invoiceViewed.timestamp then some 1767225600000 else none
  stringify _ := "\x7b\"id\":\"7c9e6679-7425-40de-944b-e07fc1f90ae7\",\"type\":\"invoice_viewed\"," ++
    "\"channel\":\"app\",\"timestamp\":\"2026-01-01T00:00:00.000Z\",\"content\":\x7b\x7d\x7d"

def day : JsNumber := .finite 86400

def viewed : AppendCall where
  now := 1767225600000
  userId := "user-1"
  event := invoiceViewed
  ttl := none
  sessionId := "1b4e28ba-2fa1-41d2-883f-0016d3cca427"

/-- Two events are counted, and one is there. -/
theorem counted_twice :
    ¬ (initial.after newYear day [viewed, viewed]).Truthful newYear 1767225600000 "user-1" := by
  intro truthful
  have session : getSession 1767225600000 "user-1"
      (initial.after newYear day [viewed, viewed]).db = .ok (some
        { freshMetadata viewed with eventCount := 2 }) := by
    rfl
  have live : (initial.after newYear day [viewed, viewed]).db.live 1767225600000
      (eventsKey "user-1") = some ⟨.zset (OrderedMap.empty.set invoiceViewed.json 1767225600000),
        some 1767312000000⟩ := by
    rfl
  rw [Truthful, session] at truthful
  obtain ⟨events, told, count, -⟩ := truthful
  rw [getEvents, live] at told
  cases told
  rw [length_rangeByScore_full] at count
  exact absurd count (by decide +kernel)

theorem event_counts_truthful_viewed :
    (initial.after newYear day [viewed]).Truthful newYear 1767225600000 "user-1" := by
  have sound : initial.SoundRun newYear day [viewed] := by
    refine ⟨Or.inr ⟨by decide, 86400, by decide +kernel, Or.inr ?_⟩, trivial⟩
    exact List.not_mem_nil
  exact event_counts_truthful newYear day [viewed] sound 1767225600000 "user-1"

end SessionRun

end SelfService
