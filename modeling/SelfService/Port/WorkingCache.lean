/-
A cache that works, as the code that uses it sees it.

Under `CacheEnvironment.working` the cache is a function from keys to entries:
a lookup reads it, a write and a deletion update it at one key, and otherwise
it only loses what expires.
-/

import SelfService.Caching.CacheEquivalence
import SelfService.Caching.Retention
import SelfService.EventLoop.Returning
import SelfService.Port.Registry

namespace SelfService

open Data EventLoop

namespace Backend

variable {backend : Backend} {now : Nat} {cache after : Store}

/-- What is found under a key: its entry, unless it has expired. -/
def view (backend : Backend) (now : Nat) (cache : Store) (key : String) : Option CacheEntry :=
  RedisCacheService.live now cache (getFullKey backend.options key)

theorem blurs_of_succeeds (backend : Backend) {command : CacheCommand} {answer : command.Answer}
    (succeeds : command.succeeds answer = true) (fullKey : String) :
    backend.blurs fullKey command answer = false := by
  have clear : command.unclear answer = false := by
    cases command with
    | setIfNotExist key value ttl =>
        cases answer with
        | ok won => rfl
        | failed applied reason => cases succeeds
    | _ => rfl
  rw [blurs, clear, Bool.false_and]

theorem live_of_perform {command : CacheCommand} {answer : command.Answer}
    (allowed : (CacheEnvironment.working backend).answers now cache command answer = true)
    (performed : backend.perform now cache command answer = some after) (fullKey : String) :
    RedisCacheService.live now after fullKey =
      ((backend.touch fullKey now command answer).getD (cache.get? fullKey)).filter
        fun entry => !entry.expired now := by
  have clear := blurs_of_succeeds backend (working_answers allowed).1 fullKey
  ext entry
  rw [RedisCacheService.live_eq_some, Option.filter_eq_some_iff, Bool.not_eq_true']
  constructor
  · rintro ⟨found, fresh⟩
    exact ⟨touched_of_perform performed clear found, fresh⟩
  · rintro ⟨held, fresh⟩
    exact ⟨kept_of_perform allowed performed held fresh, fresh⟩

/-- An operation on other entries leaves this one. -/
theorem view_elsewhere {command : CacheCommand} {answer : command.Answer} {key : String}
    (allowed : (CacheEnvironment.working backend).answers now cache command answer = true)
    (performed : backend.perform now cache command answer = some after)
    (untouched : backend.touch (getFullKey backend.options key) now command answer = none) :
    backend.view now after key = backend.view now cache key := by
  rw [view, live_of_perform allowed performed, untouched]
  rfl

theorem view_of_untouched {command : CacheCommand} {answer : command.Answer}
    (allowed : (CacheEnvironment.working backend).answers now cache command answer = true)
    (performed : backend.perform now cache command answer = some after)
    (untouched : ∀ fullKey, backend.touch fullKey now command answer = none) :
    backend.view now after = backend.view now cache := by
  funext key
  exact view_elsewhere allowed performed (untouched _)

theorem view_of_get {key : String} {reply : Reply JsValue}
    (allowed : (CacheEnvironment.working backend).answers now cache (.get key) reply = true)
    (performed : backend.perform now cache (.get key) reply = some after) :
    reply.getD .null = ((backend.view now cache key).map CacheEntry.value).getD .null ∧
      backend.view now after = backend.view now cache := by
  constructor
  · cases reply with
    | ok value => exact value_of_get performed
    | failed applied reason => cases (working_answers allowed).1
  · exact view_of_untouched allowed performed fun _ => rfl

theorem entryOf_json {value : JsValue} (json : value.isJson = true) {seconds : Nat}
    (positive : 0 < seconds) :
    backend.entryOf now value (some seconds) = ⟨value, some (now + seconds * 1000)⟩ := by
  have kept : backend.stored value = value := by
    unfold stored
    cases backend.kind with
    | memory => rfl
    | redis => exact JsValue.roundTrip_of_isJson value json
  unfold entryOf
  rw [kept]
  cases backend.kind with
  | memory => simp [Nat.ne_of_gt positive]
  | redis => simp [Nat.ne_of_gt positive]

theorem view_of_set {key : String} {value : JsValue} {seconds : Nat} {reply : Reply Unit}
    (json : value.isJson = true) (positive : 0 < seconds)
    (allowed : (CacheEnvironment.working backend).answers now cache
      (.set key value (some seconds)) reply = true)
    (performed : backend.perform now cache (.set key value (some seconds)) reply = some after) :
    reply = .ok () ∧ backend.view now after =
      Function.update (backend.view now cache) key (some ⟨value, some (now + seconds * 1000)⟩) := by
  have succeeds := (working_answers allowed).1
  cases reply with
  | failed applied reason => cases succeeds
  | ok done =>
      refine ⟨rfl, ?_⟩
      funext other
      rw [view, live_of_perform allowed performed]
      by_cases same : other = key
      · subst same
        rw [Function.update_self]
        have fresh : (backend.entryOf now value (some seconds)).expired now =
            decide (now + seconds * 1000 < now) := expired_entryOf positive now now value
        rw [entryOf_json json positive] at fresh
        simp [touch, Reply.applied, entryOf_json json positive, fresh]
      · have different : getFullKey backend.options key ≠ getFullKey backend.options other :=
          fun equal => same (getFullKey_injective _ equal).symm
        rw [Function.update_of_ne same]
        simp only [touch, different, and_false, if_false]
        rfl

theorem view_of_delete {key : String} {reply : Reply Unit}
    (allowed : (CacheEnvironment.working backend).answers now cache (.delete key) reply = true)
    (performed : backend.perform now cache (.delete key) reply = some after) :
    backend.view now after = Function.update (backend.view now cache) key none := by
  have applied := applied_of_isOk (working_answers allowed).1
  funext other
  rw [view, live_of_perform allowed performed]
  by_cases same : other = key
  · subst same
    rw [Function.update_self]
    simp [touch, applied]
  · have different : getFullKey backend.options key ≠ getFullKey backend.options other :=
      fun equal => same (getFullKey_injective _ equal).symm
    rw [Function.update_of_ne same]
    simp only [touch, different, and_false, if_false]
    rfl

end Backend

/-! ### The methods of the cache -/

section Methods

variable {X : Extension} {d : Deployment X} {service : Service X}
  {answers : Answering (portSignature X)} {world : World X}

/-- What a service finds in the cache. -/
def World.view (backend : Backend) (world : World X) : String → Option CacheEntry :=
  backend.view world.now world.cache

/-- At the same instant the cache holds this. -/
structure World.Leaves (backend : Backend) (world : World X)
    (found : String → Option CacheEntry) (after : World X) : Prop where
  now : after.now = world.now
  view : after.view backend = found

theorem World.Leaves.trans {backend : Backend} {middle after : World X}
    (first : world.Leaves backend (world.view backend) middle)
    (second : middle.Leaves backend (middle.view backend) after) :
    world.Leaves backend (world.view backend) after :=
  ⟨second.now.trans first.now, second.view.trans first.view⟩

theorem returns_ask (working : d.environment = .working d.backend) {command : CacheCommand}
    {post : command.Answer → World X → Prop}
    (answered : ∀ answer cache,
      (CacheEnvironment.working d.backend).answers world.now world.cache command answer = true →
      d.backend.perform world.now world.cache command answer = some cache →
      post answer { world with cache := cache }) :
    Returns (portSystem d service) answers (CacheService.ask command : PortTask X command.Answer)
      world post := by
  apply Returns.await
  intro answer after performed
  obtain ⟨allowed, cache, served, rfl⟩ := performPort_cache performed
  rw [working] at allowed
  exact Returns.done (answered answer cache allowed served)

theorem returns_get (working : d.environment = .working d.backend) (key : String) :
    Returns (portSystem d service) answers (CacheService.get key : PortTask X JsValue) world
      fun value after =>
        value = ((world.view d.backend key).map CacheEntry.value).getD .null ∧
          world.Leaves d.backend (world.view d.backend) after := by
  have asked : Returns (portSystem d service) answers
      (CacheService.ask (.get key) : PortTask X (Reply JsValue)) world fun reply after =>
        reply.getD .null = ((world.view d.backend key).map CacheEntry.value).getD .null ∧
          world.Leaves d.backend (world.view d.backend) after := by
    apply returns_ask working
    intro reply cache allowed performed
    obtain ⟨read, same⟩ := Backend.view_of_get allowed performed
    exact ⟨read, rfl, same⟩
  exact asked.bind fun reply after holds => Returns.done holds

/-- A write of plain JSON with a time to live. -/
theorem returns_set (working : d.environment = .working d.backend) (key : String)
    (value : JsValue) (json : value.isJson = true) {seconds : Nat} (positive : 0 < seconds) :
    Returns (portSystem d service) answers
      (CacheService.set key value (some seconds) : PortTask X Unit) world fun _ after =>
        world.Leaves d.backend (Function.update (world.view d.backend) key
          (some ⟨value, some (world.now + seconds * 1000)⟩)) after := by
  have asked : Returns (portSystem d service) answers
      (CacheService.ask (.set key value (some seconds)) : PortTask X (Reply Unit)) world
      fun reply after => reply = .ok () ∧
        world.Leaves d.backend (Function.update (world.view d.backend) key
          (some ⟨value, some (world.now + seconds * 1000)⟩)) after := by
    apply returns_ask working
    intro reply cache allowed performed
    obtain ⟨done, written⟩ := Backend.view_of_set json positive allowed performed
    exact ⟨done, rfl, written⟩
  apply asked.bind
  rintro reply after ⟨done, leaves⟩
  subst done
  exact Returns.done leaves

theorem returns_delete (working : d.environment = .working d.backend) (key : String) :
    Returns (portSystem d service) answers (CacheService.delete key : PortTask X Unit) world
      fun _ after =>
        world.Leaves d.backend (Function.update (world.view d.backend) key none) after := by
  have asked : Returns (portSystem d service) answers
      (CacheService.ask (.delete key) : PortTask X (Reply Unit)) world fun _ after =>
        world.Leaves d.backend (Function.update (world.view d.backend) key none) after := by
    apply returns_ask working
    intro reply cache allowed performed
    exact ⟨rfl, Backend.view_of_delete allowed performed⟩
  exact asked.bind fun _ after leaves => Returns.done leaves

theorem returns_ttl (working : d.environment = .working d.backend) (key : String) :
    Returns (portSystem d service) answers (CacheService.ttl key : PortTask X Int) world
      fun _ after => world.Leaves d.backend (world.view d.backend) after := by
  have asked : Returns (portSystem d service) answers
      (CacheService.ask (.ttl key) : PortTask X (Reply Int)) world fun _ after =>
        world.Leaves d.backend (world.view d.backend) after := by
    apply returns_ask working
    intro reply cache allowed performed
    exact ⟨rfl, Backend.view_of_untouched allowed performed fun _ => rfl⟩
  exact asked.bind fun _ after leaves => Returns.done leaves

theorem live_of_dropped {backend : Backend} {now : Nat} {cache : Store} {fullKey : String}
    (allowed : (CacheEnvironment.working backend).drops now cache fullKey = true) :
    RedisCacheService.live now cache fullKey = none := by
  cases found : cache.get? fullKey with
  | none => exact live_of_missing found
  | some entry =>
      apply live_of_expired found
      simpa [CacheEnvironment.working, found] using allowed

/-- Between two calls time passes, and what is found may only expire. -/
theorem view_of_external (working : d.environment = .working d.backend) {event : PortExternal}
    {after : World X} (moved : World.external d world event = some after) :
    world.now ≤ after.now ∧ ∀ key, after.view d.backend key =
      (world.view d.backend key).filter fun entry => !entry.expired after.now := by
  have unchanged (key : String) : world.view d.backend key =
      (world.view d.backend key).filter fun entry => !entry.expired world.now := by
    rw [World.view, Backend.view, RedisCacheService.live, Option.filter_filter]
    simp
  rcases external_cases moved with ⟨millis, rfl⟩ | ⟨fullKey, dropped, rfl⟩ | ⟨_, _, rfl⟩
  · exact ⟨Nat.le_add_right _ _, fun key => live_later (Nat.le_add_right _ _) _⟩
  · refine ⟨Nat.le_refl _, fun key => ?_⟩
    rw [← unchanged, World.view, Backend.view, live_erase]
    split
    · rename_i same
      rw [working] at dropped
      rw [World.view, Backend.view, same]
      exact (live_of_dropped dropped).symm
    · rfl
  · exact ⟨Nat.le_refl _, unchanged⟩

end Methods

end SelfService
