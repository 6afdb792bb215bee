/-
Calls of several ports at once.

All calls are started, and each is awaited whether or not the others fail.  The maps that are made
of the results have one entry for each port.
-/

import SelfService.Data.MapBuilding
import SelfService.Port.World

namespace SelfService

open Data

namespace AggregationService

structure AggregationCall where
  portName : String
  method : String
  params : Option JsValue

/-- A failure has no data, and a success no error. -/
structure AggregationResult where
  portName : String
  success : Bool
  data : JsValue
  error : Option String
  duration : Nat
  deriving DecidableEq

structure AggregationResponse where
  results : List AggregationResult
  succeeded : Nat
  failed : Nat
  totalDuration : Nat

/-- How one promise has settled, told as a result. -/
def resultOf (elapsed : Nat) (call : AggregationCall) : Except Exn PortResult → AggregationResult
  | .ok result =>
      { portName := call.portName
        success := true
        data := result.data
        error := none
        duration := result.duration }
  | .error reason =>
      { portName := call.portName
        success := false
        data := .undefined
        error := some reason.message
        duration := elapsed }

/-- How each promise settles, and what the clock shows when its result is written. -/
structure Fanout where
  execute : Nat → String → String → JsValue → Except Exn PortResult
  elapsed : Nat → Nat

def Fanout.outcome (fanout : Fanout) (index : Nat) (call : AggregationCall) :
    Except Exn PortResult :=
  fanout.execute index call.portName call.method (call.params.getD (.obj []))

def executeAll (fanout : Fanout) (calls : List AggregationCall) : AggregationResponse :=
  let results := calls.mapIdx fun index call =>
    resultOf (fanout.elapsed index) call (fanout.outcome index call)
  { results := results
    succeeded := (results.filter fun result => result.success).length
    failed := (results.filter fun result => !result.success).length
    totalDuration := fanout.elapsed calls.length }

/-- Reads `result.success ? result.data ?? null : null`. -/
def shown (result : AggregationResult) : JsValue :=
  if result.success then if result.data.isNullish then .null else result.data else .null

def resolveToMap (response : AggregationResponse) : OrderedMap String JsValue :=
  response.results.foldl (fun map result => map.set result.portName (shown result)) .empty

def isSuccessful (result : AggregationResult) : Bool :=
  result.success && result.data ≠ .undefined

def resolveSuccessful (response : AggregationResponse) : OrderedMap String JsValue :=
  response.results.foldl (fun map result =>
    if isSuccessful result then map.set result.portName result.data else map) .empty

/-! ### What the maps hold -/

/-- The last of the results on a port. -/
def lastOn (portName : String) (results : List AggregationResult) : Option AggregationResult :=
  (results.filter fun result => result.portName = portName).getLast?

theorem get?_resolveToMap (response : AggregationResponse) (portName : String) :
    (resolveToMap response).get? portName = (lastOn portName response.results).map shown :=
  OrderedMap.get?_ofItems AggregationResult.portName shown response.results portName

theorem get?_resolveSuccessful (response : AggregationResponse) (portName : String) :
    (resolveSuccessful response).get? portName =
      (lastOn portName (response.results.filter isSuccessful)).map AggregationResult.data := by
  have filtered : resolveSuccessful response = OrderedMap.ofItems AggregationResult.portName
      AggregationResult.data (response.results.filter isSuccessful) := by
    unfold resolveSuccessful OrderedMap.ofItems
    rw [List.foldl_filter]
  rw [filtered]
  exact OrderedMap.get?_ofItems _ _ _ portName

/-- Behind a result, nothing on its port stands. -/
theorem lastOn_append {results after : List AggregationResult} {result : AggregationResult}
    (free : ∀ later ∈ after, later.portName ≠ result.portName) :
    lastOn result.portName (results ++ result :: after) = some result := by
  have none : after.filter (fun later => later.portName = result.portName) = [] := by
    rw [List.filter_eq_nil_iff]
    exact fun later member => by simpa using free later member
  unfold lastOn
  rw [List.filter_append, List.filter_cons, none, if_pos (decide_eq_true rfl)]
  exact List.getLast?_concat ..

theorem split_at {α : Type} {items : List α} {index : Nat} {item : α}
    (found : items[index]? = some item) : ∃ before after, items = before ++ item :: after ∧
      ∀ other ∈ after, ∃ later, index < later ∧ items[later]? = some other := by
  obtain ⟨inside, same⟩ := List.getElem?_eq_some_iff.mp found
  refine ⟨items.take index, items.drop (index + 1), ?_, ?_⟩
  · rw [← same, List.getElem_cons_drop inside, List.take_append_drop]
  · intro other member
    obtain ⟨offset, own⟩ := List.mem_iff_getElem?.mp member
    rw [List.getElem?_drop] at own
    exact ⟨index + 1 + offset, by omega, own⟩

section Responses

variable (fanout : Fanout) (calls : List AggregationCall)

theorem getElem?_results {index : Nat} {call : AggregationCall}
    (listed : calls[index]? = some call) : (executeAll fanout calls).results[index]? =
      some (resultOf (fanout.elapsed index) call (fanout.outcome index call)) := by
  change (calls.mapIdx _)[index]? = _
  rw [List.getElem?_mapIdx, listed]
  rfl

theorem call_of_result {index : Nat} {result : AggregationResult}
    (listed : (executeAll fanout calls).results[index]? = some result) :
    ∃ call, calls[index]? = some call ∧
      result = resultOf (fanout.elapsed index) call (fanout.outcome index call) := by
  change (calls.mapIdx _)[index]? = _ at listed
  rw [List.getElem?_mapIdx, Option.map_eq_some_iff] at listed
  obtain ⟨call, own, same⟩ := listed
  exact ⟨call, own, same.symm⟩

theorem counts_add_up :
    (executeAll fanout calls).succeeded + (executeAll fanout calls).failed = calls.length := by
  have split := List.length_eq_length_filter_add
    (l := (executeAll fanout calls).results) fun result => result.success
  have length : (executeAll fanout calls).results.length = calls.length := List.length_mapIdx
  exact split.symm.trans length

variable {fanout calls} {index : Nat} {call : AggregationCall} {value : PortResult}

theorem kept_in_map (listed : calls[index]? = some call)
    (succeeded : fanout.outcome index call = .ok value)
    (last : ∀ later other, index < later → calls[later]? = some other →
      other.portName ≠ call.portName) :
    (resolveToMap (executeAll fanout calls)).get? call.portName =
      some (if value.data.isNullish then .null else value.data) := by
  have result := getElem?_results fanout calls listed
  rw [succeeded] at result
  obtain ⟨before, after, split, behind⟩ := split_at result
  rw [get?_resolveToMap, split]
  change (lastOn (resultOf (fanout.elapsed index) call (.ok value)).portName _).map shown = _
  rw [lastOn_append]
  · rfl
  · intro other member
    obtain ⟨later, beyond, own⟩ := behind other member
    obtain ⟨next, known, same⟩ := call_of_result fanout calls own
    have apart := last later next beyond known
    rw [same]
    cases fanout.outcome later next with
    | ok _ => exact apart
    | error _ => exact apart

theorem kept_among_successful (listed : calls[index]? = some call)
    (succeeded : fanout.outcome index call = .ok value) (defined : value.data ≠ .undefined)
    (last : ∀ later other, index < later → calls[later]? = some other →
      other.portName = call.portName → ∀ next, fanout.outcome later other = .ok next →
        next.data = .undefined) :
    (resolveSuccessful (executeAll fanout calls)).get? call.portName = some value.data := by
  have result := getElem?_results fanout calls listed
  rw [succeeded] at result
  obtain ⟨before, after, split, behind⟩ := split_at result
  have successful : isSuccessful (resultOf (fanout.elapsed index) call (.ok value)) = true := by
    simp [isSuccessful, resultOf, defined]
  rw [get?_resolveSuccessful, split, List.filter_append, List.filter_cons, if_pos successful]
  change (lastOn (resultOf (fanout.elapsed index) call (.ok value)).portName _).map _ = _
  rw [lastOn_append]
  · rfl
  · intro other member port
    obtain ⟨present, counts⟩ := List.mem_filter.mp member
    obtain ⟨later, beyond, own⟩ := behind other present
    obtain ⟨next, known, same⟩ := call_of_result fanout calls own
    cases outcome : fanout.outcome later next with
    | ok ended =>
        rw [outcome] at same
        subst same
        have missing := last later next beyond known port ended outcome
        simp [isSuccessful, resultOf, missing] at counts
    | error reason =>
        rw [outcome] at same
        subst same
        simp [isSuccessful, resultOf] at counts

end Responses

/-! ### Two calls of one port -/

def meterCalls : List AggregationCall :=
  [⟨"meter", "get-meter-by-customer", none⟩, ⟨"meter", "get-calibration-status", none⟩]

def secondFails : Fanout where
  execute index _ _ _ :=
    if index = 0 then .ok ⟨.str "MT-1", .mock, false, 3, none⟩
    else .error (.portTimeout "meter" 3000)
  elapsed _ := 3000

end AggregationService

end SelfService
