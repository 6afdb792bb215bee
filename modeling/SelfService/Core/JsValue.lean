/-
Runtime values of the service.

Payloads cross ports, caches and queues as plain JavaScript data.  Numbers are
rationals, which contain every finite double.  `roundTrip` is what survives
`JSON.parse(JSON.stringify(value))`: fields that hold `undefined` disappear, an
`undefined` array item becomes `null`, and a `Date` becomes its ISO string.
-/

import Mathlib.Data.Rat.Defs

namespace SelfService

inductive JsValue : Type
  | undefined
  | null
  | bool (value : Bool)
  | num (value : Rat)
  | str (value : String)
  | date (millis : Nat)
  | arr (items : List JsValue)
  | obj (fields : List (String × JsValue))
  deriving Repr

namespace JsValue

mutual

def same : JsValue → JsValue → Bool
  | .undefined, .undefined => true
  | .null, .null => true
  | .bool left, .bool right => left == right
  | .num left, .num right => left == right
  | .str left, .str right => left == right
  | .date left, .date right => left == right
  | .arr left, .arr right => sameItems left right
  | .obj left, .obj right => sameFields left right
  | _, _ => false

def sameItems : List JsValue → List JsValue → Bool
  | [], [] => true
  | left :: lefts, right :: rights => left.same right && sameItems lefts rights
  | _, _ => false

def sameFields : List (String × JsValue) → List (String × JsValue) → Bool
  | [], [] => true
  | (leftName, left) :: lefts, (rightName, right) :: rights =>
      leftName == rightName && left.same right && sameFields lefts rights
  | _, _ => false

end

mutual

theorem same_iff : ∀ left right : JsValue, left.same right = true ↔ left = right
  | .undefined, right => by cases right <;> simp [same]
  | .null, right => by cases right <;> simp [same]
  | .bool value, right => by cases right <;> simp [same]
  | .num value, right => by cases right <;> simp [same]
  | .str value, right => by cases right <;> simp [same]
  | .date millis, right => by cases right <;> simp [same]
  | .arr items, right => by cases right <;> simp [same, sameItems_iff]
  | .obj fields, right => by cases right <;> simp [same, sameFields_iff]

theorem sameItems_iff : ∀ left right : List JsValue, sameItems left right = true ↔ left = right
  | [], right => by cases right <;> simp [sameItems]
  | item :: rest, right => by cases right <;> simp [sameItems, same_iff, sameItems_iff]

theorem sameFields_iff : ∀ left right : List (String × JsValue),
    sameFields left right = true ↔ left = right
  | [], right => by cases right <;> simp [sameFields]
  | (name, value) :: rest, right => by
      cases right with
      | nil => simp [sameFields]
      | cons head tail =>
          cases head
          simp [sameFields, same_iff, sameFields_iff, and_assoc]

end

instance : DecidableEq JsValue := fun left right => decidable_of_iff _ (same_iff left right)

/-- The `value === null || value === undefined` test of the sources. -/
def isNullish : JsValue → Bool
  | .undefined | .null => true
  | _ => false

/-- JavaScript truthiness. -/
def truthy : JsValue → Bool
  | .undefined | .null => false
  | .bool value => value
  | .num value => value ≠ 0
  | .str value => value ≠ ""
  | _ => true

/-- Property access; a missing property reads as `undefined`. -/
def field (name : String) : JsValue → JsValue
  | .obj fields => (fields.lookup name).getD .undefined
  | _ => .undefined

@[simp] theorem field_obj (name : String) (fields : List (String × JsValue)) :
    (JsValue.obj fields).field name = (fields.lookup name).getD .undefined := rfl

/-! ### Dates -/

def padded (width value : Nat) : String :=
  let digits := (toString value).toList
  String.ofList (List.replicate (width - digits.length) '0' ++ digits)

/-- Year, month and day of a day number counted from 1970-01-01. -/
def civil (day : Nat) : Nat × Nat × Nat :=
  let shifted := day + 719468
  let era := shifted / 146097
  let dayOfEra := shifted % 146097
  let yearOfEra := (dayOfEra - dayOfEra / 1460 + dayOfEra / 36524 - dayOfEra / 146096) / 365
  let dayOfYear := dayOfEra - (365 * yearOfEra + yearOfEra / 4 - yearOfEra / 100)
  let marchMonth := (5 * dayOfYear + 2) / 153
  let month := if marchMonth < 10 then marchMonth + 3 else marchMonth - 9
  let year := yearOfEra + era * 400 + (if month ≤ 2 then 1 else 0)
  (year, month, dayOfYear - (153 * marchMonth + 2) / 5 + 1)

/-- What `Date.prototype.toISOString` gives for instants from 1970 on. -/
def toISOString (millis : Nat) : String :=
  let (year, month, day) := civil (millis / 86400000)
  let second := millis / 1000 % 86400
  let yearText := if year ≤ 9999 then padded 4 year else "+" ++ padded 6 year
  yearText ++ "-" ++ padded 2 month ++ "-" ++ padded 2 day ++ "T" ++
    padded 2 (second / 3600) ++ ":" ++ padded 2 (second / 60 % 60) ++ ":" ++
    padded 2 (second % 60) ++ "." ++ padded 3 (millis % 1000) ++ "Z"

example : toISOString 951827696789 = "2000-02-29T12:34:56.789Z" := by decide

/-! ### JSON -/

mutual

def roundTrip : JsValue → JsValue
  | .date millis => .str (toISOString millis)
  | .arr items => .arr (roundTripItems items)
  | .obj fields => .obj (roundTripFields fields)
  | value => value

def roundTripItems : List JsValue → List JsValue
  | [] => []
  | .undefined :: rest => .null :: roundTripItems rest
  | item :: rest => item.roundTrip :: roundTripItems rest

def roundTripFields : List (String × JsValue) → List (String × JsValue)
  | [] => []
  | (_, .undefined) :: rest => roundTripFields rest
  | (name, value) :: rest => (name, value.roundTrip) :: roundTripFields rest

end

mutual

/-- A JSON value proper: no `undefined` and no `Date` at any depth. -/
def isJson : JsValue → Bool
  | .undefined | .date _ => false
  | .arr items => areJson items
  | .obj fields => fieldsAreJson fields
  | _ => true

def areJson : List JsValue → Bool
  | [] => true
  | item :: rest => item.isJson && areJson rest

def fieldsAreJson : List (String × JsValue) → Bool
  | [] => true
  | (_, value) :: rest => value.isJson && fieldsAreJson rest

end

mutual

theorem roundTrip_of_isJson : ∀ value : JsValue, value.isJson = true → value.roundTrip = value
  | .undefined, json => by simp [isJson] at json
  | .null, _ => by simp [roundTrip]
  | .bool value, _ => by simp [roundTrip]
  | .num value, _ => by simp [roundTrip]
  | .str value, _ => by simp [roundTrip]
  | .date millis, json => by simp [isJson] at json
  | .arr items, json => by
      rw [isJson] at json
      rw [roundTrip, roundTripItems_of_areJson items json]
  | .obj fields, json => by
      rw [isJson] at json
      rw [roundTrip, roundTripFields_of_areJson fields json]

theorem roundTripItems_of_areJson : ∀ items : List JsValue,
    areJson items = true → roundTripItems items = items
  | [], _ => by rw [roundTripItems]
  | item :: rest, json => by
      rw [areJson, Bool.and_eq_true] at json
      have defined : item ≠ .undefined := by
        rintro rfl
        simp [isJson] at json
      rw [roundTripItems, roundTrip_of_isJson item json.1,
        roundTripItems_of_areJson rest json.2]
      exact defined

theorem roundTripFields_of_areJson : ∀ fields : List (String × JsValue),
    fieldsAreJson fields = true → roundTripFields fields = fields
  | [], _ => by rw [roundTripFields]
  | (name, value) :: rest, json => by
      rw [fieldsAreJson, Bool.and_eq_true] at json
      have defined : value ≠ .undefined := by
        rintro rfl
        simp [isJson] at json
      rw [roundTripFields, roundTrip_of_isJson value json.1,
        roundTripFields_of_areJson rest json.2]
      exact defined

end

mutual

/-- What comes out of the round trip is plain JSON. -/
theorem isJson_roundTrip : ∀ value : JsValue, value ≠ .undefined →
    value.roundTrip.isJson = true
  | .undefined, defined => absurd rfl defined
  | .null, _ => rfl
  | .bool value, _ => rfl
  | .num value, _ => rfl
  | .str value, _ => rfl
  | .date millis, _ => rfl
  | .arr items, _ => by
      rw [roundTrip, isJson]
      exact areJson_roundTrip items
  | .obj fields, _ => by
      rw [roundTrip, isJson]
      exact fieldsAreJson_roundTrip fields

theorem areJson_roundTrip : ∀ items : List JsValue,
    areJson (roundTripItems items) = true
  | [] => rfl
  | item :: rest => by
      have later := areJson_roundTrip rest
      by_cases missing : item = .undefined
      · subst missing
        rw [roundTripItems, areJson, later]
        rfl
      · have first := isJson_roundTrip item missing
        rw [roundTripItems, areJson, first, later]
        · rfl
        · exact missing

theorem fieldsAreJson_roundTrip : ∀ fields : List (String × JsValue),
    fieldsAreJson (roundTripFields fields) = true
  | [] => rfl
  | (name, value) :: rest => by
      have later := fieldsAreJson_roundTrip rest
      by_cases missing : value = .undefined
      · subst missing
        rw [roundTripFields, later]
      · have first := isJson_roundTrip value missing
        rw [roundTripFields, fieldsAreJson, first, later]
        · rfl
        · exact missing

end

end JsValue

end SelfService
