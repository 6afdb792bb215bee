/-
Redaction of logged bodies.

`LoggingInterceptor` and `AuditLoggerInterceptor` log a body after `redactFields` has gone through
it: below a key whose lower-case name contains that of a sensitive field it leaves '[REDACTED]',
and everything else as it was.  Positions in a body are paths of keys and indices.
-/

import SelfService.Core.JsText

namespace SelfService

/-! ### Positions in a value -/

inductive JsStep
  | key (name : String)
  | index (position : Nat)
  deriving DecidableEq, Repr

namespace JsValue

/-- What is found at the end of a path. -/
def valueAt : List JsStep → JsValue → Option JsValue
  | [], value => some value
  | .key name :: rest, .obj fields => (fields.lookup name).bind (valueAt rest)
  | .index position :: rest, .arr items => (items[position]?).bind (valueAt rest)
  | _ :: _, _ => none

theorem valueAt_nil (value : JsValue) : valueAt [] value = some value := rfl

@[simp] theorem valueAt_key (name : String) (rest : List JsStep)
    (fields : List (String × JsValue)) :
    valueAt (.key name :: rest) (.obj fields) = (fields.lookup name).bind (valueAt rest) := rfl

@[simp] theorem valueAt_index (position : Nat) (rest : List JsStep) (items : List JsValue) :
    valueAt (.index position :: rest) (.arr items) = (items[position]?).bind (valueAt rest) := rfl

/-- What `typeof value === 'object' && value !== null` tells. -/
def isObject : JsValue → Bool
  | .arr _ | .obj _ | .date _ => true
  | _ => false

theorem valueAt_leaf {value : JsValue} (leaf : value.isObject = false) (step : JsStep)
    (rest : List JsStep) : valueAt (step :: rest) value = none := by
  cases value with
  | arr items => cases leaf
  | obj fields => cases leaf
  | date millis => cases leaf
  | _ => cases step <;> rfl

/-- The same keys in the same order, the same length, or the same value. -/
def SameShape : JsValue → JsValue → Prop
  | .obj fields, .obj logged => fields.map Prod.fst = logged.map Prod.fst
  | .arr items, .arr logged => items.length = logged.length
  | .date _, _ => True
  | value, logged => value = logged

end JsValue

/-! ### The recursion -/

namespace Redaction

open JsValue

def REDACTED : JsValue := .str "[REDACTED]"

section Fields

variable (lower : String → String) (sensitiveFields : List String)

/-- Compares in lower case, as texts that contain each other. -/
def isSensitive (key : String) : Bool :=
  sensitiveFields.any fun field => includes (lower key) (lower field)

mutual

/-- The keys of an object are distinct, so each assignment to `sanitized` appends one.  What is
no object comes back as it is. -/
def redactFields : JsValue → JsValue
  | .arr items => .arr (redactItems items)
  | .obj fields => .obj (redactEntries fields)
  | .date _ => .obj []
  | value => value

def redactItems : List JsValue → List JsValue
  | [] => []
  | item :: rest => redactFields item :: redactItems rest

def redactEntries : List (String × JsValue) → List (String × JsValue)
  | [] => []
  | (key, value) :: rest =>
      (key, if isSensitive lower sensitiveFields key then REDACTED else redactFields value) ::
        redactEntries rest

end

def Clear (path : List JsStep) : Prop :=
  ∀ name, .key name ∈ path → isSensitive lower sensitiveFields name = false

/-! Two values agree if they differ below sensitive keys only. -/

mutual

def Agree : JsValue → JsValue → Prop
  | .arr left, .arr right => AgreeItems left right
  | .obj left, .obj right => AgreeEntries left right
  | left, right => left = right

def AgreeItems : List JsValue → List JsValue → Prop
  | [], [] => True
  | left :: lefts, right :: rights => Agree left right ∧ AgreeItems lefts rights
  | _, _ => False

def AgreeEntries : List (String × JsValue) → List (String × JsValue) → Prop
  | [], [] => True
  | (leftName, left) :: lefts, (rightName, right) :: rights =>
      leftName = rightName ∧
        (isSensitive lower sensitiveFields leftName = true ∨ Agree left right) ∧
        AgreeEntries lefts rights
  | _, _ => False

end

end Fields

variable {lower : String → String} {sensitiveFields : List String}

theorem redactFields_leaf {value : JsValue} (leaf : value.isObject = false) :
    redactFields lower sensitiveFields value = value := by
  cases value with
  | arr items => cases leaf
  | obj fields => cases leaf
  | date millis => cases leaf
  | _ => simp [redactFields]

theorem redactItems_eq_map (items : List JsValue) :
    redactItems lower sensitiveFields items = items.map (redactFields lower sensitiveFields) := by
  induction items with
  | nil => simp [redactItems]
  | cons item rest ih => simp [redactItems, ih]

theorem keys_redactEntries (fields : List (String × JsValue)) :
    (redactEntries lower sensitiveFields fields).map Prod.fst = fields.map Prod.fst := by
  induction fields with
  | nil => simp [redactEntries]
  | cons field rest ih =>
      obtain ⟨key, value⟩ := field
      simp [redactEntries, ih]

theorem lookup_redactEntries (name : String) (fields : List (String × JsValue)) :
    (redactEntries lower sensitiveFields fields).lookup name =
      (fields.lookup name).map fun value =>
        if isSensitive lower sensitiveFields name then REDACTED
        else redactFields lower sensitiveFields value := by
  induction fields with
  | nil => simp [redactEntries]
  | cons field rest ih =>
      obtain ⟨key, value⟩ := field
      by_cases found : name = key
      · subst found
        simp [redactEntries]
      · have other : (name == key) = false := by simpa using found
        simp only [redactEntries, List.lookup_cons, other, ih]

theorem Clear.tail {step : JsStep} {rest : List JsStep}
    (clear : Clear lower sensitiveFields (step :: rest)) : Clear lower sensitiveFields rest :=
  fun name member => clear name (List.mem_cons_of_mem _ member)

theorem Clear.head {name : String} {rest : List JsStep}
    (clear : Clear lower sensitiveFields (.key name :: rest)) :
    isSensitive lower sensitiveFields name = false :=
  clear name List.mem_cons_self

/-! ### Along a path -/

/-- Off the sensitive keys, every position is kept. -/
theorem valueAt_redactFields_clear (path : List JsStep) (value : JsValue)
    (clear : Clear lower sensitiveFields path) :
    valueAt path (redactFields lower sensitiveFields value) =
      (valueAt path value).map (redactFields lower sensitiveFields) := by
  induction path generalizing value with
  | nil => rfl
  | cons step rest ih =>
      cases value with
      | arr items =>
          cases step with
          | key name => simp [redactFields, valueAt]
          | index position =>
              rw [redactFields, redactItems_eq_map, valueAt_index, valueAt_index, List.getElem?_map]
              cases items[position]? with
              | none => rfl
              | some item => exact ih item clear.tail
      | obj fields =>
          cases step with
          | key name =>
              rw [redactFields, valueAt_key, valueAt_key, lookup_redactEntries]
              cases fields.lookup name with
              | none => rfl
              | some found =>
                  simp only [Option.map_some, Option.bind_some, clear.head]
                  exact ih found clear.tail
          | index position => simp [redactFields, valueAt]
      | date millis => cases step <;> simp [redactFields, valueAt]
      | _ =>
          rw [redactFields_leaf rfl, valueAt_leaf rfl]
          rfl

/-- At the first sensitive key stands the mark, and nothing is below it. -/
theorem valueAt_redactFields_sensitive (front : List JsStep) (name : String)
    (rest : List JsStep) (value : JsValue) (clear : Clear lower sensitiveFields front)
    (sensitive : isSensitive lower sensitiveFields name = true) :
    valueAt (front ++ .key name :: rest) (redactFields lower sensitiveFields value) =
      if rest = [] then (valueAt (front ++ [.key name]) value).map fun _ => REDACTED
      else none := by
  induction front generalizing value with
  | nil =>
      cases value with
      | obj fields =>
          rw [redactFields, List.nil_append, List.nil_append, valueAt_key, valueAt_key,
            lookup_redactEntries]
          cases fields.lookup name with
          | none => simp
          | some found =>
              simp only [sensitive, Option.map_some, Option.bind_some]
              cases rest with
              | nil => rfl
              | cons step later => exact valueAt_leaf rfl step later
      | arr items => simp [redactFields, valueAt]
      | date millis => simp [redactFields, valueAt]
      | _ => simp [redactFields, valueAt]
  | cons step front ih =>
      cases value with
      | obj fields =>
          cases step with
          | key other =>
              rw [redactFields, List.cons_append, List.cons_append, valueAt_key, valueAt_key,
                lookup_redactEntries]
              cases fields.lookup other with
              | none => simp
              | some found =>
                  simp only [clear.head, Option.map_some, Option.bind_some]
                  exact ih found clear.tail
          | index position => simp [redactFields, valueAt]
      | arr items =>
          cases step with
          | key other => simp [redactFields, valueAt]
          | index position =>
              rw [redactFields, redactItems_eq_map, List.cons_append, List.cons_append,
                valueAt_index, valueAt_index, List.getElem?_map]
              cases items[position]? with
              | none => simp
              | some item => exact ih item clear.tail
      | date millis => cases step <;> simp [redactFields, valueAt]
      | _ =>
          rw [redactFields_leaf rfl, List.cons_append, List.cons_append, valueAt_leaf rfl,
            valueAt_leaf rfl]
          simp

theorem sameShape_redactFields (value : JsValue) :
    SameShape value (redactFields lower sensitiveFields value) := by
  cases value with
  | obj fields => simp [redactFields, SameShape, keys_redactEntries]
  | arr items => simp [redactFields, SameShape, redactItems_eq_map]
  | _ => simp [redactFields, SameShape]

mutual

theorem redactFields_twice : ∀ value : JsValue,
    redactFields lower sensitiveFields (redactFields lower sensitiveFields value) =
      redactFields lower sensitiveFields value
  | .undefined | .null | .bool _ | .num _ | .str _ => by simp [redactFields]
  | .date _ => by simp [redactFields, redactEntries]
  | .arr items => by simp only [redactFields, redactItems_twice items]
  | .obj fields => by simp only [redactFields, redactEntries_twice fields]

theorem redactItems_twice : ∀ items : List JsValue,
    redactItems lower sensitiveFields (redactItems lower sensitiveFields items) =
      redactItems lower sensitiveFields items
  | [] => by simp [redactItems]
  | item :: rest => by simp only [redactItems, redactFields_twice item, redactItems_twice rest]

theorem redactEntries_twice : ∀ fields : List (String × JsValue),
    redactEntries lower sensitiveFields (redactEntries lower sensitiveFields fields) =
      redactEntries lower sensitiveFields fields
  | [] => by simp [redactEntries]
  | (key, value) :: rest => by
      simp only [redactEntries, redactEntries_twice rest]
      by_cases sensitive : isSensitive lower sensitiveFields key = true
      · simp only [sensitive, if_true]
      · simp only [sensitive, redactFields_twice value, if_false, Bool.false_eq_true]

end

/-! ### What the result depends on -/

mutual

/-- What stands below a sensitive key leaves no trace. -/
theorem redactFields_eq_of_agree : ∀ left right : JsValue,
    Agree lower sensitiveFields left right →
    redactFields lower sensitiveFields left = redactFields lower sensitiveFields right
  | .arr items, right, agree => by
      cases right with
      | arr others =>
          rw [Agree] at agree
          rw [redactFields, redactFields, redactItems_eq_of_agree items others agree]
      | _ => simp [Agree] at agree
  | .obj fields, right, agree => by
      cases right with
      | obj others =>
          rw [Agree] at agree
          rw [redactFields, redactFields, redactEntries_eq_of_agree fields others agree]
      | _ => simp [Agree] at agree
  | .undefined, right, agree | .null, right, agree | .bool _, right, agree
  | .num _, right, agree | .str _, right, agree | .date _, right, agree => by
      simp only [Agree] at agree
      rw [agree]

theorem redactItems_eq_of_agree : ∀ left right : List JsValue,
    AgreeItems lower sensitiveFields left right →
    redactItems lower sensitiveFields left = redactItems lower sensitiveFields right
  | [], right, agree => by
      cases right with
      | nil => rfl
      | cons other others => simp [AgreeItems] at agree
  | item :: rest, right, agree => by
      cases right with
      | nil => simp [AgreeItems] at agree
      | cons other others =>
          rw [AgreeItems] at agree
          rw [redactItems, redactItems, redactFields_eq_of_agree item other agree.1,
            redactItems_eq_of_agree rest others agree.2]

theorem redactEntries_eq_of_agree : ∀ left right : List (String × JsValue),
    AgreeEntries lower sensitiveFields left right →
    redactEntries lower sensitiveFields left = redactEntries lower sensitiveFields right
  | [], right, agree => by
      cases right with
      | nil => rfl
      | cons other others => simp [AgreeEntries] at agree
  | (key, value) :: rest, right, agree => by
      cases right with
      | nil => simp [AgreeEntries] at agree
      | cons field others =>
          obtain ⟨otherKey, other⟩ := field
          rw [AgreeEntries] at agree
          obtain ⟨rfl, below, later⟩ := agree
          rw [redactEntries, redactEntries, redactEntries_eq_of_agree rest others later]
          by_cases sensitive : isSensitive lower sensitiveFields key = true
          · rw [if_pos sensitive, if_pos sensitive]
          · rw [redactFields_eq_of_agree value other (below.resolve_left sensitive)]

end

theorem agree_of_leaf {left right : JsValue} (leaf : left.isObject = false)
    (rightLeaf : right.isObject = false)
    (same : redactFields lower sensitiveFields left = redactFields lower sensitiveFields right) :
    Agree lower sensitiveFields left right := by
  rw [redactFields_leaf leaf, redactFields_leaf rightLeaf] at same
  subst same
  cases left with
  | arr items => cases leaf
  | obj fields => cases leaf
  | date millis => cases leaf
  | _ => simp [Agree]

mutual

/-- Of a JSON value, everything else can be read off the result. -/
theorem agree_of_redactFields_eq : ∀ left right : JsValue, left.isJson = true →
    right.isJson = true →
    redactFields lower sensitiveFields left = redactFields lower sensitiveFields right →
    Agree lower sensitiveFields left right
  | .arr items, right, json, rightJson, same => by
      cases right with
      | arr others =>
          rw [redactFields, redactFields, JsValue.arr.injEq] at same
          rw [isJson] at json rightJson
          rw [Agree]
          exact agreeItems_of_redactItems_eq items others json rightJson same
      | _ => simp [redactFields] at same
  | .obj fields, right, json, rightJson, same => by
      cases right with
      | obj others =>
          rw [redactFields, redactFields, JsValue.obj.injEq] at same
          rw [isJson] at json rightJson
          rw [Agree]
          exact agreeEntries_of_redactEntries_eq fields others json rightJson same
      | date millis => simp [isJson] at rightJson
      | _ => simp [redactFields] at same
  | .date _, _, json, _, _ => by simp [isJson] at json
  | .undefined, right, _, rightJson, same | .null, right, _, rightJson, same
  | .bool _, right, _, rightJson, same | .num _, right, _, rightJson, same
  | .str _, right, _, rightJson, same => by
      cases right with
      | arr others => simp [redactFields] at same
      | obj others => simp [redactFields] at same
      | date millis => simp [isJson] at rightJson
      | _ => exact agree_of_leaf rfl rfl same

theorem agreeItems_of_redactItems_eq : ∀ left right : List JsValue, areJson left = true →
    areJson right = true →
    redactItems lower sensitiveFields left = redactItems lower sensitiveFields right →
    AgreeItems lower sensitiveFields left right
  | [], right, _, _, same => by
      cases right with
      | nil => simp [AgreeItems]
      | cons other others => simp [redactItems] at same
  | item :: rest, right, json, rightJson, same => by
      cases right with
      | nil => simp [redactItems] at same
      | cons other others =>
          rw [redactItems, redactItems, List.cons.injEq] at same
          rw [areJson, Bool.and_eq_true] at json rightJson
          rw [AgreeItems]
          exact ⟨agree_of_redactFields_eq item other json.1 rightJson.1 same.1,
            agreeItems_of_redactItems_eq rest others json.2 rightJson.2 same.2⟩

theorem agreeEntries_of_redactEntries_eq : ∀ left right : List (String × JsValue),
    fieldsAreJson left = true → fieldsAreJson right = true →
    redactEntries lower sensitiveFields left = redactEntries lower sensitiveFields right →
    AgreeEntries lower sensitiveFields left right
  | [], right, _, _, same => by
      cases right with
      | nil => simp [AgreeEntries]
      | cons other others => simp [redactEntries] at same
  | (key, value) :: rest, right, json, rightJson, same => by
      cases right with
      | nil => simp [redactEntries] at same
      | cons field others =>
          obtain ⟨otherKey, other⟩ := field
          rw [redactEntries, redactEntries, List.cons.injEq, Prod.mk.injEq] at same
          obtain ⟨⟨rfl, below⟩, later⟩ := same
          rw [fieldsAreJson, Bool.and_eq_true] at json rightJson
          rw [AgreeEntries]
          refine ⟨rfl, ?_, agreeEntries_of_redactEntries_eq rest others json.2 rightJson.2 later⟩
          by_cases sensitive : isSensitive lower sensitiveFields key = true
          · exact .inl sensitive
          · rw [if_neg sensitive, if_neg sensitive] at below
            exact .inr (agree_of_redactFields_eq value other json.1 rightJson.1 below)

end

/-! ### Complete and minimal -/

/-- A path without sensitive keys leads to the same in both values, as far as the shape goes; at the
first sensitive key stands the mark, and nothing below it. -/
structure Redacts (lower : String → String) (sensitiveFields : List String)
    (body logged : JsValue) : Prop where
  kept : ∀ path, Clear lower sensitiveFields path →
    (valueAt path body = none ∧ valueAt path logged = none) ∨
    ∃ value found, valueAt path body = some value ∧ valueAt path logged = some found ∧
      SameShape value found
  marked : ∀ front name, Clear lower sensitiveFields front →
    isSensitive lower sensitiveFields name = true →
    valueAt (front ++ [.key name]) logged =
      (valueAt (front ++ [.key name]) body).map fun _ => REDACTED
  closed : ∀ front name step rest, Clear lower sensitiveFields front →
    isSensitive lower sensitiveFields name = true →
    valueAt (front ++ .key name :: step :: rest) logged = none

theorem redacts_redactFields (body : JsValue) :
    Redacts lower sensitiveFields body (redactFields lower sensitiveFields body) where
  kept := by
    intro path clear
    rw [valueAt_redactFields_clear path body clear]
    cases valueAt path body with
    | none => exact .inl ⟨rfl, rfl⟩
    | some value => exact .inr ⟨value, _, rfl, rfl, sameShape_redactFields value⟩
  marked := by
    intro front name clear sensitive
    rw [valueAt_redactFields_sensitive front name [] body clear sensitive, if_pos rfl]
  closed := by
    intro front name step rest clear sensitive
    rw [valueAt_redactFields_sensitive front name (step :: rest) body clear sensitive,
      if_neg (by simp)]

/-- What both loggers do with a body: only objects are gone through. -/
def sanitize (lower : String → String) (sensitiveFields : List String) (body : JsValue) : JsValue :=
  if body.isObject then redactFields lower sensitiveFields body else body

theorem sanitize_eq (body : JsValue) :
    sanitize lower sensitiveFields body = redactFields lower sensitiveFields body := by
  unfold sanitize
  split
  · rfl
  case isFalse leaf => exact (redactFields_leaf (by simpa using leaf)).symm

end Redaction

/-! ### The loggers -/

namespace LoggingInterceptor

def sensitiveFields : List String :=
  ["password", "token", "secret", "key", "apiKey", "accessToken", "refreshToken"]

def sanitizeBody (lower : String → String) (body : JsValue) : JsValue :=
  Redaction.sanitize lower sensitiveFields body

end LoggingInterceptor

namespace AuditLoggerInterceptor

def defaultSensitiveFields : List String :=
  ["password", "token", "secret", "key", "apiKey", "accessToken", "refreshToken",
    "authorization", "cookie"]

def sensitiveFields (redactFields : List String) : List String :=
  defaultSensitiveFields ++ redactFields

/-- The fields of the decorator come after those that are always redacted. -/
def sanitizeData (lower : String → String) (data : JsValue) (redactFields : List String) :
    JsValue :=
  Redaction.sanitize lower (sensitiveFields redactFields) data

end AuditLoggerInterceptor

namespace Redaction

open JsValue

variable {lower : String → String} {sensitiveFields : List String}

theorem sanitize_properties (lower : String → String) (sensitiveFields : List String)
    (body : JsValue) :
    Redacts lower sensitiveFields body (sanitize lower sensitiveFields body) ∧
    sanitize lower sensitiveFields (sanitize lower sensitiveFields body) =
      sanitize lower sensitiveFields body ∧
    ∀ other, Agree lower sensitiveFields body other →
      sanitize lower sensitiveFields body = sanitize lower sensitiveFields other := by
  simp only [sanitize_eq]
  exact ⟨redacts_redactFields body, redactFields_twice body, redactFields_eq_of_agree body⟩

/-- Two JSON bodies are logged alike exactly if they differ below sensitive keys only. -/
theorem sanitize_eq_iff_agree {body other : JsValue} (json : body.isJson = true)
    (otherJson : other.isJson = true) :
    sanitize lower sensitiveFields body = sanitize lower sensitiveFields other ↔
      Agree lower sensitiveFields body other := by
  rw [sanitize_eq, sanitize_eq]
  exact ⟨agree_of_redactFields_eq body other json otherJson, redactFields_eq_of_agree body other⟩

theorem sanitize_eq_iff_agree_login :
    sanitize id ["token"] (.obj [("token", .str "first"), ("user", .str "an")]) =
        sanitize id ["token"] (.obj [("token", .str "second"), ("user", .str "an")]) ↔
      Agree id ["token"] (.obj [("token", .str "first"), ("user", .str "an")])
        (.obj [("token", .str "second"), ("user", .str "an")]) :=
  sanitize_eq_iff_agree rfl rfl

end Redaction

end SelfService
