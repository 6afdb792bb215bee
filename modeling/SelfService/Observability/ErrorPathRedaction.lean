/-
The body that is logged when a request fails.

`StructuredErrorFilter` has a sanitizer of its own: it copies the body and marks those of its
top-level fields that bear exactly one of the sensitive names and hold something truthy.
-/

import Mathlib.Data.List.Infix
import SelfService.Observability.Redaction

namespace SelfService

open JsValue Redaction

namespace StructuredErrorFilter

def sensitiveFields : List String :=
  ["password", "token", "secret", "key", "apiKey", "accessToken", "refreshToken"]

def spreadItems : Nat → List JsValue → List (String × JsValue)
  | _, [] => []
  | position, item :: rest => (position.repr, item) :: spreadItems (position + 1) rest

/-- What the braces of `{ ...body }` copy: an array gives its items under their indices. -/
def spread : JsValue → List (String × JsValue)
  | .obj fields => fields
  | .arr items => spreadItems 0 items
  | _ => []

/-- From `if (sanitized[field]) sanitized[field] = '[REDACTED]'`. -/
def markField (sanitized : List (String × JsValue)) (field : String) : List (String × JsValue) :=
  if ((sanitized.lookup field).getD .undefined).truthy then
    sanitized.map fun entry => if field = entry.1 then (entry.1, REDACTED) else entry
  else sanitized

def sanitizeBody (body : JsValue) : JsValue :=
  if body.isObject then .obj (sensitiveFields.foldl markField (spread body)) else body

/-- The body of a GET request is left out. -/
def loggedBody (method : String) (body : JsValue) : JsValue :=
  if method = "GET" then .undefined else sanitizeBody body

/-- Where a position of the body is found in the copy. -/
def logPath : JsValue → List JsStep → List JsStep
  | .arr _, .index position :: rest => .key position.repr :: rest
  | _, path => path

/-! ### Fields of the copy -/

theorem lookup_markEntries (name field : String) (sanitized : List (String × JsValue)) :
    (sanitized.map fun entry => if field = entry.1 then (entry.1, REDACTED) else entry).lookup
        name =
      (sanitized.lookup name).map fun value => if name = field then REDACTED else value := by
  induction sanitized with
  | nil => rfl
  | cons entry rest ih =>
      obtain ⟨key, value⟩ := entry
      by_cases found : name = key
      · subst found
        by_cases marked : field = name
        · simp [marked]
        · have other : name ≠ field := fun same => marked same.symm
          simp [marked, other]
      · have other : (name == key) = false := by simpa using found
        rw [List.map_cons]
        split <;> simp only [List.lookup_cons, other, ih]

theorem lookup_markField (name field : String) (sanitized : List (String × JsValue)) :
    (markField sanitized field).lookup name = (sanitized.lookup name).map fun value =>
      if name = field ∧ value.truthy = true then REDACTED else value := by
  unfold markField
  by_cases held : ((sanitized.lookup field).getD .undefined).truthy = true
  · rw [if_pos held, lookup_markEntries]
    by_cases same : name = field
    · subst same
      cases present : sanitized.lookup name with
      | none => rfl
      | some value =>
          rw [present, Option.getD_some] at held
          simp [held]
    · simp [same]
  · rw [if_neg held]
    by_cases same : name = field
    · subst same
      cases present : sanitized.lookup name with
      | none => rfl
      | some value =>
          rw [present, Option.getD_some] at held
          simp [held]
    · simp [same]

/-- The mark is truthy, so a field that is marked stays so. -/
theorem lookup_foldl_markField (name : String) (fields : List String)
    (sanitized : List (String × JsValue)) :
    (fields.foldl markField sanitized).lookup name = (sanitized.lookup name).map fun value =>
      if name ∈ fields ∧ value.truthy = true then REDACTED else value := by
  induction fields generalizing sanitized with
  | nil => simp
  | cons field rest ih =>
      rw [List.foldl_cons, ih, lookup_markField, Option.map_map]
      congr 1
      funext value
      by_cases held : value.truthy = true
      · by_cases same : name = field
        · simp [same, held, REDACTED]
        · simp [same, held]
      · simp [held]

theorem lookup_spreadItems (first position : Nat) (items : List JsValue) :
    (spreadItems first items).lookup (first + position).repr = items[position]? := by
  induction items generalizing first position with
  | nil => simp [spreadItems]
  | cons item rest ih =>
      cases position with
      | zero => simp [spreadItems]
      | succ position =>
          have other : ((first + (position + 1)).repr == first.repr) = false := by
            rw [beq_eq_false_iff_ne]
            intro same
            have equal := Nat.repr_injective same
            omega
          have shifted : first + (position + 1) = first + 1 + position := by omega
          rw [spreadItems, List.lookup_cons, other, shifted, List.getElem?_cons_succ]
          exact ih (first + 1) position

theorem repr_not_sensitive (position : Nat) : position.repr ∉ sensitiveFields := by
  intro member
  have letters : (sensitiveFields.all fun field =>
      field.toList.any fun symbol => !symbol.isDigit) = true := by decide
  have letter := List.all_eq_true.mp letters _ member
  obtain ⟨symbol, inside, letter⟩ := List.any_eq_true.mp letter
  rw [NumberTexts.digit_of_repr inside] at letter
  cases letter

theorem valueAt_sanitizeBody_obj (name : String) (rest : List JsStep)
    (fields : List (String × JsValue)) :
    valueAt (.key name :: rest) (sanitizeBody (.obj fields)) =
      (fields.lookup name).bind fun value =>
        valueAt rest
          (if name ∈ sensitiveFields ∧ value.truthy = true then REDACTED else value) := by
  have copied : sanitizeBody (.obj fields) = .obj (sensitiveFields.foldl markField fields) := rfl
  rw [copied, valueAt_key, lookup_foldl_markField]
  cases fields.lookup name <;> rfl

theorem valueAt_sanitizeBody_arr (position : Nat) (rest : List JsStep) (items : List JsValue) :
    valueAt (.key position.repr :: rest) (sanitizeBody (.arr items)) =
      (items[position]?).bind (valueAt rest) := by
  have found := lookup_spreadItems 0 position items
  rw [Nat.zero_add] at found
  have copied : sanitizeBody (.arr items) =
      .obj (sensitiveFields.foldl markField (spreadItems 0 items)) := rfl
  rw [copied, valueAt_key, lookup_foldl_markField, found]
  simp [repr_not_sensitive]

/-! ### What the request path replaces -/

/-- The request path logs '[REDACTED]' in the place of something else. -/
def Replaced (lower : String → String) (body : JsValue) (path : List JsStep) (value : JsValue) :
    Prop :=
  valueAt path body = some value ∧
    valueAt path (LoggingInterceptor.sanitizeBody lower body) = some REDACTED ∧ value ≠ REDACTED

/-- Below keys that are not sensitive the body holds, at a sensitive one, only what is marked
already or what a sensitive field holds at the top, by its exact name and truthy. -/
def SecretsOnTop (lower : String → String) (body : JsValue) : Prop :=
  ∀ front name value, Clear lower LoggingInterceptor.sensitiveFields front →
    isSensitive lower LoggingInterceptor.sensitiveFields name = true →
    valueAt (front ++ [.key name]) body = some value → value ≠ REDACTED →
    front = [] ∧ name ∈ sensitiveFields ∧ value.truthy = true

variable {lower : String → String}

/-- A text contains itself, so the name of a sensitive field is sensitive. -/
theorem isSensitive_of_mem {name : String} (member : name ∈ sensitiveFields) :
    isSensitive lower LoggingInterceptor.sensitiveFields name = true := by
  have contained : includes (lower name) (lower name) = true := by
    unfold includes
    refine List.any_eq_true.mpr ⟨(lower name).toList, (List.mem_tails _ _).mpr List.suffix_rfl, ?_⟩
    exact List.isPrefixOf_iff_prefix.mpr List.prefix_rfl
  exact List.any_eq_true.mpr ⟨name, member, contained⟩

theorem clear_nil (fields : List String) : Clear lower fields [] :=
  fun _ member => absurd member List.not_mem_nil

theorem clear_or_split (lower : String → String) (fields : List String) (path : List JsStep) :
    Clear lower fields path ∨ ∃ front name rest, path = front ++ .key name :: rest ∧
      Clear lower fields front ∧ isSensitive lower fields name = true := by
  induction path with
  | nil => exact .inl (clear_nil fields)
  | cons step path ih =>
      by_cases first : ∃ name, step = .key name ∧ isSensitive lower fields name = true
      · obtain ⟨name, rfl, sensitive⟩ := first
        exact .inr ⟨[], name, path, rfl, clear_nil fields, sensitive⟩
      · have here : ∀ name, step = .key name → isSensitive lower fields name = false := by
          intro name same
          by_contra sensitive
          exact first ⟨name, same, by simpa using sensitive⟩
        have extend : ∀ {later : List JsStep}, Clear lower fields later →
            Clear lower fields (step :: later) := by
          intro later clear name member
          rcases List.mem_cons.mp member with same | member
          · exact here name same.symm
          · exact clear name member
        rcases ih with clear | ⟨front, name, rest, rfl, clear, sensitive⟩
        · exact .inl (extend clear)
        · exact .inr ⟨step :: front, name, rest, rfl, extend clear, sensitive⟩

theorem redactFields_eq_REDACTED {fields : List String} {value : JsValue}
    (same : redactFields lower fields value = REDACTED) : value = REDACTED := by
  cases value with
  | arr items => simp [redactFields, REDACTED] at same
  | obj entries => simp [redactFields, REDACTED] at same
  | date millis => simp [redactFields, REDACTED] at same
  | _ => rw [← same, redactFields_leaf rfl]

/-- The request path replaces what stands at the first sensitive key of a path. -/
theorem replaced_iff (body : JsValue) (path : List JsStep) (value : JsValue) :
    Replaced lower body path value ↔ value ≠ REDACTED ∧ ∃ front name,
      path = front ++ [.key name] ∧ Clear lower LoggingInterceptor.sensitiveFields front ∧
      isSensitive lower LoggingInterceptor.sensitiveFields name = true ∧
      valueAt (front ++ [.key name]) body = some value := by
  unfold Replaced LoggingInterceptor.sanitizeBody
  rw [sanitize_eq]
  constructor
  · intro replaced
    obtain ⟨found, marked, foreign⟩ := replaced
    refine ⟨foreign, ?_⟩
    rcases clear_or_split lower LoggingInterceptor.sensitiveFields path with
      clear | ⟨front, name, rest, rfl, clear, sensitive⟩
    · rw [valueAt_redactFields_clear path body clear, found, Option.map_some,
        Option.some.injEq] at marked
      exact absurd (redactFields_eq_REDACTED marked) foreign
    · rw [valueAt_redactFields_sensitive front name rest body clear sensitive] at marked
      split at marked
      case isTrue last =>
        subst last
        exact ⟨front, name, rfl, clear, sensitive, found⟩
      case isFalse => cases marked
  · intro secret
    obtain ⟨foreign, front, name, rfl, clear, sensitive, found⟩ := secret
    refine ⟨found, ?_, foreign⟩
    rw [valueAt_redactFields_sensitive front name [] body clear sensitive, if_pos rfl, found]
    rfl

/-- The error path replaces it only at the top, by the exact name and where it is truthy. -/
theorem valueAt_sanitizeBody_secret {body value : JsValue} {front : List JsStep} {name : String}
    (clear : Clear lower LoggingInterceptor.sensitiveFields front)
    (found : valueAt (front ++ [.key name]) body = some value) (foreign : value ≠ REDACTED) :
    valueAt (logPath body (front ++ [.key name])) (sanitizeBody body) ≠ some value ↔
      front = [] ∧ name ∈ sensitiveFields ∧ value.truthy = true := by
  cases front with
  | nil =>
      cases body with
      | obj fields =>
          rw [List.nil_append, valueAt_key, Option.bind_eq_some_iff] at found
          obtain ⟨held, present, same⟩ := found
          rw [valueAt_nil, Option.some.injEq] at same
          subst same
          have path : logPath (.obj fields) ([] ++ [.key name]) = [.key name] := rfl
          rw [path, valueAt_sanitizeBody_obj, present, Option.bind_some]
          by_cases marked : name ∈ sensitiveFields ∧ held.truthy = true
          · rw [if_pos marked]
            exact iff_of_true (fun same => foreign (Option.some.inj same).symm) ⟨rfl, marked⟩
          · rw [if_neg marked]
            exact iff_of_false (fun absent => absent rfl) fun top => marked top.2
      | _ => cases found
  | cons step front =>
      have kept : valueAt (logPath body (step :: front ++ [.key name])) (sanitizeBody body) =
          some value := by
        rw [List.cons_append] at found ⊢
        cases body with
        | obj fields =>
            cases step with
            | key other =>
                rw [valueAt_key, Option.bind_eq_some_iff] at found
                obtain ⟨held, present, below⟩ := found
                have plain : other ∉ sensitiveFields := by
                  intro member
                  have sensitive := @isSensitive_of_mem lower other member
                  rw [clear.head] at sensitive
                  cases sensitive
                have path : logPath (.obj fields) (.key other :: (front ++ [.key name])) =
                    .key other :: (front ++ [.key name]) := rfl
                rw [path, valueAt_sanitizeBody_obj, present, Option.bind_some,
                  if_neg fun marked => plain marked.1]
                exact below
            | index position => cases found
        | arr items =>
            cases step with
            | key other => cases found
            | index position =>
                have path : logPath (.arr items) (.index position :: (front ++ [.key name])) =
                    .key position.repr :: (front ++ [.key name]) := rfl
                rw [path, valueAt_sanitizeBody_arr]
                exact found
        | _ => cases step <;> cases found
      exact iff_of_false (fun absent => absent kept) fun top => nomatch top.1

/-- The error path logs nothing that the request path replaces exactly if the request is a GET or
its body has its secrets on top. -/
theorem error_path_redacts_iff (lower : String → String) (method : String) (body : JsValue) :
    (∀ path value, Replaced lower body path value →
      valueAt (logPath body path) (loggedBody method body) ≠ some value) ↔
    method = "GET" ∨ SecretsOnTop lower body := by
  unfold loggedBody
  by_cases get : method = "GET"
  · rw [if_pos get]
    refine iff_of_true ?_ (.inl get)
    intro path value replaced
    obtain ⟨_, front, name, rfl, _, _, _⟩ := (replaced_iff body path value).mp replaced
    cases front with
    | nil => cases body <;> exact fun same => nomatch same
    | cons step front => cases body <;> cases step <;> exact fun same => nomatch same
  · rw [if_neg get, or_iff_right get]
    constructor
    · intro absent front name value clear sensitive found foreign
      have secret := (replaced_iff body (front ++ [.key name]) value).mpr
        ⟨foreign, front, name, rfl, clear, sensitive, found⟩
      exact (valueAt_sanitizeBody_secret clear found foreign).mp (absent _ _ secret)
    · intro onTop path value replaced
      obtain ⟨foreign, front, name, rfl, clear, sensitive, found⟩ :=
        (replaced_iff body path value).mp replaced
      exact (valueAt_sanitizeBody_secret clear found foreign).mpr
        (onTop front name value clear sensitive found foreign)

/-- What `toLowerCase` does with ASCII text. -/
def asciiLower (text : String) : String := String.ofList (text.toList.map Char.toLower)

/-- A new password is logged in clear when the request fails. -/
theorem new_password_logged :
    ¬ ∀ path value,
      Replaced asciiLower (.obj [("newPassword", .str "hunter2")]) path value →
      valueAt (logPath (.obj [("newPassword", .str "hunter2")]) path)
        (loggedBody "POST" (.obj [("newPassword", .str "hunter2")])) ≠ some value := by
  intro absent
  exact absent [.key "newPassword"] (.str "hunter2") ⟨by decide, by decide, by decide⟩ (by decide)

end StructuredErrorFilter

end SelfService
