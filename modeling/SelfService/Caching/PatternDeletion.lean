/-
Deletion by pattern in the memory cache.

The documented language has `*`, `?` and classes of characters.  The regular expression takes
brackets for themselves, and its dots stop at line terminators.
-/

import SelfService.Caching.MemoryCacheService

namespace SelfService

open Data

namespace MemoryCacheService

/-! ### The documented language -/

/-- The characters of a class, with ranges. -/
def classMembers : List Nat → Nat → Bool
  | first :: 45 :: last :: rest, unit =>
      (min first last ≤ unit && unit ≤ max first last) || classMembers rest unit
  | first :: rest, unit => unit = first || classMembers rest unit
  | [], _ => false

/-- What stands between the brackets; a caret at the beginning negates. -/
def inClass (body : List Nat) (unit : Nat) : Bool :=
  match body with
  | 94 :: members => !classMembers members unit
  | members => classMembers members unit

/-- A pattern as it is documented, over the characters of JavaScript.  `body` is what was read of
a class; a bracket that is never closed stands for itself. -/
def documentedGlob : Option (List Nat) → List Nat → List (GlobToken Nat)
  | _, [] => []
  | none, unit :: rest =>
      if unit = 42 then .many (fun _ => true) :: documentedGlob none rest
      else if unit = 63 then .one (fun _ => true) :: documentedGlob none rest
      else if unit = 91 ∧ rest.contains 93 then documentedGlob (some []) rest
      else .literal unit :: documentedGlob none rest
  | some body, unit :: rest =>
      if unit = 93 then .one (inClass body) :: documentedGlob none rest
      else documentedGlob (some (body ++ [unit])) rest

/-- The pattern with its brackets taken for themselves. -/
def bracketsLiteral (pattern : List Nat) : List (GlobToken Nat) :=
  pattern.map fun unit =>
    if unit = 42 then .many fun _ => true
    else if unit = 63 then .one fun _ => true
    else .literal unit

section Patterns

variable (options : CacheOptions) (pattern fullKey : String)

/-- The prefixed pattern, as the characters of a JavaScript string. -/
def fullPattern : List Nat := encode utf16 (getFullKey options pattern)

/-- The key matches the prefixed pattern as documented. -/
def Matches : Prop :=
  GlobToken.covers (documentedGlob none (fullPattern options pattern)) (encode utf16 fullKey) = true

/-- The key matches the prefixed pattern without classes. -/
def MatchesPlainly : Prop :=
  GlobToken.covers (bracketsLiteral (fullPattern options pattern)) (encode utf16 fullKey) = true

instance : Decidable (Matches options pattern fullKey) := by
  unfold Matches
  infer_instance

/-- No bracket that opens is closed. -/
def ClassFree (units : List Nat) : Prop :=
  ∀ before after, units = before ++ 91 :: after → 93 ∉ after

end Patterns

/-- How many line terminators there are. -/
def lineTerminators (units : List Nat) : Nat := units.countP fun unit => !dot unit

/-! ### The regular expression -/

theorem lineTerminators_cons (unit : Nat) (units : List Nat) :
    lineTerminators (unit :: units) =
      lineTerminators units + if dot unit then 0 else 1 := by
  unfold lineTerminators
  rw [List.countP_cons]
  cases dot unit <;> rfl

theorem lineTerminators_append (left right : List Nat) :
    lineTerminators (left ++ right) = lineTerminators left + lineTerminators right :=
  List.countP_append

theorem lineTerminators_eq_zero {units : List Nat} :
    lineTerminators units = 0 ↔ ∀ unit ∈ units, dot unit = true := by
  unfold lineTerminators
  rw [List.countP_eq_zero]
  simp

/-- Every line terminator of the pattern stands for one of the text. -/
theorem lineTerminators_le {pattern text : List Nat}
    (covered : GlobToken.covers (bracketsLiteral pattern) text = true) :
    lineTerminators pattern ≤ lineTerminators text := by
  induction pattern generalizing text with
  | nil => exact Nat.zero_le _
  | cons unit rest ih =>
      rw [bracketsLiteral, List.map_cons] at covered
      by_cases star : unit = 42
      · rw [if_pos star, GlobToken.covers, GlobToken.takesRun_iff] at covered
        obtain ⟨run, tail, split, -, behind⟩ := covered
        have least := ih behind
        rw [split, lineTerminators_append, lineTerminators_cons, star]
        simp only [show dot 42 = true by decide, if_true]
        omega
      · rw [if_neg star] at covered
        by_cases question : unit = 63
        · rw [if_pos question] at covered
          cases text with
          | nil => simp [GlobToken.covers] at covered
          | cons symbol tail =>
              have least := ih (Bool.and_eq_true_iff.mp covered).2
              rw [lineTerminators_cons, lineTerminators_cons, question]
              simp only [show dot 63 = true by decide, if_true]
              omega
        · rw [if_neg question] at covered
          cases text with
          | nil => simp [GlobToken.covers, GlobToken.literal] at covered
          | cons symbol tail =>
              obtain ⟨same, behind⟩ := Bool.and_eq_true_iff.mp covered
              have equal : symbol = unit := of_decide_eq_true same
              have least := ih behind
              rw [lineTerminators_cons, lineTerminators_cons, equal]
              omega

/-- The wildcards of the regular expression take no line terminators: all of them stand in the
pattern. -/
theorem globToRegex_covers_iff (pattern text : List Nat) :
    GlobToken.covers (globToRegex pattern) text = true ↔
      GlobToken.covers (bracketsLiteral pattern) text = true ∧
        lineTerminators text = lineTerminators pattern := by
  induction pattern generalizing text with
  | nil =>
      rw [globToRegex, bracketsLiteral, List.map_nil, List.map_nil, GlobToken.covers,
        List.isEmpty_iff]
      exact ⟨fun empty => ⟨empty, by rw [empty]⟩, fun both => both.1⟩
  | cons unit rest ih =>
      rw [globToRegex, bracketsLiteral, List.map_cons, List.map_cons]
      by_cases star : unit = 42
      · rw [if_pos star, if_pos star, GlobToken.covers, GlobToken.covers, GlobToken.takesRun_iff,
          GlobToken.takesRun_iff, lineTerminators_cons, star]
        simp only [show dot 42 = true by decide, if_true, Nat.add_zero]
        constructor
        · intro covered
          obtain ⟨run, tail, split, plain, behind⟩ := covered
          obtain ⟨taken, same⟩ := (ih tail).mp behind
          refine ⟨⟨run, tail, split, fun _ _ => trivial, taken⟩, ?_⟩
          rw [split, lineTerminators_append, lineTerminators_eq_zero.mpr plain, Nat.zero_add]
          exact same
        · intro covered
          obtain ⟨⟨run, tail, split, -, taken⟩, same⟩ := covered
          have least := lineTerminators_le taken
          rw [split, lineTerminators_append] at same
          refine ⟨run, tail, split, lineTerminators_eq_zero.mp (by omega),
            (ih tail).mpr ⟨taken, ?_⟩⟩
          omega
      · rw [if_neg star, if_neg star]
        by_cases question : unit = 63
        · rw [if_pos question, if_pos question]
          cases text with
          | nil => simp [GlobToken.covers]
          | cons symbol tail =>
              change (dot symbol && GlobToken.covers (globToRegex rest) tail) = true ↔
                (true && GlobToken.covers (bracketsLiteral rest) tail) = true ∧ _
              rw [Bool.and_eq_true, Bool.true_and, ih tail, lineTerminators_cons,
                lineTerminators_cons, question]
              simp only [show dot 63 = true by decide, if_true, Nat.add_zero]
              constructor
              · intro covered
                refine ⟨covered.2.1, ?_⟩
                rw [if_pos covered.1]
                exact covered.2.2
              · intro covered
                have least := lineTerminators_le covered.1
                cases plain : dot symbol with
                | false =>
                    rw [plain] at covered
                    simp only [Bool.false_eq_true, if_false] at covered
                    omega
                | true =>
                    rw [plain] at covered
                    exact ⟨rfl, covered.1, covered.2⟩
        · rw [if_neg question, if_neg question]
          cases text with
          | nil => simp [GlobToken.covers, GlobToken.literal]
          | cons symbol tail =>
              change (decide (symbol = unit) && GlobToken.covers (globToRegex rest) tail) = true ↔
                (decide (symbol = unit) && GlobToken.covers (bracketsLiteral rest) tail) = true ∧ _
              rw [Bool.and_eq_true, Bool.and_eq_true, decide_eq_true_eq, ih tail, and_assoc]
              refine and_congr_right fun same => and_congr_right fun _ => ?_
              rw [lineTerminators_cons, lineTerminators_cons, same]
              omega

theorem selects_iff (options : CacheOptions) (pattern fullKey : String) :
    selects options pattern fullKey = true ↔
      MatchesPlainly options pattern fullKey ∧
        lineTerminators (encode utf16 fullKey) = lineTerminators (fullPattern options pattern) :=
  globToRegex_covers_iff _ _

/-- Without classes both readings are the same. -/
theorem documentedGlob_classFree {units : List Nat} (free : ClassFree units) :
    documentedGlob none units = bracketsLiteral units := by
  induction units with
  | nil => rfl
  | cons unit rest ih =>
      have behind : documentedGlob none rest = bracketsLiteral rest := by
        apply ih
        intro before after split
        exact free (unit :: before) after (by rw [split]; rfl)
      have unclosed : ¬ (unit = 91 ∧ rest.contains 93) := by
        intro opened
        have absent := free [] rest (by rw [opened.1]; rfl)
        exact absent (List.contains_iff_mem.mp opened.2)
      have step : bracketsLiteral (unit :: rest) =
          (if unit = 42 then .many fun _ => true
            else if unit = 63 then .one fun _ => true
            else .literal unit) :: bracketsLiteral rest := rfl
      rw [documentedGlob, if_neg unclosed, behind, step]
      by_cases star : unit = 42
      · rw [if_pos star, if_pos star]
      · rw [if_neg star, if_neg star]
        by_cases question : unit = 63
        · rw [if_pos question, if_pos question]
        · rw [if_neg question, if_neg question]

/-! ### What is deleted -/

/-- The keys that match as documented are gone, their number is returned, and every other entry
is there as before. -/
structure DeletesExactly (options : CacheOptions) (pattern : String) (cache : Store) : Prop where
  removed : ∀ fullKey, (deleteByPattern options pattern cache).2.get? fullKey =
    if Matches options pattern fullKey then none else cache.get? fullKey
  counted : (deleteByPattern options pattern cache).1 =
    (cache.keys.filter fun fullKey => Matches options pattern fullKey).length

variable {options : CacheOptions} {pattern : String} {cache : Store}

theorem count_deleteByPattern : (deleteByPattern options pattern cache).1 =
    (cache.keys.filter (selects options pattern)).length := by
  have kept : (cache.eraseWhere (selects options pattern)).size =
      (cache.keys.filter fun fullKey => !selects options pattern fullKey).length := by
    unfold OrderedMap.size OrderedMap.eraseWhere OrderedMap.keys
    rw [List.filter_map, List.length_map]
    rfl
  have all : cache.size = cache.keys.length := (List.length_map _).symm
  have parts := List.length_eq_length_filter_add (l := cache.keys) (selects options pattern)
  unfold deleteByPattern
  simp only [kept, all]
  omega

/-- The deletion is exact if and only if every stored key matches as documented exactly when it
matches with the brackets taken for themselves and has no line terminators but those of the
pattern. -/
theorem deletes_exactly_iff (options : CacheOptions) (pattern : String) (cache : Store) :
    DeletesExactly options pattern cache ↔
      ∀ fullKey ∈ cache.keys, (Matches options pattern fullKey ↔
        MatchesPlainly options pattern fullKey ∧
          lineTerminators (encode utf16 fullKey) =
            lineTerminators (fullPattern options pattern)) := by
  constructor
  · intro exact fullKey stored
    obtain ⟨pair, listed, rfl⟩ := List.mem_map.mp stored
    have found : cache.get? pair.1 = some pair.2 := OrderedMap.get?_of_mem listed
    have removed := exact.removed pair.1
    unfold deleteByPattern at removed
    rw [OrderedMap.get?_eraseWhere, found] at removed
    rw [← selects_iff]
    constructor
    · intro documented
      rw [if_pos documented] at removed
      cases selected : selects options pattern pair.1 with
      | true => rfl
      | false => simp [selected] at removed
    · intro selected
      rw [if_pos selected] at removed
      by_contra different
      rw [if_neg different] at removed
      cases removed
  · intro alike
    have same : ∀ fullKey ∈ cache.keys,
        selects options pattern fullKey = decide (Matches options pattern fullKey) := by
      intro fullKey stored
      have iff := (alike fullKey stored).trans (selects_iff options pattern fullKey).symm
      rw [Bool.eq_iff_iff, decide_eq_true_eq]
      exact iff.symm
    constructor
    · intro fullKey
      unfold deleteByPattern
      rw [OrderedMap.get?_eraseWhere]
      cases found : cache.get? fullKey with
      | none => simp
      | some entry =>
          rw [same fullKey (OrderedMap.mem_keys_of_get? found)]
          simp
    · rw [count_deleteByPattern]
      exact congrArg List.length (List.filter_congr same)

/-- Without classes it is exact if and only if no stored key that matches has more line
terminators than the pattern. -/
theorem deletes_exactly_classFree (free : ClassFree (fullPattern options pattern)) :
    DeletesExactly options pattern cache ↔
      ∀ fullKey ∈ cache.keys, Matches options pattern fullKey →
        lineTerminators (encode utf16 fullKey) = lineTerminators (fullPattern options pattern) := by
  rw [deletes_exactly_iff]
  refine forall_congr' fun fullKey => forall_congr' fun _ => ?_
  have alike : Matches options pattern fullKey ↔ MatchesPlainly options pattern fullKey := by
    unfold Matches MatchesPlainly
    rw [documentedGlob_classFree free]
  rw [alike]
  exact ⟨fun iff matched => (iff.mp matched).2, fun same =>
    ⟨fun matched => ⟨matched, same matched⟩, And.left⟩⟩

/-! ### A class that is not read -/

def plainKeys : CacheOptions := ⟨300, "", 1000⟩

/-- Two keys of which the first is in the class. -/
def twoKeys : Store :=
  (OrderedMap.empty.set "user:a" ⟨.null, none⟩).set "user:c" ⟨.null, none⟩

/-- The key that matches the class stays. -/
theorem class_not_read : ¬ DeletesExactly plainKeys "user:[ab]" twoKeys := by
  intro exact
  exact absurd exact.counted (by decide +kernel)

end MemoryCacheService

end SelfService
