/-
The retry service.

`execute` calls a function until it succeeds, until its error is not worth another attempt, or
until the attempts are used up.  What the function does at each attempt is given as a sequence
of outcomes; calls and pauses are noted in a trace.
-/

import Mathlib.Algebra.Order.Floor.Ring
import Mathlib.Data.Rat.Floor
import Mathlib.Order.Bounds.Basic
import Mathlib.Tactic.Linarith
import Mathlib.Tactic.Ring
import SelfService.Core.JsText

namespace SelfService

/-- What the conditions look at in an `Error`. -/
structure RetryError where
  name : String
  constructorName : String
  message : String
  deriving DecidableEq, Repr

abbrev DelayCalculator := Nat → RetryError → Rat

/-- Every option may be missing.  A `delayCalculator` may also be there and `undefined`. -/
structure RetryOptions where
  maxAttempts : Option Nat
  initialDelayMs : Option Rat
  maxDelayMs : Option Rat
  backoffMultiplier : Option Rat
  jitterFactor : Option Rat
  shouldRetry : Option (RetryError → Nat → Bool)
  delayCalculator : Option (Option DelayCalculator)
  retryableErrors : Option (List String)
  nonRetryableErrors : Option (List String)

def RetryOptions.none : RetryOptions :=
  ⟨.none, .none, .none, .none, .none, .none, .none, .none, .none⟩

structure MergedOptions where
  maxAttempts : Nat
  initialDelayMs : Rat
  maxDelayMs : Rat
  backoffMultiplier : Rat
  jitterFactor : Rat
  shouldRetry : RetryError → Nat → Bool
  delayCalculator : Option DelayCalculator
  retryableErrors : List String
  nonRetryableErrors : List String

/-- A call of the function, and a pause of so many milliseconds. -/
inductive RetryEvent : Type
  | call (attempt : Nat)
  | sleep (delay : Rat)
  deriving DecidableEq

namespace RetryService

variable {α : Type}

/-- Later objects of the spread win; a missing property does not hide an earlier one. -/
def mergeOptions (globalConfig options : RetryOptions) : MergedOptions where
  maxAttempts := (options.maxAttempts <|> globalConfig.maxAttempts).getD 3
  initialDelayMs := (options.initialDelayMs <|> globalConfig.initialDelayMs).getD 1000
  maxDelayMs := (options.maxDelayMs <|> globalConfig.maxDelayMs).getD 30000
  backoffMultiplier := (options.backoffMultiplier <|> globalConfig.backoffMultiplier).getD 2
  jitterFactor := (options.jitterFactor <|> globalConfig.jitterFactor).getD (1 / 10)
  shouldRetry := (options.shouldRetry <|> globalConfig.shouldRetry).getD fun _ _ => true
  delayCalculator :=
    (options.delayCalculator <|> globalConfig.delayCalculator).getD (some fun _ _ => 1000)
  retryableErrors := (options.retryableErrors <|> globalConfig.retryableErrors).getD []
  nonRetryableErrors := (options.nonRetryableErrors <|> globalConfig.nonRetryableErrors).getD []

/-- An error is listed by its name, by its class or by a part of its message. -/
def isListed (error : RetryError) (listed : String) : Bool :=
  error.name = listed || error.constructorName = listed || includes error.message listed

def isRetryableError (error : RetryError) : Bool :=
  if error.name = "UnauthorizedError" || error.name = "ForbiddenError" ||
      includes error.message "401" || includes error.message "403" then false
  else if error.name = "ValidationError" || error.name = "BadRequestException" ||
      includes error.message "400" || includes error.message "validation" then false
  else if error.name = "NotFoundException" || includes error.message "404" then false
  else
    error.name = "ECONNREFUSED" || error.name = "ETIMEDOUT" || error.name = "ENOTFOUND" ||
      error.name = "ECONNRESET" || includes error.message "timeout" ||
      includes error.message "connection" || includes error.message "500" ||
      includes error.message "502" || includes error.message "503" || includes error.message "504"

/-- The conditions after the test for the last attempt. -/
def meetsConditions (error : RetryError) (attempt : Nat) (options : MergedOptions) : Bool :=
  if !options.shouldRetry error attempt then false
  else if options.nonRetryableErrors.any (isListed error) then false
  else if options.retryableErrors ≠ [] then options.retryableErrors.any (isListed error)
  else isRetryableError error

def shouldRetry (error : RetryError) (attempt : Nat) (options : MergedOptions) : Bool :=
  if options.maxAttempts ≤ attempt then false else meetsConditions error attempt options

/-- The delay after a failed attempt, where `Math.random()` yields `random`. -/
def calculateDelay (attempt : Nat) (error : RetryError) (options : MergedOptions)
    (random : Rat) : Rat :=
  match options.delayCalculator with
  | some calculator => calculator attempt error
  | none =>
      let baseDelay := options.initialDelayMs * options.backoffMultiplier ^ (attempt - 1)
      let cappedDelay := min baseDelay options.maxDelayMs
      if 0 < options.jitterFactor then
        let jitter := cappedDelay * options.jitterFactor * random
        (⌊cappedDelay + jitter⌋ : Int)
      else (⌊cappedDelay⌋ : Int)

/-- The function's outcome at each attempt, and the random number drawn after it. -/
structure RetryWorld (α : Type) where
  outcome : Nat → Except RetryError α
  random : Nat → Rat

/-- The loop from an attempt on, with so many left; at the end the last error is thrown. -/
def loop (world : RetryWorld α) (options : MergedOptions) :
    Nat → Nat → Option RetryError → List RetryEvent × Except (Option RetryError) α
  | 0, _, lastError => ([], .error lastError)
  | left + 1, attempt, _ =>
      match world.outcome attempt with
      | .ok result => ([.call attempt], .ok result)
      | .error error =>
          if !shouldRetry error attempt options then ([.call attempt], .error (some error))
          else
            let later := loop world options left (attempt + 1) (some error)
            if attempt < options.maxAttempts then
              (.call attempt ::
                .sleep (calculateDelay attempt error options (world.random attempt)) :: later.1,
                later.2)
            else (.call attempt :: later.1, later.2)

def execute (world : RetryWorld α) (globalConfig options : RetryOptions) :
    List RetryEvent × Except (Option RetryError) α :=
  let mergedOptions := mergeOptions globalConfig options
  loop world mergedOptions mergedOptions.maxAttempts 1 none

/-! ### The trace -/

section Traces

variable {world : RetryWorld α} {options : MergedOptions}

/-- The attempt succeeds, or its failure is refused by the conditions. -/
def Settles (world : RetryWorld α) (options : MergedOptions) (attempt : Nat) : Prop :=
  match world.outcome attempt with
  | .ok _ => True
  | .error error => meetsConditions error attempt options = false

def Stops (world : RetryWorld α) (options : MergedOptions) (attempt : Nat) : Prop :=
  attempt = options.maxAttempts ∨ Settles world options attempt

def retried (world : RetryWorld α) (options : MergedOptions) (attempt : Nat) : List RetryEvent :=
  match world.outcome attempt with
  | .ok _ => [.call attempt]
  | .error error =>
      [.call attempt, .sleep (calculateDelay attempt error options (world.random attempt))]

/-- Attempts with pauses between them, from the first to the last one. -/
def traceOf (world : RetryWorld α) (options : MergedOptions) (first last : Nat) :
    List RetryEvent :=
  (List.range' first (last - first)).flatMap (retried world options) ++ [.call last]

theorem traceOf_self (attempt : Nat) : traceOf world options attempt attempt = [.call attempt] := by
  rw [traceOf, Nat.sub_self]
  rfl

theorem traceOf_later {attempt last : Nat} (later : attempt + 1 ≤ last) :
    traceOf world options attempt last =
      retried world options attempt ++ traceOf world options (attempt + 1) last := by
  have longer : last - attempt = last - (attempt + 1) + 1 := by omega
  rw [traceOf, traceOf, longer, List.range'_succ, List.flatMap_cons, List.append_assoc]

theorem shouldRetry_of_lt {error : RetryError} {attempt : Nat}
    (left : attempt < options.maxAttempts) :
    shouldRetry error attempt options = meetsConditions error attempt options :=
  if_neg (by omega)

theorem shouldRetry_last {error : RetryError} {attempt : Nat}
    (last : options.maxAttempts ≤ attempt) : shouldRetry error attempt options = false :=
  if_pos last

/-- From any attempt on, the loop ends with the first one that is not followed by another. -/
theorem loop_trace (left attempt : Nat) (lastError : Option RetryError)
    (counted : attempt + left = options.maxAttempts + 1) (some_ : 0 < left) :
    ∃ last, attempt ≤ last ∧ Stops world options last ∧
      (∀ earlier, attempt ≤ earlier → earlier < last → ¬ Stops world options earlier) ∧
      loop world options left attempt lastError =
        (traceOf world options attempt last, (world.outcome last).mapError some) := by
  induction left generalizing attempt lastError with
  | zero => exact absurd some_ (Nat.lt_irrefl 0)
  | succ left ih =>
      have here : ∀ ended, Stops world options attempt →
          loop world options (left + 1) attempt lastError = ([.call attempt], ended) →
          ended = (world.outcome attempt).mapError some → ∃ last, attempt ≤ last ∧
            Stops world options last ∧
            (∀ earlier, attempt ≤ earlier → earlier < last → ¬ Stops world options earlier) ∧
            loop world options (left + 1) attempt lastError =
              (traceOf world options attempt last, (world.outcome last).mapError some) := by
        intro ended stops ran same
        refine ⟨attempt, Nat.le_refl attempt, stops, ?_, ?_⟩
        · intro earlier from_ before
          omega
        · rw [ran, traceOf_self, same]
      cases outcome : world.outcome attempt with
      | ok result =>
          apply here (.ok result)
          · exact Or.inr (by simp only [Settles, outcome])
          · simp only [loop, outcome]
          · rw [outcome]
            rfl
      | error error =>
          by_cases final : options.maxAttempts ≤ attempt
          · have only : attempt = options.maxAttempts := by omega
            apply here (.error (some error)) (Or.inl only)
            · simp only [loop, outcome, shouldRetry_last final, Bool.not_false, if_true]
            · rw [outcome]
              rfl
          · have below : attempt < options.maxAttempts := Nat.lt_of_not_le final
            have asked := @shouldRetry_of_lt options error attempt below
            cases meets : meetsConditions error attempt options with
            | false =>
                apply here (.error (some error))
                · exact Or.inr (by simp only [Settles, outcome, meets])
                · simp only [loop, outcome, asked, meets, Bool.not_false, if_true]
                · rw [outcome]
                  rfl
            | true =>
                obtain ⟨last, after, stops, first, ran⟩ :=
                  ih (attempt + 1) (some error) (by omega) (by omega)
                refine ⟨last, by omega, stops, ?_, ?_⟩
                · intro earlier from_ before
                  rcases Nat.eq_or_lt_of_le from_ with same | behind
                  · subst same
                    rintro (used | settles)
                    · omega
                    · simp only [Settles, outcome, meets, Bool.true_eq_false] at settles
                  · exact first earlier behind before
                · rw [traceOf_later after]
                  simp only [loop, outcome, asked, meets, Bool.not_true, Bool.false_eq_true,
                    if_false, if_pos below, ran, retried, List.cons_append, List.nil_append]

/-- The function is called until the attempts are used up, one succeeds, or the conditions refuse
an error, whichever comes first, with one pause between two calls. -/
theorem retry_trace (world : RetryWorld α) (globalConfig options : RetryOptions)
    (positive : 1 ≤ (mergeOptions globalConfig options).maxAttempts) :
    ∃ last, IsLeast {attempt | 1 ≤ attempt ∧
        Stops world (mergeOptions globalConfig options) attempt} last ∧
      execute world globalConfig options =
        (traceOf world (mergeOptions globalConfig options) 1 last,
          (world.outcome last).mapError some) := by
  obtain ⟨last, from_, stops, first, ran⟩ := @loop_trace _ world
    (mergeOptions globalConfig options) (mergeOptions globalConfig options).maxAttempts 1 none
    (Nat.add_comm 1 _) positive
  refine ⟨last, ⟨⟨from_, stops⟩, ?_⟩, ran⟩
  intro other member
  by_contra earlier
  exact first other member.1 (Nat.lt_of_not_le earlier) member.2

def recovering : RetryWorld String where
  outcome attempt :=
    if attempt = 1 then .error ⟨"Error", "Error", "connection timeout"⟩ else .ok "done"
  random _ := 0

theorem retry_trace_recovering : ∃ last, IsLeast {attempt | 1 ≤ attempt ∧
      Stops recovering (mergeOptions .none .none) attempt} last ∧
    execute recovering .none .none = (traceOf recovering (mergeOptions .none .none) 1 last,
      (recovering.outcome last).mapError some) :=
  retry_trace recovering .none .none (by decide)

end Traces

/-! ### Backoff -/

section Backoffs

variable {globalConfig options : RetryOptions} {merged : MergedOptions} {attempt : Nat}
variable {error : RetryError} {random : Rat}

/-- The delay of the formula, without jitter. -/
def backoff (options : MergedOptions) (attempt : Nat) : Rat :=
  min (options.initialDelayMs * options.backoffMultiplier ^ (attempt - 1)) options.maxDelayMs

/-- The delay lies between the delay of the formula and the same with all of the jitter. -/
def BacksOff (options : MergedOptions) (attempt : Nat) (error : RetryError) (random : Rat) :
    Prop :=
  (⌊backoff options attempt⌋ : Rat) ≤ calculateDelay attempt error options random ∧
    calculateDelay attempt error options random ≤
      (⌊backoff options attempt * (1 + options.jitterFactor)⌋ : Int)

def NoCalculator (options : RetryOptions) : Prop :=
  ∀ calculator, options.delayCalculator ≠ some (some calculator)

/-- The calculator is there and `undefined`, so that it hides the default. -/
def CalculatorUnset (globalConfig options : RetryOptions) : Prop :=
  (options.delayCalculator <|> globalConfig.delayCalculator) = some none

theorem calculateDelay_unset (unset : merged.delayCalculator = none) :
    calculateDelay attempt error merged random =
      if 0 < merged.jitterFactor then
        ((⌊backoff merged attempt + backoff merged attempt * merged.jitterFactor * random⌋ : Int) :
          Rat)
      else (⌊backoff merged attempt⌋ : Int) := by
  unfold calculateDelay
  rw [unset]
  rfl

/-- The formula keeps to the bounds wherever they leave room. -/
theorem backsOff_unset_iff (unset : merged.delayCalculator = none) (low : 0 ≤ random)
    (high : random < 1) : BacksOff merged attempt error random ↔
      ⌊backoff merged attempt⌋ ≤ ⌊backoff merged attempt * (1 + merged.jitterFactor)⌋ := by
  unfold BacksOff
  rw [calculateDelay_unset unset]
  constructor
  · intro bounds
    exact Int.cast_le.mp (bounds.1.trans bounds.2)
  · intro room
    by_cases jitters : 0 < merged.jitterFactor
    · rw [if_pos jitters, Int.cast_le, Int.cast_le]
      have spread : backoff merged attempt * (1 + merged.jitterFactor) =
          backoff merged attempt + backoff merged attempt * merged.jitterFactor := by ring
      rw [spread] at room ⊢
      rcases le_total 0 (backoff merged attempt) with positive | negative
      · have whole : 0 ≤ backoff merged attempt * merged.jitterFactor :=
          mul_nonneg positive (le_of_lt jitters)
        constructor
        · apply Int.floor_mono
          linarith [mul_nonneg whole low]
        · apply Int.floor_mono
          linarith [mul_le_of_le_one_right whole (le_of_lt high)]
      · -- Below zero the jitter leads downwards, and the bounds have to meet.
        have whole : backoff merged attempt * merged.jitterFactor ≤ 0 :=
          mul_nonpos_of_nonpos_of_nonneg negative (le_of_lt jitters)
        have part : backoff merged attempt * merged.jitterFactor * random ≤ 0 :=
          mul_nonpos_of_nonpos_of_nonneg whole low
        have more : backoff merged attempt * merged.jitterFactor ≤
            backoff merged attempt * merged.jitterFactor * random := by
          have scaled := mul_nonneg_of_nonpos_of_nonpos whole (by linarith : random - 1 ≤ 0)
          linarith
        have above : ⌊backoff merged attempt + backoff merged attempt * merged.jitterFactor⌋ ≤
            ⌊backoff merged attempt + backoff merged attempt * merged.jitterFactor * random⌋ :=
          Int.floor_mono (by linarith)
        have below : ⌊backoff merged attempt + backoff merged attempt * merged.jitterFactor *
            random⌋ ≤ ⌊backoff merged attempt⌋ := Int.floor_mono (by linarith)
        exact ⟨room.trans above, below.trans room⟩
    · rw [if_neg jitters]
      exact ⟨le_refl _, Int.cast_le.mpr room⟩

/-- The delay is that of the formula only where the default calculator was hidden; elsewhere it
is one second. -/
theorem backsOff_iff (ownGlobal : NoCalculator globalConfig) (ownCall : NoCalculator options)
    (low : 0 ≤ random) (high : random < 1) :
    BacksOff (mergeOptions globalConfig options) attempt error random ↔
      (CalculatorUnset globalConfig options ∧
        ⌊backoff (mergeOptions globalConfig options) attempt⌋ ≤
          ⌊backoff (mergeOptions globalConfig options) attempt *
            (1 + (mergeOptions globalConfig options).jitterFactor)⌋) ∨
      (¬ CalculatorUnset globalConfig options ∧
        ⌊backoff (mergeOptions globalConfig options) attempt⌋ ≤ 1000 ∧
        1000 ≤ ⌊backoff (mergeOptions globalConfig options) attempt *
          (1 + (mergeOptions globalConfig options).jitterFactor)⌋) := by
  by_cases unset : CalculatorUnset globalConfig options
  · have hidden : (mergeOptions globalConfig options).delayCalculator = none := by
      change (options.delayCalculator <|> globalConfig.delayCalculator).getD _ = none
      rw [show (options.delayCalculator <|> globalConfig.delayCalculator) = some none from unset]
      rfl
    rw [backsOff_unset_iff hidden low high]
    simp [unset]
  · have shown : (mergeOptions globalConfig options).delayCalculator =
        some fun _ _ => 1000 := by
      change (options.delayCalculator <|> globalConfig.delayCalculator).getD _ = _
      unfold CalculatorUnset at unset
      cases own : options.delayCalculator with
      | some calculator =>
          cases calculator with
          | some calculator => exact absurd own (ownCall calculator)
          | none =>
              rw [own] at unset
              exact absurd rfl unset
      | none =>
          cases common : globalConfig.delayCalculator with
          | some calculator =>
              cases calculator with
              | some calculator => exact absurd common (ownGlobal calculator)
              | none =>
                  rw [own, common] at unset
                  exact absurd rfl unset
          | none => rfl
    have second : calculateDelay attempt error (mergeOptions globalConfig options) random =
        1000 := by
      unfold calculateDelay
      rw [shown]
    unfold BacksOff
    rw [second]
    simp only [unset, false_and, not_false_eq_true, true_and, false_or]
    constructor
    · intro bounds
      exact ⟨by exact_mod_cast bounds.1, by exact_mod_cast bounds.2⟩
    · intro bounds
      exact ⟨by exact_mod_cast bounds.1, by exact_mod_cast bounds.2⟩

/-- Within the bounds and without jitter, the delays do not decrease and stay below the cap. -/
theorem delays_nondecreasing (bounds : ∀ attempt, 1 ≤ attempt →
      BacksOff merged attempt error random)
    (plain : merged.jitterFactor = 0) (grows : 1 ≤ merged.backoffMultiplier)
    (starts : 0 ≤ merged.initialDelayMs) {later : Nat} (first : 1 ≤ attempt)
    (ordered : attempt ≤ later) :
    calculateDelay attempt error merged random ≤ calculateDelay later error merged random ∧
      calculateDelay attempt error merged random ≤ merged.maxDelayMs := by
  have exact_ : ∀ attempt, 1 ≤ attempt →
      calculateDelay attempt error merged random = (⌊backoff merged attempt⌋ : Int) := by
    intro attempt first
    obtain ⟨below, above⟩ := bounds attempt first
    rw [plain, add_zero, mul_one] at above
    exact le_antisymm above below
  rw [exact_ attempt first, exact_ later (first.trans ordered)]
  constructor
  · have power : merged.backoffMultiplier ^ (attempt - 1) ≤
        merged.backoffMultiplier ^ (later - 1) :=
      pow_le_pow_right₀ grows (Nat.sub_le_sub_right ordered 1)
    exact Int.cast_le.mpr (Int.floor_mono
      (min_le_min_right _ (mul_le_mul_of_nonneg_left power starts)))
  · exact (Int.floor_le _).trans (min_le_right _ _)

/-- With the defaults the second pause should be two seconds, and is one. -/
theorem default_never_backs_off :
    NoCalculator .none ∧
      ¬ BacksOff (mergeOptions .none .none) 2 ⟨"Error", "Error", "timeout"⟩ 0 := by
  refine ⟨fun _ => by simp [RetryOptions.none], ?_⟩
  unfold BacksOff
  decide +kernel

theorem backsOff_iff_unset : BacksOff (mergeOptions .none
    { RetryOptions.none with delayCalculator := some none }) 2 ⟨"Error", "Error", "timeout"⟩ 0 :=
  (backsOff_iff (fun _ => by simp [RetryOptions.none]) (fun _ => by simp) (le_refl 0)
    (by norm_num)).mpr (Or.inl ⟨rfl, by decide +kernel⟩)

end Backoffs

end RetryService

end SelfService
