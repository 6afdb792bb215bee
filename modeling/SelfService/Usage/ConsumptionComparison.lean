/-
The consumption of two periods, compared.

The change is rounded to two decimals of a percent, and the direction is that of the rounded
change.  Volumes are exact rationals; `Math.round` rounds a half up.
-/

import Mathlib.Algebra.Order.Round
import Mathlib.Data.Int.ConditionallyCompleteOrder
import Mathlib.Data.Rat.Floor
import Mathlib.Tactic.FieldSimp
import Mathlib.Tactic.Linarith
import Mathlib.Tactic.Ring
import SelfService.Core.Exceptions

namespace SelfService

namespace UsageService

inductive Direction : Type
  | up
  | down
  | neutral
  deriving DecidableEq, Repr

structure ComparisonRaw where
  currentPeriod : String
  previousPeriod : String
  currentVolume : Rat
  previousVolume : Rat
  deriving DecidableEq, Repr

structure ComparisonResponse extends ComparisonRaw where
  percentageChange : Option Rat
  direction : Direction
  deriving DecidableEq, Repr

/-- What `/^\d{4}-\d{2}$/` accepts. -/
def isPeriod (text : String) : Bool :=
  match text.toList with
  | [a, b, c, d, dash, e, f] => [a, b, c, d, e, f].all Char.isDigit && dash = '-'
  | _ => false

def validateComparisonParams (current previous : String) : Except Exn Unit :=
  if isPeriod current && isPeriod previous then .ok ()
  else .error (.validation
    "Invalid period parameters. Use YYYY-MM format for both current and previous")

def exactChange (raw : ComparisonRaw) : Rat :=
  (raw.currentVolume - raw.previousVolume) / raw.previousVolume * 100

def percentageChangeOf (raw : ComparisonRaw) : Option Rat :=
  if raw.previousVolume = 0 then none
  else some ((round (exactChange raw * 100) : Int) / 100)

def directionOf : Option Rat → Direction
  | none => .neutral
  | some change => if 0 < change then .up else if change < 0 then .down else .neutral

/-- `meterReading` answers the `get-comparison` of the port `meter-reading`. -/
def getConsumptionComparison
    (meterReading : String → String → String → Except Exn ComparisonRaw)
    (customerId currentPeriod previousPeriod : String) : Except Exn ComparisonResponse := do
  validateComparisonParams currentPeriod previousPeriod
  let data ← meterReading customerId currentPeriod previousPeriod
  let percentageChange := percentageChangeOf data
  return { data with
    percentageChange := percentageChange
    direction := directionOf percentageChange }

/-! ### Rounding -/

theorem round_pos_iff (value : Rat) : 0 < round value ↔ 1 / 2 ≤ value := by
  rw [round_eq, Int.lt_iff_add_one_le, Int.le_floor]
  constructor
  · intro above
    push_cast at above
    linarith
  · intro above
    push_cast
    linarith

theorem round_neg_iff (value : Rat) : round value < 0 ↔ value < -(1 / 2) := by
  rw [round_eq, Int.floor_lt]
  constructor
  · intro below
    push_cast at below
    linarith
  · intro below
    push_cast
    linarith

theorem round_monotone : Monotone (round : Rat → Int) := by
  intro value larger ordered
  rw [round_eq, round_eq]
  exact Int.floor_mono (by linarith)

/-! ### The answer -/

/-- Of three directions, up is the greatest. -/
def Direction.rank : Direction → Int
  | .up => 1
  | .neutral => 0
  | .down => -1

theorem directionOf_some (change : Int) :
    directionOf (some ((change : Rat) / 100)) =
      if 0 < change then .up else if change < 0 then .down else .neutral := by
  have above : 0 < (change : Rat) / 100 ↔ 0 < change := by
    rw [div_pos_iff_of_pos_right (by norm_num), Int.cast_pos]
  have below : (change : Rat) / 100 < 0 ↔ change < 0 := by
    rw [div_lt_iff₀ (by norm_num), zero_mul, Int.cast_lt_zero]
  simp only [directionOf, above, below]

theorem rank_directionOf (change : Int) :
    (directionOf (some ((change : Rat) / 100))).rank =
      if 0 < change then 1 else if change < 0 then -1 else 0 := by
  rw [directionOf_some]
  split
  · rfl
  · split <;> rfl

theorem rank_monotone {change larger : Int} (ordered : change ≤ larger) :
    (directionOf (some ((change : Rat) / 100))).rank ≤
      (directionOf (some ((larger : Rat) / 100))).rank := by
  rw [rank_directionOf, rank_directionOf]
  split_ifs <;> omega

/-- The rounded change, counted in hundredths of a percent. -/
def hundredths (raw : ComparisonRaw) : Int := round (exactChange raw * 100)

section Answers

variable {meterReading : String → String → String → Except Exn ComparisonRaw}
variable {customerId currentPeriod previousPeriod : String} {response : ComparisonResponse}

/-- Both outputs are read off the rounded change. -/
theorem outputs_of_answer (answered : getConsumptionComparison meterReading customerId
      currentPeriod previousPeriod = .ok response) (positive : 0 < response.previousVolume) :
    response.percentageChange = some ((hundredths response.toComparisonRaw : Rat) / 100) ∧
      response.direction =
        directionOf (some ((hundredths response.toComparisonRaw : Rat) / 100)) := by
  unfold getConsumptionComparison at answered
  cases valid : validateComparisonParams currentPeriod previousPeriod with
  | error error =>
      rw [valid] at answered
      cases answered
  | ok done =>
      rw [valid] at answered
      cases read : meterReading customerId currentPeriod previousPeriod with
      | error error =>
          rw [read] at answered
          cases answered
      | ok data =>
          rw [read] at answered
          cases answered
          have known : percentageChangeOf data = some ((hundredths data : Rat) / 100) :=
            if_neg (ne_of_gt positive)
          exact ⟨known, congrArg directionOf known⟩

theorem abs_sub_hundredths (raw : ComparisonRaw) :
    |(hundredths raw : Rat) / 100 - exactChange raw| ≤ 1 / 200 := by
  have near := abs_sub_round (exactChange raw * 100)
  rw [abs_le] at near ⊢
  unfold hundredths
  constructor
  · linarith [near.2]
  · linarith [near.1]

theorem hundredths_monotone {raw larger : ComparisonRaw} (positive : 0 < raw.previousVolume)
    (same : larger.previousVolume = raw.previousVolume)
    (ordered : raw.currentVolume ≤ larger.currentVolume) :
    hundredths raw ≤ hundredths larger := by
  apply round_monotone
  unfold exactChange
  rw [same]
  have divided := div_le_div_of_nonneg_right
    (sub_le_sub_right ordered raw.previousVolume) (le_of_lt positive)
  linarith

theorem direction_up_iff (raw : ComparisonRaw) :
    directionOf (some ((hundredths raw : Rat) / 100)) = .up ↔ 1 / 200 ≤ exactChange raw := by
  have above := round_pos_iff (exactChange raw * 100)
  rw [directionOf_some, hundredths]
  constructor
  · intro up
    by_cases positive : 0 < round (exactChange raw * 100)
    · linarith [above.mp positive]
    · rw [if_neg positive] at up
      split at up <;> cases up
  · intro large
    exact if_pos (above.mpr (by linarith))

theorem direction_down_iff (raw : ComparisonRaw) :
    directionOf (some ((hundredths raw : Rat) / 100)) = .down ↔ exactChange raw < -(1 / 200) := by
  have below := round_neg_iff (exactChange raw * 100)
  rw [directionOf_some, hundredths]
  constructor
  · intro down
    by_cases negative : round (exactChange raw * 100) < 0
    · linarith [below.mp negative]
    · rw [if_neg negative] at down
      split at down <;> cases down
  · intro large
    have negative := below.mpr (by linarith)
    rw [if_neg (by omega), if_pos negative]

theorem direction_neutral_iff (raw : ComparisonRaw) :
    directionOf (some ((hundredths raw : Rat) / 100)) = .neutral ↔
      -(1 / 200) ≤ exactChange raw ∧ exactChange raw < 1 / 200 := by
  have up := direction_up_iff raw
  have down := direction_down_iff raw
  rw [← not_lt, ← down, ← not_le, ← up]
  cases directionOf (some ((hundredths raw : Rat) / 100)) <;> decide

/-- The direction is that of the change rounded to hundredths of a percent; both outputs grow
with the current volume. -/
theorem comparison_follows_rounding (answered : getConsumptionComparison meterReading customerId
      currentPeriod previousPeriod = .ok response) (positive : 0 < response.previousVolume) :
    (∃ change, response.percentageChange = some change ∧
      |change - exactChange response.toComparisonRaw| ≤ 1 / 200) ∧
    (response.direction = .up ↔ 1 / 200 ≤ exactChange response.toComparisonRaw) ∧
    (response.direction = .down ↔ exactChange response.toComparisonRaw < -(1 / 200)) ∧
    (response.direction = .neutral ↔ -(1 / 200) ≤ exactChange response.toComparisonRaw ∧
      exactChange response.toComparisonRaw < 1 / 200) ∧
    ∀ otherReading otherId current previous larger,
      getConsumptionComparison otherReading otherId current previous = .ok larger →
      larger.previousVolume = response.previousVolume →
      response.currentVolume ≤ larger.currentVolume →
      (∀ change ∈ response.percentageChange, ∀ next ∈ larger.percentageChange, change ≤ next) ∧
        response.direction.rank ≤ larger.direction.rank := by
  obtain ⟨percentage, direction⟩ := outputs_of_answer answered positive
  rw [percentage, direction, direction_up_iff, direction_down_iff, direction_neutral_iff]
  refine ⟨⟨_, rfl, abs_sub_hundredths _⟩, Iff.rfl, Iff.rfl, Iff.rfl, ?_⟩
  intro otherReading otherId current previous larger also same ordered
  obtain ⟨otherPercentage, otherDirection⟩ := outputs_of_answer also (same ▸ positive)
  have monotone := @hundredths_monotone response.toComparisonRaw larger.toComparisonRaw
    positive same ordered
  rw [otherPercentage, otherDirection]
  refine ⟨?_, rank_monotone monotone⟩
  intro change known next also
  cases known
  cases also
  exact div_le_div_of_nonneg_right (Int.cast_le.mpr monotone) (by norm_num)

end Answers

/-! ### One part in a hundred thousand -/

def slightRise : ComparisonRaw := ⟨"2026-05", "2026-04", 100001, 100000⟩

theorem slight_rise_neutral : ∃ response,
    getConsumptionComparison (fun _ _ _ => .ok slightRise) "C-1" "2026-05" "2026-04" =
      .ok response ∧
    response.previousVolume < response.currentVolume ∧ response.direction = .neutral :=
  ⟨⟨slightRise, some 0, .neutral⟩, by decide +kernel, by decide +kernel, rfl⟩

theorem comparison_follows_rounding_rise : ∃ response,
    getConsumptionComparison (fun _ _ _ => .ok ⟨"2026-05", "2026-04", 22, 18⟩) "C-1" "2026-05"
      "2026-04" = .ok response ∧ (response.direction = .up ↔
        1 / 200 ≤ exactChange response.toComparisonRaw) :=
  ⟨⟨⟨"2026-05", "2026-04", 22, 18⟩, some (2222 / 100), .up⟩, by decide +kernel,
    (@comparison_follows_rounding (fun _ _ _ => .ok ⟨"2026-05", "2026-04", 22, 18⟩) "C-1"
      "2026-05" "2026-04" _ (by decide +kernel) (by decide +kernel)).2.1⟩

end UsageService

end SelfService
