/-
Numbers that need not be finite.
-/

import Mathlib.Data.Rat.Defs

namespace SelfService

inductive JsNumber : Type
  | nan
  | negInfinity
  | finite (value : Rat)
  | infinity
  deriving DecidableEq

namespace JsNumber

def integer? : JsNumber → Option Int
  | .finite value => if value.den = 1 then some value.num else none
  | _ => none

/-- `number <= limit` for an integer. -/
def bounds (limit : JsNumber) (number : Int) : Bool :=
  match limit with
  | .nan | .negInfinity => false
  | .finite value => (number : Rat) ≤ value
  | .infinity => true

/-- `number >= limit` for an integer. -/
def boundedBy (limit : JsNumber) (number : Int) : Bool :=
  match limit with
  | .nan | .infinity => false
  | .finite value => value ≤ (number : Rat)
  | .negInfinity => true

/-! ### Arithmetic -/

def sign : JsNumber → Int
  | .nan => 0
  | .negInfinity => -1
  | .finite value => if value = 0 then 0 else if 0 < value then 1 else -1
  | .infinity => 1

def add : JsNumber → JsNumber → JsNumber
  | .nan, _ | _, .nan | .infinity, .negInfinity | .negInfinity, .infinity => .nan
  | .infinity, _ | _, .infinity => .infinity
  | .negInfinity, _ | _, .negInfinity => .negInfinity
  | .finite left, .finite right => .finite (left + right)

/-- Infinity times zero is no number. -/
def mul : JsNumber → JsNumber → JsNumber
  | .nan, _ | _, .nan => .nan
  | .finite left, .finite right => .finite (left * right)
  | left, right =>
      match left.sign * right.sign with
      | 0 => .nan
      | .ofNat _ => .infinity
      | .negSucc _ => .negInfinity

def atLeast (least : Rat) : JsNumber → JsNumber
  | .nan => .nan
  | .negInfinity => .finite least
  | .finite value => .finite (if least ≤ value then value else least)
  | .infinity => .infinity

/-- `Math.ceil(count / number)` for numbers other than zero. -/
def ceilOfDivided (count : Nat) : JsNumber → JsNumber
  | .nan => .nan
  | .negInfinity | .infinity => .finite 0
  | .finite value => .finite ((count : Rat) / value).ceil

/-- Where `slice` begins or ends in an array of this length. -/
def sliceIndex (length : Nat) : JsNumber → Nat
  | .nan | .negInfinity => 0
  | .finite value =>
      let index := if 0 ≤ value then value.floor else value.ceil
      if 0 ≤ index then min index.toNat length else (length + index).toNat
  | .infinity => length

end JsNumber

def sliceOf {α : Type} (start stop : JsNumber) (items : List α) : List α :=
  (items.take (stop.sliceIndex items.length)).drop (start.sliceIndex items.length)

end SelfService
