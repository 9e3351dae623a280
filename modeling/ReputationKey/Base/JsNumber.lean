import Mathlib.Data.Rat.Defs

/-!
# Numbers as JavaScript compares them

A `number` of the source where nothing but its order matters: a finite value, an infinity or NaN,
which is neither less than, greater than nor equal to anything.
-/

namespace ReputationKey.Base

/-- A JavaScript number up to its comparisons. -/
inductive JsNumber
  | nan
  | negInfinity
  | finite (value : ℚ)
  | infinity
  deriving DecidableEq, Repr

namespace JsNumber

/-- The comparison `a < b`. -/
def lt : JsNumber → JsNumber → Bool
  | .finite a, .finite b => decide (a < b)
  | .negInfinity, .finite _ | .negInfinity, .infinity | .finite _, .infinity => true
  | _, _ => false

/-- The comparison `a === b`. -/
def strictEq (a b : JsNumber) : Bool := a != .nan && a == b

/-- Whether a number is neither NaN nor an infinity. -/
def isFinite : JsNumber → Bool
  | .finite _ => true
  | _ => false

/-- `Number.isInteger`. -/
def isInteger : JsNumber → Bool
  | .finite value => value.den == 1
  | _ => false

/-- A finite number between two others, as `a >= low && a <= high` on finite bounds. -/
def isWithin (low high : ℚ) : JsNumber → Bool
  | .finite a => decide (low ≤ a) && decide (a ≤ high)
  | _ => false

/-- The largest safe integer. -/
def maxSafeInteger : ℚ := 9007199254740991

/-- `Number.isSafeInteger`. -/
def isSafeInteger (a : JsNumber) : Bool := a.isInteger && a.isWithin (-maxSafeInteger) maxSafeInteger

/-- The comparison `a >= low` on a finite bound. -/
def isAtLeast (low : ℚ) : JsNumber → Bool
  | .finite a => decide (low ≤ a)
  | .infinity => true
  | _ => false

theorem isFinite_of_isInteger {a : JsNumber} (h : a.isInteger = true) : a.isFinite = true := by
  cases a with
  | finite value => rfl
  | nan | negInfinity | infinity => cases h

/-- A number that fails no range test is inside the range, or is not a number at all. -/
theorem eq_nan_or_isWithin {a : JsNumber} {low high : ℚ} (notBelow : a.lt (.finite low) = false)
    (notAbove : (JsNumber.finite high).lt a = false) : a = .nan ∨ a.isWithin low high := by
  cases a with
  | nan => exact Or.inl rfl
  | negInfinity => cases notBelow
  | infinity => cases notAbove
  | finite value =>
      right
      simp only [lt, decide_eq_false_iff_not] at notBelow notAbove
      simp [isWithin, Rat.not_lt.1 notBelow, Rat.not_lt.1 notAbove]

end JsNumber

end ReputationKey.Base
