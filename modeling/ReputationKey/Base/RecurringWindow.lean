import Mathlib.Data.Int.Basic
import Mathlib.Tactic.Ring

/-!
# Windows that recur

A window of every period of a running count, such as the same hours of every day: it opens at one
place of the period and stays open for less than the period. A count inside belongs to one window,
from its opening to its closing.
-/

namespace ReputationKey.Base

/-- A window of each period: it opens at `start` and is open for `length`. -/
structure RecurringWindow where
  period : ℤ
  start : ℤ
  length : ℤ
  length_pos : 0 < length
  length_lt : length < period

namespace RecurringWindow

variable (w : RecurringWindow)

/-- How long ago a window last opened. -/
def since (x : ℤ) : ℤ := (x - w.start) % w.period

/-- Whether a count falls inside a window. -/
def Inside (x : ℤ) : Prop := w.since x < w.length

instance (x : ℤ) : Decidable (w.Inside x) := inferInstanceAs (Decidable (w.since x < w.length))

/-- Where the last window opened. -/
def opening (x : ℤ) : ℤ := x - w.since x

/-- Where the last window that opened closes. -/
def closing (x : ℤ) : ℤ := w.opening x + w.length

variable {w}

theorem period_pos : 0 < w.period := w.length_pos.trans w.length_lt

theorem since_nonneg (x : ℤ) : 0 ≤ w.since x := Int.emod_nonneg _ w.period_pos.ne'

theorem opening_le (x : ℤ) : w.opening x ≤ x := by
  have hnonneg := w.since_nonneg x
  rw [opening]
  omega

theorem Inside.lt_closing {x : ℤ} (h : w.Inside x) : x < w.closing x := by
  rw [Inside] at h
  rw [closing, opening]
  omega

/-- Counts less than a period after an opening share it. -/
theorem since_of_opening_le {x y : ℤ} (h : w.opening x ≤ y) (lt : y < w.opening x + w.period) :
    w.since y = y - w.opening x := by
  have hsplit : w.since x + w.period * ((x - w.start) / w.period) = x - w.start :=
    Int.emod_add_mul_ediv _ _
  have hy : y - w.start = y - w.opening x + w.period * ((x - w.start) / w.period) := by
    calc y - w.start = y - x + (x - w.start) := by ring
      _ = y - x + (w.since x + w.period * ((x - w.start) / w.period)) := by rw [hsplit]
      _ = y - w.opening x + w.period * ((x - w.start) / w.period) := by rw [opening]; ring
  rw [since, hy, Int.add_mul_emod_self_left]
  exact Int.emod_eq_of_lt (by omega) (by omega)

/-- From its opening to its closing a window is open. -/
theorem inside_of_lt_closing {x y : ℤ} (h : w.opening x ≤ y) (lt : y < w.closing x) : w.Inside y := by
  have hlength := w.length_lt
  rw [closing] at lt
  rw [Inside, since_of_opening_le h (by omega)]
  omega

/-- At its closing a window is closed. -/
theorem not_inside_closing (x : ℤ) : ¬ w.Inside (w.closing x) := by
  have hpos := w.length_pos
  have hlength := w.length_lt
  have hsince : w.since (w.closing x) = w.closing x - w.opening x := by
    apply since_of_opening_le <;> rw [closing] <;> omega
  rw [Inside, hsince, closing]
  omega

/-- A count and another congruent to it are inside alike. -/
theorem inside_congr {x y : ℤ} (h : x % w.period = y % w.period) : w.Inside x ↔ w.Inside y := by
  rw [Inside, Inside, since, since, Int.sub_emod, h, ← Int.sub_emod]

/-- A count one window shares with an earlier one closes with it. -/
theorem closing_eq {x y : ℤ} (h : w.opening x ≤ y) (lt : y < w.closing x) :
    w.closing y = w.closing x := by
  have hlength := w.length_lt
  rw [closing] at lt
  rw [closing, opening, since_of_opening_le h (by omega), closing]
  ring

end RecurringWindow

end ReputationKey.Base
