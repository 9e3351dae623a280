import ReputationKey.Base.NearestDouble
import ReputationKey.Base.RecurringWindow
import ReputationKey.Base.Zone
import Mathlib.Algebra.Order.Group.Int

/-!
# Quiet hours

When a notification may be sent: not in the recipient's quiet hours, which are kept in local time.
The first minute after them is searched in real time, since a change of the clocks stretches or
shrinks what is left of them. Follows
`src/src/contexts/feed/domain/notification-delivery-policy.ts`.
-/

namespace ReputationKey.Feed

open Base

/-! ## Minutes of the day -/

def minuteMs : ℤ := 60000

/-- The number that a digit stands for. -/
def digit (c : Char) : ℤ := c.toNat - 48

/-- The times of day that `minuteOfDay` matches: two digits of an hour, a colon, two of a minute. -/
def isTimeOfDay (a b c d : Char) : Bool :=
  (((a == '0' || a == '1') && b.isDigit) || (a == '2' && '0' ≤ b && b ≤ '3')) &&
    ('0' ≤ c && c ≤ '5') && d.isDigit

def minuteOfDay (value : String) : Except RangeError ℤ :=
  match value.toList with
  | [a, b, ':', c, d] =>
      if isTimeOfDay a b c d then
        let hour := 10 * digit a + digit b
        let minute := 10 * digit c + digit d
        .ok (hour * 60 + minute)
      else .error ⟨"Invalid quiet-hours time: " ++ value⟩
  | _ => .error ⟨"Invalid quiet-hours time: " ++ value⟩

/-- The minute of the day that `Intl` prints of an instant. -/
def localMinute (zone : Zone) (instant : ℤ) : ℤ :=
  let hour := zone.localAt instant / 3600000 % 24
  let minute := zone.localAt instant / 60000 % 60
  hour * 60 + minute

def isQuietMinute (minute start stop : ℤ) : Bool :=
  if start = stop then false
  else if start < stop then decide (minute ≥ start ∧ minute < stop)
  else decide (minute ≥ start ∨ minute < stop)

def quietMinutesRemaining (minute start stop : ℤ) : ℤ :=
  if start < stop then stop - minute
  else if minute < stop then stop - minute
  else 1440 - minute + stop

/-! ## The search -/

def maxDstShiftMinutes : ℤ := 120

def searchHorizonMinutes : ℤ := 50 * 60

/-- A jump goes ahead. -/
theorem jump_pos (remaining : ℤ) : 0 < max (remaining - maxDstShiftMinutes) 1 * minuteMs :=
  Int.mul_pos (lt_max_of_lt_right Int.zero_lt_one) (by decide)

section Search

variable (zone : Zone) (start stop : ℤ)

/-- Whether the clock advances by exactly what is left of the quiet hours. -/
def clockAdvancesBy (candidate remaining : ℤ) : Bool :=
  (localMinute zone (candidate + remaining * minuteMs) - localMinute zone candidate + 1440).tmod 1440 =
    remaining

/-- The search from a candidate on. -/
def firstNonQuietFrom (horizon candidate : ℤ) : ℤ :=
  if candidate < horizon then
    let minute := localMinute zone candidate
    if !isQuietMinute minute start stop then candidate
    else
      let remaining := quietMinutesRemaining minute start stop
      if clockAdvancesBy zone candidate remaining then candidate + remaining * minuteMs
      else firstNonQuietFrom horizon (candidate + max (remaining - maxDstShiftMinutes) 1 * minuteMs)
  else horizon
termination_by (horizon - candidate).toNat
decreasing_by
  have hadvance := jump_pos (quietMinutesRemaining (localMinute zone candidate) start stop)
  omega

def firstNonQuietMinute (now : ℤ) : ℤ :=
  let first := now / minuteMs * minuteMs
  let horizon := first + searchHorizonMinutes * minuteMs
  firstNonQuietFrom zone start stop horizon (first + minuteMs)

end Search

/-- What to do with a notification. -/
inductive DeliveryTiming
  | send
  | defer (release : ℤ)
  deriving DecidableEq, Repr

structure DeliveryTimingInput where
  now : ℤ
  timezone : Zone
  quietHoursStart : Option String
  quietHoursEnd : Option String
  urgent : Bool
  urgentBypassEnabled : Bool

def deliveryTiming (input : DeliveryTimingInput) : Except RangeError DeliveryTiming :=
  if input.urgent && input.urgentBypassEnabled then .ok .send
  else
    match input.quietHoursStart, input.quietHoursEnd with
    | some quietHoursStart, some quietHoursEnd => do
        let start ← minuteOfDay quietHoursStart
        let stop ← minuteOfDay quietHoursEnd
        if !isQuietMinute (localMinute input.timezone input.now) start stop then return .send
        else return .defer (firstNonQuietMinute input.timezone start stop input.now)
    | _, _ => .ok .send

end ReputationKey.Feed
