import ReputationKey.Shared.WallClockSampling

/-!
# Property calendar: wall clocks and instants

Business time of a Property is a wall clock in its timezone. `Intl` tells the wall clock of an
instant, and a wall clock is resolved to an instant by sampling the offsets around it. A repeated
wall clock is its earlier occurrence, a skipped one the first minute after it that exists. Follows
`src/src/shared/domain/property-calendar.ts`.
-/

namespace ReputationKey.Shared

open Base

/-- The refusal of a date that is no instant. -/
def invalidCalendarInstant : RangeError := ⟨"Invalid calendar instant"⟩

/-! ## Wall clocks -/

-- What `Intl` knows of each timezone.
variable (intl : String → Zone)

/-- The wall clock of an instant. -/
def propertyWallClockAt (date : TimeValue) (timezone : String) : Except RangeError WallClock :=
  match date with
  | none => .error invalidCalendarInstant
  | some t => .ok (printed (.ofEpoch ((intl timezone).localAt t)))

/-- The instants whose wall clock is the target, the earliest first. -/
def exactInstantsForWallClock (target : WallClock) (timezone : String) :
    Except RangeError (List ℤ) :=
  (sampledInstants (propertyWallClockAt intl) target timezone).map fun instants ↦
    instants.mergeSort fun left right ↦ decide (left ≤ right)

/-- The first of some later minutes whose wall clock exists. -/
def firstAdvanced (localEpoch : TimeValue) (timezone : String) : List ℕ → Except RangeError ℤ
  | [] => .error ⟨"Unable to resolve wall clock in timezone " ++ timezone⟩
  | minute :: rest =>
      match localEpoch.bind fun epoch ↦ timeClip (epoch + minute * 60000) with
      | none => .error invalidCalendarInstant
      | some shifted => do
          match ← exactInstantsForWallClock intl (.ofEpoch shifted) timezone with
          | first :: _ => return first
          | [] => firstAdvanced localEpoch timezone rest

/-- The instant of a wall clock: its earlier occurrence, or the first later minute that exists. -/
def propertyWallClockToInstant (target : WallClock) (timezone : String) : Except RangeError ℤ := do
  match ← exactInstantsForWallClock intl target timezone with
  | first :: _ => return first
  | [] => firstAdvanced intl (dateUTC target) timezone (List.range' 1 180)

/-- The instant so many calendar days from another. -/
def shiftPropertyLocalDays (date : TimeValue) (days : JsNumber) (timezone : String) :
    Except RangeError ℤ :=
  match days.toBigInt with
  | .error _ => .error ⟨"Calendar days must be an integer"⟩
  | .ok days => do
      let current ← propertyWallClockAt intl date timezone
      match dateUTC { current with day := current.day + days } with
      | none => .error invalidCalendarInstant
      | some shifted => propertyWallClockToInstant intl (.ofEpoch shifted) timezone

end ReputationKey.Shared
