import ReputationKey.Shared.PeriodRange

/-!
# Calendar periods tile time

Results of the monthly goal are keyed by calendar ranges. Inside the dates of the language, the
ranges of a timezone meet end to start, each is the range of its own start, and a monthly period is
taken as complete when it is such a range. Follows `isCompleteMonthlyPeriod` of
`src/src/contexts/reporting/domain/goal-program.ts`.
-/

namespace ReputationKey.Reporting

open Base Shared

variable (intl : String → Zone)

/-- One time value comes no later than another, as `<=` compares dates. -/
def noLater : TimeValue → TimeValue → Bool
  | some t, some s => decide (t ≤ s)
  | _, _ => false

/-- A period is a whole month of the timezone's calendar. -/
def isCompleteMonthlyPeriod (start stop : TimeValue) (timezone : String) : Except RangeError Bool :=
  if noLater stop start then .ok false
  else
    (calendarPeriodRange intl start timezone .monthly).map fun expected ↦
      start == some expected.start && stop == some expected.stop

variable {intl : String → Zone} {timezone : String}

/-- A complete month is the range of its start. -/
theorem produced_of_isCompleteMonthlyPeriod {start stop : TimeValue}
    (h : isCompleteMonthlyPeriod intl start stop timezone = .ok true) :
    ∃ now period, calendarPeriodRange intl (some now) timezone .monthly = .ok period ∧
      start = some period.start ∧ stop = some period.stop := by
  rw [isCompleteMonthlyPeriod] at h
  split_ifs at h
  · cases h
  · cases hrange : calendarPeriodRange intl start timezone .monthly with
    | error refused =>
        rw [hrange] at h
        cases h
    | ok period =>
        rw [hrange] at h
        simp only [Except.map, Except.ok.injEq, Bool.and_eq_true, beq_iff_eq] at h
        obtain ⟨hstart, hstop⟩ := h
        rw [hstart] at hrange
        exact ⟨period.start, period, hrange, hstart, hstop⟩

/-- The range of its start that ends later is a complete month. -/
theorem isCompleteMonthlyPeriod_of_range {period : CalendarPeriod} (lt : period.start < period.stop)
    (h : calendarPeriodRange intl (some period.start) timezone .monthly = .ok period) :
    isCompleteMonthlyPeriod intl (some period.start) (some period.stop) timezone = .ok true := by
  have hlater : noLater (some period.stop) (some period.start) = false := by
    rw [noLater, decide_eq_false_iff_not]
    omega
  rw [isCompleteMonthlyPeriod, hlater, h]
  simp [Except.map]

/-- In a timezone of steady offsets whose periods start at local times that exist, and inside the
dates of the language: a period's range ends after each of its instants, and starts no later unless
its midnight is still to come once more; it is the range of its start; the range of its end starts
there; and the monthly ranges are the periods taken as complete. -/
theorem calendar_periods_tile_time (steady : Steady (intl timezone))
    (midnights : MidnightsExist (intl timezone)) :
    (∀ kind now day, periodDay (intl timezone) kind now = day → InsideDates (midnight day) →
      InsideDates (midnight (nextFirstDay kind day)) →
      ∃ period, calendarPeriodRange intl (some now) timezone kind = .ok period ∧
        ((∀ t, now < t → (intl timezone).localAt t ≠ midnight day) → period.start ≤ now) ∧
        now < period.stop ∧
        calendarPeriodRange intl (some period.start) timezone kind = .ok period ∧
        (InsideDates (midnight (nextFirstDay kind (nextFirstDay kind day))) →
          ∃ next, calendarPeriodRange intl (some period.stop) timezone kind = .ok next ∧
            next.start = period.stop) ∧
        (kind = .monthly →
          isCompleteMonthlyPeriod intl (some period.start) (some period.stop) timezone = .ok true)) ∧
    (∀ start stop, isCompleteMonthlyPeriod intl start stop timezone = .ok true →
      ∃ now period, calendarPeriodRange intl (some now) timezone .monthly = .ok period ∧
        start = some period.start ∧ stop = some period.stop) := by
  refine ⟨?_, fun start stop ↦ produced_of_isCompleteMonthlyPeriod⟩
  intro kind now day hday low high
  have hfirst : IsFirstDay kind day := by
    rw [← hday]
    exact isFirstDay_firstDayOf kind _
  obtain ⟨period, hrange, hspans⟩ := calendarPeriodRange_spec steady midnights hday low high
  have hown : calendarPeriodRange intl (some period.start) timezone kind = .ok period := by
    obtain ⟨other, hother, hspans'⟩ := calendarPeriodRange_spec steady midnights
      (periodDay_of_shown hfirst hspans.start.1) low high
    rw [hother, hspans.unique hspans']
  refine ⟨period, hrange, hspans.start_le, hspans.lt_stop steady hday, hown, ?_, ?_⟩
  · intro higher
    obtain ⟨next, hnext, hspans'⟩ := calendarPeriodRange_spec steady midnights
      (periodDay_of_shown (isFirstDay_nextFirstDay hfirst) hspans.stop.1) high higher
    exact ⟨next, hnext, hspans'.start.unique hspans.stop⟩
  · rintro rfl
    exact isCompleteMonthlyPeriod_of_range (hspans.start_lt_stop steady hfirst) hown

/-! ## A morning that comes twice -/

/-- A zone whose clocks go back an hour at one instant. -/
def fallBack (change : ℤ) : Zone := ⟨fun t ↦ if t < change then -14400000 else -18000000⟩

theorem fallBack_steady (change : ℤ) : Steady (fallBack change) where
  seconds := by
    intro t
    simp only [fallBack]
    split_ifs
    · exact ⟨-14400, rfl⟩
    · exact ⟨-18000, rfl⟩
  offsets := by
    intro t
    simp only [fallBack, hourMillis]
    split_ifs <;> omega
  once := by
    intro t
    refine ⟨change, ?_⟩
    intro s hfrom hto
    simp only [fallBack]
    constructor
    · intro hbefore
      rw [if_pos hbefore, if_pos (by omega)]
    · intro hafter
      rw [if_neg (by omega), if_neg (by omega)]

theorem fallBack_midnights (change : ℤ) : MidnightsExist (fallBack change) := by
  intro kind day hfirst
  by_cases hbefore : midnight day + 14400000 < change
  · refine ⟨midnight day + 14400000, ?_⟩
    simp only [Zone.localAt, fallBack, if_pos hbefore]
    omega
  · refine ⟨midnight day + 18000000, ?_⟩
    simp only [Zone.localAt, fallBack, if_neg (show ¬ midnight day + 18000000 < change by omega)]
    omega

/-- Half past midnight, first pass, on 2026-11-01 in Havana: the week holds the instant. -/
theorem calendar_periods_tile_time_weekly :
    ∃ period, calendarPeriodRange (fun _ ↦ fallBack 1793509200000) (some 1793507400000)
        "America/Havana" .weekly = .ok period ∧
      period.start ≤ 1793507400000 ∧ 1793507400000 < period.stop := by
  obtain ⟨period, hrange, hstart, hstop, -⟩ := (@calendar_periods_tile_time
    (fun _ ↦ fallBack 1793509200000) "America/Havana" (fallBack_steady _) (fallBack_midnights _)).1
    .weekly 1793507400000 20752 (by decide) ⟨by decide, by decide⟩ ⟨by decide, by decide⟩
  refine ⟨period, hrange, hstart ?_, hstop⟩
  intro t hafter hshown
  simp only [Zone.localAt, fallBack, midnight] at hshown
  split_ifs at hshown <;> omega

/-- The month's midnight is still to come at that instant, so its range starts later; and a year of
two digits is taken for one of the last century. -/
theorem calendar_periods_leave_instants :
    (∃ period, calendarPeriodRange (fun _ ↦ fallBack 1793509200000) (some 1793507400000)
        "America/Havana" .monthly = .ok period ∧ 1793507400000 < period.start) ∧
    calendarPeriodRange (fun _ ↦ ⟨fun _ ↦ 0⟩) (some (-60575040000000)) "UTC" .monthly =
      .ok ⟨-618105600000, -615513600000⟩ := by
  constructor
  · obtain ⟨period, hrange, hspans⟩ := @calendarPeriodRange_spec (fun _ ↦ fallBack 1793509200000)
      "America/Havana" (fallBack_steady _) (fallBack_midnights _) .monthly 1793507400000 20758
      (by decide) ⟨by decide, by decide⟩ ⟨by decide, by decide⟩
    have hlast := hspans.start.2 (show (fallBack 1793509200000).localAt 1793509200000 = _ by decide)
    exact ⟨period, hrange, by omega⟩
  · have hlocal : wallClockAt (fun _ ↦ ⟨fun _ ↦ 0⟩) (some (-60575040000000)) "UTC" =
        .ok ⟨50, 6, 15, 0, 0, 0, 0⟩ := by
      decide
    have hstart : boundaryInstant (fun _ ↦ ⟨fun _ ↦ 0⟩) (some (-618105600000)) "UTC" =
        .ok (-618105600000) := by
      have hsampled : sampledInstants (wallClockAt fun _ ↦ ⟨fun _ ↦ 0⟩) (boundary (-618105600000))
          "UTC" = .ok [-618105600000] := by
        decide +kernel
      simp [boundaryInstant, wallClockToInstant, hsampled, bind, Except.bind, pure, Except.pure]
    have hstop : boundaryInstant (fun _ ↦ ⟨fun _ ↦ 0⟩) (some (-615513600000)) "UTC" =
        .ok (-615513600000) := by
      have hsampled : sampledInstants (wallClockAt fun _ ↦ ⟨fun _ ↦ 0⟩) (boundary (-615513600000))
          "UTC" = .ok [-615513600000] := by
        decide +kernel
      simp [boundaryInstant, wallClockToInstant, hsampled, bind, Except.bind, pure, Except.pure]
    have hfirst : startDateOf .monthly (dateUTC ⟨50, 6, 15, 0, 0, 0, 0⟩) = some (-618105600000) := by
      decide
    have hlast : endDateOf .monthly (some (-618105600000)) = some (-615513600000) := by
      decide
    simp only [calendarPeriodRange, hlocal, hfirst, hlast, hstart, hstop, bind, Except.bind, pure,
      Except.pure]

end ReputationKey.Reporting
