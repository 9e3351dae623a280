import ReputationKey.Base.Refusal
import ReputationKey.Shared.WallClockSampling

/-!
# Calendar periods

The week, month or quarter an instant lies in, on the calendar of a timezone. Its dates are counted
from the local date; its ends are the local midnights of its first date and of the next period's,
resolved to instants. A repeated midnight is its later occurrence, a skipped one is refused. Follows
`src/src/shared/domain/period-range.ts`.
-/

namespace ReputationKey.Shared

open Base Civil

inductive CalendarPeriodKind
  | weekly
  | monthly
  | quarterly
  deriving DecidableEq, Repr

/-- A half-open period. -/
structure CalendarPeriod where
  start : ℤ
  stop : ℤ
  deriving DecidableEq, Repr

/-! ## Date arithmetic -/

/-- `setUTCDate`. -/
def setUTCDate (date : TimeValue) (day : ℤ) : TimeValue :=
  date.bind fun t ↦
    timeClip (makeDay (yearOfDay (t / 86400000)) (monthOfDay (t / 86400000)) day * 86400000 +
      t % 86400000)

/-- `setUTCMonth`. -/
def setUTCMonth (date : TimeValue) (month : ℤ) : TimeValue :=
  date.bind fun t ↦
    timeClip (makeDay (yearOfDay (t / 86400000)) month (dateOfDay (t / 86400000)) * 86400000 +
      t % 86400000)

/-- The first date of the period of a date. -/
def startDateOf (kind : CalendarPeriodKind) (date : TimeValue) : TimeValue :=
  match kind with
  | .weekly =>
      date.bind fun t ↦
        let day := weekday (t / 86400000)
        setUTCDate date (dateOfDay (t / 86400000) + if day = 0 then -6 else 1 - day)
  | .monthly => setUTCDate date 1
  | .quarterly =>
      (setUTCDate date 1).bind fun t ↦ setUTCMonth (some t) (monthOfDay (t / 86400000) / 3 * 3)

/-- The first date of the period after the one that starts with a date. -/
def endDateOf (kind : CalendarPeriodKind) (startDate : TimeValue) : TimeValue :=
  startDate.bind fun t ↦
    match kind with
    | .weekly => setUTCDate (some t) (dateOfDay (t / 86400000) + 7)
    | .monthly => setUTCMonth (some t) (monthOfDay (t / 86400000) + 1)
    | .quarterly => setUTCMonth (some t) (monthOfDay (t / 86400000) + 3)

/-- The local midnight of a date. -/
def boundary (t : ℤ) : WallClock :=
  { WallClock.ofEpoch t with hour := 0, minute := 0, second := 0, millisecond := 0 }

/-! ## Periods -/

-- What `Intl` knows of each timezone.
variable (intl : String → Zone)

/-- The refusal of a date that is no instant. -/
def invalidTimeValue : RangeError := ⟨"Invalid time value"⟩

/-- The wall clock of an instant, to the second. -/
def wallClockAt (date : TimeValue) (timezone : String) : Except RangeError WallClock :=
  match date with
  | none => .error invalidTimeValue
  | some t =>
      let shown := (intl timezone).localAt t
      .ok (printed (.ofEpoch (shown - shown % 1000)))

/-- The instant of a wall clock: its later occurrence. -/
def wallClockToInstant (target : WallClock) (timezone : String) : Except RangeError ℤ := do
  let instants ← sampledInstants (wallClockAt intl) target timezone
  match instants.mergeSort fun left right ↦ decide (right ≤ left) with
  | last :: _ => return last
  | [] => .error ⟨"Unresolvable calendar boundary in timezone " ++ timezone⟩

/-- The instant of the local midnight of a date. -/
def boundaryInstant (date : TimeValue) (timezone : String) : Except RangeError ℤ :=
  match date with
  | none => .error invalidTimeValue
  | some t => wallClockToInstant intl (boundary t) timezone

/-- The half-open calendar period of an instant in a timezone. -/
def calendarPeriodRange (now : TimeValue) (timezone : String) (kind : CalendarPeriodKind) :
    Except RangeError CalendarPeriod := do
  let shown ← wallClockAt intl now timezone
  let startDate := startDateOf kind (dateUTC ⟨shown.year, shown.month, shown.day, 0, 0, 0, 0⟩)
  let start ← boundaryInstant intl startDate timezone
  let stop ← boundaryInstant intl (endDateOf kind startDate) timezone
  return ⟨start, stop⟩

/-! ## The days a period starts with -/

/-- The first day of the period of a day. -/
def firstDayOf (kind : CalendarPeriodKind) (day : ℤ) : ℤ :=
  match kind with
  | .weekly => day - (weekday day + 6) % 7
  | .monthly => makeDay (yearOfDay day) (monthOfDay day) 1
  | .quarterly => makeDay (yearOfDay day) (monthOfDay day / 3 * 3) 1

/-- The first day of the period after the one that starts with a day. -/
def nextFirstDay (kind : CalendarPeriodKind) (day : ℤ) : ℤ :=
  match kind with
  | .weekly => day + 7
  | .monthly => makeDay (yearOfDay day) (monthOfDay day + 1) 1
  | .quarterly => makeDay (yearOfDay day) (monthOfDay day + 3) 1

/-- A day lies in its period. -/
theorem firstDayOf_spec (kind : CalendarPeriodKind) (day : ℤ) :
    firstDayOf kind day ≤ day ∧ day < nextFirstDay kind (firstDayOf kind day) := by
  obtain ⟨hlow, hhigh, hdate, -⟩ := monthOfDay_spec day
  have hfirst := first_of_month day
  have hnext := lt_next_month day
  cases kind with
  | weekly =>
      simp only [firstDayOf, nextFirstDay, weekday]
      omega
  | monthly =>
      obtain ⟨hyear, hmonth, -⟩ := ofDay_first (yearOfDay day) (monthOfDay day)
      have hdiv : monthOfDay day / 12 = 0 := by omega
      have hmod : monthOfDay day % 12 = monthOfDay day := by omega
      simp only [firstDayOf, nextFirstDay, hyear, hmonth, hdiv, hmod, add_zero]
      omega
  | quarterly =>
      obtain ⟨hyear, hmonth, -⟩ := ofDay_first (yearOfDay day) (monthOfDay day / 3 * 3)
      have hdiv : monthOfDay day / 3 * 3 / 12 = 0 := by omega
      have hmod : monthOfDay day / 3 * 3 % 12 = monthOfDay day / 3 * 3 := by omega
      have hbefore := @makeDay_mono (yearOfDay day) (monthOfDay day / 3 * 3) (monthOfDay day)
        (by omega)
      have hafter := @makeDay_mono (yearOfDay day) (monthOfDay day + 1)
        (monthOfDay day / 3 * 3 + 3) (by omega)
      simp only [firstDayOf, nextFirstDay, hyear, hmonth, hdiv, hmod, add_zero]
      omega

/-- The first day of a period. -/
def IsFirstDay (kind : CalendarPeriodKind) (day : ℤ) : Prop := firstDayOf kind day = day

/-- A first day of the months or quarters is the first of a month. -/
theorem firstDayOf_first (kind : CalendarPeriodKind) (hkind : kind ≠ .weekly) (day : ℤ) :
    ∃ year month, firstDayOf kind day = makeDay year month 1 ∧ (kind = .quarterly → month % 3 = 0) := by
  cases kind with
  | weekly => exact absurd rfl hkind
  | monthly => exact ⟨_, _, rfl, by simp⟩
  | quarterly => exact ⟨_, _, rfl, fun _ ↦ by omega⟩

theorem isFirstDay_of_first {kind : CalendarPeriodKind} (hkind : kind ≠ .weekly) (year : ℤ) {month : ℤ}
    (quarter : kind = .quarterly → month % 3 = 0) : IsFirstDay kind (makeDay year month 1) := by
  obtain ⟨hyear, hmonth, -⟩ := ofDay_first year month
  cases kind with
  | weekly => exact absurd rfl hkind
  | monthly => rw [IsFirstDay, firstDayOf, hyear, hmonth, ← makeDay_carry]
  | quarterly =>
      have hthird : month % 12 / 3 * 3 = month % 12 := by
        have := quarter rfl
        omega
      rw [IsFirstDay, firstDayOf, hyear, hmonth, hthird, ← makeDay_carry]

/-- The first day of a period is a first day. -/
theorem isFirstDay_firstDayOf (kind : CalendarPeriodKind) (day : ℤ) :
    IsFirstDay kind (firstDayOf kind day) := by
  by_cases hkind : kind = .weekly
  · subst hkind
    simp only [IsFirstDay, firstDayOf, weekday]
    omega
  · obtain ⟨year, month, hfirst, hquarter⟩ := firstDayOf_first kind hkind day
    rw [hfirst]
    exact isFirstDay_of_first hkind year hquarter

/-- The period after one starts with a first day. -/
theorem isFirstDay_nextFirstDay {kind : CalendarPeriodKind} {day : ℤ} (h : IsFirstDay kind day) :
    IsFirstDay kind (nextFirstDay kind day) := by
  by_cases hkind : kind = .weekly
  · subst hkind
    simp only [IsFirstDay, firstDayOf, nextFirstDay, weekday] at *
    omega
  · obtain ⟨year, month, hfirst, hquarter⟩ := firstDayOf_first kind hkind day
    rw [h] at hfirst
    obtain ⟨hyear, hmonth, -⟩ := ofDay_first year month
    rw [hfirst]
    cases kind with
    | weekly => exact absurd rfl hkind
    | monthly => exact isFirstDay_of_first hkind _ (by simp)
    | quarterly =>
        refine isFirstDay_of_first hkind _ fun _ ↦ ?_
        have := hquarter rfl
        rw [hmonth]
        omega

/-! ## The dates a period is counted from -/

theorem setUTCDate_eq (day date : ℤ) : setUTCDate (some (day * 86400000)) date =
    timeClip (makeDay (yearOfDay day) (monthOfDay day) date * 86400000) := by
  have hdiv : day * 86400000 / 86400000 = day := by omega
  have hmod : day * 86400000 % 86400000 = 0 := by omega
  rw [setUTCDate, Option.bind_some, hdiv, hmod, add_zero]

theorem setUTCMonth_eq (day month : ℤ) : setUTCMonth (some (day * 86400000)) month =
    timeClip (makeDay (yearOfDay day) month (dateOfDay day) * 86400000) := by
  have hdiv : day * 86400000 / 86400000 = day := by omega
  have hmod : day * 86400000 % 86400000 = 0 := by omega
  rw [setUTCMonth, Option.bind_some, hdiv, hmod, add_zero]

/-- Inside the dates, the first date of a period is its first day. -/
theorem startDateOf_eq {kind : CalendarPeriodKind} {day : ℤ}
    (low : -maxTime ≤ firstDayOf kind day * 86400000) (high : day * 86400000 ≤ maxTime) :
    startDateOf kind (some (day * 86400000)) = some (firstDayOf kind day * 86400000) := by
  have hfirst := first_of_month day
  obtain ⟨hlow, hhigh, hdate, -⟩ := monthOfDay_spec day
  have hdiv : day * 86400000 / 86400000 = day := by omega
  cases kind with
  | weekly =>
      have hadd := makeDay_add (yearOfDay day) (monthOfDay day) (dateOfDay day)
        (if weekday day = 0 then -6 else 1 - weekday day)
      have hback : (if weekday day = 0 then -6 else 1 - weekday day) = -((weekday day + 6) % 7) := by
        simp only [weekday]
        split_ifs <;> omega
      rw [makeDay_ofDay, hback, ← sub_eq_add_neg] at hadd
      simp only [firstDayOf] at *
      rw [startDateOf, Option.bind_some, hdiv, setUTCDate_eq, hback, ← sub_eq_add_neg, hadd]
      apply timeClip_eq low
      omega
  | monthly =>
      simp only [firstDayOf] at *
      rw [startDateOf, setUTCDate_eq]
      apply timeClip_eq low
      omega
  | quarterly =>
      obtain ⟨hyear, hmonth, hone⟩ := ofDay_first (yearOfDay day) (monthOfDay day)
      have hyears : monthOfDay day / 12 = 0 := by omega
      have hmonths : monthOfDay day % 12 = monthOfDay day := by omega
      have hbefore := @makeDay_mono (yearOfDay day) (monthOfDay day / 3 * 3) (monthOfDay day)
        (by omega)
      have hmiddle : makeDay (yearOfDay day) (monthOfDay day) 1 * 86400000 / 86400000 =
          makeDay (yearOfDay day) (monthOfDay day) 1 := by omega
      simp only [firstDayOf] at *
      rw [startDateOf, setUTCDate_eq, timeClip_eq (by omega) (by omega), Option.bind_some, hmiddle,
        setUTCMonth_eq, hyear, hmonth, hone, hyears, hmonths, add_zero]
      apply timeClip_eq low
      omega

/-- Inside the dates, the end of a period is the first day of the next. -/
theorem endDateOf_eq {kind : CalendarPeriodKind} {day : ℤ} (h : IsFirstDay kind day)
    (low : -maxTime ≤ nextFirstDay kind day * 86400000)
    (high : nextFirstDay kind day * 86400000 ≤ maxTime) :
    endDateOf kind (some (day * 86400000)) = some (nextFirstDay kind day * 86400000) := by
  have hdiv : day * 86400000 / 86400000 = day := by omega
  rw [endDateOf, Option.bind_some, hdiv]
  cases kind with
  | weekly =>
      have hadd := makeDay_add (yearOfDay day) (monthOfDay day) (dateOfDay day) 7
      rw [makeDay_ofDay] at hadd
      simp only [nextFirstDay] at *
      rw [setUTCDate_eq, hadd]
      exact timeClip_eq low high
  | monthly =>
      obtain ⟨year, month, hfirst, -⟩ := firstDayOf_first .monthly (by decide) day
      have hone : dateOfDay day = 1 := by
        rw [← h, hfirst]
        exact (ofDay_first year month).2.2
      simp only [nextFirstDay] at *
      rw [setUTCMonth_eq, hone]
      exact timeClip_eq low high
  | quarterly =>
      obtain ⟨year, month, hfirst, -⟩ := firstDayOf_first .quarterly (by decide) day
      have hone : dateOfDay day = 1 := by
        rw [← h, hfirst]
        exact (ofDay_first year month).2.2
      simp only [nextFirstDay] at *
      rw [setUTCMonth_eq, hone]
      exact timeClip_eq low high

/-! ## The instants of a period's ends -/

/-- The local time a day starts at. -/
def midnight (day : ℤ) : ℤ := day * 86400000


/-- The local midnight of a day is its clock. -/
theorem boundary_eq (day : ℤ) : boundary (day * 86400000) = .ofEpoch (day * 86400000) := by
  have hhour : day * 86400000 % 86400000 / 3600000 = 0 := by omega
  have hminute : day * 86400000 % 3600000 / 60000 = 0 := by omega
  have hsecond : day * 86400000 % 60000 / 1000 = 0 := by omega
  have hmillisecond : day * 86400000 % 1000 = 0 := by omega
  simp only [boundary, WallClock.ofEpoch, hhour, hminute, hsecond, hmillisecond]

variable {intl : String → Zone} {timezone : String}

/-- The wall clock of an instant is what the zone's clocks show, to the second. -/
theorem wallClockAt_reads : ReadsLocal (wallClockAt intl) (intl timezone) timezone 1000 := by
  intro t hlow
  have hyear : 100 ≤
      (WallClock.ofEpoch ((intl timezone).localAt t - (intl timezone).localAt t % 1000)).year := by
    apply hundred_le_year
    simp only [yearHundred] at *
    omega
  rw [wallClockAt, printed_of_hundred_le hyear]

/-- What is known of a timezone: offsets of whole seconds and a day at most, one of which stays for
72 hours at least. -/
structure Steady (zone : Zone) : Prop where
  seconds : ∀ t, 1000 ∣ zone.offset t
  offsets : Offsets zone
  once : zone.ChangesAtMostOnce (72 * hourMillis)

/-- A timezone read to the second. -/
theorem Steady.readable (h : Steady (intl timezone)) :
    ReadableZone (wallClockAt intl) (intl timezone) timezone 1000 where
  reads := wallClockAt_reads
  hour := ⟨3600, rfl⟩
  offset := h.seconds
  within := h.offsets
  once := h.once

/-- A local midnight that exists is resolved to its last instant. -/
theorem boundaryInstant_spec (h : Steady (intl timezone)) {day t : ℤ}
    (inside : InsideDates (midnight day)) (shown : (intl timezone).localAt t = midnight day) :
    ∃ r, boundaryInstant intl (some (midnight day)) timezone = .ok r ∧
      IsGreatest {s | (intl timezone).localAt s = midnight day} r := by
  rw [midnight] at *
  have hyear : 100 ≤ (WallClock.ofEpoch (day * 86400000)).year := by
    apply hundred_le_year
    have := inside.1
    simp only [hourMillis] at this
    omega
  have hinside : InsideDates (WallClock.ofEpoch (day * 86400000)).toEpoch := by
    rwa [WallClock.toEpoch_ofEpoch]
  have hwhole : 1000 ∣ (WallClock.ofEpoch (day * 86400000)).toEpoch := by
    rw [WallClock.toEpoch_ofEpoch]
    exact ⟨day * 86400, by ring⟩
  obtain ⟨instants, hinstants, hmem⟩ :=
    h.readable.sampledInstants_spec (fullYear_of_hundred_le hyear) hinside hwhole
  have hsorted := List.pairwise_mergeSort' (· ≥ ·) instants
  generalize hlist : instants.mergeSort (fun left right ↦ decide (right ≤ left)) = latest at *
  have hlatest (s : ℤ) : s ∈ latest ↔ (intl timezone).localAt s = day * 86400000 := by
    rw [← hlist, List.mem_mergeSort, hmem]
    exact ⟨WallClock.ofEpoch_injective, congrArg _⟩
  cases latest with
  | nil => exact absurd ((hlatest t).2 shown) List.not_mem_nil
  | cons last rest =>
      refine ⟨last, ?_, (hlatest last).1 List.mem_cons_self, ?_⟩
      · rw [boundaryInstant, boundary_eq, wallClockToInstant, hinstants]
        simp only [bind, Except.bind, hlist]
        rfl
      · intro s hs
        rcases List.mem_cons.1 ((hlatest s).2 hs) with rfl | hrest
        · exact le_rfl
        · exact List.rel_of_pairwise_cons hsorted hrest

/-- The first day of the period an instant lies in, by a zone's clocks. -/
def periodDay (zone : Zone) (kind : CalendarPeriodKind) (t : ℤ) : ℤ :=
  firstDayOf kind (zone.localAt t / 86400000)

/-- Every period starts at a local time that exists. -/
def MidnightsExist (zone : Zone) : Prop :=
  ∀ kind day, IsFirstDay kind day → ∃ t, zone.localAt t = midnight day

/-- A period from the last instant of one midnight to the last instant of the next period's. -/
structure Spans (zone : Zone) (kind : CalendarPeriodKind) (day : ℤ) (period : CalendarPeriod) :
    Prop where
  start : IsGreatest {t | zone.localAt t = midnight day} period.start
  stop : IsGreatest {t | zone.localAt t = midnight (nextFirstDay kind day)} period.stop

/-- Inside the dates, the range of an instant spans the period it lies in. -/
theorem calendarPeriodRange_spec (h : Steady (intl timezone))
    (midnights : MidnightsExist (intl timezone)) {kind : CalendarPeriodKind} {now day : ℤ}
    (hday : periodDay (intl timezone) kind now = day) (low : InsideDates (midnight day))
    (high : InsideDates (midnight (nextFirstDay kind day))) :
    ∃ period, calendarPeriodRange intl (some now) timezone kind = .ok period ∧
      Spans (intl timezone) kind day period := by
  obtain ⟨hstart, hstop⟩ := firstDayOf_spec kind ((intl timezone).localAt now / 86400000)
  have hfirst := isFirstDay_firstDayOf kind ((intl timezone).localAt now / 86400000)
  rw [← periodDay, hday] at hstart hstop hfirst
  obtain ⟨first, hshown⟩ := midnights kind day hfirst
  obtain ⟨last, hshown'⟩ := midnights kind _ (isFirstDay_nextFirstDay hfirst)
  obtain ⟨start, hstartInstant, hgreatest⟩ := boundaryInstant_spec h low hshown
  obtain ⟨stop, hstopInstant, hgreatest'⟩ := boundaryInstant_spec h high hshown'
  refine ⟨⟨start, stop⟩, ?_, hgreatest, hgreatest'⟩
  -- the clock of the instant shows its local date
  generalize hlocal : (intl timezone).localAt now = shown at *
  simp only [InsideDates, midnight, yearHundred, hourMillis, maxTime] at low high
  have hsame : (shown - shown % 1000) / 86400000 = shown / 86400000 := by omega
  have hread := @wallClockAt_reads intl timezone now (by rw [hlocal, yearHundred]; omega)
  have hyear : 100 ≤ yearOfDay (shown / 86400000) :=
    @hundred_le_year shown (by rw [yearHundred]; omega)
  have hdate : dateUTC ⟨yearOfDay (shown / 86400000), monthOfDay (shown / 86400000) + 1,
      dateOfDay (shown / 86400000), 0, 0, 0, 0⟩ = some (shown / 86400000 * 86400000) := by
    rw [dateUTC_of_fullYear (fullYear_of_hundred_le hyear), WallClock.toEpoch, add_sub_cancel_right,
      makeDay_ofDay]
    simp only [zero_mul, add_zero]
    apply timeClip_eq <;> rw [maxTime] <;> omega
  have hstartDate := @startDateOf_eq kind (shown / 86400000)
    (by rw [maxTime, ← hlocal, ← periodDay, hday]; omega) (by rw [maxTime]; omega)
  have hendDate := @endDateOf_eq kind day hfirst (by rw [maxTime]; omega) (by rw [maxTime]; omega)
  rw [← hlocal, ← periodDay, hday, hlocal] at hstartDate
  rw [midnight] at hstartInstant hstopInstant
  rw [hlocal] at hread
  simp only [calendarPeriodRange, hread, bind, Except.bind, WallClock.ofEpoch, hsame, hdate,
    hstartDate, hendDate, hstartInstant, hstopInstant]
  rfl

/-! ## Periods tile time -/

/-- A period has a week of days at least. -/
theorem add_seven_le_nextFirstDay {kind : CalendarPeriodKind} {day : ℤ} (h : IsFirstDay kind day) :
    day + 7 ≤ nextFirstDay kind day := by
  by_cases hkind : kind = .weekly
  · subst hkind
    exact le_rfl
  · obtain ⟨year, month, hfirst, -⟩ := firstDayOf_first kind hkind day
    rw [h] at hfirst
    have hone : dateOfDay day = 1 := by
      rw [hfirst]
      exact (ofDay_first year month).2.2
    have hmonth := first_of_month day
    have hnext := makeDay_next (yearOfDay day) (monthOfDay day)
    have hdays := @daysInMonth_bounds (yearOfDay day + monthOfDay day / 12) (monthOfDay day % 12)
      (by omega) (by omega)
    have hmono := @makeDay_mono (yearOfDay day) (monthOfDay day + 1) (monthOfDay day + 3) (by omega)
    rw [hone, sub_self, add_zero] at hmonth
    cases kind with
    | weekly => exact absurd rfl hkind
    | monthly =>
        rw [nextFirstDay]
        omega
    | quarterly =>
        rw [nextFirstDay]
        omega

variable {zone : Zone} {kind : CalendarPeriodKind} {day now : ℤ} {period : CalendarPeriod}

theorem periodDay_of_shown (h : IsFirstDay kind day) (shown : zone.localAt now = midnight day) :
    periodDay zone kind now = day := by
  have hdiv : day * 86400000 / 86400000 = day := by omega
  rw [periodDay, shown, midnight, hdiv]
  exact h

/-- An instant comes before the end of its period. -/
theorem Spans.lt_stop (h : Spans zone kind day period) (steady : Steady zone)
    (hday : periodDay zone kind now = day) : now < period.stop := by
  obtain ⟨-, hbefore⟩ := firstDayOf_spec kind (zone.localAt now / 86400000)
  rw [← periodDay, hday] at hbefore
  obtain ⟨hshown, hlast⟩ := h.stop
  rw [Set.mem_ofPred_eq] at hshown
  by_contra hafter
  -- the clocks went back after the end, so they showed the midnight once more
  have hnow := steady.offsets now
  have hstop := steady.offsets period.stop
  obtain ⟨change, hchange⟩ := steady.once period.stop
  simp only [Zone.localAt, midnight, hourMillis] at *
  have hold := (hchange now (by omega) (by omega)).1
  have hnew := (hchange now (by omega) (by omega)).2
  have hchanged : change ≤ now := by
    by_contra hunchanged
    have := hold (by omega)
    omega
  have hlater := (hchange (nextFirstDay kind day * 86400000 - zone.offset now) (by omega)
    (by omega)).2 (by omega)
  have := hlast (show _ = _ by rw [hlater, ← hnew hchanged, sub_add_cancel])
  omega

/-- An instant comes no earlier than the start of its period, unless that midnight is still to come
once more. -/
theorem Spans.start_le (h : Spans zone kind day period)
    (last : ∀ t, now < t → zone.localAt t ≠ midnight day) : period.start ≤ now := by
  by_contra hbefore
  exact last _ (by omega) h.start.1

/-- A period has an extent. -/
theorem Spans.start_lt_stop (h : Spans zone kind day period) (steady : Steady zone)
    (first : IsFirstDay kind day) : period.start < period.stop := by
  have hstart := steady.offsets period.start
  have hstop := steady.offsets period.stop
  have hdays := add_seven_le_nextFirstDay first
  have hshown := h.start.1
  have hshown' := h.stop.1
  rw [Set.mem_ofPred_eq, Zone.localAt, midnight] at hshown hshown'
  simp only [hourMillis] at hstart hstop
  omega

/-- A period is told by the midnights it spans. -/
theorem Spans.unique {other : CalendarPeriod} (h : Spans zone kind day period)
    (h' : Spans zone kind day other) : other = period := by
  have hstart := h'.start.unique h.start
  have hstop := h'.stop.unique h.stop
  cases other
  cases period
  simp_all

end ReputationKey.Shared
