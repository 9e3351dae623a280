import ReputationKey.Base.WindowSweep
import ReputationKey.Shared.PropertyCalendar

/-!
# Rating goals: the busiest 30 days

How many reviews the busiest 30 consecutive local dates of the last 365 brought, today included.
The day counts come in any order; one pass over them in date order finds the busiest run. Follows
`src/src/contexts/reporting/domain/rating-goal-evidence.ts`.
-/

namespace ReputationKey.Reporting

open Base Shared WindowSweep

/-- Local dates the busiest window looks back over, today included. -/
def busiestLookbackDates : ℤ := 365

/-- Consecutive local dates in the busiest window. -/
def busiestWindowDates : ℤ := 30

def dayMillis : ℤ := 86400000

/-- A civil date, as the key `YYYY-MM-DD` writes it. -/
structure CivilDate where
  year : ℤ
  month : ℤ
  day : ℤ
  deriving DecidableEq, Repr

/-- The reviews of one local date. -/
structure DayCount where
  day : CivilDate
  count : ℕ
  deriving DecidableEq, Repr

/-- A civil date as a day number. -/
def civilDay (key : CivilDate) : Option ℤ :=
  (dateUTC ⟨key.year, key.month, key.day, 0, 0, 0, 0⟩).map fun t ↦ t / dayMillis

/-- Today's Property-local date as a day number. -/
def localToday (intl : String → Zone) (now : TimeValue) (timezone : String) :
    Except RangeError (Option ℤ) :=
  (propertyWallClockAt intl now timezone).map fun shown ↦
    civilDay ⟨shown.year, shown.month, shown.day⟩

/-- A date of the series as its day number, with its reviews. -/
structure SeriesEntry where
  day : ℤ
  count : ℕ
  deriving DecidableEq, Repr

/-- The dates of the last 365, in date order. -/
def seriesOf (days : List DayCount) (today : ℤ) : List SeriesEntry :=
  let first := today - (busiestLookbackDates - 1)
  ((days.filterMap fun entry ↦ (civilDay entry.day).map fun day ↦ ⟨day, entry.count⟩).filter
    fun entry ↦ decide (first ≤ entry.day) && decide (entry.day ≤ today)).mergeSort
      fun left right ↦ decide (left.day ≤ right.day)

/-- The most reviews on 30 consecutive local dates of the last 365; 0 without any. A date that is
not a number is in no window. -/
def busiestWindowCount (intl : String → Zone) (days : List DayCount) (now : TimeValue)
    (timezone : String) : Except RangeError ℤ :=
  (localToday intl now timezone).map fun today ↦
    match today with
    | none => 0
    | some today =>
        greatestTotal (·.day) (·.count) busiestWindowDates (seriesOf days today)

/-! ## The busiest run of dates -/

/-- The reviews of the 30 dates from one on. -/
def windowCount (days : List DayCount) (start : ℤ) : ℕ :=
  ((days.filter fun entry ↦ match civilDay entry.day with
    | none => false
    | some day => decide (start ≤ day ∧ day < start + busiestWindowDates)).map (·.count)).sum

/-- A run of 30 dates within the last 365. -/
def WithinLookback (today start : ℤ) : Prop :=
  today - (busiestLookbackDates - 1) ≤ start ∧ start + (busiestWindowDates - 1) ≤ today

theorem seriesOf_sorted (days : List DayCount) (today : ℤ) :
    (seriesOf days today).Pairwise fun a b ↦ a.day ≤ b.day := by
  have hsorted := @List.pairwise_mergeSort _ (fun left right : SeriesEntry ↦
    decide (left.day ≤ right.day)) (by
      intro a b c hab hbc
      rw [decide_eq_true_eq] at *
      exact hab.trans hbc) (by
      intro a b
      rw [Bool.or_eq_true, decide_eq_true_eq, decide_eq_true_eq]
      exact le_total a.day b.day)
    ((days.filterMap fun entry ↦
      (civilDay entry.day).map fun day ↦ (⟨day, entry.count⟩ : SeriesEntry)).filter fun entry ↦
        decide (today - (busiestLookbackDates - 1) ≤ entry.day) && decide (entry.day ≤ today))
  exact hsorted.imp fun h ↦ of_decide_eq_true h

theorem seriesOf_mem {days : List DayCount} {today : ℤ} {entry : SeriesEntry}
    (mem : entry ∈ seriesOf days today) :
    today - (busiestLookbackDates - 1) ≤ entry.day ∧ entry.day ≤ today := by
  rw [seriesOf, List.mem_mergeSort, List.mem_filter, Bool.and_eq_true, decide_eq_true_eq,
    decide_eq_true_eq] at mem
  exact mem.2

/-- Inside the last 365 dates the series has the reviews of the days. -/
theorem windowTotal_seriesOf {days : List DayCount} {today start : ℤ}
    (h : WithinLookback today start) :
    windowTotal (·.day) (·.count) busiestWindowDates (seriesOf days today) start =
      windowCount days start := by
  obtain ⟨hlow, hhigh⟩ := h
  simp only [busiestLookbackDates, busiestWindowDates] at hlow hhigh
  rw [windowTotal, totalWeight, seriesOf]
  rw [(((List.mergeSort_perm _ _).filter _).map _).sum_eq, windowCount]
  induction days with
  | nil => rfl
  | cons entry rest ih =>
      cases hday : civilDay entry.day with
      | none => simpa [hday] using ih
      | some day =>
          rw [List.filterMap_cons_some (b := ⟨day, entry.count⟩) (by rw [hday]; rfl)]
          by_cases hin : start ≤ day ∧ day < start + busiestWindowDates
          · rw [List.filter_cons_of_pos, List.filter_cons_of_pos, List.filter_cons_of_pos]
            · simpa using ih
            · simpa [hday] using hin
            · simpa using hin
            · have hseries : today - (busiestLookbackDates - 1) ≤ day ∧ day ≤ today := by
                simp only [busiestLookbackDates, busiestWindowDates] at hin ⊢
                omega
              rw [Bool.and_eq_true, decide_eq_true_eq, decide_eq_true_eq]
              exact hseries
          · have hout : windowCount (entry :: rest) start = windowCount rest start := by
              rw [windowCount, List.filter_cons_of_neg]
              · rfl
              · simpa [hday] using hin
            rw [windowCount] at hout
            rw [hout, List.filter_cons]
            split
            · rw [List.filter_cons_of_neg (by simpa using hin)]
              exact ih
            · exact ih

/-- The pass over the series finds the busiest run of dates within the last 365. -/
theorem busiest_isGreatest (days : List DayCount) (today : ℤ) :
    IsGreatest {n : ℤ | ∃ start, WithinLookback today start ∧ n = windowCount days start}
      (greatestTotal (·.day) (·.count) busiestWindowDates (seriesOf days today)) := by
  obtain ⟨hzero, hwindows, hreached⟩ :=
    @greatestTotal_spec SeriesEntry (·.day) (·.count) busiestWindowDates _ (by decide)
      (seriesOf_sorted days today)
  constructor
  · rcases hreached with hnone | ⟨entry, mem, hle⟩
    · -- nothing was counted, so the first window of the last 365 dates is as busy as any
      have hfirst : WithinLookback today (today - (busiestLookbackDates - 1)) := by
        simp only [WithinLookback, busiestLookbackDates, busiestWindowDates]
        omega
      have hbound := hwindows (today - (busiestLookbackDates - 1))
      rw [windowTotal_seriesOf hfirst, hnone] at hbound
      refine ⟨_, hfirst, ?_⟩
      rw [hnone]
      omega
    · -- the window that ends with a date, moved up into the last 365 dates
      obtain ⟨hlow, hhigh⟩ := seriesOf_mem mem
      generalize hstart :
        max (today - (busiestLookbackDates - 1)) (entry.day - busiestWindowDates + 1) = start
      have hin : WithinLookback today start := by
        simp only [WithinLookback, busiestLookbackDates, busiestWindowDates] at *
        omega
      -- no date of the series is before the last 365, so moving the start up loses none
      have hmoved : windowTotal (·.day) (·.count) busiestWindowDates (seriesOf days today)
          (entry.day - busiestWindowDates + 1) ≤
          windowTotal (·.day) (·.count) busiestWindowDates (seriesOf days today) start := by
        have hfiltered : (seriesOf days today).filter (fun other ↦
            decide (entry.day - busiestWindowDates + 1 ≤ other.day ∧
              other.day < entry.day - busiestWindowDates + 1 + busiestWindowDates)) =
            ((seriesOf days today).filter fun other ↦
              decide (start ≤ other.day ∧ other.day < start + busiestWindowDates)).filter fun other ↦
                decide (entry.day - busiestWindowDates + 1 ≤ other.day ∧
                  other.day < entry.day - busiestWindowDates + 1 + busiestWindowDates) := by
          rw [List.filter_filter]
          apply List.filter_congr
          intro other hother
          have hfrom := (seriesOf_mem hother).1
          rw [← Bool.decide_and, decide_eq_decide]
          omega
        rw [windowTotal, windowTotal, hfiltered]
        exact totalWeight_sublist List.filter_sublist
      have hbest := hwindows start
      refine ⟨start, hin, le_antisymm (hle.trans ?_) ?_⟩
      · rw [← windowTotal_seriesOf hin]
        exact Int.ofNat_le.2 hmoved
      · rw [← windowTotal_seriesOf hin]
        exact hbest
  · rintro n ⟨start, hin, rfl⟩
    rw [← windowTotal_seriesOf hin]
    exact hwindows start

theorem windowCount_perm {days days' : List DayCount} (h : days.Perm days') (start : ℤ) :
    windowCount days start = windowCount days' start :=
  ((h.filter _).map _).sum_eq

/-- A run of dates on which nothing was counted. -/
theorem windowCount_eq_zero {days : List DayCount} {start : ℤ}
    (h : ∀ entry ∈ days, ∀ day, civilDay entry.day = some day →
      ¬ (start ≤ day ∧ day < start + busiestWindowDates)) : windowCount days start = 0 := by
  have hnone : days.filter (fun entry ↦ match civilDay entry.day with
      | none => false
      | some day => decide (start ≤ day ∧ day < start + busiestWindowDates)) = [] := by
    apply List.filter_eq_nil_iff.2
    intro entry mem
    cases hday : civilDay entry.day with
    | none => simp
    | some day =>
        rw [decide_eq_true_eq]
        exact h entry mem day hday
  rw [windowCount, hnone]
  rfl

/-- The busiest window is the greatest count of 30 consecutive local dates within the last 365, zero
when no date lies among them, and does not depend on the order of the day counts. -/
theorem busiestWindowCount_greatest {intl : String → Zone} {now : TimeValue} {timezone : String}
    {today : ℤ} (h : localToday intl now timezone = .ok (some today)) (days : List DayCount) :
    ∃ busiest : ℤ, busiestWindowCount intl days now timezone = .ok busiest ∧
      IsGreatest {n : ℤ | ∃ start, WithinLookback today start ∧ n = windowCount days start} busiest ∧
      ((∀ entry ∈ days, ∀ day, civilDay entry.day = some day →
        ¬ (today - (busiestLookbackDates - 1) ≤ day ∧ day ≤ today)) → busiest = 0) ∧
      ∀ days', days.Perm days' → busiestWindowCount intl days' now timezone = .ok busiest := by
  have hcount (days : List DayCount) : busiestWindowCount intl days now timezone =
      .ok (greatestTotal (·.day) (·.count) busiestWindowDates (seriesOf days today)) := by
    rw [busiestWindowCount, h]
    rfl
  have hgreatest := busiest_isGreatest days today
  refine ⟨_, hcount days, hgreatest, ?_, ?_⟩
  · intro hnone
    obtain ⟨start, ⟨hlow, hhigh⟩, hbusiest⟩ := hgreatest.1
    rw [hbusiest, windowCount_eq_zero, Nat.cast_zero]
    intro entry mem day hday hin
    apply hnone entry mem day hday
    simp only [busiestLookbackDates, busiestWindowDates] at *
    omega
  · intro days' hperm
    have hsame := busiest_isGreatest days' today
    simp only [← windowCount_perm hperm] at hsame
    rw [hcount days', hsame.unique hgreatest]

/-- Two counts of one date and one of 30 dates before: the busiest window holds the two. -/
theorem busiestWindowCount_greatest_two :
    localToday (fun _ ↦ ⟨fun _ ↦ 0⟩) (some 1790000000000) "UTC" = .ok (some 20717) ∧
      ∃ busiest : ℤ,
        busiestWindowCount (fun _ ↦ ⟨fun _ ↦ 0⟩)
          [⟨⟨2026, 9, 21⟩, 2⟩, ⟨⟨2026, 8, 22⟩, 4⟩, ⟨⟨2026, 9, 21⟩, 3⟩] (some 1790000000000) "UTC" =
          .ok busiest ∧
        IsGreatest {n : ℤ | ∃ start, WithinLookback 20717 start ∧
          n = windowCount [⟨⟨2026, 9, 21⟩, 2⟩, ⟨⟨2026, 8, 22⟩, 4⟩, ⟨⟨2026, 9, 21⟩, 3⟩] start}
          busiest := by
  have htoday : localToday (fun _ ↦ ⟨fun _ ↦ 0⟩) (some 1790000000000) "UTC" = .ok (some 20717) := by
    decide +kernel
  obtain ⟨busiest, hbusiest, hgreatest, -, -⟩ := busiestWindowCount_greatest htoday
    [⟨⟨2026, 9, 21⟩, 2⟩, ⟨⟨2026, 8, 22⟩, 4⟩, ⟨⟨2026, 9, 21⟩, 3⟩]
  exact ⟨htoday, busiest, hbusiest, hgreatest⟩

end ReputationKey.Reporting
