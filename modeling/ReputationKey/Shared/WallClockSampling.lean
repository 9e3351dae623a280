import ReputationKey.Base.CivilDate
import ReputationKey.Base.NearestDouble
import ReputationKey.Base.Zone
import Mathlib.Algebra.Ring.Divisibility.Basic
import Mathlib.Algebra.Ring.Int.Defs
import Mathlib.Data.List.Sort

/-!
# Wall clocks found by sampling offsets

Both calendars of the source resolve a wall clock alike: they read the wall clock at three instants
around it, take the offset of each, and keep the instants at these offsets that show it. Where the
offset changes at most once in 72 hours these are all the instants that show it. Follows the part
that `src/src/shared/domain/property-calendar.ts` and `src/src/shared/domain/period-range.ts` share.
-/

namespace ReputationKey.Shared

open Base Civil

/-! ## Dates of the language -/

/-- A time value in milliseconds, none being NaN. -/
abbrev TimeValue := Option ℤ

/-- The last instant of a date. -/
def maxTime : ℤ := 8640000000000000

/-- The time value of a new date: within 100 million days of 1970, or NaN. -/
def timeClip (t : ℤ) : TimeValue := if -maxTime ≤ t ∧ t ≤ maxTime then some t else none

/-- The year meant by a year of at most two digits. -/
def fullYear (year : ℤ) : ℤ := if 0 ≤ year ∧ year ≤ 99 then 1900 + year else year

/-- `Date.UTC`. -/
def dateUTC (clock : WallClock) : TimeValue :=
  timeClip { clock with year := fullYear clock.year : WallClock }.toEpoch

/-- What `Intl` prints of a local time: a year before the first counts back, without its era. -/
def printed (clock : WallClock) : WallClock :=
  { clock with year := if 1 ≤ clock.year then clock.year else 1 - clock.year }

/-! ## Sampling -/

/-- How a wall clock is read: by the instant and the timezone's name. -/
abbrev ClockReader := TimeValue → String → Except RangeError WallClock

variable (reader : ClockReader)

/-- The offset found so many hours from a local time. -/
def sampleOffset (localEpoch : TimeValue) (timezone : String) (delta : ℤ) :
    Except RangeError TimeValue :=
  let sample := localEpoch.bind fun epoch ↦ timeClip (epoch + delta * 3600000)
  (reader sample timezone).map fun shown ↦
    (dateUTC shown).bind fun epoch ↦ sample.map fun t ↦ epoch - t

/-- The candidates that show the target. -/
def matchingInstants (target : WallClock) (timezone : String) :
    List TimeValue → Except RangeError (List ℤ)
  | [] => .ok []
  | candidate :: rest => do
      let shown ← reader candidate timezone
      let later ← matchingInstants target timezone rest
      return if shown = target then candidate.toList ++ later else later

/-- The instants whose wall clock is the target, one for each offset found around it. -/
def sampledInstants (target : WallClock) (timezone : String) : Except RangeError (List ℤ) := do
  let localEpoch := dateUTC target
  let early ← sampleOffset reader localEpoch timezone (-36)
  let middle ← sampleOffset reader localEpoch timezone 0
  let late ← sampleOffset reader localEpoch timezone 36
  let offsets := [early, middle, late].eraseDups
  let candidates := offsets.map fun offset ↦
    localEpoch.bind fun epoch ↦ offset.bind fun offset ↦ timeClip (epoch - offset)
  matchingInstants reader target timezone candidates

/-! ## Inside the dates of the language -/

/-- The start of the year 100, the first that `Date.UTC` takes for itself. -/
def yearHundred : ℤ := -59011459200000

/-- An hour in milliseconds. -/
def hourMillis : ℤ := 3600000

/-- A local time far enough inside the dates for every sample. -/
def InsideDates (epoch : ℤ) : Prop :=
  yearHundred + 60 * hourMillis ≤ epoch ∧ epoch ≤ maxTime - 60 * hourMillis

theorem hundred_le_year {epoch : ℤ} (h : yearHundred ≤ epoch) : 100 ≤ (WallClock.ofEpoch epoch).year := by
  have hday : dayFromYear 100 ≤ epoch / 86400000 := by
    simp only [dayFromYear, yearHundred] at *
    omega
  by_contra hyear
  have hstop := (yearOfDay_spec (epoch / 86400000)).2
  have hmono := dayFromYear_mono
    (show yearOfDay (epoch / 86400000) + 1 ≤ 100 by
      simp only [WallClock.ofEpoch] at hyear
      omega)
  omega

theorem fullYear_of_hundred_le {year : ℤ} (h : 100 ≤ year) : fullYear year = year := by
  rw [fullYear, if_neg (by omega)]

theorem printed_of_hundred_le {clock : WallClock} (h : 100 ≤ clock.year) : printed clock = clock := by
  rw [printed, if_pos (by omega)]

/-- A year taken for itself gives the clock's own milliseconds. -/
theorem dateUTC_of_fullYear {clock : WallClock} (h : fullYear clock.year = clock.year) :
    dateUTC clock = timeClip clock.toEpoch := by
  rw [dateUTC, h]

theorem timeClip_eq {t : ℤ} (low : -maxTime ≤ t) (high : t ≤ maxTime) : timeClip t = some t :=
  if_pos ⟨low, high⟩

theorem timeClip_of_inside {epoch t : ℤ} (h : InsideDates epoch) (low : epoch - 60 * hourMillis ≤ t)
    (high : t ≤ epoch + 60 * hourMillis) : timeClip t = some t := by
  obtain ⟨hlow, hhigh⟩ := h
  simp only [yearHundred, hourMillis, maxTime] at *
  exact timeClip_eq (by simp only [maxTime]; omega) (by simp only [maxTime]; omega)

theorem dateUTC_ofEpoch {epoch t : ℤ} (h : InsideDates epoch) (low : epoch - 60 * hourMillis ≤ t)
    (high : t ≤ epoch + 60 * hourMillis) : dateUTC (.ofEpoch t) = some t := by
  have hyear : 100 ≤ (WallClock.ofEpoch t).year := hundred_le_year (by have := h.1; omega)
  rw [dateUTC_of_fullYear (fullYear_of_hundred_le hyear), WallClock.toEpoch_ofEpoch,
    timeClip_of_inside h low high]

/-! ## What the samples find -/

/-- A zone's offsets are of a day at most. -/
def Offsets (zone : Zone) : Prop := zone.Within (-24 * hourMillis) (24 * hourMillis)

/-- A reader shows the local time of a zone down to a unit. -/
def ReadsLocal (reader : ClockReader) (zone : Zone) (timezone : String) (unit : ℤ) : Prop :=
  ∀ t, yearHundred ≤ zone.localAt t →
    reader (some t) timezone = .ok (.ofEpoch (zone.localAt t - zone.localAt t % unit))

/-- A zone as a reader down to a unit tells it: its offsets are whole units, and so are hours. -/
structure ReadableZone (reader : ClockReader) (zone : Zone) (timezone : String) (unit : ℤ) : Prop where
  reads : ReadsLocal reader zone timezone unit
  hour : unit ∣ hourMillis
  offset : ∀ t, unit ∣ zone.offset t
  within : Offsets zone
  once : zone.ChangesAtMostOnce (72 * hourMillis)

variable {reader} {zone : Zone} {timezone : String} {unit : ℤ}

/-- Near a local time inside the dates, whole units are read as they are. -/
theorem ReadableZone.read (h : ReadableZone reader zone timezone unit) {epoch t : ℤ}
    (inside : InsideDates epoch) (low : epoch - 60 * hourMillis ≤ zone.localAt t)
    (whole : unit ∣ zone.localAt t) : reader (some t) timezone = .ok (.ofEpoch (zone.localAt t)) := by
  have hreads := h.reads t (by have := inside.1; omega)
  rwa [Int.emod_eq_zero_of_dvd whole, sub_zero] at hreads

/-- A sample tells the offset at its instant. -/
theorem ReadableZone.sampleOffset_eq (h : ReadableZone reader zone timezone unit) {epoch : ℤ}
    (inside : InsideDates epoch) (whole : unit ∣ epoch) (delta : ℤ) (low : -36 ≤ delta)
    (high : delta ≤ 36) :
    sampleOffset reader (some epoch) timezone delta =
      .ok (some (zone.offset (epoch + delta * hourMillis))) := by
  have hbound := h.within (epoch + delta * hourMillis)
  have hwhole : unit ∣ zone.localAt (epoch + delta * hourMillis) :=
    dvd_add (dvd_add whole (h.hour.mul_left delta)) (h.offset _)
  have hclip := timeClip_of_inside (t := epoch + delta * hourMillis) inside
    (by simp only [hourMillis] at *; omega) (by simp only [hourMillis] at *; omega)
  have hshown := h.read inside (t := epoch + delta * hourMillis)
    (by simp only [Zone.localAt, hourMillis] at *; omega) hwhole
  have hutc := dateUTC_ofEpoch (t := zone.localAt (epoch + delta * hourMillis)) inside
    (by simp only [Zone.localAt, hourMillis] at *; omega)
    (by simp only [Zone.localAt, hourMillis] at *; omega)
  simp only [hourMillis] at hclip hshown hutc ⊢
  simp only [sampleOffset, Option.bind_some, hclip, hshown, Except.map, hutc, Option.map_some]
  rw [Zone.localAt, add_sub_cancel_left]

/-- The candidates kept are those whose wall clock is the target. -/
theorem ReadableZone.matchingInstants_eq (h : ReadableZone reader zone timezone unit) {epoch : ℤ}
    (inside : InsideDates epoch) (target : WallClock) (candidates : List ℤ)
    (near : ∀ t ∈ candidates, epoch - 60 * hourMillis ≤ zone.localAt t)
    (whole : ∀ t ∈ candidates, unit ∣ t) :
    matchingInstants reader target timezone (candidates.map some) =
      .ok (candidates.filter fun t ↦ decide (.ofEpoch (zone.localAt t) = target)) := by
  induction candidates with
  | nil => rfl
  | cons t rest ih =>
      have hshown := h.read inside (near t List.mem_cons_self)
        (dvd_add (whole t List.mem_cons_self) (h.offset t))
      have hrest := ih (fun t mem ↦ near t (List.mem_cons_of_mem _ mem))
        (fun t mem ↦ whole t (List.mem_cons_of_mem _ mem))
      rw [List.map_cons, matchingInstants, hshown, hrest]
      by_cases hsame : WallClock.ofEpoch (zone.localAt t) = target
      · simp [hsame, bind, Except.bind, pure, Except.pure]
      · simp [hsame, bind, Except.bind, pure, Except.pure]

/-- Sampling finds the instants whose wall clock is the target, and no others. -/
theorem ReadableZone.sampledInstants_spec (h : ReadableZone reader zone timezone unit)
    {target : WallClock} (year : fullYear target.year = target.year)
    (inside : InsideDates target.toEpoch) (whole : unit ∣ target.toEpoch) :
    ∃ instants, sampledInstants reader target timezone = .ok instants ∧
      ∀ t, t ∈ instants ↔ WallClock.ofEpoch (zone.localAt t) = target := by
  have hutc : dateUTC target = some target.toEpoch := by
    rw [dateUTC_of_fullYear year]
    exact timeClip_of_inside inside (by simp only [hourMillis]; omega)
      (by simp only [hourMillis]; omega)
  generalize hepoch : target.toEpoch = epoch at inside hutc whole
  have hearly := h.sampleOffset_eq inside whole (-36) (by omega) (by omega)
  have hmiddle := h.sampleOffset_eq inside whole 0 (by omega) (by omega)
  have hlate := h.sampleOffset_eq inside whole 36 (by omega) (by omega)
  generalize hfound : [some (zone.offset (epoch + -36 * hourMillis)),
    some (zone.offset (epoch + 0 * hourMillis)),
    some (zone.offset (epoch + 36 * hourMillis))].eraseDups = found
  have hmem (offset : Option ℤ) (mem : offset ∈ found) : ∃ s, offset = some (zone.offset s) := by
    rw [← hfound, List.mem_eraseDups] at mem
    simp only [List.mem_cons, List.not_mem_nil, or_false] at mem
    rcases mem with rfl | rfl | rfl <;> exact ⟨_, rfl⟩
  -- each candidate is a whole unit within a day of the local time
  generalize hts : found.map (fun offset ↦ epoch - offset.getD 0) = ts
  have hnear (t : ℤ) (mem : t ∈ ts) :
      epoch - 24 * hourMillis ≤ t ∧ t ≤ epoch + 24 * hourMillis ∧ unit ∣ t := by
    rw [← hts] at mem
    obtain ⟨offset, hoffset, rfl⟩ := List.mem_map.1 mem
    obtain ⟨s, rfl⟩ := hmem offset hoffset
    have hbound := h.within s
    rw [Option.getD_some]
    exact ⟨by omega, by omega, dvd_sub whole (h.offset s)⟩
  have hcandidates : found.map (fun offset ↦ (some epoch).bind fun epoch ↦
      offset.bind fun offset ↦ timeClip (epoch - offset)) = ts.map some := by
    rw [← hts, List.map_map]
    apply List.map_congr_left
    intro offset mem
    have hbound := hnear (epoch - offset.getD 0) (by rw [← hts]; exact List.mem_map_of_mem mem)
    obtain ⟨s, rfl⟩ := hmem offset mem
    rw [Option.getD_some] at hbound
    have hclip := timeClip_of_inside (t := epoch - zone.offset s) inside
      (by simp only [hourMillis] at *; omega) (by simp only [hourMillis] at *; omega)
    simpa using hclip
  have hmatching := h.matchingInstants_eq inside target ts (by
    intro t mem
    have hbound := hnear t mem
    have hoffset := h.within t
    simp only [Zone.localAt, hourMillis] at *
    omega) (fun t mem ↦ (hnear t mem).2.2)
  refine ⟨ts.filter fun t ↦ decide (.ofEpoch (zone.localAt t) = target), ?_, ?_⟩
  · simp only [sampledInstants, hutc, hearly, hmiddle, hlate, bind, Except.bind, hfound]
    simp only [hcandidates, hmatching]
  · intro t
    rw [List.mem_filter, decide_eq_true_eq]
    refine ⟨fun hmatch ↦ hmatch.2, fun hshown ↦ ⟨?_, hshown⟩⟩
    have hlocal : zone.localAt t = epoch := by
      rw [← hepoch, ← hshown, WallClock.toEpoch_ofEpoch]
    have hwithin : zone.Within (-(36 * hourMillis)) (36 * hourMillis) := by
      intro s
      have := h.within s
      simp only [hourMillis] at *
      omega
    have honce : zone.ChangesAtMostOnce (2 * (36 * hourMillis)) := by
      have := h.once
      rwa [← mul_assoc]
    rw [← hts, List.mem_map]
    refine ⟨some (zone.offset t), ?_, ?_⟩
    · rw [← hfound, List.mem_eraseDups]
      simp only [List.mem_cons, List.not_mem_nil, or_false, Option.some.injEq]
      rcases honce.offset_of_localAt hwithin hlocal with hoffset | hoffset
      · exact Or.inl (by rw [hoffset]; congr 1)
      · exact Or.inr (Or.inr hoffset)
    · rw [Option.getD_some, ← hlocal, Zone.localAt]
      ring

end ReputationKey.Shared
