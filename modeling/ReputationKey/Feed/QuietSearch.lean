import ReputationKey.Base.Refusal
import ReputationKey.Feed.QuietHours
import Mathlib.Order.Bounds.Basic

/-!
# The end of quiet hours

In a zone whose offset is of whole minutes the quiet hours are a recurring window of the minutes that
the clock shows. The search leaves out only minutes that this window holds, unless the clock is turned
back, so what it finds is no minute of the quiet hours, and while the offset stays it is the first one.
-/

namespace ReputationKey.Feed

open Base

/-! ## Quiet hours as a recurring window -/

/-- The quiet hours of a day: they start and end at distinct minutes of it. -/
structure QuietWindow where
  start : ℤ
  stop : ℤ
  start_mem : 0 ≤ start ∧ start < 1440
  stop_mem : 0 ≤ stop ∧ stop < 1440
  distinct : start ≠ stop

namespace QuietWindow

theorem length_pos (window : QuietWindow) : 0 < (window.stop - window.start) % 1440 := by
  have := window.start_mem
  have := window.stop_mem
  have := window.distinct
  omega

theorem length_lt (window : QuietWindow) : (window.stop - window.start) % 1440 < 1440 := by omega

/-- The quiet hours of every day, as minutes that the clock shows. -/
def recurring (window : QuietWindow) : RecurringWindow where
  period := 1440
  start := window.start
  length := (window.stop - window.start) % 1440
  length_pos := window.length_pos
  length_lt := window.length_lt

variable {window : QuietWindow}

theorem inside_iff (x : ℤ) : window.recurring.Inside x ↔
    (x - window.start) % 1440 < (window.stop - window.start) % 1440 := Iff.rfl

theorem closing_eq (x : ℤ) : window.recurring.closing x =
    x - (x - window.start) % 1440 + (window.stop - window.start) % 1440 := rfl

theorem isQuietMinute_iff (x : ℤ) :
    isQuietMinute (x % 1440) window.start window.stop = true ↔ window.recurring.Inside x := by
  have hstart := window.start_mem
  have hstop := window.stop_mem
  have hdistinct := window.distinct
  rw [isQuietMinute, if_neg hdistinct, inside_iff]
  split_ifs with hlt <;> simp only [decide_eq_true_eq] <;> omega

/-- What is left of the quiet hours ends with their window. -/
theorem remaining_eq {x : ℤ} (inside : window.recurring.Inside x) :
    quietMinutesRemaining (x % 1440) window.start window.stop = window.recurring.closing x - x := by
  have hstart := window.start_mem
  have hstop := window.stop_mem
  rw [inside_iff] at inside
  rw [quietMinutesRemaining, closing_eq]
  split_ifs <;> omega

end QuietWindow

theorem digit_mem {c low high : Char} (hlow : low ≤ c) (hhigh : c ≤ high) :
    digit low ≤ digit c ∧ digit c ≤ digit high := by
  rw [Char.le_def, UInt32.le_iff_toNat_le] at hlow hhigh
  simp only [digit, Char.toNat]
  omega

theorem isDigit_mem {c : Char} (h : c.isDigit = true) : 0 ≤ digit c ∧ digit c ≤ 9 := by
  rw [Char.isDigit, Bool.and_eq_true, decide_eq_true_eq, decide_eq_true_eq] at h
  exact @digit_mem c '0' '9' h.1 h.2

/-- A time of day is a minute of the day. -/
theorem minuteOfDay_mem {value : String} {m : ℤ} (h : minuteOfDay value = .ok m) :
    0 ≤ m ∧ m < 1440 := by
  rw [minuteOfDay] at h
  split at h
  · next a b c d _ =>
    dsimp only at h
    split_ifs at h with hmatch
    have hm := Except.ok.inj h
    simp only [isTimeOfDay, Bool.and_eq_true, Bool.or_eq_true, beq_iff_eq, decide_eq_true_eq] at hmatch
    obtain ⟨⟨hhour, hc⟩, hd⟩ := hmatch
    have hc := digit_mem hc.1 hc.2
    have hd := isDigit_mem hd
    rcases hhour with ⟨ha, hb⟩ | ⟨⟨rfl, hb⟩, hb'⟩
    · have hb := isDigit_mem hb
      have ha : digit a = 0 ∨ digit a = 1 := by rcases ha with rfl | rfl <;> decide
      have hfive : digit '5' = 5 := by decide
      have hzero : digit '0' = 0 := by decide
      omega
    · have hb := digit_mem hb hb'
      have htwo : digit '2' = 2 := by decide
      have hthree : digit '3' = 3 := by decide
      have hfive : digit '5' = 5 := by decide
      have hzero : digit '0' = 0 := by decide
      omega
  · cases h

/-! ## Clocks -/

/-- A zone whose offset is of whole minutes. -/
def minuteZone (offset : ℤ → ℤ) : Zone := ⟨fun t ↦ offset t * minuteMs⟩

/-- The minute that the clock shows, counted through the days. -/
def clockMinute (offset : ℤ → ℤ) (t : ℤ) : ℤ := t / minuteMs + offset t

variable {offset : ℤ → ℤ} {window : QuietWindow}

theorem localMinute_minuteZone (t : ℤ) :
    localMinute (minuteZone offset) t = clockMinute offset t % 1440 := by
  simp only [localMinute, minuteZone, Zone.localAt, clockMinute, minuteMs]
  omega

/-- On whole minutes the clock and the offset tell the instant. -/
theorem clockMinute_of_whole {t : ℤ} (whole : minuteMs ∣ t) :
    t = 60000 * (clockMinute offset t - offset t) := by
  rw [clockMinute, minuteMs] at *
  omega

variable (offset window)

/-- Whether an instant falls in the quiet hours. -/
def isQuiet (t : ℤ) : Bool :=
  isQuietMinute (localMinute (minuteZone offset) t) window.start window.stop

/-- A minute that a search can come to: the clock was not turned back to it from quiet hours that had
begun later by the clock, nor after it to a horizon outside quiet hours. -/
def InReach (now horizon t : ℤ) : Prop :=
  (∀ c, minuteMs ∣ c → now < c → c < t → isQuiet offset window c = true →
    window.recurring.opening (clockMinute offset c) ≤ clockMinute offset t) ∧
  (isQuiet offset window horizon = true ∨ clockMinute offset t < clockMinute offset horizon)

variable {offset window}

theorem isQuiet_iff (t : ℤ) :
    isQuiet offset window t = true ↔ window.recurring.Inside (clockMinute offset t) := by
  rw [isQuiet, localMinute_minuteZone, QuietWindow.isQuietMinute_iff]

theorem isQuiet_eq_false_iff (t : ℤ) :
    isQuiet offset window t = false ↔ ¬ window.recurring.Inside (clockMinute offset t) := by
  rw [← Bool.not_eq_true, isQuiet_iff]

/-- What is left of quiet hours is less than a day. -/
theorem remaining_mem {t remaining : ℤ} (quiet : isQuiet offset window t = true)
    (hremaining : window.recurring.closing (clockMinute offset t) = clockMinute offset t + remaining) :
    0 < remaining ∧ remaining < 1440 := by
  have hclosing := ((isQuiet_iff t).1 quiet).lt_closing
  rw [QuietWindow.closing_eq] at *
  omega

/-- The clock advances by what is left exactly when it shows the window's closing then. -/
theorem clockAdvancesBy_iff {t remaining : ℤ} (quiet : isQuiet offset window t = true)
    (hremaining : window.recurring.closing (clockMinute offset t) = clockMinute offset t + remaining) :
    clockAdvancesBy (minuteZone offset) t remaining = true ↔
      clockMinute offset (t + remaining * minuteMs) % 1440 =
        window.recurring.closing (clockMinute offset t) % 1440 := by
  obtain ⟨hpos, hlt⟩ := remaining_mem quiet hremaining
  rw [clockAdvancesBy, localMinute_minuteZone, localMinute_minuteZone, decide_eq_true_eq,
    Int.tmod_eq_emod_of_nonneg (by omega), hremaining]
  omega

/-! ## The search -/

/-- What holds of a candidate if it holds of the later ones, should it lie before the horizon, holds of
all candidates. -/
theorem search_induction (horizon : ℤ) {P : ℤ → Prop}
    (step : ∀ c, (c < horizon → ∀ c', c < c' → P c') → P c) (c : ℤ) : P c := by
  induction h : (horizon - c).toNat using Nat.strong_induction_on generalizing c with
  | _ n ih =>
      apply step
      intro hbefore c' hlater
      exact ih (horizon - c').toNat (by omega) c' rfl

/-- What a search does at a candidate: it gives up at the horizon, takes a minute outside quiet hours or
the closing that the clock shows, or jumps. -/
theorem search_cases (horizon c : ℤ) :
    (horizon ≤ c ∧ firstNonQuietFrom (minuteZone offset) window.start window.stop horizon c = horizon) ∨
    (c < horizon ∧ isQuiet offset window c = false ∧
      firstNonQuietFrom (minuteZone offset) window.start window.stop horizon c = c) ∨
    ∃ remaining, c < horizon ∧ isQuiet offset window c = true ∧
      window.recurring.closing (clockMinute offset c) = clockMinute offset c + remaining ∧
      ((clockMinute offset (c + remaining * minuteMs) % 1440 =
          window.recurring.closing (clockMinute offset c) % 1440 ∧
        firstNonQuietFrom (minuteZone offset) window.start window.stop horizon c =
          c + remaining * minuteMs) ∨
      (clockMinute offset (c + remaining * minuteMs) % 1440 ≠
          window.recurring.closing (clockMinute offset c) % 1440 ∧
        firstNonQuietFrom (minuteZone offset) window.start window.stop horizon c =
          firstNonQuietFrom (minuteZone offset) window.start window.stop horizon
            (c + max (remaining - maxDstShiftMinutes) 1 * minuteMs))) := by
  rw [firstNonQuietFrom.eq_def]
  by_cases hbefore : c < horizon
  · right
    rw [if_pos hbefore]
    cases hquiet : isQuiet offset window c with
    | false =>
        left
        refine ⟨hbefore, rfl, ?_⟩
        rw [isQuiet] at hquiet
        simp only [hquiet, Bool.not_false, if_true]
    | true =>
        right
        have hremaining := QuietWindow.remaining_eq ((isQuiet_iff c).1 hquiet)
        rw [← localMinute_minuteZone] at hremaining
        have hclosing : window.recurring.closing (clockMinute offset c) = clockMinute offset c +
            quietMinutesRemaining (localMinute (minuteZone offset) c) window.start window.stop := by
          rw [hremaining]
          ring
        refine ⟨_, hbefore, rfl, hclosing, ?_⟩
        rw [← clockAdvancesBy_iff hquiet hclosing]
        rw [isQuiet] at hquiet
        simp only [hquiet, Bool.not_true, Bool.false_eq_true, if_false]
        split_ifs with hadvances
        · exact Or.inl ⟨hadvances, rfl⟩
        · exact Or.inr ⟨fun hshown ↦ hadvances ((clockAdvancesBy_iff hquiet hclosing).2 hshown), rfl⟩
  · left
    rw [if_neg hbefore]
    exact ⟨not_lt.1 hbefore, rfl⟩

/-- What a search finds lies no earlier than its candidate or is the horizon, and is no minute of quiet
hours or is the horizon. -/
theorem search_finds {horizon c : ℤ} (whole : minuteMs ∣ horizon) (hc : minuteMs ∣ c) :
    let found := firstNonQuietFrom (minuteZone offset) window.start window.stop horizon c
    minuteMs ∣ found ∧ (c ≤ found ∨ found = horizon) ∧
      (isQuiet offset window found = false ∨ found = horizon) := by
  intro found
  induction c using search_induction horizon with
  | step c ih =>
      rcases @search_cases offset window horizon c with ⟨-, hfound⟩ | ⟨-, hquiet, hfound⟩ |
        ⟨remaining, hbefore, hquiet, hclosing, ⟨hshown, hfound⟩ | ⟨-, hfound⟩⟩ <;>
        change found = _ at hfound
      · rw [hfound]
        exact ⟨whole, Or.inr rfl, Or.inr rfl⟩
      · rw [hfound]
        exact ⟨hc, Or.inl le_rfl, Or.inl hquiet⟩
      · rw [hfound]
        have hpos := (remaining_mem hquiet hclosing).1
        refine ⟨Int.dvd_add hc (Int.dvd_mul_left _ _), Or.inl ?_, Or.inl ?_⟩
        · rw [minuteMs]
          omega
        · rw [isQuiet_eq_false_iff, RecurringWindow.inside_congr hshown]
          exact RecurringWindow.not_inside_closing _
      · have hjump := jump_pos remaining
        have hnext := ih hbefore (c + max (remaining - maxDstShiftMinutes) 1 * minuteMs) (by omega)
          (Int.dvd_add hc (Int.dvd_mul_left _ _))
        rw [← hfound] at hnext
        refine ⟨hnext.1, ?_, hnext.2.2⟩
        rcases hnext.2.1 with hle | heq
        · exact Or.inl (by omega)
        · exact Or.inr heq

variable (offset) in
/-- The offset changes by at most the largest shift in the 50 hours from an instant. -/
def Steady (now : ℤ) : Prop :=
  ∀ s t, now ≤ s → s ≤ t → t ≤ now + searchHorizonMinutes * minuteMs →
    |offset t - offset s| ≤ maxDstShiftMinutes

/-- A minute that a jump leaves out is quiet, unless the clock was turned back out of the window. -/
theorem quiet_of_jumped {now c t remaining : ℤ} (steady : Steady offset now) (hc : minuteMs ∣ c)
    (ht : minuteMs ∣ t) (later : now < c) (after : c < t)
    (before : t < c + (remaining - maxDstShiftMinutes) * minuteMs)
    (soon : t ≤ now + searchHorizonMinutes * minuteMs)
    (hclosing : window.recurring.closing (clockMinute offset c) = clockMinute offset c + remaining)
    (hopening : window.recurring.opening (clockMinute offset c) ≤ clockMinute offset t) :
    isQuiet offset window t = true := by
  rw [isQuiet_iff]
  apply RecurringWindow.inside_of_lt_closing hopening
  have hshift := abs_le.1 (steady c t later.le after.le soon)
  have hclock := @clockMinute_of_whole offset c hc
  have hclock' := @clockMinute_of_whole offset t ht
  rw [maxDstShiftMinutes] at *
  rw [minuteMs] at before
  omega

/-- A search that comes back with the horizon met no minute in reach outside quiet hours. -/
theorem search_gives_up {now horizon c : ℤ} (steady : Steady offset now)
    (whole : minuteMs ∣ horizon) (near : horizon ≤ now + searchHorizonMinutes * minuteMs)
    (hc : minuteMs ∣ c) (later : now < c)
    (covered : ∀ t, minuteMs ∣ t → now < t → t < horizon → t < c → InReach offset window now horizon t →
      isQuiet offset window t = true)
    (gaveUp : firstNonQuietFrom (minuteZone offset) window.start window.stop horizon c = horizon) :
    ∀ t, minuteMs ∣ t → now < t → t < horizon → InReach offset window now horizon t →
      isQuiet offset window t = true := by
  induction c using search_induction horizon with
  | step c ih =>
      rcases @search_cases offset window horizon c with ⟨hpast, -⟩ | ⟨hbefore, -, hfound⟩ |
        ⟨remaining, hbefore, hquiet, hclosing, ⟨hshown, hfound⟩ | ⟨-, hfound⟩⟩
      · intro t ht hnow hhorizon reach
        exact covered t ht hnow hhorizon (by omega) reach
      · omega
      · -- the window's closing is the horizon, and the minutes in reach are shown before it
        intro t ht hnow hhorizon reach
        have hend : c + remaining * minuteMs = horizon := hfound.symm.trans gaveUp
        rw [hend] at hshown
        rcases lt_trichotomy t c with hlt | rfl | hafter
        · exact covered t ht hnow hhorizon hlt reach
        · exact hquiet
        · have hsendable : isQuiet offset window horizon = false := by
            rw [isQuiet_eq_false_iff, RecurringWindow.inside_congr hshown]
            exact RecurringWindow.not_inside_closing _
          have hlast := reach.2.resolve_left (by rw [hsendable]; exact Bool.false_ne_true)
          have hshift := abs_le.1 (steady c horizon later.le hbefore.le near)
          have hclock := @clockMinute_of_whole offset c hc
          have hclock' := @clockMinute_of_whole offset horizon whole
          rw [isQuiet_iff]
          apply RecurringWindow.inside_of_lt_closing (reach.1 c hc later hafter hquiet)
          rw [maxDstShiftMinutes] at hshift
          rw [minuteMs] at hend
          omega
      · -- the minutes that the jump leaves out are quiet
        have hjump := jump_pos remaining
        refine ih hbefore (c + max (remaining - maxDstShiftMinutes) 1 * minuteMs) (by omega)
          (Int.dvd_add hc (Int.dvd_mul_left _ _)) (by omega) ?_ (hfound.symm.trans gaveUp)
        intro t ht hnow hhorizon hjumped reach
        rcases lt_trichotomy t c with hlt | rfl | hafter
        · exact covered t ht hnow hhorizon hlt reach
        · exact hquiet
        · have hbehind : t < c + (remaining - maxDstShiftMinutes) * minuteMs := by
            have hclock := @clockMinute_of_whole offset c hc
            have hclock' := @clockMinute_of_whole offset t ht
            rw [minuteMs] at *
            omega
          exact quiet_of_jumped steady hc ht later hafter hbehind (by omega) hclosing
            (reach.1 c hc later hafter hquiet)

/-! ## Where the offset stays -/

/-- The end of the quiet hours that hold an instant, if the offset stays until then. -/
def windowEnd (offset : ℤ → ℤ) (window : QuietWindow) (now : ℤ) : ℤ :=
  (now / minuteMs + (window.recurring.closing (clockMinute offset now) - clockMinute offset now)) *
    minuteMs

/-- The offset is the same from an instant up to another. -/
def StaysUntil (offset : ℤ → ℤ) (now stop : ℤ) : Prop :=
  ∀ t, now ≤ t → t < stop → offset t = offset now

/-- Quiet hours end less than a day later, at a whole minute outside them. -/
theorem windowEnd_mem {now : ℤ} (inside : isQuiet offset window now = true)
    (last : offset (windowEnd offset window now) = offset now ∨
      isQuiet offset window (windowEnd offset window now) = false) :
    (now / minuteMs * minuteMs + minuteMs ≤ windowEnd offset window now ∧
      windowEnd offset window now < now / minuteMs * minuteMs + 1440 * minuteMs) ∧
    minuteMs ∣ windowEnd offset window now ∧
    isQuiet offset window (windowEnd offset window now) = false := by
  have hremaining := remaining_mem inside (add_sub_cancel _ _).symm
  refine ⟨?_, Int.dvd_mul_left _ _, ?_⟩
  · rw [windowEnd]
    rw [minuteMs] at *
    omega
  · rcases last with hsame | hfree
    · have hclock : clockMinute offset (windowEnd offset window now) =
          window.recurring.closing (clockMinute offset now) := by
        rw [clockMinute, hsame, windowEnd, Int.mul_ediv_cancel _ (by decide), clockMinute]
        ring
      rw [isQuiet_eq_false_iff, hclock]
      exact RecurringWindow.not_inside_closing _
    · exact hfree

/-- While the offset stays, the clock shows the minutes up to the closing one after the other. -/
theorem quiet_of_stays {now t : ℤ}
    (stays : StaysUntil offset now (windowEnd offset window now)) (later : now < t)
    (before : t < windowEnd offset window now) :
    isQuiet offset window t = true ∧
      window.recurring.closing (clockMinute offset t) =
        window.recurring.closing (clockMinute offset now) ∧
      clockMinute offset t = clockMinute offset now + (t / minuteMs - now / minuteMs) := by
  have hclock : clockMinute offset t = clockMinute offset now + (t / minuteMs - now / minuteMs) := by
    rw [clockMinute, clockMinute, stays t later.le before]
    ring
  have hopening := @RecurringWindow.opening_le window.recurring (clockMinute offset now)
  have hlt : clockMinute offset t < window.recurring.closing (clockMinute offset now) := by
    rw [windowEnd] at before
    rw [minuteMs] at *
    omega
  have hle : window.recurring.opening (clockMinute offset now) ≤ clockMinute offset t := by
    rw [minuteMs] at *
    omega
  refine ⟨?_, RecurringWindow.closing_eq hle hlt, hclock⟩
  rw [isQuiet_iff]
  exact RecurringWindow.inside_of_lt_closing hle hlt

/-- While the offset stays, a search comes to the window's end. -/
theorem search_exact {now horizon c : ℤ}
    (stays : StaysUntil offset now (windowEnd offset window now))
    (sendable : isQuiet offset window (windowEnd offset window now) = false)
    (near : windowEnd offset window now < horizon) (hc : minuteMs ∣ c) (later : now < c)
    (le : c ≤ windowEnd offset window now) :
    firstNonQuietFrom (minuteZone offset) window.start window.stop horizon c =
      windowEnd offset window now := by
  induction c using search_induction horizon with
  | step c ih =>
      rcases le.eq_or_lt with rfl | hlt
      · rcases @search_cases offset window horizon (windowEnd offset window now) with
          ⟨hpast, -⟩ | ⟨-, -, hfound⟩ | ⟨remaining, -, hquiet, -⟩
        · omega
        · exact hfound
        · rw [sendable] at hquiet
          cases hquiet
      · obtain ⟨hquiet, hsame, hclock⟩ := quiet_of_stays stays later hlt
        have hend : ∀ remaining,
            window.recurring.closing (clockMinute offset c) = clockMinute offset c + remaining →
            c + remaining * minuteMs = windowEnd offset window now := by
          intro remaining hclosing
          rw [windowEnd]
          rw [minuteMs] at *
          omega
        rcases @search_cases offset window horizon c with ⟨hpast, -⟩ | ⟨-, hsendable, -⟩ |
          ⟨remaining, hbefore, -, hclosing, ⟨-, hfound⟩ | ⟨-, hfound⟩⟩
        · omega
        · rw [hquiet] at hsendable
          cases hsendable
        · rw [hfound, hend remaining hclosing]
        · have hjump := jump_pos remaining
          have hremaining := (remaining_mem hquiet hclosing).1
          rw [hfound]
          apply ih hbefore (c + max (remaining - maxDstShiftMinutes) 1 * minuteMs) (by omega)
            (Int.dvd_add hc (Int.dvd_mul_left _ _)) (by omega)
          rw [← hend remaining hclosing]
          rw [maxDstShiftMinutes, minuteMs] at *
          omega

/-! ## The end of quiet hours -/

/-- The horizon of a search from an instant. -/
def searchHorizon (now : ℤ) : ℤ := now / minuteMs * minuteMs + searchHorizonMinutes * minuteMs

theorem searchHorizon_mem (now : ℤ) :
    minuteMs ∣ searchHorizon now ∧ now < searchHorizon now ∧
      searchHorizon now ≤ now + searchHorizonMinutes * minuteMs := by
  refine ⟨Int.dvd_add (Int.dvd_mul_left _ _) (Int.dvd_mul_left _ _), ?_⟩
  simp only [searchHorizon, searchHorizonMinutes, minuteMs]
  omega

/-- The first candidate is the first whole minute after an instant. -/
theorem first_candidate (now : ℤ) :
    minuteMs ∣ now / minuteMs * minuteMs + minuteMs ∧ now < now / minuteMs * minuteMs + minuteMs ∧
      ∀ t, minuteMs ∣ t → now < t → now / minuteMs * minuteMs + minuteMs ≤ t := by
  refine ⟨Int.dvd_add (Int.dvd_mul_left _ _) (Int.dvd_refl _), ?_, ?_⟩
  · rw [minuteMs]
    omega
  · intro t ht hnow
    rw [minuteMs] at *
    omega

/-- Quiet hours are left at a whole minute outside them or put off to the horizon. -/
theorem firstNonQuietMinute_finds (now : ℤ) :
    let found := firstNonQuietMinute (minuteZone offset) window.start window.stop now
    now < found ∧ minuteMs ∣ found ∧ (isQuiet offset window found = false ∨ found = searchHorizon now) := by
  intro found
  obtain ⟨hwhole, hahead, -⟩ := searchHorizon_mem now
  obtain ⟨hcandidate, hlater, -⟩ := first_candidate now
  obtain ⟨hdvd, hfrom, hquiet⟩ := @search_finds offset window (searchHorizon now) _ hwhole hcandidate
  refine ⟨?_, hdvd, hquiet⟩
  rcases hfrom with hle | heq
  · exact hlater.trans_le hle
  · exact hahead.trans_eq heq.symm

/-- Minutes in reach are quiet where quiet hours are put off to the horizon; while the offset stays until
they end, they are left at their end. -/
theorem quiet_hours_end (offset : ℤ → ℤ) (window : QuietWindow) (now : ℤ)
    (inside : isQuiet offset window now = true) (steady : Steady offset now) :
    let found := firstNonQuietMinute (minuteZone offset) window.start window.stop now
    now < found ∧ minuteMs ∣ found ∧
      (isQuiet offset window found = false ∨ found = searchHorizon now) ∧
      (found = searchHorizon now → ∀ t, minuteMs ∣ t → now < t → t < searchHorizon now →
        InReach offset window now (searchHorizon now) t → isQuiet offset window t = true) ∧
      (StaysUntil offset now (windowEnd offset window now) →
        (offset (windowEnd offset window now) = offset now ∨
          isQuiet offset window (windowEnd offset window now) = false) →
        IsLeast {t | minuteMs ∣ t ∧ now < t ∧ isQuiet offset window t = false} found) := by
  intro found
  obtain ⟨hwhole, -, hnear⟩ := searchHorizon_mem now
  obtain ⟨hcandidate, hlater, hfirst⟩ := first_candidate now
  obtain ⟨hafter, hdvd, hquiet⟩ := @firstNonQuietMinute_finds offset window now
  refine ⟨hafter, hdvd, hquiet, ?_, ?_⟩
  · intro gaveUp
    apply search_gives_up steady hwhole hnear hcandidate hlater _ gaveUp
    intro t ht hnow _ hbefore
    have hle := hfirst t ht hnow
    omega
  · intro stays hlast
    obtain ⟨⟨hfrom, hday⟩, hend, hsendable⟩ := windowEnd_mem inside hlast
    have hbefore : windowEnd offset window now < searchHorizon now := by
      rw [searchHorizon, searchHorizonMinutes]
      rw [minuteMs] at *
      omega
    have hfound : found = windowEnd offset window now :=
      search_exact stays hsendable hbefore hcandidate hlater hfrom
    rw [hfound]
    refine ⟨⟨hend, by omega, hsendable⟩, ?_⟩
    rintro t ⟨-, hnow, hfree⟩
    by_contra hearlier
    have hearly := (quiet_of_stays stays hnow (not_le.1 hearlier)).1
    rw [hfree] at hearly
    cases hearly

/-- A night in a zone whose clocks go forward by an hour at 02:00. -/
def springForward (t : ℤ) : ℤ := if t < 7200000 then 0 else 60

def nightWindow : QuietWindow := ⟨1320, 420, by omega, by omega, by omega⟩

theorem quiet_hours_end_spring :
    let found := firstNonQuietMinute (minuteZone springForward) 1320 420 0
    0 < found ∧ minuteMs ∣ found ∧
      (isQuiet springForward nightWindow found = false ∨ found = 180000000) := by
  have hsteady : Steady springForward 0 := by
    intro s t _ _ _
    rw [abs_le, springForward, springForward, maxDstShiftMinutes]
    split_ifs <;> omega
  obtain ⟨hlater, hwhole, hfree, -⟩ := quiet_hours_end springForward nightWindow 0 (by decide) hsteady
  exact ⟨hlater, hwhole, hfree⟩

/-- A delivery is put off only in quiet hours, to a later whole minute outside them or the horizon. -/
theorem deliveryTiming_defer {input : DeliveryTimingInput} {release : ℤ}
    (hzone : input.timezone = minuteZone offset) (h : deliveryTiming input = .ok (.defer release)) :
    ∃ window : QuietWindow, isQuiet offset window input.now = true ∧
      input.now < release ∧ minuteMs ∣ release ∧
      (isQuiet offset window release = false ∨ release = searchHorizon input.now) := by
  rw [deliveryTiming] at h
  split_ifs at h
  · cases h
  split at h
  · obtain ⟨start, hstart, h⟩ := ok_of_bind h
    obtain ⟨stop, hstop, h⟩ := ok_of_bind h
    split_ifs at h with hquiet
    · cases h
    · rw [Bool.not_eq_true', Bool.not_eq_false] at hquiet
      have hdistinct : start ≠ stop := by
        rintro rfl
        rw [isQuietMinute, if_pos rfl] at hquiet
        cases hquiet
      cases h
      rw [hzone] at hquiet ⊢
      let window : QuietWindow :=
        ⟨start, stop, minuteOfDay_mem hstart, minuteOfDay_mem hstop, hdistinct⟩
      exact ⟨window, hquiet, @firstNonQuietMinute_finds offset window input.now⟩
  · cases h

end ReputationKey.Feed
