import ReputationKey.Shared.PropertyCalendar

/-!
# Wall clocks and instants undo each other

In a zone whose offset changes at most once in 72 hours, the three samples around a local time know
every offset its instants have. So a wall clock that exists is resolved to its earliest instant, and
one that is skipped to the first later minute that exists. The dates of the language set the limits:
a year of two digits is taken for one of the last century, and a date ends at its last instant.
-/

namespace ReputationKey.Shared

open Base Civil

/-- A wall clock whose year is taken for itself, far enough inside the dates for every sample around
it and around the next three hours. -/
structure Resolvable (target : WallClock) : Prop where
  fullYear : fullYear target.year = target.year
  inside : InsideDates target.toEpoch
  ahead : InsideDates (target.toEpoch + 3 * hourMillis)

variable {intl : String → Zone} {timezone : String}

/-! ## The exact instants -/

/-- The wall clock of an instant is what the zone's clocks show, to the millisecond. -/
theorem propertyWallClockAt_reads :
    ReadsLocal (propertyWallClockAt intl) (intl timezone) timezone 1 := by
  intro t hlow
  rw [propertyWallClockAt, printed_of_hundred_le (hundred_le_year hlow), Int.emod_one, sub_zero]

/-- A zone whose offset changes at most once in 72 hours, read to the millisecond. -/
theorem readableZone (offsets : Offsets (intl timezone))
    (once : (intl timezone).ChangesAtMostOnce (72 * hourMillis)) :
    ReadableZone (propertyWallClockAt intl) (intl timezone) timezone 1 where
  reads := propertyWallClockAt_reads
  hour := one_dvd _
  offset := fun _ ↦ one_dvd _
  within := offsets
  once := once

/-- The exact instants are those whose wall clock is the target, the earliest first. -/
theorem exactInstantsForWallClock_spec {target : WallClock}
    (year : fullYear target.year = target.year) (inside : InsideDates target.toEpoch)
    (offsets : Offsets (intl timezone)) (once : (intl timezone).ChangesAtMostOnce (72 * hourMillis)) :
    ∃ instants, exactInstantsForWallClock intl target timezone = .ok instants ∧
      instants.Pairwise (· ≤ ·) ∧
      ∀ t, t ∈ instants ↔ WallClock.ofEpoch ((intl timezone).localAt t) = target := by
  obtain ⟨instants, hinstants, hmem⟩ :=
    (readableZone offsets once).sampledInstants_spec year inside (one_dvd _)
  refine ⟨_, ?_, List.pairwise_mergeSort' (· ≤ ·) instants, ?_⟩
  · rw [exactInstantsForWallClock, hinstants]
    rfl
  · intro t
    rw [List.mem_mergeSort]
    exact hmem t

/-! ## Resolving -/

/-- An instant at which a zone shows a wall clock. -/
def ShowsAt (zone : Zone) (clock : WallClock) (t : ℤ) : Prop := WallClock.ofEpoch (zone.localAt t) = clock

/-- A wall clock so many minutes later. -/
def advanced (clock : WallClock) (minutes : ℕ) : WallClock := .ofEpoch (clock.toEpoch + minutes * 60000)

theorem advanced_toEpoch (clock : WallClock) (minutes : ℕ) :
    (advanced clock minutes).toEpoch = clock.toEpoch + minutes * 60000 := WallClock.toEpoch_ofEpoch _

/-- The first of the exact instants is the earliest. -/
theorem isLeast_of_sorted {instants : List ℤ} {p : ℤ → Prop} {first : ℤ} {rest : List ℤ}
    (sorted : instants.Pairwise (· ≤ ·)) (mem : ∀ t, t ∈ instants ↔ p t)
    (h : instants = first :: rest) : IsLeast {t | p t} first := by
  rw [h] at sorted mem
  refine ⟨(mem first).1 List.mem_cons_self, ?_⟩
  intro t ht
  rcases List.mem_cons.1 ((mem t).2 ht) with rfl | hrest
  · exact le_rfl
  · exact List.rel_of_pairwise_cons sorted hrest

/-- A later minute that exists ends the search. -/
theorem firstAdvanced_found {localEpoch : TimeValue} {minute : ℕ} {later : List ℕ} {shifted first : ℤ}
    {rest : List ℤ}
    (clip : (localEpoch.bind fun epoch ↦ timeClip (epoch + minute * 60000)) = some shifted)
    (found : exactInstantsForWallClock intl (.ofEpoch shifted) timezone = .ok (first :: rest)) :
    firstAdvanced intl localEpoch timezone (minute :: later) = .ok first := by
  rw [firstAdvanced, clip]
  simp only [found]
  rfl

/-- A later minute that is skipped too leaves the search to the ones after it. -/
theorem firstAdvanced_skipped {localEpoch : TimeValue} {minute : ℕ} {later : List ℕ} {shifted : ℤ}
    (clip : (localEpoch.bind fun epoch ↦ timeClip (epoch + minute * 60000)) = some shifted)
    (empty : exactInstantsForWallClock intl (.ofEpoch shifted) timezone = .ok []) :
    firstAdvanced intl localEpoch timezone (minute :: later) =
      firstAdvanced intl localEpoch timezone later := by
  rw [firstAdvanced, clip]
  simp only [empty]
  rfl

/-- Advancing minute by minute ends at the first minute of the list that exists. -/
theorem firstAdvanced_spec {target : WallClock} (h : Resolvable target)
    (offsets : Offsets (intl timezone)) (once : (intl timezone).ChangesAtMostOnce (72 * hourMillis))
    {before after : List ℕ} {minute : ℕ} (bound : ∀ m ∈ before, m ≤ 180) (bound' : minute ≤ 180)
    (skipped : ∀ m ∈ before, ∀ t, ¬ ShowsAt (intl timezone) (advanced target m) t)
    {t : ℤ} (shown : ShowsAt (intl timezone) (advanced target minute) t) :
    ∃ r, firstAdvanced intl (some target.toEpoch) timezone (before ++ minute :: after) = .ok r ∧
      IsLeast {t | ShowsAt (intl timezone) (advanced target minute) t} r := by
  have hstep (m : ℕ) (hm : m ≤ 180) :
      ((some target.toEpoch).bind fun epoch ↦ timeClip (epoch + m * 60000)) =
        some (target.toEpoch + m * 60000) ∧
      ∃ instants, exactInstantsForWallClock intl (advanced target m) timezone = .ok instants ∧
        instants.Pairwise (· ≤ ·) ∧
        ∀ t, t ∈ instants ↔ ShowsAt (intl timezone) (advanced target m) t := by
    have hinside : InsideDates (target.toEpoch + m * 60000) := by
      obtain ⟨hlow, -⟩ := h.inside
      obtain ⟨-, hhigh⟩ := h.ahead
      constructor <;> simp only [hourMillis] at * <;> omega
    refine ⟨timeClip_of_inside hinside (by simp only [hourMillis]; omega)
      (by simp only [hourMillis]; omega), ?_⟩
    apply exactInstantsForWallClock_spec
    · apply fullYear_of_hundred_le
      apply hundred_le_year
      have := hinside.1
      simp only [hourMillis] at this
      omega
    · rwa [advanced_toEpoch]
    · exact offsets
    · exact once
  induction before with
  | nil =>
      obtain ⟨hclip, instants, hinstants, hsorted, hmem⟩ := hstep minute bound'
      rw [List.nil_append]
      cases hlist : instants with
      | nil =>
          rw [hlist] at hmem
          exact absurd ((hmem t).2 shown) List.not_mem_nil
      | cons first rest =>
          rw [hlist] at hinstants
          exact ⟨first, firstAdvanced_found hclip hinstants, isLeast_of_sorted hsorted hmem hlist⟩
  | cons m before ih =>
      obtain ⟨hclip, instants, hinstants, -, hmem⟩ := hstep m (bound m List.mem_cons_self)
      have hempty : instants = [] := by
        rw [List.eq_nil_iff_forall_not_mem]
        intro s hs
        exact skipped m List.mem_cons_self s ((hmem s).1 hs)
      rw [hempty] at hinstants
      rw [List.cons_append, firstAdvanced_skipped hclip hinstants]
      exact ih (fun m mem ↦ bound m (List.mem_cons_of_mem _ mem))
        (fun m mem ↦ skipped m (List.mem_cons_of_mem _ mem))

/-- A wall clock without an exact instant is searched for among the later minutes. -/
theorem propertyWallClockToInstant_of_empty {target : WallClock}
    (empty : exactInstantsForWallClock intl target timezone = .ok []) :
    propertyWallClockToInstant intl target timezone =
      firstAdvanced intl (dateUTC target) timezone (List.range' 1 180) := by
  rw [propertyWallClockToInstant, empty]
  rfl

theorem Resolvable.dateUTC_eq {target : WallClock} (h : Resolvable target) :
    dateUTC target = some target.toEpoch := by
  rw [dateUTC_of_fullYear h.fullYear]
  exact timeClip_of_inside h.inside (by simp only [hourMillis]; omega)
    (by simp only [hourMillis]; omega)

/-- A wall clock that is shown is resolved to the earliest instant that shows it. -/
theorem propertyWallClockToInstant_shown {target : WallClock} (h : Resolvable target)
    (offsets : Offsets (intl timezone)) (once : (intl timezone).ChangesAtMostOnce (72 * hourMillis))
    {t : ℤ} (shown : ShowsAt (intl timezone) target t) :
    ∃ r, propertyWallClockToInstant intl target timezone = .ok r ∧
      IsLeast {t | ShowsAt (intl timezone) target t} r := by
  obtain ⟨instants, hinstants, hsorted, hmem⟩ :=
    exactInstantsForWallClock_spec h.fullYear h.inside offsets once
  cases hlist : instants with
  | nil =>
      rw [hlist] at hmem
      exact absurd ((hmem t).2 shown) List.not_mem_nil
  | cons first rest =>
      refine ⟨first, ?_, isLeast_of_sorted hsorted hmem hlist⟩
      rw [propertyWallClockToInstant, hinstants, hlist]
      rfl

/-- A wall clock that is skipped is resolved to the earliest instant of the first later minute that
is shown. -/
theorem propertyWallClockToInstant_skipped {target : WallClock} (h : Resolvable target)
    (offsets : Offsets (intl timezone)) (once : (intl timezone).ChangesAtMostOnce (72 * hourMillis))
    (skipped : ∀ t, ¬ ShowsAt (intl timezone) target t) {minutes : ℕ}
    (least : IsLeast {m | 1 ≤ m ∧ ∃ t, ShowsAt (intl timezone) (advanced target m) t} minutes)
    (bound : minutes ≤ 180) :
    ∃ r, propertyWallClockToInstant intl target timezone = .ok r ∧
      IsLeast {t | ShowsAt (intl timezone) (advanced target minutes) t} r := by
  obtain ⟨instants, hinstants, -, hmem⟩ :=
    exactInstantsForWallClock_spec h.fullYear h.inside offsets once
  have hempty : instants = [] := by
    rw [List.eq_nil_iff_forall_not_mem]
    intro s hs
    exact skipped s ((hmem s).1 hs)
  obtain ⟨⟨hpos, t, hshown⟩, hleast⟩ := least
  have hsplit : List.range' 1 180 =
      List.range' 1 (minutes - 1) ++ minutes :: List.range' (minutes + 1) (180 - minutes) := by
    rw [← List.range'_succ]
    have happend := @List.range'_append 1 (minutes - 1) (180 - minutes + 1) 1
    rw [show 1 + 1 * (minutes - 1) = minutes by omega,
      show minutes - 1 + (180 - minutes + 1) = 180 by omega] at happend
    exact happend.symm
  obtain ⟨r, hr, hrleast⟩ := @firstAdvanced_spec intl timezone target h offsets once
    (List.range' 1 (minutes - 1)) (List.range' (minutes + 1) (180 - minutes)) minutes
    (by
      intro m mem
      rw [List.mem_range'_1] at mem
      omega) bound
    (by
      intro m mem s hs
      rw [List.mem_range'_1] at mem
      have := hleast ⟨mem.1, s, hs⟩
      omega) _ hshown
  refine ⟨r, ?_, hrleast⟩
  rw [hempty] at hinstants
  rw [propertyWallClockToInstant_of_empty hinstants, h.dateUTC_eq, hsplit]
  exact hr

/-- A gap of at most 180 minutes ends within 180 minutes. -/
theorem gap_ends {zone : Zone} {target : WallClock} (offsets : Offsets zone)
    (once : zone.ChangesAtMostOnce (72 * hourMillis)) (wellFormed : .ofEpoch target.toEpoch = target)
    (skipped : ∀ t, ¬ ShowsAt zone target t)
    (gap : ∀ change, zone.localAt (change - 1) < target.toEpoch → target.toEpoch < zone.localAt change →
      zone.offset change - zone.offset (change - 1) ≤ 180 * 60000) :
    ∃ minutes : ℕ, 1 ≤ minutes ∧ minutes ≤ 180 ∧ ∃ t, ShowsAt zone (advanced target minutes) t := by
  have honce : zone.ChangesAtMostOnce (2 * (36 * hourMillis)) := by
    rwa [← mul_assoc]
  have hwithin : zone.Within (-(36 * hourMillis)) (36 * hourMillis) := by
    intro s
    have := offsets s
    simp only [hourMillis] at *
    omega
  obtain ⟨change, hbefore, hafter, hsame⟩ := honce.skipped hwithin (by
    intro t ht
    apply skipped t
    rw [ShowsAt, ht, wellFormed])
  have hgap := gap change hbefore hafter
  have hbound := offsets (change - 1)
  generalize hwait : zone.localAt change - target.toEpoch = wait at *
  obtain ⟨minutes, hminutes⟩ := Int.eq_ofNat_of_zero_le (show 0 ≤ (wait + 59999) / 60000 by omega)
  refine ⟨minutes, ?_, ?_, target.toEpoch + minutes * 60000 - zone.offset change, ?_⟩
  · omega
  · simp only [Zone.localAt] at *
    omega
  · have hstays := hsame (target.toEpoch + minutes * 60000 - zone.offset change)
      (by simp only [Zone.localAt, hourMillis] at *; omega)
      (by simp only [Zone.localAt, hourMillis] at *; omega)
    rw [ShowsAt, advanced, Zone.localAt, hstays, sub_add_cancel]

/-! ## Instants and their wall clocks -/

/-- The wall clock of an instant inside the dates is what the zone's clocks show. -/
theorem propertyWallClockAt_ofInstant {t : ℤ}
    (h : Resolvable (.ofEpoch ((intl timezone).localAt t))) :
    propertyWallClockAt intl (some t) timezone = .ok (.ofEpoch ((intl timezone).localAt t)) := by
  have hlow := h.inside.1
  rw [WallClock.toEpoch_ofEpoch] at hlow
  have hreads := @propertyWallClockAt_reads intl timezone t (by
    simp only [hourMillis] at hlow
    omega)
  rwa [Int.emod_one, sub_zero] at hreads

/-- Resolving the wall clock of an instant gives that instant or, in the second pass of a repeated
hour, the same wall clock in the first. -/
theorem propertyWallClockToInstant_ofInstant (offsets : Offsets (intl timezone))
    (once : (intl timezone).ChangesAtMostOnce (72 * hourMillis)) {t : ℤ}
    (h : Resolvable (.ofEpoch ((intl timezone).localAt t))) :
    ∃ r, propertyWallClockToInstant intl (.ofEpoch ((intl timezone).localAt t)) timezone = .ok r ∧
      r ≤ t ∧ (r = t ↔ ¬ ∃ s < t, (intl timezone).localAt s = (intl timezone).localAt t) := by
  obtain ⟨r, hr, hshown, hleast⟩ := propertyWallClockToInstant_shown h offsets once (t := t) rfl
  have hle : r ≤ t := hleast rfl
  refine ⟨r, hr, hle, ?_⟩
  constructor
  · rintro rfl ⟨s, hlt, hsame⟩
    have := hleast (show ShowsAt (intl timezone) _ s by rw [ShowsAt, hsame])
    omega
  · intro hfirst
    by_contra hne
    exact hfirst ⟨r, by omega, WallClock.ofEpoch_injective hshown⟩

/-- Shifting by no days resolves the wall clock of the instant. -/
theorem shiftPropertyLocalDays_zero {t : ℤ}
    (h : Resolvable (.ofEpoch ((intl timezone).localAt t))) :
    shiftPropertyLocalDays intl (some t) (.finite 0) timezone =
      propertyWallClockToInstant intl (.ofEpoch ((intl timezone).localAt t)) timezone := by
  have hshown := propertyWallClockAt_ofInstant h
  have hutc := h.dateUTC_eq
  rw [WallClock.toEpoch_ofEpoch] at hutc
  simp only [shiftPropertyLocalDays, JsNumber.toBigInt, Rat.den_ofNat, if_true, hshown, bind,
    Except.bind, Rat.num_ofNat, add_zero, hutc]

/-- In a zone whose offset changes at most once in 72 hours, a wall clock inside the dates of the
language is resolved to the earliest instant that shows it, a skipped one to the earliest instant of
the first later minute shown, and the wall clock of an instant to that instant unless it is a second
pass. -/
theorem wall_clock_inverts_zone (offsets : Offsets (intl timezone))
    (once : (intl timezone).ChangesAtMostOnce (72 * hourMillis)) :
    (∀ target : WallClock, Resolvable target → ∀ t, ShowsAt (intl timezone) target t →
      ∃ r, propertyWallClockToInstant intl target timezone = .ok r ∧
        IsLeast {t | ShowsAt (intl timezone) target t} r) ∧
    (∀ target : WallClock, Resolvable target → (∀ t, ¬ ShowsAt (intl timezone) target t) →
      ∀ minutes, IsLeast {m | 1 ≤ m ∧ ∃ t, ShowsAt (intl timezone) (advanced target m) t} minutes →
        minutes ≤ 180 →
        ∃ r, propertyWallClockToInstant intl target timezone = .ok r ∧
          IsLeast {t | ShowsAt (intl timezone) (advanced target minutes) t} r) ∧
    (∀ target : WallClock, .ofEpoch target.toEpoch = target →
      (∀ t, ¬ ShowsAt (intl timezone) target t) →
      (∀ change, (intl timezone).localAt (change - 1) < target.toEpoch →
        target.toEpoch < (intl timezone).localAt change →
        (intl timezone).offset change - (intl timezone).offset (change - 1) ≤ 180 * 60000) →
      ∃ minutes, IsLeast {m | 1 ≤ m ∧ ∃ t, ShowsAt (intl timezone) (advanced target m) t} minutes ∧
        minutes ≤ 180) ∧
    (∀ t, Resolvable (.ofEpoch ((intl timezone).localAt t)) →
      propertyWallClockAt intl (some t) timezone = .ok (.ofEpoch ((intl timezone).localAt t)) ∧
      ∃ r, propertyWallClockToInstant intl (.ofEpoch ((intl timezone).localAt t)) timezone = .ok r ∧
        r ≤ t ∧ (r = t ↔ ¬ ∃ s < t, (intl timezone).localAt s = (intl timezone).localAt t) ∧
        shiftPropertyLocalDays intl (some t) (.finite 0) timezone = .ok r) := by
  refine ⟨?_, ?_, ?_, ?_⟩
  · intro target h t shown
    exact propertyWallClockToInstant_shown h offsets once shown
  · intro target h skipped minutes least bound
    exact propertyWallClockToInstant_skipped h offsets once skipped least bound
  · intro target wellFormed skipped gap
    classical
    obtain ⟨minutes, hpos, hbound, hshown⟩ := gap_ends offsets once wellFormed skipped gap
    have hexists : ∃ m, 1 ≤ m ∧ ∃ t, ShowsAt (intl timezone) (advanced target m) t :=
      ⟨minutes, hpos, hshown⟩
    refine ⟨Nat.find hexists, ⟨Nat.find_spec hexists, fun m hm ↦ Nat.find_min' hexists hm⟩, ?_⟩
    exact (Nat.find_min' hexists ⟨hpos, hshown⟩).trans hbound
  · intro t h
    refine ⟨propertyWallClockAt_ofInstant h, ?_⟩
    obtain ⟨r, hr, hle, hfirst⟩ := propertyWallClockToInstant_ofInstant offsets once h
    exact ⟨r, hr, hle, hfirst, (shiftPropertyLocalDays_zero h).trans hr⟩

/-- A zone whose clocks go forward an hour at one instant. -/
def springForward (change : ℤ) : Zone := ⟨fun t ↦ if t < change then -18000000 else -14400000⟩

theorem springForward_offsets (change : ℤ) : Offsets (springForward change) := by
  intro t
  simp only [springForward, hourMillis]
  split_ifs <;> omega

theorem springForward_once (change span : ℤ) : (springForward change).ChangesAtMostOnce span := by
  intro t
  refine ⟨change, ?_⟩
  intro s hfrom hto
  simp only [springForward]
  constructor
  · intro hbefore
    rw [if_pos hbefore, if_pos (by omega)]
  · intro hafter
    rw [if_neg (by omega), if_neg (by omega)]

/-- Its clocks show no local time of the hour that is skipped. -/
theorem springForward_localAt (change t : ℤ) :
    (springForward change).localAt t < change - 18000000 ∨
      change - 14400000 ≤ (springForward change).localAt t := by
  simp only [Zone.localAt, springForward]
  split_ifs <;> omega

/-- Half past two on a morning that goes from two to three: 2026-03-08 in New York. -/
theorem wall_clock_inverts_zone_skipped :
    ∃ r, propertyWallClockToInstant (fun _ ↦ springForward 1772953200000)
        ⟨2026, 3, 8, 2, 30, 0, 0⟩ "America/New_York" = .ok r ∧
      IsLeast {t | ShowsAt (springForward 1772953200000) ⟨2026, 3, 8, 3, 0, 0, 0⟩ t} r := by
  have hepoch : WallClock.toEpoch ⟨2026, 3, 8, 2, 30, 0, 0⟩ = 1772937000000 := by decide
  have hthree : advanced ⟨2026, 3, 8, 2, 30, 0, 0⟩ 30 = ⟨2026, 3, 8, 3, 0, 0, 0⟩ := by decide
  have hskipped (m : ℕ) (hm : m < 30) (t : ℤ) :
      ¬ (springForward 1772953200000).localAt t = 1772937000000 + m * 60000 := by
    have := springForward_localAt 1772953200000 t
    omega
  rw [← hthree]
  refine (@wall_clock_inverts_zone (fun _ ↦ springForward 1772953200000) "America/New_York"
    (springForward_offsets _) (springForward_once _ _)).2.1 _ ⟨by decide, ?_, ?_⟩ ?_ 30 ⟨⟨by omega, ?_⟩, ?_⟩
    (by omega)
  · exact ⟨by decide, by decide⟩
  · exact ⟨by decide, by decide⟩
  · intro t hshown
    apply hskipped 0 (by omega) t
    rw [Nat.cast_zero, zero_mul, add_zero, ← hepoch, ← hshown, WallClock.toEpoch_ofEpoch]
  · exact ⟨1772953200000, by rw [hthree, ShowsAt]; decide⟩
  · rintro m ⟨-, t, hshown⟩
    by_contra hm
    apply hskipped m (by omega) t
    rw [← hepoch, ← advanced_toEpoch, ← hshown, WallClock.toEpoch_ofEpoch]

/-- A year of two digits is taken for one of the last century. -/
theorem wall_clock_of_two_digit_year :
    ShowsAt ⟨fun _ ↦ 0⟩ ⟨50, 1, 1, 0, 0, 0, 0⟩ (-60589296000000) ∧
      propertyWallClockToInstant (fun _ ↦ ⟨fun _ ↦ 0⟩) ⟨50, 1, 1, 0, 0, 0, 0⟩ "UTC" =
        .ok (-631151940000) := by
  constructor
  · rw [ShowsAt]
    decide
  · have hexact : exactInstantsForWallClock (fun _ ↦ ⟨fun _ ↦ 0⟩) ⟨50, 1, 1, 0, 0, 0, 0⟩ "UTC" =
        .ok [] := by
      have hsampled : sampledInstants (propertyWallClockAt fun _ ↦ ⟨fun _ ↦ 0⟩) ⟨50, 1, 1, 0, 0, 0, 0⟩ "UTC" = .ok [] := by
        decide +kernel
      rw [exactInstantsForWallClock, hsampled]
      simp [Except.map]
    have hnext : exactInstantsForWallClock (fun _ ↦ ⟨fun _ ↦ 0⟩) (.ofEpoch (-631151940000)) "UTC" =
        .ok [-631151940000] := by
      have hsampled : sampledInstants (propertyWallClockAt fun _ ↦ ⟨fun _ ↦ 0⟩) (.ofEpoch (-631151940000)) "UTC" =
          .ok [-631151940000] := by
        decide +kernel
      rw [exactInstantsForWallClock, hsampled]
      simp [Except.map]
    have hshifted : ((dateUTC ⟨50, 1, 1, 0, 0, 0, 0⟩).bind fun epoch ↦
        timeClip (epoch + (1 : ℕ) * 60000)) = some (-631151940000) := by
      decide
    have hminutes : List.range' 1 180 = 1 :: List.range' 2 179 := List.range'_succ
    rw [propertyWallClockToInstant_of_empty hexact, hminutes]
    exact firstAdvanced_found hshifted hnext

end ReputationKey.Shared
