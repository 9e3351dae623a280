import ReputationKey.Base.Refusal
import ReputationKey.Reporting.GoalNumberSteps
import Mathlib.Tactic.Linarith
import Mathlib.Tactic.FieldSimp

/-!
# Goal recommendation: the three choices

A rate is an exact sum over the joined Portals. For a month of given days it gives a usual number,
a bit more and a stretch, each on the grid of goal numbers and each at least a step above the one
before. For the rest of a month they stand on what already counts. Follows
`src/src/contexts/reporting/domain/goal-recommendation.ts`.
-/

namespace ReputationKey.Reporting

open Base

/-! ## Exact arithmetic -/

namespace ExactCount

/-- The greatest common divisor as the source finds it. -/
def gcd (a b : ℤ) : ℤ := if b = 0 then a else gcd b (a.tmod b)
termination_by b.natAbs
decreasing_by
  rw [Int.natAbs_tmod]
  exact Nat.mod_lt _ (by omega)

/-- `num / den` in lowest terms. -/
def exact (num den : ℤ) : ExactCount :=
  let common := gcd (if num < 0 then -num else num) den
  let divisor := if common = 0 then 1 else common
  ⟨num.tdiv divisor, den.tdiv divisor⟩

/-- An integer as an exact count. -/
def whole (value : JsNumber) : Except RangeError ExactCount :=
  value.toBigInt.map fun value ↦ exact value 1

def plus (a b : ExactCount) : ExactCount := exact (a.num * b.den + b.num * a.den) (a.den * b.den)

def times (a b : ExactCount) : ExactCount := exact (a.num * b.num) (a.den * b.den)

/-- The nearest integer, a half going up. -/
def halfUp (value : ExactCount) : JsNumber :=
  .ofInt ((2 * value.num + value.den).tdiv (2 * value.den))

theorem gcd_dvd (a b : ℤ) : gcd a b ∣ a ∧ gcd a b ∣ b := by
  fun_induction gcd a b with
  | case1 a => exact ⟨dvd_rfl, dvd_zero a⟩
  | case2 a b hb ih =>
      have hsum : gcd b (a.tmod b) ∣ b * a.tdiv b + a.tmod b := dvd_add (ih.1.mul_right _) ih.2
      rw [Int.mul_tdiv_add_tmod] at hsum
      exact ⟨hsum, ih.1⟩

theorem gcd_nonneg {a b : ℤ} (ha : 0 ≤ a) (hb : 0 ≤ b) : 0 ≤ gcd a b := by
  fun_induction gcd a b with
  | case1 a => exact ha
  | case2 a b hzero ih => exact ih hb (Int.tmod_nonneg b ha)

/-- Lowest terms are the same number. -/
theorem exact_spec {num den : ℤ} (nonneg : 0 ≤ num) (pos : 0 < den) :
    (exact num den).IsCount ∧ (exact num den).toRat = num / den := by
  have hsign : ¬ num < 0 := by omega
  have hdvd := gcd_dvd num den
  have hne : gcd num den ≠ 0 := by
    intro hzero
    have := hdvd.2
    rw [hzero, zero_dvd_iff] at this
    omega
  have hpos : 0 < gcd num den := lt_of_le_of_ne (gcd_nonneg nonneg pos.le) (Ne.symm hne)
  simp only [exact, hsign, if_false, hne]
  generalize gcd num den = divisor at hdvd hpos
  obtain ⟨⟨n, rfl⟩, ⟨d, rfl⟩⟩ := hdvd
  rw [Int.mul_tdiv_cancel_left _ hpos.ne', Int.mul_tdiv_cancel_left _ hpos.ne']
  refine ⟨⟨?_, ?_⟩, ?_⟩
  · exact (mul_nonneg_iff_of_pos_left hpos).1 nonneg
  · exact (mul_pos_iff_of_pos_left hpos).1 pos
  · have hdivisor : (divisor : ℚ) ≠ 0 := by exact_mod_cast hpos.ne'
    push_cast
    rw [toRat, mul_div_mul_left _ _ hdivisor]

theorem IsCount.den_ne {a : ExactCount} (h : a.IsCount) : (a.den : ℚ) ≠ 0 := by
  exact_mod_cast h.pos.ne'

theorem plus_spec {a b : ExactCount} (ha : a.IsCount) (hb : b.IsCount) :
    (plus a b).IsCount ∧ (plus a b).toRat = a.toRat + b.toRat := by
  have hnum : 0 ≤ a.num * b.den + b.num * a.den :=
    add_nonneg (mul_nonneg ha.nonneg hb.pos.le) (mul_nonneg hb.nonneg ha.pos.le)
  obtain ⟨hcount, hvalue⟩ := exact_spec hnum (mul_pos ha.pos hb.pos)
  refine ⟨hcount, hvalue.trans ?_⟩
  rw [toRat, toRat, div_add_div _ _ ha.den_ne hb.den_ne]
  push_cast
  ring

theorem times_spec {a b : ExactCount} (ha : a.IsCount) (hb : b.IsCount) :
    (times a b).IsCount ∧ (times a b).toRat = a.toRat * b.toRat := by
  obtain ⟨hcount, hvalue⟩ := exact_spec (mul_nonneg ha.nonneg hb.nonneg) (mul_pos ha.pos hb.pos)
  refine ⟨hcount, hvalue.trans ?_⟩
  rw [toRat, toRat, div_mul_div_comm]
  push_cast
  rfl

theorem whole_natCast (n : ℕ) : whole (.finite n) = .ok (exact n 1) := by
  simp [whole, JsNumber.toBigInt, Except.map]

theorem whole_spec (n : ℕ) : (exact n 1).IsCount ∧ (exact n 1).toRat = n := by
  have h := exact_spec (Int.natCast_nonneg n) Int.one_pos
  simpa using h

end ExactCount

open ExactCount

/-- An exact number for the wire. -/
structure PortalGoalRatio where
  num : String
  den : String
  deriving DecidableEq, Repr

def onTheWire (value : ExactCount) : PortalGoalRatio := ⟨toString value.num, toString value.den⟩

/-! ## Choices -/

def liftABitMore : ExactCount := ⟨11, 10⟩

def liftStretch : ExactCount := ⟨6, 5⟩

theorem liftABitMore_isCount : liftABitMore.IsCount := ⟨by decide, by decide⟩

theorem liftStretch_isCount : liftStretch.IsCount := ⟨by decide, by decide⟩

theorem liftABitMore_toRat : liftABitMore.toRat = 11 / 10 := by
  rw [ExactCount.toRat, liftABitMore]
  norm_num

theorem liftStretch_toRat : liftStretch.toRat = 6 / 5 := by
  rw [ExactCount.toRat, liftStretch]
  norm_num

/-- The measures a Portal goal counts. -/
inductive PortalGoalMeasure
  | portalRatingCount
  | qualifiedScans
  deriving DecidableEq, Repr

/-- A joined Portal's part of a rate: its readings on its live days in the basis. -/
structure RateMember where
  window : PortalGoalMeasure → ℕ
  liveDays : ℕ

/-- Each joined Portal's readings on its live days over its live days, summed. -/
def rateOf (members : List RateMember) (measure : PortalGoalMeasure) : ExactCount :=
  members.foldl (fun rate member ↦ plus rate (exact (member.window measure) member.liveDays))
    (exact 0 1)

/-- The three choices, and the usual rounded half up. -/
structure Choices where
  usual : JsNumber
  aBitMore : JsNumber
  stretch : JsNumber
  about : JsNumber
  deriving DecidableEq, Repr

/-- `base` and a lifted `x`, rounded up to the grid. -/
def rounded (base x : ExactCount) (lift : Option ExactCount) : Except RangeError JsNumber :=
  goalStepAtOrAbove (plus base (match lift with | some lift => times x lift | none => x))

/-- The greater of two numbers, neither of which is refused. -/
def maxOf (a b : Except RangeError JsNumber) : Except RangeError JsNumber :=
  a.bind fun a ↦ b.map fun b ↦ a.max b

/-- The first choice; with `soFar`, at least a step above it. -/
def usualChoice (base x : ExactCount) (soFar : Option JsNumber) : Except RangeError JsNumber :=
  match soFar with
  | none => rounded base x none
  | some soFar => maxOf (rounded base x none) (goalStepUp soFar)

/-- The three choices from `x`, each at least a step above the one before. With `soFar` they are on
top of it, and the first is at least a step above it. -/
def liftedChoices (soFar : Option JsNumber) (x : ExactCount) : Except RangeError Choices := do
  let base ← whole (soFar.getD (.finite 0))
  let usual ← usualChoice base x soFar
  let aBitMore ← maxOf (rounded base x (some liftABitMore)) (goalStepUp usual)
  let stretch ← maxOf (rounded base x (some liftStretch)) (goalStepUp aBitMore)
  return { usual := usual, aBitMore := aBitMore, stretch := stretch, about := halfUp x }

/-- Whether a measure has a number. -/
inductive MeasureState
  | ready
  | nothing
  | unreadable
  deriving DecidableEq, Repr

/-- The days of the current month, those left with today, and the days of the next one. -/
structure GoalMonths where
  currentDays : ℕ
  currentDaysLeftWithToday : ℕ
  nextDays : ℕ
  deriving DecidableEq, Repr

/-- One value for the current month and one for the next. -/
structure InMonths (α : Type) where
  current : Option α
  next : Option α
  deriving DecidableEq, Repr

structure MeasureRecommendation where
  state : MeasureState
  usualPerMonth : InMonths PortalGoalRatio
  fullMonth : InMonths Choices
  fromToday : Option Choices
  usualFromToday : Option PortalGoalRatio
  deriving DecidableEq, Repr

/-- Unreadable when flagged, nothing when the rate is zero, else ready. -/
def measureState (isUnreadable : Bool) (rate : ExactCount) : MeasureState :=
  if isUnreadable then .unreadable else if rate.num = 0 then .nothing else .ready

def measureRecommendation (state : MeasureState) (rate : ExactCount) (months : GoalMonths)
    (soFar : JsNumber) : Except RangeError MeasureRecommendation :=
  if state ≠ .ready then
    .ok
      { state := state
        usualPerMonth := ⟨none, none⟩
        fullMonth := ⟨none, none⟩
        fromToday := none
        usualFromToday := none }
  else do
    let current := times rate (← whole (.finite months.currentDays))
    let next := times rate (← whole (.finite months.nextDays))
    let already := (JsNumber.finite 0).max soFar
    let rest := times rate (← whole (.finite months.currentDaysLeftWithToday))
    return {
      state := state
      usualPerMonth := ⟨some (onTheWire current), some (onTheWire next)⟩
      fullMonth := ⟨some (← liftedChoices none current), some (← liftedChoices none next)⟩
      fromToday := some (← liftedChoices (some already) rest)
      usualFromToday := some (onTheWire (plus (← whole already) rest)) }

/-! ## What the choices are -/

/-- What already counts, below the choices. -/
def countedBelow (soFar : Option ℕ) : ℕ := soFar.getD 0

/-- The usual of an expected count on top of what already counts. -/
def usualNumber (soFar : Option ℕ) (x : ℚ) : ℕ :=
  match soFar with
  | none => leastGoalNumber x
  | some soFar => max (leastGoalNumber (soFar + x)) (goalNumberFrom (soFar + 1))

def aBitMoreNumber (soFar : Option ℕ) (x : ℚ) : ℕ :=
  max (leastGoalNumber (countedBelow soFar + x * (11 / 10))) (goalNumberFrom (usualNumber soFar x + 1))

def stretchNumber (soFar : Option ℕ) (x : ℚ) : ℕ :=
  max (leastGoalNumber (countedBelow soFar + x * (6 / 5))) (goalNumberFrom (aBitMoreNumber soFar x + 1))

theorem IsGoalNumber.max {a b : ℕ} (ha : IsGoalNumber a) (hb : IsGoalNumber b) :
    IsGoalNumber (max a b) := by
  rcases max_choice a b with h | h <;> rw [h] <;> assumption

theorem leastGoalNumber_isGoalNumber (q : ℚ) : IsGoalNumber (leastGoalNumber q) :=
  (leastGoalNumber_isLeast q).1.1

theorem goalNumberFrom_isGoalNumber (n : ℕ) : IsGoalNumber (goalNumberFrom n) :=
  (goalNumberFrom_isLeast n).1.1

theorem usualNumber_isGoalNumber (soFar : Option ℕ) (x : ℚ) : IsGoalNumber (usualNumber soFar x) := by
  cases soFar with
  | none => exact leastGoalNumber_isGoalNumber x
  | some soFar =>
      exact (leastGoalNumber_isGoalNumber _).max (goalNumberFrom_isGoalNumber _)

theorem aBitMoreNumber_isGoalNumber (soFar : Option ℕ) (x : ℚ) :
    IsGoalNumber (aBitMoreNumber soFar x) :=
  (leastGoalNumber_isGoalNumber _).max (goalNumberFrom_isGoalNumber _)

theorem stretchNumber_isGoalNumber (soFar : Option ℕ) (x : ℚ) :
    IsGoalNumber (stretchNumber soFar x) :=
  (leastGoalNumber_isGoalNumber _).max (goalNumberFrom_isGoalNumber _)

theorem usualNumber_lt (soFar : Option ℕ) (x : ℚ) : usualNumber soFar x < aBitMoreNumber soFar x :=
  lt_max_of_lt_right (goalNumberAbove_isLeast _).1.2

theorem aBitMoreNumber_lt (soFar : Option ℕ) (x : ℚ) :
    aBitMoreNumber soFar x < stretchNumber soFar x :=
  lt_max_of_lt_right (goalNumberAbove_isLeast _).1.2

/-- The usual is no less than what is expected. -/
theorem expected_le_usualNumber (soFar : Option ℕ) (x : ℚ) :
    countedBelow soFar + x ≤ usualNumber soFar x := by
  cases soFar with
  | none =>
      have h := (leastGoalNumber_isLeast x).1.2
      simpa [countedBelow, usualNumber] using h
  | some soFar =>
      have h := (leastGoalNumber_isLeast (soFar + x)).1.2
      have hle : leastGoalNumber (soFar + x) ≤ usualNumber (some soFar) x := le_max_left _ _
      exact h.trans (by exact_mod_cast hle)

/-- From today, the usual is above what already counts. -/
theorem counted_lt_usualNumber (soFar : ℕ) (x : ℚ) : soFar < usualNumber (some soFar) x :=
  lt_max_of_lt_right (goalNumberAbove_isLeast _).1.2

/-! ## The code gives those choices -/

theorem leastGoalNumber_lt {q : ℚ} {n : ℕ} (h : q ≤ n) : leastGoalNumber q < n + 50 := by
  have hceil : ⌈q⌉₊ ≤ n := Nat.ceil_le.2 h
  have := goalNumberFrom_lt ⌈q⌉₊
  rw [leastGoalNumber]
  omega

/-- A lifted count on top of what already counts, rounded up. -/
theorem rounded_eq {base x : ExactCount} {l : Option ExactCount} {b q : ℚ} (hbase : base.IsCount)
    (hvalue : base.toRat = b) (hx : x.IsCount) (hlift : ∀ lift ∈ l, lift.IsCount)
    (hq : (l.elim x.toRat fun lift ↦ x.toRat * lift.toRat) = q) :
    rounded base x l = .ok (.ofNat (leastGoalNumber (b + q))) := by
  cases l with
  | none =>
      obtain ⟨hcount, hsum⟩ := plus_spec hbase hx
      simp only [Option.elim] at hq
      rw [rounded, goalStepAtOrAbove_eq hcount, hsum, hvalue, hq]
  | some lift =>
      obtain ⟨hlifted, hproduct⟩ := times_spec hx (hlift lift rfl)
      obtain ⟨hcount, hsum⟩ := plus_spec hbase hlifted
      simp only [Option.elim] at hq
      rw [rounded, goalStepAtOrAbove_eq hcount, hsum, hvalue, hproduct, hq]

theorem maxOf_ok (a b : JsNumber) : maxOf (.ok a) (.ok b) = .ok (a.max b) := rfl

/-- Two grid numbers of at most 54 binary digits compare as numbers. -/
theorem max_ofNat {a b : ℕ} (ha : IsGoalNumber a) (bound : a ≤ 2 ^ 54) :
    (JsNumber.ofNat a).max (.finite b) = .finite (max a b : ℕ) := by
  rw [ha.ofNat_eq bound, JsNumber.max_finite, Nat.cast_max]

/-- A grid number and a number stepped to, when the greater is a safe integer and when it is not. -/
theorem max_ofNat_safe {a b : ℕ} (ha : IsGoalNumber a) :
    (max a b < 2 ^ 53 → (JsNumber.ofNat a).max (.finite b) = .finite (max a b : ℕ)) ∧
      (2 ^ 53 ≤ max a b → ((JsNumber.ofNat a).max (.finite b)).isSafeInteger = false) := by
  constructor
  · intro hsafe
    exact max_ofNat ha (by omega)
  · intro hbeyond
    apply JsNumber.isSafeInteger_of_isAtLeast
    apply JsNumber.isAtLeast_max (JsNumber.ofNat_ne_nan a) (by simp)
    rcases le_max_iff.1 hbeyond with h | h
    · exact Or.inl (JsNumber.isAtLeast_ofNat h)
    · right
      simp only [JsNumber.isAtLeast, decide_eq_true_eq]
      exact_mod_cast h

/-- Whole numbers as what a month so far is. -/
def countedSoFar (soFar : Option ℕ) : Option JsNumber := soFar.map fun s : ℕ ↦ .finite s

/-- The first choice is the grid's, or no safe integer. -/
theorem usualChoice_eq {x : ExactCount} (h : x.IsCount) {soFar : Option ℕ}
    (safe : ∀ s ∈ soFar, s < 2 ^ 53) :
    ∃ usual : JsNumber,
      usualChoice (exact (countedBelow soFar) 1) x (countedSoFar soFar) = .ok usual ∧
        (usualNumber soFar x.toRat < 2 ^ 53 → usual = .finite (usualNumber soFar x.toRat : ℕ)) ∧
        (2 ^ 53 ≤ usualNumber soFar x.toRat → usual.isSafeInteger = false) := by
  obtain ⟨hbase, hvalue⟩ := whole_spec (countedBelow soFar)
  have hrounded := rounded_eq (l := none) hbase hvalue h (by simp) rfl
  cases soFar with
  | none =>
      simp only [countedBelow, Option.getD_none, Nat.cast_zero, Option.elim, zero_add] at hrounded
      refine ⟨_, hrounded, ?_, ?_⟩
      · intro hsafe
        exact (leastGoalNumber_isGoalNumber _).ofNat_eq (hsafe.le.trans (by decide))
      · intro hbeyond
        exact JsNumber.isSafeInteger_of_isAtLeast (JsNumber.isAtLeast_ofNat hbeyond)
  | some soFar =>
      simp only [countedSoFar, Option.map_some, usualChoice]
      rw [hrounded, goalStepUp_eq (safe soFar rfl), maxOf_ok]
      have hmax := @max_ofNat_safe _ (goalNumberFrom (soFar + 1))
        (leastGoalNumber_isGoalNumber (soFar + x.toRat))
      exact ⟨_, rfl, hmax⟩

/-- A lift of a fifth at most leaves a safe usual with 54 binary digits. -/
theorem lifted_le {soFar : Option ℕ} {x q : ℚ} (safe : usualNumber soFar x < 2 ^ 53)
    (nonneg : 0 ≤ x) (lift : q ≤ 6 / 5) :
    leastGoalNumber (countedBelow soFar + x * q) ≤ 2 ^ 54 := by
  have hexpected := expected_le_usualNumber soFar x
  have hbound : (usualNumber soFar x : ℚ) ≤ 9007199254740992 := by
    have hle : usualNumber soFar x ≤ 9007199254740992 := by omega
    exact_mod_cast hle
  have hcounted : (0 : ℚ) ≤ countedBelow soFar := Nat.cast_nonneg _
  have hlifted : x * q ≤ x * (6 / 5) := mul_le_mul_of_nonneg_left lift nonneg
  have hle : countedBelow soFar + x * q ≤ (10808639105689191 : ℕ) := by
    push_cast
    linarith
  have := leastGoalNumber_lt hle
  omega

/-- The three choices are the grid's, unless a bit more is no safe integer. -/
theorem liftedChoices_eq {x : ExactCount} (h : x.IsCount) {soFar : Option ℕ}
    (safe : ∀ s ∈ soFar, s < 2 ^ 53) :
    liftedChoices (countedSoFar soFar) x =
      if aBitMoreNumber soFar x.toRat < 2 ^ 53 then
        .ok
          { usual := .finite (usualNumber soFar x.toRat : ℕ)
            aBitMore := .finite (aBitMoreNumber soFar x.toRat : ℕ)
            stretch := .finite (stretchNumber soFar x.toRat : ℕ)
            about := halfUp x }
      else .error ⟨"A goal number steps up from a whole number"⟩ := by
  obtain ⟨hbase, hvalue⟩ := whole_spec (countedBelow soFar)
  have hwhole : whole ((countedSoFar soFar).getD (.finite 0)) =
      .ok (exact (countedBelow soFar) 1) := by
    cases soFar with
    | none => exact whole_natCast 0
    | some soFar => exact whole_natCast soFar
  obtain ⟨usual, husual, hsafeUsual, hbeyondUsual⟩ := usualChoice_eq h safe
  have hlift := rounded_eq (l := some liftABitMore) (q := x.toRat * (11 / 10)) hbase hvalue h
    (by simp [liftABitMore_isCount]) (by simp [liftABitMore_toRat])
  have hstretch := rounded_eq (l := some liftStretch) (q := x.toRat * (6 / 5)) hbase hvalue h
    (by simp [liftStretch_isCount]) (by simp [liftStretch_toRat])
  have hlt := usualNumber_lt soFar x.toRat
  rw [liftedChoices, hwhole]
  simp only [bind, Except.bind, pure, Except.pure, husual, hlift, hstretch]
  by_cases husualSafe : usualNumber soFar x.toRat < 2 ^ 53
  · rw [hsafeUsual husualSafe, goalStepUp_eq husualSafe, maxOf_ok]
    obtain ⟨hsafe, hbeyond⟩ := @max_ofNat_safe _ (goalNumberFrom (usualNumber soFar x.toRat + 1))
      (leastGoalNumber_isGoalNumber (countedBelow soFar + x.toRat * (11 / 10)))
    by_cases haBitMore : aBitMoreNumber soFar x.toRat < 2 ^ 53
    · have hbound := lifted_le husualSafe h.toRat_nonneg (le_refl (6 / 5 : ℚ))
      simp only [if_pos haBitMore, hsafe haBitMore]
      rw [← aBitMoreNumber, goalStepUp_eq haBitMore, maxOf_ok,
        max_ofNat (leastGoalNumber_isGoalNumber _) hbound]
      rfl
    · simp only [if_neg haBitMore, goalStepUp_of_not_safe (hbeyond (not_lt.1 haBitMore))]
      rfl
  · rw [if_neg (by omega), goalStepUp_of_not_safe (hbeyondUsual (not_lt.1 husualSafe))]
    rfl

/-- Choices on the grid, each above the one before, the first no less than what is expected and
above what already counts. -/
def Choices.Lifted (choices : Choices) (soFar : Option ℕ) (x : ℚ) : Prop :=
  ∃ usual aBitMore stretch : ℕ,
    choices.usual = .finite usual ∧ choices.aBitMore = .finite aBitMore ∧
      choices.stretch = .finite stretch ∧
      IsGoalNumber usual ∧ IsGoalNumber aBitMore ∧ IsGoalNumber stretch ∧
      usual < aBitMore ∧ aBitMore < stretch ∧ countedBelow soFar + x ≤ usual ∧ ∀ s ∈ soFar, s < usual

/-- Choices that are not refused are lifted. -/
theorem liftedChoices_lifted {x : ExactCount} (h : x.IsCount) {soFar : Option ℕ}
    (safe : ∀ s ∈ soFar, s < 2 ^ 53) {choices : Choices}
    (hok : liftedChoices (countedSoFar soFar) x = .ok choices) : choices.Lifted soFar x.toRat := by
  rw [liftedChoices_eq h safe] at hok
  split at hok
  · cases hok
    refine ⟨_, _, _, rfl, rfl, rfl, usualNumber_isGoalNumber _ _, aBitMoreNumber_isGoalNumber _ _,
      stretchNumber_isGoalNumber _ _, usualNumber_lt _ _, aBitMoreNumber_lt _ _,
      expected_le_usualNumber _ _, ?_⟩
    intro s hs
    cases hs
    exact counted_lt_usualNumber _ _
  · cases hok

/-- Choices on top of a month so far are refused unless it is a whole number. -/
theorem counted_of_liftedChoices {x : ExactCount} {soFar : JsNumber} {choices : Choices}
    (hok : liftedChoices (some soFar) x = .ok choices) : ∃ s : ℕ, soFar = .finite s ∧ s < 2 ^ 53 := by
  rw [liftedChoices] at hok
  obtain ⟨base, -, hok⟩ := ok_of_bind hok
  obtain ⟨usual, husual, -⟩ := ok_of_bind hok
  rw [usualChoice, maxOf] at husual
  obtain ⟨least, -, husual⟩ := ok_of_bind husual
  cases hstep : goalStepUp soFar with
  | error e =>
      rw [hstep] at husual
      cases husual
  | ok step =>
      rw [goalStepUp] at hstep
      obtain ⟨counted, hcounted, -⟩ := ok_of_bind hstep
      obtain ⟨n, hn, -, hlt⟩ := wholeNumber_eq hcounted
      exact ⟨n, hn, hlt⟩

/-- A measure with a number has choices for both months and for the rest of this one. -/
theorem measureRecommendation_choices {rate : ExactCount} (h : rate.IsCount) {months : GoalMonths}
    {soFar : JsNumber} {recommendation : MeasureRecommendation}
    (hok : measureRecommendation .ready rate months soFar = .ok recommendation) :
    ∃ (already : ℕ) (current next fromToday : Choices),
      (JsNumber.finite 0).max soFar = .finite already ∧
        recommendation.fullMonth = ⟨some current, some next⟩ ∧
        recommendation.fromToday = some fromToday ∧
        current.Lifted none (rate.toRat * months.currentDays) ∧
        next.Lifted none (rate.toRat * months.nextDays) ∧
        fromToday.Lifted (some already) (rate.toRat * months.currentDaysLeftWithToday) := by
  have hdays (days : ℕ) : (times rate (exact days 1)).IsCount ∧
      (times rate (exact days 1)).toRat = rate.toRat * days := by
    obtain ⟨hcount, hvalue⟩ := whole_spec days
    obtain ⟨hproduct, hvalue'⟩ := times_spec h hcount
    exact ⟨hproduct, by rw [hvalue', hvalue]⟩
  rw [measureRecommendation, if_neg (by decide), whole_natCast, whole_natCast, whole_natCast] at hok
  obtain ⟨currentDays, hcurrentDays, hok⟩ := ok_of_bind hok
  obtain ⟨nextDays, hnextDays, hok⟩ := ok_of_bind hok
  obtain ⟨restDays, hrestDays, hok⟩ := ok_of_bind hok
  obtain ⟨current, hcurrent, hok⟩ := ok_of_bind hok
  obtain ⟨next, hnext, hok⟩ := ok_of_bind hok
  obtain ⟨fromToday, hfromToday, hok⟩ := ok_of_bind hok
  obtain ⟨counted, -, hok⟩ := ok_of_bind hok
  cases hcurrentDays
  cases hnextDays
  cases hrestDays
  obtain ⟨already, halready, hsafe⟩ := counted_of_liftedChoices hfromToday
  rw [halready] at hfromToday
  obtain ⟨hcount, hvalue⟩ := hdays months.currentDays
  obtain ⟨hcountNext, hvalueNext⟩ := hdays months.nextDays
  obtain ⟨hcountRest, hvalueRest⟩ := hdays months.currentDaysLeftWithToday
  refine ⟨already, current, next, fromToday, halready, ?_, ?_, ?_, ?_, ?_⟩
  · cases hok
    rfl
  · cases hok
    rfl
  · rw [← hvalue]
    exact @liftedChoices_lifted _ hcount none (by simp) _ hcurrent
  · rw [← hvalueNext]
    exact @liftedChoices_lifted _ hcountNext none (by simp) _ hnext
  · rw [← hvalueRest]
    exact @liftedChoices_lifted _ hcountRest (some already) (by simpa using hsafe) _ hfromToday

/-! ## The grid and the choices together -/

/-- Rounding up gives the least grid number at or above an exact count, as a JavaScript number.
Steps from a safe integer go to the neighbours on the grid and undo each other. Choices are lifted
step by step, and refused when a bit more is no safe integer. -/
theorem goal_grid_steps_and_choices :
    (∀ value : ExactCount, value.IsCount →
      ∃ g : ℕ, goalStepAtOrAbove value = .ok (.ofNat g) ∧
        IsLeast {g : ℕ | IsGoalNumber g ∧ value.toRat ≤ g} g ∧
        (value.toRat ≤ 1 → g = 1) ∧ (g ≤ 2 ^ 54 → JsNumber.ofNat g = .finite g)) ∧
    (∀ n : ℕ, n < 2 ^ 53 →
      (∃ up : ℕ, goalStepUp (.finite n) = .ok (.finite up) ∧
        IsLeast {g | IsGoalNumber g ∧ n < g} up) ∧
      (n ≤ 1 → goalStepDown (.finite n) = .ok none ∧ ∀ g, IsGoalNumber g → ¬ g < n) ∧
      (1 < n → ∃ down : ℕ, goalStepDown (.finite n) = .ok (some (.finite down)) ∧
        IsGreatest {g | IsGoalNumber g ∧ g < n} down)) ∧
    (∀ value : JsNumber, value.isSafeInteger = false →
      goalStepUp value = .error ⟨"A goal number steps up from a whole number"⟩ ∧
        goalStepDown value = .error ⟨"A goal number steps down from a whole number"⟩) ∧
    (∀ g : ℕ, IsGoalNumber g → g < 2 ^ 53 →
      (∀ up : ℕ, up < 2 ^ 53 → goalStepUp (.finite g) = .ok (.finite up) →
        goalStepDown (.finite up) = .ok (some (.finite g))) ∧
      ∀ down : ℕ, goalStepDown (.finite g) = .ok (some (.finite down)) →
        goalStepUp (.finite down) = .ok (.finite g)) ∧
    (∀ x : ExactCount, x.IsCount → ∀ soFar : Option ℕ, (∀ s ∈ soFar, s < 2 ^ 53) →
      if aBitMoreNumber soFar x.toRat < 2 ^ 53 then
        ∃ choices, liftedChoices (countedSoFar soFar) x = .ok choices ∧
          choices.Lifted soFar x.toRat
      else
        liftedChoices (countedSoFar soFar) x =
          .error ⟨"A goal number steps up from a whole number"⟩) ∧
    (∀ (rate : ExactCount) (months : GoalMonths) (soFar : JsNumber)
        (recommendation : MeasureRecommendation), rate.IsCount →
      measureRecommendation .ready rate months soFar = .ok recommendation →
      ∃ (already : ℕ) (current next fromToday : Choices),
        (JsNumber.finite 0).max soFar = .finite already ∧
          recommendation.fullMonth = ⟨some current, some next⟩ ∧
          recommendation.fromToday = some fromToday ∧
          current.Lifted none (rate.toRat * months.currentDays) ∧
          next.Lifted none (rate.toRat * months.nextDays) ∧
          fromToday.Lifted (some already) (rate.toRat * months.currentDaysLeftWithToday)) := by
  refine ⟨?_, ?_, ?_, ?_, ?_, ?_⟩
  · intro value h
    refine ⟨_, goalStepAtOrAbove_eq h, leastGoalNumber_isLeast _, ?_,
      (leastGoalNumber_isGoalNumber _).ofNat_eq⟩
    intro hone
    have hle := (leastGoalNumber_isLeast value.toRat).2
      (show IsGoalNumber 1 ∧ value.toRat ≤ (1 : ℕ) from ⟨by decide, by simpa using hone⟩)
    exact le_antisymm hle (leastGoalNumber_isGoalNumber _).pos
  · intro n hn
    refine ⟨⟨_, goalStepUp_eq hn, goalNumberAbove_isLeast n⟩, ?_, ?_⟩
    · intro hone
      rw [goalStepDown_eq hn, if_pos hone]
      refine ⟨rfl, ?_⟩
      intro g hg
      have := hg.pos
      omega
    · intro hone
      rw [goalStepDown_eq hn, if_neg (by omega)]
      exact ⟨_, rfl, goalNumberBelow_isGreatest hone⟩
  · intro value h
    refine ⟨goalStepUp_of_not_safe h, ?_⟩
    rw [goalStepDown, wholeNumber_of_not_safe _ h]
    rfl
  · intro g hg hsafe
    constructor
    · intro up hup hstep
      rw [goalStepUp_eq hsafe] at hstep
      have habove := goalNumberAbove_isLeast g
      have heq : goalNumberFrom (g + 1) = up := by
        injection hstep with hstep
        injection hstep with hstep
        exact_mod_cast hstep
      rw [heq] at habove
      have hbelow := isGreatest_below_of_isLeast_above (S := {g | IsGoalNumber g}) hg habove
      have hone : 1 < up := lt_of_le_of_lt hg.pos habove.1.2
      rw [goalStepDown_eq hup, if_neg (by omega),
        (goalNumberBelow_isGreatest hone).unique hbelow]
    · intro down hstep
      rw [goalStepDown_eq hsafe] at hstep
      split at hstep
      · cases hstep
      · next hone =>
        have heq : goalNumberBelow g = down := by
          injection hstep with hstep
          injection hstep with hstep
          injection hstep with hstep
          exact_mod_cast hstep
        have hbelow := goalNumberBelow_isGreatest (not_le.1 hone)
        rw [heq] at hbelow
        have habove := isLeast_above_of_isGreatest_below (S := {g | IsGoalNumber g}) hg hbelow
        have hlt : down < g := hbelow.1.2
        rw [goalStepUp_eq (hlt.trans hsafe), (goalNumberAbove_isLeast down).unique habove]
  · intro x h soFar safe
    have heq := liftedChoices_eq h safe
    split
    · next hsafe =>
      rw [if_pos hsafe] at heq
      exact ⟨_, heq, liftedChoices_lifted h safe heq⟩
    · next hsafe =>
      rw [if_neg hsafe] at heq
      exact heq
  · intro rate months soFar recommendation h hok
    exact measureRecommendation_choices h hok

/-- Above 54 binary digits a grid number may be no JavaScript number, and no step goes up from what
is no safe integer. -/
theorem goal_grid_leaves_numbers :
    goalStepAtOrAbove ⟨18014398509482001, 1⟩ = .ok (.finite 18014398509482048) ∧
      ¬ IsGoalNumber 18014398509482048 ∧
      ¬ (∀ value : ExactCount, value.IsCount →
        ∃ g : ℕ, goalStepAtOrAbove value = .ok (.finite g) ∧
          IsLeast {g : ℕ | IsGoalNumber g ∧ value.toRat ≤ g} g) ∧
      goalStepUp (.finite 9007199254740992) =
        .error ⟨"A goal number steps up from a whole number"⟩ := by
  have hround : goalStepAtOrAbove ⟨18014398509482001, 1⟩ = .ok (.finite 18014398509482048) := by
    decide +kernel
  have hgrid : ¬ IsGoalNumber 18014398509482048 := by decide
  refine ⟨hround, hgrid, ?_, by decide +kernel⟩
  intro hall
  obtain ⟨g, hg, hleast⟩ := hall ⟨18014398509482001, 1⟩ ⟨by decide, by decide⟩
  rw [hround] at hg
  injection hg with hg
  injection hg with hg
  have hsame : g = 18014398509482048 := by exact_mod_cast hg.symm
  exact hgrid (hsame ▸ hleast.1.1)

end ReputationKey.Reporting
