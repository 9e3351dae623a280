import ReputationKey.Base.NearestDouble
import Mathlib.Data.Rat.Floor
import Mathlib.Order.Bounds.Basic
import Mathlib.Tactic.NormNum

/-!
# Goal numbers: the grid a goal steps on

Whole numbers to 29, fives to 100, tens to 500, then fifties. A recommended number is rounded up to
the grid from an exact count, and the number box steps up and down on it. Follows
`src/src/contexts/reporting/domain/goal-number-steps.ts`.
-/

namespace ReputationKey.Reporting

open Base

/-- An exact number `num / den`. -/
structure ExactCount where
  num : ℤ
  den : ℤ
  deriving DecidableEq, Repr

/-- Where a band of the grid ends, and the step it moves in. -/
structure GoalBand where
  upTo : ℤ
  step : ℤ
  deriving DecidableEq, Repr

/-- The bands of the grid. -/
def goalBands : List GoalBand := [⟨29, 1⟩, ⟨100, 5⟩, ⟨500, 10⟩]

/-- The step above the last band. -/
def stepAbove500 : ℤ := 50

/-- The least integer at or above `num / den`. -/
def ceilDiv (num den : ℤ) : ℤ := (num + den - 1).tdiv den

/-- The smallest grid number at or above `value`; 1 for anything up to 1. -/
def goalStepAtOrAbove (value : ExactCount) : Except RangeError JsNumber :=
  if value.den ≤ 0 ∨ value.num < 0 then
    .error ⟨"A goal number is rounded from a non-negative exact count"⟩
  else if value.num ≤ value.den then .ok (.finite 1)
  else
    let band := goalBands.find? fun band ↦ decide (value.num ≤ band.upTo * value.den)
    let step := (band.map (·.step)).getD stepAbove500
    .ok (.ofInt (ceilDiv value.num (value.den * step) * step))

/-- A whole number at or above zero, or a refusal saying what is taken. -/
def wholeNumber (value : JsNumber) (what : String) : Except RangeError ℤ :=
  if !value.isSafeInteger || value.lt (.finite 0) then .error ⟨what⟩ else value.toBigInt

/-- The next grid number above a whole number. -/
def goalStepUp (value : JsNumber) : Except RangeError JsNumber :=
  (wholeNumber value "A goal number steps up from a whole number").bind fun whole ↦
    goalStepAtOrAbove ⟨whole + 1, 1⟩

/-- The largest grid number at or below a whole number of at least 1. -/
def goalStepAtOrBelow (value : ℤ) : ℤ :=
  let band := goalBands.find? fun band ↦ decide (value ≤ band.upTo)
  let step := (band.map (·.step)).getD stepAbove500
  value.tdiv step * step

/-- The grid number before a whole number; none below 1. -/
def goalStepDown (value : JsNumber) : Except RangeError (Option JsNumber) :=
  (wholeNumber value "A goal number steps down from a whole number").bind fun whole ↦
    .ok (if whole ≤ 1 then none else some (.ofInt (goalStepAtOrBelow (whole - 1))))

/-! ## The grid -/

/-- A number of the grid. -/
def IsGoalNumber (n : ℕ) : Prop :=
  (1 ≤ n ∧ n ≤ 29) ∨ (30 ≤ n ∧ n ≤ 100 ∧ 5 ∣ n) ∨ (110 ≤ n ∧ n ≤ 500 ∧ 10 ∣ n) ∨
    (500 < n ∧ 50 ∣ n)

instance (n : ℕ) : Decidable (IsGoalNumber n) := by
  unfold IsGoalNumber
  infer_instance

/-- The step of the band a whole number is in. -/
def goalStep (n : ℕ) : ℕ := if n ≤ 29 then 1 else if n ≤ 100 then 5 else if n ≤ 500 then 10 else 50

/-- The least grid number at or above a whole number. -/
def goalNumberFrom (n : ℕ) : ℕ := if n ≤ 1 then 1 else (n + goalStep n - 1) / goalStep n * goalStep n

/-- The greatest grid number below a whole number above 1. -/
def goalNumberBelow (n : ℕ) : ℕ := (n - 1) / goalStep (n - 1) * goalStep (n - 1)

/-- The least grid number at or above an exact number. -/
def leastGoalNumber (q : ℚ) : ℕ := goalNumberFrom ⌈q⌉₊

theorem goalNumberFrom_isLeast (n : ℕ) : IsLeast {g | IsGoalNumber g ∧ n ≤ g} (goalNumberFrom n) := by
  constructor
  · simp only [Set.mem_ofPred_eq, IsGoalNumber, goalNumberFrom, goalStep]
    split_ifs <;> omega
  · rintro g ⟨hg, hle⟩
    simp only [IsGoalNumber] at hg
    simp only [goalNumberFrom, goalStep]
    split_ifs <;> omega

theorem goalNumberBelow_isGreatest {n : ℕ} (h : 1 < n) :
    IsGreatest {g | IsGoalNumber g ∧ g < n} (goalNumberBelow n) := by
  constructor
  · simp only [Set.mem_ofPred_eq, IsGoalNumber, goalNumberBelow, goalStep]
    split_ifs <;> omega
  · rintro g ⟨hg, hlt⟩
    simp only [IsGoalNumber] at hg
    simp only [goalNumberBelow, goalStep]
    split_ifs <;> omega

theorem goalNumberFrom_lt (n : ℕ) : goalNumberFrom n < n + 50 := by
  simp only [goalNumberFrom, goalStep]
  split_ifs <;> omega

/-- The least grid number at or above an exact number is that of its ceiling. -/
theorem leastGoalNumber_isLeast (q : ℚ) :
    IsLeast {g : ℕ | IsGoalNumber g ∧ q ≤ g} (leastGoalNumber q) := by
  have hset : {g : ℕ | IsGoalNumber g ∧ q ≤ g} = {g | IsGoalNumber g ∧ ⌈q⌉₊ ≤ g} := by
    ext g
    rw [Set.mem_ofPred_eq, Set.mem_ofPred_eq, Nat.ceil_le]
  rw [hset]
  exact goalNumberFrom_isLeast ⌈q⌉₊

/-- What is above a number starts one above it. -/
theorem goalNumberAbove_isLeast (n : ℕ) :
    IsLeast {g | IsGoalNumber g ∧ n < g} (goalNumberFrom (n + 1)) := goalNumberFrom_isLeast (n + 1)

namespace IsGoalNumber

theorem pos {n : ℕ} (h : IsGoalNumber n) : 1 ≤ n := by
  unfold IsGoalNumber at h
  omega

/-- A grid number of at most 54 binary digits is a JavaScript number. -/
theorem ofNat_eq {n : ℕ} (h : IsGoalNumber n) (bound : n ≤ 2 ^ 54) : JsNumber.ofNat n = .finite n := by
  by_cases hsmall : n ≤ 500
  · exact JsNumber.ofNat_of_le (by omega)
  · apply JsNumber.ofNat_of_even bound
    unfold IsGoalNumber at h
    omega

end IsGoalNumber

/-- In a set of numbers, the least above one has that one as the greatest below it. -/
theorem isGreatest_below_of_isLeast_above {S : Set ℕ} {a b : ℕ} (ha : a ∈ S)
    (h : IsLeast {g | g ∈ S ∧ a < g} b) : IsGreatest {g | g ∈ S ∧ g < b} a := by
  refine ⟨⟨ha, h.1.2⟩, ?_⟩
  rintro g ⟨hg, hlt⟩
  by_contra habove
  have := h.2 ⟨hg, not_le.1 habove⟩
  omega

/-- In a set of numbers, the greatest below one has that one as the least above it. -/
theorem isLeast_above_of_isGreatest_below {S : Set ℕ} {a b : ℕ} (hb : b ∈ S)
    (h : IsGreatest {g | g ∈ S ∧ g < b} a) : IsLeast {g | g ∈ S ∧ a < g} b := by
  refine ⟨⟨hb, h.1.2⟩, ?_⟩
  rintro g ⟨hg, hlt⟩
  by_contra hbelow
  have := h.2 ⟨hg, not_le.1 hbelow⟩
  omega

/-! ## The code on the grid -/

namespace ExactCount

/-- The number an exact count is. -/
def toRat (value : ExactCount) : ℚ := value.num / value.den

/-- An exact count is not negative, over a positive denominator. -/
structure IsCount (value : ExactCount) : Prop where
  nonneg : 0 ≤ value.num
  pos : 0 < value.den

theorem IsCount.toRat_nonneg {value : ExactCount} (h : value.IsCount) : 0 ≤ value.toRat := by
  have hnum : (0 : ℚ) ≤ value.num := by exact_mod_cast h.nonneg
  have hden : (0 : ℚ) ≤ value.den := by exact_mod_cast h.pos.le
  exact div_nonneg hnum hden

/-- Cross-multiplying compares an exact count with a whole number. -/
theorem IsCount.num_le_iff {value : ExactCount} (h : value.IsCount) (n : ℕ) :
    value.num ≤ n * value.den ↔ ⌈value.toRat⌉₊ ≤ n := by
  have hden : (0 : ℚ) < value.den := by exact_mod_cast h.pos
  rw [Nat.ceil_le, toRat, div_le_iff₀ hden]
  exact_mod_cast Iff.rfl

end ExactCount

theorem ceilDiv_le_iff {num den k : ℤ} (nonneg : 0 ≤ num) (pos : 0 < den) :
    ceilDiv num den ≤ k ↔ num ≤ k * den := by
  rw [ceilDiv, Int.tdiv_eq_ediv_of_nonneg (by omega), ← Int.lt_add_one_iff,
    Int.ediv_lt_iff_lt_mul pos, Int.add_mul]
  omega

/-- The step found in the bands is that of the whole number rounded to. -/
theorem band_step {p : ℤ → Bool} {n : ℕ} (h : ∀ k : ℕ, p k = decide (n ≤ k)) :
    ((goalBands.find? fun band ↦ p band.upTo).map (·.step)).getD stepAbove500 = goalStep n := by
  have h29 := h 29
  have h100 := h 100
  have h500 := h 500
  simp only [Nat.cast_ofNat] at h29 h100 h500
  rw [goalStep]
  simp only [goalBands, List.find?_cons, List.find?_nil, h29, h100, h500, stepAbove500]
  by_cases h1 : n ≤ 29
  · simp [h1]
  · by_cases h2 : n ≤ 100
    · simp [h1, h2]
    · by_cases h3 : n ≤ 500 <;> simp [h1, h2, h3]

theorem goalStep_pos (n : ℕ) : 0 < goalStep n := by
  simp only [goalStep]
  split_ifs <;> omega

/-- Steps of a band that reach an exact count reach its ceiling, and as few do. -/
theorem ceilDiv_band {num den : ℤ} {n step : ℕ} (h : ∀ k : ℕ, num ≤ k * den ↔ n ≤ k)
    (nonneg : 0 ≤ num) (pos : 0 < den) (stepPos : 0 < step) :
    ceilDiv num (den * step) = ((n + step - 1) / step : ℕ) := by
  have hdiv : 0 < den * step := Int.mul_pos pos (by omega)
  have hle (k : ℕ) : ceilDiv num (den * step) ≤ k ↔ (n + step - 1) / step ≤ k := by
    rw [ceilDiv_le_iff nonneg hdiv, ← Nat.lt_succ_iff, Nat.div_lt_iff_lt_mul stepPos, Nat.succ_mul]
    have hk := h (k * step)
    rw [Nat.cast_mul, mul_assoc, mul_comm (step : ℤ)] at hk
    rw [hk]
    omega
  have hnonneg : 0 ≤ ceilDiv num (den * step) := by
    by_contra hneg
    have hback := (ceilDiv_le_iff nonneg hdiv).1 (show ceilDiv num (den * step) ≤ -1 by omega)
    omega
  obtain ⟨c, hc⟩ := Int.eq_ofNat_of_zero_le hnonneg
  rw [hc] at hle ⊢
  have hup := (hle ((n + step - 1) / step)).2 le_rfl
  have hdown := (hle c).1 le_rfl
  omega

/-- Rounding an exact count up gives the least grid number at or above it, as a number. -/
theorem goalStepAtOrAbove_eq {value : ExactCount} (h : value.IsCount) :
    goalStepAtOrAbove value = .ok (.ofNat (leastGoalNumber value.toRat)) := by
  have hcompare := h.num_le_iff
  have hnonneg := h.nonneg
  have hpos := h.pos
  generalize hn : ⌈value.toRat⌉₊ = n at hcompare
  rw [goalStepAtOrAbove, if_neg (by omega), leastGoalNumber, hn, goalNumberFrom]
  by_cases hone : value.num ≤ value.den
  · have hsmall : n ≤ 1 := (hcompare 1).1 (by simpa using hone)
    rw [if_pos hone, if_pos hsmall, JsNumber.ofNat_of_le (by omega)]
    rfl
  · have hlarge : ¬ n ≤ 1 := fun hle ↦ hone (by simpa using (hcompare 1).2 hle)
    rw [if_neg hone, if_neg hlarge]
    have hstep := @band_step (fun k ↦ decide (value.num ≤ k * value.den)) n (by
      intro k
      rw [decide_eq_decide]
      exact hcompare k)
    simp only [hstep]
    have hquotient : ceilDiv value.num (value.den * goalStep n) =
        ((n + goalStep n - 1) / goalStep n : ℕ) :=
      ceilDiv_band hcompare hnonneg hpos (goalStep_pos n)
    rw [hquotient]
    rfl

/-- The whole numbers a step is taken from. -/
theorem wholeNumber_eq {value : JsNumber} {what : String} {whole : ℤ}
    (h : wholeNumber value what = .ok whole) :
    ∃ n : ℕ, value = .finite n ∧ whole = n ∧ n < 2 ^ 53 := by
  cases value with
  | nan | negInfinity | infinity => cases h
  | finite value =>
      rw [wholeNumber] at h
      split at h
      · cases h
      · next hsafe =>
        simp only [JsNumber.isSafeInteger, JsNumber.isInteger, JsNumber.isWithin, JsNumber.lt,
          JsNumber.maxSafeInteger, Bool.or_eq_true, Bool.not_eq_true', decide_eq_true_eq, not_or,
          Bool.not_eq_false, Bool.and_eq_true, beq_iff_eq, not_lt] at hsafe
        obtain ⟨⟨hden, -, hhigh⟩, hlow⟩ := hsafe
        rw [JsNumber.toBigInt, if_pos hden] at h
        have hwhole : whole = value.num := by cases h; rfl
        have hvalue : value = value.num := by
          rw [← Rat.num_div_den value, hden]
          simp
        have hnum : 0 ≤ value.num := Rat.num_nonneg.2 hlow
        obtain ⟨n, hn⟩ := Int.eq_ofNat_of_zero_le hnum
        rw [hn] at hvalue
        refine ⟨n, ?_, by rw [hwhole, hn], ?_⟩
        · rw [hvalue]
          simp
        · rw [hvalue] at hhigh
          have hle : (n : ℚ) ≤ 9007199254740991 := of_decide_eq_true hhigh
          have hle' : n ≤ 9007199254740991 := by exact_mod_cast hle
          omega

theorem wholeNumber_natCast {n : ℕ} (what : String) (h : n < 2 ^ 53) :
    wholeNumber (.finite n) what = .ok n := by
  have hhigh : (n : ℚ) ≤ 9007199254740991 := by
    have hle : n ≤ 9007199254740991 := by omega
    exact (Nat.cast_le (α := ℚ)).2 hle
  have hlow : (-9007199254740991 : ℚ) ≤ n := le_trans (by norm_num) (Nat.cast_nonneg n)
  simp [wholeNumber, JsNumber.isSafeInteger, JsNumber.isInteger, JsNumber.isWithin, JsNumber.lt,
    JsNumber.maxSafeInteger, JsNumber.toBigInt, hhigh, hlow]

/-- What is no safe integer is refused with what is taken. -/
theorem wholeNumber_of_not_safe {value : JsNumber} (what : String)
    (h : value.isSafeInteger = false) : wholeNumber value what = .error ⟨what⟩ := by
  rw [wholeNumber, h]
  rfl

/-- A whole number as an exact count. -/
theorem ExactCount.whole_isCount (n : ℕ) : (⟨n, 1⟩ : ExactCount).IsCount :=
  ⟨Int.natCast_nonneg n, Int.one_pos⟩

theorem ExactCount.whole_toRat (n : ℕ) : (⟨n, 1⟩ : ExactCount).toRat = n := by
  simp [ExactCount.toRat]

theorem leastGoalNumber_natCast (n : ℕ) : leastGoalNumber n = goalNumberFrom n := by
  rw [leastGoalNumber, Nat.ceil_natCast]

/-- Stepping up from a whole number gives the least grid number above it. -/
theorem goalStepUp_eq {n : ℕ} (h : n < 2 ^ 53) :
    goalStepUp (.finite n) = .ok (.finite (goalNumberFrom (n + 1) : ℕ)) := by
  have hcount := ExactCount.whole_isCount (n + 1)
  have hround := goalStepAtOrAbove_eq hcount
  rw [ExactCount.whole_toRat, leastGoalNumber_natCast] at hround
  rw [goalStepUp, wholeNumber_natCast _ h]
  have hlt := goalNumberFrom_lt (n + 1)
  have hexact := (goalNumberFrom_isLeast (n + 1)).1.1.ofNat_eq (by omega)
  rw [← hexact, ← hround]
  rfl

theorem goalStepUp_of_not_safe {value : JsNumber} (h : value.isSafeInteger = false) :
    goalStepUp value = .error ⟨"A goal number steps up from a whole number"⟩ := by
  rw [goalStepUp, wholeNumber_of_not_safe _ h]
  rfl

/-- Stepping down from a whole number gives the greatest grid number below it; none below 1. -/
theorem goalStepDown_eq {n : ℕ} (h : n < 2 ^ 53) :
    goalStepDown (.finite n) =
      .ok (if n ≤ 1 then none else some (.finite (goalNumberBelow n : ℕ))) := by
  rw [goalStepDown, wholeNumber_natCast _ h]
  by_cases hone : n ≤ 1
  · have hone' : (n : ℤ) ≤ 1 := by omega
    simp [Except.bind, hone, hone']
  · have hone' : ¬ (n : ℤ) ≤ 1 := by omega
    have hstep := @band_step (fun k ↦ decide ((n : ℤ) - 1 ≤ k)) (n - 1) (by
      intro k
      rw [decide_eq_decide]
      omega)
    have hfloor : goalStepAtOrBelow ((n : ℤ) - 1) = (goalNumberBelow n : ℕ) := by
      have hcast : (n : ℤ) - 1 = (n - 1 : ℕ) := by omega
      simp only [goalStepAtOrBelow, hstep, goalNumberBelow]
      rw [hcast, Int.tdiv_eq_ediv_of_nonneg (by omega)]
      push_cast
      rfl
    have hgoal := goalNumberBelow_isGreatest (n := n) (by omega)
    have hexact := hgoal.1.1.ofNat_eq (by have := hgoal.1.2; omega)
    simp only [Except.bind, hone, hone', if_false, hfloor, JsNumber.ofInt_natCast, hexact]

end ReputationKey.Reporting
