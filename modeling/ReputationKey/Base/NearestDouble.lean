import ReputationKey.Base.JsNumber
import Mathlib.Tactic.NormNum

/-!
# Big integers as JavaScript numbers

`Number` of a big integer keeps its leading 53 bits, rounding to the nearest such value and a tie
to the even one. What has no more bits than that stays as it is.
-/

namespace ReputationKey.Base

/-- The weight of the last of the leading `bits` binary digits of a number. -/
def lastPlace (bits n : ℕ) : ℕ := 2 ^ (n.log2 + 1 - bits)

/-- The nearest number with `bits` leading binary digits, a tie going to the even one. -/
def nearestWithin (bits n : ℕ) : ℕ :=
  let place := lastPlace bits n
  let kept := n / place
  let rest := n % place
  if 2 * rest < place ∨ 2 * rest = place ∧ kept % 2 = 0 then kept * place else (kept + 1) * place

theorem lastPlace_pos (bits n : ℕ) : 0 < lastPlace bits n := Nat.two_pow_pos _

/-- A multiple of its own last place is not rounded. -/
theorem nearestWithin_of_dvd {bits n : ℕ} (h : lastPlace bits n ∣ n) : nearestWithin bits n = n := by
  have hpos := lastPlace_pos bits n
  have hrest : n % lastPlace bits n = 0 := Nat.mod_eq_zero_of_dvd h
  rw [nearestWithin, if_pos (Or.inl (by omega)), Nat.div_mul_cancel h]

/-- A multiple of `2 ^ k` with `k` digits more than there is room for is not rounded. -/
theorem nearestWithin_of_le {bits k n : ℕ} (positive : 0 < bits) (bound : n ≤ 2 ^ (bits + k))
    (h : 2 ^ k ∣ n) : nearestWithin bits n = n := by
  apply nearestWithin_of_dvd
  rcases bound.lt_or_eq with below | rfl
  · have hlog : n.log2 + 1 - bits ≤ k := by
      by_cases hzero : n = 0
      · rw [hzero, Nat.log2_zero]
        omega
      · have := (Nat.log2_lt hzero).2 below
        omega
    exact (Nat.pow_dvd_pow 2 hlog).trans h
  · rw [lastPlace, Nat.log2_two_pow]
    exact Nat.pow_dvd_pow 2 (by omega)

/-- A number of at most `bits` binary digits is not rounded. -/
theorem nearestWithin_of_lt {bits n : ℕ} (positive : 0 < bits) (h : n ≤ 2 ^ bits) :
    nearestWithin bits n = n :=
  nearestWithin_of_le (k := 0) positive h (by simp)

/-- What takes more than `bits` digits does not round below them. -/
theorem le_nearestWithin {bits n : ℕ} (positive : 0 < bits) (h : 2 ^ bits ≤ n) :
    2 ^ bits ≤ nearestWithin bits n := by
  have hzero : n ≠ 0 := by
    have := Nat.two_pow_pos bits
    omega
  have hlog : bits ≤ n.log2 := (Nat.le_log2 hzero).2 h
  have hplaces : 2 ^ n.log2 = 2 ^ (bits - 1) * lastPlace bits n := by
    rw [lastPlace, ← Nat.pow_add]
    congr 1
    omega
  have hkept : 2 ^ (bits - 1) ≤ n / lastPlace bits n := by
    rw [Nat.le_div_iff_mul_le (lastPlace_pos bits n), ← hplaces]
    exact Nat.log2_self_le hzero
  have hdown : 2 ^ bits ≤ n / lastPlace bits n * lastPlace bits n := by
    calc 2 ^ bits ≤ 2 ^ n.log2 := Nat.pow_le_pow_right (by decide) hlog
      _ = 2 ^ (bits - 1) * lastPlace bits n := hplaces
      _ ≤ n / lastPlace bits n * lastPlace bits n := Nat.mul_le_mul_right _ hkept
  simp only [nearestWithin]
  split
  · exact hdown
  · exact hdown.trans (Nat.mul_le_mul_right _ (by omega))

/-- The refusal of a number outside what a function takes. -/
structure RangeError where
  message : String
  deriving DecidableEq, Repr

namespace JsNumber

/-- `BigInt` of a number, which takes integers only. -/
def toBigInt : JsNumber → Except RangeError ℤ
  | .finite value =>
      if value.den = 1 then .ok value.num
      else .error ⟨"The number cannot be converted to a BigInt because it is not an integer"⟩
  | _ => .error ⟨"The number cannot be converted to a BigInt because it is not an integer"⟩

/-- What rounds to this or more is infinite. -/
def overflowAt : ℕ := 2 ^ 1024

/-- `Number` of a big integer that is not negative. -/
def ofNat (n : ℕ) : JsNumber :=
  if nearestWithin 53 n < overflowAt then .finite (nearestWithin 53 n : ℕ) else .infinity

/-- `Number` of a big integer. -/
def ofInt : ℤ → JsNumber
  | .ofNat n => ofNat n
  | .negSucc n =>
      match ofNat (n + 1) with
      | .finite value => .finite (-value)
      | _ => .negInfinity

/-- The greater of two numbers, as `Math.max`. -/
def max (a b : JsNumber) : JsNumber :=
  if a = .nan ∨ b = .nan then .nan else if a.lt b then b else a

theorem lt_overflowAt {n k : ℕ} (bound : n ≤ 2 ^ k) (h : k < 1024) : n < overflowAt :=
  lt_of_le_of_lt bound (Nat.pow_lt_pow_right (by decide) h)

theorem ofInt_natCast (n : ℕ) : ofInt n = ofNat n := rfl

theorem ofNat_ne_nan (n : ℕ) : ofNat n ≠ .nan := by
  rw [ofNat]
  split <;> intro h <;> cases h

/-- A number of at most 53 binary digits is a JavaScript number. -/
theorem ofNat_of_le {n : ℕ} (bound : n ≤ 2 ^ 53) : ofNat n = .finite n := by
  rw [ofNat, nearestWithin_of_lt (by decide) bound, if_pos (lt_overflowAt bound (by decide))]

/-- An even number of at most 54 binary digits is a JavaScript number. -/
theorem ofNat_of_even {n : ℕ} (bound : n ≤ 2 ^ 54) (even : 2 ∣ n) : ofNat n = .finite n := by
  have hexact : nearestWithin 53 n = n := nearestWithin_of_le (k := 1) (by decide) bound even
  rw [ofNat, hexact, if_pos (lt_overflowAt bound (by decide))]

/-- What takes more than 53 binary digits is no safe integer. -/
theorem isAtLeast_ofNat {n : ℕ} (h : 2 ^ 53 ≤ n) : (ofNat n).isAtLeast (2 ^ 53) = true := by
  have hnearest : 2 ^ 53 ≤ nearestWithin 53 n := le_nearestWithin (by decide) h
  rw [ofNat]
  split
  · simp only [isAtLeast, decide_eq_true_eq]
    exact_mod_cast hnearest
  · rfl

theorem isSafeInteger_of_isAtLeast {a : JsNumber} (h : a.isAtLeast (2 ^ 53) = true) :
    a.isSafeInteger = false := by
  cases a with
  | nan | negInfinity => cases h
  | infinity => rfl
  | finite value =>
      simp only [isAtLeast, decide_eq_true_eq] at h
      have habove : ¬ value ≤ maxSafeInteger := by
        rw [maxSafeInteger]
        intro hle
        have := h.trans hle
        norm_num at this
      simp [isSafeInteger, isWithin, habove]

/-- The greater of two numbers is at least what either is. -/
theorem isAtLeast_max {a b : JsNumber} {low : ℚ} (ha : a ≠ .nan) (hb : b ≠ .nan)
    (h : a.isAtLeast low = true ∨ b.isAtLeast low = true) : (a.max b).isAtLeast low = true := by
  rw [max, if_neg (by simp [ha, hb])]
  split
  · next hlt =>
      rcases h with h | h
      · revert hlt h
        cases a <;> cases b <;> simp [lt, isAtLeast]
        intro hlt h
        exact h.trans hlt.le
      · exact h
  · next hlt =>
      rcases h with h | h
      · exact h
      · revert hlt h ha hb
        cases a <;> cases b <;> simp [lt, isAtLeast]
        intro hle h
        exact h.trans hle

theorem max_finite (a b : ℚ) : (JsNumber.finite a).max (.finite b) = .finite (Max.max a b) := by
  rw [max, if_neg (by simp)]
  by_cases h : a < b
  · rw [if_pos (by simpa [lt] using h), max_eq_right h.le]
  · rw [if_neg (by simpa [lt] using h), max_eq_left (not_lt.1 h)]

end JsNumber

end ReputationKey.Base
