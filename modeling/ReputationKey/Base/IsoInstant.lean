import ReputationKey.Base.IsoDate

/-!
# Instants as texts

`Date.prototype.toISOString`: a year of four digits, or a sign and six digits outside the years 0 to
9999, and the other fields of the clock in digits. Instants that a `Date` can hold are told by it.
-/

namespace ReputationKey.Base

open Civil

/-- The last three digits of a number. -/
def threeDigits (n : ℤ) : List UInt16 := digitUnit (n / 100) :: twoDigits n

/-- The last six digits of a number. -/
def sixDigits (n : ℤ) : List UInt16 := twoDigits (n / 10000) ++ fourDigits n

/-- A year as an instant's text begins with it. -/
def yearText (year : ℤ) : List UInt16 :=
  if 0 ≤ year ∧ year ≤ 9999 then fourDigits year
  else (if year < 0 then hyphen else 43) :: sixDigits year.natAbs

/-- The clock behind the year. -/
def clockText (clock : WallClock) : List UInt16 :=
  hyphen :: (twoDigits clock.month ++ hyphen :: (twoDigits clock.day ++ 84 :: (twoDigits clock.hour ++
    58 :: (twoDigits clock.minute ++ 58 :: (twoDigits clock.second ++
      46 :: (threeDigits clock.millisecond ++ [90]))))))

/-- `Date.prototype.toISOString` at so many milliseconds after the start of 1970. -/
def instantText (epoch : ℤ) : List UInt16 :=
  yearText (WallClock.ofEpoch epoch).year ++ clockText (WallClock.ofEpoch epoch)

/-- An instant that a `Date` can hold. -/
def IsInstant (epoch : ℤ) : Prop := -8640000000000000 ≤ epoch ∧ epoch ≤ 8640000000000000

variable {a b : ℤ}

theorem twoDigits_inj (ha : 0 ≤ a ∧ a ≤ 99) (hb : 0 ≤ b ∧ b ≤ 99) (h : twoDigits a = twoDigits b) :
    a = b := by
  have hread := numberOf_twoDigits ha.1 ha.2
  rw [h, numberOf_twoDigits hb.1 hb.2] at hread
  exact (Option.some.inj hread).symm

theorem fourDigits_inj (ha : 0 ≤ a ∧ a ≤ 9999) (hb : 0 ≤ b ∧ b ≤ 9999)
    (h : fourDigits a = fourDigits b) : a = b := by
  have hread := numberOf_fourDigits ha.1 ha.2
  rw [h, numberOf_fourDigits hb.1 hb.2] at hread
  exact (Option.some.inj hread).symm

theorem numberOf_threeDigits {n : ℤ} (low : 0 ≤ n) (high : n ≤ 999) :
    numberOf (threeDigits n) = some n := by
  simp only [numberOf, threeDigits, twoDigits, List.foldl_cons, List.foldl_nil, digitOf_digitUnit,
    Option.bind_some, Option.map_some]
  congr 1
  omega

theorem threeDigits_inj (ha : 0 ≤ a ∧ a ≤ 999) (hb : 0 ≤ b ∧ b ≤ 999)
    (h : threeDigits a = threeDigits b) : a = b := by
  have hread := numberOf_threeDigits ha.1 ha.2
  rw [h, numberOf_threeDigits hb.1 hb.2] at hread
  exact (Option.some.inj hread).symm

theorem numberOf_sixDigits {n : ℤ} (low : 0 ≤ n) (high : n ≤ 999999) :
    numberOf (sixDigits n) = some n := by
  simp only [numberOf, sixDigits, fourDigits, twoDigits, List.cons_append, List.nil_append,
    List.foldl_cons, List.foldl_nil, digitOf_digitUnit, Option.bind_some, Option.map_some]
  congr 1
  omega

theorem sixDigits_inj (ha : 0 ≤ a ∧ a ≤ 999999) (hb : 0 ≤ b ∧ b ≤ 999999)
    (h : sixDigits a = sixDigits b) : a = b := by
  have hread := numberOf_sixDigits ha.1 ha.2
  rw [h, numberOf_sixDigits hb.1 hb.2] at hread
  exact (Option.some.inj hread).symm

theorem length_yearText (year : ℤ) :
    (yearText year).length = if 0 ≤ year ∧ year ≤ 9999 then 4 else 7 := by
  rw [yearText]
  split_ifs <;> rfl

theorem yearText_inj (ha : -999999 ≤ a ∧ a ≤ 999999) (hb : -999999 ≤ b ∧ b ≤ 999999)
    (h : yearText a = yearText b) : a = b := by
  have hlength := congrArg List.length h
  rw [length_yearText, length_yearText] at hlength
  by_cases hshort : 0 ≤ a ∧ a ≤ 9999
  · have hshort' : 0 ≤ b ∧ b ≤ 9999 := by
      by_contra hlong
      rw [if_pos hshort, if_neg hlong] at hlength
      omega
    rw [yearText, yearText, if_pos hshort, if_pos hshort'] at h
    exact fourDigits_inj hshort hshort' h
  · have hlong : ¬(0 ≤ b ∧ b ≤ 9999) := by
      intro hshort'
      rw [if_neg hshort, if_pos hshort'] at hlength
      omega
    rw [yearText, yearText, if_neg hshort, if_neg hlong, List.cons.injEq] at h
    have habs := sixDigits_inj (by omega) (by omega) h.2
    have hsign : a < 0 ↔ b < 0 := by
      by_cases hneg : a < 0 <;> by_cases hneg' : b < 0 <;> simp [hneg, hneg', hyphen] at h ⊢
    omega

/-- The fields of a clock behind its year. -/
theorem clockText_inj {epoch epoch' : ℤ}
    (hyear : (WallClock.ofEpoch epoch).year = (WallClock.ofEpoch epoch').year)
    (h : clockText (WallClock.ofEpoch epoch) = clockText (WallClock.ofEpoch epoch')) :
    epoch = epoch' := by
  have hbounds (epoch : ℤ) := monthOfDay_spec (epoch / 86400000)
  have hdays (epoch : ℤ) := @daysInMonth_bounds (yearOfDay (epoch / 86400000))
    (monthOfDay (epoch / 86400000)) (hbounds epoch).1 (hbounds epoch).2.1
  have hfield (start : ℕ) := congrArg (fun text ↦ (text.drop start).take 2) h
  have hmonth := twoDigits_inj (by simp only [WallClock.ofEpoch]; have := hbounds epoch; omega)
    (by simp only [WallClock.ofEpoch]; have := hbounds epoch'; omega) (hfield 1)
  have hday := twoDigits_inj
    (by simp only [WallClock.ofEpoch]; have := hbounds epoch; have := hdays epoch; omega)
    (by simp only [WallClock.ofEpoch]; have := hbounds epoch'; have := hdays epoch'; omega) (hfield 4)
  have hhour := twoDigits_inj (by simp only [WallClock.ofEpoch]; omega)
    (by simp only [WallClock.ofEpoch]; omega) (hfield 7)
  have hminute := twoDigits_inj (by simp only [WallClock.ofEpoch]; omega)
    (by simp only [WallClock.ofEpoch]; omega) (hfield 10)
  have hsecond := twoDigits_inj (by simp only [WallClock.ofEpoch]; omega)
    (by simp only [WallClock.ofEpoch]; omega) (hfield 13)
  have hmillisecond := threeDigits_inj (by simp only [WallClock.ofEpoch]; omega)
    (by simp only [WallClock.ofEpoch]; omega)
    (congrArg (fun text ↦ (text.drop 16).take 3) h)
  apply WallClock.ofEpoch_injective
  rw [WallClock.mk.injEq]
  exact ⟨hyear, hmonth, hday, hhour, hminute, hsecond, hmillisecond⟩

/-- A clock's year is in bounds. -/
theorem year_bounds {epoch : ℤ} (h : IsInstant epoch) :
    -999999 ≤ (WallClock.ofEpoch epoch).year ∧ (WallClock.ofEpoch epoch).year ≤ 999999 := by
  have hspec := yearOfDay_spec (epoch / 86400000)
  have hday : -100000000 ≤ epoch / 86400000 ∧ epoch / 86400000 ≤ 100000000 := by
    obtain ⟨hlow, hhigh⟩ := h
    omega
  simp only [WallClock.ofEpoch]
  generalize yearOfDay (epoch / 86400000) = year at hspec
  simp only [dayFromYear] at hspec
  omega

/-- Instants are told by their texts. -/
theorem instantText_inj {epoch epoch' : ℤ} (h : IsInstant epoch) (h' : IsInstant epoch')
    (htext : instantText epoch = instantText epoch') : epoch = epoch' := by
  have hlength (clock : WallClock) : (clockText clock).length = 20 := rfl
  obtain ⟨hyear, hclock⟩ := List.append_inj' htext (by rw [hlength, hlength])
  exact clockText_inj (yearText_inj (year_bounds h) (year_bounds h') hyear) hclock

/-- An instant's text is made of digits and marks of ASCII. -/
theorem bounds_of_mem_instantText (epoch : ℤ) :
    ∀ unit ∈ instantText epoch, 43 ≤ unit.toNat ∧ unit.toNat ≤ 90 := by
  have hdigit (n : ℤ) : 43 ≤ (digitUnit n).toNat ∧ (digitUnit n).toNat ≤ 90 := by
    rw [toNat_digitUnit]
    omega
  rw [instantText, List.forall_mem_append]
  constructor
  · rw [yearText]
    split_ifs <;> simp [fourDigits, sixDigits, twoDigits, hdigit, hyphen]
  · simp [clockText, threeDigits, twoDigits, hdigit, hyphen]

end ReputationKey.Base
