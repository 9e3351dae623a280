import ReputationKey.Base.CivilDate
import ReputationKey.Base.JsonValue

/-!
# Dates as texts

A day of the years 0 to 9999 as `YYYY-MM-DD`. A text of this form is read back as its day, and the
order of the texts is that of the days. Days of other years take a sign and two digits more.
-/

namespace ReputationKey.Base

open Civil

/-- A decimal digit as a UTF-16 unit. -/
def digitUnit (n : ℤ) : UInt16 := UInt16.ofNat (48 + (n % 10).toNat)

/-- The last two digits of a number. -/
def twoDigits (n : ℤ) : List UInt16 := [digitUnit (n / 10), digitUnit n]

/-- The last four digits of a number. -/
def fourDigits (n : ℤ) : List UInt16 := twoDigits (n / 100) ++ twoDigits n

/-- A hyphen. -/
def hyphen : UInt16 := 45

/-- A date as `Date.prototype.toISOString` begins with it, cut after ten units. -/
def isoText (day : ℤ) : List UInt16 :=
  let year := yearOfDay day
  let written :=
    if 0 ≤ year ∧ year ≤ 9999 then fourDigits year
    else (if year < 0 then hyphen else 43) :: (twoDigits (year.natAbs / 10000) ++ fourDigits year.natAbs)
  (written ++ hyphen :: (twoDigits (monthOfDay day + 1) ++ hyphen :: twoDigits (dateOfDay day))).take 10

/-- The number a digit stands for. -/
def digitOf (unit : UInt16) : Option ℤ :=
  if 48 ≤ unit.toNat ∧ unit.toNat ≤ 57 then some (unit.toNat - 48) else none

/-- The number that digits write. -/
def numberOf (digits : List UInt16) : Option ℤ :=
  digits.foldl (fun number unit ↦ number.bind fun n ↦ (digitOf unit).map fun digit ↦ 10 * n + digit) (some 0)

/-- The day of a text `YYYY-MM-DD`; none for a text of another form. -/
def dateOfText (text : List UInt16) : Option ℤ :=
  if text.length = 10 ∧ text[4]? = some hyphen ∧ text[7]? = some hyphen then
    (numberOf (text.take 4)).bind fun year ↦
      (numberOf ((text.drop 5).take 2)).bind fun month ↦
        (numberOf (text.drop 8)).bind fun date ↦
          if 1 ≤ month ∧ month ≤ 12 ∧ 1 ≤ date ∧ date ≤ daysInMonth year (month - 1) then
            some (makeDay year (month - 1) date)
          else none
  else none

/-- A day that has a text of ten units. -/
def IsWritten (day : ℤ) : Prop := 0 ≤ yearOfDay day ∧ yearOfDay day ≤ 9999

instance (day : ℤ) : Decidable (IsWritten day) := inferInstanceAs (Decidable (_ ∧ _))

/-! ## Reading back -/

theorem toNat_digitUnit (n : ℤ) : (digitUnit n).toNat = 48 + (n % 10).toNat := by
  rw [digitUnit, UInt16.toNat_ofNat']
  omega

theorem digitOf_digitUnit (n : ℤ) : digitOf (digitUnit n) = some (n % 10) := by
  rw [digitOf, toNat_digitUnit, if_pos (by omega)]
  congr 1
  omega

theorem numberOf_twoDigits {n : ℤ} (low : 0 ≤ n) (high : n ≤ 99) : numberOf (twoDigits n) = some n := by
  simp only [numberOf, twoDigits, List.foldl_cons, List.foldl_nil, digitOf_digitUnit, Option.bind_some,
    Option.map_some]
  congr 1
  omega

theorem numberOf_fourDigits {n : ℤ} (low : 0 ≤ n) (high : n ≤ 9999) :
    numberOf (fourDigits n) = some n := by
  simp only [numberOf, fourDigits, twoDigits, List.cons_append, List.nil_append, List.foldl_cons,
    List.foldl_nil, digitOf_digitUnit, Option.bind_some, Option.map_some]
  congr 1
  omega

theorem isoText_eq {day : ℤ} (h : IsWritten day) : isoText day =
    fourDigits (yearOfDay day) ++ hyphen ::
      (twoDigits (monthOfDay day + 1) ++ hyphen :: twoDigits (dateOfDay day)) := by
  rw [isoText]
  simp only [if_pos (show 0 ≤ yearOfDay day ∧ yearOfDay day ≤ 9999 from h)]
  rfl

/-- A text is read as its day. -/
theorem dateOfText_isoText {day : ℤ} (h : IsWritten day) : dateOfText (isoText day) = some day := by
  obtain ⟨low, high, first, last⟩ := monthOfDay_spec day
  have bounds := @daysInMonth_bounds (yearOfDay day) _ low high
  have year := numberOf_fourDigits h.1 h.2
  have month := @numberOf_twoDigits (monthOfDay day + 1) (by omega) (by omega)
  have date := @numberOf_twoDigits (dateOfDay day) (by omega) (by omega)
  have form : (isoText day).length = 10 ∧ (isoText day)[4]? = some hyphen ∧
      (isoText day)[7]? = some hyphen := by
    rw [isoText_eq h]
    exact ⟨rfl, rfl, rfl⟩
  have yearPart : (isoText day).take 4 = fourDigits (yearOfDay day) := by
    rw [isoText_eq h]
    rfl
  have monthPart : ((isoText day).drop 5).take 2 = twoDigits (monthOfDay day + 1) := by
    rw [isoText_eq h]
    rfl
  have datePart : (isoText day).drop 8 = twoDigits (dateOfDay day) := by
    rw [isoText_eq h]
    rfl
  rw [dateOfText, if_pos form, yearPart, monthPart, datePart, year, month, date]
  simp only [Option.bind_some, add_sub_cancel_right]
  rw [if_pos (by omega), makeDay_ofDay]

theorem isoText_injective {a b : ℤ} (ha : IsWritten a) (hb : IsWritten b) (h : isoText a = isoText b) :
    a = b := by
  have read := dateOfText_isoText ha
  rw [h, dateOfText_isoText hb] at read
  exact (Option.some.inj read).symm

/-! ## The order of texts -/

/-- The months, counted through the years. -/
def monthIndex (day : ℤ) : ℤ := 12 * yearOfDay day + monthOfDay day

/-- The first day of a month. -/
def firstOfMonth (index : ℤ) : ℤ := makeDay 0 index 1

theorem firstOfMonth_monthIndex (day : ℤ) :
    firstOfMonth (monthIndex day) = makeDay (yearOfDay day) (monthOfDay day) 1 := by
  obtain ⟨low, high, -⟩ := monthOfDay_spec day
  have year : (0 : ℤ) + (12 * yearOfDay day + monthOfDay day) / 12 = yearOfDay day := by omega
  have month : (12 * yearOfDay day + monthOfDay day) % 12 = monthOfDay day := by omega
  rw [firstOfMonth, monthIndex, makeDay_carry, year, month]

/-- The first of the next month is later. -/
theorem firstOfMonth_lt (index : ℤ) : firstOfMonth index < firstOfMonth (index + 1) := by
  have days := (@daysInMonth_bounds (0 + index / 12) (index % 12) (by omega) (by omega)).1
  rw [firstOfMonth, firstOfMonth, makeDay_next]
  omega

theorem firstOfMonth_mono {first last : ℤ} (h : first ≤ last) : firstOfMonth first ≤ firstOfMonth last :=
  makeDay_mono h

/-- A day lies in its month. -/
theorem monthIndex_spec (day : ℤ) :
    firstOfMonth (monthIndex day) ≤ day ∧ day < firstOfMonth (monthIndex day + 1) := by
  obtain ⟨low, high, first, -⟩ := monthOfDay_spec day
  have counted := first_of_month day
  have next := lt_next_month day
  have index : firstOfMonth (monthIndex day + 1) = makeDay (yearOfDay day) (monthOfDay day + 1) 1 := by
    have month := firstOfMonth_monthIndex day
    rw [firstOfMonth] at month ⊢
    rw [makeDay_next, month, makeDay_next]
    have year : (0 : ℤ) + monthIndex day / 12 = yearOfDay day + monthOfDay day / 12 := by
      rw [monthIndex]
      omega
    have within : monthIndex day % 12 = monthOfDay day % 12 := by
      rw [monthIndex]
      omega
    rw [year, within]
  rw [firstOfMonth_monthIndex, index]
  omega

theorem monthIndex_mono {a b : ℤ} (h : a ≤ b) : monthIndex a ≤ monthIndex b := by
  by_contra later
  have before := firstOfMonth_mono (show monthIndex b + 1 ≤ monthIndex a by omega)
  have first := (monthIndex_spec a).1
  have last := (monthIndex_spec b).2
  omega

theorem yearOfDay_mono {a b : ℤ} (h : a ≤ b) : yearOfDay a ≤ yearOfDay b := by
  obtain ⟨low, high, -⟩ := monthOfDay_spec a
  obtain ⟨low', high', -⟩ := monthOfDay_spec b
  have months := monthIndex_mono h
  rw [monthIndex, monthIndex] at months
  omega

/-- A day between two that are written is. -/
theorem IsWritten.between {a b c : ℤ} (ha : IsWritten a) (hc : IsWritten c) (low : a ≤ b) (high : b ≤ c) :
    IsWritten b :=
  ⟨le_trans ha.1 (yearOfDay_mono low), le_trans (yearOfDay_mono high) hc.2⟩

/-- What comes behind parts of one length does not matter where they differ. -/
theorem append_lt_append {front other back more : List ℕ} (length : front.length = other.length)
    (h : front < other) : front ++ back < other ++ more := by
  induction front generalizing other with
  | nil =>
      obtain rfl := List.length_eq_zero_iff.1 length.symm
      exact absurd h (List.not_lt_nil _)
  | cons a front ih =>
      cases other with
      | nil => contradiction
      | cons b other =>
          rw [List.cons_append, List.cons_append]
          rcases List.cons_lt_cons_iff.1 h with less | ⟨same, rest⟩
          · exact List.cons_lt_cons_iff.2 (Or.inl less)
          · exact List.cons_lt_cons_iff.2 (Or.inr ⟨same, ih (Nat.succ.inj length) rest⟩)

/-- Digits of a greater number are greater where they first differ. -/
theorem twoDigits_lt {a b : ℤ} (h : a % 100 < b % 100) :
    (twoDigits a).map UInt16.toNat < (twoDigits b).map UInt16.toNat := by
  have digits : a / 10 % 10 < b / 10 % 10 ∨ a / 10 % 10 = b / 10 % 10 ∧ a % 10 < b % 10 := by omega
  simp only [twoDigits, List.map_cons, List.map_nil, toNat_digitUnit, List.cons_lt_cons_iff,
    List.not_lt_nil]
  omega

theorem fourDigits_lt {a b : ℤ} (low : 0 ≤ a) (h : a < b) (high : b ≤ 9999) :
    (fourDigits a).map UInt16.toNat < (fourDigits b).map UInt16.toNat := by
  rw [fourDigits, fourDigits, List.map_append, List.map_append]
  by_cases front : a / 100 = b / 100
  · rw [front]
    exact List.append_left_lt (twoDigits_lt (by omega))
  · exact append_lt_append rfl (twoDigits_lt (by omega))

/-- The text of a later day comes later. -/
theorem isoText_lt {a b : ℤ} (ha : IsWritten a) (hb : IsWritten b) (h : a < b) :
    (isoText a).map UInt16.toNat < (isoText b).map UInt16.toNat := by
  obtain ⟨monthLow, monthHigh, dateLow, dateHigh⟩ := monthOfDay_spec a
  obtain ⟨monthLow', monthHigh', dateLow', dateHigh'⟩ := monthOfDay_spec b
  have bounds := @daysInMonth_bounds (yearOfDay a) _ monthLow monthHigh
  have bounds' := @daysInMonth_bounds (yearOfDay b) _ monthLow' monthHigh'
  have months := monthIndex_mono h.le
  simp only [monthIndex] at months
  obtain ⟨yearLow, yearHigh⟩ := ha
  obtain ⟨yearLow', yearHigh'⟩ := hb
  rw [isoText_eq ⟨yearLow, yearHigh⟩, isoText_eq ⟨yearLow', yearHigh'⟩, List.map_append, List.map_append]
  by_cases years : yearOfDay a = yearOfDay b
  · rw [years]
    apply List.append_left_lt
    rw [List.map_cons, List.map_cons, List.cons_lt_cons_iff]
    refine Or.inr ⟨rfl, ?_⟩
    rw [List.map_append, List.map_append]
    by_cases sameMonth : monthOfDay a = monthOfDay b
    · have first := first_of_month a
      have first' := first_of_month b
      rw [years, sameMonth] at first
      rw [sameMonth]
      apply List.append_left_lt
      rw [List.map_cons, List.map_cons, List.cons_lt_cons_iff]
      exact Or.inr ⟨rfl, twoDigits_lt (by omega)⟩
    · exact append_lt_append rfl (twoDigits_lt (by omega))
  · exact append_lt_append rfl (fourDigits_lt (by omega) (by omega) (by omega))

/-- The order of the texts is that of the days. -/
theorem textLe_isoText_iff {a b : ℤ} (ha : IsWritten a) (hb : IsWritten b) :
    Json.textLe (isoText a) (isoText b) ↔ a ≤ b := by
  constructor
  · intro h
    by_contra later
    exact absurd (isoText_lt hb ha (by omega)) (not_lt.2 h)
  · intro h
    rcases h.lt_or_eq with less | rfl
    · exact (isoText_lt ha hb less).le
    · exact le_refl _

end ReputationKey.Base
