import ReputationKey.Shared.JsString

/-!
# ASCII letters and digits among UTF-16 units

The ranges that regular expressions of the shared code name, and the case of a letter.
-/

namespace ReputationKey.Shared

/-- A unit of a character class `[first-last]` of ASCII characters. -/
def isUnitIn (first last : Char) (unit : UInt16) : Bool :=
  decide (first.toNat ≤ unit.toNat) && decide (unit.toNat ≤ last.toNat)

/-- A decimal digit. -/
def isDecimalUnit (unit : UInt16) : Bool := isUnitIn '0' '9' unit

/-- A capital letter. -/
def isUpperUnit (unit : UInt16) : Bool := isUnitIn 'A' 'Z' unit

/-- A small letter. -/
def isLowerUnit (unit : UInt16) : Bool := isUnitIn 'a' 'z' unit

/-- What `toUpperCase` makes of an ASCII character. -/
def upperUnit (unit : UInt16) : UInt16 := if isLowerUnit unit then unit - 32 else unit

variable {unit : UInt16}

theorem isDecimalUnit_iff : isDecimalUnit unit = true ↔ 48 ≤ unit.toNat ∧ unit.toNat ≤ 57 := by
  rw [isDecimalUnit, isUnitIn, Bool.and_eq_true, decide_eq_true_eq, decide_eq_true_eq]
  rfl

theorem isUpperUnit_iff : isUpperUnit unit = true ↔ 65 ≤ unit.toNat ∧ unit.toNat ≤ 90 := by
  rw [isUpperUnit, isUnitIn, Bool.and_eq_true, decide_eq_true_eq, decide_eq_true_eq]
  rfl

theorem isLowerUnit_iff : isLowerUnit unit = true ↔ 97 ≤ unit.toNat ∧ unit.toNat ≤ 122 := by
  rw [isLowerUnit, isUnitIn, Bool.and_eq_true, decide_eq_true_eq, decide_eq_true_eq]
  rfl

theorem toNat_upperUnit : (upperUnit unit).toNat =
    if 97 ≤ unit.toNat ∧ unit.toNat ≤ 122 then unit.toNat - 32 else unit.toNat := by
  rw [upperUnit]
  by_cases h : isLowerUnit unit = true
  · have hle : (32 : UInt16) ≤ unit := by
      rw [UInt16.le_iff_toNat_le]
      rw [isLowerUnit_iff] at h
      exact le_trans (by decide) h.1
    rw [if_pos h, if_pos (isLowerUnit_iff.1 h), UInt16.toNat_sub_of_le _ _ hle]
    rfl
  · rw [if_neg h, if_neg (mt isLowerUnit_iff.2 h)]

end ReputationKey.Shared
