import Mathlib.Data.List.Basic
import Mathlib.Tactic.SplitIfs

/-!
# Texts of UTF-16 units

The scalar values a text of UTF-16 code units stands for, with the replacement character for every
surrogate that has no partner, and when every surrogate has one.
-/

namespace ReputationKey.Base

/-- The first unit of a surrogate pair. -/
def isHighUnit (unit : UInt16) : Bool := 0xd800 ≤ unit && unit ≤ 0xdbff

/-- The second unit of a surrogate pair. -/
def isLowUnit (unit : UInt16) : Bool := 0xdc00 ≤ unit && unit ≤ 0xdfff

/-- The scalar value of a unit of its own. -/
def unitScalar (unit : UInt16) : Char :=
  if isHighUnit unit || isLowUnit unit then '\uFFFD' else Char.ofNat unit.toNat

/-- The scalar value of a surrogate pair. -/
def pairScalar (high low : UInt16) : Char :=
  Char.ofNat (0x10000 + (high.toNat - 0xd800) * 0x400 + (low.toNat - 0xdc00))

/-- The scalar values of a text. -/
def scalarValues : List UInt16 → List Char
  | [] => []
  | [unit] => [unitScalar unit]
  | unit :: next :: rest =>
      if isHighUnit unit && isLowUnit next then pairScalar unit next :: scalarValues rest
      else unitScalar unit :: scalarValues (next :: rest)

/-- The UTF-8 encoding of a text. -/
def utf8Bytes (text : List UInt16) : List UInt8 :=
  (scalarValues text).flatMap String.utf8EncodeChar

/-- Texts whose surrogates all stand in pairs. -/
inductive WellFormedUtf16 : List UInt16 → Prop
  | nil : WellFormedUtf16 []
  | unit {unit : UInt16} {rest : List UInt16} : isHighUnit unit = false → isLowUnit unit = false →
      WellFormedUtf16 rest → WellFormedUtf16 (unit :: rest)
  | pair {high low : UInt16} {rest : List UInt16} : isHighUnit high = true → isLowUnit low = true →
      WellFormedUtf16 rest → WellFormedUtf16 (high :: low :: rest)

section Units

variable {unit next : UInt16} {rest text : List UInt16}

theorem isHighUnit_iff : isHighUnit unit = true ↔ 0xd800 ≤ unit.toNat ∧ unit.toNat ≤ 0xdbff := by
  simp [isHighUnit, UInt16.le_iff_toNat_le]

theorem isLowUnit_iff : isLowUnit unit = true ↔ 0xdc00 ≤ unit.toNat ∧ unit.toNat ≤ 0xdfff := by
  simp [isLowUnit, UInt16.le_iff_toNat_le]

theorem not_isLowUnit_of_high (high : isHighUnit unit = true) : isLowUnit unit = false := by
  rw [← Bool.not_eq_true, isLowUnit_iff]
  rw [isHighUnit_iff] at high
  omega

theorem scalarValues_cons_pair (high : isHighUnit unit = true) (low : isLowUnit next = true) :
    scalarValues (unit :: next :: rest) = pairScalar unit next :: scalarValues rest := by
  rw [scalarValues, high, low]
  rfl

/-- A unit that does not pair with the next one stands for itself. -/
theorem scalarValues_cons_unit
    (apart : ¬(isHighUnit unit = true ∧ ∃ next ∈ rest.head?, isLowUnit next = true)) :
    scalarValues (unit :: rest) = unitScalar unit :: scalarValues rest := by
  cases rest with
  | nil => rfl
  | cons next rest =>
      rw [scalarValues, if_neg]
      simpa using apart

/-- The units of a text are taken off its front pair by pair and unit by unit. -/
theorem scalar_induction {motive : List UInt16 → Prop} (nil : motive [])
    (pair : ∀ high low rest, isHighUnit high = true → isLowUnit low = true → motive rest →
      motive (high :: low :: rest))
    (unit : ∀ unit rest, ¬(isHighUnit unit = true ∧ ∃ next ∈ rest.head?, isLowUnit next = true) →
      motive rest → motive (unit :: rest)) (text : List UInt16) : motive text := by
  induction text using scalarValues.induct with
  | case1 => exact nil
  | case2 u => exact unit u [] (by simp) nil
  | case3 u v rest h ih =>
      rw [Bool.and_eq_true] at h
      exact pair u v rest h.1 h.2 ih
  | case4 u v rest h ih =>
      rw [Bool.and_eq_true] at h
      exact unit u (v :: rest) (by simpa using h) ih

/-- Texts whose junction does not pair two surrogates are read one after the other. -/
theorem scalarValues_append {more : List UInt16}
    (apart : ∀ last ∈ text.getLast?, isHighUnit last = true →
      ∀ next ∈ more.head?, isLowUnit next = false) :
    scalarValues (text ++ more) = scalarValues text ++ scalarValues more := by
  induction text using scalar_induction with
  | nil => rfl
  | pair u v rest hu hv ih =>
      rw [List.cons_append, List.cons_append, scalarValues_cons_pair hu hv,
        scalarValues_cons_pair hu hv, List.cons_append]
      congr 1
      refine ih fun last hlast ↦ apart last ?_
      cases rest with
      | nil => cases hlast
      | cons w rest => exact hlast
  | unit u rest hu ih =>
      have hjoined :
          ¬(isHighUnit u = true ∧ ∃ next ∈ (rest ++ more).head?, isLowUnit next = true) := by
        cases rest with
        | nil =>
            rintro ⟨hhigh, next, hnext, hlow⟩
            rw [apart u rfl hhigh next hnext] at hlow
            cases hlow
        | cons w rest => exact hu
      rw [List.cons_append, scalarValues_cons_unit hjoined, scalarValues_cons_unit hu,
        List.cons_append]
      congr 1
      refine ih fun last hlast ↦ apart last ?_
      cases rest with
      | nil => cases hlast
      | cons w rest => exact hlast

/-! ## Encoded lengths -/

/-- A code point that is no surrogate is kept by the character made of it. -/
theorem toNat_ofNat {n : Nat} (valid : n.isValidChar) : (Char.ofNat n).toNat = n := by
  rw [Char.ofNat, dif_pos valid]
  exact UInt32.toNat_ofNatLT

theorem unitScalar_of_surrogate (h : isHighUnit unit = true ∨ isLowUnit unit = true) :
    unitScalar unit = '\uFFFD' := by
  rw [unitScalar, if_pos (by simpa using h)]

theorem toNat_unitScalar (high : isHighUnit unit = false) (low : isLowUnit unit = false) :
    (unitScalar unit).toNat = unit.toNat := by
  have hlt := unit.toNat_lt
  rw [unitScalar, high, low]
  rw [← Bool.not_eq_true, isHighUnit_iff] at high
  rw [← Bool.not_eq_true, isLowUnit_iff] at low
  apply toNat_ofNat
  rw [Nat.isValidChar]
  omega

theorem toNat_pairScalar (high : isHighUnit unit = true) (low : isLowUnit next = true) :
    (pairScalar unit next).toNat =
      0x10000 + (unit.toNat - 0xd800) * 0x400 + (next.toNat - 0xdc00) := by
  rw [isHighUnit_iff] at high
  rw [isLowUnit_iff] at low
  apply toNat_ofNat
  rw [Nat.isValidChar]
  omega

/-- The number of bytes of a scalar value. -/
theorem length_encoded (c : Char) : (String.utf8EncodeChar c).length =
    if c.toNat < 0x80 then 1 else if c.toNat < 0x800 then 2 else
      if c.toNat < 0x10000 then 3 else 4 := by
  have hval : c.val.toNat = c.toNat := rfl
  rw [String.length_utf8EncodeChar]
  rcases c.utf8Size_eq with h | h | h | h
  · have hle := Char.utf8Size_eq_one_iff.1 h
    simp only [UInt32.le_iff_toNat_le, hval, UInt32.reduceToNat] at hle
    rw [h, if_pos (by omega)]
  · have hle := Char.utf8Size_eq_two_iff.1 h
    simp only [UInt32.lt_iff_toNat_lt, UInt32.le_iff_toNat_le, hval, UInt32.reduceToNat] at hle
    rw [h, if_neg (by omega), if_pos (by omega)]
  · have hle := Char.utf8Size_eq_three_iff.1 h
    simp only [UInt32.lt_iff_toNat_lt, UInt32.le_iff_toNat_le, hval, UInt32.reduceToNat] at hle
    rw [h, if_neg (by omega), if_neg (by omega), if_pos (by omega)]
  · have hlt := Char.utf8Size_eq_four_iff.1 h
    simp only [UInt32.lt_iff_toNat_lt, hval, UInt32.reduceToNat] at hlt
    rw [h, if_neg (by omega), if_neg (by omega), if_neg (by omega)]

/-- A unit of its own takes three bytes at most, and three when it is a lone surrogate. -/
theorem length_unitScalar : (String.utf8EncodeChar (unitScalar unit)).length =
    if unit.toNat < 0x80 then 1 else if unit.toNat < 0x800 then 2 else 3 := by
  have hlt := unit.toNat_lt
  by_cases h : isHighUnit unit = true ∨ isLowUnit unit = true
  · rw [unitScalar_of_surrogate h]
    rw [isHighUnit_iff, isLowUnit_iff] at h
    rw [if_neg (by omega), if_neg (by omega)]
    rfl
  · rw [not_or, Bool.not_eq_true, Bool.not_eq_true] at h
    rw [length_encoded, toNat_unitScalar h.1 h.2]
    split_ifs <;> omega

/-- A pair takes four bytes. -/
theorem length_pairScalar (high : isHighUnit unit = true) (low : isLowUnit next = true) :
    (String.utf8EncodeChar (pairScalar unit next)).length = 4 := by
  rw [length_encoded, toNat_pairScalar high low]
  split_ifs <;> omega

/-- Texts whose junction does not pair two surrogates are encoded one after the other. -/
theorem utf8Bytes_append {more : List UInt16}
    (apart : ∀ last ∈ text.getLast?, isHighUnit last = true →
      ∀ next ∈ more.head?, isLowUnit next = false) :
    utf8Bytes (text ++ more) = utf8Bytes text ++ utf8Bytes more := by
  rw [utf8Bytes, scalarValues_append apart, List.flatMap_append]
  rfl

end Units

end ReputationKey.Base
