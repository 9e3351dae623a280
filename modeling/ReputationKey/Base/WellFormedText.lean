import ReputationKey.Base.PrefixCode
import ReputationKey.Base.Utf16

/-!
# Texts and their bytes

The text that stands for the same scalar values and has no unpaired surrogates, unit by unit. Two texts
have the same UTF-8 encoding when and only when these are the same.
-/

namespace ReputationKey.Base

/-- A unit, or the replacement character for a surrogate. -/
def repairedUnit (unit : UInt16) : UInt16 :=
  if isHighUnit unit || isLowUnit unit then 0xfffd else unit

/-- `String.prototype.toWellFormed`: every unpaired surrogate is replaced. -/
def toWellFormed : List UInt16 → List UInt16
  | [] => []
  | [unit] => [repairedUnit unit]
  | unit :: next :: rest =>
      if isHighUnit unit && isLowUnit next then unit :: next :: toWellFormed rest
      else repairedUnit unit :: toWellFormed (next :: rest)

section Units

variable {unit next : UInt16} {rest text : List UInt16}

theorem toWellFormed_cons_pair (high : isHighUnit unit = true) (low : isLowUnit next = true) :
    toWellFormed (unit :: next :: rest) = unit :: next :: toWellFormed rest := by
  rw [toWellFormed, high, low]
  rfl

/-- A unit that does not pair with the next one is repaired on its own. -/
theorem toWellFormed_cons_unit
    (apart : ¬(isHighUnit unit = true ∧ ∃ next ∈ rest.head?, isLowUnit next = true)) :
    toWellFormed (unit :: rest) = repairedUnit unit :: toWellFormed rest := by
  cases rest with
  | nil => rfl
  | cons next rest =>
      rw [toWellFormed, if_neg]
      simpa using apart

@[simp] theorem length_toWellFormed (text : List UInt16) :
    (toWellFormed text).length = text.length := by
  induction text using scalar_induction with
  | nil => rfl
  | pair u v rest hu hv ih => rw [toWellFormed_cons_pair hu hv]; simp [ih]
  | unit u rest hu ih => rw [toWellFormed_cons_unit hu]; simp [ih]

theorem repairedUnit_of_not (high : isHighUnit unit = false) (low : isLowUnit unit = false) :
    repairedUnit unit = unit := by
  rw [repairedUnit, high, low]
  rfl

/-- A unit that is no surrogate parts what is before it from what is behind it. -/
theorem toWellFormed_append_cons (high : isHighUnit unit = false) (low : isLowUnit unit = false)
    (text rest : List UInt16) :
    toWellFormed (text ++ unit :: rest) = toWellFormed text ++ unit :: toWellFormed rest := by
  induction text using scalar_induction with
  | nil =>
      rw [List.nil_append, toWellFormed_cons_unit, repairedUnit_of_not high low]
      · rfl
      · rintro ⟨h, -⟩
        rw [high] at h
        cases h
  | pair u v more hu hv ih =>
      rw [List.cons_append, List.cons_append, toWellFormed_cons_pair hu hv,
        toWellFormed_cons_pair hu hv, ih]
      rfl
  | unit u more hu ih =>
      rw [List.cons_append, toWellFormed_cons_unit, toWellFormed_cons_unit hu, ih, List.cons_append]
      cases more with
      | nil =>
          rintro ⟨-, v, hv, hlow⟩
          cases hv
          rw [low] at hlow
          cases hlow
      | cons v more => exact hu

/-- Text without surrogates at the head is kept. -/
theorem toWellFormed_append {plain : List UInt16}
    (h : ∀ unit ∈ plain, isHighUnit unit = false ∧ isLowUnit unit = false) (rest : List UInt16) :
    toWellFormed (plain ++ rest) = plain ++ toWellFormed rest := by
  induction plain with
  | nil => rfl
  | cons unit plain ih =>
      obtain ⟨high, low⟩ := h unit List.mem_cons_self
      have hcons := toWellFormed_append_cons high low [] (plain ++ rest)
      rw [List.cons_append, List.cons_append, ← ih fun u mem ↦ h u (List.mem_cons_of_mem _ mem)]
      exact hcons

/-! ## The scalar values tell the repaired text -/

/-- The units of a scalar value. -/
def charUnits (c : Char) : List UInt16 :=
  if c.toNat < 0x10000 then [UInt16.ofNat c.toNat]
  else [UInt16.ofNat (0xd800 + (c.toNat - 0x10000) / 0x400),
    UInt16.ofNat (0xdc00 + (c.toNat - 0x10000) % 0x400)]

theorem toNat_unitScalar_eq (unit : UInt16) : (unitScalar unit).toNat = (repairedUnit unit).toNat := by
  by_cases h : (isHighUnit unit || isLowUnit unit) = true
  · rw [unitScalar, repairedUnit, if_pos h, if_pos h]
    rfl
  · rw [repairedUnit, if_neg h]
    rw [Bool.not_eq_true, Bool.or_eq_false_iff] at h
    exact toNat_unitScalar h.1 h.2

theorem charUnits_unitScalar (unit : UInt16) : charUnits (unitScalar unit) = [repairedUnit unit] := by
  have hlt := (repairedUnit unit).toNat_lt
  rw [charUnits, toNat_unitScalar_eq, if_pos hlt, UInt16.ofNat_toNat]

theorem charUnits_pairScalar (high : isHighUnit unit = true) (low : isLowUnit next = true) :
    charUnits (pairScalar unit next) = [unit, next] := by
  rw [charUnits, toNat_pairScalar high low, if_neg (by omega)]
  rw [isHighUnit_iff] at high
  rw [isLowUnit_iff] at low
  have hhigh : 0xd800 + (0x10000 + (unit.toNat - 0xd800) * 0x400 + (next.toNat - 0xdc00) - 0x10000) /
      0x400 = unit.toNat := by omega
  have hlow : 0xdc00 + (0x10000 + (unit.toNat - 0xd800) * 0x400 + (next.toNat - 0xdc00) - 0x10000) %
      0x400 = next.toNat := by omega
  rw [hhigh, hlow, UInt16.ofNat_toNat, UInt16.ofNat_toNat]

theorem toWellFormed_eq_flatMap (text : List UInt16) :
    toWellFormed text = (scalarValues text).flatMap charUnits := by
  induction text using scalar_induction with
  | nil => rfl
  | pair u v rest hu hv ih =>
      rw [toWellFormed_cons_pair hu hv, scalarValues_cons_pair hu hv, List.flatMap_cons,
        charUnits_pairScalar hu hv, ih]
      rfl
  | unit u rest hu ih =>
      rw [toWellFormed_cons_unit hu, scalarValues_cons_unit hu, List.flatMap_cons,
        charUnits_unitScalar, ih]
      rfl

/-- Repairing changes no scalar value. -/
theorem scalarValues_toWellFormed (text : List UInt16) :
    scalarValues (toWellFormed text) = scalarValues text := by
  have hhigh (u : UInt16) : isHighUnit (repairedUnit u) = false := by
    by_cases h : (isHighUnit u || isLowUnit u) = true
    · rw [repairedUnit, if_pos h]
      decide
    · rw [repairedUnit, if_neg h]
      rw [Bool.not_eq_true, Bool.or_eq_false_iff] at h
      exact h.1
  have hscalar (u : UInt16) : unitScalar (repairedUnit u) = unitScalar u := by
    by_cases h : (isHighUnit u || isLowUnit u) = true
    · rw [repairedUnit, unitScalar, if_pos h, unitScalar, if_pos h]
      rfl
    · rw [repairedUnit, if_neg h]
  induction text using scalar_induction with
  | nil => rfl
  | pair u v rest hu hv ih =>
      rw [toWellFormed_cons_pair hu hv, scalarValues_cons_pair hu hv, scalarValues_cons_pair hu hv, ih]
  | unit u rest hu ih =>
      rw [toWellFormed_cons_unit hu, scalarValues_cons_unit hu, scalarValues_cons_unit, hscalar, ih]
      rw [hhigh]
      rintro ⟨h, -⟩
      cases h

theorem scalarValues_eq_iff {text other : List UInt16} :
    scalarValues text = scalarValues other ↔ toWellFormed text = toWellFormed other := by
  constructor
  · intro h
    rw [toWellFormed_eq_flatMap, toWellFormed_eq_flatMap, h]
  · intro h
    rw [← scalarValues_toWellFormed text, h, scalarValues_toWellFormed]

/-! ## The bytes tell the scalar values -/

theorem selfDelimiting_utf8 : SelfDelimiting String.utf8EncodeChar := by
  intro c d x y h
  have hread (c : Char) (x : List UInt8) :
      ByteArray.utf8DecodeChar? (String.utf8EncodeChar c ++ x).toByteArray 0 = some c := by
    rw [List.toByteArray_append]
    exact ByteArray.utf8DecodeChar?_utf8EncodeChar_append
  have hcd : c = d := by
    have hc := hread c x
    rw [h, hread d y] at hc
    exact (Option.some.inj hc).symm
  subst hcd
  exact ⟨rfl, List.append_cancel_left h⟩

/-- Texts have the same bytes when they are the same but for unpaired surrogates. -/
theorem utf8Bytes_eq_iff {text other : List UInt16} :
    utf8Bytes text = utf8Bytes other ↔ toWellFormed text = toWellFormed other := by
  rw [← scalarValues_eq_iff]
  constructor
  · exact fun h ↦ selfDelimiting_utf8.flatMap_injective (fun _ ↦ String.utf8EncodeChar_ne_nil) h
  · intro h
    rw [utf8Bytes, utf8Bytes, h]

end Units

end ReputationKey.Base
