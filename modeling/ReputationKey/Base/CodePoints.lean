import ReputationKey.Base.Utf16

/-!
# Code points

A text of UTF-16 units as the sequence of its code points, each a surrogate pair or a unit of its
own, and the ways of cutting a text between them.
-/

namespace ReputationKey.Base

/-- The code points of a text, each as its units. -/
def codePoints : List UInt16 → List (List UInt16)
  | [] => []
  | [unit] => [[unit]]
  | unit :: next :: rest =>
      if isHighUnit unit && isLowUnit next then [unit, next] :: codePoints rest
      else [unit] :: codePoints (next :: rest)

/-- The pieces of a text that is cut between its code points. -/
def CutsBetween (text : List UInt16) (pieces : List (List UInt16)) : Prop :=
  ∃ groups : List (List (List UInt16)), groups.flatten = codePoints text ∧
    pieces = groups.map List.flatten

section Units

variable {unit next : UInt16} {rest text more : List UInt16}

theorem codePoints_cons_pair (high : isHighUnit unit = true) (low : isLowUnit next = true) :
    codePoints (unit :: next :: rest) = [unit, next] :: codePoints rest := by
  rw [codePoints, high, low]
  rfl

/-- A unit that does not pair with the next one is a code point. -/
theorem codePoints_cons_unit
    (apart : ¬(isHighUnit unit = true ∧ ∃ next ∈ rest.head?, isLowUnit next = true)) :
    codePoints (unit :: rest) = [unit] :: codePoints rest := by
  cases rest with
  | nil => rfl
  | cons next rest =>
      rw [codePoints, if_neg]
      simpa using apart

/-- A unit that is no surrogate is a code point wherever it stands. -/
theorem codePoints_cons (high : isHighUnit unit = false) (rest : List UInt16) :
    codePoints (unit :: rest) = [unit] :: codePoints rest := by
  apply codePoints_cons_unit
  rintro ⟨h, -⟩
  rw [high] at h
  cases h

/-- A text is cut before a unit that is no surrogate. -/
theorem codePoints_append_cons (high : isHighUnit unit = false) (low : isLowUnit unit = false)
    (text rest : List UInt16) :
    codePoints (text ++ unit :: rest) = codePoints text ++ [unit] :: codePoints rest := by
  induction text using scalar_induction with
  | nil => exact codePoints_cons high rest
  | pair u v more hu hv ih =>
      rw [List.cons_append, List.cons_append, codePoints_cons_pair hu hv, codePoints_cons_pair hu hv, ih,
        List.cons_append]
  | unit u more hu ih =>
      rw [List.cons_append, codePoints_cons_unit, codePoints_cons_unit hu, ih, List.cons_append]
      cases more with
      | nil =>
          rintro ⟨-, v, hv, hlow⟩
          cases hv
          rw [low] at hlow
          cases hlow
      | cons v more => exact hu

theorem flatten_codePoints (text : List UInt16) : (codePoints text).flatten = text := by
  induction text using scalar_induction with
  | nil => rfl
  | pair u v rest hu hv ih => rw [codePoints_cons_pair hu hv, List.flatten_cons, ih]; rfl
  | unit u rest hu ih => rw [codePoints_cons_unit hu, List.flatten_cons, ih]; rfl

/-- Each side of a cut between code points has the code points it got. -/
theorem codePoints_of_append {before after : List (List UInt16)}
    (h : codePoints text = before ++ after) :
    codePoints before.flatten = before ∧ codePoints after.flatten = after := by
  induction text using scalar_induction generalizing before with
  | nil =>
      obtain ⟨rfl, rfl⟩ := List.append_eq_nil_iff.1 h.symm
      exact ⟨rfl, rfl⟩
  | pair u v rest hu hv ih =>
      cases before with
      | nil =>
          rw [List.nil_append] at h
          rw [← h, flatten_codePoints]
          exact ⟨rfl, rfl⟩
      | cons point before =>
          rw [codePoints_cons_pair hu hv, List.cons_append, List.cons.injEq] at h
          obtain ⟨rfl, h⟩ := h
          obtain ⟨hbefore, hafter⟩ := ih h
          refine ⟨?_, hafter⟩
          rw [List.flatten_cons, List.cons_append, List.cons_append, List.nil_append,
            codePoints_cons_pair hu hv, hbefore]
  | unit u rest hu ih =>
      cases before with
      | nil =>
          rw [List.nil_append] at h
          rw [← h, flatten_codePoints]
          exact ⟨rfl, rfl⟩
      | cons point before =>
          rw [codePoints_cons_unit hu, List.cons_append, List.cons.injEq] at h
          obtain ⟨rfl, h⟩ := h
          obtain ⟨hbefore, hafter⟩ := ih h
          refine ⟨?_, hafter⟩
          rw [List.flatten_cons, List.singleton_append, codePoints_cons_unit, hbefore]
          -- what follows the unit in its piece follows it in the text
          rintro ⟨hhigh, next, hnext, hlow⟩
          refine hu ⟨hhigh, next, ?_, hlow⟩
          rw [← flatten_codePoints rest, h, List.flatten_append, List.head?_append]
          rw [Option.mem_def] at hnext ⊢
          rw [hnext]
          rfl

/-- The bytes of a text are those of its code points. -/
theorem utf8Bytes_eq_flatMap (text : List UInt16) :
    utf8Bytes text = (codePoints text).flatMap utf8Bytes := by
  induction text using scalar_induction with
  | nil => rfl
  | pair u v rest hu hv ih =>
      have hpoint : utf8Bytes [u, v] = String.utf8EncodeChar (pairScalar u v) := by
        rw [utf8Bytes, scalarValues_cons_pair hu hv]
        exact List.append_nil _
      rw [codePoints_cons_pair hu hv, List.flatMap_cons, ← ih, hpoint, utf8Bytes,
        scalarValues_cons_pair hu hv, List.flatMap_cons]
      rfl
  | unit u rest hu ih =>
      have hpoint : utf8Bytes [u] = String.utf8EncodeChar (unitScalar u) := List.append_nil _
      rw [codePoints_cons_unit hu, List.flatMap_cons, ← ih, hpoint, utf8Bytes,
        scalarValues_cons_unit hu, List.flatMap_cons]
      rfl

/-- A unit takes a byte at least. -/
theorem length_le_utf8Bytes (text : List UInt16) : text.length ≤ (utf8Bytes text).length := by
  induction text using scalar_induction with
  | nil => exact Nat.le_refl _
  | pair u v rest hu hv ih =>
      have hbytes : (utf8Bytes (u :: v :: rest)).length = 4 + (utf8Bytes rest).length := by
        rw [utf8Bytes, scalarValues_cons_pair hu hv, List.flatMap_cons, List.length_append,
          length_pairScalar hu hv]
        rfl
      rw [hbytes, List.length_cons, List.length_cons]
      omega
  | unit u rest hu ih =>
      have hbytes : (utf8Bytes (u :: rest)).length =
          (String.utf8EncodeChar (unitScalar u)).length + (utf8Bytes rest).length := by
        rw [utf8Bytes, scalarValues_cons_unit hu, List.flatMap_cons, List.length_append]
        rfl
      rw [hbytes, length_unitScalar, List.length_cons]
      split_ifs <;> omega

end Units

variable {text : List UInt16} {pieces : List (List UInt16)}

/-- The pieces of a text have its code points, in order. -/
theorem CutsBetween.codePoints_eq (h : CutsBetween text pieces) :
    pieces.flatMap codePoints = codePoints text := by
  obtain ⟨groups, hgroups, rfl⟩ := h
  induction groups generalizing text with
  | nil => exact hgroups
  | cons group groups ih =>
      obtain ⟨hgroup, hrest⟩ := codePoints_of_append hgroups.symm
      rw [List.map_cons, List.flatMap_cons, hgroup, ih hrest.symm, hrest, ← hgroups, List.flatten_cons]

/-- The pieces of a text have its bytes, in order. -/
theorem CutsBetween.utf8Bytes_eq (h : CutsBetween text pieces) :
    pieces.flatMap utf8Bytes = utf8Bytes text := by
  rw [utf8Bytes_eq_flatMap text, ← h.codePoints_eq, List.flatMap_assoc]
  exact List.flatMap_congr fun piece _ ↦ utf8Bytes_eq_flatMap piece

/-- An uncut text. -/
theorem cutsBetween_self (text : List UInt16) : CutsBetween text [text] :=
  ⟨[codePoints text], List.append_nil _, by rw [List.map_singleton, flatten_codePoints]⟩

end ReputationKey.Base
