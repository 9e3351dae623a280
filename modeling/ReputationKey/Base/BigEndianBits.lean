import Mathlib.Algebra.Group.Nat.Hom
import Mathlib.Data.List.Basic
import Mathlib.Data.Nat.Bitwise
import Mathlib.Order.Nat

/-!
# Bits of a number, most significant first

The lowest bits of a number as a list that starts with the highest of them, and what a shift, a mask
and an appended digit do to the list.
-/

namespace ReputationKey.Base

/-- The lowest bits of a number, the highest of them first. -/
def bitsOf : ℕ → ℕ → List Bool
  | 0, _ => []
  | width + 1, value => value.testBit width :: bitsOf width value

variable {width more value other : ℕ}

theorem length_bitsOf : ∀ width : ℕ, (bitsOf width value).length = width
  | 0 => rfl
  | width + 1 => by rw [bitsOf, List.length_cons, length_bitsOf width]

/-- The list holds exactly the bits below the width. -/
theorem bitsOf_eq_iff :
    bitsOf width value = bitsOf width other ↔ ∀ i < width, value.testBit i = other.testBit i := by
  induction width with
  | zero => exact ⟨fun _ i hi ↦ absurd hi (Nat.not_lt_zero i), fun _ ↦ rfl⟩
  | succ width ih =>
      rw [bitsOf, bitsOf, List.cons.injEq, ih]
      constructor
      · rintro ⟨htop, hrest⟩ i hi
        rcases Nat.lt_succ_iff_lt_or_eq.1 hi with hlt | rfl
        · exact hrest i hlt
        · exact htop
      · exact fun h ↦ ⟨h width (Nat.lt_succ_self width), fun i hi ↦ h i (Nat.lt_succ_of_lt hi)⟩

/-- Numbers that fit the width are determined by their bits. -/
theorem eq_of_bitsOf_eq (fits : value < 2 ^ width) (otherFits : other < 2 ^ width)
    (h : bitsOf width value = bitsOf width other) : value = other := by
  apply Nat.eq_of_testBit_eq
  intro i
  by_cases hi : i < width
  · exact bitsOf_eq_iff.1 h i hi
  · have hle : 2 ^ width ≤ 2 ^ i := Nat.pow_le_pow_right (by omega) (by omega)
    rw [Nat.testBit_lt_two_pow (lt_of_lt_of_le fits hle),
      Nat.testBit_lt_two_pow (lt_of_lt_of_le otherFits hle)]

/-- The first bits of a wider list are those of the shifted number. -/
theorem bitsOf_add : ∀ more : ℕ,
    bitsOf (more + width) value = bitsOf more (value >>> width) ++ bitsOf width value
  | 0 => by rw [Nat.zero_add, bitsOf, List.nil_append]
  | more + 1 => by
      rw [Nat.succ_add, bitsOf, bitsOf, bitsOf_add more, List.cons_append, Nat.testBit_shiftRight,
        Nat.add_comm width more]

/-- A mask of the width leaves the bits as they are. -/
theorem bitsOf_and_mask : bitsOf width (value &&& (2 ^ width - 1)) = bitsOf width value := by
  rw [bitsOf_eq_iff]
  intro i hi
  rw [Nat.testBit_and, Nat.testBit_two_pow_sub_one, decide_eq_true hi, Bool.and_true]

/-- Shifting a digit in from the right appends its bits. -/
theorem bitsOf_shiftLeft_or (fits : other < 2 ^ width) :
    bitsOf (more + width) (value <<< width ||| other) = bitsOf more value ++ bitsOf width other := by
  rw [bitsOf_add]
  congr 1
  · rw [bitsOf_eq_iff]
    intro i _
    have hle : 2 ^ width ≤ 2 ^ (width + i) := Nat.pow_le_pow_right (by omega) (by omega)
    rw [Nat.testBit_shiftRight, Nat.testBit_or, Nat.testBit_shiftLeft,
      Nat.testBit_lt_two_pow (lt_of_lt_of_le fits hle), Bool.or_false, Nat.add_sub_cancel_left]
    simp only [ge_iff_le, Nat.le_add_right, decide_true, Bool.true_and]
  · rw [bitsOf_eq_iff]
    intro i hi
    rw [Nat.testBit_or, Nat.testBit_shiftLeft, decide_eq_false (by omega), Bool.false_and,
      Bool.false_or]

/-- A number is read digit by digit, the highest first. -/
theorem flatMap_bitsOf_digits (width value : ℕ) : ∀ count : ℕ,
    ((List.range count).reverse.flatMap fun index ↦
        bitsOf width ((value >>> (index * width)) &&& (2 ^ width - 1))) =
      bitsOf (count * width) value
  | 0 => by rw [Nat.zero_mul]; rfl
  | count + 1 => by
      rw [List.range_succ, List.reverse_append, List.reverse_singleton, List.singleton_append,
        List.flatMap_cons, flatMap_bitsOf_digits width value count, bitsOf_and_mask, Nat.succ_mul,
        Nat.add_comm (count * width) width, bitsOf_add]

/-- Digits shifted in one after the other are the bits of all of them. -/
theorem bitsOf_foldl_digits {α : Type*} {digit : α → ℕ} (fits : ∀ a, digit a < 2 ^ width) :
    ∀ (digits : List α) (more value : ℕ),
      bitsOf (more + digits.length * width)
          (digits.foldl (fun value a ↦ value <<< width ||| digit a) value) =
        bitsOf more value ++ digits.flatMap fun a ↦ bitsOf width (digit a)
  | [], more, value => by
      rw [List.length_nil, Nat.zero_mul, Nat.add_zero, List.foldl_nil, List.flatMap_nil,
        List.append_nil]
  | a :: digits, more, value => by
      have hwidth : more + (a :: digits).length * width =
          more + width + digits.length * width := by
        rw [List.length_cons, Nat.succ_mul]
        omega
      rw [hwidth, List.foldl_cons, bitsOf_foldl_digits fits digits, bitsOf_shiftLeft_or (fits a),
        List.flatMap_cons, List.append_assoc]

end ReputationKey.Base
