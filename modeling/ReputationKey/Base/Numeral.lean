import Mathlib.Algebra.Order.Ring.Nat
import Mathlib.Data.Nat.Digits.Defs
import Mathlib.Data.Nat.ModEq

/-!
# Numerals and their remainders

A numeral as it is written, its highest digit first; its remainder digit by digit; and what a single
changed digit does to the remainder.
-/

namespace ReputationKey.Base

/-- The number that digits write, the highest first. -/
def numeral (base : ℕ) (digits : List ℕ) : ℕ := Nat.ofDigits base digits.reverse

variable {base modulus digit other : ℕ} {digits front back : List ℕ}

theorem numeral_append :
    numeral base (front ++ back) = numeral base front * base ^ back.length + numeral base back := by
  rw [numeral, List.reverse_append, Nat.ofDigits_append, List.length_reverse, Nat.add_comm,
    Nat.mul_comm, numeral, numeral]

theorem numeral_cons :
    numeral base (digit :: back) = digit * base ^ back.length + numeral base back := by
  have hone : numeral base [digit] = digit := Nat.ofDigits_singleton
  rw [← List.singleton_append, numeral_append, hone]

/-- A remainder taken digit by digit is the remainder of the number. -/
theorem foldl_remainder {remainder : ℕ} (reduced : remainder < modulus) :
    digits.foldl (fun r digit ↦ (r * base + digit) % modulus) remainder =
      (remainder * base ^ digits.length + numeral base digits) % modulus := by
  induction digits generalizing remainder with
  | nil =>
      have hnone : numeral base [] = 0 := rfl
      rw [List.foldl_nil, List.length_nil, pow_zero, mul_one, hnone, Nat.add_zero,
        Nat.mod_eq_of_lt reduced]
  | cons digit digits ih =>
      rw [List.foldl_cons, numeral_cons, List.length_cons,
        ih (Nat.mod_lt _ (Nat.zero_lt_of_lt reduced))]
      have hnumber : remainder * base ^ (digits.length + 1) +
          (digit * base ^ digits.length + numeral base digits) =
            (remainder * base + digit) * base ^ digits.length + numeral base digits := by ring
      rw [hnumber]
      exact ((Nat.mod_modEq _ _).mul_right _).add_right _

/-- A digit that changes alone keeps the remainder only when it is the same to the modulus. -/
theorem digit_modEq_of_numeral (coprime : Nat.Coprime modulus base)
    (h : numeral base (front ++ digit :: back) ≡ numeral base (front ++ other :: back)
      [MOD modulus]) : digit ≡ other [MOD modulus] := by
  rw [numeral_append, numeral_append, numeral_cons, numeral_cons, List.length_cons,
    List.length_cons] at h
  have hshifted := Nat.ModEq.add_right_cancel' _ (Nat.ModEq.add_left_cancel' _ h)
  exact Nat.ModEq.cancel_right_of_coprime (coprime.pow_right _) hshifted

end ReputationKey.Base
