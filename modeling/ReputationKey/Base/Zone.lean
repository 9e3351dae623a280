import Mathlib.Data.Int.Basic
import Mathlib.Order.Bounds.Basic
import Mathlib.Tactic.Ring

/-!
# Time zones as offset functions

A zone says at each instant how far its local time is ahead. When the offset changes at most once
over a span, two samples at its ends know every offset inside, so the instants of a local time are
found from the samples.
-/

namespace ReputationKey.Base

/-- A zone: how far local time is ahead of each instant. -/
structure Zone where
  offset : ℤ → ℤ

namespace Zone

variable (zone : Zone)

/-- The local time of an instant. -/
def localAt (t : ℤ) : ℤ := t + zone.offset t

/-- Over any stretch of the given length the offset changes at most once. -/
def ChangesAtMostOnce (span : ℤ) : Prop :=
  ∀ t, ∃ change, ∀ s, t ≤ s → s ≤ t + span →
    (s < change → zone.offset s = zone.offset t) ∧
      (change ≤ s → zone.offset s = zone.offset (t + span))

/-- Every offset lies between two bounds. -/
def Within (low high : ℤ) : Prop := ∀ t, low ≤ zone.offset t ∧ zone.offset t ≤ high

variable {zone}

/-- Inside a stretch with at most one change, an offset is that of one of its ends. -/
theorem ChangesAtMostOnce.offset_eq {span t s : ℤ} (h : zone.ChangesAtMostOnce span) (start : t ≤ s)
    (stop : s ≤ t + span) :
    zone.offset s = zone.offset t ∨ zone.offset s = zone.offset (t + span) := by
  obtain ⟨change, hchange⟩ := h t
  rcases lt_or_ge s change with hlt | hle
  · exact Or.inl ((hchange s start stop).1 hlt)
  · exact Or.inr ((hchange s start stop).2 hle)

/-- Samples on both sides of a local time know the offset of each of its instants. -/
theorem ChangesAtMostOnce.offset_of_localAt {reach t wall : ℤ}
    (h : zone.ChangesAtMostOnce (2 * reach)) (within : zone.Within (-reach) reach)
    (hlocal : zone.localAt t = wall) :
    zone.offset t = zone.offset (wall - reach) ∨ zone.offset t = zone.offset (wall + reach) := by
  obtain ⟨hlow, hhigh⟩ := within t
  rw [localAt] at hlocal
  have hend : wall - reach + 2 * reach = wall + reach := by ring
  have hoffset := h.offset_eq (show wall - reach ≤ t by omega)
    (show t ≤ wall - reach + 2 * reach by omega)
  rwa [hend] at hoffset

/-- A local time that no instant has is jumped over at one change, after which the offset stays. -/
theorem ChangesAtMostOnce.skipped {reach wall : ℤ} (h : zone.ChangesAtMostOnce (2 * reach))
    (within : zone.Within (-reach) reach) (hnone : ∀ t, zone.localAt t ≠ wall) :
    ∃ change, zone.localAt (change - 1) < wall ∧ wall < zone.localAt change ∧
      ∀ t, change ≤ t → t ≤ wall + reach → zone.offset t = zone.offset change := by
  obtain ⟨change, hchange⟩ := h (wall - reach)
  have hend : wall - reach + 2 * reach = wall + reach := by ring
  rw [hend] at hchange
  -- neither offset leads back to the local time, so each fails on its side of the change
  have hfirst := within (wall - reach)
  have hlast := within (wall + reach)
  have hafter : change ≤ wall - zone.offset (wall - reach) := by
    by_contra hbefore
    have hsame := (hchange (wall - zone.offset (wall - reach)) (by omega) (by omega)).1 (by omega)
    apply hnone (wall - zone.offset (wall - reach))
    rw [localAt, hsame]
    ring
  have hbefore : wall - zone.offset (wall + reach) < change := by
    by_contra hafter
    have hsame := (hchange (wall - zone.offset (wall + reach)) (by omega) (by omega)).2 (by omega)
    apply hnone (wall - zone.offset (wall + reach))
    rw [localAt, hsame]
    ring
  have hold := (hchange (change - 1) (by omega) (by omega)).1 (by omega)
  have hnew := (hchange change (by omega) (by omega)).2 le_rfl
  refine ⟨change, ?_, ?_, ?_⟩
  · rw [localAt, hold]
    omega
  · rw [localAt, hnew]
    omega
  · intro t hfrom hto
    rw [hnew]
    exact (hchange t (by omega) hto).2 hfrom

end Zone

end ReputationKey.Base
