import Mathlib.Data.List.Sort
import Mathlib.Algebra.Order.Group.Int

/-!
# Sliding windows

Admissions stamped with an instant, the newest first. When each of them found fewer than a cap in the
window before it, no half-open window of that length holds more than the cap. The instant at which a
full window has room again is read off the sorted instants by their index.
-/

namespace ReputationKey.Base

namespace SlidingWindow

variable {α : Type*}

/-- Each admission, the newest first, found fewer than `cap` in the window that ends with it. -/
def Paced (instant : α → ℤ) (window : ℤ) (cap : ℕ) : List α → Prop
  | [] => True
  | a :: earlier =>
      (earlier.filter fun b ↦ decide (instant a - window < instant b)).length < cap ∧
        Paced instant window cap earlier

/-- No half-open window holds more than the cap. -/
theorem Paced.length_le {instant : α → ℤ} {window : ℤ} {cap : ℕ} {l : List α}
    (paced : Paced instant window cap l) (ordered : l.Pairwise fun a b ↦ instant b ≤ instant a)
    (start : ℤ) :
    (l.filter fun a ↦ decide (start ≤ instant a) && decide (instant a < start + window)).length ≤
      cap := by
  induction l with
  | nil => exact Nat.zero_le _
  | cons a earlier ih =>
      rw [List.pairwise_cons] at ordered
      by_cases hin : start ≤ instant a ∧ instant a < start + window
      · -- Every other admission of this window is in the one that ends with `a`.
        have hsub : (earlier.filter fun b ↦
            decide (start ≤ instant b) && decide (instant b < start + window)).length ≤
            (earlier.filter fun b ↦ decide (instant a - window < instant b)).length := by
          apply List.Sublist.length_le
          apply List.monotone_filter_right
          intro b hb
          simp only [Bool.and_eq_true, decide_eq_true_eq] at hb ⊢
          omega
        have hpaced := paced.1
        rw [List.filter_cons_of_pos (by simpa using hin), List.length_cons]
        omega
      · rw [List.filter_cons_of_neg (by simpa using hin)]
        exact ih paced.2 ordered.2

/-- The instants of a list, the earliest first. -/
def sorted (instants : List ℤ) : List ℤ := instants.mergeSort (· ≤ ·)

theorem sorted_perm (instants : List ℤ) : (sorted instants).Perm instants :=
  List.mergeSort_perm _ _

theorem sorted_pairwise (instants : List ℤ) : (sorted instants).Pairwise (· ≤ ·) := by
  have htrans : ∀ a b c : ℤ, decide (a ≤ b) = true → decide (b ≤ c) = true →
      decide (a ≤ c) = true := by
    intro a b c hab hbc
    simp only [decide_eq_true_eq] at hab hbc ⊢
    omega
  have htotal : ∀ a b : ℤ, (decide (a ≤ b) || decide (b ≤ a)) = true := by
    intro a b
    simp only [Bool.or_eq_true, decide_eq_true_eq]
    omega
  exact (List.pairwise_mergeSort htrans htotal instants).imp fun hab ↦ of_decide_eq_true hab

/-- Of a full window, fewer than `allowed` are left exactly when the one that many places from the
end has left. -/
theorem length_lt_iff {instants : List ℤ} {allowed : ℕ}
    (hfull : allowed ≤ instants.length) {freeing : ℤ}
    (hfreeing : (sorted instants)[instants.length - allowed]? = some freeing) (bound : ℤ) :
    (instants.filter fun x ↦ decide (bound < x)).length < allowed ↔ freeing ≤ bound := by
  have hlength : (sorted instants).length = instants.length := (sorted_perm instants).length_eq
  have hfilter : (instants.filter fun x ↦ decide (bound < x)).length =
      ((sorted instants).filter fun x ↦ decide (bound < x)).length :=
    ((sorted_perm instants).filter _).length_eq.symm
  rw [List.getElem?_eq_some_iff] at hfreeing
  obtain ⟨hindex, hvalue⟩ := hfreeing
  have hsorted := sorted_pairwise instants
  rw [hfilter]
  constructor
  · -- Were the freeing instant still inside, so would be all from its place on.
    intro hfew
    by_contra hinside
    have hall : ((sorted instants).drop (instants.length - allowed)).filter
        (fun x ↦ decide (bound < x)) = (sorted instants).drop (instants.length - allowed) := by
      rw [List.filter_eq_self]
      intro x hx
      obtain ⟨j, hj, rfl⟩ := List.mem_drop_iff_getElem.1 hx
      have hle : freeing ≤ (sorted instants)[instants.length - allowed + j] := by
        rw [← hvalue]
        by_cases hfirst : j = 0
        · simp only [hfirst, Nat.add_zero, le_refl]
        · exact List.pairwise_iff_getElem.1 hsorted _ _ _ _ (by omega)
      simp only [decide_eq_true_eq]
      omega
    have hdrop : ((sorted instants).drop (instants.length - allowed)).length = allowed := by
      rw [List.length_drop]
      omega
    have hsub := ((List.drop_sublist (instants.length - allowed) (sorted instants)).filter
      fun x ↦ decide (bound < x)).length_le
    rw [hall, hdrop] at hsub
    omega
  · -- Once it has left, so have all up to its place.
    intro hleft
    have hnone : ((sorted instants).take (instants.length - allowed + 1)).filter
        (fun x ↦ decide (bound < x)) = [] := by
      rw [List.filter_eq_nil_iff]
      intro x hx
      obtain ⟨j, hj, rfl⟩ := List.mem_take_iff_getElem.1 hx
      have hle : (sorted instants)[j] ≤ freeing := by
        rw [← hvalue]
        by_cases hlast : j = instants.length - allowed
        · simp only [hlast, le_refl]
        · exact List.pairwise_iff_getElem.1 hsorted _ _ _ _ (by omega)
      simp only [decide_eq_true_eq]
      omega
    have hsplit := List.take_append_drop (instants.length - allowed + 1) (sorted instants)
    have hcount : ((sorted instants).filter fun x ↦ decide (bound < x)).length ≤
        ((sorted instants).drop (instants.length - allowed + 1)).length := by
      conv_lhs => rw [← hsplit, List.filter_append, hnone, List.nil_append]
      exact List.length_filter_le _ _
    rw [List.length_drop] at hcount
    omega

/-- A full window has an instant that many places from the end. -/
theorem exists_freeing {instants : List ℤ} {allowed : ℕ} (hallowed : 1 ≤ allowed)
    (hfull : allowed ≤ instants.length) :
    ∃ freeing ∈ instants, (sorted instants)[instants.length - allowed]? = some freeing := by
  have hlength : (sorted instants).length = instants.length := (sorted_perm instants).length_eq
  have hindex : instants.length - allowed < (sorted instants).length := by omega
  refine ⟨(sorted instants)[instants.length - allowed], ?_, List.getElem?_eq_getElem hindex⟩
  exact (sorted_perm instants).mem_iff.1 (List.getElem_mem hindex)

end SlidingWindow

end ReputationKey.Base
