import Mathlib.Algebra.Order.BigOperators.Group.List
import Mathlib.Data.List.MinMax
import Mathlib.Data.List.Pairwise
import Mathlib.Data.List.Perm.Lattice
import Mathlib.Tactic.Abel

/-!
# The latest row of each key

Rows with a key and a rank, of which the one of the greatest rank stands for its key. A total over
the rows that stand for their keys follows a new latest row, and the removal of a key, by the
difference of the rows that stood and stand there.
-/

namespace ReputationKey.Base

namespace LatestRow

variable {α κ M : Type*}

/-- Rows of one key differ in rank. -/
def Ranked (key : α → κ) (rank : α → ℕ) (rows : List α) : Prop :=
  rows.Pairwise fun a b ↦ key a = key b → rank a ≠ rank b

section Ranked

variable {key : α → κ} {rank : α → ℕ} {rows : List α}

theorem Ranked.eq_of_rank_eq (h : Ranked key rank rows) {a b : α} (ha : a ∈ rows) (hb : b ∈ rows)
    (hkey : key a = key b) (hrank : rank a = rank b) : a = b := by
  by_contra hne
  have : Std.Symm fun a b : α ↦ key a = key b → rank a ≠ rank b :=
    ⟨fun _ _ hdiff hkey ↦ (hdiff hkey.symm).symm⟩
  exact h.forall ha hb hne hkey hrank

theorem Ranked.nodup (h : Ranked key rank rows) : rows.Nodup := by
  apply h.imp
  rintro a b hdiff rfl
  exact hdiff rfl rfl

theorem Ranked.filter (h : Ranked key rank rows) (p : α → Bool) : Ranked key rank (rows.filter p) :=
  List.Pairwise.filter p h

/-- A row of a new greatest rank. -/
theorem Ranked.cons (h : Ranked key rank rows) {row : α}
    (newest : ∀ other ∈ rows, key other = key row → rank other < rank row) :
    Ranked key rank (row :: rows) := by
  apply List.Pairwise.cons
  · intro other mem hkey
    exact (newest other mem hkey.symm).ne'
  · exact h

end Ranked

variable [DecidableEq κ] [AddCommMonoid M]

/-- The row of the greatest rank under a key. -/
def latest (key : α → κ) (rank : α → ℕ) (k : κ) (rows : List α) : Option α :=
  (rows.filter fun row ↦ key row = k).argmax rank

/-- No row of the same key has a greater rank. -/
def isCurrent (key : α → κ) (rank : α → ℕ) (rows : List α) (row : α) : Bool :=
  rows.all fun other ↦ key other ≠ key row || rank other ≤ rank row

/-- The rows that stand for their keys. -/
def currents (key : α → κ) (rank : α → ℕ) (rows : List α) : List α :=
  rows.filter (isCurrent key rank rows)

variable {key : α → κ} {rank : α → ℕ} {rows : List α}

theorem isCurrent_iff {row : α} : isCurrent key rank rows row = true ↔
    ∀ other ∈ rows, key other = key row → rank other ≤ rank row := by
  rw [isCurrent, List.all_eq_true]
  apply forall₂_congr
  intro other _
  by_cases h : key other = key row <;> simp [h]

theorem mem_currents {row : α} : row ∈ currents key rank rows ↔
    row ∈ rows ∧ ∀ other ∈ rows, key other = key row → rank other ≤ rank row := by
  rw [currents, List.mem_filter, isCurrent_iff]

/-- The latest row of a key is the row that stands for it. -/
theorem latest_eq_some_iff (h : Ranked key rank rows) {k : κ} {row : α} :
    latest key rank k rows = some row ↔ row ∈ currents key rank rows ∧ key row = k := by
  have hmem (other : α) : (other ∈ rows.filter fun row ↦ key row = k) ↔
      other ∈ rows ∧ key other = k := by
    rw [List.mem_filter, decide_eq_true_eq]
  rw [mem_currents]
  constructor
  · intro hlatest
    obtain ⟨hrow, hk⟩ := (hmem row).1 (List.argmax_mem hlatest)
    refine ⟨⟨hrow, fun other hother hkey ↦ ?_⟩, hk⟩
    exact List.le_of_mem_argmax ((hmem other).2 ⟨hother, hkey.trans hk⟩) hlatest
  · rintro ⟨⟨hrow, hgreatest⟩, hk⟩
    cases hlatest : latest key rank k rows with
    | none =>
        have hnil := List.argmax_eq_none.1 hlatest
        have hin := (hmem row).2 ⟨hrow, hk⟩
        rw [hnil] at hin
        cases hin
    | some other =>
        obtain ⟨hother, hk'⟩ := (hmem other).1 (List.argmax_mem hlatest)
        have hle := List.le_of_mem_argmax ((hmem row).2 ⟨hrow, hk⟩) hlatest
        have hge := hgreatest other hother (hk'.trans hk.symm)
        rw [h.eq_of_rank_eq hother hrow (hk'.trans hk.symm) (Nat.le_antisymm hge hle)]

theorem latest_mem {k : κ} {row : α} (h : latest key rank k rows = some row) :
    row ∈ rows ∧ key row = k := by
  have hmem := List.argmax_mem h
  rwa [List.mem_filter, decide_eq_true_eq] at hmem

theorem latest_eq_none_iff {k : κ} : latest key rank k rows = none ↔ ∀ row ∈ rows, key row ≠ k := by
  rw [latest, List.argmax_eq_none, List.filter_eq_nil_iff]
  simp

/-- The rows that stand for a key are its latest row, if it has any. -/
theorem filter_currents (h : Ranked key rank rows) (k : κ) :
    (currents key rank rows).filter (fun row ↦ key row = k) = (latest key rank k rows).toList := by
  have hnodup : ((currents key rank rows).filter fun row ↦ key row = k).Nodup :=
    (h.nodup.filter _).filter _
  have hmem (row : α) : (row ∈ (currents key rank rows).filter fun row ↦ key row = k) ↔
      latest key rank k rows = some row := by
    rw [latest_eq_some_iff h, List.mem_filter, decide_eq_true_eq]
  cases hlatest : latest key rank k rows with
  | none =>
      rw [Option.toList_none, List.eq_nil_iff_forall_not_mem]
      intro row hrow
      rw [hmem, hlatest] at hrow
      cases hrow
  | some row =>
      rw [Option.toList_some, ← List.perm_singleton]
      apply (List.perm_ext_iff_of_nodup hnodup (List.nodup_singleton row)).2
      intro other
      rw [hmem, hlatest, List.mem_singleton, Option.some.injEq, eq_comm]

theorem currents_cons {row : α}
    (newest : ∀ other ∈ rows, key other = key row → rank other < rank row) :
    currents key rank (row :: rows) =
      row :: (currents key rank rows).filter fun other ↦ key other ≠ key row := by
  have hrow : isCurrent key rank (row :: rows) row = true := by
    rw [isCurrent_iff, List.forall_mem_cons]
    exact ⟨fun _ ↦ Nat.le_refl _, fun other mem hkey ↦ (newest other mem hkey).le⟩
  rw [currents, List.filter_cons_of_pos hrow, currents, List.filter_filter]
  congr 1
  apply List.filter_congr
  intro other mem
  rw [Bool.eq_iff_iff, Bool.and_eq_true, isCurrent_iff, isCurrent_iff, List.forall_mem_cons,
    decide_eq_true_eq]
  constructor
  · rintro ⟨hle, hall⟩
    refine ⟨fun hkey ↦ ?_, hall⟩
    exact Nat.not_lt.2 (hle hkey.symm) (newest other mem hkey)
  · rintro ⟨hkey, hall⟩
    exact ⟨fun hsame ↦ absurd hsame.symm hkey, hall⟩

theorem currents_remove (k : κ) :
    currents key rank (rows.filter fun row ↦ key row ≠ k) =
      (currents key rank rows).filter fun row ↦ key row ≠ k := by
  rw [currents, currents, List.filter_filter, List.filter_filter]
  apply List.filter_congr
  intro row _
  by_cases hk : key row = k
  · simp [hk]
  · have hsame : isCurrent key rank (rows.filter fun row ↦ key row ≠ k) row =
        isCurrent key rank rows row := by
      rw [Bool.eq_iff_iff, isCurrent_iff, isCurrent_iff]
      constructor
      · intro h other mem hkey
        exact h other (List.mem_filter.2 ⟨mem, by simp [hkey, hk]⟩) hkey
      · exact fun h other mem hkey ↦ h other (List.mem_filter.1 mem).1 hkey
    rw [hsame, Bool.and_comm]

/-- The total over the rows that stand for their keys. -/
def total (key : α → κ) (rank : α → ℕ) (f : α → M) (rows : List α) : M :=
  ((currents key rank rows).map f).sum

theorem sum_filter_add_sum_filter_not (f : α → M) (p : α → Prop) [DecidablePred p] (l : List α) :
    ((l.filter fun x ↦ p x).map f).sum + ((l.filter fun x ↦ ¬p x).map f).sum = (l.map f).sum := by
  induction l with
  | nil => simp
  | cons x l ih =>
      by_cases hx : p x
      · simp [hx, ← ih, add_assoc]
      · simp [hx, ← ih, add_left_comm]

/-- A total is what stands for one key and the total over the other keys. -/
theorem total_eq (h : Ranked key rank rows) (f : α → M) (k : κ) :
    total key rank f rows = (latest key rank k rows).elim 0 f +
      (((currents key rank rows).filter fun row ↦ key row ≠ k).map f).sum := by
  rw [total, ← sum_filter_add_sum_filter_not f fun row ↦ key row = k, filter_currents h]
  cases latest key rank k rows <;> simp

/-- A new latest row is added, and the one that stood in its place taken off. -/
theorem total_cons (h : Ranked key rank rows) (f : α → M) {row : α}
    (newest : ∀ other ∈ rows, key other = key row → rank other < rank row) :
    total key rank f (row :: rows) + (latest key rank (key row) rows).elim 0 f =
      total key rank f rows + f row := by
  rw [total_eq h f (key row), total, currents_cons newest, List.map_cons, List.sum_cons]
  abel

/-- A key that is removed is taken off. -/
theorem total_remove (h : Ranked key rank rows) (f : α → M) (k : κ) :
    total key rank f (rows.filter fun row ↦ key row ≠ k) + (latest key rank k rows).elim 0 f =
      total key rank f rows := by
  rw [total_eq h f k, total, currents_remove, add_comm]

end LatestRow

end ReputationKey.Base
