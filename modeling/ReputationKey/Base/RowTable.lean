import Mathlib.Algebra.Order.BigOperators.Group.List
import Mathlib.Algebra.Order.Group.Nat
import Mathlib.Algebra.GroupWithZero.Nat

/-!
# Tables of rows with a key

A table is a list of rows, each found by its key. Changing the row under one key changes a total over
the table by the difference that row makes.
-/

namespace ReputationKey.Base

namespace RowTable

variable {κ α : Type*} [DecidableEq κ] {key : α → κ}

/-- The row under a key. -/
def find (key : α → κ) (k : κ) (rows : List α) : Option α :=
  rows.find? fun row ↦ decide (key row = k)

/-- The table with the row under a key changed. -/
def alter (key : α → κ) (k : κ) (change : α → α) (rows : List α) : List α :=
  rows.map fun row ↦ if key row = k then change row else row

theorem mem_of_find {k : κ} {rows : List α} {row : α} (h : find key k rows = some row) :
    row ∈ rows ∧ key row = k := by
  rw [find] at h
  exact ⟨List.mem_of_find?_eq_some h, by simpa using List.find?_some h⟩

/-- In a table without duplicate keys a row is the one under its key. -/
theorem find_of_mem {rows : List α} (nodup : (rows.map key).Nodup) {row : α} (mem : row ∈ rows) :
    find key (key row) rows = some row := by
  induction rows with
  | nil => cases mem
  | cons first rest ih =>
      rw [List.map_cons, List.nodup_cons] at nodup
      rw [find, List.find?_cons]
      rcases List.mem_cons.1 mem with rfl | mem
      · simp
      · have hother : key first ≠ key row := by
          intro hsame
          exact nodup.1 (hsame ▸ List.mem_map_of_mem mem)
        simp only [hother, decide_false]
        exact ih nodup.2 mem

theorem find_eq_none_iff {k : κ} {rows : List α} :
    find key k rows = none ↔ k ∉ rows.map key := by
  rw [find, List.find?_eq_none]
  simp

/-- A change that keeps keys keeps the list of keys. -/
theorem map_key_alter {change : α → α} (same : ∀ row, key (change row) = key row) (k : κ)
    (rows : List α) : (alter key k change rows).map key = rows.map key := by
  rw [alter, List.map_map]
  apply List.map_congr_left
  intro row _
  rw [Function.comp_apply]
  split
  · exact same row
  · rfl

theorem mem_alter {change : α → α} {k : κ} {rows : List α} {row : α}
    (mem : row ∈ alter key k change rows) :
    (∃ old ∈ rows, key old = k ∧ row = change old) ∨ (row ∈ rows ∧ key row ≠ k) := by
  obtain ⟨old, hold, rfl⟩ := List.mem_map.1 mem
  split
  · next hk => exact Or.inl ⟨old, hold, hk, rfl⟩
  · next hk => exact Or.inr ⟨hold, hk⟩

/-- The rows under other keys stay. -/
theorem mem_alter_of_ne {change : α → α} {k : κ} {rows : List α} {row : α} (mem : row ∈ rows)
    (other : key row ≠ k) : row ∈ alter key k change rows :=
  List.mem_map.2 ⟨row, mem, if_neg other⟩

/-- The row under the key is changed. -/
theorem mem_alter_of_eq {change : α → α} {k : κ} {rows : List α} {row : α} (mem : row ∈ rows)
    (own : key row = k) : change row ∈ alter key k change rows :=
  List.mem_map.2 ⟨row, mem, if_pos own⟩

/-- Without a row under the key nothing changes. -/
theorem alter_of_absent {change : α → α} {k : κ} {rows : List α} (absent : k ∉ rows.map key) :
    alter key k change rows = rows := by
  rw [alter]
  conv_rhs => rw [← List.map_id rows]
  apply List.map_congr_left
  intro row mem
  apply if_neg
  rintro rfl
  exact absent (List.mem_map_of_mem mem)

/-- What is found after a change of the row under a key. -/
theorem find_alter {change : α → α} (same : ∀ row, key (change row) = key row) (k k' : κ)
    (rows : List α) : find key k' (alter key k change rows) =
      (find key k' rows).map fun row ↦ if k' = k then change row else row := by
  induction rows with
  | nil => rfl
  | cons first rest ih =>
      have hcons : alter key k change (first :: rest) =
          (if key first = k then change first else first) :: alter key k change rest := rfl
      have hkey : key (if key first = k then change first else first) = key first := by
        split
        · exact same first
        · rfl
      rw [find, find, hcons, List.find?_cons, List.find?_cons, hkey]
      by_cases hk : key first = k'
      · simp only [hk, decide_true, Option.map_some]
      · simp only [hk, decide_false]
        exact ih

/-- Two changes of one row are one. -/
theorem alter_alter {change change' : α → α} (same : ∀ row, key (change row) = key row) (k : κ)
    (rows : List α) : alter key k change' (alter key k change rows) =
      alter key k (change' ∘ change) rows := by
  rw [alter, alter, alter, List.map_map]
  apply List.map_congr_left
  intro row _
  rw [Function.comp_apply]
  by_cases hk : key row = k
  · rw [if_pos hk, if_pos ((same row).trans hk), if_pos hk]
    rfl
  · rw [if_neg hk, if_neg hk, if_neg hk]

/-- A total changes by the difference that the changed row makes. -/
theorem sum_alter (f : α → ℕ) (change : α → α) {rows : List α} (nodup : (rows.map key).Nodup)
    {row : α} (mem : row ∈ rows) :
    ((alter key (key row) change rows).map f).sum + f row =
      (rows.map f).sum + f (change row) := by
  induction rows with
  | nil => cases mem
  | cons first rest ih =>
      rw [List.map_cons, List.nodup_cons] at nodup
      have hcons : alter key (key row) change (first :: rest) =
          (if key first = key row then change first else first) ::
            alter key (key row) change rest := rfl
      rw [hcons, List.map_cons, List.sum_cons, List.map_cons, List.sum_cons]
      rcases List.mem_cons.1 mem with rfl | mem
      · rw [if_pos rfl, alter_of_absent nodup.1]
        omega
      · have hother : key first ≠ key row := by
          intro hsame
          exact nodup.1 (hsame ▸ List.mem_map_of_mem mem)
        rw [if_neg hother]
        have := ih nodup.2 mem
        omega

/-- A change that a total does not see leaves it. -/
theorem sum_alter_of_same (f : α → ℕ) {change : α → α} {k : κ} {rows : List α}
    (same : ∀ row ∈ rows, key row = k → f (change row) = f row) :
    ((alter key k change rows).map f).sum = (rows.map f).sum := by
  rw [alter, List.map_map]
  congr 1
  apply List.map_congr_left
  intro row mem
  rw [Function.comp_apply]
  split
  · next hk => exact same row mem hk
  · rfl

/-- A row's share is at most the total. -/
theorem le_sum (f : α → ℕ) {rows : List α} {row : α} (mem : row ∈ rows) :
    f row ≤ (rows.map f).sum :=
  List.le_sum_of_mem (List.mem_map_of_mem mem)

end RowTable

end ReputationKey.Base
