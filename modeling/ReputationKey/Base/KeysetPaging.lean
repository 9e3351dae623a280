import Mathlib.Data.List.Basic

/-!
# Paging through sources merged in one order

Rows of several sources are read newest first, each source bounded and truncated on its own, and
merged page by page. Over any total order without ties the pages of a walk are consecutive pieces
of the sorted rows, so that nothing is lost or repeated.
-/

namespace ReputationKey.Base

universe u v

variable {α : Type u} {γ : Type v} (le : α → α → Bool)

/-- The first rows of the sorted ones. -/
def newest (n : Nat) (rows : List α) : List α := (rows.mergeSort le).take n

/-- Whether a row comes strictly after another. -/
def comesAfter (c row : α) : Bool := le c row && !le row c

/-- No two different rows of a list are tied. -/
def NoTies (rows : List α) : Prop := ∀ a ∈ rows, ∀ b ∈ rows, le a b → le b a → a = b

variable {le}

/-- Some rows of a list without ties have none. -/
theorem NoTies.mono {rows rows' : List α} (h : NoTies le rows) (sub : rows' ⊆ rows) :
    NoTies le rows' :=
  fun a ha b hb ↦ h a (sub ha) b (sub hb)

/-- The first rows are rows. -/
theorem newest_subset (n : Nat) (rows : List α) : newest le n rows ⊆ rows := by
  intro a ha
  exact List.mem_mergeSort.1 (List.mem_of_mem_take ha)

/-- The start of a merge needs no more of the left list than its own start. -/
theorem take_merge_take_left {n m : Nat} (within : n ≤ m) (a b : List α) :
    (List.merge (a.take m) b le).take n = (List.merge a b le).take n := by
  induction n generalizing m a b with
  | zero => rfl
  | succ n ih =>
      obtain ⟨k, rfl⟩ : ∃ k, m = k + 1 := ⟨m - 1, by omega⟩
      cases a with
      | nil => rfl
      | cons x xs =>
          cases b with
          | nil =>
              rw [List.merge_right, List.merge_right, List.take_take, Nat.min_eq_left within]
          | cons y ys =>
              rw [List.take_succ_cons]
              by_cases hle : le x y = true
              · rw [List.cons_merge_cons_pos _ _ _ hle, List.cons_merge_cons_pos _ _ _ hle,
                  List.take_succ_cons, List.take_succ_cons, ih (by omega)]
              · have hrest := ih (m := k + 1) (by omega) (x :: xs) ys
                rw [List.take_succ_cons] at hrest
                rw [List.cons_merge_cons_neg _ _ _ hle, List.cons_merge_cons_neg _ _ _ hle,
                  List.take_succ_cons, List.take_succ_cons, hrest]

/-- The same of the right list. -/
theorem take_merge_take_right {n m : Nat} (within : n ≤ m) (a b : List α) :
    (List.merge a (b.take m) le).take n = (List.merge a b le).take n := by
  induction n generalizing m a b with
  | zero => rfl
  | succ n ih =>
      obtain ⟨k, rfl⟩ : ∃ k, m = k + 1 := ⟨m - 1, by omega⟩
      cases b with
      | nil => rfl
      | cons y ys =>
          cases a with
          | nil =>
              rw [List.nil_merge, List.nil_merge, List.take_take, Nat.min_eq_left within]
          | cons x xs =>
              rw [List.take_succ_cons]
              by_cases hle : le x y = true
              · have hrest := ih (m := k + 1) (by omega) xs (y :: ys)
                rw [List.take_succ_cons] at hrest
                rw [List.cons_merge_cons_pos _ _ _ hle, List.cons_merge_cons_pos _ _ _ hle,
                  List.take_succ_cons, List.take_succ_cons, hrest]
              · rw [List.cons_merge_cons_neg _ _ _ hle, List.cons_merge_cons_neg _ _ _ hle,
                  List.take_succ_cons, List.take_succ_cons, ih (by omega)]

section Ordered

variable (trans : ∀ a b c, le a b = true → le b c = true → le a c = true)
  (total : ∀ a b, (le a b || le b a) = true)

include trans total

/-- Sorted rows without ties are determined by what they are. -/
theorem eq_mergeSort_of_perm {rows sorted : List α} (noTies : NoTies le rows)
    (perm : sorted.Perm rows) (pairwise : sorted.Pairwise fun a b ↦ le a b = true) :
    sorted = rows.mergeSort le := by
  have hties : ∀ a b, a ∈ sorted → b ∈ rows.mergeSort le → le a b = true → le b a = true → a = b := by
    intro a b ha hb
    exact noTies a (perm.subset ha) b (List.mem_mergeSort.1 hb)
  exact List.Perm.eq_of_pairwise hties pairwise (List.pairwise_mergeSort trans total rows)
    (perm.trans (List.mergeSort_perm rows le).symm)

/-- Sorting two lists together merges them sorted. -/
theorem mergeSort_append {a b : List α} (noTies : NoTies le (a ++ b)) :
    (a ++ b).mergeSort le = List.merge (a.mergeSort le) (b.mergeSort le) le := by
  symm
  refine eq_mergeSort_of_perm trans total noTies ?_ ?_
  · exact (List.merge_perm_append ..).trans
      ((List.mergeSort_perm a le).append (List.mergeSort_perm b le))
  · exact List.pairwise_merge trans total _ _ (List.pairwise_mergeSort trans total a)
      (List.pairwise_mergeSort trans total b)

/-- The first rows of two lists come from the first rows of each. -/
theorem newest_append {n : Nat} {a b : List α} (noTies : NoTies le (a ++ b)) :
    newest le n (a ++ b) = (List.merge (newest le n a) (newest le n b) le).take n := by
  unfold newest
  rw [mergeSort_append trans total noTies, take_merge_take_left (Nat.le_refl n),
    take_merge_take_right (Nat.le_refl n)]

/-- Sorted rows are their own first rows. -/
theorem newest_newest (n : Nat) (rows : List α) :
    newest le n (newest le n rows) = newest le n rows := by
  unfold newest
  rw [List.mergeSort_of_pairwise
    ((List.pairwise_mergeSort trans total rows).sublist (List.take_sublist n _)), List.take_take,
    Nat.min_self]

/-- Truncating each source to its first rows loses nothing of the first rows of all. -/
theorem newest_flatMap {n : Nat} {sources : List (List α)} (noTies : NoTies le sources.flatten) :
    newest le n (sources.flatMap (newest le n)) = newest le n sources.flatten := by
  induction sources with
  | nil => rfl
  | cons source rest ih =>
      rw [List.flatten_cons] at noTies ⊢
      have hrest : NoTies le rest.flatten := noTies.mono (List.subset_append_right _ _)
      have hsub : newest le n source ++ rest.flatMap (newest le n) ⊆ source ++ rest.flatten := by
        refine List.append_subset.2 ⟨fun x hx ↦ List.mem_append_left _ (newest_subset n source hx),
          fun x hx ↦ List.mem_append_right _ ?_⟩
        obtain ⟨other, hother, hmem⟩ := List.mem_flatMap.1 hx
        exact List.mem_flatten.2 ⟨other, hother, newest_subset n other hmem⟩
      rw [List.flatMap_cons, newest_append trans total (noTies.mono hsub),
        newest_newest trans total, ih hrest, ← newest_append trans total noTies]

/-- The rows strictly after one of them are what follows it in the sorted rows. -/
theorem mergeSort_filter_comesAfter {rows front back : List α} {c : α} (noTies : NoTies le rows)
    (nodup : rows.Nodup) (split : rows.mergeSort le = front ++ c :: back) :
    (rows.filter (comesAfter le c)).mergeSort le = back := by
  have hsorted := List.pairwise_mergeSort trans total rows
  have hperm := List.mergeSort_perm rows le
  rw [split] at hsorted hperm
  have hnodup : (front ++ c :: back).Nodup := hperm.nodup_iff.2 nodup
  obtain ⟨-, hback, hacross⟩ := List.pairwise_append.1 hsorted
  obtain ⟨hfirst, hback⟩ := List.pairwise_cons.1 hback
  have hfilter : (front ++ c :: back).filter (comesAfter le c) = back := by
    rw [List.filter_append, List.filter_cons_of_neg, List.filter_eq_nil_iff.2, List.nil_append,
      List.filter_eq_self]
    · intro y hy
      have hnot : le y c ≠ true := by
        intro hle
        have hmem : y ∈ front ++ c :: back := by simp [hy]
        have hmemC : c ∈ front ++ c :: back := by simp
        obtain rfl := noTies y (hperm.subset hmem) c (hperm.subset hmemC) hle (hfirst y hy)
        exact (List.nodup_cons.1 (List.nodup_append.1 hnodup).2.1).1 hy
      simp [comesAfter, hfirst y hy, hnot]
    · intro x hx
      simp [comesAfter, hacross x hx c (List.mem_cons_self ..)]
    · simp [comesAfter]
  symm
  refine eq_mergeSort_of_perm trans total
    (noTies.mono fun x hx ↦ List.mem_of_mem_filter hx) ?_ hback
  have hfiltered := hperm.filter (comesAfter le c)
  rwa [hfilter] at hfiltered

end Ordered

/-! ## Walking the pages -/

/-- One page of some rows, and where the next one starts if there are more. -/
def pageOf (position : α → γ) (limit : Nat) (rows : List α) : List α × Option γ :=
  (rows.take limit,
    if limit < rows.length then (rows.take limit).getLast?.map position else none)

/-- A page and its end need one row more than the page shows. -/
theorem pageOf_congr {position : α → γ} {limit : Nat} {rows rows' : List α}
    (h : rows.take (limit + 1) = rows'.take (limit + 1)) :
    pageOf position limit rows = pageOf position limit rows' := by
  have htake : rows.take limit = rows'.take limit := by
    have htakes := congrArg (List.take limit) h
    rwa [List.take_take, List.take_take, Nat.min_eq_left (Nat.le_succ limit)] at htakes
  have hlength : limit < rows.length ↔ limit < rows'.length := by
    have hlengths := congrArg List.length h
    rw [List.length_take, List.length_take] at hlengths
    omega
  unfold pageOf
  rw [htake]
  simp only [hlength]

/-- The rows of the pages from a cursor on, if the pages end within the fuel. -/
def walk (page : Option γ → List α × Option γ) : Nat → Option γ → Option (List α)
  | 0, _ => none
  | fuel + 1, cursor =>
      match page cursor with
      | (rows, none) => some rows
      | (rows, some next) => (walk page fuel (some next)).map (rows ++ ·)

/-- If every cursor leads to the page after the row it names, the walk returns the rows in order,
each once, and ends. -/
theorem walk_eq_some {page : Option γ → List α × Option γ} {position : α → γ} {limit : Nat}
    {rows : List α} (positive : 0 < limit) (first : page none = pageOf position limit rows)
    (later : ∀ front c back, rows = front ++ c :: back →
      page (some (position c)) = pageOf position limit back) {fuel : Nat}
    (enough : rows.length < fuel) : walk page fuel none = some rows := by
  suffices hwalk : ∀ fuel front rest cursor, rows = front ++ rest →
      page cursor = pageOf position limit rest → rest.length < fuel →
      walk page fuel cursor = some rest from
    hwalk fuel [] rows none rfl first enough
  intro fuel
  induction fuel with
  | zero => exact fun _ _ _ _ _ hfuel ↦ absurd hfuel (Nat.not_lt_zero _)
  | succ fuel ih =>
      intro front rest cursor hsplit hpage hfuel
      unfold walk
      rw [hpage]
      unfold pageOf
      by_cases hmore : limit < rest.length
      · rw [if_pos hmore]
        -- the last row of a full page names the rows after it
        have hne : rest.take limit ≠ [] := by
          rw [Ne, List.take_eq_nil_iff]
          rintro (hzero | hnil)
          · omega
          · rw [hnil] at hmore
            exact absurd hmore (Nat.not_lt_zero _)
        have hlast := List.dropLast_append_getLast hne
        have hparts : rows = (front ++ (rest.take limit).dropLast) ++
            (rest.take limit).getLast hne :: rest.drop limit := by
          rw [List.append_assoc, List.append_cons _ _ (rest.drop limit), hlast,
            List.take_append_drop]
          exact hsplit
        rw [List.getLast?_eq_some_getLast hne]
        simp only [Option.map_some]
        rw [ih _ (rest.drop limit) _ (hparts.trans (List.append_cons ..)) (later _ _ _ hparts) (by
          rw [List.length_drop]
          omega)]
        rw [Option.map_some, List.take_append_drop]
      · rw [if_neg hmore]
        simp only
        rw [List.take_of_length_le (Nat.not_lt.1 hmore)]

end ReputationKey.Base
