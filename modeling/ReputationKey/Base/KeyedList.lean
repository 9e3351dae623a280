import ReputationKey.Base.KeyedRecord
import Mathlib.Data.List.Induction
import Mathlib.Data.Prod.Basic

/-!
# Lists whose elements have keys

Two lists of elements with keys, compared by key: what one has and the other has not, and the pairs
that both have. When no key repeats the pairs are the same from either side.
-/

namespace ReputationKey.Base

universe u v w

variable {κ : Type u} {α : Type v} [DecidableEq κ]

/-- The elements of a list by their keys, the last one of each key. -/
def indexBy (key : α → κ) (l : List α) : KeyedRecord κ α :=
  .ofEntries (l.map fun x ↦ (key x, x))

/-- The elements of two lists that share a key, in the order of the second. -/
def sharedPairs (key : α → κ) (before after : List α) : List (α × α) :=
  after.filterMap fun b ↦ (indexBy key before (key b)).map fun a ↦ (a, b)

variable {key : α → κ} {before after : List α}

theorem indexBy_eq_none {l : List α} {k : κ} (absent : k ∉ l.map key) : indexBy key l k = none := by
  apply KeyedRecord.foldl_set_of_not_mem
  rwa [List.map_map]

theorem indexBy_of_mem {l : List α} (nodup : (l.map key).Nodup) {x : α} (mem : x ∈ l) :
    indexBy key l (key x) = some x := by
  apply KeyedRecord.foldl_set_of_mem
  · rwa [List.map_map]
  · exact List.mem_map.2 ⟨x, mem, rfl⟩

theorem indexBy_eq_some_iff {l : List α} (nodup : (l.map key).Nodup) {k : κ} {x : α} :
    indexBy key l k = some x ↔ x ∈ l ∧ key x = k := by
  constructor
  · intro h
    have hmem : k ∈ l.map key := by
      by_contra absent
      rw [indexBy_eq_none absent] at h
      cases h
    obtain ⟨y, hy, rfl⟩ := List.mem_map.1 hmem
    rw [indexBy_of_mem nodup hy] at h
    cases h
    exact ⟨hy, rfl⟩
  · rintro ⟨hx, rfl⟩
    exact indexBy_of_mem nodup hx

theorem indexBy_isSome_iff {l : List α} (nodup : (l.map key).Nodup) {k : κ} :
    (indexBy key l k).isSome = true ↔ k ∈ l.map key := by
  rw [Option.isSome_iff_exists, List.mem_map]
  simp only [indexBy_eq_some_iff nodup]

theorem mem_of_indexBy {l : List α} {k : κ} {x : α} (h : indexBy key l k = some x) :
    x ∈ l ∧ key x = k := by
  induction l using List.reverseRecOn with
  | nil => cases h
  | append_singleton l y ih =>
      rw [indexBy, List.map_append, KeyedRecord.ofEntries_append] at h
      by_cases hk : k = key y
      · have hlast : KeyedRecord.ofEntries ([y].map fun x ↦ (key x, x)) k = some y := if_pos hk
        rw [hlast] at h
        cases h
        exact ⟨List.mem_append_right _ List.mem_cons_self, hk.symm⟩
      · have hlast : KeyedRecord.ofEntries ([y].map fun x ↦ (key x, x)) k = none := if_neg hk
        rw [hlast] at h
        obtain ⟨hmem, hkey⟩ := ih h
        exact ⟨List.mem_append_left _ hmem, hkey⟩

theorem indexBy_append (l l' : List α) (k : κ) :
    indexBy key (l ++ l') k = (indexBy key l' k).or (indexBy key l k) := by
  rw [indexBy, List.map_append, KeyedRecord.ofEntries_append]
  rfl

/-- Changing elements without changing their keys changes what is found. -/
theorem indexBy_map {β : Type v} {key' : β → κ} {f : β → α} (same : ∀ x, key (f x) = key' x)
    (l : List β) (k : κ) : indexBy key (l.map f) k = (indexBy key' l k).map f := by
  induction l using List.reverseRecOn with
  | nil => rfl
  | append_singleton l y ih =>
      rw [List.map_append, indexBy_append, indexBy_append, ih, Option.map_or]
      congr 1
      by_cases hk : k = key' y <;> simp [indexBy, KeyedRecord.ofEntries, KeyedRecord.set, same, hk,
        KeyedRecord.empty]

/-- When no key repeats, the first element of a key is the one found. -/
theorem indexBy_eq_find? {l : List α} (nodup : (l.map key).Nodup) (k : κ) :
    indexBy key l k = l.find? fun x ↦ key x == k := by
  cases hfind : l.find? fun x ↦ key x == k with
  | none =>
      apply indexBy_eq_none
      intro mem
      obtain ⟨x, hx, hkey⟩ := List.mem_map.1 mem
      have hnot := List.find?_eq_none.1 hfind x hx
      simp [hkey] at hnot
  | some x =>
      have hkey := List.find?_some hfind
      exact (indexBy_eq_some_iff nodup).2 ⟨List.mem_of_find?_eq_some hfind, beq_iff_eq.1 hkey⟩

/-- What is listed for an element of a list under its own key is found again by that key. -/
theorem filter_flatMap_of_nodup {β : Type w} {l : List α} {f : α → List β} {key' : β → κ}
    (nodup : (l.map key).Nodup) (each : ∀ x ∈ l, ∀ y ∈ f x, key' y = key x) {x : α} (mem : x ∈ l) :
    (l.flatMap f).filter (fun y ↦ key' y == key x) = f x := by
  induction l with
  | nil => cases mem
  | cons first rest ih =>
      rw [List.map_cons, List.nodup_cons] at nodup
      rw [List.flatMap_cons, List.filter_append]
      have hrest := fun z hz ↦ each z (List.mem_cons_of_mem _ hz)
      rcases List.mem_cons.1 mem with rfl | mem
      · have hself : (f x).filter (fun y ↦ key' y == key x) = f x := by
          rw [List.filter_eq_self]
          intro y hy
          exact beq_iff_eq.2 (each x List.mem_cons_self y hy)
        have hnil : (rest.flatMap f).filter (fun y ↦ key' y == key x) = [] := by
          rw [List.filter_eq_nil_iff]
          intro y hy heq
          obtain ⟨z, hz, hy⟩ := List.mem_flatMap.1 hy
          apply nodup.1
          rw [← beq_iff_eq.1 heq, hrest z hz y hy]
          exact List.mem_map_of_mem hz
        rw [hself, hnil, List.append_nil]
      · have hnil : (f first).filter (fun y ↦ key' y == key x) = [] := by
          rw [List.filter_eq_nil_iff]
          intro y hy heq
          apply nodup.1
          rw [← each first List.mem_cons_self y hy, beq_iff_eq.1 heq]
          exact List.mem_map_of_mem mem
        rw [hnil, List.nil_append, ih nodup.2 hrest mem]

theorem mem_sharedPairs (nodup : (before.map key).Nodup) {a b : α} :
    (a, b) ∈ sharedPairs key before after ↔ a ∈ before ∧ b ∈ after ∧ key a = key b := by
  rw [sharedPairs, List.mem_filterMap]
  constructor
  · rintro ⟨c, hc, h⟩
    obtain ⟨d, hd, h⟩ := Option.map_eq_some_iff.1 h
    cases h
    obtain ⟨ha, hkey⟩ := (indexBy_eq_some_iff nodup).1 hd
    exact ⟨ha, hc, hkey⟩
  · rintro ⟨ha, hb, hkey⟩
    refine ⟨b, hb, ?_⟩
    rw [(indexBy_eq_some_iff nodup).2 ⟨ha, hkey⟩]
    rfl

theorem sharedPairs_nodup (nodup : after.Nodup) : (sharedPairs key before after).Nodup := by
  apply nodup.filterMap
  intro b b' p hp hp'
  obtain ⟨a, -, rfl⟩ := Option.map_eq_some_iff.1 hp
  obtain ⟨a', -, h⟩ := Option.map_eq_some_iff.1 hp'
  cases h
  rfl

/-- The pairs are the same from either side. -/
theorem sharedPairs_swap_perm (hbefore : (before.map key).Nodup) (hafter : (after.map key).Nodup) :
    ((sharedPairs key before after).map Prod.swap).Perm (sharedPairs key after before) := by
  rw [List.perm_ext_iff_of_nodup]
  · rintro ⟨b, a⟩
    rw [List.mem_map, mem_sharedPairs hafter]
    constructor
    · rintro ⟨⟨a', b'⟩, mem, h⟩
      cases h
      obtain ⟨ha, hb, hkey⟩ := (mem_sharedPairs hbefore).1 mem
      exact ⟨hb, ha, hkey.symm⟩
    · rintro ⟨hb, ha, hkey⟩
      exact ⟨(a, b), (mem_sharedPairs hbefore).2 ⟨ha, hb, hkey.symm⟩, rfl⟩
  · exact (sharedPairs_nodup (List.Nodup.of_map key hafter)).map Prod.swap_injective
  · exact sharedPairs_nodup (List.Nodup.of_map key hbefore)

/-- What is listed for each element that the other list has too is listed for each pair. -/
theorem flatMap_indexBy {β : Type w} (f : α → α → List β) :
    after.flatMap (fun b ↦ (indexBy key before (key b)).elim [] fun a ↦ f a b) =
      (sharedPairs key before after).flatMap fun p ↦ f p.1 p.2 := by
  rw [sharedPairs]
  induction after with
  | nil => rfl
  | cons b after ih =>
      rw [List.flatMap_cons, ih]
      cases h : indexBy key before (key b) with
      | none => rw [List.filterMap_cons_none (by rw [h]; rfl)]; rfl
      | some a => rw [List.filterMap_cons_some (by rw [h]; rfl), List.flatMap_cons]; rfl

omit [DecidableEq κ] in
/-- Lists with the same keys in the same order whose elements agree by key are equal. -/
theorem eq_of_map_key_eq (keys : before.map key = after.map key)
    (each : ∀ a ∈ before, ∀ b ∈ after, key a = key b → a = b) : before = after := by
  induction before generalizing after with
  | nil => exact (List.map_eq_nil_iff.1 keys.symm).symm
  | cons a before ih =>
      cases after with
      | nil => cases keys
      | cons b after =>
          rw [List.map_cons, List.map_cons, List.cons.injEq] at keys
          have hfirst := each a List.mem_cons_self b List.mem_cons_self keys.1
          have hrest := ih keys.2 fun x hx y hy ↦
            each x (List.mem_cons_of_mem _ hx) y (List.mem_cons_of_mem _ hy)
          rw [hfirst, hrest]

/-- Words without the separator are told from one another by their join, if none at all are told from
some. -/
theorem eq_of_intercalate_eq {separator : α} [DecidableEq α] {words words' : List (List α)}
    (free : ∀ word ∈ words, separator ∉ word) (free' : ∀ word ∈ words', separator ∉ word)
    (empty : words = [] ↔ words' = [])
    (h : [separator].intercalate words = [separator].intercalate words') : words = words' := by
  by_cases hnil : words = []
  · rw [hnil, empty.1 hnil]
  · have hsplit := List.splitOn_intercalate separator free hnil
    rwa [h, List.splitOn_intercalate separator free' fun h' ↦ hnil (empty.2 h'), eq_comm] at hsplit

end ReputationKey.Base
