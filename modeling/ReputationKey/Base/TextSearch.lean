import Mathlib.Data.List.Infix
import Mathlib.Data.List.Basic
import Mathlib.Tactic.Common

/-!
# Searching texts

The first place where a text contains another, and the matches a pattern has when a text is scanned
from its start, each from where the one before ended. A pattern tells the length of its match at the
head of a text. The laws say where both stand in a text put together from parts.
-/

namespace ReputationKey.Base

universe u

variable {α : Type u}

/-! ## Prefixes of joined texts -/

/-- A prefix that an element ends is a prefix of the part before it. -/
theorem prefix_of_prefix_append_cons {part front back : List α} {a : α} (absent : a ∉ part)
    (h : part <+: front ++ a :: back) : part <+: front := by
  rcases List.prefix_or_prefix_of_prefix h (List.prefix_append front (a :: back)) with hpart | hfront
  · exact hpart
  · obtain ⟨rest, rfl⟩ := hfront
    cases rest with
    | nil =>
        rw [List.append_nil]
    | cons b rest =>
        rw [List.prefix_append_right_inj, List.cons_prefix_cons] at h
        apply absurd _ absent
        rw [h.1]
        simp

/-- A prefix whose last element stands in the first part only lies in that part. -/
theorem prefix_of_append_singleton_prefix {front back part : List α} {a : α} (absent : a ∉ back)
    (h : part ++ [a] <+: front ++ back) : part ++ [a] <+: front := by
  rcases List.prefix_or_prefix_of_prefix h (List.prefix_append front back) with hpart | hfront
  · exact hpart
  · obtain ⟨rest, hrest⟩ := hfront
    rcases List.eq_nil_or_concat rest with rfl | ⟨rest, b, rfl⟩
    · rw [List.append_nil] at hrest
      rw [hrest]
    · rw [← hrest, List.prefix_append_right_inj] at h
      rw [List.concat_eq_append, ← List.append_assoc] at hrest
      obtain ⟨-, hb⟩ := List.append_inj' hrest rfl
      apply absurd (h.subset _) absent
      rw [← List.singleton_inj.1 hb]
      simp

/-! ## The first occurrence -/

variable [DecidableEq α]

/-- Where a text first contains a part. -/
def firstIndexOf (part : List α) : List α → Option ℕ
  | [] => if part = [] then some 0 else none
  | a :: rest =>
      if part.isPrefixOf (a :: rest) then some 0 else (firstIndexOf part rest).map (· + 1)

/-- A text starts with the part. -/
theorem firstIndexOf_of_prefix {part text : List α} (h : part <+: text) :
    firstIndexOf part text = some 0 := by
  cases text with
  | nil => rw [firstIndexOf, if_pos (List.prefix_nil.1 h)]
  | cons a rest => rw [firstIndexOf, if_pos (List.isPrefixOf_iff_prefix.2 h)]

/-- A text whose first element does not start the part. -/
theorem firstIndexOf_cons_of_ne {a b : α} (h : b ≠ a) (part text : List α) :
    firstIndexOf (a :: part) (b :: text) = (firstIndexOf (a :: part) text).map (· + 1) := by
  rw [firstIndexOf, if_neg]
  rw [List.isPrefixOf_iff_prefix, List.cons_prefix_cons]
  exact fun hsame ↦ h hsame.1.symm

/-- A part that a text does not contain stands after it, when what follows begins with an element
that the part has not. -/
theorem firstIndexOf_append {part front : List α} (absent : ¬ part <:+: front) {a : α}
    (h : a ∉ part) (back : List α) : firstIndexOf part (front ++ a :: back) =
      (firstIndexOf part (a :: back)).map (· + front.length) := by
  induction front with
  | nil => simp
  | cons b front ih =>
      have hnot : ¬ part <+: b :: (front ++ a :: back) := by
        intro hprefix
        have hfront := prefix_of_prefix_append_cons h (show part <+: (b :: front) ++ a :: back from hprefix)
        exact absent hfront.isInfix
      have hrest := ih fun hwithin ↦ absent (hwithin.trans (List.suffix_cons b front).isInfix)
      rw [List.cons_append, firstIndexOf, if_neg (by rwa [List.isPrefixOf_iff_prefix]), hrest,
        Option.map_map]
      congr 1

/-! ## Scanning -/

omit [DecidableEq α]

variable (pattern : List α → Option ℕ)

/-- The matches of a pattern, which matches no empty text: where each begins and its length. The
elements of a match are skipped. -/
def scan (index skip : ℕ) : List α → List (ℕ × ℕ)
  | [] => []
  | a :: rest =>
      match skip with
      | skip + 1 => scan (index + 1) skip rest
      | 0 =>
          match pattern (a :: rest) with
          | some length => (index, length) :: scan (index + 1) (length - 1) rest
          | none => scan (index + 1) 0 rest

variable {pattern}

/-- Skipped elements hold no match. -/
theorem scan_skip (index : ℕ) (front back : List α) :
    scan pattern index front.length (front ++ back) = scan pattern (index + front.length) 0 back := by
  induction front generalizing index with
  | nil => rfl
  | cons a front ih =>
      rw [List.length_cons, List.cons_append, scan, ih, Nat.add_assoc, Nat.add_comm 1]

/-- A match at the head is found first. -/
theorem scan_of_match {text front back : List α} (index : ℕ) (split : text = front ++ back)
    (nonempty : front ≠ []) (found : pattern text = some front.length) :
    scan pattern index 0 text =
      (index, front.length) :: scan pattern (index + front.length) 0 back := by
  cases front with
  | nil => exact absurd rfl nonempty
  | cons a front =>
      subst split
      rw [List.cons_append] at *
      rw [scan, found]
      simp only [List.length_cons, Nat.add_sub_cancel]
      rw [scan_skip, Nat.add_assoc, Nat.add_comm 1]

/-- Where no rest of a text matches, nothing is found. -/
theorem scan_eq_nil {text : List α} (none : ∀ rest, rest <:+ text → pattern rest = none) (index : ℕ) :
    scan pattern index 0 text = [] := by
  induction text generalizing index with
  | nil => rfl
  | cons a text ih =>
      rw [scan, none _ List.suffix_rfl]
      exact ih (fun rest h ↦ none rest (h.trans (List.suffix_cons a text))) (index + 1)

/-- When no match reaches out of the first part of a text, the second part is scanned by itself. -/
theorem scan_append {front back : List α}
    (within : ∀ rest, rest <:+ front → rest ≠ [] → ∀ length, pattern (rest ++ back) = some length →
      length ≤ rest.length)
    (index : ℕ) {skip : ℕ} (bound : skip ≤ front.length) :
    ∃ found, scan pattern index skip (front ++ back) =
      found ++ scan pattern (index + front.length) 0 back := by
  induction front generalizing index skip with
  | nil =>
      obtain rfl : skip = 0 := by simpa using bound
      exact ⟨[], rfl⟩
  | cons a front ih =>
      have hwithin (rest : List α) (h : rest <:+ front) := within rest (h.trans (List.suffix_cons a front))
      have hindex : index + (a :: front).length = index + 1 + front.length := by
        rw [List.length_cons]
        omega
      rw [hindex, List.cons_append]
      cases skip with
      | succ skip =>
          rw [scan]
          exact ih hwithin (index + 1) (by simpa using bound)
      | zero =>
          cases hfound : pattern (a :: (front ++ back)) with
          | none =>
              obtain ⟨found, hrest⟩ := ih hwithin (index + 1) (Nat.zero_le _)
              exact ⟨found, by rw [scan, hfound]; exact hrest⟩
          | some length =>
              have hlength := within (a :: front) List.suffix_rfl (by simp) length hfound
              rw [List.length_cons] at hlength
              have hskip : length - 1 ≤ front.length := by omega
              obtain ⟨found, hrest⟩ := ih hwithin (index + 1) hskip
              exact ⟨(index, length) :: found, by rw [scan, hfound]; simp only [hrest]; rfl⟩

end ReputationKey.Base
