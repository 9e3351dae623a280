import Mathlib.Data.List.Basic
import Mathlib.Order.Nat
import Mathlib.Tactic.Common

/-!
# Texts between separators

The separators of a text, found from its start by a pattern that may look at the element before, the
parts of the text between them, and how parts and separators tile the text.
-/

namespace ReputationKey.Base

universe u

variable {α : Type u}

/-- The part of a text from one place to another. -/
def slice (text : List α) (start stop : ℕ) : List α := (text.take stop).drop start

section Definitions

variable (separator : Option α → List α → ℕ)

/-- Where each separator of the rest of a text begins, and its length. The pattern tells the length
of a separator at the head of a text from the element before it, and 0 where there is none. -/
def separatorsFrom (index : ℕ) (before : Option α) : List α → List (ℕ × ℕ)
  | [] => []
  | a :: rest =>
      let length := separator before (a :: rest)
      if length = 0 then separatorsFrom (index + 1) (some a) rest
      else
        (index, length) ::
          separatorsFrom (index + length) (a :: rest)[length - 1]? (rest.drop (length - 1))
termination_by rest => rest.length
decreasing_by
  · simp
  · rw [List.length_drop, List.length_cons]
    omega

/-- The parts of the rest of a text, the first of them begun before. -/
def splitFrom (part : List α) (before : Option α) : List α → List (List α)
  | [] => [part]
  | a :: rest =>
      let length := separator before (a :: rest)
      if length = 0 then splitFrom (part ++ [a]) (some a) rest
      else part :: splitFrom [] (a :: rest)[length - 1]? (rest.drop (length - 1))
termination_by rest => rest.length
decreasing_by
  · simp
  · rw [List.length_drop, List.length_cons]
    omega

/-- The separators of a text. -/
def separators (text : List α) : List (ℕ × ℕ) := separatorsFrom separator 0 none text

/-- The parts of a text between its separators. -/
def splitBetween (text : List α) : List (List α) := splitFrom separator [] none text

end Definitions

/-- The bounds of the parts between separators, the first of them begun at a place. -/
def cutsFrom (cursor stop : ℕ) : List (ℕ × ℕ) → List (ℕ × ℕ)
  | [] => [(cursor, stop)]
  | (index, length) :: later => (cursor, index) :: cutsFrom (index + length) stop later

/-- Separators that follow each other from a place on. -/
def FollowFrom (stop : ℕ) : ℕ → List (ℕ × ℕ) → Prop
  | cursor, [] => cursor ≤ stop
  | cursor, (index, length) :: later => cursor ≤ index ∧ FollowFrom stop (index + length) later

variable {separator : Option α → List α → ℕ} {text done rest part : List α} {before : Option α}
  {cursor stop index length : ℕ} {seps : List (ℕ × ℕ)}

theorem slice_append_left : slice (done ++ rest) cursor done.length = done.drop cursor := by
  rw [slice, List.take_left]

/-- A text is what stands before a part of it, the part, and what stands behind. -/
theorem append_slice {start : ℕ} (ordered : start ≤ stop) :
    text.take start ++ slice text start stop ++ text.drop stop = text := by
  have htake : (text.take stop).take start = text.take start := by
    rw [List.take_take, min_eq_left ordered]
  rw [slice, ← htake, List.take_append_drop, List.take_append_drop]

/-- A part of a part, where it stands in the whole. -/
theorem slice_middle {start : ℕ} {front middle back : List α} (ordered : start ≤ stop)
    (bounded : stop ≤ text.length) (split : slice text start stop = front ++ middle ++ back) :
    slice text (start + front.length) (start + front.length + middle.length) = middle := by
  have hstart : (text.take start).length = start := by
    rw [List.length_take]
    omega
  have htext := @append_slice _ text stop start ordered
  rw [split] at htext
  have hread : (text.take start ++ front).length = start + front.length := by
    rw [List.length_append, hstart]
  have hall : (text.take start ++ front ++ middle) ++ (back ++ text.drop stop) = text := by
    simpa only [List.append_assoc] using htext
  have hthrough : (text.take start ++ front ++ middle).length =
      start + front.length + middle.length := by
    rw [List.length_append, hread]
  have htake : text.take (start + front.length + middle.length) =
      text.take start ++ front ++ middle := by
    conv_lhs => rw [← hall]
    exact List.take_left' hthrough
  rw [slice, htake, List.drop_left' hread]

/-- The places of a part are those of the whole from its start on. -/
theorem getElem?_slice {start place : ℕ} (low : start ≤ place) (high : place < stop) :
    (slice text start stop)[place - start]? = text[place]? := by
  rw [slice, List.getElem?_drop, Nat.add_sub_cancel' low, List.getElem?_take_of_lt high]

theorem separatorsFrom_none {a : α} (h : separator before (a :: rest) = 0) :
    separatorsFrom separator index before (a :: rest) =
      separatorsFrom separator (index + 1) (some a) rest := by
  rw [separatorsFrom, h]
  rfl

theorem separatorsFrom_found {a : α} (h : separator before (a :: rest) ≠ 0) :
    separatorsFrom separator index before (a :: rest) =
      (index, separator before (a :: rest)) ::
        separatorsFrom separator (index + separator before (a :: rest))
          (a :: rest)[separator before (a :: rest) - 1]?
          ((a :: rest).drop (separator before (a :: rest))) := by
  obtain ⟨length, hlength⟩ := Nat.exists_eq_succ_of_ne_zero h
  rw [separatorsFrom, if_neg h, hlength]
  rfl

theorem splitFrom_none {a : α} (h : separator before (a :: rest) = 0) :
    splitFrom separator part before (a :: rest) =
      splitFrom separator (part ++ [a]) (some a) rest := by
  rw [splitFrom, h]
  rfl

theorem splitFrom_found {a : α} (h : separator before (a :: rest) ≠ 0) :
    splitFrom separator part before (a :: rest) =
      part :: splitFrom separator [] (a :: rest)[separator before (a :: rest) - 1]?
        ((a :: rest).drop (separator before (a :: rest))) := by
  obtain ⟨length, hlength⟩ := Nat.exists_eq_succ_of_ne_zero h
  rw [splitFrom, if_neg h, hlength]
  rfl

/-- A text is taken off its front element by element, and separator by separator. -/
theorem separators_induction (separator : Option α → List α → ℕ)
    {motive : Option α → List α → Prop} (nil : ∀ before, motive before [])
    (none : ∀ before a rest, separator before (a :: rest) = 0 → motive (some a) rest →
      motive before (a :: rest))
    (found : ∀ before a rest, separator before (a :: rest) ≠ 0 →
      motive (a :: rest)[separator before (a :: rest) - 1]?
        ((a :: rest).drop (separator before (a :: rest))) → motive before (a :: rest))
    (before : Option α) (rest : List α) : motive before rest := by
  induction hsize : rest.length using Nat.strong_induction_on generalizing before rest with
  | _ size ih =>
      cases rest with
      | nil => exact nil before
      | cons a rest =>
          subst hsize
          by_cases h : separator before (a :: rest) = 0
          · exact none before a rest h (ih rest.length (by simp) _ _ rfl)
          · refine found before a rest h (ih _ ?_ _ _ rfl)
            rw [List.length_drop, List.length_cons]
            omega

/-- The parts of a split are what stands between the separators. -/
theorem splitFrom_eq (bounded : ∀ before rest, separator before rest ≤ rest.length)
    (begun : cursor ≤ done.length) :
    splitFrom separator (done.drop cursor) before rest =
      (cutsFrom cursor (done ++ rest).length (separatorsFrom separator done.length before rest)).map
        fun cut ↦ slice (done ++ rest) cut.1 cut.2 := by
  induction before, rest using separators_induction separator generalizing done cursor with
  | nil before =>
      rw [splitFrom, separatorsFrom, cutsFrom, List.append_nil, List.map_singleton, slice,
        List.take_length]
  | none before a rest h ih =>
      have hdone : done ++ a :: rest = (done ++ [a]) ++ rest := List.append_cons done a rest
      have hlength : (done ++ [a]).length = done.length + 1 := List.length_append
      rw [splitFrom_none h, separatorsFrom_none h, hdone, ← List.drop_append_of_le_length begun,
        ih (by omega), hlength]
  | found before a rest h ih =>
      have hread : (done ++ (a :: rest).take (separator before (a :: rest))).length =
          done.length + separator before (a :: rest) := by
        rw [List.length_append, List.length_take, min_eq_left (bounded before (a :: rest))]
      have hsplit : done ++ (a :: rest).take (separator before (a :: rest)) ++
          (a :: rest).drop (separator before (a :: rest)) = done ++ a :: rest := by
        rw [List.append_assoc, List.take_append_drop]
      have hnext := ih hread.ge
      rw [hread, hsplit, List.drop_eq_nil_of_le hread.le] at hnext
      rw [splitFrom_found h, separatorsFrom_found h, cutsFrom, List.map_cons, slice_append_left,
        hnext]

/-- What `String.prototype.split` cuts off is what stands between the separators found one by one.
-/
theorem splitBetween_eq (bounded : ∀ before rest, separator before rest ≤ rest.length) :
    splitBetween separator text = (cutsFrom 0 text.length (separators separator text)).map
      fun cut ↦ slice text cut.1 cut.2 :=
  @splitFrom_eq _ separator [] text none 0 bounded (Nat.zero_le _)

/-! ## Parts and separators tile a text -/

theorem followFrom_separatorsFrom (bounded : ∀ before rest, separator before rest ≤ rest.length) :
    FollowFrom (index + rest.length) index (separatorsFrom separator index before rest) := by
  suffices h : ∀ cursor ≤ index,
      FollowFrom (index + rest.length) cursor (separatorsFrom separator index before rest) from
    h index (le_refl index)
  induction before, rest using separators_induction separator generalizing index with
  | nil before =>
      intro cursor hcursor
      rw [separatorsFrom, FollowFrom]
      exact hcursor
  | none before a rest h ih =>
      intro cursor hcursor
      have hstop : index + (a :: rest).length = index + 1 + rest.length := by
        rw [List.length_cons]
        omega
      rw [separatorsFrom_none h, hstop]
      exact ih cursor (by omega)
  | found before a rest h ih =>
      intro cursor hcursor
      have hle := bounded before (a :: rest)
      have hstop : index + (a :: rest).length = index + separator before (a :: rest) +
          ((a :: rest).drop (separator before (a :: rest))).length := by
        rw [List.length_drop]
        omega
      rw [separatorsFrom_found h, FollowFrom, hstop]
      exact ⟨hcursor, ih _ (le_refl _)⟩

/-- Separators consist of what the pattern matches. -/
theorem mem_separatorsFrom {p : α → Prop}
    (bounded : ∀ before rest, separator before rest ≤ rest.length)
    (within : ∀ before (rest : List α), ∀ a ∈ rest.take (separator before rest), p a)
    (mem : (index, length) ∈ separatorsFrom separator done.length before rest) {place : ℕ}
    (low : index ≤ place) (high : place < index + length) :
    ∀ a ∈ (done ++ rest)[place]?, p a := by
  induction before, rest using separators_induction separator generalizing done with
  | nil before =>
      rw [separatorsFrom] at mem
      cases mem
  | none before a rest h ih =>
      have hlength : (done ++ [a]).length = done.length + 1 := List.length_append
      rw [separatorsFrom_none h, ← hlength] at mem
      rw [List.append_cons]
      exact ih mem
  | found before a rest h ih =>
      have hread : (done ++ (a :: rest).take (separator before (a :: rest))).length =
          done.length + separator before (a :: rest) := by
        rw [List.length_append, List.length_take, min_eq_left (bounded before (a :: rest))]
      rw [separatorsFrom_found h] at mem
      rcases List.mem_cons.1 mem with hfound | hlater
      · cases hfound
        rw [List.getElem?_append_right low]
        intro b hb
        refine within before (a :: rest) b (List.mem_of_getElem? (i := place - done.length) ?_)
        rw [List.getElem?_take_of_lt (by omega)]
        exact hb
      · rw [← List.take_append_drop (separator before (a :: rest)) (a :: rest), ← List.append_assoc]
        exact ih (by rwa [hread])

theorem le_of_followFrom (h : FollowFrom stop cursor seps) : cursor ≤ stop := by
  induction seps generalizing cursor with
  | nil => exact h
  | cons found later ih =>
      have hnext := ih h.2
      have hindex := h.1
      omega

/-- The parts follow each other. -/
theorem cuts_ordered (h : FollowFrom stop cursor seps) :
    (cutsFrom cursor stop seps).Pairwise (fun cut later ↦ cut.2 ≤ later.1) ∧
      ∀ cut ∈ cutsFrom cursor stop seps, cursor ≤ cut.1 ∧ cut.1 ≤ cut.2 ∧ cut.2 ≤ stop := by
  induction seps generalizing cursor with
  | nil =>
      refine ⟨List.pairwise_singleton _ _, fun cut hcut ↦ ?_⟩
      rw [cutsFrom, List.mem_singleton] at hcut
      subst hcut
      exact ⟨le_refl _, h, le_refl _⟩
  | cons found later ih =>
      obtain ⟨hordered, hbounds⟩ := ih h.2
      have hstop := le_of_followFrom h.2
      have hindex := h.1
      refine ⟨List.pairwise_cons.2 ⟨fun cut hcut ↦ ?_, hordered⟩, fun cut hcut ↦ ?_⟩
      · have hcut := hbounds cut hcut
        omega
      · rcases List.mem_cons.1 hcut with rfl | hcut
        · exact ⟨le_refl _, hindex, by omega⟩
        · have hcut := hbounds cut hcut
          omega

/-- Every place is in a part or in a separator. -/
theorem cuts_cover {place : ℕ} (low : cursor ≤ place) (high : place < stop) :
    (∃ cut ∈ cutsFrom cursor stop seps, cut.1 ≤ place ∧ place < cut.2) ∨
      ∃ found ∈ seps, found.1 ≤ place ∧ place < found.1 + found.2 := by
  induction seps generalizing cursor with
  | nil => exact Or.inl ⟨(cursor, stop), List.mem_singleton.2 rfl, low, high⟩
  | cons found later ih =>
      by_cases hpart : place < found.1
      · exact Or.inl ⟨(cursor, found.1), List.mem_cons_self, low, hpart⟩
      · by_cases hfound : place < found.1 + found.2
        · exact Or.inr ⟨found, List.mem_cons_self, Nat.not_lt.1 hpart, hfound⟩
        · rcases ih (Nat.not_lt.1 hfound) with ⟨cut, hcut, hplace⟩ | ⟨other, hother, hplace⟩
          · exact Or.inl ⟨cut, List.mem_cons_of_mem _ hcut, hplace⟩
          · exact Or.inr ⟨other, List.mem_cons_of_mem _ hother, hplace⟩

end ReputationKey.Base
