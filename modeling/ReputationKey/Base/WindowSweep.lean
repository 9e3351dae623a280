import Mathlib.Algebra.Order.BigOperators.Group.List
import Mathlib.Algebra.Order.Group.Nat
import Mathlib.Algebra.GroupWithZero.Nat
import Mathlib.Data.List.TakeWhile
import Mathlib.Tactic.Ring

/-!
# The heaviest window of a sorted series

One pass over items sorted by position keeps the total of the window that ends with the current item,
letting go of the items that fell out of it. The greatest of these totals is the greatest total of any
window of that width, ending at an item or not.
-/

namespace ReputationKey.Base

namespace WindowSweep

variable {α : Type*} (position : α → ℤ) (weight : α → ℕ) (width : ℤ)

/-- What a pass knows: the greatest total so far, that of the current window, and the items from the
first of that window on. -/
structure Sweep (α : Type*) where
  best : ℤ
  total : ℤ
  pending : List α

/-- Let go of the first items up to a limit. -/
def letGo (limit : ℤ) : ℤ → List α → ℤ × List α
  | total, [] => (total, [])
  | total, item :: rest =>
      if position item ≤ limit then letGo limit (total - weight item) rest else (total, item :: rest)

/-- Move the window on to the next item. -/
def Sweep.moveTo (sweep : Sweep α) (item : α) : Sweep α :=
  let (total, pending) :=
    letGo position weight (position item - width) (sweep.total + weight item) sweep.pending
  { best := max sweep.best total, total := total, pending := pending }

/-- The greatest total of a window that ends with an item of the series. -/
def greatestTotal (series : List α) : ℤ :=
  (series.foldl (Sweep.moveTo position weight width) ⟨0, 0, series⟩).best

/-- The total weight of some items. -/
def totalWeight (items : List α) : ℕ := (items.map weight).sum

/-- The items after a limit. -/
def after (limit : ℤ) (items : List α) : List α := items.filter fun item ↦ decide (limit < position item)

/-- The total of the window of the width that starts at a position. -/
def windowTotal (series : List α) (start : ℤ) : ℕ :=
  totalWeight weight
    (series.filter fun item ↦ decide (start ≤ position item ∧ position item < start + width))

variable {position weight width}

theorem totalWeight_append (front back : List α) :
    totalWeight weight (front ++ back) = totalWeight weight front + totalWeight weight back := by
  simp [totalWeight]

/-- Fewer items weigh no more. -/
theorem totalWeight_sublist {front back : List α} (h : front.Sublist back) :
    totalWeight weight front ≤ totalWeight weight back :=
  (h.map weight).sum_le_sum fun _ _ ↦ Nat.zero_le _

/-- Letting go stops at the first item after the limit, which in a sorted list ends the items up
to it. -/
theorem letGo_append {limit : ℤ} (total : ℤ) {kept : List α} (rest : List α) {item : α}
    (sorted : kept.Pairwise fun a b ↦ position a ≤ position b) (stays : limit < position item) :
    letGo position weight limit (total + totalWeight weight kept) (kept ++ item :: rest) =
      (total + totalWeight weight (after position limit kept),
        after position limit kept ++ item :: rest) := by
  induction kept generalizing total with
  | nil => simp [letGo, after, stays]
  | cons first kept ih =>
      rw [List.pairwise_cons] at sorted
      rw [List.cons_append, letGo]
      by_cases hfirst : position first ≤ limit
      · rw [if_pos hfirst]
        have hgone : after position limit (first :: kept) = after position limit kept := by
          simp [after, hfirst]
        have htotal : total + totalWeight weight (first :: kept) - weight first =
            total + totalWeight weight kept := by
          simp [totalWeight]
          ring
        rw [hgone, htotal]
        exact ih total sorted.2
      · rw [if_neg hfirst]
        have hall : after position limit (first :: kept) = first :: kept := by
          apply List.filter_eq_self.2
          intro a mem
          rw [decide_eq_true_eq]
          rcases List.mem_cons.1 mem with rfl | htail
          · exact not_le.1 hfirst
          · exact lt_of_lt_of_le (not_le.1 hfirst) (sorted.1 a htail)
        rw [hall]
        rfl

/-- Items after a later limit are after an earlier one. -/
theorem after_after {limit later : ℤ} (h : limit ≤ later) (items : List α) :
    after position later (after position limit items) = after position later items := by
  rw [after, after, after, List.filter_filter]
  apply List.filter_congr
  intro item _
  rw [Bool.and_eq_left_iff_imp, decide_eq_true_eq, decide_eq_true_eq]
  exact fun hlater ↦ lt_of_le_of_lt h hlater

/-- The window that ends with the last of some items, and what it weighs with the next one. -/
theorem moveTo_eq {done rest : List α} {item : α} {best limit : ℤ} (positive : 0 < width)
    (sorted : done.Pairwise fun a b ↦ position a ≤ position b)
    (later : limit ≤ position item - width) :
    Sweep.moveTo position weight width
        ⟨best, totalWeight weight (after position limit done), after position limit done ++ item :: rest⟩
        item =
      ⟨max best (totalWeight weight (after position (position item - width) (done ++ [item]))),
        totalWeight weight (after position (position item - width) (done ++ [item])),
        after position (position item - width) (done ++ [item]) ++ rest⟩ := by
  have hstays : position item - width < position item := by omega
  have hlast : after position (position item - width) (done ++ [item]) =
      after position (position item - width) done ++ [item] := by
    simp [after, positive]
  have hletGo := @letGo_append α position weight _ (weight item) _ rest _
    (sorted.filter fun a ↦ decide (limit < position a)) hstays
  rw [← after, after_after later] at hletGo
  have htotal : (weight item : ℤ) + totalWeight weight (after position (position item - width) done) =
      totalWeight weight (after position (position item - width) (done ++ [item])) := by
    rw [hlast, totalWeight_append]
    simp [totalWeight]
    ring
  rw [Sweep.moveTo, add_comm (totalWeight weight (after position limit done) : ℤ), hletGo, htotal, hlast,
    List.append_assoc, List.singleton_append]

/-- A pass ends with the greatest of what it began with and the totals of the windows that end with
the items it went through. -/
theorem foldl_moveTo {done rest : List α} {best limit : ℤ} (positive : 0 < width)
    (sorted : (done ++ rest).Pairwise fun a b ↦ position a ≤ position b)
    (later : ∀ item ∈ rest, limit ≤ position item - width) :
    let final := (rest.foldl (Sweep.moveTo position weight width)
      ⟨best, totalWeight weight (after position limit done), after position limit done ++ rest⟩).best
    best ≤ final ∧
      (∀ front item back, rest = front ++ item :: back →
        (totalWeight weight (after position (position item - width) (done ++ front ++ [item])) : ℤ) ≤
          final) ∧
      (final = best ∨ ∃ front item back, rest = front ++ item :: back ∧
        final = totalWeight weight (after position (position item - width) (done ++ front ++ [item]))) := by
  induction rest generalizing done best limit with
  | nil => exact ⟨le_rfl, by simp, Or.inl rfl⟩
  | cons item rest ih =>
      rw [List.foldl_cons, moveTo_eq positive (List.pairwise_append.1 sorted).1
        (later item List.mem_cons_self)]
      have hrest := List.pairwise_cons.1 (List.pairwise_append.1 sorted).2.1
      have hsorted : (done ++ [item] ++ rest).Pairwise fun a b ↦ position a ≤ position b := by
        rwa [List.append_assoc, List.singleton_append]
      obtain ⟨hbest, hwindows, hreached⟩ := @ih (done ++ [item])
        (max best (totalWeight weight (after position (position item - width) (done ++ [item]))))
        (position item - width) hsorted (by
          intro a mem
          have := hrest.1 a mem
          omega)
      refine ⟨(le_max_left _ _).trans hbest, ?_, ?_⟩
      · intro front a back hsplit
        cases front with
        | nil =>
            rw [List.nil_append, List.cons.injEq] at hsplit
            obtain ⟨rfl, rfl⟩ := hsplit
            rw [List.append_nil]
            exact (le_max_right _ _).trans hbest
        | cons b front =>
            rw [List.cons_append, List.cons.injEq] at hsplit
            obtain ⟨rfl, rfl⟩ := hsplit
            have hwindow := hwindows front a back rfl
            simpa using hwindow
      · rcases hreached with hsame | ⟨front, a, back, hsplit, hfinal⟩
        · rcases max_choice best
            (totalWeight weight (after position (position item - width) (done ++ [item])) : ℤ) with
            hmax | hmax
          · exact Or.inl (hsame.trans hmax)
          · right
            refine ⟨[], item, rest, rfl, ?_⟩
            rw [List.append_nil]
            exact hsame.trans hmax
        · right
          refine ⟨item :: front, a, back, by rw [hsplit]; rfl, ?_⟩
          rw [hfinal]
          simp

/-- A sorted series is what comes before a bound and then what does not. -/
theorem exists_split {series : List α} (sorted : series.Pairwise fun a b ↦ position a ≤ position b)
    (bound : ℤ) :
    ∃ front back, series = front ++ back ∧ (∀ a ∈ front, position a < bound) ∧
      ∀ a ∈ back, bound ≤ position a := by
  induction series with
  | nil => exact ⟨[], [], rfl, by simp, by simp⟩
  | cons first rest ih =>
      rw [List.pairwise_cons] at sorted
      by_cases hfirst : position first < bound
      · obtain ⟨front, back, hsplit, hfront, hback⟩ := ih sorted.2
        refine ⟨first :: front, back, by rw [hsplit]; rfl, ?_, hback⟩
        intro a mem
        rcases List.mem_cons.1 mem with rfl | hmem
        · exact hfirst
        · exact hfront a hmem
      · refine ⟨[], first :: rest, rfl, by simp, ?_⟩
        intro a mem
        rcases List.mem_cons.1 mem with rfl | hmem
        · exact not_lt.1 hfirst
        · exact (not_lt.1 hfirst).trans (sorted.1 a hmem)

/-- A window weighs no more than the one that ends with its last item. -/
theorem windowTotal_le {series : List α} (sorted : series.Pairwise fun a b ↦ position a ≤ position b)
    (start : ℤ) :
    windowTotal position weight width series start = 0 ∨
      ∃ front item back, series = front ++ item :: back ∧
        windowTotal position weight width series start ≤
          totalWeight weight (after position (position item - width) (front ++ [item])) := by
  obtain ⟨inside, outside, hsplit, hinside, houtside⟩ := exists_split sorted (start + width)
  have hnone : outside.filter (fun item ↦
      decide (start ≤ position item ∧ position item < start + width)) = [] := by
    apply List.filter_eq_nil_iff.2
    intro a mem
    have := houtside a mem
    simp only [decide_eq_true_eq]
    omega
  rw [windowTotal, hsplit, List.filter_append, hnone, List.append_nil]
  rcases List.eq_nil_or_concat inside with hnil | ⟨front, item, hinsideEq⟩
  · left
    rw [hnil]
    rfl
  · right
    rw [List.concat_eq_append] at hinsideEq
    refine ⟨front, item, outside, by rw [hinsideEq]; simp, ?_⟩
    have hbound := hinside item (by rw [hinsideEq]; simp)
    rw [hinsideEq]
    apply totalWeight_sublist
    apply List.monotone_filter_right
    intro a ha
    rw [decide_eq_true_eq] at ha ⊢
    omega

/-- The window that ends with an item holds the items up to it that are after its start. -/
theorem totalWeight_le_windowTotal {front back : List α} {item : α}
    (sorted : (front ++ item :: back).Pairwise fun a b ↦ position a ≤ position b) :
    totalWeight weight (after position (position item - width) (front ++ [item])) ≤
      windowTotal position weight width (front ++ item :: back) (position item - width + 1) := by
  have hsplit : front ++ item :: back = (front ++ [item]) ++ back := by simp
  have hlast : ∀ a ∈ front ++ [item], position a ≤ position item := by
    intro a mem
    rcases List.mem_append.1 mem with hmem | hmem
    · exact (List.pairwise_append.1 sorted).2.2 a hmem item List.mem_cons_self
    · rw [List.mem_singleton.1 hmem]
  have hsame : after position (position item - width) (front ++ [item]) =
      (front ++ [item]).filter fun a ↦ decide (position item - width + 1 ≤ position a ∧
        position a < position item - width + 1 + width) := by
    apply List.filter_congr
    intro a mem
    have := hlast a mem
    rw [decide_eq_decide]
    omega
  rw [hsame, windowTotal, hsplit]
  exact totalWeight_sublist ((List.sublist_append_left _ back).filter _)

/-- The pass finds the greatest total of a window: no window weighs more, and it is reached by a
window that ends with an item, unless it is zero. -/
theorem greatestTotal_spec {series : List α} (positive : 0 < width)
    (sorted : series.Pairwise fun a b ↦ position a ≤ position b) :
    0 ≤ greatestTotal position weight width series ∧
      (∀ start, (windowTotal position weight width series start : ℤ) ≤
        greatestTotal position weight width series) ∧
      (greatestTotal position weight width series = 0 ∨ ∃ item ∈ series,
        greatestTotal position weight width series ≤
          windowTotal position weight width series (position item - width + 1)) := by
  cases hseries : series with
  | nil => simp [greatestTotal, windowTotal, totalWeight]
  | cons first others =>
      rw [← hseries]
      have hlater : ∀ item ∈ series, position first - width ≤ position item - width := by
        intro item mem
        rw [hseries] at mem sorted
        rcases List.mem_cons.1 mem with rfl | hmem
        · exact le_rfl
        · have := (List.pairwise_cons.1 sorted).1 item hmem
          omega
      obtain ⟨hzero, hwindows, hreached⟩ := @foldl_moveTo α position weight width [] series 0
        (position first - width) positive sorted hlater
      simp only [List.nil_append] at hwindows hreached
      refine ⟨hzero, ?_, ?_⟩
      · intro start
        rcases @windowTotal_le α position weight width _ sorted start with hzero' | h
        · rw [hzero']
          exact hzero
        · obtain ⟨front, item, back, hsplit, hle⟩ := h
          exact (Int.ofNat_le.2 hle).trans (hwindows front item back hsplit)
      · rcases hreached with hsame | ⟨front, item, back, hsplit, hfinal⟩
        · exact Or.inl hsame
        · right
          refine ⟨item, by rw [hsplit]; simp, ?_⟩
          rw [hsplit] at sorted
          rw [show greatestTotal position weight width series = _ from hfinal, hsplit]
          exact Int.ofNat_le.2 (totalWeight_le_windowTotal sorted)

end WindowSweep

end ReputationKey.Base
