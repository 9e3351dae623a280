import ReputationKey.Base.Spans
import Mathlib.Data.List.Range

/-!
# Texts with marked spans

A text in which each span is written as one marker: the pieces of a part of the text are its positions
outside the spans and the spans that overlap it, in order.
-/

namespace ReputationKey.Base

universe u v

variable {Λ : Type u} {α : Type v}

/-! ## Pieces -/

/-- A piece of a marked text: a position outside the spans, or the marker of a span. -/
inductive Piece (Λ : Type u)
  | kept (position : ℕ)
  | marker (span : Span Λ)

namespace Piece

/-- The position a piece keeps. -/
def kept? : Piece Λ → Option ℕ
  | .kept p => some p
  | .marker _ => none

/-- The span a piece marks. -/
def marker? : Piece Λ → Option (Span Λ)
  | .kept _ => none
  | .marker span => some span

/-- Where a piece stands in the part that starts at a position. -/
def position (start : ℕ) : Piece Λ → ℕ
  | .kept p => p
  | .marker span => max span.start start

/-- A piece as it is written. -/
def write (text : List α) (marker : Λ → List α) : Piece Λ → List α
  | .kept p => text[p]?.toList
  | .marker span => marker span.label

end Piece

/-- The positions from one up to another, each kept. -/
def keptFrom (cursor stop : ℕ) : List (Piece Λ) := (List.range' cursor (stop - cursor)).map .kept

/-- The pieces from a cursor to the end of the part that starts at `start`: a span's marker stands where
the span enters the part, and the span's positions are skipped. -/
def piecesFrom (start stop : ℕ) : List (Span Λ) → ℕ → List (Piece Λ)
  | [], cursor => keptFrom cursor stop
  | span :: spans, cursor =>
      if span.stop ≤ start then piecesFrom start stop spans cursor
      else if stop ≤ span.start then keptFrom cursor stop
      else keptFrom cursor (max span.start start) ++ .marker span ::
        piecesFrom start stop spans (min span.stop stop)

/-- The pieces of a part of a text. -/
def pieces (spans : List (Span Λ)) (start stop : ℕ) : List (Piece Λ) :=
  piecesFrom start stop spans start

/-- Whether a cursor in a part has passed no span that is still to be written. -/
structure CursorBefore (start stop : ℕ) (spans : List (Span Λ)) (cursor : ℕ) : Prop where
  separated : Separated spans
  start_le : start ≤ cursor
  le_stop : cursor ≤ stop
  before : ∀ span ∈ spans, span.Overlaps start stop → cursor ≤ max span.start start

section Pieces

variable {span : Span Λ} {spans : List (Span Λ)} {start stop cursor p : ℕ}

theorem cursorBefore_start (separated : Separated spans) (le : start ≤ stop) :
    CursorBefore start stop spans start where
  separated := separated
  start_le := le_rfl
  le_stop := le
  before _ _ _ := le_max_right _ _

namespace CursorBefore

theorem skip (h : CursorBefore start stop (span :: spans) cursor) :
    CursorBefore start stop spans cursor where
  separated := h.separated.tail
  start_le := h.start_le
  le_stop := h.le_stop
  before s mem := h.before s (List.mem_cons_of_mem _ mem)

/-- After a span the cursor stands at its end. -/
theorem pass (h : CursorBefore start stop (span :: spans) cursor) (overlaps : span.Overlaps start stop) :
    CursorBefore start stop spans (min span.stop stop) where
  separated := h.separated.tail
  start_le := by
    have := overlaps.1
    have := h.start_le
    have := h.le_stop
    omega
  le_stop := Nat.min_le_right _ _
  before s mem _ := by
    have := h.separated.le_of_mem mem
    omega

end CursorBefore

theorem overlaps_iff : span.Overlaps start stop ↔ ¬ span.stop ≤ start ∧ ¬ stop ≤ span.start := by
  simp [Span.Overlaps]

/-- A later span has no position before the end of an earlier one. -/
theorem not_covers_of_lt (h : Separated (span :: spans)) {later : Span Λ} (mem : later ∈ spans)
    (lt : p < span.stop) : ¬ later.Covers p := by
  have := h.le_of_mem mem
  rintro ⟨hlow, -⟩
  omega

/-- The positions of a part before and from a position on. -/
theorem range'_split {a b c : ℕ} (h : a ≤ b) (h' : b ≤ c) :
    List.range' a (c - a) = List.range' a (b - a) ++ List.range' b (c - b) := by
  have hlength : c - a = (b - a) + (c - b) := by omega
  have hmiddle : a + 1 * (b - a) = b := by omega
  rw [hlength, ← List.range'_append, hmiddle]

theorem mem_range'_sub {a b : ℕ} : p ∈ List.range' a (b - a) ↔ a ≤ p ∧ p < b := by
  rw [List.mem_range'_1]
  omega

/-- Every position outside the spans is kept, once and in order. -/
theorem keptPositions (h : CursorBefore start stop spans cursor) :
    (piecesFrom start stop spans cursor).filterMap Piece.kept? =
      (List.range' cursor (stop - cursor)).filter fun p ↦ decide (∀ span ∈ spans, ¬ span.Covers p) := by
  have hkept (a b : ℕ) : (keptFrom a b : List (Piece Λ)).filterMap Piece.kept? =
      List.range' a (b - a) := by
    simp [keptFrom, List.filterMap_map, Function.comp_def, Piece.kept?]
  induction spans generalizing cursor with
  | nil => simp [piecesFrom, hkept]
  | cons span spans ih =>
      rw [piecesFrom]
      split_ifs with hskip hbreak
      · rw [ih h.skip]
        apply List.filter_congr
        intro p mem
        have hout : ¬ span.Covers p := by
          have := h.start_le
          have := (mem_range'_sub.1 mem).1
          rintro ⟨-, hhigh⟩
          omega
        simp [hout]
      · rw [hkept, eq_comm, List.filter_eq_self]
        intro p mem
        have hhigh := (mem_range'_sub.1 mem).2
        have hout : ¬ span.Covers p := by
          rintro ⟨hlow, -⟩
          omega
        have hnonempty := h.separated.nonempty span List.mem_cons_self
        have hlater : ∀ s ∈ spans, ¬ s.Covers p := fun s mem ↦
          not_covers_of_lt h.separated mem (by omega)
        simpa [hout] using hlater
      · have hoverlaps : span.Overlaps start stop := overlaps_iff.2 ⟨hskip, hbreak⟩
        have hentry := h.before span List.mem_cons_self hoverlaps
        have hstart := h.start_le
        have hstop := h.le_stop
        have hnonempty := h.separated.nonempty span List.mem_cons_self
        have hentry' : max span.start start ≤ min span.stop stop := by omega
        have hfirst : (List.range' cursor (max span.start start - cursor)).filter
            (fun p ↦ decide (∀ s ∈ span :: spans, ¬ s.Covers p)) =
              List.range' cursor (max span.start start - cursor) := by
          rw [List.filter_eq_self]
          intro p mem
          have hbefore := mem_range'_sub.1 mem
          have hout : ¬ span.Covers p := by
            rintro ⟨hlow, -⟩
            omega
          have hlater : ∀ s ∈ spans, ¬ s.Covers p := fun s mem ↦
            not_covers_of_lt h.separated mem (by omega)
          simpa [hout] using hlater
        have hinside : (List.range' (max span.start start) (min span.stop stop - max span.start start)).filter
            (fun p ↦ decide (∀ s ∈ span :: spans, ¬ s.Covers p)) = [] := by
          rw [List.filter_eq_nil_iff]
          intro p mem
          have hin : span.Covers p := by
            have := mem_range'_sub.1 mem
            exact ⟨by omega, by omega⟩
          simp [hin]
        have hafter : (List.range' (min span.stop stop) (stop - min span.stop stop)).filter
            (fun p ↦ decide (∀ s ∈ span :: spans, ¬ s.Covers p)) =
              (List.range' (min span.stop stop) (stop - min span.stop stop)).filter
                fun p ↦ decide (∀ s ∈ spans, ¬ s.Covers p) := by
          apply List.filter_congr
          intro p mem
          have hout : ¬ span.Covers p := by
            have := mem_range'_sub.1 mem
            rintro ⟨-, hhigh⟩
            omega
          simp [hout]
        rw [List.filterMap_append, hkept, List.filterMap_cons_none (f := Piece.kept?) rfl,
          ih (h.pass hoverlaps), range'_split hentry (hentry'.trans (Nat.min_le_right _ _)),
          range'_split hentry' (Nat.min_le_right _ _), List.filter_append, List.filter_append, hfirst,
          hinside, hafter, List.nil_append]

/-- A span is marked once exactly if it overlaps the part. -/
theorem markedSpans (h : CursorBefore start stop spans cursor) :
    (piecesFrom start stop spans cursor).filterMap Piece.marker? =
      spans.filter fun span ↦ decide (span.Overlaps start stop) := by
  have hkept (a b : ℕ) : (keptFrom a b : List (Piece Λ)).filterMap Piece.marker? = [] := by
    simp [keptFrom, List.filterMap_map, Function.comp_def, Piece.marker?]
  induction spans generalizing cursor with
  | nil => exact hkept cursor stop
  | cons span spans ih =>
      rw [piecesFrom]
      split_ifs with hskip hbreak
      · rw [ih h.skip, List.filter_cons_of_neg]
        simp [overlaps_iff, hskip]
      · rw [hkept, eq_comm, List.filter_eq_nil_iff]
        intro s mem
        have hlater : span.start ≤ s.start := by
          rcases List.mem_cons.1 mem with rfl | mem
          · exact le_rfl
          · have := h.separated.le_of_mem mem
            have := h.separated.nonempty span List.mem_cons_self
            omega
        simp only [overlaps_iff, decide_eq_true_eq, not_and, not_not]
        omega
      · have hoverlaps : span.Overlaps start stop := overlaps_iff.2 ⟨hskip, hbreak⟩
        rw [List.filterMap_append, hkept, List.nil_append,
          List.filterMap_cons_some (f := Piece.marker?) rfl, ih (h.pass hoverlaps),
          List.filter_cons_of_pos (by simpa using hoverlaps)]

theorem keptFrom_ordered (start a b : ℕ) :
    (∀ piece ∈ (keptFrom a b : List (Piece Λ)), a ≤ piece.position start ∧ piece.position start < b) ∧
      (keptFrom a b : List (Piece Λ)).Pairwise fun x y ↦ x.position start ≤ y.position start := by
  constructor
  · intro piece mem
    obtain ⟨p, hp, rfl⟩ := List.mem_map.1 mem
    exact mem_range'_sub.1 hp
  · rw [keptFrom, List.pairwise_map]
    exact List.pairwise_le_range'

/-- The pieces stand in the order of their positions. -/
theorem piecesFrom_ordered (h : CursorBefore start stop spans cursor) :
    (∀ piece ∈ piecesFrom start stop spans cursor, cursor ≤ piece.position start) ∧
      (piecesFrom start stop spans cursor).Pairwise fun a b ↦ a.position start ≤ b.position start := by
  induction spans generalizing cursor with
  | nil => exact ⟨fun piece mem ↦ ((keptFrom_ordered _ _ _).1 piece mem).1, (keptFrom_ordered _ _ _).2⟩
  | cons span spans ih =>
      rw [piecesFrom]
      split_ifs with hskip hbreak
      · exact ih h.skip
      · exact ⟨fun piece mem ↦ ((keptFrom_ordered _ _ _).1 piece mem).1, (keptFrom_ordered _ _ _).2⟩
      · have hoverlaps : span.Overlaps start stop := overlaps_iff.2 ⟨hskip, hbreak⟩
        have hentry := h.before span List.mem_cons_self hoverlaps
        have hstart := h.start_le
        have hstop := h.le_stop
        have hnonempty := h.separated.nonempty span List.mem_cons_self
        obtain ⟨hlow, hordered⟩ := ih (h.pass hoverlaps)
        constructor
        · intro piece mem
          rcases List.mem_append.1 mem with mem | mem
          · exact ((keptFrom_ordered _ _ _).1 piece mem).1
          · rcases List.mem_cons.1 mem with rfl | mem
            · exact hentry
            · have := hlow piece mem
              omega
        · rw [List.pairwise_append, List.pairwise_cons]
          refine ⟨(keptFrom_ordered _ _ _).2, ⟨?_, hordered⟩, ?_⟩
          · intro piece mem
            have := hlow piece mem
            have hentry' : max span.start start ≤ min span.stop stop := by omega
            exact hentry'.trans this
          · intro piece mem later hlater
            have hbefore := ((keptFrom_ordered start _ _).1 piece mem).2
            rcases List.mem_cons.1 hlater with rfl | hlater
            · exact hbefore.le
            · have := hlow later hlater
              omega

end Pieces

/-! ## Writing -/

section Writing

variable {span : Span Λ} {spans : List (Span Λ)} {start stop cursor p : ℕ} {text : List α}
  {marker : Λ → List α}

/-- Kept positions are written as the text between them. -/
theorem write_keptFrom (text : List α) (marker : Λ → List α) (a b : ℕ) :
    (keptFrom a b).flatMap (Piece.write text marker) = (text.drop a).take (b - a) := by
  rw [keptFrom, List.flatMap_map]
  change (List.range' a (b - a)).flatMap (fun p ↦ text[p]?.toList) = _
  generalize b - a = n
  induction n generalizing a with
  | zero => simp
  | succ n ih =>
      rw [List.range'_succ, List.flatMap_cons, ih]
      by_cases hlt : a < text.length
      · rw [List.drop_eq_getElem_cons hlt, List.take_succ_cons, List.getElem?_eq_getElem hlt]
        rfl
      · have hnone : text[a]? = none := List.getElem?_eq_none (by omega)
        rw [hnone, List.drop_eq_nil_of_le (by omega), List.drop_eq_nil_of_le (by omega)]
        simp

/-- What is written at a position of the part that starts at `start`. -/
def writeAt (text : List α) (marker : Λ → List α) (spans : List (Span Λ)) (start p : ℕ) : List α :=
  match spans.find? fun span ↦ decide (span.Covers p) with
  | none => text[p]?.toList
  | some span => if p = max span.start start then marker span.label else []

theorem writeAt_of_not_covers (h : ¬ span.Covers p) :
    writeAt text marker (span :: spans) start p = writeAt text marker spans start p := by
  simp [writeAt, h]

theorem writeAt_of_covers (h : span.Covers p) : writeAt text marker (span :: spans) start p =
    if p = max span.start start then marker span.label else [] := by
  simp [writeAt, h]

theorem writeAt_of_uncovered (h : ∀ span ∈ spans, ¬ span.Covers p) :
    writeAt text marker spans start p = text[p]?.toList := by
  have hnone : (spans.find? fun span ↦ decide (span.Covers p)) = none := by simpa using h
  rw [writeAt, hnone]

/-- A part that is not empty is written position by position. -/
theorem write_part (h : CursorBefore start stop spans cursor) (lt : start < stop) :
    (piecesFrom start stop spans cursor).flatMap (Piece.write text marker) =
      (List.range' cursor (stop - cursor)).flatMap (writeAt text marker spans start) := by
  have hkept (a b : ℕ) : (keptFrom a b).flatMap (Piece.write text marker) =
      (List.range' a (b - a)).flatMap fun p ↦ text[p]?.toList := by
    rw [keptFrom, List.flatMap_map]
    rfl
  induction spans generalizing cursor with
  | nil => exact hkept cursor stop
  | cons span spans ih =>
      have hnonempty := h.separated.nonempty span List.mem_cons_self
      rw [piecesFrom]
      split_ifs with hskip hbreak
      · rw [ih h.skip]
        apply List.flatMap_congr
        intro p mem
        rw [writeAt_of_not_covers]
        have := h.start_le
        have := (mem_range'_sub.1 mem).1
        rintro ⟨-, hhigh⟩
        omega
      · rw [hkept]
        apply List.flatMap_congr
        intro p mem
        rw [writeAt_of_uncovered]
        have hhigh := (mem_range'_sub.1 mem).2
        intro s hs hcovers
        rcases List.mem_cons.1 hs with rfl | hs
        · exact absurd (hbreak.trans hcovers.1) (not_le.2 hhigh)
        · exact not_covers_of_lt h.separated hs (by omega) hcovers
      · have hoverlaps : span.Overlaps start stop := overlaps_iff.2 ⟨hskip, hbreak⟩
        have hentry := h.before span List.mem_cons_self hoverlaps
        have hstart := h.start_le
        have hinside : max span.start start < min span.stop stop := by omega
        have hbefore : (List.range' cursor (max span.start start - cursor)).flatMap
            (writeAt text marker (span :: spans) start) =
              (List.range' cursor (max span.start start - cursor)).flatMap fun p ↦ text[p]?.toList := by
          apply List.flatMap_congr
          intro p mem
          apply writeAt_of_uncovered
          have hhigh := mem_range'_sub.1 mem
          intro s hs hcovers
          rcases List.mem_cons.1 hs with rfl | hs
          · have := hcovers.1
            omega
          · exact not_covers_of_lt h.separated hs (by omega) hcovers
        have hmark : (List.range' (max span.start start)
            (min span.stop stop - max span.start start)).flatMap
              (writeAt text marker (span :: spans) start) = marker span.label := by
          have hcovers {p : ℕ} (low : max span.start start ≤ p) (high : p < min span.stop stop) :
              span.Covers p := ⟨by omega, by omega⟩
          obtain ⟨n, hn⟩ : ∃ n, min span.stop stop - max span.start start = n + 1 :=
            ⟨min span.stop stop - max span.start start - 1, by omega⟩
          rw [hn, List.range'_succ, List.flatMap_cons, writeAt_of_covers (hcovers le_rfl hinside),
            if_pos rfl, List.flatMap_eq_nil_iff.2, List.append_nil]
          intro p mem
          have hp := List.mem_range'_1.1 mem
          rw [writeAt_of_covers (hcovers (by omega) (by omega)), if_neg (by omega)]
        have hafter : (List.range' (min span.stop stop) (stop - min span.stop stop)).flatMap
            (writeAt text marker (span :: spans) start) =
              (List.range' (min span.stop stop) (stop - min span.stop stop)).flatMap
                (writeAt text marker spans start) := by
          apply List.flatMap_congr
          intro p mem
          apply writeAt_of_not_covers
          have := mem_range'_sub.1 mem
          rintro ⟨-, hhigh⟩
          omega
        rw [List.flatMap_append, hkept, List.flatMap_cons, ih (h.pass hoverlaps),
          range'_split hentry (hinside.le.trans (Nat.min_le_right _ _)),
          range'_split hinside.le (Nat.min_le_right _ _), List.flatMap_append, List.flatMap_append,
          hbefore, hmark, hafter]
        rfl

/-- Spans after a part leave it as it is. -/
theorem piecesFrom_of_after (h : ∀ span ∈ spans, start < span.stop ∧ stop ≤ span.start) :
    piecesFrom start stop spans cursor = keptFrom cursor stop := by
  cases spans with
  | nil => rfl
  | cons span spans =>
      obtain ⟨hstop, hstart⟩ := h span List.mem_cons_self
      rw [piecesFrom, if_neg (not_le.2 hstop), if_pos hstart]

/-- An empty part has the marker of a span that it lies strictly inside of. -/
theorem write_empty_part (separated : Separated spans) :
    (piecesFrom start start spans start).flatMap (Piece.write text marker) =
      match spans.find? fun span ↦ decide (span.Covers start) with
      | none => []
      | some span => if span.start < start then marker span.label else [] := by
  have hkept : (keptFrom start start : List (Piece Λ)) = [] := by simp [keptFrom]
  induction spans with
  | nil => simp [piecesFrom, hkept]
  | cons span spans ih =>
      have hnonempty := separated.nonempty span List.mem_cons_self
      rw [piecesFrom]
      split_ifs with hskip hbreak
      · have hout : ¬ span.Covers start := fun hcovers ↦ absurd hcovers.2 (not_lt.2 hskip)
        rw [ih separated.tail, List.find?_cons_of_neg (by simpa using hout)]
      · rw [hkept, List.flatMap_nil]
        by_cases hcovers : span.Covers start
        · rw [List.find?_cons_of_pos (by simpa using hcovers)]
          exact (if_neg (not_lt.2 hbreak)).symm
        · have hnone : ((span :: spans).find? fun s ↦ decide (s.Covers start)) = none := by
            rw [List.find?_eq_none]
            intro s mem hs
            rcases List.mem_cons.1 mem with rfl | mem
            · exact hcovers (of_decide_eq_true hs)
            · exact not_covers_of_lt separated mem (by omega) (of_decide_eq_true hs)
          rw [hnone]
      · have hcovers : span.Covers start := ⟨(not_le.1 hbreak).le, not_le.1 hskip⟩
        have hrest : piecesFrom start start spans (min span.stop start) = [] := by
          rw [piecesFrom_of_after, Nat.min_eq_right hcovers.2.le, hkept]
          intro s mem
          have := separated.le_of_mem mem
          have := separated.nonempty s (List.mem_cons_of_mem _ mem)
          omega
        rw [hrest, Nat.max_eq_right hcovers.1, hkept, List.find?_cons_of_pos (by simpa using hcovers)]
        simp only [if_pos (not_le.1 hbreak)]
        simp [Piece.write]

/-- A piece, its marker written position by position. -/
def Piece.spread (write : ℕ → List α) : Piece Λ → List α
  | .kept p => write p
  | .marker span => (List.range' span.start (span.stop - span.start)).flatMap write

/-- What is written position by position is written piece by piece. -/
theorem flatMap_spread (write : ℕ → List α) (h : CursorBefore 0 stop spans cursor)
    (inside : ∀ span ∈ spans, span.stop ≤ stop) :
    (piecesFrom 0 stop spans cursor).flatMap (Piece.spread write) =
      (List.range' cursor (stop - cursor)).flatMap write := by
  have hkept (a b : ℕ) : (keptFrom a b : List (Piece Λ)).flatMap (Piece.spread write) =
      (List.range' a (b - a)).flatMap write := by
    rw [keptFrom, List.flatMap_map]
    rfl
  induction spans generalizing cursor with
  | nil => exact hkept cursor stop
  | cons span spans ih =>
      have hnonempty := h.separated.nonempty span List.mem_cons_self
      have hinside := inside span List.mem_cons_self
      have hoverlaps : span.Overlaps 0 stop := ⟨by omega, by omega⟩
      have hentry := h.before span List.mem_cons_self hoverlaps
      rw [Nat.max_zero] at hentry
      rw [piecesFrom, if_neg (by omega), if_neg (by omega), List.flatMap_append, List.flatMap_cons,
        hkept, ih (h.pass hoverlaps) fun s mem ↦ inside s (List.mem_cons_of_mem _ mem), Nat.max_zero,
        Nat.min_eq_left hinside, range'_split hentry (by omega : span.start ≤ stop),
        range'_split hnonempty.le hinside, List.flatMap_append, List.flatMap_append]
      rfl

end Writing

end ReputationKey.Base
