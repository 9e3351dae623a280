import Mathlib.Data.List.Basic
import Mathlib.Order.Nat
import Mathlib.Tactic.Common

/-!
# Spans of positions

Labelled spans, what it means that spans are the merge of others, and what holds while candidates,
taken by their starts, are merged one after the other.
-/

namespace ReputationKey.Base

universe u

variable {Λ : Type u}

/-- A span of positions with a label. -/
structure Span (Λ : Type u) where
  start : ℕ
  stop : ℕ
  label : Λ
  deriving DecidableEq, Repr

namespace Span

/-- Whether a position is in a span. -/
def Covers (span : Span Λ) (p : ℕ) : Prop := span.start ≤ p ∧ p < span.stop

instance (span : Span Λ) (p : ℕ) : Decidable (span.Covers p) := inferInstanceAs (Decidable (_ ∧ _))

/-- Whether a span lies in another. -/
def Within (inner outer : Span Λ) : Prop := outer.start ≤ inner.start ∧ inner.stop ≤ outer.stop

/-- Whether a span has a position in a part of a text. -/
def Overlaps (span : Span Λ) (start stop : ℕ) : Prop := start < span.stop ∧ span.start < stop

instance (span : Span Λ) (start stop : ℕ) : Decidable (span.Overlaps start stop) :=
  inferInstanceAs (Decidable (_ ∧ _))

end Span

/-- Spans in order, none empty and no two with a common position. -/
structure Separated (spans : List (Span Λ)) : Prop where
  nonempty : ∀ span ∈ spans, span.start < span.stop
  ordered : spans.Pairwise fun a b ↦ a.stop ≤ b.start

/-- Spans that are the union of others, each labelled with the first label of those it covers. -/
structure IsMerge (rank : Λ → ℕ) (candidates merged : List (Span Λ)) : Prop where
  separated : Separated merged
  within : ∀ c ∈ candidates, ∃ span ∈ merged, c.Within span
  covered : ∀ p, (∃ span ∈ merged, span.Covers p) ↔ ∃ c ∈ candidates, c.Covers p
  labelled : ∀ span ∈ merged, ∃ c ∈ candidates, c.Within span ∧ c.label = span.label
  first : ∀ span ∈ merged, ∀ c ∈ candidates, c.Within span → rank span.label ≤ rank c.label

/-- In whatever order the candidates are listed. -/
theorem IsMerge.of_perm {rank : Λ → ℕ} {candidates other merged : List (Span Λ)}
    (h : IsMerge rank candidates merged) (perm : candidates.Perm other) : IsMerge rank other merged where
  separated := h.separated
  within c mem := h.within c (perm.mem_iff.2 mem)
  covered p := by
    rw [h.covered p]
    exact exists_congr fun c ↦ and_congr_left fun _ ↦ perm.mem_iff
  labelled span mem := by
    obtain ⟨c, hc, hlabel⟩ := h.labelled span mem
    exact ⟨c, perm.mem_iff.1 hc, hlabel⟩
  first span mem c hc := h.first span mem c (perm.mem_iff.2 hc)

namespace Separated

variable {span : Span Λ} {spans : List (Span Λ)}

theorem tail (h : Separated (span :: spans)) : Separated spans where
  nonempty s mem := h.nonempty s (List.mem_cons_of_mem _ mem)
  ordered := h.ordered.of_cons

theorem le_of_mem (h : Separated (span :: spans)) {later : Span Λ} (mem : later ∈ spans) :
    span.stop ≤ later.start := List.rel_of_pairwise_cons h.ordered mem

/-- A position is in one span at most. -/
theorem eq_of_covers (h : Separated spans) {a b : Span Λ} (ha : a ∈ spans) (hb : b ∈ spans) {p : ℕ}
    (covers : a.Covers p) (covers' : b.Covers p) : a = b := by
  induction spans with
  | nil => cases ha
  | cons span spans ih =>
      obtain ⟨hlow, hhigh⟩ := covers
      obtain ⟨hlow', hhigh'⟩ := covers'
      rcases List.mem_cons.1 ha with hspan | hlater
      · rcases List.mem_cons.1 hb with hspan' | hlater'
        · exact hspan.trans hspan'.symm
        · rw [hspan] at hhigh
          have := h.le_of_mem hlater'
          omega
      · rcases List.mem_cons.1 hb with hspan' | hlater'
        · rw [hspan'] at hhigh'
          have := h.le_of_mem hlater
          omega
        · exact ih h.tail hlater hlater'

end Separated

/-! ## Merging -/

/-- What holds of the spans that candidates, taken by their starts, were merged into so far. -/
structure MergedSoFar (rank : Λ → ℕ) (done merged : List (Span Λ)) : Prop where
  separated : Separated merged
  within : ∀ c ∈ done, ∃ span ∈ merged, c.Within span ∧ rank span.label ≤ rank c.label
  covered : ∀ span ∈ merged, ∀ p, span.Covers p → ∃ c ∈ done, c.Covers p
  labelled : ∀ span ∈ merged, ∃ c ∈ done, c.Within span ∧ c.label = span.label
  started : ∀ span ∈ merged, ∃ c ∈ done, c.start = span.start

namespace MergedSoFar

variable {rank : Λ → ℕ} {done merged front : List (Span Λ)} {candidate prior : Span Λ}

theorem nil : MergedSoFar rank ([] : List (Span Λ)) [] where
  separated := ⟨nofun, List.Pairwise.nil⟩
  within := nofun
  covered := nofun
  labelled := nofun
  started := nofun

/-- All candidates are merged. -/
theorem isMerge (h : MergedSoFar rank done merged) (nonempty : ∀ c ∈ done, c.start < c.stop) :
    IsMerge rank done merged where
  separated := h.separated
  within c mem := by
    obtain ⟨span, hspan, hwithin, -⟩ := h.within c mem
    exact ⟨span, hspan, hwithin⟩
  covered p := by
    constructor
    · rintro ⟨span, mem, hcovers⟩
      exact h.covered span mem p hcovers
    · rintro ⟨c, mem, hlow, hhigh⟩
      obtain ⟨span, hspan, ⟨hstart, hstop⟩, -⟩ := h.within c mem
      exact ⟨span, hspan, hstart.trans hlow, hhigh.trans_le hstop⟩
  labelled := h.labelled
  first span mem c hc hwithin := by
    obtain ⟨other, hother, hinside, hrank⟩ := h.within c hc
    have hpositive := nonempty c hc
    have hsame : span = other := h.separated.eq_of_covers mem hother (p := c.start)
      ⟨hwithin.1, hpositive.trans_le hwithin.2⟩ ⟨hinside.1, hpositive.trans_le hinside.2⟩
    rw [hsame]
    exact hrank

/-- A candidate that starts after every span is a span of its own. -/
theorem push (h : MergedSoFar rank done merged) (nonempty : candidate.start < candidate.stop)
    (after : ∀ span ∈ merged, span.stop ≤ candidate.start) :
    MergedSoFar rank (done ++ [candidate]) (merged ++ [candidate]) where
  separated := by
    constructor
    · intro span mem
      rcases List.mem_append.1 mem with mem | mem
      · exact h.separated.nonempty span mem
      · cases List.mem_singleton.1 mem
        exact nonempty
    · refine List.pairwise_append.2 ⟨h.separated.ordered, List.pairwise_singleton _ _, ?_⟩
      intro span mem last hlast
      cases List.mem_singleton.1 hlast
      exact after span mem
  within c mem := by
    rcases List.mem_append.1 mem with mem | mem
    · obtain ⟨span, hspan, hwithin⟩ := h.within c mem
      exact ⟨span, List.mem_append_left _ hspan, hwithin⟩
    · cases List.mem_singleton.1 mem
      exact ⟨candidate, List.mem_append_right _ mem, ⟨le_rfl, le_rfl⟩, le_rfl⟩
  covered span mem p hcovers := by
    rcases List.mem_append.1 mem with mem | mem
    · obtain ⟨c, hc, hcovers'⟩ := h.covered span mem p hcovers
      exact ⟨c, List.mem_append_left _ hc, hcovers'⟩
    · exact ⟨span, List.mem_append_right _ mem, hcovers⟩
  labelled span mem := by
    rcases List.mem_append.1 mem with mem | mem
    · obtain ⟨c, hc, hlabel⟩ := h.labelled span mem
      exact ⟨c, List.mem_append_left _ hc, hlabel⟩
    · exact ⟨span, List.mem_append_right _ mem, ⟨le_rfl, le_rfl⟩, rfl⟩
  started span mem := by
    rcases List.mem_append.1 mem with mem | mem
    · obtain ⟨c, hc, hstart⟩ := h.started span mem
      exact ⟨c, List.mem_append_left _ hc, hstart⟩
    · exact ⟨span, List.mem_append_right _ mem, rfl⟩

/-- A candidate that starts in the last span is merged with it, under a label of one of both that comes
before neither. -/
theorem extend {label : Λ} (h : MergedSoFar rank done (front ++ [prior]))
    (starts : prior.start ≤ candidate.start) (meets : candidate.start < prior.stop)
    (either : label = prior.label ∨ label = candidate.label)
    (le : rank label ≤ rank prior.label) (le' : rank label ≤ rank candidate.label) :
    MergedSoFar rank (done ++ [candidate])
      (front ++ [⟨min prior.start candidate.start, max prior.stop candidate.stop, label⟩]) := by
  have hlast : prior ∈ front ++ [prior] := by simp
  have hfront {span : Span Λ} (mem : span ∈ front) : span ∈ front ++ [prior] :=
    List.mem_append_left _ mem
  have hstart : min prior.start candidate.start = prior.start := Nat.min_eq_left starts
  rw [hstart]
  constructor
  · constructor
    · intro span mem
      rcases List.mem_append.1 mem with mem | mem
      · exact h.separated.nonempty span (hfront mem)
      · cases List.mem_singleton.1 mem
        have := h.separated.nonempty prior hlast
        exact this.trans_le (Nat.le_max_left _ _)
    · obtain ⟨hordered, -, hbefore⟩ := List.pairwise_append.1 h.separated.ordered
      refine List.pairwise_append.2 ⟨hordered, List.pairwise_singleton _ _, ?_⟩
      intro span mem last hmem
      cases List.mem_singleton.1 hmem
      exact hbefore span mem prior (List.mem_singleton_self _)
  · intro c mem
    rcases List.mem_append.1 mem with mem | mem
    · obtain ⟨span, hspan, hwithin, hrank⟩ := h.within c mem
      rcases List.mem_append.1 hspan with hspan | hspan
      · exact ⟨span, List.mem_append_left _ hspan, hwithin, hrank⟩
      · cases List.mem_singleton.1 hspan
        exact ⟨_, List.mem_append_right _ (List.mem_singleton_self _),
          ⟨hwithin.1, hwithin.2.trans (Nat.le_max_left _ _)⟩, le.trans hrank⟩
    · cases List.mem_singleton.1 mem
      exact ⟨_, List.mem_append_right _ (List.mem_singleton_self _), ⟨starts, Nat.le_max_right _ _⟩, le'⟩
  · intro span mem p hcovers
    rcases List.mem_append.1 mem with mem | mem
    · obtain ⟨c, hc, hcovers'⟩ := h.covered span (hfront mem) p hcovers
      exact ⟨c, List.mem_append_left _ hc, hcovers'⟩
    · cases List.mem_singleton.1 mem
      obtain ⟨hlow, hhigh⟩ := hcovers
      by_cases hprior : p < prior.stop
      · obtain ⟨c, hc, hcovers'⟩ := h.covered prior hlast p ⟨hlow, hprior⟩
        exact ⟨c, List.mem_append_left _ hc, hcovers'⟩
      · have hcandidate : p < candidate.stop := by
          change p < max prior.stop candidate.stop at hhigh
          omega
        exact ⟨candidate, by simp, by omega, hcandidate⟩
  · intro span mem
    rcases List.mem_append.1 mem with mem | mem
    · obtain ⟨c, hc, hlabel⟩ := h.labelled span (hfront mem)
      exact ⟨c, List.mem_append_left _ hc, hlabel⟩
    · cases List.mem_singleton.1 mem
      rcases either with rfl | rfl
      · obtain ⟨c, hc, hwithin, hlabel⟩ := h.labelled prior hlast
        exact ⟨c, List.mem_append_left _ hc, ⟨hwithin.1, hwithin.2.trans (Nat.le_max_left _ _)⟩, hlabel⟩
      · exact ⟨candidate, by simp, ⟨starts, Nat.le_max_right _ _⟩, rfl⟩
  · intro span mem
    rcases List.mem_append.1 mem with mem | mem
    · obtain ⟨c, hc, hstarted⟩ := h.started span (hfront mem)
      exact ⟨c, List.mem_append_left _ hc, hstarted⟩
    · cases List.mem_singleton.1 mem
      obtain ⟨c, hc, hstarted⟩ := h.started prior hlast
      exact ⟨c, List.mem_append_left _ hc, hstarted⟩

end MergedSoFar

end ReputationKey.Base
