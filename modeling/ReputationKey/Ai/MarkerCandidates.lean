import ReputationKey.Base.Spans
import ReputationKey.Base.Refusal
import ReputationKey.Guest.Response
import Mathlib.Data.List.Sort

/-!
# Marker candidates of a review's text

The spans the detectors found are sorted and merged in one pass into the intervals that are redacted, or
the text is blocked. Follows `src/src/shared/ai-structured-marker-detectors.ts`; the detectors
themselves are a parameter of the scan.
-/

namespace ReputationKey.Ai

open ReputationKey.Base
open ReputationKey.Review (Text)

/-! ## Source decisions -/

/-- What a detected marker is replaced by. -/
inductive AiDetectedPlaceholder
  | contact
  | address
  | financial
  | identifier
  | secret
  deriving DecidableEq, Repr

/-- The smaller a placeholder's priority, the more it says. -/
def placeholderPriority : AiDetectedPlaceholder → ℕ
  | .secret => 0
  | .financial => 1
  | .identifier => 2
  | .address => 3
  | .contact => 4

/-- A candidate: where a marker starts and ends, and its placeholder. -/
abbrev Candidate := Span AiDetectedPlaceholder

/-- An interval that is redacted. -/
structure AiStructuredMarkerInterval where
  startUtf16 : ℕ
  endUtf16 : ℕ
  scalarLength : ℕ
  placeholder : AiDetectedPlaceholder
  deriving DecidableEq, Repr

/-- Why a text is blocked. -/
inductive AiStructuredMarkerBlockReason
  | invalid_unicode
  | noncanonical_unicode
  | invalid_country
  | profile_mismatch
  | ambiguous_candidate
  | candidate_limit_exceeded
  | input_too_large
  | scanner_unavailable
  deriving DecidableEq, Repr

def maxAiStructuredMarkerCandidates : ℕ := 64

def maxAiStructuredMarkerInputScalars : ℕ := 65536

/-- The number of code points of a text. -/
def countScalars (value : Text) : ℕ := Guest.unicodeCodePointLength value

/-- A part of a text, as `String.prototype.slice` takes it. -/
def slice (text : Text) (start stop : ℕ) : Text := (text.drop start).take (stop - start)

/-- The order in which candidates are merged: by start, the longer first, then by priority. -/
def candidateOrder (left right : Candidate) : ℤ :=
  if left.start ≠ right.start then (left.start : ℤ) - right.start
  else
    let lengthOrder := ((right.stop : ℤ) - right.start) - ((left.stop : ℤ) - left.start)
    if lengthOrder ≠ 0 then lengthOrder
    else (placeholderPriority left.label : ℤ) - placeholderPriority right.label

/-- Merge a candidate into the last of the resolved ones, or put it after them. -/
def mergeCandidate (resolved : List Candidate) (candidate : Candidate) :
    Except AiStructuredMarkerBlockReason (List Candidate) :=
  match resolved.getLast? with
  | none => .ok (resolved ++ [candidate])
  | some prior =>
      if prior.stop ≤ candidate.start then .ok (resolved ++ [candidate])
      else
        let priorContains := prior.start ≤ candidate.start ∧ candidate.stop ≤ prior.stop
        let candidateContains := candidate.start ≤ prior.start ∧ prior.stop ≤ candidate.stop
        let merged (placeholder : AiDetectedPlaceholder) : Candidate :=
          ⟨min prior.start candidate.start, max prior.stop candidate.stop, placeholder⟩
        if prior.label = candidate.label then .ok (resolved.dropLast ++ [merged prior.label])
        else if ¬ priorContains ∧ ¬ candidateContains then .error .ambiguous_candidate
        else .ok (resolved.dropLast ++ [merged
          (if placeholderPriority candidate.label < placeholderPriority prior.label then candidate.label
            else prior.label)])

/-- The candidates in the order in which they are merged. -/
def sortedCandidates (candidates : List Candidate) : List Candidate :=
  candidates.insertionSort fun left right ↦ candidateOrder left right ≤ 0

/-- The intervals of a text's candidates. -/
def resolveCandidates (text : Text) (candidates : List Candidate) :
    Except AiStructuredMarkerBlockReason (List AiStructuredMarkerInterval) := do
  let resolved ← (sortedCandidates candidates).foldlM mergeCandidate []
  if maxAiStructuredMarkerCandidates < resolved.length then .error .candidate_limit_exceeded
  else .ok (resolved.map fun candidate ↦ ⟨candidate.start, candidate.stop,
    countScalars (slice text candidate.start candidate.stop), candidate.label⟩)

/-- The span of an interval. -/
def AiStructuredMarkerInterval.span (interval : AiStructuredMarkerInterval) : Candidate :=
  ⟨interval.startUtf16, interval.endUtf16, interval.placeholder⟩

/-! ## The order of the candidates -/

theorem placeholderPriority_injective {a b : AiDetectedPlaceholder}
    (h : placeholderPriority a = placeholderPriority b) : a = b := by
  cases a <;> cases b <;> first | rfl | cases h

/-- Comparing two candidates is comparing start, length and priority, one after the other. -/
theorem candidateOrder_nonpos {left right : Candidate} : candidateOrder left right ≤ 0 ↔
    left.start < right.start ∨ left.start = right.start ∧ (right.stop < left.stop ∨
      left.stop = right.stop ∧ placeholderPriority left.label ≤ placeholderPriority right.label) := by
  unfold candidateOrder
  simp only
  split_ifs <;> omega

/-- Candidates that come before each other are the same. -/
theorem candidateOrder_antisymm {left right : Candidate} (h : candidateOrder left right ≤ 0)
    (h' : candidateOrder right left ≤ 0) : left = right := by
  rw [candidateOrder_nonpos] at h h'
  obtain ⟨start, stop, label⟩ := left
  obtain ⟨start', stop', label'⟩ := right
  simp only at h h'
  have hlabel : label = label' := placeholderPriority_injective (by omega)
  rw [Span.mk.injEq]
  exact ⟨by omega, by omega, hlabel⟩

theorem sortedCandidates_pairwise (candidates : List Candidate) :
    (sortedCandidates candidates).Pairwise fun left right ↦ candidateOrder left right ≤ 0 := by
  have htotal : Std.Total fun left right : Candidate ↦ candidateOrder left right ≤ 0 := by
    constructor
    intro left right
    simp only [candidateOrder_nonpos]
    omega
  have htrans : IsTrans Candidate fun left right : Candidate ↦ candidateOrder left right ≤ 0 := by
    constructor
    intro a b c
    simp only [candidateOrder_nonpos]
    omega
  exact List.pairwise_insertionSort _ candidates

/-- The candidates are sorted the same way in whatever order they were found. -/
theorem sortedCandidates_of_perm {candidates other : List Candidate} (h : other.Perm candidates) :
    sortedCandidates other = sortedCandidates candidates := by
  apply List.Perm.eq_of_pairwise _ (sortedCandidates_pairwise other)
    (sortedCandidates_pairwise candidates)
  · exact (List.perm_insertionSort _ other).trans (h.trans (List.perm_insertionSort _ candidates).symm)
  · intro left right _ _
    exact candidateOrder_antisymm

/-! ## The merge -/

/-- One step of the merge keeps what holds of the spans so far. -/
theorem mergeCandidate_merges {done resolved resolved' : List Candidate} {candidate : Candidate}
    (h : MergedSoFar placeholderPriority done resolved) (nonempty : candidate.start < candidate.stop)
    (sorted : ∀ c ∈ done, c.start ≤ candidate.start)
    (ok : mergeCandidate resolved candidate = .ok resolved') :
    MergedSoFar placeholderPriority (done ++ [candidate]) resolved' := by
  unfold mergeCandidate at ok
  split at ok
  · next hnone =>
      cases ok
      rw [List.getLast?_eq_none_iff] at hnone
      subst hnone
      exact h.push nonempty nofun
  · next prior hprior =>
      obtain ⟨front, rfl⟩ := List.getLast?_eq_some_iff.1 hprior
      have hlast : prior ∈ front ++ [prior] := by simp
      simp only [List.dropLast_concat] at ok
      split_ifs at ok with hafter hlabel hneither hpriority
      · cases ok
        apply h.push nonempty
        intro span mem
        obtain ⟨-, -, hbefore⟩ := List.pairwise_append.1 h.separated.ordered
        rcases List.mem_append.1 mem with mem | mem
        · have := hbefore span mem prior (List.mem_singleton_self _)
          have := h.separated.nonempty prior hlast
          omega
        · cases List.mem_singleton.1 mem
          exact hafter
      all_goals
        obtain ⟨c, hc, hstarted⟩ := h.started prior hlast
        have hstarts : prior.start ≤ candidate.start := hstarted ▸ sorted c hc
        have hmeets : candidate.start < prior.stop := not_le.1 hafter
        cases ok
      · exact h.extend hstarts hmeets (Or.inl rfl) le_rfl (by rw [hlabel])
      · exact h.extend hstarts hmeets (Or.inr rfl) hpriority.le le_rfl
      · exact h.extend hstarts hmeets (Or.inl rfl) le_rfl (not_lt.1 hpriority)

/-- The merge of sorted candidates keeps what holds of the spans so far. -/
theorem foldlM_merges {rest done resolved resolved' : List Candidate}
    (h : MergedSoFar placeholderPriority done resolved) (nonempty : ∀ c ∈ rest, c.start < c.stop)
    (sorted : (done ++ rest).Pairwise fun a b ↦ a.start ≤ b.start)
    (ok : rest.foldlM mergeCandidate resolved = .ok resolved') :
    MergedSoFar placeholderPriority (done ++ rest) resolved' := by
  induction rest generalizing done resolved with
  | nil =>
      cases ok
      rwa [List.append_nil]
  | cons candidate rest ih =>
      rw [List.foldlM_cons] at ok
      obtain ⟨next, hnext, ok⟩ := ok_of_bind ok
      have hsplit : done ++ candidate :: rest = done ++ [candidate] ++ rest := by simp
      have hbefore : ∀ c ∈ done, c.start ≤ candidate.start := by
        intro c mem
        exact (List.pairwise_append.1 sorted).2.2 c mem candidate List.mem_cons_self
      rw [hsplit] at sorted ⊢
      exact ih (mergeCandidate_merges h (nonempty candidate List.mem_cons_self) hbefore hnext)
        (fun c mem ↦ nonempty c (List.mem_cons_of_mem _ mem)) sorted ok

/-- What is resolved is the merge of the candidates. -/
theorem resolveCandidates_isMerge {text : Text} {candidates : List Candidate}
    {intervals : List AiStructuredMarkerInterval} (nonempty : ∀ c ∈ candidates, c.start < c.stop)
    (ok : resolveCandidates text candidates = .ok intervals) :
    IsMerge placeholderPriority candidates (intervals.map (·.span)) := by
  obtain ⟨resolved, hresolved, ok⟩ := ok_of_bind ok
  split_ifs at ok with hlimit
  cases ok
  have hperm : (sortedCandidates candidates).Perm candidates := List.perm_insertionSort _ candidates
  have hsorted : (([] : List Candidate) ++ sortedCandidates candidates).Pairwise
      fun a b ↦ a.start ≤ b.start := by
    refine (sortedCandidates_pairwise candidates).imp ?_
    intro a b h
    rw [candidateOrder_nonpos] at h
    omega
  have hmerged := foldlM_merges MergedSoFar.nil
    (fun c mem ↦ nonempty c (hperm.mem_iff.1 mem)) hsorted hresolved
  rw [List.nil_append] at hmerged
  have hspans : (resolved.map fun candidate ↦ (⟨candidate.start, candidate.stop,
      countScalars (slice text candidate.start candidate.stop), candidate.label⟩ :
        AiStructuredMarkerInterval)).map (·.span) = resolved := by
    rw [List.map_map]
    exact List.map_id resolved
  rw [hspans]
  exact (hmerged.isMerge fun c mem ↦ nonempty c (hperm.mem_iff.1 mem)).of_perm hperm

/-- The answer does not depend on the order in which the candidates were found. -/
theorem resolveCandidates_of_perm {text : Text} {candidates other : List Candidate}
    (h : other.Perm candidates) : resolveCandidates text other = resolveCandidates text candidates := by
  rw [resolveCandidates, resolveCandidates, sortedCandidates_of_perm h]

end ReputationKey.Ai
