import ReputationKey.Review.MaterialRevisionRuns

/-!
# The content of a review over whole histories

Which observed content the rows of a review hold: content that was erased is in no row again unless
it is observed again.
-/

namespace ReputationKey.Review

open ReputationKey.Base

section Content

variable {δ : Type}

/-- The content of the review row. -/
def ReviewTables.content (s : ReviewTables δ) : Option SourceObservation :=
  s.review.bind fun row ↦ row.content

/-- All content in the rows is of one kind. -/
structure ReviewTables.HoldsOnly (platform : DigestPlatform δ) (P : SourceObservation → Prop)
    (s : ReviewTables δ) : Prop where
  review : ∀ content, s.content = some content → P content
  copy : ∀ copy, s.contents = some copy → P copy.content
  observations : ∀ row ∈ s.observations, ∀ content, row.content = some content → P content
  revisions : ∀ row ∈ s.revisions, (row.rating = none ∧ row.normalizedText = none) ∨
    ∃ content, P content ∧ row.rating = some content.rating ∧
      row.normalizedText = (platform.describe content.rating content.text).normalizedText

variable {platform : DigestPlatform δ} {s : ReviewTables δ}

/-! ## Erasures -/

/-- An erased review holds no content at all. -/
theorem holdsOnly_of_erased (consistent : s.Consistent platform)
    {sourceEpoch expectedSourceRevision : ℕ}
    {erasure : SourceErasure}
    (h : (eraseSourceContent sourceEpoch expectedSourceRevision erasure s).1 = true)
    (P : SourceObservation → Prop) :
    (eraseSourceContent sourceEpoch expectedSourceRevision erasure s).2.HoldsOnly platform P := by
  rcases eraseSourceContent_cases s sourceEpoch expectedSourceRevision erasure with
    herased | ⟨row, hreview, herased⟩
  · rw [herased] at h
    cases h
  rw [ReviewTables.Consistent, hreview] at consistent
  rw [herased]
  constructor
  · intro content hcontent
    cases hcontent
  · intro copy hcopy
    cases hcopy
  · rw [List.forall_mem_map]
    intro observation mem content hcontent
    rcases (observation.erased_spec erasure.state).2 with ⟨-, hnone, -⟩ | ⟨hinactive, hsame⟩
    · rw [hnone] at hcontent
      cases hcontent
    · have hstate := consistent.observationContent observation mem
      rw [← hsame, hcontent, Option.isSome_some, hsame, eq_comm, beq_iff_eq] at hstate
      exact absurd hstate hinactive
  · rw [List.forall_mem_map]
    intro revision mem
    apply Or.inl
    rcases (revision.erased_spec erasure.state).2.2 with hnone | ⟨hinactive, hsame⟩
    · exact hnone
    · rw [hsame]
      exact consistent.revisionContent revision mem hinactive

theorem ReviewTables.HoldsOnly.erase {P : SourceObservation → Prop} (h : s.HoldsOnly platform P)
    (consistent : s.Consistent platform) (sourceEpoch expectedSourceRevision : ℕ)
    (erasure : SourceErasure) :
    (eraseSourceContent sourceEpoch expectedSourceRevision erasure s).2.HoldsOnly platform P := by
  rcases eraseSourceContent_cases s sourceEpoch expectedSourceRevision erasure with
    herased | ⟨row, -, herased⟩
  · rw [herased]
    exact h
  · exact holdsOnly_of_erased consistent (by rw [herased]) P

/-! ## Observations -/

variable [DecidableEq δ] {input : ReviewObservationInput} {result : PersistedReviewObservation δ}
  {written : ReviewTables δ}

/-- The described material of an observation, first or later. -/
theorem observedMaterial_description {material : MaterialReviewComparisonResult δ}
    (consistent : s.Consistent platform) (h : observedMaterial platform s.review input = .ok material) :
    material.description = platform.describe input.content.rating input.content.text := by
  rw [ReviewTables.Consistent] at consistent
  cases hreview : s.review with
  | none =>
      rw [hreview] at h
      rw [observedMaterial_none h]
  | some existing =>
      rw [hreview] at h consistent
      exact (observedMaterial_some consistent.baseline h).description

theorem ReviewTables.HoldsOnly.observe {P : SourceObservation → Prop} (h : s.HoldsOnly platform P)
    (consistent : s.Consistent platform)
    (taken : SourceObservationResult platform s input (.ok (result, written))) (new : P input.content) :
    written.HoldsOnly platform P := by
  cases taken with
  | replayed => exact h
  | @outOfOrder existing expiresAt description stored older fresh =>
      constructor
      · intro content hcontent
        apply h.review content
        rw [ReviewTables.content, stored]
        exact hcontent
      · exact h.copy
      · rw [List.forall_mem_cons]
        refine ⟨?_, h.observations⟩
        intro content hcontent
        rw [← Option.some.inj hcontent]
        exact new
      · exact h.revisions
  | @applied material expiresAt sequence observations revisions scope inOrder compared safe fresh
      takesIn revises =>
      have hdescription := observedMaterial_description consistent compared
      constructor
      · intro content hcontent
        rw [← Option.some.inj hcontent]
        exact new
      · intro copy hcopy
        rw [← Option.some.inj hcopy]
        exact new
      · apply takesIn.forall (P := fun row ↦ ∀ content, row.content = some content → P content)
        · exact fun _ hrow ↦ hrow
        · exact h.observations
        · intro content hcontent
          rw [← Option.some.inj hcontent]
          exact new
      · apply revises.forall h.revisions
        · exact .inr ⟨input.content, new, rfl, congrArg (·.normalizedText) hdescription⟩
        · intro row mem
          refine .inr ⟨input.content, new, ?_, ?_⟩
          · rw [restoredRevision]
            split_ifs <;> rfl
          · rw [← hdescription, restoredRevision]
            split_ifs <;> rfl

/-! ## Histories -/

/-- Content that was erased is in no row again, unless it is observed again. -/
theorem erased_content_never_returns {start : ReviewTables δ} (consistent : start.Consistent platform)
    (before later : List ReviewEvent) (sourceEpoch expectedSourceRevision : ℕ) (erasure : SourceErasure)
    (erases : (eraseSourceContent sourceEpoch expectedSourceRevision erasure
      (start.after platform before)).1 = true) :
    ((eraseSourceContent sourceEpoch expectedSourceRevision erasure
      (start.after platform before)).2.after platform later).HoldsOnly platform
        fun content ↦ ∃ input, ReviewEvent.observe input ∈ later ∧ input.content = content := by
  have hbefore := ReviewTables.consistent_after consistent before
  apply And.right
  apply ReviewTables.after_induction
  · intro s input result written mem hs hholds taken
    exact hholds.observe hs taken ⟨input, mem, rfl⟩
  · intro s sourceEpoch expectedSourceRevision erasure _ hs hholds
    exact hholds.erase hs sourceEpoch expectedSourceRevision erasure
  · exact consistent_eraseSourceContent hbefore sourceEpoch expectedSourceRevision erasure
  · exact holdsOnly_of_erased hbefore erases _

/-- Content of a review that was erased and observed again is what was observed since. -/
theorem erased_content_never_returns_edited :
    ((eraseSourceContent 1 1 .providerDeleted
      (ReviewTables.empty.after byteDigests [.observe firstSourceRead])).2.after byteDigests
        [.observe editedSourceRead]).HoldsOnly byteDigests
          fun content ↦ ∃ input, ReviewEvent.observe input ∈ [.observe editedSourceRead] ∧
            input.content = content :=
  erased_content_never_returns ReviewTables.consistent_empty [.observe firstSourceRead] _ _ _ _
    (by decide +kernel)

/-- The review shows content no older than the named content of the named row. -/
def ShowsNoOlder (row : ReviewSourceRow δ) (content : SourceObservation) (s : ReviewTables δ) : Prop :=
  ∃ row' content', s.review = some row' ∧ row'.content = some content' ∧
    (row.sourceEpoch < row'.sourceEpoch ∨ row.sourceEpoch = row'.sourceEpoch ∧
      (providerVersion content).1 ≤ (providerVersion content').1)

/-- As long as only observations come, whatever the order they arrive in, the content that is shown
never goes back to an older edit of its source epoch. -/
theorem shown_content_never_goes_back {start : ReviewTables δ} (consistent : start.Consistent platform)
    (before later : List ReviewEvent) (observes : ∀ event ∈ later, ∃ input, event = .observe input)
    {row : ReviewSourceRow δ} {content : SourceObservation}
    (hreview : (start.after platform before).review = some row)
    (shown : row.content = some content) :
    ShowsNoOlder row content ((start.after platform before).after platform later) := by
  apply And.right
  apply ReviewTables.after_induction
  · rintro s input result written - - ⟨old, former, hold, hformer, hle⟩ taken
    cases taken with
    | replayed => exact ⟨old, former, hold, hformer, hle⟩
    | @outOfOrder existing expiresAt description stored =>
        cases hold.symm.trans stored
        exact ⟨_, former, rfl, hformer, hle⟩
    | @applied material expiresAt sequence observations revisions scope inOrder =>
        refine ⟨_, input.content, rfl, rfl, ?_⟩
        have hscope := scope old hold
        have horder := inOrder old hold
        rw [isOutOfOrder, hformer, Option.any_some, decide_eq_false_iff_not] at horder
        change row.sourceEpoch < input.sourceEpoch ∨ row.sourceEpoch = input.sourceEpoch ∧ _
        simp only [decide_eq_true_eq] at horder
        omega
  · intro s sourceEpoch expectedSourceRevision erasure mem
    obtain ⟨input, hevent⟩ := observes _ mem
    cases hevent
  · exact ReviewTables.consistent_after consistent before
  · exact ⟨row, content, hreview, shown, .inr ⟨rfl, le_refl _⟩⟩

/-- A first read that arrives after the edit. -/
theorem shown_content_never_goes_back_late : ∃ row, ShowsNoOlder row editedSourceRead.content
    ((ReviewTables.empty.after byteDigests [.observe editedSourceRead]).after byteDigests
      [.observe firstSourceRead]) := by
  have hcontent : (ReviewTables.empty.after byteDigests [.observe editedSourceRead]).content =
      some editedSourceRead.content := by rfl
  obtain ⟨row, hreview, hrow⟩ := Option.bind_eq_some_iff.1 hcontent
  refine ⟨row, shown_content_never_goes_back ReviewTables.consistent_empty _ _ ?_ hreview hrow⟩
  exact fun event mem ↦ ⟨_, List.mem_singleton.1 mem⟩

end Content

end ReputationKey.Review
