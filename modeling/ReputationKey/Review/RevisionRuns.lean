import ReputationKey.Review.ReviewHistory

/-!
# Runs of observations and erasures

The rows of a review stay consistent, whatever is observed and erased in whatever order.
-/

namespace ReputationKey.Review

open ReputationKey.Base

section Runs

variable {δ : Type} {platform : DigestPlatform δ} {s : ReviewTables δ}
  {input : ReviewObservationInput} {material : MaterialReviewComparisonResult δ}

/-! ## Observations that are taken in -/

section TakesIn

variable {expiresAt : Instant} {stored sequence : ℕ}
  {rows observations : List (SourceObservationRow δ)}

theorem TakesIn.sequences
    (h : TakesIn platform input material expiresAt stored rows sequence observations)
    (numbered : rows.map SourceObservationRow.observationSequence = (List.range' 1 stored).reverse) :
    observations.map SourceObservationRow.observationSequence = (List.range' 1 sequence).reverse := by
  cases h with
  | row =>
      rw [List.map_cons, numbered, List.range'_concat, List.reverse_append]
      simp [sourceObservationValues, add_comm]
  | reread isHead =>
      rw [List.map_map, ← numbered]
      apply List.map_congr_left
      intro row _
      rw [Function.comp_apply]
      split_ifs <;> rfl

/-- What is told by everything but the expiry holds of the taken in rows if it holds of the new one.
-/
theorem TakesIn.forall
    (h : TakesIn platform input material expiresAt stored rows sequence observations)
    {P : SourceObservationRow δ → Prop}
    (moved : ∀ row, P row → P { row with contentExpiresAt := expiresAt })
    (old : ∀ row ∈ rows, P row)
    (new : P (sourceObservationValues platform input expiresAt (stored + 1) material.materialRevision
      (.compared material.comparison) material.description)) :
    ∀ row ∈ observations, P row := by
  cases h with
  | row =>
      rw [List.forall_mem_cons]
      exact ⟨new, old⟩
  | reread isHead =>
      intro row mem
      obtain ⟨before, hmem, rfl⟩ := List.mem_map.1 mem
      split_ifs
      · exact moved before (old before hmem)
      · exact old before hmem

end TakesIn

/-! ## Revisions -/

section Revises

variable {initial : Bool} {rows revisions : List (MaterialRevisionRow δ)}

theorem restoredRevision_same (input : ReviewObservationInput)
    (material : MaterialReviewComparisonResult δ) (row : MaterialRevisionRow δ) :
    (restoredRevision input material row).revision = row.revision ∧
      (restoredRevision input material row).sourceEpoch = row.sourceEpoch ∧
      (restoredRevision input material row).contentState = .active := by
  rw [restoredRevision]
  split_ifs <;> exact ⟨rfl, rfl, rfl⟩

/-- What holds of the old rows and of the rows that an observation writes. -/
theorem Revises.forall (h : Revises initial input material rows revisions)
    {P : MaterialRevisionRow δ → Prop} (old : ∀ row ∈ rows, P row)
    (new : P (materialRevisionValues initial input material))
    (restored : ∀ row ∈ rows, P (restoredRevision input material row)) :
    ∀ row ∈ revisions, P row := by
  cases h with
  | creates created fresh =>
      rw [List.forall_mem_cons]
      exact ⟨new, old⟩
  | restores kept =>
      intro row mem
      obtain ⟨before, hmem, rfl⟩ := List.mem_map.1 mem
      split_ifs
      · exact restored before hmem
      · exact old before hmem

end Revises

/-! ## Consistent rows -/

/-- An applied observation leaves consistent rows. -/
theorem consistent_of_applied {expiresAt : Instant} {stored sequence : ℕ}
    {observations : List (SourceObservationRow δ)} {revisions : List (MaterialRevisionRow δ)}
    (description : material.description = platform.describe input.content.rating input.content.text)
    (positive : 1 ≤ material.materialRevision) (safe : material.materialRevision ≤ maxSafeInteger)
    (takesIn : TakesIn platform input material expiresAt stored s.observations sequence observations)
    (revises : Revises s.review.isNone input material s.revisions revisions)
    (sequences : s.observations.map SourceObservationRow.observationSequence =
      (List.range' 1 stored).reverse)
    (bounded : ∀ revision ∈ s.revisions, revision.revision ≤ material.materialRevision)
    (current : material.createsMaterialRevision = false → ∃ row ∈ s.revisions,
      row.revision = material.materialRevision ∧ row.sourceEpoch = input.sourceEpoch)
    (observationContent : ∀ observation ∈ s.observations,
      observation.content.isSome = (observation.contentState == .active))
    (revisionContent : ∀ revision ∈ s.revisions, revision.contentState ≠ .active →
      revision.rating = none ∧ revision.normalizedText = none) :
    ReviewTables.Consistent platform
      ⟨some (observedReviewRow input expiresAt material sequence), observations, revisions,
        some ⟨input.content, expiresAt, input.sourceEpoch, material.materialRevision⟩⟩ :=
  { revision := ⟨positive, safe⟩
    baseline := rfl
    digest := by
      intro content hcontent _
      rw [← Option.some.inj hcontent, ← description]
      rfl
    sequences := takesIn.sequences sequences
    bounded := revises.forall bounded (le_refl _) (by
      intro row mem
      rw [(restoredRevision_same input material row).1]
      exact bounded row mem)
    current := revises.has_revision current
    observationContent := takesIn.forall (fun _ h ↦ h) observationContent rfl
    revisionContent := revises.forall revisionContent (fun h ↦ absurd rfl h)
      (fun row _ h ↦ absurd (restoredRevision_same input material row).2.2 h) }

/-! ## Erasures -/

/-- An erasure leaves another review alone and empties the named one. -/
theorem eraseSourceContent_cases (s : ReviewTables δ) (sourceEpoch expectedSourceRevision : ℕ)
    (erasure : SourceErasure) :
    eraseSourceContent sourceEpoch expectedSourceRevision erasure s = (false, s) ∨
      ∃ row, s.review = some row ∧ eraseSourceContent sourceEpoch expectedSourceRevision erasure s =
        (true,
          { review := some
              { row with contentState := erasure.state, content := none, contentExpiresAt := none }
            observations := s.observations.map (SourceObservationRow.erased erasure.state)
            revisions := s.revisions.map (MaterialRevisionRow.erased erasure.state)
            contents := none }) := by
  rw [eraseSourceContent]
  cases hreview : s.review with
  | none => exact .inl rfl
  | some row =>
      dsimp only
      split
      · exact .inr ⟨row, rfl, rfl⟩
      · exact .inl rfl

/-- An erased observation keeps its number, and its content only if it was not active. -/
theorem SourceObservationRow.erased_spec (state : ContentState) (row : SourceObservationRow δ) :
    (row.erased state).observationSequence = row.observationSequence ∧
      ((row.contentState = .active ∧ (row.erased state).content = none ∧
          (row.erased state).contentState = state) ∨
        row.contentState ≠ .active ∧ row.erased state = row) := by
  rw [SourceObservationRow.erased]
  by_cases hactive : row.contentState = .active
  · rw [if_pos hactive]
    exact ⟨rfl, .inl ⟨hactive, rfl, rfl⟩⟩
  · rw [if_neg hactive]
    exact ⟨rfl, .inr ⟨hactive, rfl⟩⟩

/-- An erased revision keeps its number and epoch, and its content only if it was not active. -/
theorem MaterialRevisionRow.erased_spec (state : ContentState) (row : MaterialRevisionRow δ) :
    (row.erased state).revision = row.revision ∧
      (row.erased state).sourceEpoch = row.sourceEpoch ∧
      (((row.erased state).rating = none ∧ (row.erased state).normalizedText = none) ∨
        row.contentState ≠ .active ∧ row.erased state = row) := by
  rw [MaterialRevisionRow.erased]
  by_cases hactive : row.contentState = .active
  · rw [if_pos hactive]
    exact ⟨rfl, rfl, .inl ⟨rfl, rfl⟩⟩
  · rw [if_neg hactive]
    exact ⟨rfl, rfl, .inr ⟨hactive, rfl⟩⟩

/-- An erasure leaves consistent rows. -/
theorem consistent_eraseSourceContent (h : s.Consistent platform)
    (sourceEpoch expectedSourceRevision : ℕ) (erasure : SourceErasure) :
    (eraseSourceContent sourceEpoch expectedSourceRevision erasure s).2.Consistent platform := by
  rcases eraseSourceContent_cases s sourceEpoch expectedSourceRevision erasure with
    herased | ⟨row, hreview, herased⟩
  · rw [herased]
    exact h
  · rw [ReviewTables.Consistent, hreview] at h
    rw [herased]
    have hstate : erasure.state ≠ .active := by cases erasure <;> decide
    exact
      { revision := h.revision
        baseline := h.baseline
        digest := fun content hcontent ↦ by cases hcontent
        sequences := by
          rw [List.map_map, ← h.sequences]
          exact List.map_congr_left fun observation _ ↦ (observation.erased_spec erasure.state).1
        bounded := by
          rw [List.forall_mem_map]
          intro revision hmem
          rw [(revision.erased_spec erasure.state).1]
          exact h.bounded revision hmem
        current := by
          obtain ⟨revision, hmem, hnumber, hepoch⟩ := h.current
          obtain ⟨hsame, hrow, -⟩ := revision.erased_spec erasure.state
          exact ⟨_, List.mem_map_of_mem hmem, hsame.trans hnumber, hrow.trans hepoch⟩
        observationContent := by
          rw [List.forall_mem_map]
          intro observation hmem
          rcases (observation.erased_spec erasure.state).2 with ⟨-, hnone, hafter⟩ | ⟨-, hsame⟩
          · rw [hnone, hafter]
            exact (beq_eq_false_iff_ne.2 hstate).symm
          · rw [hsame]
            exact h.observationContent observation hmem
        revisionContent := by
          rw [List.forall_mem_map]
          intro revision hmem
          rcases (revision.erased_spec erasure.state).2.2 with hnone | ⟨-, hsame⟩
          · exact fun _ ↦ hnone
          · rw [hsame]
            exact h.revisionContent revision hmem }

variable [DecidableEq δ]

/-- An observation leaves consistent rows. -/
theorem SourceObservationResult.consistent {s' : ReviewTables δ}
    {result : PersistedReviewObservation δ} (h : SourceObservationResult platform s input
      (.ok (result, s')))
    (consistent : s.Consistent platform) : s'.Consistent platform := by
  cases h with
  | replayed => exact consistent
  | @outOfOrder existing expiresAt description stored older fresh =>
      rw [ReviewTables.Consistent, stored] at consistent
      exact
        { consistent with
          sequences := by
            rw [List.map_cons, consistent.sequences, List.range'_concat, List.reverse_append]
            simp [sourceObservationValues, add_comm]
          observationContent := by
            rw [List.forall_mem_cons]
            exact ⟨rfl, consistent.observationContent⟩ }
  | @applied material expiresAt sequence observations revisions scope inOrder compared safe fresh
      takesIn revises =>
      rw [ReviewTables.Consistent] at consistent
      cases hreview : s.review with
      | none =>
          rw [hreview] at consistent compared takesIn
          obtain ⟨hobservations, hrevisions, -⟩ := consistent
          have hfirst := observedMaterial_none compared
          apply consistent_of_applied (by rw [hfirst]) (by rw [hfirst]) safe takesIn revises <;>
            simp [hobservations, hrevisions, hfirst]
      | some existing =>
          rw [hreview] at consistent compared takesIn
          have hle : existing.sourceRevision ≤ material.materialRevision := by
            rw [consistent.next_revision compared]
            exact Nat.le_add_right _ _
          exact consistent_of_applied (observedMaterial_some consistent.baseline compared).description
            (consistent.revision.1.trans hle) safe takesIn revises consistent.sequences
            (fun revision hmem ↦ (consistent.bounded revision hmem).trans hle)
            (consistent.kept_revision compared) consistent.observationContent
            consistent.revisionContent

end Runs

end ReputationKey.Review
