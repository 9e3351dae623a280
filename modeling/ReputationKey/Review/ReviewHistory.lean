import ReputationKey.Review.RevisionLaw
import Mathlib.Data.List.Range

/-!
# Histories of a review

Observations and erasures of one review, one transaction after another. The rows stay consistent:
the observations are numbered without gaps, the head has its material revision, and no observation
fails on the rows themselves.
-/

namespace ReputationKey.Review

open ReputationKey.Base

section History

variable {δ : Type}

/-- Under which epoch and key an observation is recorded. -/
def SourceObservationRow.recordedAs (row : SourceObservationRow δ) : ℕ × Text :=
  (row.sourceEpoch, row.observationKey)

variable [DecidableEq δ]

/-- What holds of the rows of a review that was observed. -/
structure HeadConsistent (platform : DigestPlatform δ) (s : ReviewTables δ) (row : ReviewSourceRow δ) :
    Prop where
  revision : 1 ≤ row.sourceRevision ∧ row.sourceRevision ≤ maxSafeInteger
  baseline : row.materialNormalizationVersion.isSome = true
  digest : ∀ content, row.content = some content →
    row.materialNormalizationVersion = some .reviewMaterialV1 →
      row.materialNormalizedDigest =
        some (platform.describe content.rating content.text).normalizedDigest
  sequences : s.observations.map SourceObservationRow.observationSequence =
    (List.range' 1 row.sourceObservationSequence).reverse
  bounded : ∀ revision ∈ s.revisions, revision.revision ≤ row.sourceRevision
  current : ∃ revision ∈ s.revisions, revision.revision = row.sourceRevision ∧
    revision.sourceEpoch = row.sourceEpoch
  observationContent : ∀ observation ∈ s.observations,
    observation.content.isSome = (observation.contentState == .active)
  revisionContent : ∀ revision ∈ s.revisions, revision.contentState ≠ .active →
    revision.rating = none ∧ revision.normalizedText = none

/-- Rows of a review that was never observed, or consistent ones. -/
def ReviewTables.Consistent (platform : DigestPlatform δ) (s : ReviewTables δ) : Prop :=
  match s.review with
  | none => s.observations = [] ∧ s.revisions = [] ∧ s.contents = none
  | some row => HeadConsistent platform s row

/-- Rows of a review that was never observed. -/
def ReviewTables.empty : ReviewTables δ := ⟨none, [], [], none⟩

/-! ## What an observation does -/

/-- An error that refuses an observation, not one of the rows themselves. -/
def ReviewObservationError.isRefusal : ReviewObservationError → Bool
  | .previousRevisionUnsafe | .currentRevisionMissing | .newestObservationMissing
  | .constraintViolated => false
  | _ => true

/-- How the observations of a review take in an applied one: as a new row, or as a read of the
newest row, of which only the expiry moves. -/
inductive TakesIn (platform : DigestPlatform δ) (input : ReviewObservationInput)
    (material : MaterialReviewComparisonResult δ) (expiresAt : Instant) (stored : ℕ)
    (rows : List (SourceObservationRow δ)) : ℕ → List (SourceObservationRow δ) → Prop
  | row : TakesIn platform input material expiresAt stored rows (stored + 1)
      (sourceObservationValues platform input expiresAt (stored + 1) material.materialRevision
        (.compared material.comparison) material.description :: rows)
  | reread (isHead : SourceObservationRow δ → Bool) :
      TakesIn platform input material expiresAt stored rows stored
        (rows.map fun row ↦ if isHead row then { row with contentExpiresAt := expiresAt } else row)

/-- How the material revisions take in an applied observation: as a new row, or in the current one.
-/
inductive Revises (initial : Bool) (input : ReviewObservationInput)
    (material : MaterialReviewComparisonResult δ) (rows : List (MaterialRevisionRow δ)) :
    List (MaterialRevisionRow δ) → Prop
  | creates (created : material.createsMaterialRevision = true)
      (fresh : ∀ row ∈ rows, row.revision ≠ material.materialRevision) :
      Revises initial input material rows (materialRevisionValues initial input material :: rows)
  | restores (kept : material.createsMaterialRevision = false) :
      Revises initial input material rows (rows.map fun row ↦
        if row.revision = material.materialRevision ∧ row.sourceEpoch = input.sourceEpoch then
          restoredRevision input material row
        else row)

/-- What an observation of consistent rows may come to. -/
inductive SourceObservationResult (platform : DigestPlatform δ) (s : ReviewTables δ)
    (input : ReviewObservationInput) :
    Except ReviewObservationError (PersistedReviewObservation δ × ReviewTables δ) → Prop
  | refused {error : ReviewObservationError} (named : error.isRefusal = true ∨
      ∃ existing, s.review = some existing ∧ existing.sourceRevision = maxSafeInteger) :
      SourceObservationResult platform s input (.error error)
  | replayed {existing : ReviewSourceRow δ} {row : SourceObservationRow δ}
      (stored : s.review = some existing) (mem : row ∈ s.observations)
      (same : row.recordedAs = (input.sourceEpoch, platform.observationKey input)) :
      SourceObservationResult platform s input
        (.ok (⟨existing, row.observationSequence, row.materialRevision, row.comparison, false, true,
          false, false⟩, s))
  | outOfOrder {existing : ReviewSourceRow δ} {expiresAt : Instant}
      {description : ReviewMaterialDescription δ} (stored : s.review = some existing)
      (older : isOutOfOrder existing input = true)
      (fresh : (input.sourceEpoch, platform.observationKey input) ∉
        s.observations.map SourceObservationRow.recordedAs) :
      SourceObservationResult platform s input
        (.ok (⟨existing, existing.sourceObservationSequence + 1, max 1 existing.sourceRevision,
            .outOfOrderIgnored, false, false, true, false⟩,
          { s with
            observations := sourceObservationValues platform input expiresAt
              (existing.sourceObservationSequence + 1) (max 1 existing.sourceRevision)
              .outOfOrderIgnored description :: s.observations
            review := some { existing with
              sourceObservationSequence := existing.sourceObservationSequence + 1 } }))
  | applied {material : MaterialReviewComparisonResult δ} {expiresAt : Instant} {sequence : ℕ}
      {observations : List (SourceObservationRow δ)} {revisions : List (MaterialRevisionRow δ)}
      (scope : ∀ existing, s.review = some existing → existing.sourceEpoch ≤ input.sourceEpoch)
      (inOrder : ∀ existing, s.review = some existing → isOutOfOrder existing input = false)
      (compared : observedMaterial platform s.review input = .ok material)
      (safe : material.materialRevision ≤ maxSafeInteger)
      (fresh : (input.sourceEpoch, platform.observationKey input) ∉
        s.observations.map SourceObservationRow.recordedAs)
      (takesIn : TakesIn platform input material expiresAt
        ((s.review.map fun row ↦ row.sourceObservationSequence).getD 0) s.observations sequence
        observations)
      (revises : Revises s.review.isNone input material s.revisions revisions) :
      SourceObservationResult platform s input
        (.ok (⟨observedReviewRow input expiresAt material sequence, sequence,
            material.materialRevision, .compared material.comparison,
            material.createsMaterialRevision, false, false, material.providerRestatement⟩,
          ⟨some (observedReviewRow input expiresAt material sequence), observations, revisions,
            some ⟨input.content, expiresAt, input.sourceEpoch, material.materialRevision⟩⟩))

variable {platform : DigestPlatform δ} {s : ReviewTables δ} {existing : ReviewSourceRow δ}
  {input : ReviewObservationInput} {material : MaterialReviewComparisonResult δ}

omit [DecidableEq δ] in
theorem insertObservation_ok (row : SourceObservationRow δ)
    (sequence : row.observationSequence ∉ s.observations.map SourceObservationRow.observationSequence)
    (key : row.recordedAs ∉ s.observations.map SourceObservationRow.recordedAs)
    (revision : ∃ revision ∈ s.revisions, revision.revision = row.materialRevision)
    (safe : row.observationSequence ≤ maxSafeInteger) :
    insertObservation row s = .ok { s with observations := row :: s.observations } := by
  rw [insertObservation, if_neg]
  rw [Bool.or_eq_true, Bool.or_eq_true, decide_eq_true_eq, not_or, not_or]
  refine ⟨⟨fun hany ↦ ?_, fun hall ↦ ?_⟩, Nat.not_lt.2 safe⟩
  · obtain ⟨other, mem, hsame⟩ := List.any_eq_true.1 hany
    rw [decide_eq_true_eq] at hsame
    rcases hsame with hsequence | ⟨hepoch, hkey⟩
    · exact sequence (List.mem_map.2 ⟨other, mem, hsequence⟩)
    · exact key (List.mem_map.2 ⟨other, mem, Prod.ext hepoch hkey⟩)
  · obtain ⟨revision, mem, hrevision⟩ := revision
    have hne := List.all_eq_true.1 hall revision mem
    rw [decide_eq_true_eq] at hne
    exact hne hrevision

omit [DecidableEq δ] in
theorem insertOrRestoreMaterialRevision_ok (initial : Bool)
    (fresh : material.createsMaterialRevision = true →
      ∀ row ∈ s.revisions, row.revision ≠ material.materialRevision)
    (current : material.createsMaterialRevision = false → ∃ row ∈ s.revisions,
      row.revision = material.materialRevision ∧ row.sourceEpoch = input.sourceEpoch) :
    ∃ revisions, insertOrRestoreMaterialRevision initial input material s = .ok { s with revisions } ∧
      Revises initial input material s.revisions revisions := by
  rw [insertOrRestoreMaterialRevision]
  cases hcreates : material.createsMaterialRevision with
  | true =>
      rw [if_pos rfl, if_neg]
      · exact ⟨_, rfl, .creates hcreates (fresh hcreates)⟩
      · intro hany
        obtain ⟨row, mem, hsame⟩ := List.any_eq_true.1 hany
        rw [decide_eq_true_eq] at hsame
        exact fresh hcreates row mem hsame
  | false =>
      obtain ⟨row, mem, hsame⟩ := current hcreates
      rw [if_neg Bool.false_ne_true, if_pos]
      · exact ⟨_, rfl, .restores hcreates⟩
      · exact List.any_eq_true.2 ⟨row, mem, decide_eq_true hsame⟩

omit [DecidableEq δ] in
/-- The revision that an observation is recorded with is there. -/
theorem Revises.has_revision {initial : Bool} {rows revisions : List (MaterialRevisionRow δ)}
    (h : Revises initial input material rows revisions)
    (current : material.createsMaterialRevision = false → ∃ row ∈ rows,
      row.revision = material.materialRevision ∧ row.sourceEpoch = input.sourceEpoch) :
    ∃ row ∈ revisions, row.revision = material.materialRevision ∧
      row.sourceEpoch = input.sourceEpoch := by
  cases h with
  | creates created fresh => exact ⟨_, List.mem_cons_self, rfl, rfl⟩
  | restores kept =>
      obtain ⟨row, mem, hsame⟩ := current kept
      refine ⟨_, List.mem_map_of_mem mem, ?_⟩
      rw [if_pos hsame, restoredRevision]
      dsimp only
      split_ifs <;> exact hsame

theorem refreshHeadObservation_ok (expiresAt : Instant)
    (written : ReviewTables δ) (h : rereadsHeadObservation platform existing input material s = true)
    (same : written.observations = s.observations) :
    ∃ isHead : SourceObservationRow δ → Bool,
      refreshHeadObservation platform existing input expiresAt written = .ok { written with
        observations := s.observations.map fun row ↦
          if isHead row then { row with contentExpiresAt := expiresAt } else row } := by
  rw [rereadsHeadObservation, Bool.and_eq_true] at h
  obtain ⟨head, hfind, hhead⟩ := (Option.any_eq_true _ _).1 h.2
  rw [decide_eq_true_eq] at hhead
  obtain ⟨mem, hsequence⟩ := RowTable.mem_of_find hfind
  refine ⟨fun row ↦ decide (row.observationSequence = existing.sourceObservationSequence ∧
    row.observationDigest = platform.observationDigest input ∧ row.contentState = .active), ?_⟩
  rw [refreshHeadObservation, same]
  apply if_pos
  exact List.any_eq_true.2 ⟨head, mem, decide_eq_true ⟨hsequence, hhead.1, hhead.2.2.2⟩⟩

/-- An observation that is applied to rows that can take it in. -/
theorem applySourceObservation_result {expiresAt : Instant}
    (scope : ∀ existing, s.review = some existing → existing.sourceEpoch ≤ input.sourceEpoch)
    (inOrder : ∀ existing, s.review = some existing → isOutOfOrder existing input = false)
    (compared : observedMaterial platform s.review input = .ok material)
    (fresh : material.createsMaterialRevision = true →
      ∀ row ∈ s.revisions, row.revision ≠ material.materialRevision)
    (current : material.createsMaterialRevision = false → ∃ row ∈ s.revisions,
      row.revision = material.materialRevision ∧ row.sourceEpoch = input.sourceEpoch)
    (atMax : maxSafeInteger < material.materialRevision →
      ∃ existing, s.review = some existing ∧ existing.sourceRevision = maxSafeInteger)
    (sequence : (s.review.map fun row ↦ row.sourceObservationSequence).getD 0 + 1 ∉
      s.observations.map SourceObservationRow.observationSequence)
    (safe : (s.review.map fun row ↦ row.sourceObservationSequence).getD 0 + 1 ≤ maxSafeInteger)
    (key : (input.sourceEpoch, platform.observationKey input) ∉
      s.observations.map SourceObservationRow.recordedAs) :
    SourceObservationResult platform s input
    (applySourceObservation platform input expiresAt material s) := by
  rw [applySourceObservation]
  by_cases hunsafe : maxSafeInteger < material.materialRevision
  · rw [if_pos hunsafe]
    exact .refused (.inr (atMax hunsafe))
  rw [if_neg hunsafe]
  let stored := (s.review.map fun row ↦ row.sourceObservationSequence).getD 0
  cases hreads : s.review.filter fun existing ↦
      rereadsHeadObservation platform existing input material s with
  | none =>
      let row := observedReviewRow input expiresAt material (stored + 1)
      obtain ⟨revisions, hrevised, hrevises⟩ := insertOrRestoreMaterialRevision_ok s.review.isNone
        (s := { s with review := some row }) fresh current
      obtain ⟨revision, hmem, hrevision, -⟩ := hrevises.has_revision current
      have hinsert := insertObservation_ok
        (sourceObservationValues platform input expiresAt (stored + 1) material.materialRevision
          (.compared material.comparison) material.description)
        (s := { s with review := some row, revisions }) sequence key ⟨revision, hmem, hrevision⟩ safe
      dsimp only [Option.isSome_none, Option.elim_none]
      rw [if_neg Bool.false_ne_true, bind_of_ok hrevised, bind_of_ok hinsert]
      exact .applied scope inOrder compared (Nat.not_lt.1 hunsafe) key .row hrevises
  | some existing =>
      obtain ⟨hreview, hrereads⟩ := Option.filter_eq_some_iff.1 hreads
      let row := observedReviewRow input expiresAt material stored
      obtain ⟨revisions, hrevised, hrevises⟩ := insertOrRestoreMaterialRevision_ok s.review.isNone
        (s := { s with review := some row }) fresh current
      obtain ⟨isHead, hrefresh⟩ := refreshHeadObservation_ok expiresAt
        { s with review := some row, revisions } hrereads rfl
      dsimp only [Option.isSome_some, Option.elim_some]
      rw [if_pos rfl, bind_of_ok hrevised, bind_of_ok hrefresh]
      exact .applied scope inOrder compared (Nat.not_lt.1 hunsafe) key (.reread isHead) hrevises

/-- A lookup of the key is refused, finds nothing of it, or finds the row it is recorded in. -/
theorem findReplayedObservation_cases (existing : ReviewSourceRow δ) (input : ReviewObservationInput)
    (s : ReviewTables δ) :
    (∃ error, findReplayedObservation platform existing input s = .error error ∧
        error.isRefusal = true) ∨
      (findReplayedObservation platform existing input s = .ok none ∧
        (input.sourceEpoch, platform.observationKey input) ∉
          s.observations.map SourceObservationRow.recordedAs) ∨
      ∃ row ∈ s.observations, findReplayedObservation platform existing input s = .ok (some row) ∧
        row.recordedAs = (input.sourceEpoch, platform.observationKey input) := by
  rw [findReplayedObservation]
  cases hfind : s.observations.find? fun row ↦ row.sourceEpoch = input.sourceEpoch ∧
      row.observationKey = platform.observationKey input with
  | none =>
      refine .inr (.inl ⟨rfl, fun mem ↦ ?_⟩)
      obtain ⟨row, hmem, hsame⟩ := List.mem_map.1 mem
      have hnot := List.find?_eq_none.1 hfind row hmem
      rw [decide_eq_true_eq] at hnot
      exact hnot ⟨congrArg Prod.fst hsame, congrArg Prod.snd hsame⟩
  | some row =>
      have hsame := List.find?_some hfind
      rw [decide_eq_true_eq] at hsame
      dsimp only
      split
      · exact .inl ⟨_, rfl, rfl⟩
      · split
        · exact .inl ⟨_, rfl, rfl⟩
        · exact .inr (.inr ⟨row, List.mem_of_find?_eq_some hfind, rfl, Prod.ext hsame.1 hsame.2⟩)

omit [DecidableEq δ] in
/-- The next sequence number is new. -/
theorem HeadConsistent.sequence_fresh {row : ReviewSourceRow δ}
    (h : HeadConsistent platform s row) : row.sourceObservationSequence + 1 ∉
      s.observations.map SourceObservationRow.observationSequence := by
  rw [h.sequences, List.mem_reverse, List.mem_range'_1]
  omega

/-- The revision of an observation is the stored one or the next. -/
theorem HeadConsistent.next_revision (h : HeadConsistent platform s existing)
    (compared : observedMaterial platform (some existing) input = .ok material) :
    material.materialRevision =
      existing.sourceRevision + (if material.createsMaterialRevision then 1 else 0) := by
  rw [(observedMaterial_some h.baseline compared).revision, Nat.max_eq_right h.revision.1]

/-- The revision that an observation keeps is there. -/
theorem HeadConsistent.kept_revision (h : HeadConsistent platform s existing)
    (compared : observedMaterial platform (some existing) input = .ok material)
    (kept : material.createsMaterialRevision = false) : ∃ row ∈ s.revisions,
      row.revision = material.materialRevision ∧ row.sourceEpoch = input.sourceEpoch := by
  have hcreates := (observedMaterial_some h.baseline compared).creates
  have hrevision := h.next_revision compared
  rw [kept, eq_comm, Bool.or_eq_false_iff, decide_eq_false_iff_not, not_not] at hcreates
  rw [kept, if_neg Bool.false_ne_true, add_zero] at hrevision
  obtain ⟨row, hmem, hcurrent, hepoch⟩ := h.current
  exact ⟨row, hmem, hcurrent.trans hrevision.symm, hepoch.trans hcreates.2⟩

/-- The first observation of a review. -/
theorem applySourceObservation_first (hreview : s.review = none)
    (observations : s.observations = []) (revisions : s.revisions = []) (input : ReviewObservationInput)
    (expiresAt : Instant)
    (compared : observedMaterial platform none input = .ok material) :
    SourceObservationResult platform s input
    (applySourceObservation platform input expiresAt material s) := by
  have hfirst := observedMaterial_none compared
  have hone : material.materialRevision = 1 := by rw [hfirst]
  have hmax : 1 ≤ maxSafeInteger := by decide
  apply applySourceObservation_result
  · simp [hreview]
  · simp [hreview]
  · rw [hreview, compared]
  · simp [revisions]
  · intro hkept
    rw [hfirst] at hkept
    cases hkept
  · intro hunsafe
    omega
  · simp [observations]
  · rw [hreview]
    exact hmax
  · simp [observations]

/-- A later observation that is not older than the head. -/
theorem HeadConsistent.applySourceObservation
    (h : HeadConsistent platform s existing) (hreview : s.review = some existing)
    (expiresAt : Instant)
    (scope : existing.sourceEpoch ≤ input.sourceEpoch) (inOrder : isOutOfOrder existing input = false)
    (compared : observedMaterial platform (some existing) input = .ok material)
    (safe : existing.sourceObservationSequence + 1 ≤ maxSafeInteger)
    (fresh : (input.sourceEpoch, platform.observationKey input) ∉
      s.observations.map SourceObservationRow.recordedAs) :
    SourceObservationResult platform s input
      (Review.applySourceObservation platform input expiresAt material s) := by
  have hrevision := h.next_revision compared
  apply applySourceObservation_result
  · intro row hrow
    rw [hreview] at hrow
    rw [← Option.some.inj hrow]
    exact scope
  · intro row hrow
    rw [hreview] at hrow
    rw [← Option.some.inj hrow]
    exact inOrder
  · rw [hreview, compared]
  · intro hcreates row hmem
    have hle := h.bounded row hmem
    rw [hcreates, if_pos rfl] at hrevision
    omega
  · exact h.kept_revision compared
  · intro hunsafe
    have hsafe := h.revision.2
    refine ⟨existing, hreview, ?_⟩
    split_ifs at hrevision <;> omega
  · rw [hreview]
    exact h.sequence_fresh
  · rw [hreview]
    exact safe
  · exact fresh

/-- An observation that is older than the head. -/
theorem HeadConsistent.recordOutOfOrder
    (h : HeadConsistent platform s existing) (hreview : s.review = some existing)
    (material : MaterialReviewComparisonResult δ) (expiresAt : Instant)
    (older : isOutOfOrder existing input = true)
    (safe : existing.sourceObservationSequence + 1 ≤ maxSafeInteger)
    (fresh : (input.sourceEpoch, platform.observationKey input) ∉
      s.observations.map SourceObservationRow.recordedAs) :
    SourceObservationResult platform s input
      (recordOutOfOrderObservation platform existing input expiresAt material s) := by
  obtain ⟨revision, hmem, hcurrent, -⟩ := h.current
  have hrevision : revision.revision = max 1 existing.sourceRevision := by
    rw [hcurrent, Nat.max_eq_right h.revision.1]
  have hinsert := insertObservation_ok (sourceObservationValues platform input expiresAt
      (existing.sourceObservationSequence + 1) (max 1 existing.sourceRevision) .outOfOrderIgnored
      material.description) (s := s) h.sequence_fresh fresh ⟨revision, hmem, hrevision⟩ safe
  rw [recordOutOfOrderObservation, bind_of_ok hinsert]
  exact .outOfOrder hreview older fresh

/-- An observation of a consistent review fails on what it brings, never on the rows. -/
theorem persistReviewObservation_result (h : s.Consistent platform)
    (input : ReviewObservationInput) :
    SourceObservationResult platform s input (persistReviewObservation platform input s) := by
  rw [persistReviewObservation]
  cases hexpires : input.contentExpiresAt with
  | none => exact .refused (.inl rfl)
  | some expiresAt =>
      dsimp only
      by_cases hkey : isHexDigest (platform.observationKey input) = false
      · rw [if_pos hkey]
        exact .refused (.inl rfl)
      rw [if_neg hkey]
      by_cases hscope : (s.review.any fun existing ↦
          !input.sameScope || decide (input.sourceEpoch < existing.sourceEpoch)) = true
      · rw [if_pos hscope]
        exact .refused (.inl rfl)
      rw [if_neg hscope]
      by_cases htaken : input.providerIdentityTaken = true
      · rw [if_pos htaken]
        exact .refused (.inl rfl)
      rw [if_neg htaken]
      rw [ReviewTables.Consistent] at h
      cases hreview : s.review with
      | none =>
          rw [hreview] at h
          dsimp only
          cases hmaterial : observedMaterial platform none input with
          | error error => cases hmaterial
          | ok material =>
              exact applySourceObservation_first hreview h.1 h.2.1 input expiresAt hmaterial
      | some existing =>
          rw [hreview] at h hscope
          dsimp only at h ⊢
          rw [Option.any_some, Bool.or_eq_true, not_or, decide_eq_true_eq, not_lt] at hscope
          rcases findReplayedObservation_cases existing input s with
            ⟨error, hfound, hrefusal⟩ | ⟨hfound, hfresh⟩ | ⟨row, hmem, hfound, hsame⟩ <;> rw [hfound]
          · exact .refused (.inl hrefusal)
          · cases hmaterial : observedMaterial platform (some existing) input with
            | error error =>
                have hoverflow := observedMaterial_error h.baseline h.revision.2 hmaterial
                exact .refused (.inl (by rw [hoverflow]; rfl))
            | ok material =>
                rw [bind_of_ok rfl, bind_of_ok rfl]
                by_cases hsequence : maxSafeInteger < existing.sourceObservationSequence + 1
                · rw [if_pos hsequence]
                  exact .refused (.inl rfl)
                rw [if_neg hsequence]
                cases holder : isOutOfOrder existing input with
                | true =>
                    exact h.recordOutOfOrder hreview material expiresAt holder
                      (Nat.not_lt.1 hsequence) hfresh
                | false =>
                    exact h.applySourceObservation hreview expiresAt hscope.2 holder hmaterial
                      (Nat.not_lt.1 hsequence) hfresh
          · exact .replayed hreview hmem hsame

end History

end ReputationKey.Review
