import ReputationKey.Review.DigestIdentity
import ReputationKey.Review.RevisionRuns

/-!
# The law of the material revision over whole histories

Observations and erasures of one review, one transaction after another and in any order. Whatever
came before, the next observation fails on what it brings or moves the revision by the law, and what
erased content left is never shown again.
-/

namespace ReputationKey.Review

open ReputationKey.Base
open ReputationKey.Shared (asciiText)

/-- What happens to the rows of a review. -/
inductive ReviewEvent
  | observe (input : ReviewObservationInput)
  | erase (sourceEpoch expectedSourceRevision : ℕ) (erasure : SourceErasure)

section Histories

variable {δ : Type} [DecidableEq δ] (platform : DigestPlatform δ)

/-- The rows after an event. A transaction that fails rolls back. -/
def ReviewEvent.next (event : ReviewEvent) (s : ReviewTables δ) : ReviewTables δ :=
  match event with
  | .observe input =>
      match persistReviewObservation platform input s with
      | .error _ => s
      | .ok (_, written) => written
  | .erase sourceEpoch expectedSourceRevision erasure =>
      (eraseSourceContent sourceEpoch expectedSourceRevision erasure s).2

/-- The rows after events. -/
def ReviewTables.after (s : ReviewTables δ) (events : List ReviewEvent) : ReviewTables δ :=
  events.foldl (fun rows event ↦ event.next platform rows) s

/-- The stored revision, none of a review that was never observed. -/
def ReviewTables.revision (s : ReviewTables δ) : ℕ :=
  (s.review.map fun row ↦ row.sourceRevision).getD 0

/-- What an observation that is taken in does. -/
structure RevisionLaw (s : ReviewTables δ) (input : ReviewObservationInput)
    (result : PersistedReviewObservation δ) (written : ReviewTables δ) : Prop where
  revision : written.revision = s.revision + (if result.createsMaterialRevision then 1 else 0)
  creates : result.createsMaterialRevision = true ↔
    result.duplicate = false ∧ result.outOfOrder = false ∧
      (s.review = none ∨ result.comparison = .compared .materialChange ∨
        ∃ existing, s.review = some existing ∧ existing.sourceEpoch < input.sourceEpoch)
  duplicate : result.duplicate = true ↔
    (input.sourceEpoch, platform.observationKey input) ∈
      s.observations.map SourceObservationRow.recordedAs
  replayed : result.duplicate = true → written = s
  outOfOrder : result.outOfOrder = true ↔ result.duplicate = false ∧
    ∃ existing, s.review = some existing ∧ isOutOfOrder existing input = true
  ignored : result.outOfOrder = true → written.contents = s.contents ∧
    written.revisions = s.revisions ∧ written.review = s.review.map fun row ↦
      { row with sourceObservationSequence := row.sourceObservationSequence + 1 }
  applied : result.duplicate = false → result.outOfOrder = false →
    (written.review.bind fun row ↦ row.content) = some input.content
  reobserved : ∀ existing content, s.review = some existing → existing.content = some content →
    existing.sourceEpoch = input.sourceEpoch → input.content.rating = content.rating →
      input.content.text = content.text → result.createsMaterialRevision = false
  sequences : ∃ row, written.review = some row ∧
    written.observations.map SourceObservationRow.observationSequence =
      (List.range' 1 row.sourceObservationSequence).reverse

/-- The next observation is refused for what it brings, or stops at the last revision there is a
number for, or follows the law. -/
def ReviewTables.FollowsLaw (s : ReviewTables δ) (input : ReviewObservationInput) : Prop :=
  match persistReviewObservation platform input s with
  | .error error => error.isRefusal = true ∨ s.revision = maxSafeInteger
  | .ok (result, written) => RevisionLaw platform s input result written

variable {platform} {s : ReviewTables δ}

/-! ## One event -/

/-- A property that observations and erasures keep holds after every history. -/
theorem ReviewTables.after_induction {P : ReviewTables δ → Prop} {events : List ReviewEvent}
    (observed : ∀ (s : ReviewTables δ) (input : ReviewObservationInput)
      (result : PersistedReviewObservation δ) (written : ReviewTables δ),
        .observe input ∈ events → s.Consistent platform → P s →
          SourceObservationResult platform s input (.ok (result, written)) → P written)
    (erased : ∀ (s : ReviewTables δ) (sourceEpoch expectedSourceRevision : ℕ) (erasure : SourceErasure),
      .erase sourceEpoch expectedSourceRevision erasure ∈ events → s.Consistent platform → P s →
        P (eraseSourceContent sourceEpoch expectedSourceRevision erasure s).2)
    (consistent : s.Consistent platform) (start : P s) :
    (s.after platform events).Consistent platform ∧ P (s.after platform events) := by
  induction events generalizing s with
  | nil => exact ⟨consistent, start⟩
  | cons event events ih =>
      have hlater (s : ReviewTables δ) := @ih s
        (fun s input result written mem ↦ observed s input result written (.tail event mem))
        fun s sourceEpoch expectedSourceRevision erasure mem ↦
          erased s sourceEpoch expectedSourceRevision erasure (.tail event mem)
      cases event with
      | erase sourceEpoch expectedSourceRevision erasure =>
          exact hlater _ (consistent_eraseSourceContent consistent _ _ _)
            (erased s _ _ _ (.head _) consistent start)
      | observe input =>
          have hresult := persistReviewObservation_result consistent input
          cases hpersist : persistReviewObservation platform input s with
          | error error =>
              have hnext : (ReviewEvent.observe input).next platform s = s := by
                rw [ReviewEvent.next, hpersist]
              rw [ReviewTables.after, List.foldl_cons, hnext]
              exact hlater _ consistent start
          | ok pair =>
              have hnext : (ReviewEvent.observe input).next platform s = pair.2 := by
                rw [ReviewEvent.next, hpersist]
              rw [hpersist] at hresult
              rw [ReviewTables.after, List.foldl_cons, hnext]
              apply hlater _ (hresult.consistent consistent)
              exact observed s input pair.1 pair.2 List.mem_cons_self consistent start hresult

theorem ReviewTables.consistent_after (consistent : s.Consistent platform) (events : List ReviewEvent) :
    (s.after platform events).Consistent platform :=
  (ReviewTables.after_induction (P := fun _ ↦ True) (fun _ _ _ _ _ _ _ _ ↦ trivial)
    (fun _ _ _ _ _ _ _ ↦ trivial) consistent trivial).1

omit [DecidableEq δ] in
/-- The observations of a consistent review that has a row are numbered from one. -/
theorem ReviewTables.Consistent.sequences (consistent : s.Consistent platform)
    {row : ReviewSourceRow δ} (hreview : s.review = some row) :
    s.observations.map SourceObservationRow.observationSequence =
      (List.range' 1 row.sourceObservationSequence).reverse := by
  rw [ReviewTables.Consistent, hreview] at consistent
  exact consistent.sequences

variable {input : ReviewObservationInput} {result : PersistedReviewObservation δ}
  {written : ReviewTables δ}

/-- A taken in observation follows the law. -/
theorem SourceObservationResult.law (h : SourceObservationResult platform s input
    (.ok (result, written)))
    (consistent : s.Consistent platform) : RevisionLaw platform s input result written := by
  have hwritten := h.consistent consistent
  have hsequences (row : ReviewSourceRow δ) (hrow : written.review = some row) :
      ∃ row, written.review = some row ∧
        written.observations.map SourceObservationRow.observationSequence =
          (List.range' 1 row.sourceObservationSequence).reverse :=
    ⟨row, hrow, hwritten.sequences hrow⟩
  cases h with
  | @replayed existing row stored mem same =>
      have hrecorded := List.mem_map.2 ⟨row, mem, same⟩
      constructor
      · rfl
      · simp
      · simp [hrecorded]
      · exact fun _ ↦ rfl
      · simp
      · simp
      · simp
      · exact fun _ _ _ _ _ _ _ ↦ rfl
      · exact hsequences existing stored
  | @outOfOrder existing expiresAt description stored older fresh =>
      constructor
      · simp [ReviewTables.revision, stored]
      · simp
      · simp [fresh]
      · simp
      · simp [stored, older]
      · simp [stored]
      · simp
      · exact fun _ _ _ _ _ _ _ ↦ rfl
      · exact hsequences _ rfl
  | @applied material expiresAt sequence observations revisions scope inOrder compared safe fresh
      takesIn revises =>
      rw [ReviewTables.Consistent] at consistent
      cases hreview : s.review with
      | none =>
          rw [hreview] at compared
          have hfirst := observedMaterial_none compared
          constructor
          · simp [ReviewTables.revision, hreview, hfirst, observedReviewRow]
          · simp [hreview, hfirst]
          · simp [fresh]
          · simp
          · simp [hreview]
          · simp
          · exact fun _ _ ↦ rfl
          · simp [hreview]
          · exact hsequences _ rfl
      | some existing =>
          rw [hreview] at compared consistent
          have hagainst := observedMaterial_some consistent.baseline compared
          have hscope := scope existing hreview
          have horder := inOrder existing hreview
          constructor
          · simp [ReviewTables.revision, hreview, consistent.next_revision compared,
              observedReviewRow]
          · have hchange : isGuestEdit material.comparison = true ↔
                material.comparison = .materialChange := beq_iff_eq
            have hepoch : existing.sourceEpoch ≠ input.sourceEpoch ↔
                existing.sourceEpoch < input.sourceEpoch := by omega
            simp [hreview, hagainst.creates, hchange, hepoch]
          · simp [fresh]
          · simp
          · simp [hreview, horder]
          · simp
          · exact fun _ _ ↦ rfl
          · intro row content hrow hcontent hepoch hrating htext
            rw [hreview] at hrow
            obtain rfl := Option.some.inj hrow
            exact creates_of_head consistent.baseline compared hcontent
              (consistent.digest content hcontent)
              hepoch hrating htext
          · exact hsequences _ rfl

/-- Whatever was observed and erased before, the next observation of a review follows the law: the
revision moves by one exactly for a first observation, a guest's edit and a carry into a new source
epoch, a replay and a late arrival leave the content alone, and reading the head again is no new
revision. -/
theorem material_revision_law {start : ReviewTables δ} (consistent : start.Consistent platform)
    (events : List ReviewEvent) (input : ReviewObservationInput) :
    (start.after platform events).FollowsLaw platform input := by
  have hconsistent := ReviewTables.consistent_after consistent events
  have hresult := persistReviewObservation_result hconsistent input
  rw [ReviewTables.FollowsLaw]
  cases hpersist : persistReviewObservation platform input (start.after platform events) with
  | error error =>
      rw [hpersist] at hresult
      cases hresult with
      | refused named =>
          rcases named with hrefusal | ⟨existing, hreview, hmax⟩
          · exact .inl hrefusal
          · exact .inr (by rw [ReviewTables.revision, hreview, Option.map_some, Option.getD_some, hmax])
  | ok pair =>
      rw [hpersist] at hresult
      exact hresult.law hconsistent

omit [DecidableEq δ] in
theorem ReviewTables.consistent_empty : (ReviewTables.empty : ReviewTables δ).Consistent platform :=
  ⟨rfl, rfl, rfl⟩

end Histories

section Sample

/-- Digests that are the bytes they are taken of. -/
def byteDigests : DigestPlatform (List UInt8) where
  sha256 := id
  normalizeNfc := id
  hexText bytes := bytes.map UInt8.toUInt16

/-- A minute after the start of 1970. -/
def sourceMinute : Instant := ⟨60000, ⟨by decide, by decide⟩⟩

/-- Content with another time of its newest edit. -/
def SourceObservation.editedAt (content : SourceObservation) (time : Instant) : SourceObservation :=
  { content with sourceUpdatedAt := some time }

/-- A read of a review at the minute of its newest edit. -/
def sourceRead (text : Option Text) (time : Instant) (digit : UInt16) : ReviewObservationInput where
  sourceEpoch := 1
  content := (goodObservation text).editedAt time
  contentExpiresAt := some time
  observedAt := time
  observationKey := some (List.replicate 64 digit)
  observationOrigin := some .ongoing
  providerUpdateTimeReported := none
  sameScope := true
  providerIdentityTaken := false

/-- The first read of a review. -/
def firstSourceRead : ReviewObservationInput :=
  sourceRead none (goodObservation none).reviewedAt 48

/-- A read after an edit. -/
def editedSourceRead : ReviewObservationInput := sourceRead (some (asciiText "Good")) sourceMinute 49

/-- An edit that is observed after the content was erased. -/
theorem material_revision_law_edited :
    (persistReviewObservation byteDigests editedSourceRead (ReviewTables.empty.after byteDigests
      [.observe firstSourceRead, .erase 1 1 .sourceExpired])).toBool = true ∧
    (ReviewTables.empty.after byteDigests
      [.observe firstSourceRead, .erase 1 1 .sourceExpired]).FollowsLaw byteDigests editedSourceRead :=
  ⟨by decide +kernel, material_revision_law ReviewTables.consistent_empty _ _⟩

end Sample

end ReputationKey.Review
