import ReputationKey.Guest.FactStreams

/-!
# The rating and feedback facts of a response

The lineage columns name the live facts, the feedback fact is live exactly while shared feedback is
stored, and the rating fact is live exactly while the stored rating counts, with that rating, as
long as no integrity decision restores a rating that a correction changed after it was read.
-/

namespace ReputationKey.Guest

open ReputationKey.Base
open ReputationKey.Review (Text)

variable {read s s' : Ledger} {rows : ResponseRows} {moment : Moment}

/-! ## What the rows of a response satisfy -/

/-- The rows of a response: feedback is kept well past the correction window, its source is set
exactly while it is shared, and before a correction a response is as it was submitted. -/
structure RowsInvariant (rows : ResponseRows) : Prop where
  submitted : rows.columns.submittedAt ≠ none
  keptPastWindow : ∀ feedback submittedAt, rows.feedback = some feedback →
    rows.columns.submittedAt = some submittedAt →
    submittedAt + privateFeedbackRetentionMs ≤ feedback.expiresAt
  sourceOfShared : rows.columns.feedbackSourceEventId.isSome =
    (rows.feedback.isSome && rows.columns.textConsent)
  consented : rows.columns.correctionCount = 0 → rows.feedback ≠ none →
    rows.columns.textConsent = true
  asSubmitted : rows.columns.correctionCount = 0 → rows.columns.deletedAt = none →
    rows.columns.rating ≠ none ∧ rows.columns.responseConsent = true
  deletedIsEmpty : rows.columns.deletedAt ≠ none → rows.columns.rating = none

/-- The ledger of a response: no facts before it is submitted, and lineage columns that name the
live ones after. -/
structure LedgerInvariant (s : Ledger) : Prop where
  noFacts : s.rows = none → s.facts = []
  names : ∀ rows, s.rows = some rows → LineageNamesLive rows.columns s.facts
  rows : ∀ rows, s.rows = some rows → RowsInvariant rows

/-- What a later ledger keeps of an earlier one. -/
def Ledger.Follows (p s : Ledger) : Prop :=
  ∀ old, p.rows = some old → ∃ rows, s.rows = some rows ∧
    rows.columns.submittedAt = old.columns.submittedAt ∧
    old.columns.correctionCount ≤ rows.columns.correctionCount ∧
    (rows.columns.deletedAt = none → old.columns.deletedAt = none ∧
      (rows.columns.correctionCount = old.columns.correctionCount →
        rows.columns.rating = old.columns.rating ∧
          rows.columns.responseConsent = old.columns.responseConsent))

/-- A ledger follows itself. -/
theorem Ledger.Follows.refl (s : Ledger) : s.Follows s :=
  fun old hold ↦ ⟨old, hold, rfl, Nat.le_refl _, fun h ↦ ⟨h, fun _ ↦ ⟨rfl, rfl⟩⟩⟩

/-- What follows a ledger that follows another follows it too. -/
theorem Ledger.Follows.trans {p q s : Ledger} (hpq : p.Follows q) (hqs : q.Follows s) :
    p.Follows s := by
  intro old hold
  obtain ⟨mid, hmid, hsubmitted, hcount, hkept⟩ := hpq old hold
  obtain ⟨rows, hrows, hsubmitted', hcount', hkept'⟩ := hqs mid hmid
  refine ⟨rows, hrows, hsubmitted'.trans hsubmitted, hcount.trans hcount', fun hdeleted ↦ ?_⟩
  obtain ⟨hmidDeleted, hsame'⟩ := hkept' hdeleted
  obtain ⟨holdDeleted, hsame⟩ := hkept hmidDeleted
  refine ⟨holdDeleted, fun hcounts ↦ ?_⟩
  have hmidOld : mid.columns.correctionCount = old.columns.correctionCount := by omega
  have hrowsMid : rows.columns.correctionCount = mid.columns.correctionCount := by omega
  exact ⟨(hsame' hrowsMid).1.trans (hsame hmidOld).1, (hsame' hrowsMid).2.trans (hsame hmidOld).2⟩

/-! ## The live rating -/

/-- The rating source is set exactly where the stored rating counts, and the live rating is the
stored one. -/
def RatingCounts (s : Ledger) : Prop :=
  ∀ rows, s.rows = some rows →
    rows.columns.ratingSourceEventId.isSome = isRatingMetricEligible rows.columns ∧
      ∀ f ∈ liveSubmissions true s.facts, f.value = rows.columns.rating

/-- A live rating is a submission of the rating stream. -/
theorem isRating_of_mem_liveSubmissions {facts : List GuestMutationFact} {f : GuestMutationFact}
    (h : f ∈ liveSubmissions true facts) : f.isRating = true ∧ f.isSubmission = true := by
  unfold liveSubmissions at h
  obtain ⟨hlive, hsubmission⟩ := List.mem_filter.1 h
  have hrating := (List.mem_filter.1 (mem_of_mem_liveFacts hlive)).2
  exact ⟨by simpa using hrating, hsubmission⟩

/-- A ledger with a live rating has its source set. -/
theorem source_of_live {columns : GuestResponse} {facts : List GuestMutationFact}
    (names : LineageNamesLive columns facts) {f : GuestMutationFact}
    (h : f ∈ liveSubmissions true facts) : columns.ratingSourceEventId = some f.eventId := by
  have hmem : f.eventId ∈ columns.ratingSourceEventId.toList := by
    rw [← names.rating]
    exact List.mem_map_of_mem h
  simpa using hmem

/-- The rating a submission records is the one submitted. -/
theorem value_of_mem_submissionFacts {response : GuestResponse} {ids : FactIds} {now : Int}
    {f : GuestMutationFact} (hf : f ∈ submissionFacts response ids now)
    (isRating : f.isRating = true) : f.value = response.rating := by
  unfold submissionFacts at hf
  rcases List.mem_append.1 hf with hrating | hfeedback
  · split at hrating
    · next rating hsome =>
        split at hrating
        · rw [List.mem_singleton.1 hrating, hsome]
          rfl
        · cases hrating
    · cases hrating
  · split at hfeedback
    · rw [List.mem_singleton.1 hfeedback] at isRating
      cases isRating
    · cases hfeedback

/-- The rating a correction records is the corrected one; a correction that records none of a
rating that counts leaves it as it was. -/
theorem value_of_correctionFacts {previous corrected : GuestResponse} {ids : FactIds} {now : Int} :
    (∀ f ∈ correctionFacts previous corrected ids now, f.isRating = true →
      f.isSubmission = true → f.value = corrected.rating) ∧
    ((∀ g ∈ correctionFacts previous corrected ids now, g.isRating = false) →
      previous.ratingSourceEventId ≠ none → corrected.rating = previous.rating) := by
  unfold correctionFacts
  refine ⟨fun f hf isRating isSubmission ↦ ?_, fun hnone hsource ↦ ?_⟩
  · rcases List.mem_append.1 hf with hrating | hfeedback
    · unfold correctionRatingFacts at hrating
      split at hrating
      · next rating _ hsome =>
          split at hrating
          · rw [List.mem_singleton.1 hrating, hsome]
            rfl
          · cases hrating
      · rw [List.mem_singleton.1 hrating] at isSubmission
        cases isSubmission
      · cases hrating
    · unfold correctionFeedbackFacts at hfeedback
      split at hfeedback
      · rw [List.mem_singleton.1 hfeedback] at isRating
        cases isRating
      · rw [List.mem_singleton.1 hfeedback] at isRating
        cases isRating
      · cases hfeedback
  · have hnoRating : correctionRatingFacts previous corrected ids
        (corrected.correctedAt.getD now) = [] := by
      rw [List.eq_nil_iff_forall_not_mem]
      intro g hg
      have hfalse := hnone g (List.mem_append_left _ hg)
      have hstep : StreamStep true [] previous.ratingSourceEventId
          (correctionRatingFacts previous { corrected with
            ratingSourceEventId := previous.ratingSourceEventId } ids
            (corrected.correctedAt.getD now)) _ :=
        correctionRatingFacts_step (fun g hg ↦ by cases hg) rfl
      rw [hstep.kind g hg] at hfalse
      cases hfalse
    unfold correctionRatingFacts at hnoRating
    split at hnoRating
    · next rating _ hsome =>
        split at hnoRating
        · cases hnoRating
        · next hsame =>
            rw [Bool.not_eq_true, Bool.or_eq_false_iff, Bool.not_eq_false'] at hsame
            rw [hsome] at hsame ⊢
            cases hprevious : previous.rating with
            | none =>
                rw [hprevious] at hsame
                cases hsame.1
            | some before =>
                rw [hprevious] at hsame
                have hequal : before ≠ .nan ∧ before = rating := by
                  simpa [isSameRating, JsNumber.strictEq] using hsame.1
                rw [hequal.2]
    · cases hnoRating
    · next hnotSome hnotRetracted =>
        obtain ⟨source, hsource'⟩ := Option.ne_none_iff_exists'.1 hsource
        cases heligible : isRatingMetricEligible corrected with
        | false => exact (hnotRetracted source heligible hsource').elim
        | true =>
            obtain ⟨-, ⟨rating, hrating⟩, -⟩ := exists_rating_of_isRatingMetricEligible heligible
            exact (hnotSome rating heligible hrating).elim

/-- The rating an integrity change records is the one it read. -/
theorem value_of_integrityFacts {previous changed : GuestResponse} {ids : FactIds}
    {facts : List GuestMutationFact} (h : integrityFacts previous changed ids = .ok facts) :
    ∀ f ∈ facts, f.isSubmission = true → f.value = changed.rating := by
  intro f hf isSubmission
  unfold integrityFacts at h
  split at h
  · split at h
    · cases h
    · cases h
      rw [List.mem_singleton.1 hf] at isSubmission
      cases isSubmission
  · next rating _ _ hrating =>
      cases h
      rw [List.mem_singleton.1 hf, hrating]
      rfl
  · cases h
    cases hf

/-! ## One step -/

/-- A submission starts the ledger, with what was submitted. -/
theorem submit_step {request : SubmitRequest}
    (h : submit read s request moment = .ok (some s')) (inv : LedgerInvariant s) :
    LedgerInvariant s' ∧ s.rows = none ∧ RatingCounts s' := by
  obtain ⟨created, submitted, hrating, hfeedback, hdeleted, hcount, hgiven, hsubmitted, hcommit⟩ :=
    submit_eq_ok h
  obtain ⟨hgivenRating, hconsent, hsubmittedAt, hfeedbackAt, hdeletedAt, hratingSource,
    hfeedbackSource⟩ := submitResponse_records hsubmitted
  obtain ⟨-, -, -, htext, htextConsent, -, -⟩ := submitResponse_eq_ok hsubmitted
  obtain ⟨submittedAt, binding, hsome, hrows, -, rfl⟩ := commitSubmitted_eq_applied hcommit
  rw [hsubmittedAt, Option.some.injEq] at hsome
  subst hsome
  have hnoRating := hratingSource.trans hrating
  have hnoFeedback := hfeedbackSource.trans hfeedback
  have hstep : LedgerStep [] submitted (submissionFacts submitted moment.ids moment.now) _ :=
    submissionFacts_step hnoRating hnoFeedback
  have hlineage :
      (ratingLineage submitted (submissionFacts submitted moment.ids moment.now)).isSome = _ ∧ _ :=
    submissionFacts_lineage hnoRating hnoFeedback moment.now
  have hempty : LineageNamesLive submitted [] :=
    ⟨by rw [hnoRating]; rfl, by rw [hnoFeedback]; rfl⟩
  have hnames := hstep.lineageNamesLive hempty
  rw [inv.noFacts hrows]
  refine ⟨⟨(fun hnone ↦ by cases hnone), fun rows hsame ↦ ?_, fun rows hsame ↦ ?_⟩, hrows,
    fun rows hsame ↦ ?_⟩
  · cases hsame
    exact ⟨hnames.rating, hnames.feedback⟩
  · cases hsame
    refine ⟨by simp [hsubmittedAt], fun feedback submittedAt hsome hsub ↦ ?_, ?_, fun _ hne ↦ ?_,
      fun _ _ ↦ ⟨by rw [hgivenRating]; exact hgiven, hconsent hgiven⟩, fun hne ↦ ?_⟩
    · obtain ⟨text, -, rfl⟩ := Option.map_eq_some_iff.1 hsome
      change submitted.submittedAt = some submittedAt at hsub
      rw [hsubmittedAt, Option.some.injEq] at hsub
      rw [← hsub]
      exact Int.add_le_add_right (Int.le_of_eq hfeedbackAt.symm) privateFeedbackRetentionMs
    · rw [Option.isSome_map]
      exact hlineage.2
    · refine (htextConsent fun hnil ↦ hne ?_).1
      rw [htext, hnil]
      rfl
    · exact absurd (hdeletedAt.trans hdeleted) hne
  · cases hsame
    refine ⟨hlineage.1, fun f hf ↦ ?_⟩
    rcases hstep.live_rating hempty hf with ⟨hnew, hisRating⟩ | ⟨-, hlive⟩
    · show f.value = submitted.rating
      exact value_of_mem_submissionFacts hnew hisRating
    · exact absurd hlive (by simp [liveSubmissions, liveFacts])

/-- Text read at a time inside the correction window is the stored text. -/
theorem readableText_of_window {asOf : Int} (inv : RowsInvariant rows) {submittedAt : Int}
    (submitted : rows.columns.submittedAt = some submittedAt)
    (inWindow : asOf - submittedAt ≤ correctionWindowMs) :
    (rows.readableText asOf).isSome = rows.feedback.isSome := by
  unfold ResponseRows.readableText
  rw [Option.isSome_map]
  cases hfeedback : rows.feedback with
  | none => rfl
  | some feedback =>
      have hkept := inv.keptPastWindow feedback submittedAt hfeedback submitted
      rw [Option.filter_some, if_pos]
      rw [decide_eq_true_eq]
      unfold correctionWindowMs at inWindow
      unfold privateFeedbackRetentionMs at hkept
      omega

/-- What a correction without text keeps of the response. -/
theorem correctResponse_keeps {previous corrected : GuestResponse} {input : GuestResponseInput}
    {now windowMs : Int} (h : correctResponse previous input now windowMs = .ok corrected)
    (noText : input.text = none) :
    corrected.text = previous.text ∧ corrected.correctionCount = 1 ∧
      corrected.integrityOutcome = previous.integrityOutcome ∧
      corrected.ratingSourceEventId = previous.ratingSourceEventId ∧
      corrected.feedbackSourceEventId = previous.feedbackSourceEventId := by
  obtain ⟨-, -, -, -, -, rfl⟩ := correctResponse_eq_ok h
  exact ⟨if_pos noText, rfl, rfl, rfl, rfl⟩

/-- A correction leaves the ledger as its invariant has it, and the live rating is the stored one
if it was. -/
theorem correct_step {sessionId : Nat} {input : GuestResponseInput}
    (h : correct read s sessionId input moment = .ok (some s')) (inv : LedgerInvariant s)
    (invRead : LedgerInvariant read) (follows : read.Follows s)
    (clock : moment.asOf ≤ moment.now) (fresh : moment.ids.FreshIn s.facts) :
    LedgerInvariant s' ∧ s.Follows s' ∧
      (RatingCounts read → RatingCounts s → RatingCounts s') := by
  obtain ⟨old, binding, corrected, hold, htext, hcorrected, hcommit⟩ := correct_eq_ok h
  obtain ⟨-, -, hcount, hwindow, -, -⟩ := correctResponse_eq_ok hcorrected
  obtain ⟨hkeepsText, hcorrectedCount, hkeepsOutcome, hkeepsRating, hkeepsFeedback⟩ :=
    correctResponse_keeps hcorrected htext
  obtain ⟨rows, hrows, -, hsameCount, hsameRating, hsameFeedback, hdeleted, rfl⟩ :=
    commitCorrected_eq_applied hcommit
  set previous := guestResponseFromRow old binding moment.asOf with hprevious
  have invRows := inv.rows rows hrows
  have invOld := invRead.rows old hold
  have hzero : rows.columns.correctionCount = 0 := hsameCount.trans hcount
  obtain ⟨rows', hrows', hsubmitted, hmono, hkept⟩ := follows old hold
  rw [hrows, Option.some.injEq] at hrows'
  subst hrows'
  have holdZero : old.columns.correctionCount = 0 := by omega
  obtain ⟨holdDeleted, hsame⟩ := hkept hdeleted
  obtain ⟨hratingSame, hconsentSame⟩ := hsame (hzero.trans holdZero.symm)
  -- the read and the rows have a feedback source, or feedback, together
  have hfeedbackOld : old.feedback.isSome = rows.feedback.isSome := by
    have hold' := invOld.sourceOfShared
    have hrows' := invRows.sourceOfShared
    rw [hsameFeedback] at hrows'
    change old.columns.feedbackSourceEventId.isSome = _ at hrows'
    rw [hold'] at hrows'
    have hconsentOld := invOld.consented holdZero
    have hconsentRows := invRows.consented hzero
    cases hf : old.feedback <;> cases hg : rows.feedback <;> simp_all
  have htextRead : corrected.text.isSome = rows.feedback.isSome := by
    obtain ⟨submittedAt, hsub⟩ := Option.ne_none_iff_exists'.1 invOld.submitted
    have hin := hwindow submittedAt hsub
    rw [hkeepsText, ← hfeedbackOld]
    exact readableText_of_window invOld hsub (by omega)
  have hlineage := correctionFacts_lineage hkeepsRating hkeepsFeedback fresh moment.now
  have hstep : LedgerStep s.facts previous
      (correctionFacts previous corrected moment.ids moment.now) _ :=
    correctionFacts_step fresh hkeepsRating hkeepsFeedback
  have hnamesBefore : LineageNamesLive previous s.facts :=
    ⟨by rw [← hsameRating]; exact (inv.names rows hrows).rating,
      by rw [← hsameFeedback]; exact (inv.names rows hrows).feedback⟩
  have hnames := hstep.lineageNamesLive hnamesBefore
  refine ⟨⟨(fun hnone ↦ by cases hnone), fun rows' hsome ↦ ?_, fun rows' hsome ↦ ?_⟩, ?_, ?_⟩
  · cases hsome
    exact ⟨hnames.rating, hnames.feedback⟩
  · cases hsome
    refine ⟨invRows.submitted, invRows.keptPastWindow, ?_, fun hc ↦ ?_, fun hc ↦ ?_,
      fun hne ↦ absurd hdeleted hne⟩
    · show (feedbackLineage _ _).isSome = (rows.feedback.isSome && corrected.textConsent)
      rw [hlineage.2, isFeedbackShared, htextRead]
    · exact absurd (hcorrectedCount.symm.trans hc) Nat.one_ne_zero
    · exact absurd (hcorrectedCount.symm.trans hc) Nat.one_ne_zero
  · intro rows' hsome
    rw [hrows, Option.some.injEq] at hsome
    subst hsome
    refine ⟨_, rfl, rfl, ?_, fun _ ↦ ⟨hdeleted, fun hc ↦ ?_⟩⟩
    · show rows.columns.correctionCount ≤ corrected.correctionCount
      omega
    · have hone : corrected.correctionCount = rows.columns.correctionCount := hc
      omega
  · intro countsRead counts rows' hsome
    cases hsome
    obtain ⟨hsourceOld, -⟩ := countsRead old hold
    obtain ⟨hsourceRows, hvalue⟩ := counts rows hrows
    refine ⟨?_, fun f hf ↦ ?_⟩
    · -- the read and the rows count together, so they have the same outcome
      have houtcome : (previous.integrityOutcome == .accepted) =
          (rows.columns.integrityOutcome == .accepted) := by
        have hsources :
            isRatingMetricEligible old.columns = isRatingMetricEligible rows.columns := by
          rw [← hsourceOld, ← hsourceRows, hsameRating]
          rfl
        obtain ⟨hratingSome, hconsentTrue⟩ := invRows.asSubmitted hzero hdeleted
        unfold isRatingMetricEligible at hsources
        rw [← hratingSame, ← hconsentSame, hconsentTrue,
          Option.isSome_iff_ne_none.2 hratingSome] at hsources
        change (old.columns.integrityOutcome == .accepted) = _
        simpa using hsources
      show (ratingLineage _ _).isSome = _
      rw [hlineage.1]
      unfold isRatingMetricEligible
      rw [hkeepsOutcome, houtcome]
    · show f.value = corrected.rating
      rcases hstep.live_rating hnamesBefore hf with ⟨hnew, hisRating⟩ | ⟨hnone, hlive⟩
      · exact value_of_correctionFacts.1 f hnew hisRating (isRating_of_mem_liveSubmissions hf).2
      · have hset : previous.ratingSourceEventId ≠ none := by
          rw [source_of_live hnamesBefore hlive]
          exact Option.some_ne_none _
        rw [value_of_correctionFacts.2 hnone hset, hvalue f hlive, hratingSame]
        rfl

/-- An integrity change leaves the ledger as its invariant has it, and the live rating is the
stored one if it was and a restored rating is the one that was read. -/
theorem changeIntegrity_step {responseId : Nat} {input : IntegrityChangeInput}
    (h : changeIntegrity read s responseId input moment = .ok (some s'))
    (inv : LedgerInvariant s) (fresh : moment.ids.FreshIn s.facts) :
    LedgerInvariant s' ∧ s.Follows s' ∧
      (RatingCounts read → RatingCounts s →
        (input.outcome = .accepted → ∀ old rows, read.rows = some old → s.rows = some rows →
          rows.columns.rating = old.columns.rating ∧
            rows.columns.responseConsent = old.columns.responseConsent) →
        RatingCounts s') := by
  obtain ⟨old, binding, changed, facts, hold, hchanged, hfacts, hcommit⟩ := changeIntegrity_eq_ok h
  obtain ⟨rows, hrows, houtcome, hsameRating, hdeleted, rfl⟩ :=
    commitIntegrityChanged_eq_applied hcommit
  obtain ⟨-, -, hdiffers, hrecord⟩ := changeGuestResponseIntegrity_eq_ok hchanged
  set previous := guestResponseFromRow old binding moment.asOf with hprevious
  have hkeepsRating : changed.ratingSourceEventId = previous.ratingSourceEventId := by rw [hrecord]
  have invRows := inv.rows rows hrows
  have hrating := integrityFacts_step hfacts fresh hkeepsRating
  have hstep : LedgerStep s.facts rows.columns facts
      { rows.columns with ratingSourceEventId := ratingLineage changed facts } :=
    ⟨facts, [], (List.append_nil _).symm, by rw [hsameRating]; exact hrating, .kept⟩
  have hnames := hstep.lineageNamesLive (inv.names rows hrows)
  refine ⟨⟨(fun hnone ↦ by cases hnone), fun rows' hsome ↦ ?_, fun rows' hsome ↦ ?_⟩, ?_, ?_⟩
  · cases hsome
    exact ⟨hnames.rating, hnames.feedback⟩
  · cases hsome
    exact ⟨invRows.submitted, invRows.keptPastWindow, invRows.sourceOfShared, invRows.consented,
      invRows.asSubmitted, invRows.deletedIsEmpty⟩
  · intro rows' hsome
    rw [hrows, Option.some.injEq] at hsome
    subst hsome
    exact ⟨_, rfl, rfl, Nat.le_refl _, fun _ ↦ ⟨hdeleted, fun _ ↦ ⟨rfl, rfl⟩⟩⟩
  · intro countsRead counts restores rows' hsome
    cases hsome
    obtain ⟨hsourceOld, -⟩ := countsRead old hold
    obtain ⟨hsourceRows, hvalue⟩ := counts rows hrows
    have hlineage := integrityFacts_lineage hfacts hkeepsRating hsourceOld
    -- what is decided about counts whatever was read, or finds the rating it read
    have hsame : isRatingMetricEligible changed =
        isRatingMetricEligible
          { rows.columns with integrityOutcome := changed.integrityOutcome } := by
      unfold isRatingMetricEligible
      by_cases haccepted : input.outcome = .accepted
      · obtain ⟨hratingSame, hconsentSame⟩ := restores haccepted old rows hold hrows
        rw [hrecord]
        change (_ && old.columns.rating.isSome && old.columns.responseConsent) =
          (_ && rows.columns.rating.isSome && rows.columns.responseConsent)
        rw [hratingSame, hconsentSame]
      · have hnot : (changed.integrityOutcome == .accepted) = false := by
          rw [hrecord]
          simpa using haccepted
        simp only [hnot, Bool.false_and]
    refine ⟨hlineage.trans hsame, fun f hf ↦ ?_⟩
    show f.value = rows.columns.rating
    rcases hstep.live_rating (inv.names rows hrows) hf with ⟨hnew, hisRating⟩ | ⟨hnone, hlive⟩
    · have hsubmission := (isRating_of_mem_liveSubmissions hf).2
      have hsource : ratingLineage changed facts = some f.eventId := source_of_live hnames hf
      have hset : (ratingLineage changed facts).isSome = true := by
        rw [hsource]
        rfl
      rw [hlineage] at hset
      obtain ⟨haccepted, -, -⟩ := exists_rating_of_isRatingMetricEligible hset
      rw [hrecord] at haccepted
      rw [value_of_integrityFacts hfacts f hnew hsubmission,
        (restores haccepted old rows hold hrows).1, hrecord]
      rfl
    · exact hvalue f hlive

/-- Feedback that is added or withdrawn leaves the rating and its facts alone. -/
theorem feedback_step {columns : GuestResponse} {binding : Option SessionBinding}
    {feedback : Option PrivateFeedbackRow} {fact : GuestMutationFact}
    (inv : LedgerInvariant s) (hrows : s.rows = some rows)
    (after : s' = ⟨some ⟨columns, binding, feedback⟩, fact :: s.facts⟩)
    (isFeedback : fact.isRating = false)
    (step : StreamStep false s.facts rows.columns.feedbackSourceEventId [fact]
      columns.feedbackSourceEventId)
    (keeps : columns.rating = rows.columns.rating ∧
      columns.responseConsent = rows.columns.responseConsent ∧
      columns.integrityOutcome = rows.columns.integrityOutcome ∧
      columns.ratingSourceEventId = rows.columns.ratingSourceEventId ∧
      columns.correctionCount = rows.columns.correctionCount ∧
      columns.submittedAt = rows.columns.submittedAt ∧
      columns.deletedAt = rows.columns.deletedAt)
    (keptPastWindow : ∀ row submittedAt, feedback = some row →
      rows.columns.submittedAt = some submittedAt →
      submittedAt + privateFeedbackRetentionMs ≤ row.expiresAt)
    (sourceOfShared : columns.feedbackSourceEventId.isSome =
      (feedback.isSome && columns.textConsent))
    (consented : feedback ≠ none → columns.textConsent = true) :
    LedgerInvariant s' ∧ s.Follows s' ∧ (RatingCounts s → RatingCounts s') := by
  obtain ⟨hrating, hconsent, houtcome, hsource, hcount, hsubmitted, hdeleted⟩ := keeps
  have invRows := inv.rows rows hrows
  have hstep : LedgerStep s.facts rows.columns [fact] columns :=
    ⟨[], [fact], rfl, by rw [hsource]; exact .kept, step⟩
  have hnames := hstep.lineageNamesLive (inv.names rows hrows)
  subst after
  refine ⟨⟨(fun hnone ↦ by cases hnone), fun rows' hsome ↦ ?_, fun rows' hsome ↦ ?_⟩, ?_, ?_⟩
  · cases hsome
    exact hnames
  · cases hsome
    refine ⟨by rw [hsubmitted]; exact invRows.submitted, ?_, sourceOfShared,
      fun _ ↦ consented, ?_, ?_⟩
    · show ∀ row submittedAt, feedback = some row → columns.submittedAt = some submittedAt → _
      rw [hsubmitted]
      exact keptPastWindow
    · show columns.correctionCount = 0 → columns.deletedAt = none →
        columns.rating ≠ none ∧ columns.responseConsent = true
      rw [hcount, hdeleted, hrating, hconsent]
      exact invRows.asSubmitted
    · show columns.deletedAt ≠ none → columns.rating = none
      rw [hdeleted, hrating]
      exact invRows.deletedIsEmpty
  · intro rows' hsome
    rw [hrows, Option.some.injEq] at hsome
    subst hsome
    refine ⟨_, rfl, hsubmitted, Nat.le_of_eq hcount.symm, fun hnot ↦ ⟨?_, fun _ ↦ ?_⟩⟩
    · exact hdeleted.symm.trans hnot
    · exact ⟨hrating, hconsent⟩
  · intro counts rows' hsome
    cases hsome
    obtain ⟨hsourceRows, hvalue⟩ := counts rows hrows
    refine ⟨?_, fun f hf ↦ ?_⟩
    · show columns.ratingSourceEventId.isSome = isRatingMetricEligible columns
      unfold isRatingMetricEligible
      rw [hsource, houtcome, hrating, hconsent, hsourceRows]
      rfl
    · show f.value = columns.rating
      rw [hrating]
      rcases hstep.live_rating (inv.names rows hrows) hf with ⟨hnew, hisRating⟩ | ⟨-, hlive⟩
      · rw [List.mem_singleton.1 hnew, isFeedback] at hisRating
        cases hisRating
      · exact hvalue f hlive

/-- Added feedback is shared and live. -/
theorem addPrivateFeedback_step {sessionId : Nat} {text : Text} {textConsent : Bool}
    (h : addPrivateFeedback read s sessionId text textConsent moment = .ok (some s'))
    (inv : LedgerInvariant s) (follows : read.Follows s)
    (clock : ∀ rows submittedAt, read.rows = some rows →
      rows.columns.submittedAt = some submittedAt → submittedAt ≤ moment.now)
    (fresh : moment.ids.FreshIn s.facts) :
    LedgerInvariant s' ∧ s.Follows s' ∧ (RatingCounts s → RatingCounts s') := by
  obtain ⟨old, binding, feedbackAdded, hold, hadded, hcommit⟩ := addPrivateFeedback_eq_ok h
  obtain ⟨-, -, -, -, -, -, hrecord⟩ := submitPrivateFeedback_eq_ok hadded
  obtain ⟨rows, body, feedbackSubmittedAt, binding', hrows, hsubmitted, hsource, -, hs'⟩ :=
    commitFeedbackAdded_eq_applied hcommit
  have hnow : moment.now = feedbackSubmittedAt := by
    rw [hrecord] at hsubmitted
    exact Option.some.inj hsubmitted
  have hconsent : feedbackAdded.textConsent = true := by rw [hrecord]
  obtain ⟨rows', hrows', hsubmittedSame, -, -⟩ := follows old hold
  rw [hrows, Option.some.injEq] at hrows'
  subst hrows'
  refine feedback_step inv hrows hs' rfl ?_ ⟨rfl, rfl, rfl, rfl, rfl, rfl, rfl⟩ ?_ ?_
    fun _ ↦ hconsent
  · rw [hsource]
    exact .submitted _ rfl rfl rfl fun g hg ↦ fresh g hg _ (Or.inr rfl)
  · intro row submittedAt hrow hsub
    cases hrow
    rw [hsubmittedSame] at hsub
    have hbefore := clock old submittedAt hold hsub
    show submittedAt + privateFeedbackRetentionMs ≤ feedbackSubmittedAt + _
    omega
  · show true = (true && feedbackAdded.textConsent)
    rw [hconsent]
    rfl

/-- Withdrawn feedback is neither shared nor live. -/
theorem withdrawFeedback_step {sessionId : Nat}
    (h : withdrawFeedback read s sessionId moment = .ok (some s')) (inv : LedgerInvariant s)
    (fresh : moment.ids.FreshIn s.facts) :
    LedgerInvariant s' ∧ s.Follows s' ∧ (RatingCounts s → RatingCounts s') := by
  obtain ⟨previous, withdrawn, hcommit⟩ := withdrawFeedback_eq_ok h
  obtain ⟨rows, source, feedbackWithdrawnAt, hrows, hsource, hs'⟩ :=
    commitFeedbackWithdrawn_eq_applied hcommit
  refine feedback_step inv hrows hs' rfl ?_ ⟨rfl, rfl, rfl, rfl, rfl, rfl, rfl⟩
    (fun row _ hrow ↦ by cases hrow) rfl fun hne ↦ absurd rfl hne
  rw [hsource]
  exact .retracted _ rfl rfl rfl fun g hg ↦ fresh g hg _ (Or.inr rfl)

/-- A withdrawn response has nothing live. -/
theorem withdraw_step {sessionId : Nat} (h : withdraw read s sessionId moment = .ok (some s'))
    (inv : LedgerInvariant s) (fresh : moment.ids.FreshIn s.facts) :
    LedgerInvariant s' ∧ s.Follows s' ∧ RatingCounts s' := by
  obtain ⟨previous, deleted, hdelete, hcommit⟩ := withdraw_eq_ok h
  obtain ⟨-, hrecord⟩ := deleteResponse_eq_ok hdelete
  obtain ⟨rows, hrows, hrating, hfeedback, rfl⟩ := commitWithdrawn_eq_applied hcommit
  have invRows := inv.rows rows hrows
  have hdeletedAt : deleted.deletedAt = some moment.now := by rw [hrecord]
  have hnamesBefore : LineageNamesLive previous s.facts := by
    have hnames := inv.names rows hrows
    refine ⟨hnames.rating.trans ?_, hnames.feedback.trans ?_⟩
    · rw [hrating, hrecord]
    · rw [hfeedback, hrecord]
  have hstep : LedgerStep s.facts previous (withdrawalFacts previous moment.ids moment.now)
      { rows.columns with ratingSourceEventId := none, feedbackSourceEventId := none } :=
    withdrawalFacts_step fresh rfl rfl
  have hnames := hstep.lineageNamesLive hnamesBefore
  refine ⟨⟨(fun hnone ↦ by cases hnone), fun rows' hsome ↦ ?_, fun rows' hsome ↦ ?_⟩,
    fun rows' hsome ↦ ?_, fun rows' hsome ↦ ?_⟩
  · cases hsome
    exact ⟨hnames.rating, hnames.feedback⟩
  · cases hsome
    refine ⟨invRows.submitted, (fun _ _ hnone ↦ by cases hnone), rfl,
      fun _ hne ↦ absurd rfl hne, fun _ hnot ↦ ?_, fun _ ↦ rfl⟩
    change deleted.deletedAt = none at hnot
    rw [hdeletedAt] at hnot
    cases hnot
  · rw [hrows, Option.some.injEq] at hsome
    subst hsome
    refine ⟨_, rfl, rfl, Nat.le_refl _, fun hnot ↦ ?_⟩
    change deleted.deletedAt = none at hnot
    rw [hdeletedAt] at hnot
    cases hnot
  · cases hsome
    refine ⟨by simp [isRatingMetricEligible], fun f hf ↦ ?_⟩
    have hnone := source_of_live hnames hf
    cases hnone

/-! ## Every run -/

/-- Whether an integrity decision that makes the rating count finds the rating and the consent it
read; other commands always do. -/
def GuestEvent.findsWhatItRestores (e : GuestEvent) (s : Ledger) : Prop :=
  match e.command with
  | .changeIntegrity _ input =>
      input.outcome = .accepted → ∀ old rows, e.read.rows = some old → s.rows = some rows →
        rows.columns.rating = old.columns.rating ∧
          rows.columns.responseConsent = old.columns.responseConsent
  | _ => True

section Runs

variable {h : List (Move Ledger GuestEvent)}

/-- What every command does, from a ledger and a read that satisfy their invariant. -/
theorem GuestEvent.apply_step {seen : Ledger → Prop} {e : GuestEvent}
    (step : guestSystem.step seen s e s') (inv : LedgerInvariant s)
    (invRead : LedgerInvariant e.read) (follows : e.read.Follows s) :
    LedgerInvariant s' ∧ s.Follows s' ∧
      (RatingCounts e.read → RatingCounts s → e.findsWhatItRestores s → RatingCounts s') := by
  obtain ⟨⟨-, ⟨hclock, hsubmitted⟩, fresh⟩, happly⟩ := step
  obtain ⟨command, read, moment⟩ := e
  cases command with
  | submit request =>
      obtain ⟨inv', hnone, hcounts⟩ := submit_step happly inv
      refine ⟨inv', fun old hold ↦ ?_, fun _ _ _ ↦ hcounts⟩
      rw [hnone] at hold
      cases hold
  | addPrivateFeedback sessionId text textConsent =>
      obtain ⟨inv', hfollows, hcounts⟩ := addPrivateFeedback_step happly inv follows
        (fun rows submittedAt hrows hsub ↦
          Int.le_trans (hsubmitted rows submittedAt hrows hsub) hclock)
        fresh
      exact ⟨inv', hfollows, fun _ counts _ ↦ hcounts counts⟩
  | withdrawFeedback sessionId =>
      obtain ⟨inv', hfollows, hcounts⟩ := withdrawFeedback_step happly inv fresh
      exact ⟨inv', hfollows, fun _ counts _ ↦ hcounts counts⟩
  | correct sessionId input =>
      obtain ⟨inv', hfollows, hcounts⟩ := correct_step happly inv invRead follows hclock fresh
      exact ⟨inv', hfollows, fun countsRead counts _ ↦ hcounts countsRead counts⟩
  | changeIntegrity responseId input => exact changeIntegrity_step happly inv fresh
  | withdraw sessionId =>
      obtain ⟨inv', hfollows, hcounts⟩ := withdraw_step happly inv fresh
      exact ⟨inv', hfollows, fun _ _ _ ↦ hcounts⟩

/-- Every ledger a run has passed through satisfies the invariant and is followed by the present
one, and its rating counts if the decisions of the run found what they restored. -/
theorem ledger_of_seen (r : Run guestSystem h s) {p : Ledger} (seen : Seen h s p) :
    LedgerInvariant p ∧ p.Follows s ∧
      ((∀ m ∈ h, m.event.findsWhatItRestores m.pre) → RatingCounts p) := by
  induction r generalizing p with
  | start start =>
      rcases seen with rfl | ⟨m, hm, -⟩
      · obtain rfl : p = ⟨none, []⟩ := start
        refine ⟨⟨fun _ ↦ rfl, ?_, ?_⟩, .refl _, fun _ ↦ ?_⟩ <;> exact fun _ h ↦ by cases h
      · cases hm
  | @next h s s' e r hstep ih =>
      obtain ⟨inv, -, counts⟩ := ih (.self h s)
      obtain ⟨invRead, follows, countsRead⟩ := ih hstep.1.read
      obtain ⟨inv', follows', counts'⟩ := e.apply_step hstep inv invRead follows
      have hseen : p = s' ∨ Seen h s p := by
        rcases (seen_cons_iff _ _ _ _).1 seen with rfl | hp | hp
        · exact Or.inl rfl
        · exact Or.inr (Or.inl hp)
        · exact Or.inr (Or.inr hp)
      rcases hseen with rfl | hseen
      · refine ⟨inv', .refl _, fun finds ↦ ?_⟩
        have hbefore : ∀ m ∈ h, m.event.findsWhatItRestores m.pre :=
          fun m hm ↦ finds m (List.mem_cons_of_mem _ hm)
        exact counts' (countsRead hbefore) (counts hbefore) (finds _ (List.mem_cons_self ..))
      · obtain ⟨invP, followsP, countsP⟩ := ih hseen
        exact ⟨invP, followsP.trans follows', fun finds ↦
          countsP fun m hm ↦ finds m (List.mem_cons_of_mem _ hm)⟩

/-- A lineage column names at most one live submission, and none exactly where it is empty. -/
theorem live_of_names {facts : List GuestMutationFact} {rating : Bool} {source : Option Nat}
    (names : (liveSubmissions rating facts).map (·.eventId) = source.toList) :
    (liveSubmissions rating facts).length ≤ 1 ∧
      (liveSubmissions rating facts ≠ [] ↔ source.isSome = true) := by
  have hlength : (liveSubmissions rating facts).length = source.toList.length := by
    rw [← names, List.length_map]
  cases source with
  | none =>
      have hnil : liveSubmissions rating facts = [] := List.eq_nil_of_length_eq_zero hlength
      simp [hnil]
  | some id =>
      refine ⟨Nat.le_of_eq hlength, fun _ ↦ rfl, fun _ hnil ↦ ?_⟩
      rw [hnil] at hlength
      cases hlength

/-- The facts of a response over every run of its commands. No rating and no feedback is live
before it is submitted, and at most one of each ever is. The feedback is live exactly while text is
stored with consent. In a run whose integrity decisions find the rating and the consent they
restore, the rating is live exactly while the stored one counts and the response is not deleted,
and has the stored value. -/
theorem facts_agree_with_response (r : Run guestSystem h s) :
    (liveSubmissions true s.facts).length ≤ 1 ∧ (liveSubmissions false s.facts).length ≤ 1 ∧
      (s.rows = none → s.facts = []) ∧
      ∀ rows, s.rows = some rows →
        (liveSubmissions false s.facts ≠ [] ↔
          rows.feedback ≠ none ∧ rows.columns.textConsent = true) ∧
        ((∀ m ∈ h, m.event.findsWhatItRestores m.pre) →
          (liveSubmissions true s.facts ≠ [] ↔
            isRatingMetricEligible rows.columns = true ∧ rows.columns.deletedAt = none) ∧
          ∀ f ∈ liveSubmissions true s.facts, f.value = rows.columns.rating) := by
  obtain ⟨inv, -, counts⟩ := ledger_of_seen r (.self h s)
  have hlength : (liveSubmissions true s.facts).length ≤ 1 ∧
      (liveSubmissions false s.facts).length ≤ 1 := by
    cases hrows : s.rows with
    | none =>
        rw [inv.noFacts hrows]
        exact ⟨Nat.zero_le _, Nat.zero_le _⟩
    | some rows =>
        have hnames := inv.names rows hrows
        exact ⟨(live_of_names hnames.rating).1, (live_of_names hnames.feedback).1⟩
  refine ⟨hlength.1, hlength.2, inv.noFacts, fun rows hrows ↦ ⟨?_, fun finds ↦ ?_⟩⟩
  · rw [(live_of_names (inv.names rows hrows).feedback).2, (inv.rows rows hrows).sourceOfShared,
      Bool.and_eq_true, Option.isSome_iff_ne_none]
  · obtain ⟨hsource, hvalue⟩ := counts finds rows hrows
    refine ⟨?_, hvalue⟩
    rw [(live_of_names (inv.names rows hrows).rating).2, hsource]
    refine ⟨fun heligible ↦ ⟨heligible, ?_⟩, fun heligible ↦ heligible.1⟩
    obtain ⟨-, ⟨rating, hrating⟩, -⟩ := exists_rating_of_isRatingMetricEligible heligible
    cases hdeleted : rows.columns.deletedAt with
    | none => rfl
    | some deletedAt =>
        have hempty := (inv.rows rows hrows).deletedIsEmpty (by simp [hdeleted])
        rw [hrating] at hempty
        cases hempty

end Runs

section Sample

/-- A guest who gives some stars. -/
def sampleStars (rating : ℚ) : GuestResponseInput :=
  ⟨some (some (.finite rating)), none, none, none, none, none⟩

/-- Five stars, in a submission that is assessed as given. -/
def sampleSubmission (outcome : GuestResponseIntegrityOutcome) : GuestCommand :=
  .submit
    { newId := 1
      sessionId := 1
      input := sampleStars 5
      privateFeedbackThreshold := .finite 3
      sessionExpiresAt := none
      retentionDeadline := 0
      assessment := ⟨outcome, "honeypot_signal", "guest.gateway"⟩ }

/-- The rows a submission leaves. -/
def sampleRows (outcome : GuestResponseIntegrityOutcome) (source : Option Nat) : ResponseRows :=
  { columns :=
      { createResponse
          { id := 1
            sessionId := 1
            sessionExpiresAt := 86400000
            retentionDeadline := 0
            capturedAt := 0
            privateFeedbackThreshold := .finite 3
            integrityAssessment := ⟨outcome, "honeypot_signal", "guest.gateway"⟩ } with
        sessionId := none
        sessionExpiresAt := none
        status := .submitted
        rating := some (.finite 5)
        responseConsent := true
        submittedAt := some 0
        ratingSourceEventId := source }
    binding := some ⟨1, 86400000⟩
    feedback := none }

/-- A submission starts a run. -/
theorem sampleSubmission_step (outcome : GuestResponseIntegrityOutcome) (seen : Ledger → Prop)
    (start : seen ⟨none, []⟩) {s' : Ledger}
    (h : submit ⟨none, []⟩ ⟨none, []⟩
      { newId := 1
        sessionId := 1
        input := sampleStars 5
        privateFeedbackThreshold := .finite 3
        sessionExpiresAt := none
        retentionDeadline := 0
        assessment := ⟨outcome, "honeypot_signal", "guest.gateway"⟩ } ⟨0, 0, ⟨1, 2⟩⟩ =
          .ok (some s')) :
    guestSystem.step seen ⟨none, []⟩ ⟨sampleSubmission outcome, ⟨none, []⟩, ⟨0, 0, ⟨1, 2⟩⟩⟩ s' :=
  ⟨⟨start, ⟨Int.le_refl 0, (fun _ _ hrows ↦ by cases hrows)⟩, (fun _ hf ↦ by cases hf)⟩, h⟩

/-- A rating that counts from its submission on is live, with its value. -/
theorem facts_agree_with_response_accepted :
    liveSubmissions true [GuestMutationFact.ratingSubmitted 1 (.finite 5) none 0] ≠ [] ∧
      ∀ f ∈ liveSubmissions true [GuestMutationFact.ratingSubmitted 1 (.finite 5) none 0],
        f.value = some (.finite 5) := by
  have hrun : Run guestSystem
      [⟨⟨none, []⟩, ⟨sampleSubmission .accepted, ⟨none, []⟩, ⟨0, 0, ⟨1, 2⟩⟩⟩,
        ⟨some (sampleRows .accepted (some 1)), [.ratingSubmitted 1 (.finite 5) none 0]⟩⟩]
      ⟨some (sampleRows .accepted (some 1)), [.ratingSubmitted 1 (.finite 5) none 0]⟩ :=
    .next (.start rfl) (sampleSubmission_step _ _ (.self [] _) (by decide +kernel))
  obtain ⟨-, -, -, hrows⟩ := facts_agree_with_response hrun
  have hfinds := (hrows _ rfl).2 fun m hm ↦ by
    rw [List.mem_singleton.1 hm]
    trivial
  exact ⟨hfinds.1.2 (by decide), hfinds.2⟩

/-- The correction to one star. -/
def sampleStarCorrection : GuestEvent :=
  ⟨.correct 1 (sampleStars 1), ⟨some (sampleRows .filteredAutomatically none), []⟩,
    ⟨1, 1, ⟨3, 4⟩⟩⟩

/-- A decision that a rating counts after all, made on the response as it was submitted. -/
def sampleRestoration : GuestEvent :=
  ⟨.changeIntegrity 1 ⟨.accepted, "reviewed_as_genuine", .reviewer, "reviewer-1"⟩,
    ⟨some (sampleRows .filteredAutomatically none), []⟩, ⟨2, 2, ⟨5, 6⟩⟩⟩

/-- The rows the correction leaves. -/
def sampleCorrectedRows : ResponseRows :=
  { sampleRows .filteredAutomatically none with
    columns :=
      { (sampleRows .filteredAutomatically none).columns with
        status := .corrected
        rating := some (.finite 1)
        correctionCount := 1
        correctedAt := some 1 } }

/-- The rows the restoration leaves. -/
def sampleRestoredRows : ResponseRows :=
  { sampleCorrectedRows with
    columns :=
      { sampleCorrectedRows.columns with
        integrityOutcome := .accepted
        integrityReasonCode := "reviewed_as_genuine"
        integrityRevision := 2
        integrityAssessedAt := 2
        ratingSourceEventId := some 5 } }

/-- A rating held back, corrected to one star, and then restored as it was before: five stars count
while one is stored. -/
theorem restored_rating_differs_from_stored :
    ¬ ∀ (h : List (Move Ledger GuestEvent)) (s : Ledger), Run guestSystem h s →
      ∀ rows, s.rows = some rows →
        ∀ f ∈ liveSubmissions true s.facts, f.value = rows.columns.rating := by
  intro agrees
  have hheld : Run guestSystem
      [⟨⟨none, []⟩, ⟨sampleSubmission .filteredAutomatically, ⟨none, []⟩, ⟨0, 0, ⟨1, 2⟩⟩⟩,
        ⟨some (sampleRows .filteredAutomatically none), []⟩⟩]
      ⟨some (sampleRows .filteredAutomatically none), []⟩ :=
    .next (.start rfl) (sampleSubmission_step _ _ (.self [] _) (by decide +kernel))
  have hclock : ∀ rows submittedAt,
      some (sampleRows .filteredAutomatically none) = some rows →
      rows.columns.submittedAt = some submittedAt → submittedAt = 0 := by
    intro rows submittedAt hrows hsubmitted
    cases hrows
    exact (Option.some.inj hsubmitted).symm
  have hcorrected : Run guestSystem (⟨_, sampleStarCorrection, _⟩ :: _)
      ⟨some sampleCorrectedRows, []⟩ := hheld.next
    ⟨⟨.self _ _, ⟨by decide, fun rows submittedAt hrows hsubmitted ↦ by
      rw [hclock rows submittedAt hrows hsubmitted]
      decide⟩, (fun _ hf ↦ by cases hf)⟩, by decide +kernel⟩
  have hrestored : Run guestSystem (⟨_, sampleRestoration, _⟩ :: _)
      ⟨some sampleRestoredRows, [.ratingSubmitted 5 (.finite 5) none 0]⟩ := hcorrected.next
    ⟨⟨Or.inr ⟨_, List.mem_cons_self .., rfl⟩, ⟨by decide, fun rows submittedAt hrows hsubmitted ↦ by
      rw [hclock rows submittedAt hrows hsubmitted]
      decide⟩, (fun _ hf ↦ by cases hf)⟩, by decide +kernel⟩
  have hvalue := agrees _ _ hrestored _ rfl (.ratingSubmitted 5 (.finite 5) none 0) (by decide)
  exact absurd hvalue (by decide)

end Sample

end ReputationKey.Guest
