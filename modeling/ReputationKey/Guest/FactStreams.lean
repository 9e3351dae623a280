import ReputationKey.Guest.CommandSpec

/-!
# The rating and feedback streams of a ledger

The rating facts and the feedback facts of a response are two streams of superseding facts. A
command adds at most one fact to each, and its lineage column names the one live submission.
-/

namespace ReputationKey.Guest

open ReputationKey.Base
open ReputationKey.Review (Text)

/-- Whether a fact records a rating or feedback rather than taking it back. -/
def GuestMutationFact.isSubmission : GuestMutationFact → Bool
  | .ratingSubmitted _ _ _ _ | .feedbackSubmitted _ _ _ => true
  | .ratingRetracted _ _ _ | .feedbackRetracted _ _ _ _ => false

/-- The rating a fact records. -/
def GuestMutationFact.value : GuestMutationFact → Option JsNumber
  | .ratingSubmitted _ value _ _ => some value
  | _ => none

/-- The live submissions of the rating stream, or of the feedback stream. -/
def liveSubmissions (rating : Bool) (facts : List GuestMutationFact) : List GuestMutationFact :=
  (liveFacts GuestMutationFact.eventId GuestMutationFact.supersedes
    (facts.filter fun f ↦ f.isRating == rating)).filter (·.isSubmission)

/-- What one command adds to a stream whose lineage column holds a source, and what the column
holds after it. -/
inductive StreamStep (rating : Bool) (facts : List GuestMutationFact) (source : Option Nat) :
    List GuestMutationFact → Option Nat → Prop
  | kept : StreamStep rating facts source [] source
  | submitted (f : GuestMutationFact) (kind : f.isRating = rating)
      (isSubmission : f.isSubmission = true) (replaces : f.supersedes = source)
      (fresh : ∀ g ∈ facts, g.eventId ≠ f.eventId ∧ g.supersedes ≠ some f.eventId) :
      StreamStep rating facts source [f] (some f.eventId)
  | retracted (f : GuestMutationFact) (kind : f.isRating = rating)
      (isRetraction : f.isSubmission = false) (takesBack : f.supersedes = source)
      (fresh : ∀ g ∈ facts, g.eventId ≠ f.eventId ∧ g.supersedes ≠ some f.eventId) :
      StreamStep rating facts source [f] none

variable {rating : Bool} {facts new : List GuestMutationFact} {source source' : Option Nat}

/-- A live submission is a fact of the ledger. -/
theorem mem_of_mem_liveSubmissions {f : GuestMutationFact}
    (h : f ∈ liveSubmissions rating facts) : f ∈ facts :=
  List.mem_of_mem_filter (mem_of_mem_liveFacts (List.mem_of_mem_filter h))

/-- Facts of the other stream change nothing. -/
theorem liveSubmissions_congr {facts' : List GuestMutationFact}
    (h : facts.filter (fun f ↦ f.isRating == rating) =
      facts'.filter fun f ↦ f.isRating == rating) :
    liveSubmissions rating facts = liveSubmissions rating facts' := by
  unfold liveSubmissions
  rw [h]

/-- A new fact of the stream leaves itself live, if it is a submission, and nothing of the source
it names. -/
theorem liveSubmissions_cons {f : GuestMutationFact} (kind : f.isRating = rating)
    (names : f.supersedes = source)
    (fresh : ∀ g ∈ facts, g.eventId ≠ f.eventId ∧ g.supersedes ≠ some f.eventId)
    (live : (liveSubmissions rating facts).map (·.eventId) = source.toList) :
    liveSubmissions rating (f :: facts) = if f.isSubmission then [f] else [] := by
  have hsource : ∀ g ∈ liveSubmissions rating facts, source = some g.eventId := by
    intro g hg
    have hmem : g.eventId ∈ source.toList := live ▸ List.mem_map_of_mem hg
    simpa using hmem
  have hnotSelf : f.supersedes ≠ some f.eventId := by
    rw [names]
    intro hself
    have hmem : f.eventId ∈ (liveSubmissions rating facts).map (·.eventId) := by
      rw [live, hself]
      simp
    obtain ⟨g, hg, hid⟩ := List.mem_map.1 hmem
    exact (fresh g (mem_of_mem_liveSubmissions hg)).1 hid
  unfold liveSubmissions
  rw [List.filter_cons_of_pos (by simpa using kind),
    liveFacts_cons (fun g hg ↦ (fresh g (List.mem_of_mem_filter hg)).2) hnotSelf]
  have hrest : ((liveFacts GuestMutationFact.eventId GuestMutationFact.supersedes
      (facts.filter fun f ↦ f.isRating == rating)).filter
        fun g ↦ decide (f.supersedes ≠ some g.eventId)).filter (·.isSubmission) = [] := by
    rw [List.filter_filter, List.filter_eq_nil_iff]
    intro g hg hkeep
    rw [Bool.and_eq_true, decide_eq_true_eq] at hkeep
    refine hkeep.2 ?_
    rw [names]
    exact hsource g (List.mem_filter.2 ⟨hg, hkeep.1⟩)
  rw [List.filter_cons, hrest]

/-- After a command the lineage column names the one live submission: a new one, or the one that
was live before. -/
theorem StreamStep.live (step : StreamStep rating facts source new source')
    (live : (liveSubmissions rating facts).map (·.eventId) = source.toList) :
    (liveSubmissions rating (new.reverse ++ facts)).map (·.eventId) = source'.toList ∧
      ∀ f ∈ liveSubmissions rating (new.reverse ++ facts),
        f ∈ new ∨ (new = [] ∧ f ∈ liveSubmissions rating facts) := by
  cases step with
  | kept => exact ⟨live, fun f hf ↦ Or.inr ⟨rfl, hf⟩⟩
  | submitted f kind isSubmission replaces fresh =>
      have hcons := liveSubmissions_cons kind replaces fresh live
      rw [if_pos isSubmission] at hcons
      rw [List.reverse_singleton, List.singleton_append, hcons]
      exact ⟨rfl, fun g hg ↦ Or.inl hg⟩
  | retracted f kind isRetraction takesBack fresh =>
      have hcons := liveSubmissions_cons kind takesBack fresh live
      rw [isRetraction, if_neg Bool.false_ne_true] at hcons
      rw [List.reverse_singleton, List.singleton_append, hcons]
      exact ⟨rfl, fun g hg ↦ by cases hg⟩

/-- A command's facts, stream by stream. -/
theorem liveSubmissions_append {ratingFacts feedbackFacts : List GuestMutationFact}
    (areRating : ∀ f ∈ ratingFacts, f.isRating = true)
    (areFeedback : ∀ f ∈ feedbackFacts, f.isRating = false) :
    liveSubmissions true ((ratingFacts ++ feedbackFacts).reverse ++ facts) =
        liveSubmissions true (ratingFacts.reverse ++ facts) ∧
      liveSubmissions false ((ratingFacts ++ feedbackFacts).reverse ++ facts) =
        liveSubmissions false (feedbackFacts.reverse ++ facts) := by
  have hrating : feedbackFacts.filter (fun f ↦ f.isRating == true) = [] := by
    rw [List.filter_eq_nil_iff]
    intro f hf
    simp [areFeedback f hf]
  have hfeedback : ratingFacts.filter (fun f ↦ f.isRating == false) = [] := by
    rw [List.filter_eq_nil_iff]
    intro f hf
    simp [areRating f hf]
  constructor <;> apply liveSubmissions_congr <;>
    simp only [List.reverse_append, List.filter_append, List.filter_reverse, hrating, hfeedback,
      List.reverse_nil, List.nil_append, List.append_nil]

/-- The facts a step adds are of its stream. -/
theorem StreamStep.kind (step : StreamStep rating facts source new source') :
    ∀ f ∈ new, f.isRating = rating := by
  cases step with
  | kept => exact fun f hf ↦ by cases hf
  | submitted f kind isSubmission replaces fresh =>
      exact fun g hg ↦ (List.mem_singleton.1 hg) ▸ kind
  | retracted f kind isRetraction takesBack fresh =>
      exact fun g hg ↦ (List.mem_singleton.1 hg) ▸ kind

/-! ## The facts of the commands are such steps -/

variable {previous response : GuestResponse} {ids : FactIds}

/-- New identities of a command, and what they are not. -/
def FactIds.FreshIn (ids : FactIds) (facts : List GuestMutationFact) : Prop :=
  ∀ fact ∈ facts, ∀ newId, newId = ids.rating ∨ newId = ids.feedback →
    fact.eventId ≠ newId ∧ fact.supersedes ≠ some newId

/-- The lineage columns after a command's facts, stream by stream. -/
theorem ratingLineage_append {ratingFacts feedbackFacts : List GuestMutationFact}
    (areFeedback : ∀ f ∈ feedbackFacts, f.isRating = false) :
    ratingLineage response (ratingFacts ++ feedbackFacts) =
      ratingLineage response ratingFacts := by
  unfold ratingLineage
  rw [List.find?_append]
  have hnone : feedbackFacts.find? (·.isRating) = none := by
    rw [List.find?_eq_none]
    intro f hf
    simp [areFeedback f hf]
  rw [hnone, Option.or_none]

/-- The same of the feedback column. -/
theorem feedbackLineage_append {ratingFacts feedbackFacts : List GuestMutationFact}
    (areRating : ∀ f ∈ ratingFacts, f.isRating = true) :
    feedbackLineage response (ratingFacts ++ feedbackFacts) =
      feedbackLineage response feedbackFacts := by
  unfold feedbackLineage
  rw [List.find?_append]
  have hnone : ratingFacts.find? (!·.isRating) = none := by
    rw [List.find?_eq_none]
    intro f hf
    simp [areRating f hf]
  rw [hnone, Option.none_or]

/-- The rating facts of a correction are a step of the rating stream. -/
theorem correctionRatingFacts_step {corrected : GuestResponse} {occurredAt : Int}
    (fresh : ids.FreshIn facts)
    (keeps : corrected.ratingSourceEventId = previous.ratingSourceEventId) :
    StreamStep true facts previous.ratingSourceEventId
      (correctionRatingFacts previous corrected ids occurredAt)
      (ratingLineage corrected (correctionRatingFacts previous corrected ids occurredAt)) := by
  unfold correctionRatingFacts
  split
  · next rating source _ _ hsource =>
      split
      · exact .submitted _ rfl rfl rfl fun g hg ↦ fresh g hg _ (Or.inl rfl)
      · rw [show ratingLineage corrected [] = previous.ratingSourceEventId from keeps]
        exact .kept
  · next source _ _ hsource =>
      rw [hsource]
      exact .retracted _ rfl rfl rfl fun g hg ↦ fresh g hg _ (Or.inl rfl)
  · rw [show ratingLineage corrected [] = previous.ratingSourceEventId from keeps]
    exact .kept

/-- The feedback facts of a correction are a step of the feedback stream. -/
theorem correctionFeedbackFacts_step {corrected : GuestResponse} {occurredAt : Int}
    (fresh : ids.FreshIn facts)
    (keeps : corrected.feedbackSourceEventId = previous.feedbackSourceEventId) :
    StreamStep false facts previous.feedbackSourceEventId
      (correctionFeedbackFacts previous corrected ids occurredAt)
      (feedbackLineage corrected (correctionFeedbackFacts previous corrected ids occurredAt)) := by
  unfold correctionFeedbackFacts
  split
  · next hshared hsource =>
      rw [hsource]
      exact .submitted _ rfl rfl rfl fun g hg ↦ fresh g hg _ (Or.inr rfl)
  · next source hshared hsource =>
      rw [hsource]
      exact .retracted _ rfl rfl rfl fun g hg ↦ fresh g hg _ (Or.inr rfl)
  · rw [show feedbackLineage corrected [] = previous.feedbackSourceEventId from keeps]
    exact .kept

/-- The facts of an integrity change are a step of the rating stream. -/
theorem integrityFacts_step {changed : GuestResponse} (h : integrityFacts previous changed ids =
      .ok new) (fresh : ids.FreshIn facts)
    (keeps : changed.ratingSourceEventId = previous.ratingSourceEventId) :
    StreamStep true facts previous.ratingSourceEventId new (ratingLineage changed new) := by
  unfold integrityFacts at h
  split at h
  · split at h
    · cases h
    · next source hsource =>
        cases h
        rw [hsource]
        exact .retracted _ rfl rfl rfl fun g hg ↦ fresh g hg _ (Or.inl rfl)
  · cases h
    exact .submitted _ rfl rfl rfl fun g hg ↦ fresh g hg _ (Or.inl rfl)
  · cases h
    rw [show ratingLineage changed [] = previous.ratingSourceEventId from keeps]
    exact .kept

/-- A command's facts as one step of each stream. -/
structure LedgerStep (facts : List GuestMutationFact) (before : GuestResponse)
    (new : List GuestMutationFact) (after : GuestResponse) : Prop where
  steps : ∃ ratingFacts feedbackFacts, new = ratingFacts ++ feedbackFacts ∧
    StreamStep true facts before.ratingSourceEventId ratingFacts after.ratingSourceEventId ∧
    StreamStep false facts before.feedbackSourceEventId feedbackFacts after.feedbackSourceEventId

/-- The lineage columns of a response name the live submissions of its ledger. -/
structure LineageNamesLive (columns : GuestResponse) (facts : List GuestMutationFact) : Prop where
  rating : (liveSubmissions true facts).map (·.eventId) = columns.ratingSourceEventId.toList
  feedback : (liveSubmissions false facts).map (·.eventId) = columns.feedbackSourceEventId.toList

variable {before after : GuestResponse}

/-- A command keeps the lineage columns and the live submissions together. -/
theorem LedgerStep.lineageNamesLive (step : LedgerStep facts before new after)
    (names : LineageNamesLive before facts) :
    LineageNamesLive after (new.reverse ++ facts) := by
  obtain ⟨ratingFacts, feedbackFacts, rfl, hrating, hfeedback⟩ := step.steps
  refine ⟨?_, ?_⟩
  · rw [(liveSubmissions_append hrating.kind hfeedback.kind).1]
    exact (hrating.live names.rating).1
  · rw [(liveSubmissions_append hrating.kind hfeedback.kind).2]
    exact (hfeedback.live names.feedback).1

/-- A live rating after a command is one of its facts, or was live before and the command added no
rating fact. -/
theorem LedgerStep.live_rating (step : LedgerStep facts before new after)
    (names : LineageNamesLive before facts) {f : GuestMutationFact}
    (hf : f ∈ liveSubmissions true (new.reverse ++ facts)) :
    (f ∈ new ∧ f.isRating = true) ∨
      ((∀ g ∈ new, g.isRating = false) ∧ f ∈ liveSubmissions true facts) := by
  obtain ⟨ratingFacts, feedbackFacts, rfl, hrating, hfeedback⟩ := step.steps
  rw [(liveSubmissions_append hrating.kind hfeedback.kind).1] at hf
  rcases (hrating.live names.rating).2 f hf with hnew | ⟨hnone, hlive⟩
  · exact Or.inl ⟨List.mem_append_left _ hnew, hrating.kind f hnew⟩
  · right
    rw [hnone, List.nil_append]
    exact ⟨hfeedback.kind, hlive⟩

/-- The facts of a submission are a step of each stream of an empty ledger. -/
theorem submissionFacts_step (noRating : response.ratingSourceEventId = none)
    (noFeedback : response.feedbackSourceEventId = none) {now : Int} :
    LedgerStep [] response (submissionFacts response ids now)
      { response with
        ratingSourceEventId := ratingLineage response (submissionFacts response ids now)
        feedbackSourceEventId :=
          feedbackLineage response (submissionFacts response ids now) } := by
  unfold submissionFacts
  refine ⟨_, _, rfl, ?_, ?_⟩
  · rw [ratingLineage_append (by intro f hf; split at hf <;> simp_all [GuestMutationFact.isRating])]
    rw [noRating]
    split
    · split
      · exact .submitted _ rfl rfl rfl fun g hg ↦ by cases hg
      · rw [show ratingLineage response [] = none from noRating]
        exact .kept
    · rw [show ratingLineage response [] = none from noRating]
      exact .kept
  · rw [feedbackLineage_append
      (by intro f hf; repeat' split at hf; all_goals simp_all [GuestMutationFact.isRating])]
    rw [noFeedback]
    split
    · exact .submitted _ rfl rfl rfl fun g hg ↦ by cases hg
    · rw [show feedbackLineage response [] = none from noFeedback]
      exact .kept

/-- The facts of a correction are a step of each stream. -/
theorem correctionFacts_step {corrected : GuestResponse} {now : Int} (fresh : ids.FreshIn facts)
    (keepsRating : corrected.ratingSourceEventId = previous.ratingSourceEventId)
    (keepsFeedback : corrected.feedbackSourceEventId = previous.feedbackSourceEventId) :
    LedgerStep facts previous (correctionFacts previous corrected ids now)
      { corrected with
        ratingSourceEventId :=
          ratingLineage corrected (correctionFacts previous corrected ids now)
        feedbackSourceEventId :=
          feedbackLineage corrected (correctionFacts previous corrected ids now) } := by
  unfold correctionFacts
  refine ⟨_, _, rfl, ?_, ?_⟩
  · rw [ratingLineage_append (correctionFeedbackFacts_step fresh keepsFeedback).kind]
    exact correctionRatingFacts_step fresh keepsRating
  · rw [feedbackLineage_append (correctionRatingFacts_step fresh keepsRating).kind]
    exact correctionFeedbackFacts_step fresh keepsFeedback

/-- The facts of a withdrawal take back what is live of each stream. -/
theorem withdrawalFacts_step {withdrawn : GuestResponse} {occurredAt : Int}
    (fresh : ids.FreshIn facts) (noRating : withdrawn.ratingSourceEventId = none)
    (noFeedback : withdrawn.feedbackSourceEventId = none) :
    LedgerStep facts previous (withdrawalFacts previous ids occurredAt) withdrawn := by
  unfold withdrawalFacts
  refine ⟨_, _, rfl, ?_, ?_⟩
  · rw [noRating]
    split
    · next source hsource =>
        rw [hsource]
        exact .retracted _ rfl rfl rfl fun g hg ↦ fresh g hg _ (Or.inl rfl)
    · next hsource =>
        rw [hsource]
        exact .kept
  · rw [noFeedback]
    split
    · next source hsource =>
        rw [hsource]
        exact .retracted _ rfl rfl rfl fun g hg ↦ fresh g hg _ (Or.inr rfl)
    · next hsource =>
        rw [hsource]
        exact .kept

/-! ## The lineage columns after a command -/

/-- A rating counts only where there is one. -/
theorem exists_rating_of_isRatingMetricEligible (h : isRatingMetricEligible response = true) :
    response.integrityOutcome = .accepted ∧ (∃ rating, response.rating = some rating) ∧
      response.responseConsent = true := by
  simpa [isRatingMetricEligible, Option.isSome_iff_exists, and_assoc] using h

/-- After a submission a source is set exactly for what counts or is shared. -/
theorem submissionFacts_lineage (noRating : response.ratingSourceEventId = none)
    (noFeedback : response.feedbackSourceEventId = none) (now : Int) :
    (ratingLineage response (submissionFacts response ids now)).isSome =
        isRatingMetricEligible response ∧
      (feedbackLineage response (submissionFacts response ids now)).isSome =
        isFeedbackShared response := by
  unfold submissionFacts isFeedbackShared
  constructor
  · cases heligible : isRatingMetricEligible response with
    | false =>
        cases response.rating <;> cases response.text.isSome && response.textConsent <;>
          simp [ratingLineage, noRating, GuestMutationFact.isRating]
    | true =>
        obtain ⟨-, ⟨rating, hrating⟩, -⟩ := exists_rating_of_isRatingMetricEligible heligible
        rw [hrating]
        rfl
  · cases response.rating <;> cases isRatingMetricEligible response <;>
      cases response.text.isSome && response.textConsent <;>
        simp [feedbackLineage, noFeedback, GuestMutationFact.isRating]

/-- After a correction a source is set exactly for what counts or is shared. -/
theorem correctionFacts_lineage {corrected : GuestResponse}
    (keepsRating : corrected.ratingSourceEventId = previous.ratingSourceEventId)
    (keepsFeedback : corrected.feedbackSourceEventId = previous.feedbackSourceEventId)
    (fresh : ids.FreshIn facts) (now : Int) :
    (ratingLineage corrected (correctionFacts previous corrected ids now)).isSome =
        isRatingMetricEligible corrected ∧
      (feedbackLineage corrected (correctionFacts previous corrected ids now)).isSome =
        isFeedbackShared corrected := by
  unfold correctionFacts
  constructor
  · rw [ratingLineage_append (correctionFeedbackFacts_step fresh keepsFeedback).kind]
    unfold correctionRatingFacts
    cases heligible : isRatingMetricEligible corrected with
    | false =>
        cases hsource : previous.ratingSourceEventId with
        | none => simp [ratingLineage, keepsRating, hsource]
        | some source => rfl
    | true =>
        obtain ⟨-, ⟨rating, hrating⟩, -⟩ := exists_rating_of_isRatingMetricEligible heligible
        rw [hrating]
        cases hsource : previous.ratingSourceEventId with
        | none => simp [ratingLineage, GuestMutationFact.isRating]
        | some source =>
            cases isSameRating previous.rating (some rating) <;>
              simp [ratingLineage, GuestMutationFact.isRating, keepsRating, hsource]
  · rw [feedbackLineage_append (correctionRatingFacts_step fresh keepsRating).kind]
    unfold correctionFeedbackFacts
    cases isFeedbackShared corrected <;> cases hsource : previous.feedbackSourceEventId <;>
      simp [feedbackLineage, GuestMutationFact.isRating, keepsFeedback, hsource]

/-- After an integrity change the rating source is set exactly where the rating counts, if it was
before. -/
theorem integrityFacts_lineage {changed : GuestResponse}
    (h : integrityFacts previous changed ids = .ok new)
    (keeps : changed.ratingSourceEventId = previous.ratingSourceEventId)
    (wasSet : previous.ratingSourceEventId.isSome = isRatingMetricEligible previous) :
    (ratingLineage changed new).isSome = isRatingMetricEligible changed := by
  unfold integrityFacts at h
  split at h
  · next hprevious hchanged =>
      split at h
      · cases h
      · cases h
        rw [hchanged]
        rfl
  · next rating hprevious hchanged hrating =>
      cases h
      rw [hchanged]
      rfl
  · next hnotRetracted hnotSubmitted =>
      cases h
      change changed.ratingSourceEventId.isSome = _
      rw [keeps, wasSet]
      cases hchanged : isRatingMetricEligible changed with
      | false =>
          rw [← Bool.not_eq_true]
          exact fun hprevious ↦ hnotRetracted hprevious hchanged
      | true =>
          obtain ⟨-, ⟨rating, hrating⟩, -⟩ := exists_rating_of_isRatingMetricEligible hchanged
          cases hprevious : isRatingMetricEligible previous with
          | false => exact (hnotSubmitted rating hprevious hchanged hrating).elim
          | true => rfl

end ReputationKey.Guest
