import ReputationKey.Base.Run
import ReputationKey.Guest.ResponseSpec

/-!
# Privacy of the guest response aggregate

Every transition of the aggregate, and the lineage its store writes into it, as steps of one
system. A response that was deleted is empty and stays so, feedback text stands only with consent
and a recorded time, and withdrawn feedback does not come back, as long as a correction leaves text
only where feedback may stand.
-/

namespace ReputationKey.Guest

open ReputationKey.Base
open ReputationKey.Review (Text)

/-- A transition of the aggregate, or the lineage its store records. -/
inductive Transition
  | submit (params : GuestResponseInput) (now : Int)
  | submitPrivateFeedback (text : Text) (textConsent : Bool) (now : Int)
  | correct (params : GuestResponseInput) (now windowMs : Int)
  | withdrawPrivateFeedback (now withdrawalWindowMs : Int)
  | withdraw (now withdrawalWindowMs : Int)
  | delete (now : Int)
  | changeIntegrity (input : IntegrityChangeInput) (decidedAt : Int)
  | lineage (ratingSourceEventId feedbackSourceEventId : Option Nat)
  deriving DecidableEq

namespace Transition

/-- The response after a transition that succeeds. -/
def apply (response : GuestResponse) : Transition → Option GuestResponse
  | .submit params now => (submitResponse response params now).toOption
  | .submitPrivateFeedback text textConsent now =>
      (Guest.submitPrivateFeedback response text textConsent now).toOption
  | .correct params now windowMs => (correctResponse response params now windowMs).toOption
  | .withdrawPrivateFeedback now withdrawalWindowMs =>
      (Guest.withdrawPrivateFeedback response now withdrawalWindowMs).toOption
  | .withdraw now withdrawalWindowMs =>
      (withdrawResponse response now withdrawalWindowMs).toOption
  | .delete now => (deleteResponse response now).toOption
  | .changeIntegrity input decidedAt =>
      (changeGuestResponseIntegrity response input decidedAt).toOption
  | .lineage ratingSourceEventId feedbackSourceEventId =>
      if response.status = .deleted then none
      else
        some
          { response with
            ratingSourceEventId := ratingSourceEventId
            feedbackSourceEventId := feedbackSourceEventId }

/-- Whether a transition is a correction. -/
def isCorrection : Transition → Bool
  | .correct _ _ _ => true
  | _ => false

/-- Whether the transition leaves text only where feedback may stand: a correction that leaves any
does so with text consent, on feedback that was submitted and not withdrawn. -/
def leavesTextWhereItMayStand (response : GuestResponse) : Transition → Bool
  | .correct params _ _ =>
      (correctedText response params).isNone ||
        (params.textConsent.getD response.textConsent && response.feedbackSubmittedAt.isSome &&
          response.feedbackWithdrawnAt.isNone)
  | _ => true

end Transition

/-- Runs of the aggregate from a new response. -/
def responseSystem : ReadSystem GuestResponse Transition where
  init response := ∃ params, response = createResponse params
  step _ response transition response' := transition.apply response = some response'

variable {response response' : GuestResponse}

/-- What holds of a response whatever was asked of it. -/
structure AggregateInvariant (response : GuestResponse) : Prop where
  rating : ∀ rating, response.rating = some rating → mayBeRating rating
  deletedIsEmpty : response.status = .deleted →
    response.rating = none ∧ response.category = none ∧ response.text = none ∧
      response.responseConsent = false ∧ response.textConsent = false ∧
      response.mediaConsent = false
  pendingIsNew : response.status = .pending →
    response.feedbackWithdrawnAt = none ∧ response.correctionCount = 0 ∧ response.rating = none ∧
      response.text = none

/-- Where feedback text stands. -/
structure FeedbackStands (response : GuestResponse) : Prop where
  consent : response.text ≠ none → response.textConsent = true
  recorded : response.text ≠ none → response.feedbackSubmittedAt ≠ none
  notWithdrawn : response.feedbackWithdrawnAt ≠ none → response.text = none

/-! ## The invariants -/

/-- A new response satisfies both. -/
theorem createResponse_invariant (params : CreateResponse) :
    AggregateInvariant (createResponse params) ∧ FeedbackStands (createResponse params) := by
  refine ⟨⟨?_, ?_, fun _ ↦ ⟨rfl, rfl, rfl, rfl⟩⟩, ⟨?_, ?_, ?_⟩⟩ <;> simp [createResponse]

/-- No transition succeeds on a deleted response. -/
theorem apply_deleted (deleted : response.status = .deleted) (transition : Transition) :
    transition.apply response = none := by
  cases transition <;>
    simp [Transition.apply, submitResponse, submitPrivateFeedback, correctResponse,
      withdrawPrivateFeedback, withdrawResponse, deleteResponse, changeGuestResponseIntegrity,
      deleted, Except.toOption]

/-- A result kept as an option is the result. -/
theorem ok_of_toOption {ε α : Type} {result : Except ε α} {a : α} (h : result.toOption = some a) :
    result = .ok a := by
  cases result with
  | error e => cases h
  | ok b => exact congrArg _ (Option.some.inj h)

/-- Every transition keeps what holds of every response. -/
theorem AggregateInvariant.apply (inv : AggregateInvariant response) {transition : Transition}
    (h : transition.apply response = some response') : AggregateInvariant response' := by
  cases transition with
  | submit params now =>
      obtain ⟨hpending, hstatus, hrating, -⟩ := submitResponse_eq_ok (ok_of_toOption h)
      exact ⟨hrating, by simp [hstatus], by simp [hstatus]⟩
  | submitPrivateFeedback text textConsent now =>
      obtain ⟨hstatus, -, -, -, -, -, rfl⟩ := submitPrivateFeedback_eq_ok (ok_of_toOption h)
      refine ⟨inv.rating, fun hdeleted ↦ ?_, fun hpending ↦ ?_⟩
      · rcases hstatus with hs | hs <;> rw [hs] at hdeleted <;> cases hdeleted
      · rcases hstatus with hs | hs <;> rw [hs] at hpending <;> cases hpending
  | correct params now windowMs =>
      obtain ⟨-, -, -, -, hrange, rfl⟩ := correctResponse_eq_ok (ok_of_toOption h)
      refine ⟨fun rating hrating ↦ ?_, (fun hdeleted ↦ by cases hdeleted),
        (fun hpending ↦ by cases hpending)⟩
      change params.rating.getD response.rating = some rating at hrating
      cases hgiven : params.rating with
      | none =>
          rw [hgiven] at hrating
          exact inv.rating rating hrating
      | some given =>
          rw [hgiven] at hrating
          refine mayBeRating_of_inRange hrange ?_
          rw [GuestResponseInput.givenRating, hgiven]
          exact hrating
  | withdrawPrivateFeedback now withdrawalWindowMs =>
      obtain ⟨hdeleted, htext, -, rfl⟩ := withdrawPrivateFeedback_eq_ok (ok_of_toOption h)
      refine ⟨inv.rating, fun h' ↦ absurd h' hdeleted, fun hpending ↦ ?_⟩
      exact absurd (inv.pendingIsNew hpending).2.2.2 htext
  | withdraw now withdrawalWindowMs =>
      obtain ⟨-, rfl⟩ := deleteResponse_eq_ok (withdrawResponse_eq_ok (ok_of_toOption h))
      exact ⟨(fun _ hrating ↦ by cases hrating), fun _ ↦ ⟨rfl, rfl, rfl, rfl, rfl, rfl⟩,
        (fun hpending ↦ by cases hpending)⟩
  | delete now =>
      obtain ⟨-, rfl⟩ := deleteResponse_eq_ok (ok_of_toOption h)
      exact ⟨(fun _ hrating ↦ by cases hrating), fun _ ↦ ⟨rfl, rfl, rfl, rfl, rfl, rfl⟩,
        (fun hpending ↦ by cases hpending)⟩
  | changeIntegrity input decidedAt =>
      obtain ⟨-, -, -, rfl⟩ := changeGuestResponseIntegrity_eq_ok (ok_of_toOption h)
      exact ⟨inv.rating, inv.deletedIsEmpty, inv.pendingIsNew⟩
  | lineage ratingSourceEventId feedbackSourceEventId =>
      simp only [Transition.apply] at h
      split at h
      · cases h
      · cases h
        exact ⟨inv.rating, inv.deletedIsEmpty, inv.pendingIsNew⟩

/-- A transition that leaves text only where it may stand keeps feedback where it stands. -/
theorem FeedbackStands.apply (inv : AggregateInvariant response) (stands : FeedbackStands response)
    {transition : Transition} (leaves : transition.leavesTextWhereItMayStand response)
    (h : transition.apply response = some response') : FeedbackStands response' := by
  cases transition with
  | submit params now =>
      obtain ⟨hpending, -, -, htext, hgiven, hwithdrawn, -⟩ :=
        submitResponse_eq_ok (ok_of_toOption h)
      have hnew := inv.pendingIsNew hpending
      have hne : response'.text ≠ none → params.givenText ≠ [] := by
        rw [htext]
        unfold textOrNull
        split <;> simp_all
      refine ⟨fun ht ↦ (hgiven (hne ht)).1, fun ht ↦ ?_, fun hw ↦ ?_⟩
      · simp [(hgiven (hne ht)).2]
      · rw [hwithdrawn, hnew.1] at hw
        exact absurd rfl hw
  | submitPrivateFeedback text textConsent now =>
      obtain ⟨-, -, -, -, hwithdrawn, -, rfl⟩ := submitPrivateFeedback_eq_ok (ok_of_toOption h)
      exact ⟨fun _ ↦ rfl, (fun _ ↦ by simp), fun hw ↦ absurd hwithdrawn hw⟩
  | correct params now windowMs =>
      obtain ⟨-, -, -, -, -, rfl⟩ := correctResponse_eq_ok (ok_of_toOption h)
      unfold Transition.leavesTextWhereItMayStand at leaves
      rw [Bool.or_eq_true, Option.isNone_iff_eq_none] at leaves
      rcases leaves with hnone | hstands
      · exact ⟨fun ht ↦ absurd hnone ht, fun ht ↦ absurd hnone ht, fun _ ↦ hnone⟩
      · simp only [Bool.and_eq_true, Option.isNone_iff_eq_none] at hstands
        refine ⟨fun _ ↦ hstands.1.1, fun _ hnone ↦ ?_, fun hw ↦ absurd hstands.2 hw⟩
        change response.feedbackSubmittedAt = none at hnone
        rw [hnone] at hstands
        cases hstands.1.2
  | withdrawPrivateFeedback now withdrawalWindowMs =>
      obtain ⟨-, -, -, rfl⟩ := withdrawPrivateFeedback_eq_ok (ok_of_toOption h)
      exact ⟨(fun ht ↦ absurd rfl ht), (fun ht ↦ absurd rfl ht), fun _ ↦ rfl⟩
  | withdraw now withdrawalWindowMs =>
      obtain ⟨-, rfl⟩ := deleteResponse_eq_ok (withdrawResponse_eq_ok (ok_of_toOption h))
      exact ⟨(fun ht ↦ absurd rfl ht), (fun ht ↦ absurd rfl ht), fun _ ↦ rfl⟩
  | delete now =>
      obtain ⟨-, rfl⟩ := deleteResponse_eq_ok (ok_of_toOption h)
      exact ⟨(fun ht ↦ absurd rfl ht), (fun ht ↦ absurd rfl ht), fun _ ↦ rfl⟩
  | changeIntegrity input decidedAt =>
      obtain ⟨-, -, -, rfl⟩ := changeGuestResponseIntegrity_eq_ok (ok_of_toOption h)
      exact ⟨stands.consent, stands.recorded, stands.notWithdrawn⟩
  | lineage ratingSourceEventId feedbackSourceEventId =>
      simp only [Transition.apply] at h
      split at h
      · cases h
      · cases h
        exact ⟨stands.consent, stands.recorded, stands.notWithdrawn⟩

/-- A tombstone is never taken away. -/
theorem apply_feedbackWithdrawnAt (inv : AggregateInvariant response) {transition : Transition}
    (h : transition.apply response = some response')
    (withdrawn : response.feedbackWithdrawnAt ≠ none) : response'.feedbackWithdrawnAt ≠ none := by
  cases transition with
  | submit params now =>
      obtain ⟨hpending, -⟩ := submitResponse_eq_ok (ok_of_toOption h)
      exact absurd (inv.pendingIsNew hpending).1 withdrawn
  | submitPrivateFeedback text textConsent now =>
      obtain ⟨-, -, -, -, hwithdrawn, -⟩ := submitPrivateFeedback_eq_ok (ok_of_toOption h)
      exact absurd hwithdrawn withdrawn
  | correct params now windowMs =>
      obtain ⟨-, -, -, -, -, rfl⟩ := correctResponse_eq_ok (ok_of_toOption h)
      exact withdrawn
  | withdrawPrivateFeedback now withdrawalWindowMs =>
      obtain ⟨-, -, -, rfl⟩ := withdrawPrivateFeedback_eq_ok (ok_of_toOption h)
      exact Option.some_ne_none now
  | withdraw now withdrawalWindowMs =>
      obtain ⟨-, rfl⟩ := deleteResponse_eq_ok (withdrawResponse_eq_ok (ok_of_toOption h))
      exact withdrawn
  | delete now =>
      obtain ⟨-, rfl⟩ := deleteResponse_eq_ok (ok_of_toOption h)
      exact withdrawn
  | changeIntegrity input decidedAt =>
      obtain ⟨-, -, -, rfl⟩ := changeGuestResponseIntegrity_eq_ok (ok_of_toOption h)
      exact withdrawn
  | lineage ratingSourceEventId feedbackSourceEventId =>
      simp only [Transition.apply] at h
      split at h
      · cases h
      · cases h
        exact withdrawn

/-- A correction counts once, and nothing else changes the count. -/
theorem apply_correctionCount {transition : Transition}
    (h : transition.apply response = some response') :
    response'.correctionCount =
        response.correctionCount + (if transition.isCorrection then 1 else 0) ∧
      (transition.isCorrection = true → response.correctionCount = 0) := by
  cases transition with
  | submit params now =>
      obtain ⟨-, -, -, -, -, -, hcount⟩ := submitResponse_eq_ok (ok_of_toOption h)
      exact ⟨hcount, (fun hc ↦ by cases hc)⟩
  | submitPrivateFeedback text textConsent now =>
      obtain ⟨-, -, -, -, -, -, rfl⟩ := submitPrivateFeedback_eq_ok (ok_of_toOption h)
      exact ⟨rfl, (fun hc ↦ by cases hc)⟩
  | correct params now windowMs =>
      obtain ⟨-, -, hcount, -, -, rfl⟩ := correctResponse_eq_ok (ok_of_toOption h)
      refine ⟨?_, fun _ ↦ hcount⟩
      rw [hcount]
      rfl
  | withdrawPrivateFeedback now withdrawalWindowMs =>
      obtain ⟨-, -, -, rfl⟩ := withdrawPrivateFeedback_eq_ok (ok_of_toOption h)
      exact ⟨rfl, (fun hc ↦ by cases hc)⟩
  | withdraw now withdrawalWindowMs =>
      obtain ⟨-, rfl⟩ := deleteResponse_eq_ok (withdrawResponse_eq_ok (ok_of_toOption h))
      exact ⟨rfl, (fun hc ↦ by cases hc)⟩
  | delete now =>
      obtain ⟨-, rfl⟩ := deleteResponse_eq_ok (ok_of_toOption h)
      exact ⟨rfl, (fun hc ↦ by cases hc)⟩
  | changeIntegrity input decidedAt =>
      obtain ⟨-, -, -, rfl⟩ := changeGuestResponseIntegrity_eq_ok (ok_of_toOption h)
      exact ⟨rfl, (fun hc ↦ by cases hc)⟩
  | lineage ratingSourceEventId feedbackSourceEventId =>
      simp only [Transition.apply] at h
      split at h
      · cases h
      · cases h
        exact ⟨rfl, (fun hc ↦ by cases hc)⟩

/-! ## Whole runs -/

section Runs

variable {h : List (Move GuestResponse Transition)}

/-- Every response reached satisfies the aggregate invariant. -/
theorem aggregateInvariant_of_run (r : Run responseSystem h response) :
    AggregateInvariant response := by
  refine r.invariant ?_ fun _ _ _ _ _ inv hstep ↦ inv.apply hstep
  rintro response ⟨params, rfl⟩
  exact (createResponse_invariant params).1

/-- The correction count counts the corrections of the run. -/
theorem correctionCount_of_run (r : Run responseSystem h response) :
    (h.filter fun m ↦ m.event.isCorrection).length = response.correctionCount ∧
      response.correctionCount ≤ 1 := by
  induction r with
  | start start =>
      obtain ⟨params, rfl⟩ := start
      exact ⟨rfl, Nat.zero_le _⟩
  | @next h response response' transition r hstep ih =>
      obtain ⟨hcount, hfirst⟩ := apply_correctionCount hstep
      rw [List.filter_cons, hcount]
      cases hc : transition.isCorrection with
      | false => simpa [hc] using ih
      | true =>
          have hzero := hfirst hc
          simp only [if_true, List.length_cons]
          omega

/-- Withdrawn feedback stays withdrawn. -/
theorem feedbackWithdrawnAt_of_seen (r : Run responseSystem h response) {p : GuestResponse}
    (seen : Seen h response p) :
    p.feedbackWithdrawnAt ≠ none → response.feedbackWithdrawnAt ≠ none := by
  refine r.seen_related
    (R := fun p s ↦ p.feedbackWithdrawnAt ≠ none → s.feedbackWithdrawnAt ≠ none)
    (fun _ hw ↦ hw) (by intro p q s hpq hqs hw; exact hqs (hpq hw)) ?_ seen
  exact fun h p transition s run hstep ↦
    apply_feedbackWithdrawnAt (aggregateInvariant_of_run run) hstep

/-- A run whose corrections leave text only where it may stand has feedback only where it
stands. -/
theorem feedbackStands_of_run (r : Run responseSystem h response)
    (leaves : ∀ m ∈ h, m.event.leavesTextWhereItMayStand m.pre = true) :
    FeedbackStands response := by
  induction r with
  | start start =>
      obtain ⟨params, rfl⟩ := start
      exact (createResponse_invariant params).2
  | next r hstep ih =>
      exact (ih fun m hm ↦ leaves m (List.mem_cons_of_mem _ hm)).apply
        (aggregateInvariant_of_run r) (leaves _ (List.mem_cons_self ..)) hstep

/-- Privacy of a response over every run of its transitions. A deleted response is empty and takes
no further transition, at most one correction succeeds and a rating is in range or NaN. In a run
whose corrections leave text only where feedback may stand, text is gone for good once feedback was
withdrawn, and text stands only with consent and a recorded time. -/
theorem guestResponse_privacy (r : Run responseSystem h response) :
    (response.status = .deleted →
      response.rating = none ∧ response.category = none ∧ response.text = none ∧
        response.responseConsent = false ∧ response.textConsent = false ∧
        response.mediaConsent = false ∧
        ∀ transition : Transition, transition.apply response = none) ∧
      (h.filter fun m ↦ m.event.isCorrection).length ≤ 1 ∧
      (∀ rating, response.rating = some rating → mayBeRating rating) ∧
      ((∀ m ∈ h, m.event.leavesTextWhereItMayStand m.pre = true) →
        (∀ p, Seen h response p → p.feedbackWithdrawnAt ≠ none → response.text = none) ∧
          (response.text ≠ none →
            response.textConsent = true ∧ response.feedbackSubmittedAt ≠ none)) := by
  have inv := aggregateInvariant_of_run r
  refine ⟨fun deleted ↦ ?_, ?_, inv.rating, fun leaves ↦ ?_⟩
  · obtain ⟨hrating, hcategory, htext, hresponse, hconsent, hmedia⟩ := inv.deletedIsEmpty deleted
    exact ⟨hrating, hcategory, htext, hresponse, hconsent, hmedia, apply_deleted deleted⟩
  · have hcount := correctionCount_of_run r
    omega
  · have stands := feedbackStands_of_run r leaves
    exact ⟨fun p seen hw ↦ stands.notWithdrawn (feedbackWithdrawnAt_of_seen r seen hw),
      fun ht ↦ ⟨stands.consent ht, stands.recorded ht⟩⟩

end Runs

section Sample

/-- A response of a Portal that asks for feedback up to three stars. -/
def sampleCreateResponse : CreateResponse :=
  { id := 1
    sessionId := 1
    sessionExpiresAt := 86400000
    retentionDeadline := 0
    capturedAt := 0
    privateFeedbackThreshold := .finite 3
    integrityAssessment := ⟨.accepted, "initial_submission", "guest.gateway"⟩ }

/-- A guest who gives a rating and nothing else. -/
def sampleRating (rating : ℚ) : GuestResponseInput :=
  ⟨some (some (.finite rating)), none, none, none, none, none⟩

/-- A response with a rating of two. -/
def sampleSubmitted : GuestResponse :=
  { createResponse sampleCreateResponse with
    status := .submitted
    rating := some (.finite 2)
    responseConsent := true
    submittedAt := some 0 }

/-- A submitted rating, as a run from a new response. -/
theorem sampleSubmitted_run : Run responseSystem
    [⟨createResponse sampleCreateResponse, .submit (sampleRating 2) 0, sampleSubmitted⟩]
    sampleSubmitted := by
  refine .next (.start ⟨_, rfl⟩) ?_
  change Transition.apply _ _ = some _
  decide +kernel

/-- The correction that gives feedback without consent. -/
def sampleCorrection : Transition :=
  .correct { sampleRating 1 with text := some (some [111, 107]) } 1 correctionWindowMs

/-- What it leaves. -/
def sampleCorrected : GuestResponse :=
  { sampleSubmitted with
    status := .corrected
    rating := some (.finite 1)
    text := some [111, 107]
    correctionCount := 1
    correctedAt := some 1
    feedbackSubmissionRevision := some 2 }

/-- A rating without text meets every condition. -/
theorem guestResponse_privacy_submitted :
    sampleSubmitted.text = none ∧ mayBeRating (.finite 2) ∧
      (sampleSubmitted.text ≠ none →
        sampleSubmitted.textConsent = true ∧ sampleSubmitted.feedbackSubmittedAt ≠ none) := by
  obtain ⟨-, -, hrating, hstands⟩ := guestResponse_privacy sampleSubmitted_run
  exact ⟨rfl, hrating _ rfl, (hstands (by decide)).2⟩

/-- A correction may leave feedback that was never submitted, without consent. -/
theorem correction_leaves_text_without_consent :
    ¬ ∀ (h : List (Move GuestResponse Transition)) (response : GuestResponse),
      Run responseSystem h response → response.text ≠ none →
        response.textConsent = true ∧ response.feedbackSubmittedAt ≠ none := by
  intro stands
  have hrun : Run responseSystem
      [⟨sampleSubmitted, sampleCorrection, sampleCorrected⟩,
        ⟨createResponse sampleCreateResponse, .submit (sampleRating 2) 0, sampleSubmitted⟩]
      sampleCorrected := by
    refine .next sampleSubmitted_run ?_
    change Transition.apply _ _ = some _
    decide +kernel
  have hconsent := (stands _ _ hrun (by decide)).1
  exact absurd hconsent (by decide)

end Sample

end ReputationKey.Guest
