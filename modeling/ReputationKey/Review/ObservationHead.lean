import ReputationKey.Review.ReplyHistory

/-!
# The head of the Google reply observations

The head's revision is moved by recorded observations only, by one for each that brings news: a new
key with a newer read than the head's that neither restates the head nor shows the earlier
publication still live. Every change of the reply brings news; so do a targeted read, kept as
evidence of its attempt, and a first read. What brings no news writes no row and no fact.
-/

namespace ReputationKey.Review

open ReputationKey.Base

variable {platform : Platform} {actor : Actor} {init : Store → Prop}
  {h : List (Move Store StoreEvent)} {s s' : Store} {input : RecordGoogleReplyObservation}

/-- The revision of the current head, zero before the first observation. -/
def Store.headRevision (s : Store) : Nat := (s.head.map (·.observationRevision)).getD 0

/-- The local publication facts an observation reads. -/
def publicationEvidence (s : Store) (input : RecordGoogleReplyObservation) : PublicationEvidence :=
  { internal := s.reply
    attempt := readAttributableAttempt s s.reply input.publicationTarget
    zeroAttemptAuthorization := readZeroAttemptAuthorization s s.reply
    publicationTarget := input.publicationTarget }

/-- What an observation concludes against the rows it finds. -/
def observationDecision (platform : Platform) (s : Store) (input : RecordGoogleReplyObservation) :
    ObservationDecision :=
  decideGoogleReplyObservation platform input.scope input.observedText
    (s.head.map (·.asPrevious)) (readPublicationCandidate s (publicationEvidence s input))

/-- Whether an observation restates what the rows already say. -/
def restatesRows (platform : Platform) (s : Store) (input : RecordGoogleReplyObservation) : Bool :=
  let decision := observationDecision platform s input
  decision.resolution == .earlierPublicationLive ||
    restatesCurrentHead input decision s.head
      (supersedesCurrentAttempt decision.resolution
        (readPublicationCandidate s (publicationEvidence s input)) input.scope)
      (publicationEvidence s input)

/-- Whether an observation carries a key not recorded yet and a read newer than the head's. -/
def isNewRead (s : Store) (input : RecordGoogleReplyObservation) : Bool :=
  (s.observations.find? (·.observationKey == input.observationKey)).isNone &&
    s.head.all fun head ↦ decide (head.readGeneration < input.readGeneration)

/-- Whether an observation brings news. -/
def bringsNews (platform : Platform) (s : Store) (input : RecordGoogleReplyObservation) : Bool :=
  isNewRead s input && !restatesRows platform s input

/-- Only reads of the reply and the source of the review write observations. -/
theorem StoreMoves.observations_eq (m : StoreMoves platform actor s s')
    (notReader : actor ≠ .reader) (notSource : actor ≠ .source) :
    s'.observations = s.observations := by
  induction m with
  | refl => rfl
  | tail _ hmove ih =>
      rw [← ih]
      cases hmove with
      | observed observations isReader keeps =>
          rcases isReader with h | ⟨h, -⟩
          · exact absurd h notReader
          · exact absurd h notSource
      | _ => rfl

/-- No move but a read of the reply changes the head's revision. -/
theorem StoreMoves.headRevision_eq (m : StoreMoves platform actor s s')
    (notReader : actor ≠ .reader) : s'.headRevision = s.headRevision := by
  induction m with
  | refl => rfl
  | tail _ hmove ih =>
      rw [← ih]
      cases hmove with
      | observed observations isReader keeps =>
          obtain ⟨-, hsame⟩ := isReader.resolve_left notReader
          have hheads := congrArg List.head? hsame
          rw [List.head?_map, List.head?_map] at hheads
          exact congrArg (·.getD 0) hheads
      | _ => rfl

/-- No move forgets the key of an observation. -/
theorem StoreMoves.keys_suffix (m : StoreMoves platform actor s s') :
    s.observations.map (·.observationKey) <:+ s'.observations.map (·.observationKey) := by
  induction m with
  | refl => exact List.suffix_rfl
  | tail _ hmove ih =>
      refine ih.trans ?_
      cases hmove with
      | observed observations isReader keeps => exact keeps
      | _ => exact List.suffix_rfl

/-- An observation whose key is recorded has nothing left to write. -/
theorem recordObservation_of_recorded {result : ObservationResult}
    (recorded : input.observationKey ∈ s.observations.map (·.observationKey))
    (h : recordObservation platform s input = .ok (s', result)) : s' = s := by
  have hfound : s.observations.find? (·.observationKey == input.observationKey) ≠ none := by
    intro hnone
    obtain ⟨row, hrow, hkey⟩ := List.mem_map.1 recorded
    have habsent := List.find?_eq_none.1 hnone row hrow
    simp [hkey] at habsent
  cases recordObservation_path h with
  | replayed row found sameEvidence => rfl
  | outdated head isHead generation isSnapshot => rfl
  | restated _ evidence absent source newer loaded restates => exact absurd absent hfound
  | applied evidence decision supersedes _ _ absent source newer loaded decided superseded news
      applied => exact absurd absent hfound

/-- An observation that is not newer than the head has nothing to write. -/
theorem recordObservation_of_outdated {result : ObservationResult} {head : GoogleReplyObservation}
    (isHead : s.head = some head) (outdated : input.readGeneration ≤ head.readGeneration)
    (h : recordObservation platform s input = .ok (s', result)) : s' = s := by
  cases recordObservation_path h with
  | replayed row found sameEvidence => rfl
  | outdated head isHead generation isSnapshot => rfl
  | restated _ evidence absent source newer loaded restates =>
      exact absurd (newer head isHead) (Nat.not_lt.2 outdated)
  | applied evidence decision supersedes _ _ absent source newer loaded decided superseded news
      applied => exact absurd (newer head isHead) (Nat.not_lt.2 outdated)

/-- A read that is newer than every head is newer than the head. -/
theorem head_all_of_newer
    (newer : ∀ head, s.head = some head → head.readGeneration < input.readGeneration) :
    s.head.all (fun head ↦ decide (head.readGeneration < input.readGeneration)) = true := by
  cases hhead : s.head with
  | none => rfl
  | some head => simpa using newer head hhead

/-- What a committed observation leaves of the rows, whether or not it brings news. -/
theorem recordObservation_news {result : ObservationResult}
    (h : recordObservation platform s input = .ok (s', result)) :
    (bringsNews platform s input = true ∧
        StoreMoves platform .system
          (appendObservation platform s input (observationDecision platform s input)) s') ∨
      (bringsNews platform s input = false ∧
        (s' = s ∨ (isNewRead s input = true ∧
          s' = renewHeadContentClock s input.contentExpiresAt))) := by
  cases recordObservation_path h with
  | replayed row found sameEvidence =>
      refine Or.inr ⟨?_, Or.inl rfl⟩
      simp [bringsNews, isNewRead, found]
  | outdated head isHead generation isSnapshot =>
      refine Or.inr ⟨?_, Or.inl rfl⟩
      have hnot : decide (head.readGeneration < input.readGeneration) = false := by
        simpa using generation
      simp [bringsNews, isNewRead, isHead, hnot]
  | restated _ evidence absent source newer loaded restates =>
      obtain ⟨-, rfl⟩ := loadPublicationEvidence_eq_ok loaded
      have hnew : isNewRead s input = true := by
        simp [isNewRead, absent, head_all_of_newer newer]
      have hrestates : restatesRows platform s input = true := by
        simp only [restatesRows, Bool.or_eq_true, beq_iff_eq]
        exact restates
      refine Or.inr ⟨?_, Or.inr ⟨hnew, rfl⟩⟩
      simp [bringsNews, hrestates]
  | applied evidence decision supersedes _ _ absent source newer loaded decided superseded news
      applied =>
      have hmoves : StoreMoves platform .system _ s' :=
        applyObservation_moves loaded decided superseded applied
      obtain ⟨-, rfl⟩ := loadPublicationEvidence_eq_ok loaded
      have hdecision : decision = observationDecision platform s input := decided
      subst hdecision
      refine Or.inl ⟨?_, hmoves⟩
      have hrestates : restatesRows platform s input = false := by
        simp only [restatesRows, Bool.or_eq_false_iff, beq_eq_false_iff_ne]
        refine ⟨news.1, ?_⟩
        rw [superseded] at news
        exact news.2
      simp [bringsNews, isNewRead, absent, head_all_of_newer newer, hrestates]

/-- Renewing the head's clock moves no revision and adds no row. -/
theorem renewHeadContentClock_headRevision (s : Store) (contentExpiresAt : Int) :
    (renewHeadContentClock s contentExpiresAt).headRevision = s.headRevision := by
  obtain ⟨observations, heq, hrows⟩ := renewHeadContentClock_eq s contentExpiresAt
  rw [heq]
  rcases hrows with rfl | ⟨head, rest, hrows, rfl⟩
  · rfl
  · simp [Store.headRevision, Store.head, hrows]

/-- The head's revision rises by one with news and stays otherwise. -/
theorem recordObservation_headRevision {result : ObservationResult}
    (h : recordObservation platform s input = .ok (s', result)) :
    s'.headRevision = s.headRevision + if bringsNews platform s input then 1 else 0 := by
  rcases recordObservation_news h with ⟨hnews, hmoves⟩ | ⟨hnews, hsame | ⟨-, hrenewed⟩⟩
  · have happended := hmoves.headRevision_eq (by decide)
    rw [happended, if_pos hnews]
    rfl
  · rw [hsame, hnews]
    rfl
  · rw [hrenewed, hnews]
    exact renewHeadContentClock_headRevision s input.contentExpiresAt

/-- Whatever an observation concludes, an unchanged conclusion means an unchanged reply. -/
theorem decideObservationResolution_restating {scope : ObservationScope}
    {text : Option Text} {previous : Option PreviousGoogleReplyObservation}
    {candidate : Option PublicationCandidate}
    (h : decideObservationResolution platform scope text previous candidate
          (decideObservationChange (describeObservedText platform text) previous scope) =
        .unchanged ∨
      decideObservationResolution platform scope text previous candidate
          (decideObservationChange (describeObservedText platform text) previous scope) =
        .earlierPublicationLive) :
    decideObservationChange (describeObservedText platform text) previous scope =
      .unchanged := by
  cases text with
  | none =>
      by_contra hchange
      have hdeleted : decideObservationChange (describeObservedText platform none) previous scope =
          .deleted := by
        unfold decideObservationChange describeObservedText at hchange ⊢
        simp only at hchange ⊢
        repeat' split at hchange
        all_goals first | exact absurd rfl hchange | simp_all
      simp [decideObservationResolution, hdeleted] at h
  | some text =>
      unfold decideObservationResolution at h
      simp only at h
      split at h
      · next hnone => cases hnone
      · split at h
        · next hchange => exact hchange
        · simp at h
      · next text' candidate hcandidate =>
          split at h
          · simp at h
          · split at h
            · next hearlier =>
                -- The head already shows the earlier publication at the same source.
                simp only [showsEarlierPublicationUnchanged, Bool.and_eq_true, beq_iff_eq]
                  at hearlier
                obtain ⟨-, hprevious⟩ := hearlier
                cases previous with
                | none => cases hprevious
                | some previous =>
                    simp only [Bool.and_eq_true, beq_iff_eq] at hprevious
                    obtain ⟨⟨⟨hlive, hdigest⟩, hepoch⟩, hrevision⟩ := hprevious
                    simp [decideObservationChange, isReplyCarriedOverFromEarlierRevision, hlive,
                      hdigest, hepoch, hrevision, describeObservedText]
            · split at h <;> simp at h

/-- An observation that restates the rows changes nothing of the reply. -/
theorem restatesRows_unchanged (h : restatesRows platform s input = true) :
    (observationDecision platform s input).change = .unchanged := by
  simp only [restatesRows, Bool.or_eq_true, beq_iff_eq] at h
  rcases h with hearlier | hrestates
  · exact decideObservationResolution_restating (Or.inr hearlier)
  · unfold restatesCurrentHead at hrestates
    split at hrestates
    · cases hrestates
    · simp only [Bool.and_eq_true, isRestatingResolution, Bool.or_eq_true, beq_iff_eq]
        at hrestates
      obtain ⟨⟨⟨⟨⟨⟨⟨-, hresolution⟩, -⟩, -⟩, -⟩, -⟩, -⟩, -⟩ := hrestates
      rcases hresolution with hunchanged | ⟨-, hchange⟩
      · exact decideObservationResolution_restating (Or.inl hunchanged)
      · exact hchange

/-- A new read that shows a change brings news. -/
theorem bringsNews_of_change (isNew : isNewRead s input = true)
    (changed : (observationDecision platform s input).change ≠ .unchanged) :
    bringsNews platform s input = true := by
  have hnot : restatesRows platform s input = false := by
    by_contra hrestates
    exact changed (restatesRows_unchanged (by simpa using hrestates))
  simp [bringsNews, isNew, hnot]

/-- A renewed clock is not renewed again by the same read. -/
theorem renewHeadContentClock_idem (s : Store) (contentExpiresAt : Int) :
    renewHeadContentClock (renewHeadContentClock s contentExpiresAt) contentExpiresAt =
      renewHeadContentClock s contentExpiresAt := by
  cases hrows : s.observations with
  | nil => simp [renewHeadContentClock, hrows]
  | cons head rest =>
      by_cases hrenew : head.state = .live ∧ head.contentState = .active ∧
          head.contentExpiresAt < contentExpiresAt
      · simp [renewHeadContentClock, hrows, hrenew]
      · simp [renewHeadContentClock, hrows, hrenew]

/-- A committed observation passed the entry checks. -/
theorem recordObservation_entry {result : ObservationResult}
    (h : recordObservation platform s input = .ok (s', result)) :
    input.isWellFormed = true ∧ s.review.propertyId = input.propertyId := by
  unfold recordObservation at h
  split at h
  · cases h
  · next hwell =>
      split at h
      · cases h
      · next hproperty => exact ⟨by simpa using hwell, not_not.1 hproperty⟩

/-- A new read that restates the rows renews the head's clock. -/
theorem recordObservation_restated
    (entry : input.isWellFormed = true ∧ s.review.propertyId = input.propertyId)
    (absent : s.observations.find? (·.observationKey == input.observationKey) = none)
    (source : s.review.sourceEpoch = input.sourceEpoch ∧
      s.review.sourceRevision = input.materialReviewRevision)
    (newer : ∀ head, s.head = some head → head.readGeneration < input.readGeneration)
    (loaded : loadPublicationEvidence s input = .ok (publicationEvidence s input))
    (restates : restatesRows platform s input = true) :
    ∃ result, recordObservation platform s input =
      .ok (renewHeadContentClock s input.contentExpiresAt, result) := by
  have hdecide : ∃ result, decideAndApply platform s input =
      .ok (renewHeadContentClock s input.contentExpiresAt, result) := by
    unfold decideAndApply
    rw [loaded]
    simp only [restatesRows, Bool.or_eq_true, beq_iff_eq] at restates
    simp only
    split
    · exact ⟨_, rfl⟩
    · next hearlier =>
        have hrestates := restates.resolve_left hearlier
        split
        · cases hhead : s.head with
          | none => simp [restatesCurrentHead, hhead] at hrestates
          | some head => exact ⟨_, rfl⟩
        · next hnot => exact absurd hrestates hnot
  unfold recordObservation
  rw [if_neg (by simp [entry.1]), if_neg (not_not.2 entry.2), absent]
  simp only
  rw [if_neg (by simp [source])]
  cases hhead : s.head with
  | none => exact hdecide
  | some head =>
      simp only
      rw [if_neg (Nat.not_le.2 (newer head hhead))]
      exact hdecide

/-- An observation recorded again right after itself succeeds and changes nothing. -/
theorem recordObservation_again {result : ObservationResult}
    (h : recordObservation platform s input = .ok (s', result)) :
    ∃ again, recordObservation platform s' input = .ok (s', again) := by
  have hentry := recordObservation_entry h
  cases recordObservation_path h with
  | replayed row found sameEvidence => exact ⟨_, h⟩
  | outdated head isHead generation isSnapshot => exact ⟨_, h⟩
  | restated _ evidence absent source newer loaded restates =>
      obtain ⟨observations, heq, hrows⟩ := renewHeadContentClock_eq s input.contentExpiresAt
      rcases hrows with rfl | ⟨head, rest, hrows, rfl⟩
      · rw [heq] at h ⊢
        exact ⟨_, h⟩
      · have hrestates : restatesRows platform s input = true := by
          obtain ⟨-, rfl⟩ := loadPublicationEvidence_eq_ok loaded
          simp only [restatesRows, Bool.or_eq_true, beq_iff_eq]
          exact restates
        have hagain : ∃ again,
            recordObservation platform (renewHeadContentClock s input.contentExpiresAt) input =
              .ok (renewHeadContentClock (renewHeadContentClock s input.contentExpiresAt)
                input.contentExpiresAt, again) := by
          refine recordObservation_restated (by rw [heq]; exact hentry) ?_
            (by rw [heq]; exact source) ?_ ?_ ?_
          · rw [heq, List.find?_eq_none]
            rw [hrows, List.find?_eq_none] at absent
            intro row hrow
            rcases List.mem_cons.1 hrow with rfl | hrow
            · exact absent head (List.mem_cons_self ..)
            · exact absent row (List.mem_cons_of_mem _ hrow)
          · intro newHead hnewHead
            rw [heq] at hnewHead
            cases hnewHead
            exact newer head (by simp [Store.head, hrows])
          · obtain ⟨hcurrent, -⟩ := loadPublicationEvidence_eq_ok loaded
            rw [heq]
            unfold loadPublicationEvidence
            rw [if_pos hcurrent]
            rfl
          · rw [heq]
            simp only [restatesRows, observationDecision, Store.head, hrows, restatesCurrentHead,
              List.head?_cons, Option.map_some] at hrestates ⊢
            exact hrestates
        rw [renewHeadContentClock_idem] at hagain
        exact hagain
  | applied evidence decision supersedes _ _ absent source newer loaded decided superseded news
      applied =>
      have hmoves : StoreMoves platform .system _ s' :=
        applyObservation_moves loaded decided superseded applied
      have hrows := hmoves.observations_eq (by decide) (by decide)
      have hreview := hmoves.review_eq (by decide)
      refine ⟨resultFromRow (observationRow platform input decision
        ((s.head.map (·.observationRevision)).getD 0 + 1)), ?_⟩
      unfold recordObservation
      have hproperty : s'.review.propertyId = input.propertyId := by
        rw [hreview]
        exact hentry.2
      rw [if_neg (by simp [hentry.1]), if_neg (not_not.2 hproperty), hrows]
      simp [appendObservation, observationRow]

/-- An observation that brings no news writes no row and no fact. -/
theorem recordObservation_no_news {result : ObservationResult}
    (h : recordObservation platform s input = .ok (s', result))
    (noNews : bringsNews platform s input = false) :
    s'.observations.length = s.observations.length ∧ s'.facts = s.facts ∧
      s'.reply = s.reply ∧ s'.attempts = s.attempts := by
  rcases recordObservation_news h with ⟨hnews, -⟩ | ⟨-, hsame | ⟨-, hrenewed⟩⟩
  · rw [noNews] at hnews
    cases hnews
  · rw [hsame]
    exact ⟨rfl, rfl, rfl, rfl⟩
  · obtain ⟨observations, heq, hrows⟩ := renewHeadContentClock_eq s input.contentExpiresAt
    rw [hrenewed, heq]
    refine ⟨?_, rfl, rfl, rfl⟩
    rcases hrows with rfl | ⟨head, rest, hrows, rfl⟩
    · rfl
    · rw [hrows]
      rfl

/-- An event that records no observation leaves the head's revision. -/
theorem headRevision_of_other {e : StoreEvent} (other : ∀ input, e ≠ .observeReply input)
    (h : e.apply platform s = .ok (some s')) : s'.headRevision = s.headRevision := by
  refine (StoreEvent.apply_moves h).headRevision_eq fun hreader ↦ ?_
  cases e with
  | observeReply input => exact other input rfl
  | _ => cases hreader

/-- The transaction of a recorded observation. -/
theorem recordObservation_of_apply
    (h : (StoreEvent.observeReply input).apply platform s = .ok (some s')) :
    ∃ result, recordObservation platform s input = .ok (s', result) := by
  simp only [StoreEvent.apply] at h
  cases hrecord : recordObservation platform s input with
  | error e =>
      rw [hrecord] at h
      cases h
  | ok recorded =>
      rw [hrecord] at h
      cases h
      exact ⟨recorded.2, rfl⟩

/-- The head's revision never decreases along a run. -/
theorem run_headRevision_le (r : Run (replySystem platform init) h s) {p : Store}
    (seen : Seen h s p) : p.headRevision ≤ s.headRevision := by
  refine r.seen_related (R := fun p s ↦ p.headRevision ≤ s.headRevision) (fun _ ↦ le_refl _)
    (fun _ _ _ h h' ↦ h.trans h') (fun _ s e s' _ hstep ↦ ?_) seen
  by_cases hobserve : ∃ input, e = .observeReply input
  · obtain ⟨input, rfl⟩ := hobserve
    obtain ⟨result, hrecord⟩ := recordObservation_of_apply hstep.2
    rw [recordObservation_headRevision hrecord]
    exact Nat.le_add_right _ _
  · push Not at hobserve
    exact (headRevision_of_other hobserve hstep.2).ge

/-- An observation that brought news left its key among the rows. -/
theorem recorded_of_news {e : StoreEvent} (isObservation : e = .observeReply input)
    (news : bringsNews platform s input = true) (h : e.apply platform s = .ok (some s')) :
    input.observationKey ∈ s'.observations.map (·.observationKey) := by
  subst isObservation
  obtain ⟨result, hrecord⟩ := recordObservation_of_apply h
  rcases recordObservation_news hrecord with ⟨-, hmoves⟩ | ⟨hnews, -⟩
  · rw [hmoves.observations_eq (by decide) (by decide)]
    exact List.mem_cons_self ..
  · rw [news] at hnews
    cases hnews

/-- Over every run of the stores of a reply: the head's revision never decreases, only recorded
observations move it, and each by one exactly when it brings news, which every new read that shows a
change does; a read that is not newer than the head changes nothing; an observation recorded again
right after itself, or at any later time once it brought news, changes nothing; and an observation
that brings no news writes no observation row and no fact and leaves the reply and its attempts. -/
theorem replyObservation_head_law (r : Run (replySystem platform init) h s) :
    (∀ p, Seen h s p → p.headRevision ≤ s.headRevision) ∧
      (∀ m ∈ h, (∀ input, m.event ≠ .observeReply input) →
        m.post.headRevision = m.pre.headRevision) ∧
      (∀ input s' result, recordObservation platform s input = .ok (s', result) →
        s'.headRevision = s.headRevision + (if bringsNews platform s input then 1 else 0) ∧
        (isNewRead s input = true →
          (observationDecision platform s input).change ≠ .unchanged →
            bringsNews platform s input = true) ∧
        (∀ head, s.head = some head → input.readGeneration ≤ head.readGeneration → s' = s) ∧
        (∃ again, recordObservation platform s' input = .ok (s', again)) ∧
        (∀ m ∈ h, m.event = .observeReply input → bringsNews platform m.pre input = true →
          s' = s) ∧
        (bringsNews platform s input = false →
          s'.observations.length = s.observations.length ∧ s'.facts = s.facts ∧
            s'.reply = s.reply ∧ s'.attempts = s.attempts)) := by
  refine ⟨fun p hp ↦ run_headRevision_le r hp, fun m hm hother ↦ ?_, fun input s' result h ↦
    ⟨recordObservation_headRevision h, bringsNews_of_change,
      fun head hhead hold ↦ recordObservation_of_outdated hhead hold h,
      recordObservation_again h, fun m hm hevent hnews ↦ ?_, recordObservation_no_news h⟩⟩
  · obtain ⟨_, -, hstep⟩ := r.of_mem hm
    exact headRevision_of_other hother hstep.2
  · obtain ⟨later, earlier, rfl⟩ := List.append_of_mem hm
    obtain ⟨-, hstep, -⟩ := r.of_append
    have hrecorded := recorded_of_news hevent hnews hstep.2
    have hnow : input.observationKey ∈ s.observations.map (·.observationKey) :=
      r.kept_since (P := fun t ↦ input.observationKey ∈ t.observations.map (·.observationKey))
        hrecorded fun n _ _ hstepN hheld ↦
          (StoreEvent.apply_moves hstepN.2).keys_suffix.subset hheld
    exact recordObservation_of_recorded hnow h

section Sample

/-- A snapshot of the sample review, with its key, read generation and text. -/
def sampleRead (key : String) (readGeneration : Nat) (text : Option Text) :
    RecordGoogleReplyObservation where
  observationKey := key
  propertyId := "property-1"
  sourceEpoch := 1
  materialReviewRevision := 1
  readGeneration := readGeneration
  publicationTarget := none
  observedText := text
  providerUpdatedAt := none
  observedAt := 0
  contentExpiresAt := 100

/-- The first snapshot, which shows `ok`. -/
def sampleFirstRead : RecordGoogleReplyObservation :=
  sampleRead "aaaaaaaaaaaaaaaaaaaaaaaaaaaaaaaaaaaaaaaaaaaaaaaaaaaaaaaaaaaaaaaa" 1 (some sampleText)

/-- A later snapshot that shows the same text. -/
def sampleSameRead : RecordGoogleReplyObservation :=
  sampleRead "bbbbbbbbbbbbbbbbbbbbbbbbbbbbbbbbbbbbbbbbbbbbbbbbbbbbbbbbbbbbbbbb" 10 (some sampleText)

/-- A snapshot that shows no reply, read before the later one. -/
def sampleAbsentRead : RecordGoogleReplyObservation :=
  sampleRead "cccccccccccccccccccccccccccccccccccccccccccccccccccccccccccccccc" 5 none

/-- The rows after one more observation. -/
def sampleRecorded (s : Store) (input : RecordGoogleReplyObservation) : Store :=
  match recordObservation samplePlatform s input with
  | .ok (s', _) => s'
  | .error _ => s

/-- The rows after the first snapshot, the one that restates it, and the older one, in this order. -/
def sampleOnce : Store :=
  sampleRecorded (sampleRecorded (sampleRecorded sampleStore sampleFirstRead) sampleSameRead)
    sampleAbsentRead

/-- The first sight of the reply raises the head to one, and telling it again changes nothing. -/
theorem replyObservation_head_law_first :
    (sampleRecorded sampleStore sampleFirstRead).headRevision = 1 ∧
      ∃ again, recordObservation samplePlatform (sampleRecorded sampleStore sampleFirstRead)
        sampleFirstRead = .ok (sampleRecorded sampleStore sampleFirstRead, again) := by
  have hrun : Run (replySystem samplePlatform fun _ ↦ True) [] sampleStore := .start trivial
  have hlaw := (replyObservation_head_law hrun).2.2 sampleFirstRead
    (sampleRecorded sampleStore sampleFirstRead) ⟨1, .added, .externalCurrentLive, false⟩ (by rfl)
  exact ⟨hlaw.1.trans (by rfl), hlaw.2.2.2.1⟩

/-- A first read that shows no reply is classified unchanged and still raises the head's revision;
and a snapshot that restated the head is applied when it is recorded again after an older read that
arrived late. -/
theorem replyObservation_head_unchanged_and_twice :
    ((observationDecision samplePlatform sampleStore sampleAbsentRead).change = .unchanged ∧
        sampleStore.headRevision = 0 ∧
        (sampleRecorded sampleStore sampleAbsentRead).headRevision = 1) ∧
      sampleOnce.headRevision = 2 ∧ (sampleRecorded sampleOnce sampleSameRead).headRevision = 3 := by
  decide

end Sample

end ReputationKey.Review
