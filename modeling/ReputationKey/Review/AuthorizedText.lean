import ReputationKey.Review.OpenAttempt
import ReputationKey.Review.ReplyHistory

/-!
# The text sent is the text authorized

A successful claim is traced back through its run: the row it took is the one its caller read, the
authorization it found is the only one of its cycle, and that row was written by the approval,
retry or edit of a manager, with the digest of the text the reply then had.
-/

namespace ReputationKey.Review

open ReputationKey.Base

variable {platform : Platform} {init : Store → Prop} {h : List (Move Store StoreEvent)}
  {s s' : Store} {row : Reply}

/-- The command and the start of the move that wrote an authorization row. -/
inductive AuthorizedBy (row : Reply) : StoreEvent → Prop
  | approve (snapshot : Reply) (intent : PublicationIntent)
      (bindingIsCurrent actorAllowed : Bool) (occurredAt : Int)
      (pending : row.status = .pendingApproval) :
      AuthorizedBy row
        (.authorize snapshot intent true bindingIsCurrent actorAllowed occurredAt)
  | retry (snapshot : Reply) (intent : PublicationIntent) (bindingIsCurrent actorAllowed : Bool)
      (occurredAt : Int) (failed : row.status = .publishFailed)
      (ended : row.publicationState = some .terminal)
      (answered : row.publicationLastErrorClass ≠ some .ambiguous) :
      AuthorizedBy row
        (.authorize snapshot intent false bindingIsCurrent actorAllowed occurredAt)
  | editPublished (snapshot : Reply) (intent : PublicationIntent) (text : Text)
      (actorAllowed : Bool) (occurredAt : Int) (published : row.status = .published) :
      AuthorizedBy row (.editPublished snapshot intent text actorAllowed occurredAt)

/-- What the move that wrote an authorization row read and left. -/
structure WrittenAuthorization (platform : Platform) (x : PublicationAuthorization)
    (m : Move Store StoreEvent) (before after : Reply) : Prop where
  read : m.pre.reply = some before
  left : m.post.reply = some after
  command : AuthorizedBy before m.event
  reply : x.replyId = after.id
  next : x.publicationCycle = before.publicationCycle + 1
  cycle : x.publicationCycle = after.publicationCycle
  authorship : after.aiGenerated = before.aiGenerated ∨ m.event.actor = .manager .editPublished
  digest : x.expectedReplyDigest = platform.googleReplyTextDigest after.text
  epoch : x.sourceEpoch = m.pre.review.sourceEpoch
  revision : x.materialReviewRevision = m.pre.review.sourceRevision

/-- The row an authorization wrote, from what its move read and left. -/
theorem AuthorizationSpec.written_row {snapshot : Reply} {command : ReplyCommand}
    {intent : PublicationIntent} {text : Text} {aiGenerated : Bool} {occurredAt : Int}
    {authorized : Store} {event : StoreEvent} {x : PublicationAuthorization}
    (spec : AuthorizationSpec platform s snapshot command intent text aiGenerated occurredAt
      authorized row)
    (command' : AuthorizedBy row event) (reply : s'.reply = authorized.reply)
    (authorizations : s'.authorizations = authorized.authorizations)
    (authorship : aiGenerated = row.aiGenerated ∨ event.actor = .manager .editPublished)
    (absent : x ∉ s.authorizations) (added : x ∈ s'.authorizations) :
    ∃ before after, WrittenAuthorization platform x ⟨s, event, s'⟩ before after := by
  rw [authorizations, spec.written] at added
  have hx := (List.mem_cons.1 added).resolve_right absent
  have hfence := spec.fence
  simp only [authorizationFenceIsCurrent, Bool.and_eq_true, beq_iff_eq] at hfence
  refine ⟨row, _, spec.present, by rw [reply, spec.written]; rfl, command', ?_, ?_, ?_,
    authorship, ?_, ?_, ?_⟩
  · rw [hx]
    rfl
  · rw [hx]
    rfl
  · rw [hx]
    rfl
  · rw [hx]
    rfl
  · rw [hx]
    exact hfence.1.1.2.symm
  · rw [hx]
    exact hfence.1.2.symm

/-- The move that added an authorization row is the command of a manager. -/
theorem writtenAuthorization_of_step {e : StoreEvent} {x : PublicationAuthorization}
    (h : e.apply platform s = .ok (some s')) (absent : x ∉ s.authorizations)
    (added : x ∈ s'.authorizations) :
    ∃ before after, WrittenAuthorization platform x ⟨s, e, s'⟩ before after := by
  obtain ⟨command, hactor, hauthorizes⟩ :=
    StoreMoves.authorizing (StoreEvent.apply_moves h) absent added
  cases e with
  | authorize snapshot intent isApproval bindingIsCurrent actorAllowed occurredAt =>
      obtain ⟨row, authorized, spec, rfl⟩ := markPublicationAuthorized_eq_ok h
      have hstart := spec.start
      have hcommand : AuthorizedBy row
          (.authorize snapshot intent isApproval bindingIsCurrent actorAllowed occurredAt) := by
        cases isApproval with
        | true =>
            exact .approve snapshot intent bindingIsCurrent actorAllowed occurredAt
              (replyCommandMayStart_approve hstart).1
        | false =>
            obtain ⟨hfailed, hended, hanswered⟩ := replyCommandMayStart_retry hstart
            exact .retry snapshot intent bindingIsCurrent actorAllowed occurredAt hfailed hended
              hanswered
      refine spec.written_row hcommand ?_ ?_ (Or.inl rfl) absent added
      · cases isApproval <;> rfl
      · cases isApproval <;> rfl
  | editPublished snapshot intent text actorAllowed occurredAt =>
      obtain ⟨row, authorized, spec, rfl⟩ := editPublishedReply_eq_ok h
      exact spec.written_row
        (.editPublished snapshot intent text actorAllowed occurredAt
          (replyCommandMayStart_edit spec.start).1) rfl rfl (Or.inr rfl) absent added
  | saveDraft snapshot text => cases hactor; simp at hauthorizes
  | deleteDraft snapshot => cases hactor; simp at hauthorizes
  | submit snapshot bindingIsCurrent => cases hactor; simp at hauthorizes
  | reject snapshot => cases hactor; simp at hauthorizes
  | _ => cases hactor

/-- Every authorization row of a reached state was written by an earlier move of its run. -/
theorem writtenAuthorization_of_run (start : ∀ s, init s → s.authorizations = [])
    (r : Run (replySystem platform init) h s) {x : PublicationAuthorization}
    (hx : x ∈ s.authorizations) :
    ∃ m ∈ h, ∃ before after, WrittenAuthorization platform x m before after := by
  have hinit : ∀ s, init s → ¬ x ∈ s.authorizations := by
    intro s hs hmem
    rw [start s hs] at hmem
    cases hmem
  obtain ⟨later, m, earlier, rfl, hbefore, hafter⟩ := r.made_true hinit hx
  have hstep := r.of_append.2.1
  exact ⟨m, by simp, writtenAuthorization_of_step hstep.2 hbefore hafter⟩

/-- Equal digests of reply texts mean equal normalized texts, when the hash is injective. -/
theorem Platform.normalized_eq_of_digest_eq (injective : Function.Injective platform.sha256Hex)
    {a b : Text} (h : platform.googleReplyTextDigest a = platform.googleReplyTextDigest b) :
    platform.normalizeGoogleReplyText a = platform.normalizeGoogleReplyText b :=
  List.append_cancel_left (injective h)

/-- A ledger holds exactly one row of a cycle it holds a row of. -/
theorem AuthorizationLedger.filter_eq (ledger : AuthorizationLedger s)
    {x : PublicationAuthorization} (hx : x ∈ s.authorizations) :
    (s.authorizations.filter fun y ↦
      y.replyId == x.replyId && y.publicationCycle == x.publicationCycle) = [x] := by
  have hmem : x ∈ s.authorizations.filter fun y ↦
      y.replyId == x.replyId && y.publicationCycle == x.publicationCycle :=
    List.mem_filter.2 ⟨hx, by simp⟩
  have hpair := ledger.increasing.filter fun y ↦
    y.replyId == x.replyId && y.publicationCycle == x.publicationCycle
  have hcycle : ∀ y ∈ s.authorizations.filter fun y ↦
      y.replyId == x.replyId && y.publicationCycle == x.publicationCycle,
        y.publicationCycle = x.publicationCycle := by
    intro y hy
    have hkey := (List.mem_filter.1 hy).2
    simp only [Bool.and_eq_true, beq_iff_eq] at hkey
    exact hkey.2
  cases hrows : s.authorizations.filter fun y ↦
      y.replyId == x.replyId && y.publicationCycle == x.publicationCycle with
  | nil =>
      rw [hrows] at hmem
      cases hmem
  | cons y rest =>
      rw [hrows] at hmem hpair hcycle
      cases rest with
      | nil => rw [List.mem_singleton.1 hmem]
      | cons z rest =>
          have hlt := (List.pairwise_cons.1 hpair).1 z (List.mem_cons_self ..)
          have hy := hcycle y (List.mem_cons_self ..)
          have hz := hcycle z (by simp)
          omega

/-- What the claim's authorization lookup compared. -/
theorem readCurrentPublicationAuthorization_eq_some {snapshot : Reply}
    {attempt : PublicationAttemptStart} {x : PublicationAuthorization}
    (h : readCurrentPublicationAuthorization platform s snapshot attempt = some x) :
    (x ∈ s.authorizations ∧ x.replyId = snapshot.id ∧
        x.publicationCycle = snapshot.publicationCycle) ∧
      (x.propertyId = attempt.propertyId ∧ x.sourceEpoch = attempt.sourceEpoch ∧
        x.materialReviewRevision = attempt.materialReviewRevision ∧
          x.baseObservationRevision = attempt.baseObservationRevision) ∧
      platform.googleReplyTextDigest snapshot.text = x.expectedReplyDigest ∧
      s.review.sourceEpoch = x.sourceEpoch ∧
        s.review.sourceRevision = x.materialReviewRevision := by
  unfold readCurrentPublicationAuthorization at h
  split at h
  · cases h
  · next authorization hfound =>
      obtain ⟨hcurrent, heq⟩ := Option.ite_none_right_eq_some.1 h
      cases heq
      have hkey := List.find?_some hfound
      simp only [Bool.and_eq_true, beq_iff_eq] at hkey hcurrent
      obtain ⟨⟨⟨⟨⟨hfence, hdigest⟩, -⟩, hepoch⟩, hrevision⟩, -⟩ := hcurrent
      exact ⟨⟨List.mem_of_find?_eq_some hfound, hkey⟩,
        ⟨hfence.1.1.1, hfence.1.1.2, hfence.1.2, hfence.2⟩, hdigest, hepoch, hrevision⟩

/-- A job that went on with a reply in a cycle carried that cycle and a whole fence. -/
theorem PublishReplyJobData.loadPublishTarget_fence {job : PublishReplyJobData} {original : Reply}
    {review : ReviewRow} (target : job.loadPublishTarget original review)
    (inCycle : 1 ≤ original.publicationCycle) :
    job.replyId = original.id ∧ job.publicationCycle = some original.publicationCycle ∧
      job.propertyId = some (job.attemptStart review).propertyId ∧
      job.sourceEpoch = some (job.attemptStart review).sourceEpoch ∧
      job.materialReviewRevision = some (job.attemptStart review).materialReviewRevision ∧
      job.baseObservationRevision = some (job.attemptStart review).baseObservationRevision := by
  have hcycle : (original.publicationCycle == 0) = false := by
    simp only [beq_eq_false_iff_ne]
    omega
  simp only [loadPublishTarget, hcycle, Bool.false_or, Bool.and_eq_true, beq_iff_eq] at target
  obtain ⟨⟨⟨⟨hid, -⟩, hrequested⟩, hfence⟩, ⟨hproperty, hepoch⟩, hrevision⟩ := target
  have hrequested' : job.publicationCycle = some original.publicationCycle := by
    cases hjob : job.publicationCycle with
    | none =>
        simp only [hjob] at hrequested
        cases hrequested
    | some cycle =>
        simp only [hjob, beq_iff_eq] at hrequested
        rw [hrequested]
  have hbase : job.baseObservationRevision =
      some (job.attemptStart review).baseObservationRevision := by
    simp only [hasCurrentAuthorizationFence, Bool.and_eq_true] at hfence
    cases hjob : job.baseObservationRevision with
    | none => simp [hjob] at hfence
    | some base => simp [attemptStart, hjob]
  refine ⟨hid.symm, hrequested', ?_, ?_, ?_, hbase⟩
  · simp [attemptStart, hproperty]
  · simp [attemptStart, hepoch]
  · simp [attemptStart, hrevision]

/-- What a successful claim of a run rests on: the one authorization of its cycle, the move that
wrote it, and the text, source and job fence that agree with it. -/
structure ClaimedByAuthorization (platform : Platform) (earlier : List (Move Store StoreEvent))
    (s : Store) (job : PublishReplyJobData) (claimed : Reply) (x : PublicationAuthorization)
    (m : Move Store StoreEvent) (before after : Reply) : Prop where
  unique : (s.authorizations.filter fun y ↦
    y.replyId == claimed.id && y.publicationCycle == claimed.publicationCycle) = [x]
  newest : ∀ y ∈ s.authorizations, y.publicationCycle ≤ claimed.publicationCycle
  isEarlier : m ∈ earlier
  written : WrittenAuthorization platform x m before after
  digest : platform.googleReplyTextDigest claimed.text = x.expectedReplyDigest
  text : platform.normalizeGoogleReplyText claimed.text =
    platform.normalizeGoogleReplyText after.text
  epoch : s.review.sourceEpoch = x.sourceEpoch
  revision : s.review.sourceRevision = x.materialReviewRevision
  jobReply : job.replyId = claimed.id
  jobCycle : job.publicationCycle = some claimed.publicationCycle
  jobFence : job.propertyId = some x.propertyId ∧ job.sourceEpoch = some x.sourceEpoch ∧
    job.materialReviewRevision = some x.materialReviewRevision ∧
      job.baseObservationRevision = some x.baseObservationRevision

/-- A claim of a run passed on the row its job read, whose text is the row's own. -/
theorem claim_reads_row (r : Run (replySystem platform init) h s) {job : PublishReplyJobData}
    {original : Reply} {review : ReviewRow} {snapshot saved : Reply}
    {environment : ClaimEnvironment} {x : PublicationAuthorization}
    (admissible : (StoreEvent.claim job original review snapshot environment).Admissible
      (Seen h s) s)
    (spec : ClaimSpec platform s snapshot (job.attemptStart review) environment s' saved row x) :
    row.text = snapshot.text ∧ row.id = snapshot.id ∧
      row.publicationCycle = snapshot.publicationCycle ∧
        original.id = snapshot.id ∧ original.publicationCycle = snapshot.publicationCycle := by
  obtain ⟨p, hseen, hread⟩ := admissible.snapshot snapshot rfl
  obtain ⟨hid, -, hrevision, hcycle, -, -⟩ :=
    (publicationSnapshotMatches_iff row snapshot .approved).1 spec.isSnapshot
  have hprecedes := run_read_precedes r hseen hread spec.present hid
  have htext := (hprecedes.content hrevision).1
  obtain ⟨-, -, -, hsame⟩ := admissible.job job original review snapshot environment rfl
  refine ⟨htext, hid, hcycle, ?_⟩
  rcases hsame with hsame | hsame
  · rw [hsame]
    exact ⟨rfl, rfl⟩
  · simp only [isSameAuthorizedCycle, Bool.and_eq_true, beq_iff_eq] at hsame
    exact ⟨hsame.1.1.1.1.symm, hsame.1.2.symm⟩

/-- Every successful claim of a run that started with no authorizations sends the text one manager
authorized, for the source it was authorized for, and only for the job of that cycle and fence; the
authorized cycles of the reply strictly increase. -/
theorem claimed_text_is_authorized (injective : Function.Injective platform.sha256Hex)
    {later earlier : List (Move Store StoreEvent)} {m : Move Store StoreEvent}
    (r : Run (replySystem platform fun s ↦ s.attempts = [] ∧ s.authorizations = [])
      (later ++ m :: earlier) s)
    (job : PublishReplyJobData) (original : Reply) (review : ReviewRow) (snapshot claimed : Reply)
    (environment : ClaimEnvironment)
    (isClaim : m.event = .claim job original review snapshot environment)
    (succeeds : markPublicationSending platform m.pre snapshot (job.attemptStart review)
      environment = .ok (.claimed m.post claimed)) :
    (∃ x n before after, ClaimedByAuthorization platform earlier m.pre job claimed x n before
        after) ∧
      (∀ p, Seen (later ++ m :: earlier) s p → p.authorizations <:+ s.authorizations) ∧
      s.authorizations.Pairwise fun newer older ↦
        older.publicationCycle < newer.publicationCycle := by
  have hinit : ∀ s : Store, s.attempts = [] ∧ s.authorizations = [] → s.authorizations = [] :=
    fun _ h ↦ h.2
  refine ⟨?_, fun p hp ↦ run_authorizations_suffix r hp,
    (authorizationLedger_of_run hinit r).increasing⟩
  obtain ⟨hearlier, hstep, -⟩ := r.of_append
  have ledger := authorizationLedger_of_run hinit hearlier
  obtain ⟨row, x, spec⟩ := markPublicationSending_claimed succeeds
  have hadmissible := hstep.1
  rw [isClaim] at hadmissible
  obtain ⟨htext, hid, hcycle, horiginalId, horiginalCycle⟩ :=
    claim_reads_row hearlier hadmissible spec
  obtain ⟨⟨hx, hxid, hxcycle⟩, hfence, hdigest, hepoch, hrevision⟩ :=
    readCurrentPublicationAuthorization_eq_some spec.authorized
  obtain ⟨n, hn, before, after, hwritten⟩ := writtenAuthorization_of_run hinit hearlier hx
  have hclaimed : claimed.id = row.id ∧ claimed.publicationCycle = row.publicationCycle ∧
      claimed.text = row.text := by
    rw [spec.returned]
    exact ⟨rfl, rfl, rfl⟩
  have hclaimedDigest : platform.googleReplyTextDigest claimed.text = x.expectedReplyDigest := by
    rw [hclaimed.2.2, htext]
    exact hdigest
  have hone : 1 ≤ original.publicationCycle := by
    obtain ⟨_, -, -, hone, -⟩ := ledger.owned x hx
    omega
  obtain ⟨-, -, htarget, -⟩ := hadmissible.job job original review snapshot environment rfl
  have hjob := PublishReplyJobData.loadPublishTarget_fence htarget hone
  refine ⟨x, n, before, after, ?_, ?_, hn, hwritten, hclaimedDigest, ?_, hepoch, hrevision, ?_, ?_,
    ?_⟩
  · have hfilter := ledger.filter_eq hx
    rw [hxid, hxcycle] at hfilter
    rw [hclaimed.1, hclaimed.2.1, hid, hcycle]
    exact hfilter
  · intro y hy
    obtain ⟨found, hfound, -, -, hle, -⟩ := ledger.owned y hy
    rw [spec.present] at hfound
    cases hfound
    omega
  · apply Platform.normalized_eq_of_digest_eq injective
    rw [hclaimedDigest]
    exact hwritten.digest
  · rw [hjob.1, hclaimed.1]
    omega
  · rw [hjob.2.1, hclaimed.2.1, hcycle, horiginalCycle]
  · rw [hjob.2.2.1, hjob.2.2.2.1, hjob.2.2.2.2.1, hjob.2.2.2.2.2, hfence.1, hfence.2.1,
      hfence.2.2.1, hfence.2.2.2]
    exact ⟨rfl, rfl, rfl, rfl⟩

/-- The characters of the sample digests keep the code units they stand for. -/
theorem sampleUnit_toNat (unit : UInt16) :
    (Char.ofNat (0x10000 + unit.toNat)).toNat = 0x10000 + unit.toNat := by
  have hlt := unit.toNat_lt
  have hvalid : (0x10000 + unit.toNat).isValidChar := Or.inr ⟨by omega, by omega⟩
  unfold Char.ofNat
  rw [dif_pos hvalid]
  rfl

/-- The hash of the sample platform tells texts apart. -/
theorem samplePlatform_injective : Function.Injective samplePlatform.sha256Hex := by
  have hunit : Function.Injective fun unit : UInt16 ↦ Char.ofNat (0x10000 + unit.toNat) := by
    intro a b h
    have heq := congrArg Char.toNat h
    simp only [sampleUnit_toNat] at heq
    exact UInt16.toNat_inj.1 (by omega)
  have hother : ∀ text : Text,
      "4b414f4951105ddeb44a9a778bdeaba185862c53a8b10def7ae84e2312b12745" ≠
        String.ofList (text.map fun unit ↦ Char.ofNat (0x10000 + unit.toNat)) := by
    intro text heq
    have hlist := (congrArg String.toList heq).trans String.toList_ofList
    cases text with
    | nil => simp at hlist
    | cons unit rest =>
        have hhead := congrArg (fun l ↦ l.head?.map Char.toNat) hlist
        simp only [List.map_cons, List.head?_cons, Option.map_some, sampleUnit_toNat] at hhead
        have hdigit : 52 = 0x10000 + unit.toNat := Option.some.inj hhead
        omega
  intro a b h
  simp only [samplePlatform] at h
  split_ifs at h with ha hb hb
  · rw [ha, hb]
  · exact absurd h (hother b)
  · exact absurd h.symm (hother a)
  · have hlist := congrArg String.toList h
    rw [String.toList_ofList, String.toList_ofList] at hlist
    exact hunit.list_map hlist

/-- The claim of an approved reply is traced back to its approval. -/
theorem claimed_text_is_authorized_approved :
    ∃ x n before after, ClaimedByAuthorization samplePlatform
      [⟨sampleStore, sampleApproval, sampleAuthorizedStore⟩] sampleAuthorizedStore sampleJob
      (applyReplyTrigger sampleAuthorizedReply (claimedReply sampleAuthorizedReply 5)) x n before
      after :=
  (claimed_text_is_authorized samplePlatform_injective
    (show Run _ ([] ++ ⟨sampleAuthorizedStore, sampleClaim, sampleSendingStore⟩ ::
      [⟨sampleStore, sampleApproval, sampleAuthorizedStore⟩]) sampleSendingStore from
        sampleRun ⟨rfl, rfl⟩)
    sampleJob sampleAuthorizedReply sampleStore.review sampleAuthorizedReply _ sampleEnvironment
    rfl rfl).1

end ReputationKey.Review
