import ReputationKey.Review.StoreSpec

/-!
# Manager commands as moves

The inversion lemmas of the draft writes and of the three commands that authorize a publication
cycle, and the moves of the writers that create, delete or adopt a draft.
-/

namespace ReputationKey.Review

variable {platform : Platform} {actor : Actor} {s s' : Store} {snapshot : Reply}

/-- A start condition read of a matched snapshot holds of the row itself. -/
theorem replyCommandMayStart_of_match {row : Reply} {command : ReplyCommand}
    (hmatch : replySnapshotMatches row snapshot command)
    (hstart : replyCommandMayStart command snapshot) : replyCommandMayStart command row := by
  simp only [replySnapshotMatches, Bool.and_eq_true, beq_iff_eq] at hmatch
  obtain ⟨⟨⟨⟨⟨-, hstatus⟩, hstate⟩, hcycle⟩, -⟩, hclass⟩ := hmatch
  cases command <;>
    simp_all [replyCommandMayStart, isAtCommandStart, endedWithoutAnAnswer, hasPublicationRecord]
  exact hstart.2.2 ▸ hstart.1.2

/-- What a committed command read and wrote of the reply row. -/
structure ReplyUpdateSpec (s : Store) (snapshot : Reply) (command : ReplyCommand)
    (updates : Reply → Reply) (s' : Store) (saved row : Reply) : Prop where
  present : s.reply = some row
  start : replyCommandMayStart command row
  isSnapshot : replySnapshotMatches row snapshot command
  returned : saved = applyReplyTrigger row (replySetClause command updates row)
  written : s' = s.writeReply row (replySetClause command updates row)

/-- A command that committed started from the row it read. -/
theorem guardedReplyUpdate_spec {command : ReplyCommand} {bindingIsCurrent : Bool}
    {updates : Reply → Reply} {saved : Reply}
    (h : guardedReplyUpdate s snapshot command bindingIsCurrent updates = some (s', saved)) :
    ∃ row, ReplyUpdateSpec s snapshot command updates s' saved row := by
  obtain ⟨row, hrow, hstart, -, hmatch, rfl, rfl⟩ := guardedReplyUpdate_eq_some h
  exact ⟨row, hrow, replyCommandMayStart_of_match hmatch hstart, hmatch, rfl, rfl⟩

/-- A draft save rewrites an unsubmitted reply as the manager's own text. -/
theorem saveDraft_eq_ok {text : Text} (h : saveDraft s snapshot text = .ok (some s')) :
    ∃ row, s.reply = some row ∧ replyCommandMayStart .saveDraft row ∧
      s' = s.writeReply row { row with text := text, status := .draft, aiGenerated := false } := by
  obtain ⟨⟨written, saved⟩, hguard, rfl⟩ := Option.map_eq_some_iff.1 (Except.ok.inj h)
  obtain ⟨row, spec⟩ := guardedReplyUpdate_spec hguard
  exact ⟨row, spec.present, spec.start, spec.written⟩

/-- A submission changes only the status. -/
theorem submitReply_eq_ok {bindingIsCurrent : Bool}
    (h : submitReply s snapshot bindingIsCurrent = .ok (some s')) :
    ∃ row, s.reply = some row ∧ replyCommandMayStart .submit row ∧
      s' = (s.writeReply row { row with status := .pendingApproval }).record .submitted := by
  obtain ⟨⟨written, saved⟩, hguard, rfl⟩ := Option.map_eq_some_iff.1 (Except.ok.inj h)
  obtain ⟨row, spec⟩ := guardedReplyUpdate_spec hguard
  exact ⟨row, spec.present, spec.start, congrArg (·.record .submitted) spec.written⟩

/-- A rejection changes only the status. -/
theorem rejectReply_eq_ok (h : rejectReply s snapshot = .ok (some s')) :
    ∃ row, s.reply = some row ∧ replyCommandMayStart .reject row ∧
      s' = (s.writeReply row { row with status := .rejected }).record .rejected := by
  obtain ⟨⟨written, saved⟩, hguard, rfl⟩ := Option.map_eq_some_iff.1 (Except.ok.inj h)
  obtain ⟨row, spec⟩ := guardedReplyUpdate_spec hguard
  exact ⟨row, spec.present, spec.start, congrArg (·.record .rejected) spec.written⟩

/-- A draft save is one rewrite. -/
theorem saveDraft_moves {text : Text} (h : saveDraft s snapshot text = .ok (some s')) :
    StoreMoves platform (.manager .saveDraft) s s' := by
  obtain ⟨row, hrow, hstart, rfl⟩ := saveDraft_eq_ok h
  have hread := (replyCommandMayStart_saveDraft hstart).1
  refine .single (.rewrite row text .draft false row.originOperationId hrow ?_ (Or.inl rfl)
    (Or.inr (Or.inr (replyCommandMayStart_saveDraft hstart).2)))
  rcases hread with hread | hread
  · exact Or.inl hread
  · exact Or.inr (Or.inl hread)

/-- A submission is one rewrite. -/
theorem submitReply_moves {bindingIsCurrent : Bool}
    (h : submitReply s snapshot bindingIsCurrent = .ok (some s')) :
    StoreMoves platform (.manager .submit) s s' := by
  obtain ⟨row, hrow, hstart, rfl⟩ := submitReply_eq_ok h
  refine StoreMoves.record (.single ?_) _
  exact .rewrite row row.text .pendingApproval row.aiGenerated row.originOperationId hrow
    (Or.inl (replyCommandMayStart_submit hstart).1) (Or.inr (Or.inr ⟨rfl, rfl⟩)) (Or.inl rfl)

/-- A rejection is one rewrite. -/
theorem rejectReply_moves (h : rejectReply s snapshot = .ok (some s')) :
    StoreMoves platform (.manager .reject) s s' := by
  obtain ⟨row, hrow, hstart, rfl⟩ := rejectReply_eq_ok h
  refine StoreMoves.record (.single ?_) _
  exact .rewrite row row.text .rejected row.aiGenerated row.originOperationId hrow
    (Or.inr (Or.inr (replyCommandMayStart_reject hstart).1)) (Or.inr (Or.inl rfl)) (Or.inl rfl)

/-- What a committed authorization read and wrote. -/
structure AuthorizationSpec (platform : Platform) (s : Store) (snapshot : Reply)
    (command : ReplyCommand) (intent : PublicationIntent) (text : Text) (aiGenerated : Bool)
    (occurredAt : Int) (s' : Store) (row : Reply) : Prop where
  present : s.reply = some row
  start : replyCommandMayStart command row
  isSnapshot : replySnapshotMatches row snapshot command
  property : s.review.propertyId = intent.propertyId
  fence : authorizationFenceIsCurrent intent s
  cycle : intent.publicationCycle = row.publicationCycle + 1
  fresh : s.authorizationOf row.id (row.publicationCycle + 1) = none
  written : s' =
    { s.writeReply row
        (authorizedReply row text aiGenerated (row.publicationCycle + 1) occurredAt) with
      authorizations :=
        authorizationRow platform intent
          (applyReplyTrigger row
            (authorizedReply row text aiGenerated (row.publicationCycle + 1) occurredAt))
          occurredAt :: s.authorizations }

/-- An authorization that committed passed its fence and opened the next cycle of its row. -/
theorem authorizePublicationCycle_eq_ok {command : ReplyCommand} {intent : PublicationIntent}
    {publicationCycle : Nat} {bindingIsCurrent actorAllowed : Bool} {updates : Reply → Reply}
    {occurredAt : Int} (text : Reply → Text) (aiGenerated : Reply → Bool)
    (hset : ∀ row, replySetClause command (fun row ↦
        { updates row with
          publicationState := some .authorized
          publicationCycle := publicationCycle
          publicationAttempts := 0
          publicationLastErrorClass := none
          reconcileDueAt := some (occurredAt + publicationRecoveryReconcileDelayMs) }) row =
      authorizedReply row (text row) (aiGenerated row) publicationCycle occurredAt)
    (hcycle : assertPublicationIntentMatchesCycle snapshot intent = .ok publicationCycle)
    (h : authorizePublicationCycle platform s snapshot command intent publicationCycle
      bindingIsCurrent actorAllowed updates occurredAt = .ok (some s')) :
    ∃ row, AuthorizationSpec platform s snapshot command intent (text row) (aiGenerated row)
      occurredAt s' row := by
  have hnext : publicationCycle = snapshot.publicationCycle + 1 ∧
      intent.publicationCycle = publicationCycle := by
    unfold assertPublicationIntentMatchesCycle at hcycle
    split at hcycle
    · cases hcycle
    · next next hnext =>
        split at hcycle
        · next hintent =>
            cases hcycle
            exact ⟨nextPublicationCycle_eq_ok hnext, hintent.1⟩
        · cases hcycle
  unfold authorizePublicationCycle at h
  split at h
  · cases h
  · next hfence =>
      simp only [ne_eq, not_or, not_not, Bool.not_eq_true', Bool.not_eq_false] at hfence
      split at h
      · cases h
      · next written saved hguard =>
          obtain ⟨row, spec⟩ := guardedReplyUpdate_spec hguard
          obtain ⟨hrow, hstart, hmatch, hsaved, hwritten⟩ := spec
          rw [hset] at hsaved hwritten
          have hmatched : row.id = snapshot.id ∧
              row.publicationCycle = snapshot.publicationCycle := by
            simp only [replySnapshotMatches, Bool.and_eq_true, beq_iff_eq] at hmatch
            exact ⟨hmatch.1.1.1.1.1, hmatch.1.1.2⟩
          obtain rfl : publicationCycle = row.publicationCycle + 1 := by
            rw [hmatched.2]
            exact hnext.1
          subst hwritten hsaved
          unfold insertAuthorization at h
          split at h
          · cases h
          · next hfresh =>
              have hnone : s.authorizationOf snapshot.id (row.publicationCycle + 1) = none := by
                simpa [Store.authorizationOf, Store.writeReply] using hfresh
              have hid : snapshot.id = row.id := hmatched.1.symm
              rw [hid] at hnone
              refine ⟨row, hrow, hstart, hmatch, hfence.1, hfence.2.1, hnext.2, hnone, ?_⟩
              have hs' := Option.some.inj (Except.ok.inj h)
              rw [← hs', hid]
              rfl

/-- An authorization is one authorize move. -/
theorem AuthorizationSpec.move {command : ReplyCommand} {intent : PublicationIntent} {text : Text}
    {aiGenerated : Bool} {occurredAt : Int} {row : Reply}
    (spec : AuthorizationSpec platform s snapshot command intent text aiGenerated occurredAt s' row)
    (authorizes : command = .approve ∨ command = .retryPublication ∨ command = .editPublished)
    (unedited : command ≠ .editPublished → text = row.text ∧ aiGenerated = row.aiGenerated)
    (edited : command = .editPublished → aiGenerated = false) :
    StoreMove platform (.manager command) s s' := by
  rw [spec.written]
  exact .authorize row command intent text aiGenerated occurredAt spec.present rfl authorizes
    spec.start spec.property spec.fence spec.cycle unedited edited spec.fresh

/-- An approval or a retry that committed opened the next cycle of the row it read. -/
theorem markPublicationAuthorized_eq_ok {intent : PublicationIntent}
    {isApproval bindingIsCurrent actorAllowed : Bool} {occurredAt : Int}
    (h : markPublicationAuthorized platform s snapshot intent isApproval bindingIsCurrent
      actorAllowed occurredAt = .ok (some s')) :
    ∃ row authorized, AuthorizationSpec platform s snapshot (authorizingCommand isApproval) intent
        row.text row.aiGenerated occurredAt authorized row ∧
      s' = (authorized.recordOptional (authorizingFact isApproval)).record
        (.publicationRequested intent) := by
  unfold markPublicationAuthorized at h
  split at h
  · cases h
  · split at h
    · cases h
    · next publicationCycle hcycle =>
        split at h
        · cases h
        · cases h
        · next authorized hauthorize =>
            cases h
            obtain ⟨row, spec⟩ := authorizePublicationCycle_eq_ok (·.text) (·.aiGenerated)
              (fun row ↦ by cases isApproval <;> rfl) hcycle hauthorize
            exact ⟨row, authorized, spec, rfl⟩

/-- An approval or a retry is one authorize move and its facts. -/
theorem markPublicationAuthorized_moves {intent : PublicationIntent}
    {isApproval bindingIsCurrent actorAllowed : Bool} {occurredAt : Int}
    (h : markPublicationAuthorized platform s snapshot intent isApproval bindingIsCurrent
      actorAllowed occurredAt = .ok (some s')) :
    StoreMoves platform (.manager (authorizingCommand isApproval)) s s' := by
  obtain ⟨row, authorized, spec, rfl⟩ := markPublicationAuthorized_eq_ok h
  refine StoreMoves.record (StoreMoves.recordOptional (.single ?_) _) _
  refine spec.move ?_ (fun _ ↦ ⟨rfl, rfl⟩) fun hedit ↦ ?_
  · cases isApproval
    · exact Or.inr (Or.inl rfl)
    · exact Or.inl rfl
  · cases isApproval <;> cases hedit

/-- An edit that committed opened the next cycle of a published reply with the manager's text. -/
theorem editPublishedReply_eq_ok {intent : PublicationIntent} {text : Text} {actorAllowed : Bool}
    {occurredAt : Int}
    (h : editPublishedReply platform s snapshot intent text actorAllowed occurredAt =
      .ok (some s')) :
    ∃ row authorized, AuthorizationSpec platform s snapshot .editPublished intent text false
        occurredAt authorized row ∧
      s' = (authorized.record .updated).record (.publicationRequested intent) := by
  unfold editPublishedReply at h
  split at h
  · cases h
  · split at h
    · cases h
    · next publicationCycle hcycle =>
        split at h
        · cases h
        · cases h
        · next authorized hauthorize =>
            cases h
            obtain ⟨row, spec⟩ := authorizePublicationCycle_eq_ok (fun _ ↦ text) (fun _ ↦ false)
              (fun row ↦ rfl) hcycle hauthorize
            exact ⟨row, authorized, spec, rfl⟩

/-- An edit is one authorize move and its facts. -/
theorem editPublishedReply_moves {intent : PublicationIntent} {text : Text} {actorAllowed : Bool}
    {occurredAt : Int}
    (h : editPublishedReply platform s snapshot intent text actorAllowed occurredAt =
      .ok (some s')) : StoreMoves platform (.manager .editPublished) s s' := by
  obtain ⟨row, authorized, spec, rfl⟩ := editPublishedReply_eq_ok h
  refine StoreMoves.record (StoreMoves.record (.single ?_) _) _
  exact spec.move (Or.inr (Or.inr rfl)) (fun h ↦ absurd rfl h) fun _ ↦ rfl

/-- A new draft is one create move. -/
theorem createDraft_moves {newId : Nat} {text : Text} (h : createDraft s newId text = some s') :
    StoreMoves platform (.author newId) s s' := by
  unfold createDraft at h
  split at h
  · cases h
  · next habsent =>
      cases h
      exact .single (.create _ rfl habsent rfl rfl rfl)

/-- An adopted suggestion is one create or one rewrite. -/
theorem acceptSuggestedDraft_moves {newId operationId : Nat} {text : Text}
    (h : acceptSuggestedDraft s newId text operationId = some s') : StoreMoves platform (.author newId) s s' := by
  unfold acceptSuggestedDraft at h
  split at h
  · next habsent =>
      cases h
      exact .single (.create _ rfl habsent rfl rfl rfl)
  · next row hrow =>
      split at h
      · next hread =>
          cases h
          refine .single (.rewrite row text .draft true (some operationId) hrow ?_ (Or.inl rfl)
            (Or.inr (Or.inl rfl)))
          rcases hread with hread | hread
          · exact Or.inl hread
          · exact Or.inr (Or.inl hread)
      · cases h

/-- A deleted draft is one delete move. -/
theorem deleteDraft_moves (h : deleteDraft s snapshot = some s') : StoreMoves platform actor s s' := by
  unfold deleteDraft at h
  split at h
  · cases h
  · split at h
    · next hany =>
        cases h
        obtain ⟨row, hrow, hmatch⟩ := (Option.any_eq_true _ _).1 hany
        simp only [Bool.and_eq_true, beq_iff_eq] at hmatch
        exact .single (.delete row hrow hmatch.1.2)
    · cases h

end ReputationKey.Review
