import ReputationKey.Review.GuestEditFence
import ReputationKey.Review.OracleRefinement

/-!
# The states a stored reply passes through

Whatever is done to a reply, on rows however old, its status and publication state stay a pair the
workflow lists or one of the two a restore leaves, which writes the publication state and not the
status (`src/src/shared/db/recovery/postgres-recovery-fence.ts:255–273`). One of these two is final.
No attempt row is lost, and no new cycle opens while the outcome of an attempt is open.
-/

namespace ReputationKey.Review

open ReputationKey.Base

variable {platform : Platform} {init : Store → Prop} {actor : Actor}
  {h : List (Move Store StoreEvent)} {s s' : Store} {row : Reply} {status : ReplyStatus}
  {state : PublicationStateInput} {errorClass : Option PublicationFailureClass}

/-! ## Statuses and publication states -/

/-- The statuses and publication states of stored replies: those the workflow lists, and an approved
reply whose open cycle a restore cancelled or left without an answer. -/
def storedReplyStates : List (ReplyStatus × PublicationStateInput) :=
  Oracle.legalReplyStates ++ [(.approved, some .cancelled), (.approved, some .ambiguous)]

/-- Whether a reply is in one of these. -/
def Reply.IsStored (row : Reply) : Prop := (row.status, row.publicationState) ∈ storedReplyStates

/-- An unsubmitted or pending reply is outside publication, and stays stored under any such
status. -/
theorem Reply.IsStored.outside (stored : row.IsStored)
    (read : row.status = .draft ∨ row.status = .rejected ∨ row.status = .pendingApproval)
    (written : status = .draft ∨ status = .rejected ∨ status = .pendingApproval) :
    (status, row.publicationState) ∈ storedReplyStates := by
  unfold IsStored at stored
  generalize row.status = before, row.publicationState = state at *
  rcases state with _ | state <;> try cases state
  all_goals rcases read with rfl | rfl | rfl <;> rcases written with rfl | rfl | rfl <;>
    first | decide | exact absurd stored (by decide)

/-- A reply in an open cycle is approved. -/
theorem Reply.IsStored.approved (stored : row.IsStored)
    (read : isUndispatchedOpenCycle row ∨ row.publicationState = some .sending) :
    row.status = .approved := by
  unfold IsStored at stored
  unfold isUndispatchedOpenCycle at read
  generalize row.status = status, row.publicationState = state at *
  cases status <;> rcases state with _ | state <;> try cases state
  all_goals first | rfl | exact absurd read (by decide) | exact absurd stored (by decide)

/-- A publication write leaves a stored reply stored. -/
theorem PublicationChange.stored
    (change : PublicationChange row status state errorClass) (stored : row.IsStored) :
    (status, state) ∈ storedReplyStates := by
  cases change with
  | deferred => exact stored
  | accepted read | restoreUncertain read =>
      rw [stored.approved (Or.inr read)]
      decide
  | requeued approved =>
      rw [approved]
      decide
  | failed | uncertain | neverDispatched | cancelled | confirmed => decide
  | takenBack takenBack read =>
      unfold takenBackByGuestEdit at read
      split at read
      · cases read
      · split at read
        · cases read
          split <;> decide
        · split at read
          · cases read
          · cases read
            exact show (ReplyStatus.draft, some .cancelled) ∈ storedReplyStates by decide
  | restoreCancelled read =>
      rw [stored.approved (Or.inl read)]
      decide

/-- Every move leaves a stored reply stored. -/
theorem StoreMove.stored (m : StoreMove platform actor s s')
    (stored : ∀ row, s.reply = some row → row.IsStored) :
    ∀ row, s'.reply = some row → row.IsStored := by
  intro row' hrow'
  cases m with
  | told | observed | reviewed => exact stored row' hrow'
  | create row isAuthor absent isDraft hasNoState =>
      cases hrow'
      unfold Reply.IsStored
      rw [isDraft, hasNoState]
      decide
  | delete => cases hrow'
  | rewrite row text status aiGenerated origin present read written =>
      cases hrow'
      exact (stored row present).outside read (written.imp id (Or.imp id And.left))
  | authorize =>
      cases hrow'
      exact show (ReplyStatus.approved, some .authorized) ∈ storedReplyStates by decide
  | withdraw =>
      cases hrow'
      exact show (ReplyStatus.draft, some .cancelled) ∈ storedReplyStates by decide
  | claim row attempt now present isWorker approved =>
      cases hrow'
      change (row.status, some .sending) ∈ storedReplyStates
      rw [approved]
      decide
  | publication row status state errorClass dueAt selects set present change =>
      cases hrow'
      exact change.stored (stored row present)

/-- After every run from a reply in a state of the workflow, whatever the age of the rows its events
carried, the reply is in such a state or in one of the two a restore leaves. -/
theorem reply_states_of_run
    (r : Run (replySystem platform fun s ↦ ∀ row, s.reply = some row → row.isLegal) h s)
    (present : s.reply = some row) :
    row.isLegal ∨ row.status = .approved ∧
      (row.publicationState = some .cancelled ∨ row.publicationState = some .ambiguous) := by
  have stored : ∀ row, s.reply = some row → row.IsStored := by
    refine run_invariant_of_moves (I := fun s ↦ ∀ row, s.reply = some row → row.IsStored)
      (fun s legal row present ↦ ?_) (fun _ _ _ stored m ↦ m.stored stored) r
    obtain ⟨state, hmem, hstate⟩ := List.any_eq_true.1 (legal row present)
    simp only [Bool.and_eq_true, beq_iff_eq] at hstate
    refine List.mem_append_left _ ?_
    rwa [← hstate.1, ← hstate.2]
  have hstored := stored row present
  unfold Reply.IsStored at hstored
  unfold Reply.isLegal
  generalize row.status = status, row.publicationState = state at *
  cases status <;> rcases state with _ | state <;> try cases state
  all_goals first | decide | exact absurd hstored (by decide)

/-- A restore after an approval, as a run. -/
theorem restoredRun {init : Store → Prop} (start : init sampleStore) :
    Run (replySystem samplePlatform init)
      ([] ++ ⟨sampleAuthorizedStore, .restore, applyRestoreFence sampleAuthorizedStore⟩ ::
        [⟨sampleStore, sampleApproval, sampleAuthorizedStore⟩])
      (applyRestoreFence sampleAuthorizedStore) := by
  have approval : Run (replySystem samplePlatform init) ([] ++ _ :: [_]) _ := sampleRun start
  refine .next approval.of_append.1 ⟨⟨?_, ?_, ?_, ?_, ?_⟩, rfl⟩ <;> intros <;> contradiction

/-- A restore leaves an approved reply in a state the workflow does not list. -/
theorem reply_states_of_run_restored :
    ∃ row, (applyRestoreFence sampleAuthorizedStore).reply = some row ∧ row.isLegal = false ∧
      row.status = .approved := by
  refine ⟨_, rfl, by decide, ?_⟩
  refine ((reply_states_of_run (restoredRun fun row hrow ↦ ?_) rfl).resolve_left (by decide)).1
  cases hrow
  decide

/-! ## A cycle a restore cancelled -/

/-- A reply as a restore leaves it when it cancels its cycle: approved and outside publication, with
the identity, text and cycle it had. -/
def HeldByRestore (row : Reply) (s : Store) : Prop :=
  ∃ held, s.reply = some held ∧ held.status = .approved ∧
    held.publicationState = some .cancelled ∧ held.id = row.id ∧ held.text = row.text ∧
    held.publicationCycle = row.publicationCycle

/-- No publication write starts from it but one that defers its due time. -/
theorem PublicationChange.of_held
    (change : PublicationChange row status state errorClass) (approved : row.status = .approved)
    (cancelled : row.publicationState = some .cancelled) :
    status = .approved ∧ state = some .cancelled := by
  cases change with
  | deferred => exact ⟨approved, cancelled⟩
  | accepted read | requeued _ read | restoreUncertain read =>
      rw [cancelled] at read
      cases read
  | failed _ read | uncertain read | neverDispatched read | cancelled read | confirmed _ read
  | restoreCancelled read =>
      simp [cancelled, awaitsOutcome, isUncertainPublicationState, isUndispatchedOpenCycle] at read
  | takenBack takenBack read =>
      simp [takenBackByGuestEdit, replyCommandMayStart, isAtCommandStart, replyCommandStarts,
        approved] at read

/-- No command starts from it. -/
theorem replyCommandMayStart_of_held (approved : row.status = .approved)
    (cancelled : row.publicationState = some .cancelled) (command : ReplyCommand) :
    replyCommandMayStart command row = false := by
  cases command <;>
    simp [replyCommandMayStart, isAtCommandStart, replyCommandStarts, unconfirmedPublication,
      approved, cancelled]

/-- Every move leaves it so. -/
theorem StoreMove.held (m : StoreMove platform actor s s') (held : HeldByRestore row s) :
    HeldByRestore row s' := by
  obtain ⟨found, hfound, hstatus, hstate, hid, htext, hcycle⟩ := held
  cases m with
  | told | observed | reviewed => exact ⟨found, hfound, hstatus, hstate, hid, htext, hcycle⟩
  | create _ _ absent => rw [hfound] at absent; cases absent
  | delete _ present never =>
      cases hfound.symm.trans present
      rw [hstate] at never
      cases never
  | rewrite _ _ _ _ _ present read =>
      cases hfound.symm.trans present
      simp [hstatus] at read
  | authorize _ command _ _ _ _ present _ _ start =>
      cases hfound.symm.trans present
      simp [replyCommandMayStart_of_held hstatus hstate] at start
  | claim _ _ _ present _ _ read =>
      cases hfound.symm.trans present
      rw [hstate] at read
      cases read
  | publication _ _ _ _ _ _ _ present change =>
      cases hfound.symm.trans present
      obtain ⟨rfl, rfl⟩ := change.of_held hstatus hstate
      exact ⟨_, rfl, rfl, rfl, hid, htext, hcycle⟩
  | withdraw _ present _ undispatched =>
      cases hfound.symm.trans present
      simp [isUndispatchedOpenCycle, isBackAfterCancelledCycle, hstatus, hstate] at undispatched

/-- Every transaction leaves it so. -/
theorem StoreMoves.held (moves : StoreMoves platform actor s s') (held : HeldByRestore row s) :
    HeldByRestore row s' := by
  induction moves with
  | refl => exact held
  | tail _ move ih => exact move.held ih

/-- A reply whose open cycle a restore cancelled stays approved and cancelled for good: whatever runs
afterwards, it keeps its text and cycle, and no command may start from it. -/
theorem restored_cancellation_is_final {later earlier : List (Move Store StoreEvent)}
    {m : Move Store StoreEvent} (r : Run (replySystem platform init) (later ++ m :: earlier) s)
    (restores : m.event = .restore) (present : m.pre.reply = some row)
    (approved : row.status = .approved) (isOpen : isUndispatchedOpenCycle row) :
    ∃ held, s.reply = some held ∧ held.id = row.id ∧ held.text = row.text ∧
      held.publicationCycle = row.publicationCycle ∧ held.status = .approved ∧
      held.publicationState = some .cancelled ∧
      ∀ command, replyCommandMayStart command held = false := by
  have hpost : HeldByRestore row m.post := by
    obtain ⟨pre, event, post⟩ := m
    have hcommit := r.of_append.2.1.2
    cases restores
    obtain rfl : applyRestoreFence pre = post := Option.some.inj (Except.ok.inj hcommit)
    refine ⟨_, congrArg (Option.map _) present, ?_⟩
    simp [applyReplyTrigger, restoreFencedReply, isOpen, approved]
  obtain ⟨held, hheld, hstatus, hstate, hid, htext, hcycle⟩ :=
    r.kept_since (P := HeldByRestore row) hpost fun n _ _ hstep held ↦
      (StoreEvent.apply_moves hstep.2).held held
  exact ⟨held, hheld, hid, htext, hcycle, hstatus, hstate,
    replyCommandMayStart_of_held hstatus hstate⟩

/-- The reply of a restore after an approval. -/
theorem restored_cancellation_is_final_approved :
    ∃ held, (applyRestoreFence sampleAuthorizedStore).reply = some held ∧ held.text = sampleText ∧
      ∀ command, replyCommandMayStart command held = false := by
  obtain ⟨held, hheld, -, htext, -, -, -, hrefused⟩ :=
    restored_cancellation_is_final (@restoredRun (fun _ ↦ True) trivial) rfl rfl rfl rfl
  exact ⟨held, hheld, htext, hrefused⟩

/-! ## Attempts before an authorization -/

/-- An approval, a retry or an edit of a published reply. -/
def StoreEvent.authorizes : StoreEvent → Bool
  | .authorize _ _ _ _ _ _ | .editPublished _ _ _ _ _ => true
  | _ => false

/-- The row an attempt has become: only its outcome and the observation that confirmed it may
differ. -/
def PublicationAttempt.Became (a b : PublicationAttempt) : Prop :=
  b =
    { a with
      outcome := b.outcome
      confirmedObservationRevision := b.confirmedObservationRevision }

/-- Every attempt row of a store is still in a later one. -/
def AttemptsKept (p s : Store) : Prop := ∀ a ∈ p.attempts, ∃ b ∈ s.attempts, a.Became b

/-- A move keeps every attempt row. -/
theorem StoreMove.attemptsKept (m : StoreMove platform actor s s') : AttemptsKept s s' := by
  intro a ha
  have hset : ∀ (selects : PublicationAttempt → Bool)
      (set : PublicationAttempt → PublicationAttempt), a.Became (set a) →
      ∃ b ∈ (s.setAttempts selects set).attempts, a.Became b := by
    intro selects set hbecame
    refine ⟨_, List.mem_map_of_mem ha, ?_⟩
    split
    · exact hbecame
    · rfl
  cases m with
  | told | observed | reviewed | create | delete | rewrite | authorize => exact ⟨a, ha, rfl⟩
  | claim => exact ⟨a, List.mem_cons_of_mem _ ha, rfl⟩
  | publication row status state errorClass dueAt selects set present change settles =>
      exact hset selects set (settles.keepsEvidence a)
  | withdraw row present isAi undispatched selects =>
      exact hset selects (PublicationAttempt.settle .superseded) rfl

/-- Attempts of a later store are those of a store in between, as they have become. -/
theorem AttemptsKept.trans {p : Store} (first : AttemptsKept p s) (second : AttemptsKept s s') :
    AttemptsKept p s' := by
  intro a ha
  obtain ⟨b, hb, hab⟩ := first a ha
  obtain ⟨c, hc, hbc⟩ := second b hb
  unfold PublicationAttempt.Became at hab hbc ⊢
  rw [hab] at hbc
  exact ⟨c, hc, hbc⟩

/-- What opens a new cycle finds a reply that awaits nothing. -/
theorem awaitsOutcome_of_authorizes {e : StoreEvent} (authorizes : e.authorizes)
    (commits : e.apply platform s = .ok (some s')) : ∃ row, s.reply = some row ∧
      awaitsOutcome row.publicationState row.publicationLastErrorClass = false := by
  cases e with
  | authorize snapshot intent isApproval =>
      obtain ⟨row, _, spec, -⟩ := markPublicationAuthorized_eq_ok commits
      refine ⟨row, spec.present, awaitsOutcome_of_authorizing ?_ spec.start⟩
      cases isApproval
      · exact Or.inr (Or.inl rfl)
      · exact Or.inl rfl
  | editPublished =>
      obtain ⟨row, _, spec, -⟩ := editPublishedReply_eq_ok commits
      exact ⟨row, spec.present, awaitsOutcome_of_authorizing (Or.inr (Or.inr rfl)) spec.start⟩
  | _ => cases authorizes

/-- Whenever an approval, a retry or an edit opens a new cycle, each attempt the reply ever had is
still on record, with the evidence it was written with, and its outcome is settled. -/
theorem authorization_follows_settlement (start : ∀ s, init s → s.attempts = [])
    {later earlier : List (Move Store StoreEvent)} {m : Move Store StoreEvent}
    (r : Run (replySystem platform init) (later ++ m :: earlier) s) (authorizes : m.event.authorizes)
    {p : Store} (seen : Seen earlier m.pre p) :
    ∀ a ∈ p.attempts, ∃ b ∈ m.pre.attempts, a.Became b ∧ ¬ isOpenAttemptOutcome b.outcome := by
  obtain ⟨hbefore, ⟨-, hcommit⟩, -⟩ := r.of_append
  obtain ⟨row, present, settled⟩ := awaitsOutcome_of_authorizes authorizes hcommit
  have hkept : AttemptsKept p m.pre :=
    run_related_of_moves (R := AttemptsKept) (fun _ a ha ↦ ⟨a, ha, rfl⟩)
      (fun _ _ _ ↦ AttemptsKept.trans) (fun _ _ _ move ↦ move.attemptsKept) hbefore seen
  have hinv : OpenAttemptInvariant m.pre :=
    run_invariant_of_moves (fun s hs ↦ .of_nil (start s hs)) (fun _ _ _ inv move ↦ inv.move move)
      hbefore
  intro a ha
  obtain ⟨b, hb, hbecame⟩ := hkept a ha
  exact ⟨b, hb, hbecame, hinv.no_open present settled b hb⟩

/-- A retry after a failure: the failed attempt is on record and settled. -/
theorem authorization_follows_settlement_retried : sampleFailed.attempts ≠ [] ∧
    ∀ a ∈ sampleFailed.attempts, ∃ b ∈ sampleFailed.attempts,
      a.Became b ∧ ¬ isOpenAttemptOutcome b.outcome := by
  refine ⟨by decide, ?_⟩
  obtain ⟨h, r⟩ := sampleFailed_reached
  let retry : StoreEvent := .authorize (sampleRow sampleFailed)
    { sampleIntent with publicationCycle := 2 } false true true 9
  have r' : Run (replySystem samplePlatform StartsPlaced)
      ([] ++ ⟨sampleFailed, retry, sampleAfter sampleFailed retry⟩ :: h)
      (sampleAfter sampleFailed retry) :=
    r.next ⟨StoreEvent.admissible_of_current (Or.inl rfl) rfl rfl (by decide), by rfl⟩
  exact authorization_follows_settlement (fun _ h ↦ h.1) r' rfl (Or.inl rfl)

end ReputationKey.Review
