import ReputationKey.Identity.OrganizationLifecycle
import ReputationKey.Base.Run

/-!
# Runs of lifecycle commands

What one transaction can do, the system of commands, retries and interruptions, and the invariants of
its runs.
-/

namespace ReputationKey.Identity

open Base Shared

/-! ## What a transaction does -/

namespace LifecycleCommand

/-- The Organization a command names. -/
def organizationId : LifecycleCommand → String
  | .requestClosure command => command.organizationId
  | .cancelClosure command => command.organizationId
  | .reactivate command => command.organizationId
  | .transition command => command.organizationId

/-- The row a command writes over the current one. -/
def row (current : Authority) : LifecycleCommand → Authority
  | .requestClosure command => command.row current
  | .cancelClosure command => command.row current
  | .reactivate command => command.row current
  | .transition command => command.row current

/-- The receipt a command leaves. -/
def receipt : LifecycleCommand → Option (String × ReceiptOperation)
  | .requestClosure command => some (command.operationId, .request)
  | .cancelClosure command => some (command.operationId, .cancel)
  | .reactivate command => some (command.operationId, .reactivate)
  | .transition _ => none

/-- What a command asks of the row it changes. -/
def Admits (current : Authority) : LifecycleCommand → Prop
  | .requestClosure _ => current.state = .active ∧ current.reactivationRequired = false
  | .cancelClosure command =>
      canCancelOrganizationClosure current.state current.recoverableUntil command.now = true
  | .reactivate command =>
      canReactivateOrganization (authorityStatus current) = true ∧
        (current.revision : ℤ) = command.expectedRevision ∧
        current.closureLineageId = some command.closureLineageId
  | .transition command =>
      current.state = command.source ∧ (current.revision : ℤ) = command.expectedRevision ∧
        current.closureLineageId = some command.closureLineageId ∧
        canTransitionOrganizationLifecycle command.source command.target = true

end LifecycleCommand

/-- A fact carries the revision, the state and the fence of a row. -/
structure LifecycleFact.Reports (fact : LifecycleFact) (row : Authority) : Prop where
  organizationId : fact.organizationId = row.organizationId
  revision : fact.revision = row.revision
  state : fact.state = row.state
  reactivationRequired : fact.reactivationRequired = row.reactivationRequired

/-- The receipts after a command. -/
def receiptsAfter (receipts : KeyedRecord String LifecycleReceipt)
    (status : OrganizationLifecycleStatus) :
    Option (String × ReceiptOperation) → KeyedRecord String LifecycleReceipt
  | none => receipts
  | some (operationId, operation) => receipts.set operationId ⟨operation, status⟩

/-- A command is applied: the row, one fact and the receipt are written. -/
structure LifecycleWrite (command : LifecycleCommand) (store : LifecycleStore)
    (status : OrganizationLifecycleStatus) (store' : LifecycleStore) (current : Authority) :
    Prop where
  read : store.authorities command.organizationId = some current
  admits : command.Admits current
  shape : (command.row current).stateShape = true
  answered : status = authorityStatus (command.row current)
  fresh : ∀ r, command.receipt = some r → store.receipts r.1 = none
  authorities : store'.authorities =
    store.authorities.set (command.row current).organizationId (command.row current)
  facts : ∃ fact, store'.facts = fact :: store.facts ∧ fact.Reports (command.row current)
  receipts : store'.receipts = receiptsAfter store.receipts status command.receipt

/-- A command is answered from what is stored. -/
inductive LifecycleReplay (store : LifecycleStore) :
    LifecycleCommand → OrganizationLifecycleStatus → Prop
  | receipt {command : LifecycleCommand} {operationId : String} {operation : ReceiptOperation}
      {receipt : LifecycleReceipt} : command.receipt = some (operationId, operation) →
        store.receipts operationId = some receipt → LifecycleReplay store command receipt.status
  | row {command : TransitionOrganizationLifecycleCommand} {current : Authority} :
      store.authorities command.organizationId = some current →
        (current.revision : ℤ) = command.expectedRevision + 1 →
          LifecycleReplay store (.transition command) (authorityStatus current)

/-- The update of a row writes the row it is given, in the shape the table asks for. -/
theorem updateAuthority_ok {guard : RowGuard} {old new row : Authority}
    (h : updateAuthority guard old new = .ok row) : row = new ∧ new.stateShape = true := by
  rw [updateAuthority] at h
  split at h
  · cases h
  split at h
  · cases h
  · next hviolation =>
    refine ⟨(Except.ok.inj h).symm, ?_⟩
    rw [Authority.violation] at hviolation
    split at hviolation
    · cases hviolation
    · next hshape => simpa using hshape

theorem identityOrganizationLifecycleChanged_ok {row : Authority} {lineage : Option String}
    {deadline : Option ℤ} {occurredAt : ℤ} {fact : LifecycleFact}
    (h : identityOrganizationLifecycleChanged (authorityStatus row) lineage deadline occurredAt =
      .ok fact) : fact.Reports row := by
  rw [identityOrganizationLifecycleChanged.eq_def] at h
  split at h
  · cases h
  · cases h
  · obtain ⟨_, h⟩ := ok_of_guard h
    obtain ⟨_, h⟩ := ok_of_guard h
    obtain ⟨_, h⟩ := ok_of_guard h
    obtain ⟨_, h⟩ := ok_of_guard h
    cases Except.ok.inj h
    exact ⟨rfl, rfl, rfl, rfl⟩

theorem writeReceipt_ok {receipts receipts' : KeyedRecord String LifecycleReceipt}
    {receipt : Option (String × ReceiptOperation)} {status : OrganizationLifecycleStatus}
    (h : writeReceipt receipts receipt status = .ok receipts') :
    receipts' = receiptsAfter receipts status receipt := by
  cases receipt with
  | none => exact (Except.ok.inj h).symm
  | some r =>
      obtain ⟨operationId, operation⟩ := r
      simp only [writeReceipt] at h
      obtain ⟨_, h⟩ := ok_of_guard h
      exact (Except.ok.inj h).symm

/-- What the four commands do alike. -/
theorem commitChange_ok {context : LifecycleContext} {store store' : LifecycleStore}
    {current new : Authority} {lineage : Option String} {deadline : Option ℤ} {occurredAt : ℤ}
    {receipt : Option (String × ReceiptOperation)} {status : OrganizationLifecycleStatus}
    (h : commitChange context store current new lineage deadline occurredAt receipt =
      .ok (status, store')) :
    new.stateShape = true ∧ status = authorityStatus new ∧
      store'.authorities = store.authorities.set new.organizationId new ∧
      (∃ fact, store'.facts = fact :: store.facts ∧ fact.Reports new) ∧
      store'.receipts = receiptsAfter store.receipts status receipt := by
  rw [commitChange] at h
  obtain ⟨row, hrow, h⟩ := ok_of_bind h
  obtain ⟨hnew, hshape⟩ := updateAuthority_ok hrow
  rw [hnew] at h
  obtain ⟨_, _, h⟩ := ok_of_bind h
  obtain ⟨fact, hfact, h⟩ := ok_of_bind h
  obtain ⟨receipts, hreceipts, h⟩ := ok_of_bind h
  obtain ⟨_, _, h⟩ := ok_of_bind h
  cases Except.ok.inj h
  exact ⟨hshape, rfl, rfl, ⟨fact, rfl, identityOrganizationLifecycleChanged_ok hfact⟩,
    writeReceipt_ok hreceipts⟩

theorem readAuthorityForUpdate_ok {store : LifecycleStore} {organizationId : String}
    {row : Authority} (h : readAuthorityForUpdate store organizationId = .ok row) :
    store.authorities organizationId = some row := by
  rw [readAuthorityForUpdate] at h
  split at h
  · next hread => rw [hread, Except.ok.inj h]
  · cases h

theorem replayReceipt_ok {store : LifecycleStore} {operationId organizationId : String}
    {operation : ReceiptOperation} {actorUserId reasonCode supportEvidenceRef : String}
    {replay : Option OrganizationLifecycleStatus}
    (h : replayReceipt store operationId organizationId operation actorUserId reasonCode
      supportEvidenceRef = .ok replay) :
    (store.receipts operationId = none ∧ replay = none) ∨
      ∃ receipt, store.receipts operationId = some receipt ∧ replay = some receipt.status := by
  rw [replayReceipt] at h
  split at h
  · next hnone => exact Or.inl ⟨hnone, (Except.ok.inj h).symm⟩
  · next receipt hsome =>
    obtain ⟨_, h⟩ := ok_of_guard h
    exact Or.inr ⟨receipt, hsome, (Except.ok.inj h).symm⟩

theorem validateLifecycleEvidenceRef_ok {value result : String}
    (h : validateLifecycleEvidenceRef value = .ok result) : result = value := by
  rw [validateLifecycleEvidenceRef] at h
  obtain ⟨_, h⟩ := ok_of_guard h
  obtain ⟨_, h⟩ := ok_of_guard h
  exact (Except.ok.inj h).symm

theorem assertTransition_ok {source target : OrganizationLifecycleState}
    (h : assertOrganizationLifecycleTransition source target = .ok ()) :
    canTransitionOrganizationLifecycle source target = true := by
  rw [assertOrganizationLifecycleTransition] at h
  obtain ⟨hcan, _⟩ := ok_of_guard h
  simpa using hcan

theorem requestClosure_ok {context : LifecycleContext} {store store' : LifecycleStore}
    {command : RequestOrganizationClosureCommand} {status : OrganizationLifecycleStatus}
    (h : requestClosure context store command = .ok (status, store')) :
    (store' = store ∧ LifecycleReplay store (.requestClosure command) status) ∨
      ∃ current, LifecycleWrite (.requestClosure command) store status store' current := by
  rw [requestClosure] at h
  obtain ⟨_, _, h⟩ := ok_of_bind h
  obtain ⟨replay, hreplay, h⟩ := ok_of_bind h
  rcases replayReceipt_ok hreplay with ⟨hnone, rfl⟩ | ⟨receipt, hreceipt, rfl⟩
  · obtain ⟨current, hread, h⟩ := ok_of_bind h
    obtain ⟨hadmits, h⟩ := ok_of_guard h
    obtain ⟨hshape, hstatus, hauthorities, hfacts, hreceipts⟩ := commitChange_ok h
    rw [not_or, not_not, Bool.not_eq_true] at hadmits
    refine Or.inr ⟨current, readAuthorityForUpdate_ok hread, hadmits, hshape, hstatus, ?_,
      hauthorities, hfacts, hreceipts⟩
    rintro r ⟨⟩
    exact hnone
  · cases Except.ok.inj h
    exact Or.inl ⟨rfl, .receipt rfl hreceipt⟩

theorem cancelClosure_ok {context : LifecycleContext} {store store' : LifecycleStore}
    {command : CancelOrganizationClosureCommand} {status : OrganizationLifecycleStatus}
    (h : cancelClosure context store command = .ok (status, store')) :
    (store' = store ∧ LifecycleReplay store (.cancelClosure command) status) ∨
      ∃ current, LifecycleWrite (.cancelClosure command) store status store' current := by
  rw [cancelClosure] at h
  obtain ⟨_, _, h⟩ := ok_of_bind h
  obtain ⟨replay, hreplay, h⟩ := ok_of_bind h
  rcases replayReceipt_ok hreplay with ⟨hnone, rfl⟩ | ⟨receipt, hreceipt, rfl⟩
  · obtain ⟨current, hread, h⟩ := ok_of_bind h
    obtain ⟨hadmits, h⟩ := ok_of_guard h
    obtain ⟨hshape, hstatus, hauthorities, hfacts, hreceipts⟩ := commitChange_ok h
    rw [Bool.not_eq_false] at hadmits
    refine Or.inr ⟨current, readAuthorityForUpdate_ok hread, hadmits, hshape, hstatus, ?_,
      hauthorities, hfacts, hreceipts⟩
    rintro r ⟨⟩
    exact hnone
  · cases Except.ok.inj h
    exact Or.inl ⟨rfl, .receipt rfl hreceipt⟩

theorem reactivate_ok {context : LifecycleContext} {store store' : LifecycleStore}
    {command : ReactivateOrganizationCommand} {status : OrganizationLifecycleStatus}
    (h : reactivate context store command = .ok (status, store')) :
    (store' = store ∧ LifecycleReplay store (.reactivate command) status) ∨
      ∃ current, LifecycleWrite (.reactivate command) store status store' current := by
  rw [reactivate] at h
  obtain ⟨_, _, h⟩ := ok_of_bind h
  obtain ⟨replay, hreplay, h⟩ := ok_of_bind h
  rcases replayReceipt_ok hreplay with ⟨hnone, rfl⟩ | ⟨receipt, hreceipt, rfl⟩
  · obtain ⟨current, hread, h⟩ := ok_of_bind h
    obtain ⟨hadmits, h⟩ := ok_of_guard h
    obtain ⟨hcurrent, h⟩ := ok_of_guard h
    obtain ⟨evidence, hevidence, h⟩ := ok_of_bind h
    rw [validateLifecycleEvidenceRef_ok hevidence] at h
    obtain ⟨hshape, hstatus, hauthorities, hfacts, hreceipts⟩ := commitChange_ok h
    rw [Bool.not_eq_false] at hadmits
    rw [not_or, not_not, not_not] at hcurrent
    refine Or.inr ⟨current, readAuthorityForUpdate_ok hread, ⟨hadmits, hcurrent⟩, hshape, hstatus,
      ?_, hauthorities, hfacts, hreceipts⟩
    rintro r ⟨⟩
    exact hnone
  · cases Except.ok.inj h
    exact Or.inl ⟨rfl, .receipt rfl hreceipt⟩

theorem transition_ok {context : LifecycleContext} {store store' : LifecycleStore}
    {command : TransitionOrganizationLifecycleCommand} {status : OrganizationLifecycleStatus}
    (h : transition context store command = .ok (status, store')) :
    (store' = store ∧ LifecycleReplay store (.transition command) status) ∨
      ∃ current, LifecycleWrite (.transition command) store status store' current := by
  rw [transition] at h
  obtain ⟨current, hread, h⟩ := ok_of_bind h
  have hread := readAuthorityForUpdate_ok hread
  by_cases hretry : command.isRetry current = true
  · rw [if_pos hretry] at h
    cases Except.ok.inj h
    simp only [TransitionOrganizationLifecycleCommand.isRetry, Bool.and_eq_true,
      decide_eq_true_eq] at hretry
    exact Or.inl ⟨rfl, .row hread hretry.1.1.1.1.2⟩
  · rw [if_neg hretry] at h
    obtain ⟨hcurrent, h⟩ := ok_of_guard h
    obtain ⟨_, hassert, h⟩ := ok_of_bind h
    obtain ⟨_, _, h⟩ := ok_of_bind h
    obtain ⟨evidence, hevidence, h⟩ := ok_of_bind h
    rw [validateLifecycleEvidenceRef_ok hevidence] at h
    obtain ⟨hshape, hstatus, hauthorities, hfacts, hreceipts⟩ := commitChange_ok h
    simp only [not_or, not_not] at hcurrent
    refine Or.inr ⟨current, hread,
      ⟨hcurrent.1, hcurrent.2.1, hcurrent.2.2, assertTransition_ok hassert⟩, hshape, hstatus, ?_,
      hauthorities, hfacts, hreceipts⟩
    rintro r ⟨⟩

/-- An answered command is a replay that writes nothing, or it is applied. -/
theorem LifecycleCommand.run_ok {context : LifecycleContext} {store store' : LifecycleStore}
    {command : LifecycleCommand} {status : OrganizationLifecycleStatus}
    (h : command.run context store = .ok (status, store')) :
    (store' = store ∧ LifecycleReplay store command status) ∨
      ∃ current, LifecycleWrite command store status store' current := by
  cases command with
  | requestClosure command => exact requestClosure_ok h
  | cancelClosure command => exact cancelClosure_ok h
  | reactivate command => exact reactivate_ok h
  | transition command => exact transition_ok h

end ReputationKey.Identity
