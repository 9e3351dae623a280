import ReputationKey.Identity.LifecycleRun

/-!
# What the lifecycle authority guarantees

Revisions and facts, retries, the shape of every row, the edges that no command takes back, the fence
and the recovery deadline, over every run and under every trigger on the table.
-/

namespace ReputationKey.Identity

open Base Shared

/-! ## The system -/

/-- A command as it meets the store: the role the membership table gives its actor, and where its
transaction is interrupted. -/
structure LifecycleEvent where
  command : LifecycleCommand
  role : Option String
  interrupt : Option FaultStage
  deriving DecidableEq, Repr

variable (guard : RowGuard)

/-- The transaction of an event. -/
def LifecycleEvent.outcome (e : LifecycleEvent) (s : LifecycleStore) :
    Except LifecycleError (OrganizationLifecycleStatus × LifecycleStore) :=
  e.command.run ⟨guard, e.role, e.interrupt⟩ s

/-- What the caller is answered. -/
def LifecycleStore.answer (s : LifecycleStore) (e : LifecycleEvent) :
    Except LifecycleError OrganizationLifecycleStatus :=
  (e.outcome guard s).map Prod.fst

/-- The store after a transaction; one that is refused or interrupted leaves it as it was. -/
def LifecycleStore.next (s : LifecycleStore) (e : LifecycleEvent) : LifecycleStore :=
  match e.outcome guard s with
  | .ok (_, s') => s'
  | .error _ => s

/-- Commands on Organizations that were just provisioned. -/
def lifecycleSystem : ReadSystem LifecycleStore LifecycleEvent where
  init s := (∀ organizationId row, s.authorities organizationId = some row →
      ∃ createdAt, row = provisionedAuthority organizationId createdAt) ∧
    s.receipts = KeyedRecord.empty ∧ s.facts = []
  step _ s e s' := s' = s.next guard e

variable {guard}

/-- A transaction is answered from what is stored, refused, or applied. -/
theorem LifecycleStore.next_cases (guard : RowGuard) (s : LifecycleStore) (e : LifecycleEvent) :
    (s.next guard e = s ∧
      ∀ status, s.answer guard e = .ok status → LifecycleReplay s e.command status) ∨
    ∃ status current, s.answer guard e = .ok status ∧
      LifecycleWrite e.command s status (s.next guard e) current := by
  rw [LifecycleStore.next, LifecycleStore.answer]
  cases houtcome : e.outcome guard s with
  | error error =>
      refine Or.inl ⟨rfl, ?_⟩
      rintro status ⟨⟩
  | ok result =>
      obtain ⟨status, s'⟩ := result
      rcases LifecycleCommand.run_ok houtcome with ⟨hsame, hreplay⟩ | ⟨current, hwrite⟩
      · refine Or.inl ⟨hsame, ?_⟩
        rintro _ ⟨⟩
        exact hreplay
      · exact Or.inr ⟨status, current, rfl, hwrite⟩

@[simp] theorem LifecycleCommand.row_organizationId (command : LifecycleCommand)
    (current : Authority) : (command.row current).organizationId = current.organizationId := by
  cases command <;> rfl

@[simp] theorem LifecycleCommand.row_revision (command : LifecycleCommand) (current : Authority) :
    (command.row current).revision = current.revision + 1 := by
  cases command <;> rfl

/-- The rows stand under their own Organizations. -/
def LifecycleStore.Keyed (s : LifecycleStore) : Prop :=
  ∀ organizationId row, s.authorities organizationId = some row →
    row.organizationId = organizationId

namespace LifecycleWrite

variable {command : LifecycleCommand} {s s' : LifecycleStore} {status : OrganizationLifecycleStatus}
  {current : Authority}

/-- An applied command writes the row of its Organization, and no other. -/
theorem authority (h : LifecycleWrite command s status s' current) (keyed : s.Keyed)
    (organizationId : String) : s'.authorities organizationId =
      if organizationId = command.organizationId then some (command.row current)
      else s.authorities organizationId := by
  rw [h.authorities, KeyedRecord.set, command.row_organizationId, keyed _ _ h.read]

theorem keyed (h : LifecycleWrite command s status s' current) (keyed : s.Keyed) : s'.Keyed := by
  intro organizationId row hrow
  rw [h.authority keyed] at hrow
  split at hrow
  · next hown =>
    rw [← Option.some.inj hrow, command.row_organizationId, keyed _ _ h.read, hown]
  · exact keyed _ _ hrow

theorem changes (h : LifecycleWrite command s status s' current) : s' ≠ s := by
  obtain ⟨fact, hfacts, _⟩ := h.facts
  intro hsame
  rw [hsame] at hfacts
  exact absurd (congrArg List.length hfacts) (by simp)

end LifecycleWrite

/-- A call that changed something was applied. -/
theorem write_of_changed {s : LifecycleStore} {e : LifecycleEvent} (changed : s.next guard e ≠ s) :
    ∃ status current, s.answer guard e = .ok status ∧
      LifecycleWrite e.command s status (s.next guard e) current := by
  rcases s.next_cases guard e with ⟨hsame, _⟩ | hwrite
  · exact absurd hsame changed
  · exact hwrite

theorem keyed_of_run {h : List (Move LifecycleStore LifecycleEvent)} {s : LifecycleStore}
    (r : Run (lifecycleSystem guard) h s) : s.Keyed := by
  apply r.invariant (I := LifecycleStore.Keyed)
  · rintro s ⟨hfresh, _⟩ organizationId row hrow
    obtain ⟨createdAt, rfl⟩ := hfresh organizationId row hrow
    rfl
  · rintro h s e s' _ hkeyed rfl
    rcases s.next_cases guard e with ⟨hsame, _⟩ | ⟨status, current, _, hwrite⟩
    · rw [hsame]
      exact hkeyed
    · exact hwrite.keyed hkeyed

/-! ## Revisions and facts -/

/-- An applied command raises its Organization's revision by one and leaves one fact that reports the
new row. -/
theorem applied_reports {h : List (Move LifecycleStore LifecycleEvent)} {s : LifecycleStore}
    (r : Run (lifecycleSystem guard) h s) {e : LifecycleEvent} (changed : s.next guard e ≠ s) :
    ∃ before after fact, s.authorities e.command.organizationId = some before ∧
      (s.next guard e).authorities e.command.organizationId = some after ∧
      after.revision = before.revision + 1 ∧ (s.next guard e).facts = fact :: s.facts ∧
      fact.organizationId = e.command.organizationId ∧ fact.Reports after ∧
      ∀ other ≠ e.command.organizationId,
        (s.next guard e).authorities other = s.authorities other := by
  have hkeyed := keyed_of_run r
  obtain ⟨status, current, _, hwrite⟩ := write_of_changed changed
  obtain ⟨fact, hfacts, hreports⟩ := hwrite.facts
  refine ⟨current, e.command.row current, fact, hwrite.read, ?_, e.command.row_revision current,
    hfacts, ?_, hreports, ?_⟩
  · rw [hwrite.authority hkeyed, if_pos rfl]
  · rw [hreports.organizationId, e.command.row_organizationId, hkeyed _ _ hwrite.read]
  · intro other hother
    rw [hwrite.authority hkeyed, if_neg hother]

/-- The revisions that the facts of an Organization carry, the newest first. -/
def LifecycleStore.factRevisions (s : LifecycleStore) (organizationId : String) : List ℕ :=
  (s.facts.filter fun fact ↦ decide (fact.organizationId = organizationId)).map (·.revision)

/-- Every revision from the first to the current one has exactly one fact. -/
theorem factRevisions_of_run {h : List (Move LifecycleStore LifecycleEvent)} {s : LifecycleStore}
    (r : Run (lifecycleSystem guard) h s) : ∀ organizationId row,
      s.authorities organizationId = some row →
        s.factRevisions organizationId = ((List.range row.revision).map (· + 1)).reverse := by
  apply r.invariant (I := fun s ↦ ∀ organizationId row, s.authorities organizationId = some row →
    s.factRevisions organizationId = ((List.range row.revision).map (· + 1)).reverse)
  · rintro s ⟨hfresh, _, hfacts⟩ organizationId row hrow
    obtain ⟨createdAt, rfl⟩ := hfresh organizationId row hrow
    simp [LifecycleStore.factRevisions, hfacts, provisionedAuthority]
  · rintro h s e s' r ih rfl
    rcases s.next_cases guard e with ⟨hsame, _⟩ | ⟨status, current, _, hwrite⟩
    · rw [hsame]
      exact ih
    · have hkeyed := keyed_of_run r
      obtain ⟨fact, hfacts, hreports⟩ := hwrite.facts
      have horganization : fact.organizationId = e.command.organizationId := by
        rw [hreports.organizationId, e.command.row_organizationId, hkeyed _ _ hwrite.read]
      intro organizationId row hrow
      rw [hwrite.authority hkeyed] at hrow
      rw [LifecycleStore.factRevisions, hfacts]
      by_cases hown : organizationId = e.command.organizationId
      · rw [if_pos hown] at hrow
        have hbefore := ih organizationId current (hown ▸ hwrite.read)
        rw [List.filter_cons_of_pos (by simp [horganization, hown]), List.map_cons,
          hreports.revision, ← Option.some.inj hrow, e.command.row_revision, List.range_succ,
          List.map_append, List.reverse_append]
        rw [LifecycleStore.factRevisions] at hbefore
        rw [hbefore]
        rfl
      · rw [if_neg hown] at hrow
        rw [List.filter_cons_of_neg (by simpa [horganization] using Ne.symm hown)]
        exact ih organizationId row hrow

/-! ## Retries -/

/-- What later transactions may do to what an earlier one left: revisions only rise, a row stands as
long as its revision does, and receipts stay. -/
structure LifecycleStore.Grows (s s' : LifecycleStore) : Prop where
  rows : ∀ organizationId row, s.authorities organizationId = some row →
    ∃ row', s'.authorities organizationId = some row' ∧ row.revision ≤ row'.revision ∧
      (row'.revision = row.revision → row' = row)
  receipts : ∀ operationId receipt, s.receipts operationId = some receipt →
    s'.receipts operationId = some receipt

theorem LifecycleStore.Grows.refl (s : LifecycleStore) : s.Grows s where
  rows _ row hrow := ⟨row, hrow, le_refl _, fun _ ↦ rfl⟩
  receipts _ _ hreceipt := hreceipt

theorem LifecycleStore.Grows.trans {s s' s'' : LifecycleStore} (h : s.Grows s')
    (h' : s'.Grows s'') : s.Grows s'' where
  rows organizationId row hrow := by
    obtain ⟨row', hrow', hle, hsame⟩ := h.rows organizationId row hrow
    obtain ⟨row'', hrow'', hle', hsame'⟩ := h'.rows organizationId row' hrow'
    refine ⟨row'', hrow'', by omega, ?_⟩
    intro hrevision
    have hmid : row' = row := hsame (by omega)
    rw [hsame' (by omega), hmid]
  receipts operationId receipt hreceipt :=
    h'.receipts operationId receipt (h.receipts operationId receipt hreceipt)

theorem LifecycleWrite.grows {command : LifecycleCommand} {s s' : LifecycleStore}
    {status : OrganizationLifecycleStatus} {current : Authority}
    (h : LifecycleWrite command s status s' current) (keyed : s.Keyed) : s.Grows s' where
  rows organizationId row hrow := by
    rw [h.authority keyed]
    split
    · next hown =>
      have hcurrent : row = current := by
        rw [hown, h.read] at hrow
        exact (Option.some.inj hrow).symm
      subst hcurrent
      have hrevision := command.row_revision row
      exact ⟨_, rfl, by omega, fun hsame ↦ by omega⟩
    · exact ⟨row, hrow, le_refl _, fun _ ↦ rfl⟩
  receipts operationId receipt hreceipt := by
    rw [h.receipts]
    cases hkept : command.receipt with
    | none => exact hreceipt
    | some r =>
        have hfresh := h.fresh r hkept
        have hother : operationId ≠ r.1 := by
          rintro rfl
          rw [hfresh] at hreceipt
          cases hreceipt
        simp only [receiptsAfter, KeyedRecord.set]
        rw [if_neg hother]
        exact hreceipt

theorem LifecycleStore.next_grows {h : List (Move LifecycleStore LifecycleEvent)}
    (s : LifecycleStore) (r : Run (lifecycleSystem guard) h s) (e : LifecycleEvent) :
    s.Grows (s.next guard e) := by
  rcases s.next_cases guard e with ⟨hsame, _⟩ | ⟨status, current, _, hwrite⟩
  · rw [hsame]
    exact .refl s
  · exact hwrite.grows (keyed_of_run r)

/-- A retry names the operation of the command it repeats; a transition, which has none, the revision
that it starts from. -/
def LifecycleCommand.RetryOf : LifecycleCommand → LifecycleCommand → Prop
  | .requestClosure retry, .requestClosure command =>
      retry.operationId = command.operationId ∧ retry.organizationId = command.organizationId
  | .cancelClosure retry, .cancelClosure command =>
      retry.operationId = command.operationId ∧ retry.organizationId = command.organizationId
  | .reactivate retry, .reactivate command =>
      retry.operationId = command.operationId ∧ retry.organizationId = command.organizationId
  | .transition retry, .transition command =>
      retry.expectedRevision = command.expectedRevision ∧
        retry.organizationId = command.organizationId
  | _, _ => False

/-- A retry leaves the receipt of the command it repeats; or it is a transition like it, from the
same revision. -/
theorem LifecycleCommand.RetryOf.cases {retry command : LifecycleCommand}
    (h : retry.RetryOf command) :
    (∃ r, retry.receipt = some r ∧ command.receipt = some r) ∨
      ∃ t t', retry = .transition t ∧ command = .transition t' ∧
        t.expectedRevision = t'.expectedRevision ∧ t.organizationId = t'.organizationId := by
  cases retry with
  | requestClosure retry =>
      cases command with
      | requestClosure command => exact Or.inl ⟨_, rfl, by rw [h.1]; rfl⟩
      | _ => exact h.elim
  | cancelClosure retry =>
      cases command with
      | cancelClosure command => exact Or.inl ⟨_, rfl, by rw [h.1]; rfl⟩
      | _ => exact h.elim
  | reactivate retry =>
      cases command with
      | reactivate command => exact Or.inl ⟨_, rfl, by rw [h.1]; rfl⟩
      | _ => exact h.elim
  | transition retry =>
      cases command with
      | transition command => exact Or.inr ⟨_, _, rfl, rfl, h.1, h.2⟩
      | _ => exact h.elim

/-- A command with a receipt is answered from it. -/
theorem LifecycleReplay.of_receipt {s : LifecycleStore} {command : LifecycleCommand}
    {status : OrganizationLifecycleStatus} (h : LifecycleReplay s command status)
    {op : String × ReceiptOperation} (hop : command.receipt = some op) :
    ∃ receipt, s.receipts op.1 = some receipt ∧ status = receipt.status := by
  cases h with
  | receipt hcommand hstored =>
      rw [hop] at hcommand
      rw [Option.some.inj hcommand]
      exact ⟨_, hstored, rfl⟩
  | row hstored hrevision => cases hop

/-- A transition is answered from the row that has the next revision. -/
theorem LifecycleReplay.of_transition {s : LifecycleStore}
    {command : TransitionOrganizationLifecycleCommand} {status : OrganizationLifecycleStatus}
    (h : LifecycleReplay s (.transition command) status) :
    ∃ current, s.authorities command.organizationId = some current ∧
      (current.revision : ℤ) = command.expectedRevision + 1 ∧ status = authorityStatus current := by
  cases h with
  | receipt hcommand hstored => cases hcommand
  | row hstored hrevision => exact ⟨_, hstored, hrevision, rfl⟩

/-- A retry of an applied command writes nothing, and is answered, if at all, with the status that the
command produced. -/
theorem retry_of_applied {earlier : List (Move LifecycleStore LifecycleEvent)}
    {s s' : LifecycleStore} (r : Run (lifecycleSystem guard) earlier s) {e : LifecycleEvent}
    (changed : s.next guard e ≠ s) (grows : (s.next guard e).Grows s') {retry : LifecycleEvent}
    (hretry : retry.command.RetryOf e.command) :
    s'.next guard retry = s' ∧ ∀ status, s'.answer guard retry = .ok status →
      s.answer guard e = .ok status := by
  obtain ⟨status, current, hanswer, hwrite⟩ := write_of_changed changed
  rcases hretry.cases with ⟨op, hop, hop'⟩ | ⟨t, t', ht, ht', hrevision, horganization⟩
  · -- The receipt of the first command is still there.
    have hreceipt : s'.receipts op.1 = some ⟨op.2, status⟩ := by
      apply grows.receipts
      rw [hwrite.receipts, hop']
      simp [receiptsAfter, KeyedRecord.set]
    rcases s'.next_cases guard retry with ⟨hsame, hreplay⟩ | ⟨_, current', _, hagain⟩
    · refine ⟨hsame, ?_⟩
      intro status' hanswered
      obtain ⟨receipt, hstored, hstatus⟩ := (hreplay status' hanswered).of_receipt hop
      rw [hreceipt] at hstored
      rw [hanswer, hstatus, ← Option.some.inj hstored]
    · have := hagain.fresh op hop
      rw [hreceipt] at this
      cases this
  · -- The revision has left the one that both start from.
    have hadmits := hwrite.admits
    rw [ht'] at hadmits
    obtain ⟨_, hcurrent, _⟩ := hadmits
    have hwritten : (s.next guard e).authorities t.organizationId = some (e.command.row current) := by
      rw [hwrite.authority (keyed_of_run r), ht', horganization]
      exact if_pos rfl
    have hrow := e.command.row_revision current
    obtain ⟨row', hrow', hle, hstands⟩ := grows.rows _ _ hwritten
    rcases s'.next_cases guard retry with ⟨hsame, hreplay⟩ | ⟨_, current', _, hagain⟩
    · refine ⟨hsame, ?_⟩
      intro status' hanswered
      rw [ht] at hreplay
      obtain ⟨current', hstored, hrevision', hstatus⟩ := (hreplay status' hanswered).of_transition
      rw [hrow'] at hstored
      have hfirst : row' = e.command.row current := by
        apply hstands
        rw [Option.some.inj hstored]
        omega
      rw [hanswer, hwrite.answered, hstatus, ← Option.some.inj hstored, hfirst]
    · have hread := hagain.read
      have hadmits' := hagain.admits
      rw [ht] at hread hadmits'
      obtain ⟨_, hcurrent', _⟩ := hadmits'
      rw [LifecycleCommand.organizationId, hrow'] at hread
      rw [← Option.some.inj hread] at hcurrent'
      omega

/-! ## The shape of a row -/

/-- Every row is in the shape the table asks for. -/
theorem stateShape_of_run {h : List (Move LifecycleStore LifecycleEvent)} {s : LifecycleStore}
    (r : Run (lifecycleSystem guard) h s) : ∀ organizationId row,
      s.authorities organizationId = some row → row.stateShape = true := by
  apply r.invariant (I := fun s ↦ ∀ organizationId row, s.authorities organizationId = some row →
    row.stateShape = true)
  · rintro s ⟨hfresh, _⟩ organizationId row hrow
    obtain ⟨createdAt, rfl⟩ := hfresh organizationId row hrow
    rfl
  · rintro h s e s' r ih rfl
    rcases s.next_cases guard e with ⟨hsame, _⟩ | ⟨status, current, _, hwrite⟩
    · rw [hsame]
      exact ih
    · intro organizationId row hrow
      rw [hwrite.authority (keyed_of_run r)] at hrow
      split at hrow
      · rw [← Option.some.inj hrow]
        exact hwrite.shape
      · exact ih organizationId row hrow

/-- A row that is not active has a lineage, a deadline and the fence. -/
theorem Authority.fenced_of_stateShape {row : Authority} (shape : row.stateShape = true)
    (inactive : row.state ≠ .active) : row.closureLineageId.isSome = true ∧
      row.recoverableUntil.isSome = true ∧ row.reactivationRequired = true := by
  have hevidence : row.hasRequestEvidence = true ∧ row.reactivationRequired = true := by
    cases hstate : row.state with
    | active => exact absurd hstate inactive
    | _ =>
        simp only [Authority.stateShape, hstate, Bool.and_eq_true] at shape
        exact ⟨shape.1.1.1, shape.2⟩
  refine ⟨?_, ?_, hevidence.2⟩
  · simp only [Authority.hasRequestEvidence, Bool.and_eq_true] at hevidence
    exact hevidence.1.1.1.1.1
  · cases hdeadline : row.recoverableUntil with
    | none => simp [Authority.hasRequestEvidence, hdeadline] at hevidence
    | some deadline => rfl

/-- The irreversible boundary is set in purging and closed only, the end in closed only. -/
theorem Authority.boundary_of_stateShape {row : Authority} (shape : row.stateShape = true) :
    (row.irreversibleAt.isSome = true ↔ row.state = .purging ∨ row.state = .closed) ∧
      (row.closedAt.isSome = true ↔ row.state = .closed) := by
  cases hstate : row.state <;> simp_all [Authority.stateShape]

/-! ## Edges, the fence and the deadline -/

/-- From purging there is no way but to closed, and from closed there is none. -/
theorem LifecycleCommand.Admits.irreversible {command : LifecycleCommand} {current : Authority}
    (h : command.Admits current) :
    (current.state = .purging → (command.row current).state = .closed) ∧
      current.state ≠ .closed := by
  cases command with
  | requestClosure c =>
      rw [h.1]
      simp
  | cancelClosure c =>
      obtain ⟨hstate, _⟩ := Bool.and_eq_true_iff.1 h
      simp only [Bool.or_eq_true, decide_eq_true_eq] at hstate
      rcases hstate with hstate | hstate <;> simp [hstate]
  | reactivate c =>
      obtain ⟨hstate, _⟩ := Bool.and_eq_true_iff.1 h.1
      have hactive : current.state = .active := of_decide_eq_true hstate
      simp [hactive]
  | transition c =>
      obtain ⟨hstate, _, _, hcan⟩ := h
      simp only [canTransitionOrganizationLifecycle, decide_eq_true_eq] at hcan
      constructor
      · intro hpurging
        rw [← hstate, hpurging] at hcan
        exact List.mem_singleton.1 hcan
      · intro hclosed
        rw [← hstate, hclosed] at hcan
        cases hcan

/-- Only a reactivation of the current revision and lineage lowers the fence. -/
theorem LifecycleCommand.Admits.fence {command : LifecycleCommand} {current : Authority}
    (h : command.Admits current) (lowered : (command.row current).reactivationRequired = false) :
    ∃ c, command = .reactivate c ∧ (current.revision : ℤ) = c.expectedRevision ∧
      current.closureLineageId = some c.closureLineageId := by
  cases command with
  | requestClosure c => cases lowered
  | cancelClosure c => cases lowered
  | reactivate c => exact ⟨c, rfl, h.2⟩
  | transition c => cases lowered

/-- The newest closure request that was applied to an Organization set a lineage and a deadline. -/
def RequestedBy (h : List (Move LifecycleStore LifecycleEvent)) (organizationId : String)
    (lineage : Option String) (deadline : ℤ) : Prop :=
  ∃ later m earlier c, h = later ++ m :: earlier ∧ m.event.command = .requestClosure c ∧
    c.organizationId = organizationId ∧ m.post ≠ m.pre ∧ lineage = some c.operationId.toLower ∧
    deadline = c.recoverableUntil ∧
    ∀ n ∈ later, ∀ c', n.event.command = .requestClosure c' → c'.organizationId = organizationId →
      n.post = n.pre

theorem RequestedBy.later {h : List (Move LifecycleStore LifecycleEvent)} {organizationId : String}
    {lineage : Option String} {deadline : ℤ} (hr : RequestedBy h organizationId lineage deadline)
    {n : Move LifecycleStore LifecycleEvent}
    (other : ∀ c, n.event.command = .requestClosure c → c.organizationId = organizationId →
      n.post = n.pre) : RequestedBy (n :: h) organizationId lineage deadline := by
  obtain ⟨later, m, earlier, c, rfl, hm⟩ := hr
  refine ⟨n :: later, m, earlier, c, rfl, hm.1, hm.2.1, hm.2.2.1, hm.2.2.2.1, hm.2.2.2.2.1, ?_⟩
  intro n' hn' c' hc' horganization
  rcases List.mem_cons.1 hn' with rfl | hn'
  · exact other c' hc' horganization
  · exact hm.2.2.2.2.2 n' hn' c' hc' horganization

/-- A command sets the deadline and the lineage as a closure request, or keeps both. -/
theorem LifecycleCommand.row_deadline (command : LifecycleCommand) {current : Authority}
    {deadline : ℤ} (h : (command.row current).recoverableUntil = some deadline) :
    (∃ c, command = .requestClosure c ∧ deadline = c.recoverableUntil ∧
        (command.row current).closureLineageId = some c.operationId.toLower) ∨
      (∀ c, command ≠ .requestClosure c) ∧ current.recoverableUntil = some deadline ∧
        (command.row current).closureLineageId = current.closureLineageId := by
  cases command with
  | requestClosure c => exact Or.inl ⟨c, rfl, (Option.some.inj h).symm, rfl⟩
  | cancelClosure c => exact Or.inr ⟨fun c' ↦ nofun, h, rfl⟩
  | reactivate c => cases h
  | transition c => exact Or.inr ⟨fun c' ↦ nofun, h, rfl⟩

/-- A deadline in force, and the lineage it stands with, are those of the newest closure request. -/
theorem requestedBy_of_run {h : List (Move LifecycleStore LifecycleEvent)} {s : LifecycleStore}
    (r : Run (lifecycleSystem guard) h s) : ∀ organizationId row deadline,
      s.authorities organizationId = some row → row.recoverableUntil = some deadline →
        RequestedBy h organizationId row.closureLineageId deadline := by
  induction r with
  | start hs =>
      obtain ⟨hfresh, _⟩ := hs
      intro organizationId row deadline hrow hdeadline
      obtain ⟨createdAt, rfl⟩ := hfresh organizationId row hrow
      cases hdeadline
  | @next h s s' e r hstep ih =>
      obtain rfl : s' = s.next guard e := hstep
      intro organizationId row deadline hrow hdeadline
      rcases s.next_cases guard e with ⟨hsame, _⟩ | ⟨status, current, _, hwrite⟩
      · rw [hsame] at hrow
        exact (ih organizationId row deadline hrow hdeadline).later fun _ _ _ ↦ hsame
      rw [hwrite.authority (keyed_of_run r)] at hrow
      by_cases hown : organizationId = e.command.organizationId
      · rw [if_pos hown] at hrow
        rw [← Option.some.inj hrow] at hdeadline ⊢
        rcases e.command.row_deadline hdeadline with ⟨c, hc, hset, hlineage⟩ | ⟨hother, hkept⟩
        · rw [hc] at hown
          exact ⟨[], _, h, c, rfl, hc, hown.symm, hwrite.changes, hlineage, hset, by rintro n ⟨⟩⟩
        · rw [hkept.2]
          refine (ih organizationId current deadline (hown ▸ hwrite.read) hkept.1).later ?_
          intro c hc
          exact absurd hc (hother c)
      · rw [if_neg hown] at hrow
        refine (ih organizationId row deadline hrow hdeadline).later ?_
        intro c hc horganization
        rw [hc] at hown
        exact absurd horganization.symm hown

/-! ## The authority over a run -/

/-- Over every run of commands on Organizations that were just provisioned, whatever trigger guards
the table: revisions and facts, retries, the shape of the rows, the edges, the fence and the
deadlines. -/
theorem lifecycle_authority_safety {h : List (Move LifecycleStore LifecycleEvent)}
    {s : LifecycleStore} (r : Run (lifecycleSystem guard) h s) :
    (∀ m ∈ h, m.post ≠ m.pre → ∃ before after fact,
      m.pre.authorities m.event.command.organizationId = some before ∧
      m.post.authorities m.event.command.organizationId = some after ∧
      after.revision = before.revision + 1 ∧ m.post.facts = fact :: m.pre.facts ∧
      fact.organizationId = m.event.command.organizationId ∧ fact.Reports after ∧
      ∀ other ≠ m.event.command.organizationId,
        m.post.authorities other = m.pre.authorities other) ∧
    (∀ organizationId row, s.authorities organizationId = some row →
      s.factRevisions organizationId = ((List.range row.revision).map (· + 1)).reverse) ∧
    (∀ later m earlier, h = later ++ m :: earlier → m.post ≠ m.pre → ∀ retry : LifecycleEvent,
      retry.command.RetryOf m.event.command → s.next guard retry = s ∧
        ∀ status, s.answer guard retry = .ok status → m.pre.answer guard m.event = .ok status) ∧
    (∀ organizationId row, s.authorities organizationId = some row →
      (row.state ≠ .active → row.closureLineageId.isSome = true ∧
        row.recoverableUntil.isSome = true ∧ row.reactivationRequired = true) ∧
      (row.irreversibleAt.isSome = true ↔ row.state = .purging ∨ row.state = .closed) ∧
      (row.closedAt.isSome = true ↔ row.state = .closed)) ∧
    (∀ m ∈ h, ∀ organizationId before after, m.pre.authorities organizationId = some before →
      m.post.authorities organizationId = some after →
      (before.state = .purging → after.state = .purging ∨ after.state = .closed) ∧
      (before.state = .closed → after = before) ∧
      (before.reactivationRequired = true → after.reactivationRequired = false →
        ∃ c, m.event.command = .reactivate c ∧ c.organizationId = organizationId ∧
          c.expectedRevision = before.revision ∧
          before.closureLineageId = some c.closureLineageId)) ∧
    ∀ organizationId row deadline, s.authorities organizationId = some row →
      row.recoverableUntil = some deadline →
        RequestedBy h organizationId row.closureLineageId deadline := by
  refine ⟨?_, factRevisions_of_run r, ?_, ?_, ?_, requestedBy_of_run r⟩
  · intro m hm changed
    obtain ⟨h', r', hstep⟩ := r.of_mem hm
    have hpost : m.post = m.pre.next guard m.event := hstep
    rw [hpost] at changed ⊢
    exact applied_reports r' changed
  · rintro later m earlier rfl changed retry hretry
    obtain ⟨r', hstep, _⟩ := r.of_append
    have hpost : m.post = m.pre.next guard m.event := hstep
    rw [hpost] at changed
    have hgrows : m.post.Grows s := by
      apply r.seen_related LifecycleStore.Grows.refl (fun _ _ _ hp hs ↦ hp.trans hs) _
        (r.seen_post (by simp))
      rintro h s e s' r rfl
      exact s.next_grows r e
    rw [hpost] at hgrows
    exact retry_of_applied r' changed hgrows hretry
  · intro organizationId row hrow
    have hshape := stateShape_of_run r organizationId row hrow
    exact ⟨Authority.fenced_of_stateShape hshape, Authority.boundary_of_stateShape hshape⟩
  · intro m hm organizationId before after hbefore hafter
    obtain ⟨h', r', hstep⟩ := r.of_mem hm
    have hpost : m.post = m.pre.next guard m.event := hstep
    rw [hpost] at hafter
    rcases m.pre.next_cases guard m.event with ⟨hsame, _⟩ | ⟨status, current, _, hwrite⟩
    · rw [hsame, hbefore] at hafter
      obtain rfl := Option.some.inj hafter
      refine ⟨fun hstate ↦ Or.inl hstate, fun _ ↦ rfl, fun hup hdown ↦ ?_⟩
      rw [hup] at hdown
      cases hdown
    · rw [hwrite.authority (keyed_of_run r')] at hafter
      split at hafter
      · next hown =>
        rw [hown, hwrite.read] at hbefore
        obtain rfl := Option.some.inj hbefore
        obtain rfl := Option.some.inj hafter
        obtain ⟨hpurging, hclosed⟩ := hwrite.admits.irreversible
        refine ⟨fun hstate ↦ Or.inr (hpurging hstate), fun hstate ↦ absurd hstate hclosed, ?_⟩
        intro _ hdown
        obtain ⟨c, hc, hrevision, hlineage⟩ := hwrite.admits.fence hdown
        refine ⟨c, hc, ?_, hrevision.symm, hlineage⟩
        rw [hown, hc]
        rfl
      · rw [hbefore] at hafter
        obtain rfl := Option.some.inj hafter
        refine ⟨fun hstate ↦ Or.inl hstate, fun _ ↦ rfl, fun hup hdown ↦ ?_⟩
        rw [hup] at hdown
        cases hdown

/-- The trigger on the table knows no edge from active to active, so it lets no reactivation through:
the fence stays until the trigger is replaced. -/
theorem reactivate_fenced {role : Option String} {interrupt : Option FaultStage}
    {store store' : LifecycleStore} {command : ReactivateOrganizationCommand}
    {status : OrganizationLifecycleStatus}
    (h : reactivate ⟨guardOrganizationLifecycleRevision, role, interrupt⟩ store command =
      .ok (status, store')) : store' = store := by
  rw [reactivate] at h
  obtain ⟨_, _, h⟩ := ok_of_bind h
  obtain ⟨replay, hreplay, h⟩ := ok_of_bind h
  cases replay with
  | some replay =>
      cases Except.ok.inj h
      rfl
  | none =>
      obtain ⟨current, _, h⟩ := ok_of_bind h
      obtain ⟨hadmits, h⟩ := ok_of_guard h
      obtain ⟨_, h⟩ := ok_of_guard h
      obtain ⟨evidence, _, h⟩ := ok_of_bind h
      have hactive : current.state = .active := by
        rw [Bool.not_eq_false] at hadmits
        exact of_decide_eq_true (Bool.and_eq_true_iff.1 hadmits).1
      rw [commitChange] at h
      obtain ⟨row, hrow, _⟩ := ok_of_bind h
      simp [updateAuthority, guardOrganizationLifecycleRevision, hactive,
        ReactivateOrganizationCommand.row, canTransitionOrganizationLifecycle,
        organizationLifecycleTransitions] at hrow

/-- Under that trigger no transaction lowers the fence of an Organization. -/
theorem LifecycleStore.next_fenced {s : LifecycleStore} (keyed : s.Keyed) (e : LifecycleEvent)
    {organizationId : String} {row : Authority} (hrow : s.authorities organizationId = some row)
    (raised : row.reactivationRequired = true) :
    ∃ after, (s.next guardOrganizationLifecycleRevision e).authorities organizationId = some after ∧
      after.reactivationRequired = true := by
  rcases s.next_cases guardOrganizationLifecycleRevision e with
    ⟨hsame, _⟩ | ⟨status, current, _, hwrite⟩
  · rw [hsame]
    exact ⟨row, hrow, raised⟩
  · rw [hwrite.authority keyed]
    split
    · refine ⟨_, rfl, ?_⟩
      by_contra hlowered
      obtain ⟨c, hc, -⟩ := hwrite.admits.fence (Bool.eq_false_iff.2 hlowered)
      have hsame : s.next guardOrganizationLifecycleRevision e = s := by
        obtain ⟨command, role, interrupt⟩ := e
        cases hc
        rw [LifecycleStore.next, LifecycleEvent.outcome, LifecycleCommand.run]
        split
        · next h => exact reactivate_fenced h
        · rfl
      -- A write leaves a fact, and the refused reactivation left none.
      obtain ⟨fact, hfacts, -⟩ := hwrite.facts
      rw [hsame] at hfacts
      exact List.cons_ne_self _ _ hfacts.symm
    · exact ⟨row, hrow, raised⟩

/-- The fence of an Organization that was once to be closed stays up for good: whatever commands
follow, its closure cancelled or not, it is in every later row. -/
theorem reactivation_fence_stays {h : List (Move LifecycleStore LifecycleEvent)} {s p : LifecycleStore}
    (r : Run (lifecycleSystem guardOrganizationLifecycleRevision) h s) (seen : Seen h s p)
    {organizationId : String} {row : Authority} (hrow : p.authorities organizationId = some row)
    (raised : row.reactivationRequired = true) :
    ∃ after, s.authorities organizationId = some after ∧ after.reactivationRequired = true := by
  have hkept := r.seen_related (R := fun p s ↦ ∀ row, p.authorities organizationId = some row →
      row.reactivationRequired = true →
        ∃ after, s.authorities organizationId = some after ∧ after.reactivationRequired = true)
    (fun _ row hrow raised ↦ ⟨row, hrow, raised⟩) ?_ ?_ seen
  · exact hkept row hrow raised
  · intro p s s' hps hss row hrow raised
    obtain ⟨middle, hmiddle, hraised⟩ := hps row hrow raised
    exact hss middle hmiddle hraised
  · rintro h s e s' r rfl row hrow raised
    exact LifecycleStore.next_fenced (keyed_of_run r) e hrow raised

/-- An account administrator's closure request. -/
def sampleClosureRequest : LifecycleEvent where
  command := .requestClosure
    { operationId := "0b8f4a52-6f0e-4d3c-9a11-5d2c7e8f9a01"
      organizationId := "acme"
      actorUserId := "owner-1"
      reasonCode := "contract_ended"
      supportEvidenceRef := "support:close"
      now := 1000
      recoverableUntil := 2592001000 }
  role := some "owner"
  interrupt := none

/-- One Organization, just provisioned. -/
def sampleOrganization : LifecycleStore :=
  ⟨KeyedRecord.empty.set "acme" (provisionedAuthority "acme" 0), KeyedRecord.empty, []⟩

theorem lifecycle_authority_safety_requested :
    (sampleOrganization.next guardOrganizationLifecycleRevision sampleClosureRequest).factRevisions
      "acme" = [1] := by
  have hstart : Run (lifecycleSystem guardOrganizationLifecycleRevision) [] sampleOrganization := by
    refine .start ⟨?_, rfl, rfl⟩
    intro organizationId row hrow
    simp only [sampleOrganization, KeyedRecord.set, KeyedRecord.empty] at hrow
    split at hrow
    · next hown => exact ⟨0, by rw [hown, Option.some.inj hrow]⟩
    · cases hrow
  have hrun := hstart.next (e := sampleClosureRequest) rfl
  have hrow : ((sampleOrganization.next guardOrganizationLifecycleRevision
      sampleClosureRequest).authorities "acme").map (·.revision) = some 1 := by decide +kernel
  obtain ⟨row, hread, hrevision⟩ := Option.map_eq_some_iff.1 hrow
  have hfacts := (lifecycle_authority_safety hrun).2.1 "acme" row hread
  rw [hrevision] at hfacts
  exact hfacts

/-- The cancellation of that closure. -/
def sampleCancellation : LifecycleEvent where
  command := .cancelClosure
    { operationId := "1c8f4a52-6f0e-4d3c-9a11-5d2c7e8f9a02"
      organizationId := "acme"
      actorUserId := "owner-1"
      reasonCode := "closure_cancelled"
      supportEvidenceRef := "support:cancel"
      now := 2000 }
  role := some "owner"
  interrupt := none

/-- An Organization whose closure was cancelled is active behind the fence. -/
theorem reactivation_fence_stays_cancelled : ∃ after,
    ((sampleOrganization.next guardOrganizationLifecycleRevision sampleClosureRequest).next
        guardOrganizationLifecycleRevision sampleCancellation).authorities "acme" = some after ∧
      after.reactivationRequired = true := by
  have hstart : Run (lifecycleSystem guardOrganizationLifecycleRevision) [] sampleOrganization := by
    refine .start ⟨fun organizationId row hrow ↦ ⟨0, ?_⟩, rfl, rfl⟩
    simp only [sampleOrganization, KeyedRecord.set, KeyedRecord.empty] at hrow
    split at hrow
    · next hown => rw [hown, Option.some.inj hrow]
    · cases hrow
  have hrun := (hstart.next (e := sampleClosureRequest) rfl).next (e := sampleCancellation) rfl
  have hraised : ((sampleOrganization.next guardOrganizationLifecycleRevision
      sampleClosureRequest).authorities "acme").map (·.reactivationRequired) = some true := by
    decide +kernel
  obtain ⟨row, hrow, hraised⟩ := Option.map_eq_some_iff.1 hraised
  exact reactivation_fence_stays hrun (Or.inr ⟨_, List.mem_cons_self, rfl⟩) hrow hraised

end ReputationKey.Identity
