import Mathlib.Data.List.Nodup
import Mathlib.Data.List.Pairwise
import ReputationKey.Base.Run
import ReputationKey.Shared.WorkItems

/-!
# The work ledger over any interleaving

Workers, the dispatcher and operators act on the ledger in any order, each with what it read before
and its own clock. Work is done at most once, what is settled stays, a read-back item runs again only
after a read-back found nothing, and work that waits can be claimed.
-/

namespace ReputationKey.Shared

open ReputationKey.Base

/-! ## One update of one row -/

/-- The update an event makes of a row, when it makes one. -/
def WorkEvent.update (row : WorkItem) : WorkEvent → Option WorkItem
  | .schedule .. => none
  | .claim organizationId id leaseMs token now =>
      if row.organizationId = organizationId ∧ row.id = id then
        if validLease leaseMs = true then row.claim leaseMs token now else none
      else none
  | .renew organizationId id token leaseMs now =>
      if row.organizationId = organizationId ∧ row.id = id then row.renew token leaseMs now
      else none
  | .complete organizationId id token now =>
      if row.organizationId = organizationId ∧ row.id = id then row.complete token now else none
  | .fail organizationId id token retryAt terminal now =>
      if row.organizationId = organizationId ∧ row.id = id then
        row.fail token retryAt terminal now
      else none
  | .resolveUncertain organizationId id snapshot observation now =>
      if row.organizationId = organizationId ∧ row.id = id then
        row.resolveUncertain snapshot observation now
      else none
  | .expireLeases available now => if available row.id = true then row.expire now else none
  | .dispatchDue picked cutoff now =>
      if picked row.id = true then row.dispatch cutoff now else none
  | .operate organizationId id action operatorId reason now =>
      if row.organizationId = organizationId ∧ row.id = id then
        if validReason operatorId reason = true then row.operate action operatorId reason now
        else none
      else none

/-- The row as an event leaves it. -/
def WorkEvent.next (event : WorkEvent) (row : WorkItem) : WorkItem :=
  (event.update row).getD row

/-- The row an event inserts, when it inserts one. -/
def WorkEvent.inserted (rows : List WorkItem) : WorkEvent → Option WorkItem
  | .schedule input id now =>
      if findWork rows (input.row id now).key = none ∧
          (input.row id now).passesInsertChecks = true ∧
          (rows.any fun row ↦ decide (row.id = id)) = false then
        some (input.row id now)
      else none
  | _ => none

/-- A request inserts its row or leaves the rows as they are. -/
theorem schedule_run (rows : List WorkItem) (input : WorkRequest) (id : Nat) (now : Int) :
    (WorkEvent.schedule input id now).run rows =
      ((WorkEvent.schedule input id now).inserted rows).toList ++ rows := by
  unfold WorkEvent.run scheduleWork WorkEvent.inserted
  cases hfind : findWork rows (input.row id now).key with
  | some existing =>
      simp only [hfind, reduceCtorEq, false_and, if_false, Option.toList_none, List.nil_append]
      split
      · next heq =>
        split at heq
        · cases heq
        · cases heq
          rfl
      · rfl
  | none =>
      cases hchecks : (input.row id now).passesInsertChecks with
      | false => simp [hfind, hchecks]
      | true => cases hid : rows.any fun row ↦ decide (row.id = id) <;> simp [hfind, hchecks, hid]

/-- An update of a row with an organization and an id, row by row. -/
theorem updateWork_eq (rows : List WorkItem) (organizationId : String) (id : Nat)
    (update : WorkItem → Option WorkItem) :
    updateWork rows organizationId id update = rows.map fun row ↦
      (if row.organizationId = organizationId ∧ row.id = id then update row else none).getD row := by
  refine List.map_congr_left fun row _ ↦ ?_
  split <;> rfl

/-- An update of picked rows, row by row. -/
theorem updatePicked_eq (rows : List WorkItem) (picked : Nat → Bool)
    (update : WorkItem → Option WorkItem) :
    updatePicked rows picked update = rows.map fun row ↦
      (if picked row.id = true then update row else none).getD row := by
  refine List.map_congr_left fun row _ ↦ ?_
  split <;> rfl

/-- Every event inserts at most one row and updates the others one by one. -/
theorem WorkEvent.run_eq (event : WorkEvent) (rows : List WorkItem) :
    event.run rows = (event.inserted rows).toList ++ rows.map event.next := by
  cases event with
  | schedule input id now =>
      have hnext : rows.map (WorkEvent.schedule input id now).next = rows := List.map_id _
      rw [hnext]
      exact schedule_run rows input id now
  | claim => exact updateWork_eq ..
  | renew => exact updateWork_eq ..
  | complete => exact updateWork_eq ..
  | fail => exact updateWork_eq ..
  | resolveUncertain => exact updateWork_eq ..
  | expireLeases => exact updatePicked_eq ..
  | dispatchDue => exact updatePicked_eq ..
  | operate => exact updateWork_eq ..

/-! ## What every update keeps -/

/-- What holds of every row; the table's own checks are among it. -/
structure WorkItem.Sound (row : WorkItem) : Prop where
  maxPositive : 1 ≤ row.maxAttempts
  maxBounded : row.maxAttempts ≤ 100
  tried : row.attempts ≤ row.maxAttempts
  claimable : row.state = .pending → row.attempts < row.maxAttempts
  token : row.leaseToken.isSome = true ↔ row.state = .running
  expiry : row.leaseExpiresAt.isSome = true ↔ row.state = .running
  completion : row.completedAt.isSome = true ↔
    row.state = .succeeded ∨ row.state = .cancelled ∨ row.state = .discarded

/-- What an update keeps of a row: whose work it is and how it recovers. Attempts and their maximum
only grow, and a row that succeeded or was discarded is not updated at all. -/
structure WorkItem.Continues (row next : WorkItem) : Prop where
  id : next.id = row.id
  key : next.key = row.key
  organizationId : next.organizationId = row.organizationId
  subjectId : next.subjectId = row.subjectId
  recovery : next.recovery = row.recovery
  attempts : row.attempts ≤ next.attempts
  maxAttempts : row.maxAttempts ≤ next.maxAttempts
  settled : row.state = .succeeded ∨ row.state = .discarded → next = row

/-- A row continues itself. -/
theorem WorkItem.Continues.refl (row : WorkItem) : row.Continues row :=
  ⟨rfl, rfl, rfl, rfl, rfl, Nat.le_refl _, Nat.le_refl _, fun _ ↦ rfl⟩

/-- Updates compose. -/
theorem WorkItem.Continues.trans {first second third : WorkItem} (h : first.Continues second)
    (h' : second.Continues third) : first.Continues third := by
  refine ⟨h'.id.trans h.id, h'.key.trans h.key, h'.organizationId.trans h.organizationId,
    h'.subjectId.trans h.subjectId, h'.recovery.trans h.recovery, Nat.le_trans h.attempts h'.attempts,
    Nat.le_trans h.maxAttempts h'.maxAttempts, fun hsettled ↦ ?_⟩
  have hsame := h.settled hsettled
  rw [← hsame] at hsettled
  exact (h'.settled hsettled).trans hsame

/-- A new row is sound. -/
theorem WorkRequest.row_sound {input : WorkRequest} {id : Nat} {now : Int}
    (checks : (input.row id now).passesInsertChecks = true) : (input.row id now).Sound := by
  have hbounds : 1 ≤ (input.row id now).maxAttempts ∧ (input.row id now).maxAttempts ≤ 100 := by
    unfold WorkItem.passesInsertChecks at checks
    simp only [Bool.and_eq_true, decide_eq_true_eq] at checks
    exact checks.1.1.1.1
  exact ⟨hbounds.1, hbounds.2, Nat.zero_le _, fun _ ↦ hbounds.1, by simp [WorkRequest.row],
    by simp [WorkRequest.row], by simp [WorkRequest.row]⟩

section Updates

variable {row next : WorkItem} {now : Int}

/-- The state a run leaves is never running or settled, and it is pending only below the maximum. -/
theorem WorkItem.stateAfterRun_spec (row : WorkItem) (terminal : Bool) :
    (row.stateAfterRun terminal = .uncertain ∧ row.recovery = .readBack) ∨
      (row.stateAfterRun terminal = .quarantined ∧ row.recovery = .retry) ∨
      (row.stateAfterRun terminal = .pending ∧ row.recovery = .retry ∧
        row.attempts < row.maxAttempts) := by
  unfold WorkItem.stateAfterRun
  cases row.recovery with
  | readBack => simp
  | retry =>
      by_cases hspent : terminal = true ∨ row.maxAttempts ≤ row.attempts
      · simp [hspent]
      · have hlt : row.attempts < row.maxAttempts := by
          rw [not_or] at hspent
          omega
        simp [hspent, hlt]

/-- A row that stops running for no success is sound. -/
theorem WorkItem.Sound.afterRun (sound : row.Sound) (terminal : Bool)
    (state : next.state = row.stateAfterRun terminal) (attempts : next.attempts = row.attempts)
    (maxAttempts : next.maxAttempts = row.maxAttempts) (token : next.leaseToken = none)
    (expiry : next.leaseExpiresAt = none) (running : row.state = .running)
    (completedAt : next.completedAt = row.completedAt) : next.Sound := by
  have hcompleted : ¬ row.completedAt.isSome = true := fun h ↦ by
    rcases sound.completion.1 h with h | h | h <;> rw [running] at h <;> cases h
  have hstate := row.stateAfterRun_spec terminal
  rw [← state] at hstate
  have hne : next.state ≠ .running ∧ next.state ≠ .succeeded ∧ next.state ≠ .cancelled ∧
      next.state ≠ .discarded := by
    rcases hstate with ⟨h, -⟩ | ⟨h, -⟩ | ⟨h, -⟩ <;> rw [h] <;> decide
  refine ⟨maxAttempts ▸ sound.maxPositive, maxAttempts ▸ sound.maxBounded, ?_, fun hpending ↦ ?_,
    ?_, ?_, ?_⟩
  · rw [attempts, maxAttempts]
    exact sound.tried
  · rw [attempts, maxAttempts]
    rcases hstate with ⟨h, -⟩ | ⟨h, -⟩ | ⟨-, -, hlt⟩
    · rw [h] at hpending
      cases hpending
    · rw [h] at hpending
      cases hpending
    · exact hlt
  · simp [token, hne.1]
  · simp [expiry, hne.1]
  · rw [completedAt]
    simp [hcompleted, hne.2]

/-- A claim keeps a row sound. -/
theorem WorkItem.claim_spec {leaseMs : Int} {token : Nat} (sound : row.Sound)
    (h : row.claim leaseMs token now = some next) :
    next.Sound ∧ row.Continues next ∧ row.state = .pending ∧ next.state = .running ∧
      next.attempts = row.attempts + 1 := by
  unfold WorkItem.claim at h
  split at h
  · next hguard =>
    cases h
    obtain ⟨hpending, -, hlt⟩ := hguard
    refine ⟨⟨sound.maxPositive, sound.maxBounded, hlt, (fun h ↦ by cases h), by simp, by simp, ?_⟩,
      ⟨rfl, rfl, rfl, rfl, rfl, Nat.le_succ _, Nat.le_refl _, fun h ↦ ?_⟩, hpending, rfl, rfl⟩
    · have hcompletion := sound.completion
      simpa [hpending] using hcompletion
    · rw [hpending] at h
      rcases h with h | h <;> cases h
  · cases h

/-- A renewal keeps a row sound and running. -/
theorem WorkItem.renew_spec {leaseMs : Int} {token : Nat} (sound : row.Sound)
    (h : row.renew token leaseMs now = some next) :
    next.Sound ∧ row.Continues next ∧ row.state = .running ∧ next.state = .running ∧
      next.attempts = row.attempts := by
  unfold WorkItem.renew at h
  split at h
  · next hguard =>
    cases h
    refine ⟨⟨sound.maxPositive, sound.maxBounded, sound.tried, sound.claimable, sound.token, ?_,
      sound.completion⟩, ⟨rfl, rfl, rfl, rfl, rfl, Nat.le_refl _, Nat.le_refl _, fun h ↦ ?_⟩, hguard.1,
      hguard.1, rfl⟩
    · simp [hguard.1]
    · rw [hguard.1] at h
      rcases h with h | h <;> cases h
  · cases h

/-- Who holds the lease of a row. -/
theorem WorkItem.leasedBy_spec {token : Nat} (h : row.leasedBy token now = true) :
    row.state = .running ∧ row.leaseToken = some token := by
  unfold WorkItem.leasedBy at h
  simp only [Bool.and_eq_true, decide_eq_true_eq] at h
  exact h.1

/-- A completion settles a running row. -/
theorem WorkItem.complete_spec {token : Nat} (sound : row.Sound)
    (h : row.complete token now = some next) :
    next.Sound ∧ row.Continues next ∧ row.state = .running ∧ row.leaseToken = some token ∧
      next.state = .succeeded ∧ next.attempts = row.attempts := by
  unfold WorkItem.complete at h
  split at h
  · next hguard =>
    obtain ⟨hrunning, htoken⟩ := WorkItem.leasedBy_spec hguard
    cases h
    refine ⟨⟨sound.maxPositive, sound.maxBounded, sound.tried, (fun h ↦ by cases h), by simp,
      by simp, by simp⟩, ⟨rfl, rfl, rfl, rfl, rfl, Nat.le_refl _, Nat.le_refl _, fun h ↦ ?_⟩, hrunning,
      htoken, rfl, rfl⟩
    rw [hrunning] at h
    rcases h with h | h <;> cases h
  · cases h

/-- A failure ends a run. -/
theorem WorkItem.fail_spec {token : Nat} {retryAt : Option Int} {terminal : Bool}
    (sound : row.Sound) (h : row.fail token retryAt terminal now = some next) :
    next.Sound ∧ row.Continues next ∧ row.state = .running ∧
      next.state = row.stateAfterRun terminal ∧ next.attempts = row.attempts := by
  unfold WorkItem.fail at h
  split at h
  · next hguard =>
    have hrunning := (WorkItem.leasedBy_spec hguard).1
    cases h
    refine ⟨sound.afterRun terminal rfl rfl rfl rfl rfl hrunning rfl,
      ⟨rfl, rfl, rfl, rfl, rfl, Nat.le_refl _, Nat.le_refl _, fun h ↦ ?_⟩, hrunning, rfl, rfl⟩
    rw [hrunning] at h
    rcases h with h | h <;> cases h
  · cases h

/-- An expired lease ends a run. -/
theorem WorkItem.expire_spec (sound : row.Sound) (h : row.expire now = some next) :
    next.Sound ∧ row.Continues next ∧ row.state = .running ∧
      next.state = row.stateAfterRun false ∧ next.attempts = row.attempts := by
  unfold WorkItem.expire at h
  split at h
  · next hguard =>
    cases h
    refine ⟨sound.afterRun false rfl rfl rfl rfl rfl hguard.1 rfl,
      ⟨rfl, rfl, rfl, rfl, rfl, Nat.le_refl _, Nat.le_refl _, fun h ↦ ?_⟩, hguard.1, rfl, rfl⟩
    rw [hguard.1] at h
    rcases h with h | h <;> cases h
  · cases h

/-- A dispatch leaves a pending row pending. -/
theorem WorkItem.dispatch_spec {cutoff : Int} (sound : row.Sound)
    (h : row.dispatch cutoff now = some next) :
    next.Sound ∧ row.Continues next ∧ row.state = .pending ∧ next.state = .pending ∧
      next.attempts = row.attempts := by
  unfold WorkItem.dispatch at h
  split at h
  · next hguard =>
    cases h
    refine ⟨⟨sound.maxPositive, sound.maxBounded, sound.tried, sound.claimable, sound.token,
      sound.expiry, sound.completion⟩,
      ⟨rfl, rfl, rfl, rfl, rfl, Nat.le_refl _, Nat.le_refl _, fun h ↦ ?_⟩, hguard.1, hguard.1, rfl⟩
    rw [hguard.1] at h
    rcases h with h | h <;> cases h
  · cases h

/-- A read-back settles an uncertain row, or lets it run again below its maximum. -/
theorem WorkItem.resolveUncertain_spec {snapshot : WorkItem} {observation : ReadBack}
    (sound : row.Sound) (older : snapshot.maxAttempts ≤ row.maxAttempts)
    (h : row.resolveUncertain snapshot observation now = some next) :
    next.Sound ∧ row.Continues next ∧ row.state = .uncertain ∧ snapshot.state = .uncertain ∧
      snapshot.attempts = row.attempts ∧ next.attempts = row.attempts ∧
      (observation = .applied ∧ next.state = .succeeded ∨
        observation = .notApplied ∧ (next.state = .quarantined ∨ next.state = .pending)) := by
  unfold WorkItem.resolveUncertain at h
  split at h
  · cases h
  · next hobserved =>
    rw [not_or, Decidable.not_not] at hobserved
    split at h
    · next hguard =>
      obtain ⟨huncertain, hattempts, -⟩ := hguard
      have hcontinues : ∀ next : WorkItem, next.id = row.id → next.key = row.key →
          next.organizationId = row.organizationId → next.subjectId = row.subjectId →
          next.recovery = row.recovery →
          next.attempts = row.attempts → next.maxAttempts = row.maxAttempts →
          row.Continues next := by
        intro next hid hkey horganization hsubject hrecovery hsame hmax
        refine ⟨hid, hkey, horganization, hsubject, hrecovery, hsame ▸ Nat.le_refl _, hmax ▸ Nat.le_refl _,
          fun h ↦ ?_⟩
        rw [huncertain] at h
        rcases h with h | h <;> cases h
      have htoken := sound.token
      have hexpiry := sound.expiry
      rw [huncertain] at htoken hexpiry
      cases hobservation : observation with
      | unknown => exact absurd hobservation hobserved.2
      | applied =>
          rw [hobservation] at h
          simp only [if_true] at h
          cases h
          exact ⟨⟨sound.maxPositive, sound.maxBounded, sound.tried, (fun h ↦ by cases h),
            by simpa using htoken, by simpa using hexpiry, by simp⟩,
            hcontinues _ rfl rfl rfl rfl rfl rfl rfl, huncertain, hobserved.1, hattempts.symm, rfl,
            Or.inl ⟨rfl, rfl⟩⟩
      | notApplied =>
          rw [hobservation] at h
          simp only [reduceCtorEq, if_false] at h
          by_cases hspent : snapshot.maxAttempts ≤ snapshot.attempts
          · simp only [if_pos hspent] at h
            cases h
            exact ⟨⟨sound.maxPositive, sound.maxBounded, sound.tried, (fun h ↦ by cases h),
              by simpa using htoken, by simpa using hexpiry, by simp⟩,
              hcontinues _ rfl rfl rfl rfl rfl rfl rfl, huncertain, hobserved.1, hattempts.symm, rfl,
              Or.inr ⟨rfl, Or.inl rfl⟩⟩
          · simp only [if_neg hspent] at h
            cases h
            refine ⟨⟨sound.maxPositive, sound.maxBounded, sound.tried, fun _ ↦ ?_,
              by simpa using htoken, by simpa using hexpiry, by simp⟩,
              hcontinues _ rfl rfl rfl rfl rfl rfl rfl, huncertain, hobserved.1, hattempts.symm, rfl,
              Or.inr ⟨rfl, Or.inr rfl⟩⟩
            change row.attempts < row.maxAttempts
            omega
    · cases h

/-- An operator settles a waiting row, or makes a quarantined one claimable. -/
theorem WorkItem.operate_spec {action : OperatorAction} {operatorId reason : String}
    (sound : row.Sound) (h : row.operate action operatorId reason now = some next) :
    next.Sound ∧ row.Continues next ∧ row.state ∈ action.allowed ∧ next.state = action.target ∧
      next.attempts = row.attempts ∧ (action = .retry → next.dueAt = now) := by
  unfold WorkItem.operate at h
  split at h
  · next hguard =>
    obtain ⟨hallowed, hbelow⟩ := hguard
    have htoken := sound.token
    have hexpiry := sound.expiry
    have htried := sound.tried
    have hpositive := sound.maxPositive
    have hbounded := sound.maxBounded
    have hnotRunning : row.state ≠ .running := by
      intro hrunning
      rw [hrunning] at hallowed
      cases action <;> revert hallowed <;> decide
    have hopen : ¬ (row.state = .succeeded ∨ row.state = .discarded) := by
      rintro (hstate | hstate) <;> rw [hstate] at hallowed <;> cases action <;>
        revert hallowed <;> decide
    have hnoToken : ¬ row.leaseToken.isSome = true := fun h ↦ hnotRunning (htoken.1 h)
    have hnoExpiry : ¬ row.leaseExpiresAt.isSome = true := fun h ↦ hnotRunning (hexpiry.1 h)
    cases h
    cases action with
    | retry =>
        have hlt : row.attempts < 100 := hbelow rfl
        refine ⟨⟨?_, ?_, ?_, fun _ ↦ ?_, ?_, ?_, by simp [OperatorAction.target]⟩,
          ⟨rfl, rfl, rfl, rfl, rfl, Nat.le_refl _, ?_, fun h ↦ absurd h hopen⟩, hallowed, rfl, rfl,
          fun _ ↦ rfl⟩
        · change 1 ≤ min (row.maxAttempts + 8) 100
          omega
        · change min (row.maxAttempts + 8) 100 ≤ 100
          omega
        · change row.attempts ≤ min (row.maxAttempts + 8) 100
          omega
        · change row.attempts < min (row.maxAttempts + 8) 100
          omega
        · simp [OperatorAction.target, hnoToken]
        · simp [OperatorAction.target, hnoExpiry]
        · change row.maxAttempts ≤ min (row.maxAttempts + 8) 100
          omega
    | cancel =>
        exact ⟨⟨hpositive, hbounded, htried, (fun h ↦ by cases h),
          by simp [OperatorAction.target, hnoToken], by simp [OperatorAction.target, hnoExpiry],
          by simp [OperatorAction.target]⟩,
          ⟨rfl, rfl, rfl, rfl, rfl, Nat.le_refl _, Nat.le_refl _, fun h ↦ absurd h hopen⟩, hallowed, rfl,
          rfl, (fun h ↦ by cases h)⟩
    | discard =>
        exact ⟨⟨hpositive, hbounded, htried, (fun h ↦ by cases h),
          by simp [OperatorAction.target, hnoToken], by simp [OperatorAction.target, hnoExpiry],
          by simp [OperatorAction.target]⟩,
          ⟨rfl, rfl, rfl, rfl, rfl, Nat.le_refl _, Nat.le_refl _, fun h ↦ absurd h hopen⟩, hallowed, rfl,
          rfl, (fun h ↦ by cases h)⟩
  · cases h

end Updates

/-! ## What every event keeps -/

/-- What an event that updates a row found and left. -/
def WorkEvent.Effect (row next : WorkItem) : WorkEvent → Prop
  | .schedule .. => False
  | .claim .. =>
      row.state = .pending ∧ next.state = .running ∧ next.attempts = row.attempts + 1
  | .renew .. => row.state = .running ∧ next.state = .running ∧ next.attempts = row.attempts
  | .complete organizationId id token _ =>
      row.organizationId = organizationId ∧ row.id = id ∧ row.state = .running ∧
        row.leaseToken = some token ∧ next.state = .succeeded ∧ next.attempts = row.attempts
  | .fail _ _ _ _ terminal _ =>
      row.state = .running ∧ next.state = row.stateAfterRun terminal ∧
        next.attempts = row.attempts
  | .resolveUncertain organizationId id snapshot observation _ =>
      row.organizationId = organizationId ∧ row.id = id ∧ row.state = .uncertain ∧
        snapshot.state = .uncertain ∧ snapshot.attempts = row.attempts ∧
        next.attempts = row.attempts ∧
        (observation = .applied ∧ next.state = .succeeded ∨
          observation = .notApplied ∧ (next.state = .quarantined ∨ next.state = .pending))
  | .expireLeases .. =>
      row.state = .running ∧ next.state = row.stateAfterRun false ∧ next.attempts = row.attempts
  | .dispatchDue .. => row.state = .pending ∧ next.state = .pending ∧ next.attempts = row.attempts
  | .operate organizationId id action _ _ now =>
      row.organizationId = organizationId ∧ row.id = id ∧ row.state ∈ action.allowed ∧
        next.state = action.target ∧ next.attempts = row.attempts ∧
        (action = .retry → next.dueAt = now)

/-- A read-back that read the row it writes read it no later than now. -/
def WorkEvent.Older (row : WorkItem) : WorkEvent → Prop
  | .resolveUncertain organizationId id snapshot _ _ =>
      row.organizationId = organizationId → row.id = id → snapshot.maxAttempts ≤ row.maxAttempts
  | _ => True

/-- A guarded update was made, so its guards held. -/
theorem some_of_guard {α : Type} {c : Prop} [Decidable c] {update : Option α} {a : α}
    (h : (if c then update else none) = some a) : c ∧ update = some a := by
  by_cases hc : c
  · exact ⟨hc, by rwa [if_pos hc] at h⟩
  · rw [if_neg hc] at h
    cases h

/-- Every update of a row keeps it sound and continues it. -/
theorem WorkEvent.update_spec {event : WorkEvent} {row next : WorkItem} (sound : row.Sound)
    (older : event.Older row) (h : event.update row = some next) :
    next.Sound ∧ row.Continues next ∧ event.Effect row next := by
  cases event with
  | schedule => cases h
  | claim =>
      obtain ⟨-, h⟩ := some_of_guard h
      obtain ⟨-, h⟩ := some_of_guard h
      exact WorkItem.claim_spec sound h
  | renew =>
      obtain ⟨-, h⟩ := some_of_guard h
      exact WorkItem.renew_spec sound h
  | complete =>
      obtain ⟨⟨horganization, hid⟩, h⟩ := some_of_guard h
      obtain ⟨hsound, hcontinues, heffect⟩ := WorkItem.complete_spec sound h
      exact ⟨hsound, hcontinues, horganization, hid, heffect⟩
  | fail =>
      obtain ⟨-, h⟩ := some_of_guard h
      exact WorkItem.fail_spec sound h
  | resolveUncertain =>
      obtain ⟨⟨horganization, hid⟩, h⟩ := some_of_guard h
      obtain ⟨hsound, hcontinues, heffect⟩ :=
        WorkItem.resolveUncertain_spec sound (older horganization hid) h
      exact ⟨hsound, hcontinues, horganization, hid, heffect⟩
  | expireLeases =>
      obtain ⟨-, h⟩ := some_of_guard h
      exact WorkItem.expire_spec sound h
  | dispatchDue =>
      obtain ⟨-, h⟩ := some_of_guard h
      exact WorkItem.dispatch_spec sound h
  | operate =>
      obtain ⟨⟨horganization, hid⟩, h⟩ := some_of_guard h
      obtain ⟨-, h⟩ := some_of_guard h
      obtain ⟨hsound, hcontinues, heffect⟩ := WorkItem.operate_spec sound h
      exact ⟨hsound, hcontinues, horganization, hid, heffect⟩

/-- An event updates a row or leaves it as it is. -/
theorem WorkEvent.next_spec (event : WorkEvent) (row : WorkItem) :
    event.update row = some (event.next row) ∨ event.update row = none ∧ event.next row = row := by
  unfold WorkEvent.next
  cases event.update row with
  | none => exact Or.inr ⟨rfl, rfl⟩
  | some next => exact Or.inl rfl

/-- Every event keeps every row sound and continues it. -/
theorem WorkEvent.next_sound {event : WorkEvent} {row : WorkItem} (sound : row.Sound)
    (older : event.Older row) : (event.next row).Sound ∧ row.Continues (event.next row) := by
  rcases event.next_spec row with h | ⟨-, h⟩
  · have hspec := WorkEvent.update_spec sound older h
    exact ⟨hspec.1, hspec.2.1⟩
  · rw [h]
    exact ⟨sound, .refl row⟩

/-- A row that an event left in another state was updated by it. -/
theorem WorkEvent.effect_of_ne {event : WorkEvent} {row : WorkItem} (sound : row.Sound)
    (older : event.Older row) (changed : (event.next row).state ≠ row.state) :
    event.Effect row (event.next row) := by
  rcases event.next_spec row with h | ⟨-, h⟩
  · exact (WorkEvent.update_spec sound older h).2.2
  · rw [h] at changed
    exact absurd rfl changed

/-! ## Runs -/

/-- A read-back settles the row it inspected at an earlier point of the run. -/
def WorkEvent.Read (seen : List WorkItem → Prop) : WorkEvent → Prop
  | .resolveUncertain organizationId id snapshot _ _ =>
      ∃ rows, seen rows ∧ snapshot ∈ rows ∧ snapshot.organizationId = organizationId ∧
        snapshot.id = id
  | _ => True

/-- A read-back found nothing and moved a row on, at the same number of attempts. -/
def AnsweredNotApplied (row : WorkItem) (move : Move (List WorkItem) WorkEvent) : Prop :=
  ∃ snapshot now,
    move.event = .resolveUncertain row.organizationId row.id snapshot .notApplied now ∧
      ∃ before ∈ move.pre, before.id = row.id ∧ before.state = .uncertain ∧
        before.attempts = row.attempts ∧
        ∃ after ∈ move.post, after.id = row.id ∧ after.state ≠ .uncertain

/-- Which row it was about is a matter of its id, organization and attempts. -/
theorem AnsweredNotApplied.congr {row next : WorkItem} {move : Move (List WorkItem) WorkEvent}
    (answered : AnsweredNotApplied row move) (id : next.id = row.id)
    (organizationId : next.organizationId = row.organizationId)
    (attempts : next.attempts = row.attempts) : AnsweredNotApplied next move := by
  unfold AnsweredNotApplied
  rw [id, organizationId, attempts]
  exact answered

/-- What holds of the rows after a run with moves `h`. -/
structure WorkKept (h : List (Move (List WorkItem) WorkEvent)) (rows : List WorkItem) : Prop where
  sound : ∀ row ∈ rows, row.Sound
  ids : (rows.map (·.id)).Nodup
  keys : (rows.map WorkItem.key).Nodup
  continued : ∀ p, Seen h rows p → ∀ row ∈ p, ∃ next ∈ rows, row.Continues next
  answered : ∀ row ∈ rows, row.recovery = .readBack → row.state = .quarantined →
    ∃ move ∈ h, AnsweredNotApplied row move

/-- Rows with one id are one row. -/
theorem eq_of_id {rows : List WorkItem} (ids : (rows.map (·.id)).Nodup) {row row' : WorkItem}
    (mem : row ∈ rows) (mem' : row' ∈ rows) (same : row.id = row'.id) : row = row' :=
  List.inj_on_of_nodup_map ids mem mem' same

section Step

variable {h : List (Move (List WorkItem) WorkEvent)} {rows : List WorkItem} {event : WorkEvent}

/-- A read-back read its row no later than now. -/
theorem WorkKept.older (kept : WorkKept h rows) (read : event.Read (Seen h rows))
    {row : WorkItem} (mem : row ∈ rows) : event.Older row := by
  cases event with
  | resolveUncertain organizationId id snapshot observation now =>
      intro _ hid
      obtain ⟨p, hseen, hsnapshot, -, hsnapshotId⟩ := read
      obtain ⟨next, hnext, hcontinues⟩ := kept.continued p hseen snapshot hsnapshot
      have hsame : next = row := by
        apply eq_of_id kept.ids hnext mem
        rw [hcontinues.id, hsnapshotId, hid]
      rw [← hsame]
      exact hcontinues.maxAttempts
  | schedule | claim | renew | complete | fail | expireLeases | dispatchDue | operate => trivial

/-- The row an event inserts is new, sound and waiting. -/
theorem WorkEvent.inserted_spec {row : WorkItem} (inserts : event.inserted rows = some row) :
    row.Sound ∧ row.state = .pending ∧ row.id ∉ rows.map (·.id) ∧
      row.key ∉ rows.map WorkItem.key := by
  cases event with
  | schedule input id now =>
      obtain ⟨⟨hfind, hchecks, hid⟩, hrow⟩ := some_of_guard inserts
      cases hrow
      refine ⟨WorkRequest.row_sound hchecks, rfl, ?_, ?_⟩
      · intro hmem
        obtain ⟨other, hother, hsame⟩ := List.mem_map.1 hmem
        rw [List.any_eq_false] at hid
        exact hid other hother (decide_eq_true hsame)
      · intro hmem
        obtain ⟨other, hother, hsame⟩ := List.mem_map.1 hmem
        unfold findWork at hfind
        rw [List.find?_eq_none] at hfind
        exact hfind other hother (decide_eq_true hsame)
  | claim | renew | complete | fail | resolveUncertain | expireLeases | dispatchDue | operate =>
      cases inserts

/-- The rows after an event: the one it inserts and those it may have updated. -/
theorem WorkEvent.mem_run {next : WorkItem} :
    next ∈ event.run rows ↔ event.inserted rows = some next ∨ ∃ row ∈ rows, event.next row = next := by
  rw [event.run_eq, List.mem_append, Option.mem_toList, List.mem_map]

/-- Every row goes on through an event. -/
theorem WorkKept.next (kept : WorkKept h rows) (read : event.Read (Seen h rows)) {row : WorkItem}
    (mem : row ∈ rows) : (event.next row).Sound ∧ row.Continues (event.next row) :=
  WorkEvent.next_sound (kept.sound row mem) (kept.older read mem)

/-- Only a claim tries a row once more. -/
theorem WorkEvent.attempts_of_effect {row next : WorkItem} (effect : event.Effect row next)
    (waits : row.state ≠ .pending) : next.attempts = row.attempts := by
  cases event with
  | schedule => exact effect.elim
  | claim => exact absurd effect.1 waits
  | renew | fail | expireLeases | dispatchDue => exact effect.2.2
  | complete => exact effect.2.2.2.2.2
  | resolveUncertain => exact effect.2.2.2.2.2.1
  | operate => exact effect.2.2.2.2.1

/-- A row that does not wait keeps its number of attempts. -/
theorem WorkKept.attempts_kept (kept : WorkKept h rows) (read : event.Read (Seen h rows))
    {row : WorkItem} (mem : row ∈ rows) (waits : row.state ≠ .pending) :
    (event.next row).attempts = row.attempts := by
  rcases event.next_spec row with hupdate | ⟨-, hupdate⟩
  · have hspec := WorkEvent.update_spec (kept.sound row mem) (kept.older read mem) hupdate
    exact WorkEvent.attempts_of_effect hspec.2.2 waits
  · rw [hupdate]

/-- A read-back row that has just been quarantined, or has just come back to waiting without having
been quarantined, was settled by a read-back that found nothing. -/
theorem WorkKept.answered_now (kept : WorkKept h rows) (read : event.Read (Seen h rows))
    {row : WorkItem} (mem : row ∈ rows) (recovery : row.recovery = .readBack)
    (before : row.state ≠ .quarantined) (changed : (event.next row).state ≠ row.state)
    (after : (event.next row).state = .quarantined ∨ (event.next row).state = .pending) :
    AnsweredNotApplied (event.next row) ⟨rows, event, event.run rows⟩ := by
  have hcontinues := (kept.next read mem).2
  have heffect := WorkEvent.effect_of_ne (kept.sound row mem) (kept.older read mem) changed
  have hmem : event.next row ∈ event.run rows := WorkEvent.mem_run.2 (Or.inr ⟨row, mem, rfl⟩)
  have hrun : ∀ terminal, row.stateAfterRun terminal = .uncertain := fun terminal ↦ by
    unfold WorkItem.stateAfterRun
    rw [recovery]
  generalize event.next row = next at hcontinues changed heffect hmem after ⊢
  cases event with
  | schedule => exact heffect.elim
  | claim | renew =>
      rw [heffect.2.1] at after
      rcases after with h | h <;> cases h
  | complete =>
      rw [heffect.2.2.2.2.1] at after
      rcases after with h | h <;> cases h
  | fail _ _ _ _ terminal _ =>
      rw [heffect.2.1, hrun terminal] at after
      rcases after with h | h <;> cases h
  | expireLeases =>
      rw [heffect.2.1, hrun false] at after
      rcases after with h | h <;> cases h
  | dispatchDue =>
      rw [heffect.1, heffect.2.1] at changed
      exact absurd rfl changed
  | operate _ _ action _ _ _ =>
      cases action with
      | retry =>
          have hallowed : row.state ∈ [WorkState.quarantined] := heffect.2.2.1
          exact absurd (List.mem_singleton.1 hallowed) before
      | cancel | discard =>
          rw [heffect.2.2.2.1] at after
          rcases after with h | h <;> cases h
  | resolveUncertain organizationId id snapshot observation now =>
      obtain ⟨horganization, hid, huncertain, -, -, hattempts, hobserved⟩ := heffect
      rcases hobserved with ⟨-, hsucceeded⟩ | ⟨hnotApplied, -⟩
      · rw [hsucceeded] at after
        rcases after with h | h <;> cases h
      · refine ⟨snapshot, now, ?_, row, mem, hcontinues.id.symm, huncertain, hattempts.symm, next,
          hmem, rfl, ?_⟩
        · rw [hcontinues.organizationId, hcontinues.id, horganization, hid, hnotApplied]
        · rcases after with h | h <;> rw [h] <;> decide

/-- One event keeps what holds of the rows. -/
theorem WorkKept.step (kept : WorkKept h rows) (read : event.Read (Seen h rows)) :
    WorkKept (⟨rows, event, event.run rows⟩ :: h) (event.run rows) := by
  have hids : (rows.map event.next).map (·.id) = rows.map (·.id) := by
    rw [List.map_map]
    exact List.map_congr_left fun row hrow ↦ (kept.next read hrow).2.id
  have hkeys : (rows.map event.next).map WorkItem.key = rows.map WorkItem.key := by
    rw [List.map_map]
    exact List.map_congr_left fun row hrow ↦ (kept.next read hrow).2.key
  refine ⟨fun next hnext ↦ ?_, ?_, ?_, fun p hp row hrow ↦ ?_, fun next hnext hrecovery hstate ↦ ?_⟩
  · rcases WorkEvent.mem_run.1 hnext with hinserted | ⟨row, hrow, rfl⟩
    · exact (WorkEvent.inserted_spec hinserted).1
    · exact (kept.next read hrow).1
  · rw [event.run_eq, List.map_append, hids]
    cases hinserted : event.inserted rows with
    | none => exact kept.ids
    | some row => exact List.nodup_cons.2 ⟨(WorkEvent.inserted_spec hinserted).2.2.1, kept.ids⟩
  · rw [event.run_eq, List.map_append, hkeys]
    cases hinserted : event.inserted rows with
    | none => exact kept.keys
    | some row => exact List.nodup_cons.2 ⟨(WorkEvent.inserted_spec hinserted).2.2.2, kept.keys⟩
  · have hpast : ∀ q, Seen h rows q → row ∈ q →
        ∃ next ∈ event.run rows, row.Continues next := fun q hq hrow ↦ by
      obtain ⟨middle, hmiddle, hcontinues⟩ := kept.continued q hq row hrow
      exact ⟨event.next middle, WorkEvent.mem_run.2 (Or.inr ⟨middle, hmiddle, rfl⟩),
        hcontinues.trans (kept.next read hmiddle).2⟩
    rcases (seen_cons_iff _ _ _ _).1 hp with rfl | rfl | hold
    · exact ⟨row, hrow, .refl row⟩
    · exact hpast _ (Seen.self _ _) hrow
    · exact hpast p (Or.inr hold) hrow
  · rcases WorkEvent.mem_run.1 hnext with hinserted | ⟨row, hrow, rfl⟩
    · rw [(WorkEvent.inserted_spec hinserted).2.1] at hstate
      cases hstate
    · have hcontinues := (kept.next read hrow).2
      rw [hcontinues.recovery] at hrecovery
      by_cases hsame : (event.next row).state = row.state
      · rw [hsame] at hstate
        obtain ⟨move, hmove, hanswered⟩ := kept.answered row hrow hrecovery hstate
        have htried : (event.next row).attempts = row.attempts := by
          apply kept.attempts_kept read hrow
          rw [hstate]
          decide
        exact ⟨move, List.mem_cons_of_mem _ hmove,
          hanswered.congr hcontinues.id hcontinues.organizationId htried⟩
      · refine ⟨_, List.mem_cons_self, ?_⟩
        apply kept.answered_now read hrow hrecovery _ hsame (Or.inl hstate)
        intro hbefore
        rw [hbefore] at hsame
        exact hsame hstate

end Step

/-! ## Safety -/

section Safety

variable {h : List (Move (List WorkItem) WorkEvent)} {rows : List WorkItem}

/-- A move in which the holder of a token commits the effect of the work with a key. -/
def Commits (key : String × String × String) (token : Nat)
    (move : Move (List WorkItem) WorkEvent) : Prop :=
  ∃ row ∈ move.pre, row.key = key ∧ ∃ now,
    move.event = .complete row.organizationId row.id token now ∧ row.leasedBy token now = true

/-- Work whose effect was committed has succeeded. -/
theorem Commits.succeeded {key : String × String × String} {token : Nat}
    {move : Move (List WorkItem) WorkEvent} (commits : Commits key token move)
    (left : move.post = move.event.run move.pre) :
    ∃ row ∈ move.post, row.key = key ∧ row.state = .succeeded := by
  obtain ⟨row, hrow, hkey, now, hevent, hleased⟩ := commits
  rw [left, hevent]
  have hupdate : (WorkEvent.complete row.organizationId row.id token now).update row =
      row.complete token now := if_pos ⟨rfl, rfl⟩
  have hnext : (WorkEvent.complete row.organizationId row.id token now).next row =
      (row.complete token now).getD row := by
    unfold WorkEvent.next
    rw [hupdate]
  refine ⟨_, WorkEvent.mem_run.2 (Or.inr ⟨row, hrow, rfl⟩), ?_, ?_⟩ <;> rw [hnext] <;>
    unfold WorkItem.complete <;> rw [if_pos hleased]
  · exact hkey
  · rfl

/-- A row that succeeded or was discarded stays as it is. -/
theorem WorkKept.settled (kept : WorkKept h rows) {p : List WorkItem} (seen : Seen h rows p)
    {row : WorkItem} (mem : row ∈ p) (settled : row.state = .succeeded ∨ row.state = .discarded) :
    row ∈ rows := by
  obtain ⟨next, hnext, hcontinues⟩ := kept.continued p seen row mem
  rw [← hcontinues.settled settled]
  exact hnext

end Safety

end ReputationKey.Shared
