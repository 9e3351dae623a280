import ReputationKey.Shared.RefreshSingleFlight

/-!
# What a step of the refresh single flight does

One inversion of the step function, and what every step keeps: the order of a run's phases, the owner
of each request, and the outcome of each call.
-/

namespace ReputationKey.Shared

open Base

variable {τ ε : Type}

namespace RefreshPhase

/-- The owner under which a run still competes for the lock or has it. -/
def contender : RefreshPhase τ ε → Option String
  | acquiring owner => some owner
  | holding owner => some owner
  | refreshing owner => some owner
  | _ => none

/-- The run has asked for the release of its lock, or has ended. -/
def Over : RefreshPhase τ ε → Prop
  | releasing _ _ => True
  | finished _ => True
  | _ => False

end RefreshPhase

namespace RefreshState

/-- Who holds the lock. -/
def holder (s : RefreshState τ ε) : Option String := s.lock.map (·.owner)

/-- What a step does, with what it found. -/
inductive Stepped (config : RefreshCoordinationConfig) (s : RefreshState τ ε) :
    RefreshEvent τ ε → RefreshState τ ε → Prop
  | started {run : ℕ} {fingerprint : String} {deadlineMs : ℤ} {r : RefreshRun τ ε} :
      s.runs run = none → r.leadership = none → r.phase.contender = none →
        Stepped config s (.start run fingerprint deadlineMs) (s.setRun run r)
  | ended {e : RefreshEvent τ ε} {run : ℕ} {r r' : RefreshRun τ ε} : s.runs run = some r →
      r'.leadership = r.leadership → r'.phase.Over → Stepped config s e (s.setRun run r')
  | sent {run : ℕ} {nowMs : ℤ} {latest : Except ε (Option τ)} {owner : String}
      {r : RefreshRun τ ε} {firstLook : ℕ} : s.runs run = some r → r.phase = .looking →
        Stepped config s (.look run nowMs latest owner)
          { s.setRun run { r with phase := .acquiring owner, firstLook := some firstLook } with
            attempts := s.attempts.set owner ⟨run, none, 0, false, false⟩ }
  | locked {owner : String} {clock : ℤ} {a : LockAttempt} : s.attempts owner = some a →
      a.answer = none → s.lock = none → Stepped config s (.executeSet owner clock)
        { s with
          lock := some ⟨owner, clock + config.leaseMs⟩
          attempts := s.attempts.set owner
            { a with answer := some true, commitsBefore := s.commits } }
  | refused {owner : String} {clock : ℤ} {a : LockAttempt} : s.attempts owner = some a →
      a.answer = none → s.lock ≠ none → Stepped config s (.executeSet owner clock)
        { s with
          attempts := s.attempts.set owner
            { a with answer := some false, commitsBefore := s.commits } }
  | acquired {run : ℕ} {owner : String} {r : RefreshRun τ ε} {a : LockAttempt} :
      s.runs run = some r → r.phase = .acquiring owner → s.attempts owner = some a →
        a.answer = some true → Stepped config s (.acquireReply run)
          (s.setRun run
            { r with
              phase := .holding owner
              leadership := some ⟨owner, false, false, false⟩ })
  | contended {run : ℕ} {owner : String} {r : RefreshRun τ ε} {a : LockAttempt} :
      s.runs run = some r → r.phase = .acquiring owner → s.attempts owner = some a →
        a.answer = some false →
          Stepped config s (.acquireReply run) (s.setRun run { r with phase := .looking })
  | concluded {e : RefreshEvent τ ε} {run : ℕ} {owner : String} {r : RefreshRun τ ε}
      {result : Except (RefreshFailure ε) τ} : s.runs run = some r →
        r.phase.contender = some owner → Stepped config s e (s.conclude run r owner result)
  | refreshStarted {run : ℕ} {owner : String} {r : RefreshRun τ ε} : s.runs run = some r →
      r.phase = .holding owner → Stepped config s (.lookAgain run (.ok none))
        (s.setRun run
          { r with
            phase := .refreshing owner
            leadership := r.leadership.map fun l ↦ { l with given := true } })
  | committed {run : ℕ} {value : τ} {owner : String} {r : RefreshRun τ ε} : s.runs run = some r →
      r.phase = .refreshing owner → Stepped config s (.commit run value)
        { s with commits := s.commits + 1, current := some ⟨run, s.commits, value⟩ }
  | superseded : Stepped config s .supersede { s with current := none }
  | asserted {run call : ℕ} {r : RefreshRun τ ε} {l : RefreshLeadership} : s.runs run = some r →
      r.leadership = some l → s.calls call = none → Stepped config s (.assertLeadership run call)
        { s with
          calls := s.calls.set call
            (if l.leadershipLost then ⟨run, l.owner, true, false, none, some .leadershipLost⟩
              else ⟨run, l.owner, true, true, none, none⟩) }
  | timed {run call : ℕ} {r : RefreshRun τ ε} {l : RefreshLeadership} : s.runs run = some r →
      r.leadership = some l → s.calls call = none → Stepped config s (.renewalTimer run call)
        { s.setRun run { r with leadership := some { l with renewalInFlight := true } } with
          calls := s.calls.set call ⟨run, l.owner, false, true, none, none⟩ }
  | renewed {call : ℕ} {clock : ℤ} {c : RenewCall} {lock : RefreshLock} : s.calls call = some c →
      c.renewed = none → s.lock = some lock → lock.owner = c.owner →
        Stepped config s (.executeRenew call clock)
          { s with
            lock := some { lock with expiresAt := clock + config.leaseMs }
            calls := s.calls.set call { c with renewed := some true } }
  | notRenewed {call : ℕ} {clock : ℤ} {c : RenewCall} : s.calls call = some c →
      c.renewed = none → s.holder ≠ some c.owner → Stepped config s (.executeRenew call clock)
        { s with calls := s.calls.set call { c with renewed := some false } }
  | settled {e : RefreshEvent τ ε} {call : ℕ} {c : RenewCall} {outcome : RenewOutcome} :
      s.calls call = some c → c.outcome = none → (outcome = .renewed → c.renewed = some true) →
        Stepped config s e (s.settleCall call c outcome)
  | released {owner : String} {a : LockAttempt} : s.attempts owner = some a →
      a.releaseRequested = true → Stepped config s (.executeRelease owner)
        { s with
          lock := releaseRefreshLock owner s.lock
          attempts := s.attempts.set owner { a with released := true } }
  | expired : Stepped config s .expire { s with lock := none }

theorem step_stepped {config : RefreshCoordinationConfig} {s s' : RefreshState τ ε}
    {e : RefreshEvent τ ε} (h : s.step config e = some s') : Stepped config s e s' := by
  cases e with
  | start run fingerprint deadlineMs =>
      rw [step, start] at h
      split at h
      · cases h
      next hnone =>
      cases h
      refine .started (Option.not_isSome_iff_eq_none.1 hnone) rfl ?_
      split
      · rfl
      · rfl
  | look run nowMs latest owner =>
      rw [step, look.eq_def] at h
      split at h
      · next hrun =>
        split at h
        · cases h
          exact .ended hrun rfl trivial
        simp only at h
        split at h
        · cases h
          exact .ended hrun rfl trivial
        · cases h
          exact .ended hrun rfl trivial
        split at h
        · cases h
          exact .ended hrun rfl trivial
        · cases h
          exact .sent hrun rfl
      · cases h
  | executeSet owner clock =>
      rw [step, executeSet.eq_def] at h
      split at h
      · next hattempt =>
        cases hlock : s.lock with
        | none =>
            rw [hlock] at h
            cases h
            exact .locked hattempt rfl hlock
        | some lock =>
            rw [hlock] at h
            cases h
            rw [← hlock]
            exact .refused hattempt rfl (by simp [hlock])
      · cases h
  | acquireReply run =>
      rw [step, acquireReply.eq_def] at h
      split at h
      · next hrun =>
        split at h
        · next hanswer =>
          obtain ⟨a, hattempt, htrue⟩ := Option.bind_eq_some_iff.1 hanswer
          cases h
          exact .acquired hrun rfl hattempt htrue
        · next hanswer =>
          obtain ⟨a, hattempt, hfalse⟩ := Option.bind_eq_some_iff.1 hanswer
          cases h
          exact .contended hrun rfl hattempt hfalse
        · cases h
      · cases h
  | acquireError run =>
      rw [step, acquireError.eq_def] at h
      split at h
      · next hrun =>
        cases h
        exact .ended hrun rfl trivial
      · cases h
  | lookAgain run committed =>
      rw [step, lookAgain.eq_def] at h
      split at h
      · next hrun =>
        split at h
        · cases h
          exact .concluded hrun rfl
        · cases h
          exact .concluded hrun rfl
        · cases h
          exact .refreshStarted hrun rfl
      · cases h
  | commit run value =>
      rw [step, commit.eq_def] at h
      split at h
      · next hrun =>
        cases h
        exact .committed hrun rfl
      · cases h
  | refreshed run result =>
      rw [step, refreshed.eq_def] at h
      split at h
      · next hrun =>
        cases h
        exact .concluded hrun rfl
      · cases h
  | supersede =>
      cases h
      exact .superseded
  | assertLeadership run call =>
      rw [step, assertLeadership.eq_def] at h
      split at h
      · next hrun hcall =>
        cases h
        exact .asserted hrun rfl hcall
      · cases h
  | renewalTimer run call =>
      rw [step, renewalTimer.eq_def] at h
      split at h
      · next hrun hcall =>
        split at h
        · cases h
          exact .timed hrun rfl hcall
        · cases h
      · cases h
  | executeRenew call clock =>
      rw [step, executeRenew.eq_def] at h
      split at h
      · next run owner assertion outcome hcall =>
        cases hlock : s.lock with
        | none =>
            rw [hlock] at h
            cases h
            rw [← hlock]
            exact .notRenewed hcall rfl (by simp [holder, hlock])
        | some lock =>
            rw [hlock, renewRefreshLock] at h
            by_cases hown : lock.owner = owner
            · rw [if_pos hown] at h
              cases h
              exact .renewed hcall rfl hlock hown
            · rw [if_neg hown] at h
              cases h
              rw [← hlock]
              exact .notRenewed hcall rfl (by simpa [holder, hlock] using hown)
      · cases h
  | renewReply call =>
      rw [step, renewReply.eq_def] at h
      split at h
      · next run owner assertion sent renewed hcall =>
        cases h
        refine .settled hcall rfl ?_
        cases renewed with
        | true => exact fun _ ↦ rfl
        | false => exact fun h ↦ by cases h
      · cases h
  | renewError call =>
      rw [step, renewError.eq_def] at h
      split at h
      · next hcall =>
        cases h
        exact .settled hcall rfl (fun h ↦ by cases h)
      · cases h
  | executeRelease owner =>
      rw [step, executeRelease.eq_def] at h
      split at h
      · next hattempt =>
        cases h
        exact .released hattempt rfl
      · cases h
  | releaseSettled run =>
      rw [step, releaseSettled.eq_def] at h
      split at h
      · next hrun =>
        cases h
        exact .ended hrun rfl trivial
      · cases h
  | expire =>
      cases h
      exact .expired

/-! ## What every step keeps -/

variable {config : RefreshCoordinationConfig} {s s' : RefreshState τ ε} {e : RefreshEvent τ ε}

/-- A request keeps its run, and its answer once Redis gave it. -/
def AttemptsKept (s s' : RefreshState τ ε) : Prop :=
  ∀ owner a, s.attempts owner = some a → ∃ a', s'.attempts owner = some a' ∧ a'.run = a.run ∧
    (a.answer ≠ none → a'.answer = a.answer ∧ a'.commitsBefore = a.commitsBefore)

theorem AttemptsKept.of_eq (h : s'.attempts = s.attempts) : AttemptsKept s s' := by
  intro owner a ha
  exact ⟨a, by rw [h, ha], rfl, fun _ ↦ ⟨rfl, rfl⟩⟩

/-- Writing one request keeps the others. -/
theorem AttemptsKept.of_set {owner : String} {a a' : LockAttempt}
    (hattempts : s'.attempts = s.attempts.set owner a') (ha : s.attempts owner = some a)
    (hrun : a'.run = a.run)
    (hanswer : a.answer ≠ none → a'.answer = a.answer ∧ a'.commitsBefore = a.commitsBefore) :
    AttemptsKept s s' := by
  intro other b hb
  rw [hattempts]
  by_cases hother : other = owner
  · rw [hother] at hb ⊢
    rw [ha] at hb
    obtain rfl := Option.some.inj hb
    exact ⟨a', KeyedRecord.set_same _ _ _, hrun, hanswer⟩
  · exact ⟨b, by rw [KeyedRecord.set_other _ _ hother, hb], rfl, fun _ ↦ ⟨rfl, rfl⟩⟩

theorem conclude_attempts (s : RefreshState τ ε) (run : ℕ) (r : RefreshRun τ ε) (owner : String)
    (result : Except (RefreshFailure ε) τ) (other : String) :
    (s.conclude run r owner result).attempts other = (s.attempts other).map fun a ↦
      if other = owner then { a with releaseRequested := true } else a := by
  have hattempts : (s.conclude run r owner result).attempts = s.attempts.modify owner fun attempt ↦
      attempt.map fun a ↦ { a with releaseRequested := true } := rfl
  rw [hattempts]
  by_cases hother : other = owner
  · rw [hother, KeyedRecord.modify_same]
    simp
  · rw [KeyedRecord.modify_other _ _ hother]
    simp [hother]

theorem Stepped.attemptsKept (h : Stepped config s e s') (fresh : e.Fresh s) :
    AttemptsKept s s' := by
  cases h with
  | @sent _ _ _ owner _ _ _ _ =>
      intro other a ha
      have hother : other ≠ owner := by
        rintro rfl
        rw [RefreshEvent.Fresh, ha] at fresh
        cases fresh
      exact ⟨a, (KeyedRecord.set_other _ _ hother).trans ha, rfl, fun _ ↦ ⟨rfl, rfl⟩⟩
  | locked hattempt hanswer _ =>
      exact .of_set rfl hattempt rfl fun hne ↦ absurd hanswer hne
  | refused hattempt hanswer _ =>
      exact .of_set rfl hattempt rfl fun hne ↦ absurd hanswer hne
  | released hattempt _ => exact .of_set rfl hattempt rfl fun _ ↦ ⟨rfl, rfl⟩
  | concluded =>
      intro other a ha
      rw [conclude_attempts, ha, Option.map_some]
      split
      · exact ⟨_, rfl, rfl, fun _ ↦ ⟨rfl, rfl⟩⟩
      · exact ⟨_, rfl, rfl, fun _ ↦ ⟨rfl, rfl⟩⟩
  | _ => exact .of_eq rfl

/-- Redis has answered the `SET` of an owner. -/
def Spent (s : RefreshState τ ε) (owner : String) : Prop :=
  ∃ a, s.attempts owner = some a ∧ a.answer ≠ none

/-- An owner whose `SET` was answered does not come to the lock again. -/
def LockKept (s s' : RefreshState τ ε) : Prop :=
  ∀ owner, s.Spent owner → s'.Spent owner ∧ (s'.holder = some owner → s.holder = some owner)

theorem AttemptsKept.spent (h : AttemptsKept s s') {owner : String} (spent : s.Spent owner) :
    s'.Spent owner := by
  obtain ⟨a, ha, hanswer⟩ := spent
  obtain ⟨a', ha', _, hsame⟩ := h owner a ha
  refine ⟨a', ha', ?_⟩
  rw [(hsame hanswer).1]
  exact hanswer

theorem releaseRefreshLock_holder {lock : Option RefreshLock} {owner other : String}
    (h : (releaseRefreshLock owner lock).map (·.owner) = some other) :
    lock.map (·.owner) = some other ∧ other ≠ owner := by
  cases lock with
  | none => cases h
  | some lock =>
      rw [releaseRefreshLock] at h
      split at h
      · cases h
      · next hne =>
        refine ⟨h, ?_⟩
        rintro rfl
        exact hne (Option.some.inj h)

theorem Stepped.lockKept (h : Stepped config s e s') (fresh : e.Fresh s) : LockKept s s' := by
  have hattempts := h.attemptsKept fresh
  intro owner spent
  refine ⟨hattempts.spent spent, ?_⟩
  cases h with
  | locked hattempt hanswer _ =>
      intro hholder
      obtain rfl := Option.some.inj hholder
      obtain ⟨a, ha, hne⟩ := spent
      rw [hattempt] at ha
      rw [← Option.some.inj ha] at hne
      exact absurd hanswer hne
  | renewed _ _ hlock _ =>
      intro hholder
      rw [holder, hlock]
      exact hholder
  | released _ _ =>
      intro hholder
      exact (releaseRefreshLock_holder hholder).1
  | expired =>
      rintro ⟨⟩
  | _ => exact fun hholder ↦ hholder

end RefreshState

end ReputationKey.Shared
