import ReputationKey.Shared.RefreshOrder

/-!
# Refresh leadership is exclusive

From the acquisition of the lock to the last assertion that Redis carried out for it, no other run
acquires it. When leases last until they are released and the look under the lock reports what was
committed before, no refresh starts over a value that another run has committed.
-/

namespace ReputationKey.Shared

open Base RefreshState

variable {τ ε : Type} {config : RefreshCoordinationConfig}
  {h : List (Move (RefreshState τ ε) (RefreshEvent τ ε))} {s : RefreshState τ ε}

/-! ## Spans of leadership -/

/-- Redis gives a run the lock. -/
def AcquiresLock (m : Move (RefreshState τ ε) (RefreshEvent τ ε)) (run : ℕ) : Prop :=
  ∃ owner clock a, m.event = .executeSet owner clock ∧ m.pre.attempts owner = some a ∧
    a.run = run ∧ m.pre.lock = none

/-- Redis carries out an assertion of a run, and the lock is the run's. -/
def AssertsLock (m : Move (RefreshState τ ε) (RefreshEvent τ ε)) (run call : ℕ) : Prop :=
  ∃ clock c, m.event = .executeRenew call clock ∧ m.pre.calls call = some c ∧ c.run = run ∧
    c.assertion = true ∧ m.pre.holder = some c.owner

/-- A run of moves from an acquisition to an assertion that holds. -/
structure LeadershipSpan (h : List (Move (RefreshState τ ε) (RefreshEvent τ ε))) (run start stop : ℕ) :
    Prop where
  acquired : ∃ m, MoveAt h start m ∧ AcquiresLock m run
  asserted : ∃ m call, MoveAt h stop m ∧ AssertsLock m run call
  ordered : start ≤ stop

theorem RefreshState.LockKept.trans {p q s : RefreshState τ ε} (hpq : LockKept p q)
    (hqs : LockKept q s) : LockKept p s := by
  intro owner spent
  obtain ⟨spent', hback⟩ := hpq owner spent
  obtain ⟨spent'', hback'⟩ := hqs owner spent'
  exact ⟨spent'', fun hholder ↦ hback (hback' hholder)⟩

theorem refreshSystem_lockKept (r : Run (refreshSystem τ ε config) h s) {p : RefreshState τ ε}
    (seen : Seen h s p) : LockKept p s := by
  apply r.seen_related (R := LockKept) _ _ _ seen
  · intro _ _ spent
    exact ⟨spent, fun hholder ↦ hholder⟩
  · intro _ _ _ hpast hstep
    exact hpast.trans hstep
  · rintro _ _ _ _ _ ⟨fresh, hstep⟩
    exact (step_stepped hstep).lockKept fresh

/-- A request keeps its run and its answer over a run. -/
theorem refreshSystem_attemptsKept (r : Run (refreshSystem τ ε config) h s) {p : RefreshState τ ε}
    (seen : Seen h s p) : AttemptsKept p s := by
  apply r.seen_related (R := AttemptsKept) _ _ _ seen
  · intro p
    exact .of_eq rfl
  · intro _ _ _ hpast hstep owner a ha
    obtain ⟨b, hb, hrun, hsame⟩ := hpast owner a ha
    obtain ⟨c, hc, hrun', hsame'⟩ := hstep owner b hb
    refine ⟨c, hc, hrun'.trans hrun, ?_⟩
    intro hanswer
    obtain ⟨hanswerb, hcommitsb⟩ := hsame hanswer
    obtain ⟨hanswerc, hcommitsc⟩ := hsame' (by rw [hanswerb]; exact hanswer)
    exact ⟨hanswerc.trans hanswerb, hcommitsc.trans hcommitsb⟩
  · rintro _ _ _ _ _ ⟨fresh, hstep⟩
    exact (step_stepped hstep).attemptsKept fresh

theorem move_step (r : Run (refreshSystem τ ε config) h s)
    {m : Move (RefreshState τ ε) (RefreshEvent τ ε)} (hm : m ∈ h) :
    m.pre.Orderly ∧ m.event.Fresh m.pre ∧ m.pre.step config m.event = some m.post := by
  obtain ⟨_, hrun, fresh, hstep⟩ := r.of_mem hm
  exact ⟨refreshSystem_orderly hrun, fresh, hstep⟩

/-- A `SET` that finds no lock takes it for its owner. -/
theorem executeSet_free {s s' : RefreshState τ ε} {owner : String} {clock : ℤ} {a : LockAttempt}
    (ha : s.attempts owner = some a) (free : s.lock = none)
    (hstep : s.step config (.executeSet owner clock) = some s') :
    a.answer = none ∧ s'.holder = some owner ∧ s'.attempts owner =
      some { a with answer := some true, commitsBefore := s.commits } := by
  obtain ⟨run, answer, commitsBefore, releaseRequested, released⟩ := a
  rw [step, executeSet.eq_def, ha] at hstep
  cases answer with
  | some answer => cases hstep
  | none =>
      rw [free] at hstep
      cases hstep
      exact ⟨rfl, rfl, KeyedRecord.set_same _ _ _⟩

/-- After an acquisition the run's request is answered and the lock is its own. -/
theorem AcquiresLock.post {m : Move (RefreshState τ ε) (RefreshEvent τ ε)} {run : ℕ}
    (hm : AcquiresLock m run) (hstep : m.pre.step config m.event = some m.post) :
    ∃ owner a, m.pre.attempts owner = some a ∧ a.answer = none ∧ a.run = run ∧
      m.post.holder = some owner ∧ m.post.attempts owner =
        some { a with answer := some true, commitsBefore := m.pre.commits } := by
  obtain ⟨owner, clock, a, hevent, ha, hrun, hlock⟩ := hm
  rw [hevent] at hstep
  obtain ⟨hanswer, hholder, hpost⟩ := executeSet_free ha hlock hstep
  exact ⟨owner, a, ha, hanswer, hrun, hholder, hpost⟩

theorem AcquiresLock.not_asserts {m : Move (RefreshState τ ε) (RefreshEvent τ ε)} {run run' : ℕ}
    {call : ℕ} (hm : AcquiresLock m run) : ¬ AssertsLock m run' call := by
  obtain ⟨_, _, _, hevent, _⟩ := hm
  rintro ⟨_, _, hevent', _⟩
  rw [hevent] at hevent'
  cases hevent'

/-- When an assertion holds, the lock is held under the one request of its run that was granted. -/
theorem AssertsLock.holder {m : Move (RefreshState τ ε) (RefreshEvent τ ε)} {run call : ℕ}
    (hm : AssertsLock m run call) (orderly : m.pre.Orderly) {owner : String} {a : LockAttempt}
    (ha : m.pre.attempts owner = some a) (hrun : a.run = run) (hanswer : a.answer = some true) :
    m.pre.holder = some owner := by
  obtain ⟨_, c, _, hcall, hcrun, _, hholder⟩ := hm
  obtain ⟨r, l, hr, hl, hown, _⟩ := orderly.calls call c hcall
  obtain ⟨b, hb, hbrun, hbanswer⟩ := (orderly.runs c.run r hr).leading l hl
  have hsame := orderly.single l.owner owner b a hb ha (by rw [hbrun, hcrun, hrun])
    (by simp [hbanswer]) (by simp [hanswer])
  rw [hholder, ← hown, hsame]

/-- Within a span no other run acquires the lock. -/
theorem LeadershipSpan.no_acquisition (r : Run (refreshSystem τ ε config) h s) {run run' : ℕ}
    {start stop n : ℕ} (span : LeadershipSpan h run start stop)
    {m : Move (RefreshState τ ε) (RefreshEvent τ ε)} (at_n : MoveAt h n m)
    (hm : AcquiresLock m run') (other : run ≠ run') (after : start < n) : stop < n := by
  obtain ⟨first, at_start, hfirst⟩ := span.acquired
  obtain ⟨last, call, at_stop, hlast⟩ := span.asserted
  by_contra hbefore
  have hne : n ≠ stop := by
    rintro rfl
    rw [at_n.unique at_stop] at hm
    exact hm.not_asserts hlast
  have hlt : n < stop := by omega
  obtain ⟨owner, a, _, _, hrun, _, hgranted⟩ := hfirst.post (move_step r at_start.mem).2.2
  obtain ⟨owner', a', _, _, hrun', hholder', hgranted'⟩ := hm.post (move_step r at_n.mem).2.2
  obtain ⟨_, hrun_n, hseen_n⟩ := r.seen_at at_start at_n after
  obtain ⟨_, hrun_stop, hseen_stop⟩ := r.seen_at at_n at_stop hlt
  obtain ⟨_, hrun_stop', hseen_start⟩ := r.seen_at at_start at_stop (after.trans hlt)
  -- The first run's request is still granted at the last assertion, so the lock is held under it.
  obtain ⟨b, hb, hbrun, hbanswer⟩ :=
    refreshSystem_attemptsKept hrun_stop' hseen_start owner _ hgranted
  have hheld := hlast.holder (move_step r at_stop.mem).1 hb (hbrun.trans hrun)
    (hbanswer (by simp)).1
  -- It was answered before the other run's acquisition, which left the lock to another owner.
  have hspent : m.pre.Spent owner :=
    (refreshSystem_lockKept hrun_n hseen_n owner ⟨_, hgranted, by simp⟩).1
  obtain ⟨_, fresh, hstep⟩ := move_step r at_n.mem
  have hspent' := ((step_stepped hstep).lockKept fresh owner hspent).1
  have hback := (refreshSystem_lockKept hrun_stop hseen_stop owner hspent').2 hheld
  rw [hholder'] at hback
  rw [Option.some.inj hback] at hgranted'
  have hkept := (step_stepped hstep).attemptsKept fresh owner
  obtain ⟨c, hc, _⟩ := hspent
  obtain ⟨d, hd, hdrun, _⟩ := refreshSystem_attemptsKept hrun_n hseen_n owner _ hgranted
  obtain ⟨e, he, herun, _⟩ := hkept d hd
  rw [hgranted'] at he
  rw [← Option.some.inj he] at herun
  exact other (by rw [← hrun, ← hrun']; exact (herun.trans hdrun).symm)

/-- Spans of different runs are disjoint. -/
theorem LeadershipSpan.disjoint (r : Run (refreshSystem τ ε config) h s) {run run' : ℕ}
    {start stop start' stop' : ℕ} (span : LeadershipSpan h run start stop)
    (span' : LeadershipSpan h run' start' stop') (other : run ≠ run') :
    stop < start' ∨ stop' < start := by
  obtain ⟨m, at_start, hm⟩ := span.acquired
  obtain ⟨m', at_start', hm'⟩ := span'.acquired
  rcases Nat.lt_trichotomy start start' with hlt | heq | hgt
  · exact Or.inl (span.no_acquisition r at_start' hm' other hlt)
  · exfalso
    rw [heq] at at_start
    rw [at_start.unique at_start'] at hm
    obtain ⟨owner, _, a, hevent, ha, hrun, _⟩ := hm
    obtain ⟨owner', _, a', hevent', ha', hrun', _⟩ := hm'
    rw [hevent] at hevent'
    cases hevent'
    rw [ha] at ha'
    rw [← Option.some.inj ha', hrun] at hrun'
    exact other hrun'
  · exact Or.inr (span'.no_acquisition r at_start hm (Ne.symm other) hgt)

/-- A run acquires the lock once. -/
theorem AcquiresLock.once (r : Run (refreshSystem τ ε config) h s) {run n k : ℕ}
    {m m' : Move (RefreshState τ ε) (RefreshEvent τ ε)} (at_n : MoveAt h n m)
    (hm : AcquiresLock m run) (at_k : MoveAt h k m') (hm' : AcquiresLock m' run) : n = k := by
  have hlater : ∀ {n k : ℕ} {m m' : Move (RefreshState τ ε) (RefreshEvent τ ε)}, MoveAt h n m →
      AcquiresLock m run → MoveAt h k m' → AcquiresLock m' run → ¬ n < k := by
    intro n k m m' at_n hm at_k hm' hlt
    obtain ⟨owner, a, _, _, hrun, _, hgranted⟩ := hm.post (move_step r at_n.mem).2.2
    obtain ⟨owner', a', ha', hnone, hrun', _, _⟩ := hm'.post (move_step r at_k.mem).2.2
    obtain ⟨_, hrun_k, hseen⟩ := r.seen_at at_n at_k hlt
    obtain ⟨b, hb, hbrun, hbanswer⟩ := refreshSystem_attemptsKept hrun_k hseen owner _ hgranted
    have hanswer : b.answer = some true := (hbanswer (by simp)).1
    have hsame := (move_step r at_k.mem).1.single owner owner' b a' hb ha'
      (by rw [hbrun, hrun', ← hrun]) (by simp [hanswer]) (by simp [hnone])
    rw [hsame, ha'] at hb
    rw [Option.some.inj hb, hanswer] at hnone
    cases hnone
  have h₁ := hlater at_n hm at_k hm'
  have h₂ := hlater at_k hm' at_n hm
  omega

/-! ## Calls and releases touch their own lock -/

/-- The lock is held under a request of another run. -/
def HeldByOther (s : RefreshState τ ε) (run : ℕ) : Prop :=
  ∃ lock a, s.lock = some lock ∧ s.attempts lock.owner = some a ∧ a.run ≠ run

theorem executeRenew_other {s s' : RefreshState τ ε} (orderly : s.Orderly) {call : ℕ} {clock : ℤ}
    {c : RenewCall} (hcall : s.calls call = some c) (held : HeldByOther s c.run)
    (hstep : s.step config (.executeRenew call clock) = some s') : s'.lock = s.lock := by
  obtain ⟨lock, a, hlock, ha, hother⟩ := held
  obtain ⟨r, l, hr, hl, hown, _⟩ := orderly.calls call c hcall
  obtain ⟨b, hb, hbrun, _⟩ := (orderly.runs c.run r hr).leading l hl
  have hne : lock.owner ≠ c.owner := by
    intro hsame
    rw [hsame, ← hown, hb] at ha
    rw [← Option.some.inj ha] at hother
    exact hother hbrun
  obtain ⟨run, owner, assertion, sent, renewed, outcome⟩ := c
  rw [step, executeRenew.eq_def, hcall] at hstep
  cases sent with
  | false => cases hstep
  | true =>
      cases renewed with
      | some renewed => cases hstep
      | none =>
          simp only [hlock, renewRefreshLock, if_neg hne] at hstep
          cases hstep
          exact hlock.symm

theorem executeRelease_other {s s' : RefreshState τ ε} {owner : String} {a : LockAttempt}
    (ha : s.attempts owner = some a) (held : HeldByOther s a.run)
    (hstep : s.step config (.executeRelease owner) = some s') : s'.lock = s.lock := by
  obtain ⟨lock, b, hlock, hb, hother⟩ := held
  have hne : lock.owner ≠ owner := by
    intro hsame
    rw [hsame, ha] at hb
    rw [← Option.some.inj hb] at hother
    exact hother rfl
  obtain ⟨run, answer, commitsBefore, releaseRequested, released⟩ := a
  rw [step, executeRelease.eq_def, ha] at hstep
  cases releaseRequested with
  | false => cases hstep
  | true =>
      cases released with
      | true => cases hstep
      | false =>
          rw [hlock, releaseRefreshLock, if_neg hne] at hstep
          cases hstep
          exact hlock.symm

/-! ## An assertion that fails is the last -/

/-- An assertion of a run has failed. -/
def AssertionFailed (s : RefreshState τ ε) (run : ℕ) : Prop :=
  ∃ call c, s.calls call = some c ∧ c.run = run ∧ c.assertion = true ∧ c.outcome ≠ none ∧
    c.outcome ≠ some .renewed

/-- The outcome of a call stays. -/
def OutcomesKept (s s' : RefreshState τ ε) : Prop :=
  ∀ call c, s.calls call = some c → ∃ c', s'.calls call = some c' ∧
    (c.outcome ≠ none → c'.outcome = c.outcome)

theorem OutcomesKept.of_set {s s' : RefreshState τ ε} {call : ℕ} {c' : RenewCall}
    (hcalls : s'.calls = s.calls.set call c')
    (hc : ∀ c, s.calls call = some c → c.outcome ≠ none → c'.outcome = c.outcome) :
    OutcomesKept s s' := by
  intro other c hother
  rw [hcalls]
  by_cases hsame : other = call
  · rw [hsame] at hother ⊢
    exact ⟨c', KeyedRecord.set_same _ _ _, hc c hother⟩
  · exact ⟨c, (KeyedRecord.set_other _ _ hsame).trans hother, fun _ ↦ rfl⟩

theorem outcomesKept_of_stepped {s s' : RefreshState τ ε} {e : RefreshEvent τ ε}
    (hstep : Stepped config s e s') : OutcomesKept s s' := by
  cases hstep with
  | asserted _ _ hnone =>
      refine .of_set rfl fun c hc ↦ ?_
      rw [hnone] at hc
      cases hc
  | timed _ _ hnone =>
      refine .of_set rfl fun c hc ↦ ?_
      rw [hnone] at hc
      cases hc
  | renewed hcall _ _ _ =>
      refine .of_set rfl fun c hc _ ↦ ?_
      rw [hcall] at hc
      rw [← Option.some.inj hc]
  | notRenewed hcall _ _ =>
      refine .of_set rfl fun c hc _ ↦ ?_
      rw [hcall] at hc
      rw [← Option.some.inj hc]
  | settled hcall hopen _ =>
      refine .of_set rfl fun c hc hended ↦ ?_
      rw [hcall] at hc
      rw [← Option.some.inj hc] at hended
      exact absurd hopen hended
  | _ => exact fun call c hc ↦ ⟨c, hc, fun _ ↦ rfl⟩

theorem refreshSystem_outcomesKept (r : Run (refreshSystem τ ε config) h s) {p : RefreshState τ ε}
    (seen : Seen h s p) : OutcomesKept p s := by
  apply r.seen_related (R := OutcomesKept) _ _ _ seen
  · intro _ call c hc
    exact ⟨c, hc, fun _ ↦ rfl⟩
  · intro _ _ _ hpast hstep call c hc
    obtain ⟨b, hb, hsame⟩ := hpast call c hc
    obtain ⟨d, hd, hsame'⟩ := hstep call b hb
    refine ⟨d, hd, ?_⟩
    intro hended
    exact (hsame' (by rw [hsame hended]; exact hended)).trans (hsame hended)
  · rintro _ _ _ _ _ ⟨_, hstep⟩
    exact outcomesKept_of_stepped (step_stepped hstep)

/-- An assertion made after one that failed is not sent. -/
theorem assertLeadership_lost {s s' : RefreshState τ ε} (orderly : s.Orderly) {run call : ℕ}
    (failed : AssertionFailed s run) (hstep : s.step config (.assertLeadership run call) = some s') :
    ∃ c, s'.calls call = some c ∧ c.run = run ∧ c.outcome = some .leadershipLost := by
  obtain ⟨call', c, hcall, rfl, _, hended, hfailed⟩ := failed
  obtain ⟨r, l, hr, hl, _, hlost⟩ := orderly.calls call' c hcall
  have hlost := hlost hended hfailed
  obtain ⟨deadlineMs, phase, leadership, firstLook⟩ := r
  obtain ⟨owner, leadershipLost, renewalInFlight, given⟩ := l
  simp only at hl hlost
  rw [hl] at hr
  rw [hlost] at hr
  rw [step, assertLeadership.eq_def, hr] at hstep
  cases hfree : s.calls call with
  | some other =>
      rw [hfree] at hstep
      cases given <;> cases hstep
  | none =>
      rw [hfree] at hstep
      cases given with
      | false => cases hstep
      | true =>
          cases hstep
          exact ⟨_, KeyedRecord.set_same _ _ _, rfl, rfl⟩

/-- An assertion that succeeded was carried out while the lock was its run's. -/
theorem asserted_of_succeeded (r : Run (refreshSystem τ ε config) h s) {call : ℕ} {c : RenewCall}
    (hcall : s.calls call = some c) (hassertion : c.assertion = true)
    (succeeded : c.outcome = some .renewed) : ∃ m ∈ h, AssertsLock m c.run call := by
  have hrenewed := (refreshSystem_orderly r).outcomes call c hcall succeeded
  have hinit : ∀ s, (refreshSystem τ ε config).init s →
      ¬ ∃ d, s.calls call = some d ∧ d.renewed = some true ∧ d.run = c.run ∧ d.assertion = true := by
    rintro _ rfl ⟨d, hd, _⟩
    cases hd
  obtain ⟨later, m, earlier, rfl, hpre, d, hd, hrenewed, hrun, hassertion⟩ :=
    r.made_true hinit ⟨c, hcall, hrenewed, rfl, hassertion⟩
  refine ⟨m, by simp, ?_⟩
  obtain ⟨_, _, hstep⟩ := move_step r (m := m) (by simp)
  have hstepped := step_stepped hstep
  obtain ⟨pre, event, post⟩ := m
  simp only at hpre hd hstepped ⊢
  have hset : ∀ {call' : ℕ} {new : RenewCall}, post.calls = pre.calls.set call' new →
      call = call' ∧ new = d := by
    intro call' new hcalls
    rw [hcalls] at hd
    by_cases hsame : call = call'
    · rw [hsame, KeyedRecord.set_same] at hd
      exact ⟨hsame, Option.some.inj hd⟩
    · rw [KeyedRecord.set_other _ _ hsame] at hd
      exact absurd ⟨d, hd, hrenewed, hrun, hassertion⟩ hpre
  cases hstepped with
  | @asserted _ _ _ l _ _ _ =>
      obtain ⟨_, rfl⟩ := hset rfl
      cases hlost : l.leadershipLost <;> rw [hlost] at hrenewed <;> cases hrenewed
  | timed _ _ _ =>
      obtain ⟨_, rfl⟩ := hset rfl
      cases hrenewed
  | @renewed call' clock c' lock hcall' hopen hlock hown =>
      obtain ⟨rfl, rfl⟩ := hset rfl
      refine ⟨clock, c', rfl, hcall', hrun, hassertion, ?_⟩
      rw [RefreshState.holder, hlock, ← hown]
      rfl
  | notRenewed _ _ _ =>
      obtain ⟨_, rfl⟩ := hset rfl
      cases hrenewed
  | settled hcall' _ _ =>
      obtain ⟨rfl, rfl⟩ := hset rfl
      exact absurd ⟨_, hcall', hrenewed, hrun, hassertion⟩ hpre
  | _ => exact absurd ⟨d, hd, hrenewed, hrun, hassertion⟩ hpre

/-! ## Leases that last -/

/-- No lease runs out before the run that was given it has asked for its release, or has ended. -/
def LeasesLast (h : List (Move (RefreshState τ ε) (RefreshEvent τ ε))) : Prop :=
  ∀ m ∈ h, m.event = .expire → ∀ lock a r, m.pre.lock = some lock →
    m.pre.attempts lock.owner = some a → m.pre.runs a.run = some r → r.phase.Over

/-- A look under the lock reports a value that was committed after the run's first look and before it
took the lock, if it is current. -/
def CommitsReported (h : List (Move (RefreshState τ ε) (RefreshEvent τ ε))) : Prop :=
  ∀ m ∈ h, ∀ run r owner a c f committed, m.event = .lookAgain run committed →
    m.pre.runs run = some r → r.phase = .holding owner → m.pre.attempts owner = some a →
      m.pre.current = some c → r.firstLook = some f → f ≤ c.position →
        c.position < a.commitsBefore → committed ≠ .ok none

/-- A run is refreshing. -/
def Refreshing (s : RefreshState τ ε) (run : ℕ) : Prop :=
  ∃ r owner, s.runs run = some r ∧ r.phase = .refreshing owner

/-- While leases last, a run that was given the lock and is not over has it, and nothing was committed
by others since. -/
structure Exclusive (s : RefreshState τ ε) : Prop where
  held : ∀ run r owner a, s.runs run = some r → r.phase.contender = some owner →
    s.attempts owner = some a → a.answer = some true → s.holder = some owner
  quiet : ∀ run r owner a c, s.runs run = some r → r.phase.contender = some owner →
    s.attempts owner = some a → a.answer = some true → s.current = some c →
      c.run = run ∨ c.position < a.commitsBefore
  positions : ∀ c, s.current = some c → c.position < s.commits

/-- Where a run that competes after a step comes from. -/
theorem contender_from {s s' : RefreshState τ ε} {e : RefreshEvent τ ε}
    (hstep : Stepped config s e s') {run : ℕ} {r' : RefreshRun τ ε} {owner : String}
    (hr' : s'.runs run = some r') (hcontender : r'.phase.contender = some owner) :
    (∃ r, s.runs run = some r ∧ r.phase.contender = some owner) ∨
      s'.attempts owner = some ⟨run, none, 0, false, false⟩ := by
  have hset : ∀ {run' : ℕ} {new : RefreshRun τ ε}, s'.runs = s.runs.set run' new →
      (run = run' → new = r' → (∃ r, s.runs run = some r ∧ r.phase.contender = some owner) ∨
        s'.attempts owner = some ⟨run, none, 0, false, false⟩) →
      (∃ r, s.runs run = some r ∧ r.phase.contender = some owner) ∨
        s'.attempts owner = some ⟨run, none, 0, false, false⟩ := by
    intro run' new hruns hnew
    rw [hruns] at hr'
    by_cases hsame : run = run'
    · rw [hsame, KeyedRecord.set_same] at hr'
      exact hnew hsame (Option.some.inj hr')
    · rw [KeyedRecord.set_other _ _ hsame] at hr'
      exact Or.inl ⟨r', hr', hcontender⟩
  cases hstep with
  | started _ _ hidle =>
      refine hset rfl fun _ hnew ↦ ?_
      rw [hnew, hcontender] at hidle
      cases hidle
  | ended _ _ hover =>
      refine hset rfl fun _ hnew ↦ ?_
      have hidle := (contender_of_over hover).1
      rw [hnew, hcontender] at hidle
      cases hidle
  | sent _ _ =>
      refine hset rfl fun hrun hnew ↦ ?_
      rw [← hnew] at hcontender
      rw [hrun, ← Option.some.inj hcontender]
      exact Or.inr (KeyedRecord.set_same _ _ _)
  | acquired hr hphase _ _ =>
      refine hset rfl fun hrun hnew ↦ ?_
      rw [← hnew] at hcontender
      exact Or.inl ⟨_, by rw [hrun, hr], by rw [hphase]; exact hcontender⟩
  | contended _ _ _ _ =>
      refine hset rfl fun _ hnew ↦ ?_
      rw [← hnew] at hcontender
      cases hcontender
  | concluded _ _ =>
      refine hset rfl fun _ hnew ↦ ?_
      rw [← hnew] at hcontender
      cases hcontender
  | refreshStarted hr hphase =>
      refine hset rfl fun hrun hnew ↦ ?_
      rw [← hnew] at hcontender
      exact Or.inl ⟨_, by rw [hrun, hr], by rw [hphase]; exact hcontender⟩
  | @timed _ _ r _ hr _ _ =>
      refine hset rfl fun hrun hnew ↦ ?_
      rw [← hnew] at hcontender
      exact Or.inl ⟨r, by rw [hrun, hr], hcontender⟩
  | @settled _ call c outcome =>
      obtain ⟨change, _, hruns⟩ := s.settleCall_runs call c outcome run
      rw [hruns] at hr'
      obtain ⟨r, hr, rfl⟩ := Option.map_eq_some_iff.1 hr'
      exact Or.inl ⟨r, hr, hcontender⟩
  | _ => exact Or.inl ⟨r', hr', hcontender⟩

/-- A granted request was granted before, or is granted now, over a free lock. -/
theorem granted_from {s s' : RefreshState τ ε} {e : RefreshEvent τ ε}
    (hstep : Stepped config s e s') {owner : String} {a' : LockAttempt}
    (ha' : s'.attempts owner = some a') (granted : a'.answer = some true) :
    (∃ a, s.attempts owner = some a ∧ a.run = a'.run ∧ a.answer = some true ∧
        a.commitsBefore = a'.commitsBefore) ∨
      (s.lock = none ∧ s'.holder = some owner ∧ a'.commitsBefore = s.commits ∧
        s'.current = s.current) := by
  have hset : ∀ {o : String} {new : LockAttempt}, s'.attempts = s.attempts.set o new →
      (owner = o → new = a' → (∃ a, s.attempts owner = some a ∧ a.run = a'.run ∧
        a.answer = some true ∧ a.commitsBefore = a'.commitsBefore) ∨
        (s.lock = none ∧ s'.holder = some owner ∧ a'.commitsBefore = s.commits ∧
          s'.current = s.current)) →
      (∃ a, s.attempts owner = some a ∧ a.run = a'.run ∧ a.answer = some true ∧
        a.commitsBefore = a'.commitsBefore) ∨
        (s.lock = none ∧ s'.holder = some owner ∧ a'.commitsBefore = s.commits ∧
          s'.current = s.current) := by
    intro o new hattempts hnew
    rw [hattempts] at ha'
    by_cases hsame : owner = o
    · rw [hsame, KeyedRecord.set_same] at ha'
      exact hnew hsame (Option.some.inj ha')
    · rw [KeyedRecord.set_other _ _ hsame] at ha'
      exact Or.inl ⟨a', ha', rfl, granted, rfl⟩
  cases hstep with
  | sent _ _ =>
      refine hset rfl fun _ hnew ↦ ?_
      rw [← hnew] at granted
      cases granted
  | locked _ _ hfree =>
      refine hset rfl fun hsame hnew ↦ Or.inr ⟨hfree, ?_, ?_, rfl⟩
      · rw [hsame]
        rfl
      · rw [← hnew]
  | refused _ _ _ =>
      refine hset rfl fun _ hnew ↦ ?_
      rw [← hnew] at granted
      cases granted
  | @released _ a hattempt _ =>
      refine hset rfl fun hsame hnew ↦ Or.inl ⟨a, by rw [hsame, hattempt], ?_, ?_, ?_⟩
      · rw [← hnew]
      · rw [← hnew] at granted
        exact granted
      · rw [← hnew]
  | @concluded _ run o r result _ _ =>
      rw [conclude_attempts] at ha'
      obtain ⟨a, ha, hsame⟩ := Option.map_eq_some_iff.1 ha'
      refine Or.inl ⟨a, ha, ?_, ?_, ?_⟩
      · rw [← hsame]
        split <;> rfl
      · rw [← hsame] at granted
        split at granted <;> exact granted
      · rw [← hsame]
        split <;> rfl
  | _ => exact Or.inl ⟨a', ha', rfl, granted, rfl⟩

/-- A lock stays with a run that competes under it, while leases last. -/
theorem holder_kept {s s' : RefreshState τ ε} {e : RefreshEvent τ ε}
    (hstep : Stepped config s e s') (orderly : s.Orderly)
    (lasts : e = .expire → ∀ lock a r, s.lock = some lock → s.attempts lock.owner = some a →
      s.runs a.run = some r → r.phase.Over) {run : ℕ} {r : RefreshRun τ ε} {owner : String}
    (hr : s.runs run = some r) (hcontender : r.phase.contender = some owner)
    (held : s.holder = some owner) : s'.holder = some owner := by
  obtain ⟨a, ha, hrun⟩ := (orderly.runs run r hr).contender owner hcontender
  have hactive : ¬ r.phase.Over := by
    intro hover
    rw [(contender_of_over hover).1] at hcontender
    cases hcontender
  obtain ⟨lock, hlock, hown⟩ := Option.map_eq_some_iff.1 held
  cases hstep with
  | locked _ _ hfree =>
      rw [hlock] at hfree
      cases hfree
  | renewed _ _ hlock' _ =>
      rw [hlock] at hlock'
      rw [← Option.some.inj hlock', RefreshState.holder]
      exact congrArg some hown
  | @released o b hattempt hrequested =>
      have hne : lock.owner ≠ o := by
        intro hsame
        rw [← hsame, hown, ha] at hattempt
        obtain ⟨r', hr', hover⟩ := orderly.requested owner a ha
          (by rw [Option.some.inj hattempt]; exact hrequested)
        rw [hrun, hr] at hr'
        rw [← Option.some.inj hr'] at hover
        exact hactive hover
      rw [RefreshState.holder, hlock, releaseRefreshLock, if_neg hne]
      exact congrArg some hown
  | expired =>
      exact absurd (lasts rfl lock a r hlock (by rw [hown, ha]) (by rw [hrun, hr])) hactive
  | _ => exact held

theorem Exclusive.step {s s' : RefreshState τ ε} {e : RefreshEvent τ ε} (exclusive : Exclusive s)
    (hstep : Stepped config s e s') (orderly : s.Orderly)
    (lasts : e = .expire → ∀ lock a r, s.lock = some lock → s.attempts lock.owner = some a →
      s.runs a.run = some r → r.phase.Over) : Exclusive s' := by
  refine ⟨?_, ?_, ?_⟩
  · intro run r' owner a' hr' hcontender' ha' granted
    rcases granted_from hstep ha' granted with ⟨a, ha, _, hanswer, _⟩ | ⟨_, hholder, _, _⟩
    · rcases contender_from hstep hr' hcontender' with ⟨r, hr, hcontender⟩ | hnew
      · exact holder_kept hstep orderly lasts hr hcontender
          (exclusive.held run r owner a hr hcontender ha hanswer)
      · rw [ha'] at hnew
        rw [Option.some.inj hnew] at granted
        cases granted
    · exact hholder
  · intro run r' owner a' c hr' hcontender' ha' granted hcurrent
    rcases granted_from hstep ha' granted with ⟨a, ha, _, hanswer, hbefore⟩ |
      ⟨_, _, hbefore, hsame⟩
    · rcases contender_from hstep hr' hcontender' with ⟨r, hr, hcontender⟩ | hnew
      · have hquiet := exclusive.quiet run r owner a c hr hcontender ha hanswer
        rw [hbefore] at hquiet
        cases hstep with
        | @committed run₂ _ owner₂ r₂ hr₂ hphase₂ =>
            left
            rw [← Option.some.inj hcurrent]
            obtain ⟨a₂, ha₂, hanswer₂⟩ := (orderly.runs run₂ r₂ hr₂).answered owner₂ (Or.inr hphase₂)
            have hcontender₂ : r₂.phase.contender = some owner₂ := by rw [hphase₂]; rfl
            have hheld₂ := exclusive.held run₂ r₂ owner₂ a₂ hr₂ hcontender₂ ha₂ hanswer₂
            have hheld := exclusive.held run r owner a hr hcontender ha hanswer
            rw [hheld] at hheld₂
            obtain ⟨b, hb, hbrun⟩ := (orderly.runs run r hr).contender owner hcontender
            obtain ⟨b₂, hb₂, hbrun₂⟩ := (orderly.runs run₂ r₂ hr₂).contender owner₂ hcontender₂
            rw [← Option.some.inj hheld₂, hb] at hb₂
            rw [← hbrun, ← hbrun₂, Option.some.inj hb₂]
        | superseded => cases hcurrent
        | _ => exact hquiet hcurrent
      · rw [ha'] at hnew
        rw [Option.some.inj hnew] at granted
        cases granted
    · right
      rw [hbefore]
      exact exclusive.positions c (hsame ▸ hcurrent)
  · intro c hcurrent
    cases hstep with
    | committed _ _ =>
        rw [← Option.some.inj hcurrent]
        exact Nat.lt_succ_self _
    | superseded => cases hcurrent
    | _ => exact exclusive.positions c hcurrent

theorem refreshSystem_exclusive (r : Run (refreshSystem τ ε config) h s) (lasts : LeasesLast h) :
    Exclusive s := by
  induction r with
  | start hinit =>
      rw [hinit]
      constructor <;> simp [KeyedRecord.empty]
  | @next h s s' e r hstep ih =>
      have hbefore : LeasesLast h := fun m hm ↦ lasts m (List.mem_cons_of_mem _ hm)
      exact (ih hbefore).step (step_stepped hstep.2) (refreshSystem_orderly r)
        (lasts ⟨s, e, s'⟩ List.mem_cons_self)

/-- A run starts to refresh when its look under the lock finds nothing. -/
theorem refreshing_from {s s' : RefreshState τ ε} {e : RefreshEvent τ ε}
    (hstep : Stepped config s e s') {run : ℕ} (before : ¬ Refreshing s run)
    (after : Refreshing s' run) : ∃ r owner, s.runs run = some r ∧ r.phase = .holding owner ∧
      e = .lookAgain run (.ok none) := by
  obtain ⟨r', owner, hr', hphase'⟩ := after
  have hset : ∀ {run' : ℕ} {new : RefreshRun τ ε}, s'.runs = s.runs.set run' new →
      run = run' ∧ new.phase = .refreshing owner := by
    intro run' new hruns
    rw [hruns] at hr'
    by_cases hsame : run = run'
    · rw [hsame, KeyedRecord.set_same] at hr'
      exact ⟨hsame, by rw [Option.some.inj hr', hphase']⟩
    · rw [KeyedRecord.set_other _ _ hsame] at hr'
      exact absurd ⟨r', owner, hr', hphase'⟩ before
  cases hstep with
  | started _ _ hidle =>
      rw [(hset rfl).2] at hidle
      cases hidle
  | ended _ _ hover =>
      rw [(hset rfl).2] at hover
      cases hover
  | sent _ _ => cases (hset rfl).2
  | acquired _ _ _ _ => cases (hset rfl).2
  | contended _ _ _ _ => cases (hset rfl).2
  | concluded _ _ => cases (hset rfl).2
  | refreshStarted hr hphase =>
      obtain ⟨hrun, _⟩ := hset rfl
      rw [hrun]
      exact ⟨_, _, hr, hphase, rfl⟩
  | @timed run' _ r _ hr _ _ =>
      obtain ⟨hrun, hphase⟩ := hset rfl
      exact absurd ⟨r, owner, by rw [hrun, hr], hphase⟩ before
  | @settled _ call c outcome =>
      obtain ⟨change, _, hruns⟩ := s.settleCall_runs call c outcome run
      rw [hruns] at hr'
      obtain ⟨r, hr, rfl⟩ := Option.map_eq_some_iff.1 hr'
      exact absurd ⟨r, owner, hr, hphase'⟩ before
  | _ => exact absurd ⟨r', owner, hr', hphase'⟩ before

/-- A run that competes for the lock has looked. -/
theorem refreshSystem_looked (r : Run (refreshSystem τ ε config) h s) : ∀ run p,
    s.runs run = some p → p.phase.contender ≠ none → p.firstLook ≠ none := by
  apply r.invariant (I := fun s ↦ ∀ run p, s.runs run = some p → p.phase.contender ≠ none →
    p.firstLook ≠ none)
  · rintro _ rfl run p hp
    cases hp
  · rintro _ s e s' hrun ih ⟨_, hstep⟩ run p hp hcontends
    have hset : ∀ {run' : ℕ} {new : RefreshRun τ ε}, s'.runs = s.runs.set run' new →
        (new.phase.contender ≠ none → new.firstLook ≠ none) → p.firstLook ≠ none := by
      intro run' new hruns hnew
      rw [hruns] at hp
      by_cases hsame : run = run'
      · rw [hsame, KeyedRecord.set_same] at hp
        rw [← Option.some.inj hp] at hcontends ⊢
        exact hnew hcontends
      · rw [KeyedRecord.set_other _ _ hsame] at hp
        exact ih run p hp hcontends
    cases step_stepped hstep with
    | started _ _ hidle => exact hset rfl fun hne ↦ absurd hidle hne
    | ended _ _ hover => exact hset rfl fun hne ↦ absurd (contender_of_over hover).1 hne
    | sent _ _ => exact hset rfl fun _ ↦ by simp
    | acquired hr hphase _ _ =>
        have hlooked := ih _ _ hr (by simp [hphase, RefreshPhase.contender])
        exact hset rfl fun _ ↦ hlooked
    | contended _ _ _ _ => exact hset rfl fun hne ↦ absurd rfl hne
    | concluded _ _ => exact hset rfl fun hne ↦ absurd rfl hne
    | refreshStarted hr hphase =>
        have hlooked := ih _ _ hr (by simp [hphase, RefreshPhase.contender])
        exact hset rfl fun _ ↦ hlooked
    | @timed run' _ old _ hr _ _ =>
        have hlooked := ih run' old hr
        exact hset rfl fun hne ↦ hlooked hne
    | @settled _ call c outcome =>
        obtain ⟨change, _, hruns⟩ := s.settleCall_runs call c outcome run
        rw [hruns] at hp
        obtain ⟨old, hold, rfl⟩ := Option.map_eq_some_iff.1 hp
        exact ih run old hold hcontends
    | _ => exact ih run p hp hcontends

/-! ## The guarantee -/

/-- In every interleaving of runs on one connection: spans of leadership of different runs are
disjoint, each run having one; an assertion that succeeds was carried out on the run's own lock; a
renewal or a release leaves a lock that another run holds; an assertion made after a failed one of the
same run fails; and while leases last and looks under the lock report what was committed before it, no
refresh starts while a value that another run committed since this run first looked is current. -/
theorem refresh_leadership_exclusive (r : Run (refreshSystem τ ε config) h s) :
    (∀ run run' start stop start' stop', LeadershipSpan h run start stop →
      LeadershipSpan h run' start' stop' → run ≠ run' → stop < start' ∨ stop' < start) ∧
    (∀ run n k m m', MoveAt h n m → AcquiresLock m run → MoveAt h k m' → AcquiresLock m' run →
      n = k) ∧
    (∀ call c, s.calls call = some c → c.assertion = true → c.outcome = some .renewed →
      ∃ m ∈ h, AssertsLock m c.run call) ∧
    (∀ m ∈ h, ∀ call clock c, m.event = .executeRenew call clock → m.pre.calls call = some c →
      HeldByOther m.pre c.run → m.post.lock = m.pre.lock) ∧
    (∀ m ∈ h, ∀ owner a, m.event = .executeRelease owner → m.pre.attempts owner = some a →
      HeldByOther m.pre a.run → m.post.lock = m.pre.lock) ∧
    (∀ m ∈ h, ∀ run call, m.event = .assertLeadership run call → AssertionFailed m.pre run →
      ∃ c, s.calls call = some c ∧ c.outcome = some .leadershipLost) ∧
    (LeasesLast h → CommitsReported h → ∀ m ∈ h, ∀ run, ¬ Refreshing m.pre run →
      Refreshing m.post run → ∃ p f, m.pre.runs run = some p ∧ p.firstLook = some f ∧
        ∀ c, m.pre.current = some c → c.run ≠ run → c.position < f) := by
  refine ⟨?_, ?_, ?_, ?_, ?_, ?_, ?_⟩
  · intro run run' start stop start' stop' span span' other
    exact span.disjoint r span' other
  · intro run n k m m' at_n hm at_k hm'
    exact hm.once r at_n at_k hm'
  · intro call c hcall hassertion succeeded
    exact asserted_of_succeeded r hcall hassertion succeeded
  · intro m hm call clock c hevent hcall held
    obtain ⟨orderly, _, hstep⟩ := move_step r hm
    rw [hevent] at hstep
    exact executeRenew_other orderly hcall held hstep
  · intro m hm owner a hevent ha held
    obtain ⟨_, _, hstep⟩ := move_step r hm
    rw [hevent] at hstep
    exact executeRelease_other ha held hstep
  · intro m hm run call hevent failed
    obtain ⟨orderly, _, hstep⟩ := move_step r hm
    rw [hevent] at hstep
    obtain ⟨c, hc, _, houtcome⟩ := assertLeadership_lost orderly failed hstep
    obtain ⟨c', hc', hsame⟩ := refreshSystem_outcomesKept r (r.seen_post hm) call c hc
    exact ⟨c', hc', (hsame (by simp [houtcome])).trans houtcome⟩
  · intro lasts reported m hm run before after
    obtain ⟨later, earlier, rfl⟩ := List.append_of_mem hm
    obtain ⟨hrun, hstep, _⟩ := r.of_append
    obtain ⟨p, owner, hp, hphase, hevent⟩ :=
      refreshing_from (step_stepped hstep.2) before after
    have hcontender : p.phase.contender = some owner := by rw [hphase]; rfl
    obtain ⟨a, ha, hanswer⟩ :=
      ((refreshSystem_orderly hrun).runs run p hp).answered owner (Or.inl hphase)
    obtain ⟨f, hf⟩ := Option.ne_none_iff_exists'.1
      (refreshSystem_looked hrun run p hp (by simp [hcontender]))
    refine ⟨p, f, hp, hf, ?_⟩
    intro c hcurrent hother
    have hlasts : LeasesLast earlier := fun n hn ↦ lasts n (by simp [hn])
    rcases (refreshSystem_exclusive hrun hlasts).quiet run p owner a c hp hcontender ha hanswer
        hcurrent with hown | hbefore
    · exact absurd hown hother
    · by_contra hnot
      exact reported m hm run p owner a c f (.ok none) hevent hp hphase ha hcurrent hf (by omega)
        hbefore rfl

/-- A step whose owner is fresh. -/
def RefreshState.freshStep (config : RefreshCoordinationConfig) (s : RefreshState τ ε)
    (e : RefreshEvent τ ε) : Option (RefreshState τ ε) :=
  match e with
  | .look run nowMs latest owner =>
      if (s.attempts owner).isSome then none else s.step config (.look run nowMs latest owner)
  | e => s.step config e

theorem run_of_freshSteps {events : List (RefreshEvent τ ε)} {s' : RefreshState τ ε}
    (r : Run (refreshSystem τ ε config) h s)
    (hsteps : events.foldlM (freshStep config) s = some s') :
    ∃ h', Run (refreshSystem τ ε config) h' s' := by
  induction events generalizing h s with
  | nil =>
      cases hsteps
      exact ⟨h, r⟩
  | cons e events ih =>
      rw [List.foldlM_cons] at hsteps
      obtain ⟨middle, hmiddle, hsteps⟩ := Option.bind_eq_some_iff.1 hsteps
      refine ih (h := ⟨s, e, middle⟩ :: h) (r.next ?_) hsteps
      rw [freshStep.eq_def] at hmiddle
      split at hmiddle
      · split at hmiddle
        · cases hmiddle
        · next hfresh => exact ⟨Option.not_isSome_iff_eq_none.1 hfresh, hmiddle⟩
      · next hother =>
        refine ⟨?_, hmiddle⟩
        cases e with
        | look run nowMs latest owner => exact absurd rfl (hother run nowMs latest owner)
        | _ => trivial

/-- The default lease and pause. -/
def defaultRefreshConfig : RefreshCoordinationConfig := ⟨20000, 50, by decide⟩

/-- A run acquires the lock and asserts leadership, and another one is refused. -/
def sampleRefreshEvents : List (RefreshEvent String Unit) :=
  [.start 0 "cccccccccccccccccccccccccccccccccccccccccccccccccccccccccccccccc" 5000,
    .start 1 "cccccccccccccccccccccccccccccccccccccccccccccccccccccccccccccccc" 5000,
    .look 0 1000 (.ok none) "refresh-owner-00000001",
    .look 1 1000 (.ok none) "refresh-owner-00000002",
    .executeSet "refresh-owner-00000001" 1000, .executeSet "refresh-owner-00000002" 1001,
    .acquireReply 0, .acquireReply 1, .lookAgain 0 (.ok none), .assertLeadership 0 7,
    .executeRenew 7 2000, .renewReply 7]

theorem refresh_leadership_exclusive_asserted : ∃ h s,
    Run (refreshSystem String Unit defaultRefreshConfig) h s ∧ ∃ m ∈ h, AssertsLock m 0 7 := by
  have hstart : Run (refreshSystem String Unit defaultRefreshConfig) []
      ⟨none, KeyedRecord.empty, KeyedRecord.empty, KeyedRecord.empty, 0, none⟩ := .start rfl
  have hcall : (sampleRefreshEvents.foldlM (freshStep defaultRefreshConfig)
      ⟨none, KeyedRecord.empty, KeyedRecord.empty, KeyedRecord.empty, 0, none⟩).map (·.calls 7) =
      some (some ⟨0, "refresh-owner-00000001", true, true, some true, some .renewed⟩) := by
    decide +kernel
  obtain ⟨s, hsteps, hcalls⟩ := Option.map_eq_some_iff.1 hcall
  obtain ⟨h, hrun⟩ := run_of_freshSteps hstart hsteps
  exact ⟨h, s, hrun, (refresh_leadership_exclusive hrun).2.2.1 7 _ hcalls rfl rfl⟩

end ReputationKey.Shared
