import ReputationKey.Shared.RefreshSteps

/-!
# The order of a refresh run

Each run has at most one request for the lock that Redis did not refuse, and it has leadership under
that request's owner; a release is asked for after the refresh; a renewal that fails loses leadership
for good.
-/

namespace ReputationKey.Shared

open Base

variable {τ ε : Type} {config : RefreshCoordinationConfig}

namespace RefreshState

variable {s s' : RefreshState τ ε} {e : RefreshEvent τ ε}

/-! ## The invariant -/

/-- What holds of a run. -/
structure RunOrderly (s : RefreshState τ ε) (run : ℕ) (r : RefreshRun τ ε) : Prop where
  unled : r.phase = .looking ∨ (∃ owner, r.phase = .acquiring owner) → r.leadership = none
  contender : ∀ owner, r.phase.contender = some owner →
    ∃ a, s.attempts owner = some a ∧ a.run = run
  answered : ∀ owner, r.phase = .holding owner ∨ r.phase = .refreshing owner →
    ∃ a, s.attempts owner = some a ∧ a.answer = some true
  leading : ∀ l, r.leadership = some l →
    ∃ a, s.attempts l.owner = some a ∧ a.run = run ∧ a.answer = some true

/-- What holds of a state. -/
structure Orderly (s : RefreshState τ ε) : Prop where
  runs : ∀ run r, s.runs run = some r → RunOrderly s run r
  pending : ∀ owner a, s.attempts owner = some a → a.answer ≠ some false →
    ∃ r, s.runs a.run = some r ∧ (r.phase.contender = some owner ∨ r.phase.Over)
  single : ∀ owner owner' a a', s.attempts owner = some a → s.attempts owner' = some a' →
    a.run = a'.run → a.answer ≠ some false → a'.answer ≠ some false → owner = owner'
  requested : ∀ owner a, s.attempts owner = some a → a.releaseRequested = true →
    ∃ r, s.runs a.run = some r ∧ r.phase.Over
  calls : ∀ call c, s.calls call = some c → ∃ r l, s.runs c.run = some r ∧
    r.leadership = some l ∧ l.owner = c.owner ∧
      (c.outcome ≠ none → c.outcome ≠ some .renewed → l.leadershipLost = true)
  outcomes : ∀ call c, s.calls call = some c → c.outcome = some .renewed → c.renewed = some true

/-- A run keeps its order when requests are kept. -/
theorem RunOrderly.of_attempts {run : ℕ} {r : RefreshRun τ ε} (h : RunOrderly s run r)
    (kept : AttemptsKept s s') : RunOrderly s' run r := by
  refine ⟨h.unled, ?_, ?_, ?_⟩
  · intro owner howner
    obtain ⟨a, ha, hrun⟩ := h.contender owner howner
    obtain ⟨a', ha', hrun', _⟩ := kept owner a ha
    exact ⟨a', ha', hrun'.trans hrun⟩
  · intro owner howner
    obtain ⟨a, ha, htrue⟩ := h.answered owner howner
    obtain ⟨a', ha', _, hsame⟩ := kept owner a ha
    exact ⟨a', ha', (hsame (by simp [htrue])).1.trans htrue⟩
  · intro l hl
    obtain ⟨a, ha, hrun, htrue⟩ := h.leading l hl
    obtain ⟨a', ha', hrun', hsame⟩ := kept l.owner a ha
    exact ⟨a', ha', hrun'.trans hrun, (hsame (by simp [htrue])).1.trans htrue⟩

/-- A run that is over, or that only looks, asks for nothing. -/
theorem RunOrderly.of_idle {run : ℕ} {r : RefreshRun τ ε} (hidle : r.phase.contender = none)
    (hunled : r.phase = .looking → r.leadership = none)
    (hleading : ∀ l, r.leadership = some l →
      ∃ a, s.attempts l.owner = some a ∧ a.run = run ∧ a.answer = some true) :
    RunOrderly s run r := by
  refine ⟨?_, ?_, ?_, hleading⟩
  · rintro (hphase | ⟨owner, hphase⟩)
    · exact hunled hphase
    · rw [hphase] at hidle
      cases hidle
  · intro owner howner
    rw [hidle] at howner
    cases howner
  · rintro owner (hphase | hphase) <;> rw [hphase] at hidle <;> cases hidle

theorem contender_of_over {phase : RefreshPhase τ ε} (h : phase.Over) :
    phase.contender = none ∧ phase ≠ .looking := by
  cases phase with
  | releasing => exact ⟨rfl, by simp⟩
  | finished => exact ⟨rfl, by simp⟩
  | _ => cases h

/-! ## What a step does to the runs -/

/-- Leadership stays with its owner, and lost once it is lost. -/
def LeadershipKept (r r' : RefreshRun τ ε) : Prop :=
  ∀ l, r.leadership = some l → ∃ l', r'.leadership = some l' ∧ l'.owner = l.owner ∧
    (l.leadershipLost = true → l'.leadershipLost = true)

theorem LeadershipKept.of_eq {r r' : RefreshRun τ ε} (h : r'.leadership = r.leadership) :
    LeadershipKept r r' := by
  intro l hl
  exact ⟨l, by rw [h, hl], rfl, fun hlost ↦ hlost⟩

/-- What a step keeps of a run: it stays over, and it gives up an owner that Redis did not refuse only
when it is over. -/
structure RunKept (s : RefreshState τ ε) (r r' : RefreshRun τ ε) : Prop where
  ended : r.phase.Over → r'.phase.Over
  contender : ∀ owner, r.phase.contender = some owner → r'.phase.contender = some owner ∨
    r'.phase.Over ∨ ∃ a, s.attempts owner = some a ∧ a.answer = some false
  leadership : LeadershipKept r r'

theorem RunKept.refl (r : RefreshRun τ ε) : RunKept s r r :=
  ⟨fun h ↦ h, fun _ h ↦ Or.inl h, .of_eq rfl⟩

/-- Every run is kept. -/
def RunsKept (s s' : RefreshState τ ε) : Prop :=
  ∀ run r, s.runs run = some r → ∃ r', s'.runs run = some r' ∧ RunKept s r r'

theorem RunsKept.of_eq (h : s'.runs = s.runs) : RunsKept s s' := by
  intro run r hr
  exact ⟨r, by rw [h, hr], .refl r⟩

theorem RunsKept.of_set {run : ℕ} {r r' : RefreshRun τ ε} (hruns : s'.runs = s.runs.set run r')
    (hr : s.runs run = some r) (kept : RunKept s r r') : RunsKept s s' := by
  intro other o ho
  rw [hruns]
  by_cases hother : other = run
  · rw [hother] at ho ⊢
    rw [hr] at ho
    obtain rfl := Option.some.inj ho
    exact ⟨r', KeyedRecord.set_same _ _ _, kept⟩
  · exact ⟨o, by rw [KeyedRecord.set_other _ _ hother, ho], .refl o⟩

/-- What the end of a call does to a run. -/
theorem settleCall_runs (s : RefreshState τ ε) (call : ℕ) (c : RenewCall) (outcome : RenewOutcome)
    (run : ℕ) : ∃ change : RefreshLeadership → RefreshLeadership,
      (∀ l, (change l).owner = l.owner ∧
        (l.leadershipLost = true → (change l).leadershipLost = true) ∧
        (run = c.run → outcome ≠ .renewed → (change l).leadershipLost = true)) ∧
      (s.settleCall call c outcome).runs run =
        (s.runs run).map fun r ↦ { r with leadership := r.leadership.map change } := by
  by_cases hrun : run = c.run
  · refine ⟨fun l ↦
      { l with
        leadershipLost := l.leadershipLost || decide (outcome ≠ .renewed)
        renewalInFlight := l.renewalInFlight && c.assertion }, ?_, ?_⟩
    · intro l
      refine ⟨rfl, ?_, ?_⟩
      · intro hlost
        simp [hlost]
      · intro _ hfailed
        simp [hfailed]
    · rw [hrun]
      exact KeyedRecord.modify_same _ _ _
  · refine ⟨id, fun l ↦ ⟨rfl, fun hlost ↦ hlost, fun hsame ↦ absurd hsame hrun⟩, ?_⟩
    refine (KeyedRecord.modify_other _ _ hrun).trans ?_
    cases s.runs run with
    | none => rfl
    | some r => simp

theorem Stepped.runsKept (h : Stepped config s e s') (orderly : Orderly s) : RunsKept s s' := by
  cases h with
  | @started run _ _ r hnone _ _ =>
      intro other o ho
      have hother : other ≠ run := by
        rintro rfl
        rw [hnone] at ho
        cases ho
      exact ⟨o, (KeyedRecord.set_other _ _ hother).trans ho, .refl o⟩
  | ended hr hleadership hover =>
      exact .of_set rfl hr ⟨fun _ ↦ hover, fun _ _ ↦ Or.inr (Or.inl hover), .of_eq hleadership⟩
  | sent hr hphase =>
      refine .of_set rfl hr ⟨?_, ?_, .of_eq rfl⟩
      · intro hover
        rw [hphase] at hover
        cases hover
      · intro owner howner
        rw [hphase] at howner
        cases howner
  | acquired hr hphase _ _ =>
      refine .of_set rfl hr ⟨?_, ?_, ?_⟩
      · intro hover
        rw [hphase] at hover
        cases hover
      · intro owner howner
        rw [hphase] at howner
        exact Or.inl howner
      · intro l hl
        rw [(orderly.runs _ _ hr).unled (Or.inr ⟨_, hphase⟩)] at hl
        cases hl
  | contended hr hphase hattempt hanswer =>
      refine .of_set rfl hr ⟨?_, ?_, .of_eq rfl⟩
      · intro hover
        rw [hphase] at hover
        cases hover
      · intro owner howner
        rw [hphase] at howner
        rw [← Option.some.inj howner]
        exact Or.inr (Or.inr ⟨_, hattempt, hanswer⟩)
  | concluded hr _ =>
      exact .of_set rfl hr ⟨fun _ ↦ trivial, fun _ _ ↦ Or.inr (Or.inl trivial), .of_eq rfl⟩
  | refreshStarted hr hphase =>
      refine .of_set rfl hr ⟨?_, ?_, ?_⟩
      · intro hover
        rw [hphase] at hover
        cases hover
      · intro owner howner
        rw [hphase] at howner
        exact Or.inl howner
      · intro l hl
        exact ⟨{ l with given := true }, by rw [hl]; rfl, rfl, fun hlost ↦ hlost⟩
  | timed hr hleadership _ =>
      refine .of_set rfl hr ⟨fun hover ↦ hover, fun _ howner ↦ Or.inl howner, ?_⟩
      intro l hl
      rw [hleadership] at hl
      rw [← Option.some.inj hl]
      exact ⟨_, rfl, rfl, fun hlost ↦ hlost⟩
  | @settled _ call c outcome =>
      intro run r hr
      obtain ⟨change, hchange, hruns⟩ := s.settleCall_runs call c outcome run
      rw [hr] at hruns
      refine ⟨_, hruns, fun hover ↦ hover, fun _ howner ↦ Or.inl howner, ?_⟩
      intro l hl
      exact ⟨change l, congrArg (Option.map change) hl, (hchange l).1, (hchange l).2.1⟩
  | _ => exact .of_eq rfl

/-! ## Where a request comes from -/

/-- A request was there, or is the `SET` of a run that looked. -/
inductive AttemptFrom (s s' : RefreshState τ ε) (owner : String) (a' : LockAttempt) : Prop
  | old {a : LockAttempt} : s.attempts owner = some a → a'.run = a.run →
      (a'.answer ≠ some false → a.answer ≠ some false) →
      (a'.releaseRequested = true → a.releaseRequested = true ∨
        ∃ r', s'.runs a'.run = some r' ∧ r'.phase.Over) → AttemptFrom s s' owner a'
  | new {r r' : RefreshRun τ ε} : a'.releaseRequested = false → s.runs a'.run = some r →
      r.phase = .looking → s'.runs a'.run = some r' → r'.phase.contender = some owner →
      (∀ other a, other ≠ owner → s'.attempts other = some a → s.attempts other = some a) →
        AttemptFrom s s' owner a'

theorem AttemptFrom.of_set {owner other : String} {a a' b : LockAttempt}
    (hattempts : s'.attempts = s.attempts.set owner a') (ha : s.attempts owner = some a)
    (hrun : a'.run = a.run) (hanswer : a'.answer ≠ some false → a.answer ≠ some false)
    (hrequested : a'.releaseRequested = a.releaseRequested) (hb : s'.attempts other = some b) :
    AttemptFrom s s' other b := by
  rw [hattempts] at hb
  by_cases hother : other = owner
  · rw [hother, KeyedRecord.set_same] at hb
    obtain rfl := Option.some.inj hb
    rw [hother]
    exact .old ha hrun hanswer fun h ↦ Or.inl (hrequested ▸ h)
  · rw [KeyedRecord.set_other _ _ hother] at hb
    exact .old hb rfl (fun h ↦ h) Or.inl

theorem Stepped.attemptFrom (h : Stepped config s e s') (orderly : Orderly s) {owner : String}
    {a' : LockAttempt} (ha' : s'.attempts owner = some a') : AttemptFrom s s' owner a' := by
  cases h with
  | @sent run _ _ drawn r _ hr hphase =>
      by_cases hother : owner = drawn
      · rw [hother] at ha' ⊢
        obtain rfl := Option.some.inj ((KeyedRecord.set_same _ _ _).symm.trans ha')
        refine .new rfl hr hphase (KeyedRecord.set_same _ _ _) rfl ?_
        intro other a hne ha
        exact (KeyedRecord.set_other _ _ hne).symm.trans ha
      · exact .old ((KeyedRecord.set_other _ _ hother).symm.trans ha') rfl (fun h ↦ h) Or.inl
  | locked hattempt hanswer _ =>
      exact .of_set rfl hattempt rfl (fun _ ↦ by simp [hanswer]) rfl ha'
  | refused hattempt hanswer _ =>
      exact .of_set rfl hattempt rfl (fun _ ↦ by simp [hanswer]) rfl ha'
  | released hattempt _ => exact .of_set rfl hattempt rfl (fun h ↦ h) rfl ha'
  | @concluded _ run released r result hr hcontender =>
      rw [conclude_attempts] at ha'
      obtain ⟨a, ha, rfl⟩ := Option.map_eq_some_iff.1 ha'
      by_cases hother : owner = released
      · rw [if_pos hother]
        refine .old ha rfl (fun h ↦ h) fun _ ↦ Or.inr ?_
        rw [hother] at ha
        obtain ⟨b, hb, hrun⟩ := (orderly.runs run r hr).contender released hcontender
        rw [ha] at hb
        rw [Option.some.inj hb, hrun]
        exact ⟨_, KeyedRecord.set_same _ _ _, trivial⟩
      · rw [if_neg hother]
        exact .old ha rfl (fun h ↦ h) Or.inl
  | _ => exact .old ha' rfl (fun h ↦ h) Or.inl

/-! ## The invariant is kept -/

theorem Stepped.runs (h : Stepped config s e s') (orderly : Orderly s) (fresh : e.Fresh s)
    {run : ℕ} {r' : RefreshRun τ ε} (hr' : s'.runs run = some r') : RunOrderly s' run r' := by
  have kept := h.attemptsKept fresh
  have hset : ∀ {run' : ℕ} {new : RefreshRun τ ε}, s'.runs = s.runs.set run' new →
      RunOrderly s' run' new → RunOrderly s' run r' := by
    intro run' new hruns hnew
    rw [hruns] at hr'
    by_cases hrun : run = run'
    · rw [hrun, KeyedRecord.set_same] at hr'
      rw [hrun, ← Option.some.inj hr']
      exact hnew
    · rw [KeyedRecord.set_other _ _ hrun] at hr'
      exact (orderly.runs run r' hr').of_attempts kept
  cases h with
  | started _ hleadership hidle =>
      refine hset rfl (.of_idle hidle (fun _ ↦ hleadership) ?_)
      intro l hl
      rw [hleadership] at hl
      cases hl
  | ended hr hleadership hover =>
      obtain ⟨hidle, hlooking⟩ := contender_of_over hover
      refine hset rfl (.of_idle hidle (fun h ↦ absurd h hlooking) ?_)
      intro l hl
      rw [hleadership] at hl
      exact ((orderly.runs _ _ hr).of_attempts kept).leading l hl
  | @sent run' _ _ owner r _ hr hphase =>
      have hunled := (orderly.runs _ _ hr).unled (Or.inl hphase)
      refine hset rfl ⟨fun _ ↦ hunled, ?_, ?_, ?_⟩
      · intro other hother
        rw [← Option.some.inj hother]
        exact ⟨_, KeyedRecord.set_same _ _ _, rfl⟩
      · rintro other (hother | hother) <;> cases hother
      · intro l hl
        rw [show r.leadership = none from hunled] at hl
        cases hl
  | acquired hr hphase hattempt hanswer =>
      obtain ⟨b, hb, hrun⟩ := (orderly.runs _ _ hr).contender _ (by rw [hphase]; rfl)
      rw [hattempt] at hb
      obtain rfl := Option.some.inj hb
      refine hset rfl ⟨?_, ?_, ?_, ?_⟩
      · rintro (hother | ⟨_, hother⟩) <;> cases hother
      · intro other hother
        rw [← Option.some.inj hother]
        exact ⟨_, hattempt, hrun⟩
      · rintro other (hother | hother)
        · cases hother
          exact ⟨_, hattempt, hanswer⟩
        · cases hother
      · intro l hl
        rw [← Option.some.inj hl]
        exact ⟨_, hattempt, hrun, hanswer⟩
  | contended hr hphase _ _ =>
      have hunled := (orderly.runs _ _ hr).unled (Or.inr ⟨_, hphase⟩)
      refine hset rfl (.of_idle rfl (fun _ ↦ hunled) ?_)
      intro l hl
      rw [hunled] at hl
      cases hl
  | concluded hr _ =>
      refine hset rfl (.of_idle rfl (fun h ↦ by cases h) ?_)
      exact ((orderly.runs _ _ hr).of_attempts kept).leading
  | refreshStarted hr hphase =>
      have hrun := orderly.runs _ _ hr
      refine hset rfl ⟨?_, ?_, ?_, ?_⟩
      · rintro (hother | ⟨_, hother⟩) <;> cases hother
      · intro other hother
        apply hrun.contender
        rw [hphase]
        exact hother
      · rintro other (hother | hother)
        · cases hother
        · cases hother
          exact hrun.answered _ (Or.inl hphase)
      · intro l hl
        obtain ⟨old, hold, rfl⟩ := Option.map_eq_some_iff.1 hl
        exact hrun.leading old hold
  | timed hr hleadership _ =>
      have hrun := orderly.runs _ _ hr
      refine hset rfl ⟨?_, hrun.contender, hrun.answered, ?_⟩
      · intro hphase
        have hunled := hrun.unled hphase
        rw [hleadership] at hunled
        cases hunled
      · intro l hl
        rw [← Option.some.inj hl]
        obtain ⟨a, ha⟩ := hrun.leading _ hleadership
        exact ⟨a, ha⟩
  | @settled _ call c outcome =>
      obtain ⟨change, hchange, hruns⟩ := s.settleCall_runs call c outcome run
      rw [hruns] at hr'
      obtain ⟨r, hr, rfl⟩ := Option.map_eq_some_iff.1 hr'
      have hrun := (orderly.runs run r hr).of_attempts kept
      refine ⟨?_, hrun.contender, hrun.answered, ?_⟩
      · intro hphase
        exact congrArg (Option.map change) (hrun.unled hphase)
      · intro l hl
        obtain ⟨old, hold, rfl⟩ := Option.map_eq_some_iff.1 hl
        rw [(hchange old).1]
        exact hrun.leading old hold
  | _ => exact (orderly.runs run r' hr').of_attempts kept

/-- What a call says of the run that made it. -/
def CallLed (s : RefreshState τ ε) (c : RenewCall) : Prop :=
  ∃ r l, s.runs c.run = some r ∧ r.leadership = some l ∧ l.owner = c.owner ∧
    (c.outcome ≠ none → c.outcome ≠ some .renewed → l.leadershipLost = true)

theorem CallLed.of_kept {c c' : RenewCall} (h : CallLed s c) (kept : RunsKept s s')
    (hrun : c'.run = c.run) (howner : c'.owner = c.owner) (houtcome : c'.outcome = c.outcome) :
    CallLed s' c' := by
  obtain ⟨r, l, hr, hl, hown, hlost⟩ := h
  obtain ⟨r', hr', hkept⟩ := kept c.run r hr
  obtain ⟨l', hl', hown', hlost'⟩ := hkept.leadership l hl
  refine ⟨r', l', by rw [hrun, hr'], hl', by rw [hown', hown, howner], ?_⟩
  rw [houtcome]
  exact fun hended hfailed ↦ hlost' (hlost hended hfailed)

theorem Stepped.calls (h : Stepped config s e s') (orderly : Orderly s) {call : ℕ} {c' : RenewCall}
    (hc' : s'.calls call = some c') :
    CallLed s' c' ∧ (c'.outcome = some .renewed → c'.renewed = some true) := by
  have kept := h.runsKept orderly
  have hset : ∀ {call' : ℕ} {new : RenewCall}, s'.calls = s.calls.set call' new →
      CallLed s' new ∧ (new.outcome = some .renewed → new.renewed = some true) →
        CallLed s' c' ∧ (c'.outcome = some .renewed → c'.renewed = some true) := by
    intro call' new hcalls hnew
    rw [hcalls] at hc'
    by_cases hcall : call = call'
    · rw [hcall, KeyedRecord.set_same] at hc'
      rw [← Option.some.inj hc']
      exact hnew
    · rw [KeyedRecord.set_other _ _ hcall] at hc'
      have hled : CallLed s c' := orderly.calls call c' hc'
      exact ⟨hled.of_kept kept rfl rfl rfl, orderly.outcomes call c' hc'⟩
  cases h with
  | @asserted _ _ _ l hr hleadership _ =>
      apply hset rfl
      cases hlost : l.leadershipLost with
      | true => exact ⟨⟨_, l, hr, hleadership, rfl, fun _ _ ↦ hlost⟩, by rintro ⟨⟩⟩
      | false => exact ⟨⟨_, l, hr, hleadership, rfl, fun hended ↦ absurd rfl hended⟩, by rintro ⟨⟩⟩
  | timed _ _ _ =>
      apply hset rfl
      exact ⟨⟨_, _, KeyedRecord.set_same _ _ _, rfl, rfl, fun hended ↦ absurd rfl hended⟩,
        by rintro ⟨⟩⟩
  | renewed hcall hunsent _ _ =>
      have hled : CallLed s _ := orderly.calls _ _ hcall
      exact hset rfl ⟨hled.of_kept kept rfl rfl rfl, fun _ ↦ rfl⟩
  | notRenewed hcall hunsent _ =>
      have hled : CallLed s _ := orderly.calls _ _ hcall
      refine hset rfl ⟨hled.of_kept kept rfl rfl rfl, ?_⟩
      intro houtcome
      have hrenewed := orderly.outcomes _ _ hcall houtcome
      rw [hunsent] at hrenewed
      cases hrenewed
  | @settled _ call₀ c outcome hcall hopen hrenewed =>
      apply hset rfl
      obtain ⟨r, l, hr, hl, hown, _⟩ := orderly.calls call₀ c hcall
      obtain ⟨change, hchange, hruns⟩ := s.settleCall_runs call₀ c outcome c.run
      rw [hr] at hruns
      refine ⟨⟨_, change l, hruns, congrArg (Option.map change) hl, (hchange l).1.trans hown, ?_⟩, ?_⟩
      · intro _ hfailed
        apply (hchange l).2.2 rfl
        rintro rfl
        exact hfailed rfl
      · intro houtcome
        exact hrenewed (Option.some.inj houtcome)
  | _ =>
      have hled : CallLed s c' := orderly.calls call c' hc'
      exact ⟨hled.of_kept kept rfl rfl rfl, orderly.outcomes call c' hc'⟩

theorem Stepped.orderly (h : Stepped config s e s') (orderly : Orderly s) (fresh : e.Fresh s) :
    Orderly s' := by
  have runsKept := h.runsKept orderly
  refine ⟨fun _ _ ↦ h.runs orderly fresh, ?_, ?_, ?_, fun _ _ hc ↦ (h.calls orderly hc).1,
    fun _ _ hc ↦ (h.calls orderly hc).2⟩
  · intro owner a' ha' hanswer
    cases h.attemptFrom orderly ha' with
    | old ha hrun hopen _ =>
        obtain ⟨r, hr, hphase⟩ := orderly.pending owner _ ha (hopen hanswer)
        obtain ⟨r', hr', hkept⟩ := runsKept _ r hr
        rw [hrun]
        refine ⟨r', hr', ?_⟩
        rcases hphase with hphase | hphase
        · rcases hkept.contender owner hphase with hsame | hover | ⟨b, hb, hfalse⟩
          · exact Or.inl hsame
          · exact Or.inr hover
          · rw [ha] at hb
            rw [← Option.some.inj hb] at hfalse
            exact absurd hfalse (hopen hanswer)
        · exact Or.inr (hkept.ended hphase)
    | new _ _ _ hr' hcontender _ => exact ⟨_, hr', Or.inl hcontender⟩
  · intro owner owner' a a' ha ha' hrun hanswer hanswer'
    -- A run that looks has no request that Redis has not refused.
    have hidle : ∀ {run : ℕ} {r : RefreshRun τ ε} {o : String} {b : LockAttempt},
        s.runs run = some r → r.phase = .looking → s.attempts o = some b → b.run = run →
          b.answer = some false := by
      intro run r o b hr hphase hb hbrun
      by_contra hne
      obtain ⟨r', hr', hcontends⟩ := orderly.pending o b hb hne
      rw [hbrun, hr] at hr'
      rw [← Option.some.inj hr', hphase] at hcontends
      rcases hcontends with hcontends | hcontends <;> cases hcontends
    by_contra hne
    cases h.attemptFrom orderly ha with
    | old hb hbrun hbopen _ =>
        cases h.attemptFrom orderly ha' with
        | old hb' hbrun' hbopen' _ =>
            exact hne (orderly.single owner owner' _ _ hb hb' (by rw [← hbrun, ← hbrun', hrun])
              (hbopen hanswer) (hbopen' hanswer'))
        | new _ hr hphase _ _ _ =>
            exact hbopen hanswer (hidle hr hphase hb (by rw [← hbrun, hrun]))
    | new _ hr hphase _ _ hothers =>
        exact hanswer' (hidle hr hphase (hothers owner' a' (Ne.symm hne) ha') hrun.symm)
  · intro owner a' ha' hrequested
    cases h.attemptFrom orderly ha' with
    | old ha hrun _ hbefore =>
        rcases hbefore hrequested with hbefore | hover
        · obtain ⟨r, hr, hphase⟩ := orderly.requested owner _ ha hbefore
          obtain ⟨r', hr', hkept⟩ := runsKept _ r hr
          rw [hrun]
          exact ⟨r', hr', hkept.ended hphase⟩
        · exact hover
    | new hnone _ _ _ _ _ =>
        rw [hnone] at hrequested
        cases hrequested

end RefreshState

theorem refreshSystem_orderly {h : List (Move (RefreshState τ ε) (RefreshEvent τ ε))}
    {s : RefreshState τ ε} (r : Run (refreshSystem τ ε config) h s) : s.Orderly := by
  apply r.invariant (I := RefreshState.Orderly)
  · rintro _ rfl
    constructor <;> simp [KeyedRecord.empty]
  · rintro _ s e s' _ orderly ⟨fresh, hstep⟩
    exact (RefreshState.step_stepped hstep).orderly orderly fresh

end ReputationKey.Shared
