import ReputationKey.Review.Discovery

/-!
# Full discovery before its deadline

A look that skips dates the next one before the end of the reconciliation window. So the next look
after a full one is due either before the last completed reconciliation leaves the window or by the
date the full look set itself, and the looks that skip on one reconciliation are bounded in number.
-/

namespace ReputationKey.Review

open ReputationKey.Base

variable {sweep : DiscoverySweep} {h : List (Move PropertyDiscovery DiscoveryEvent)}
  {property : PropertyDiscovery}

/-! ## What a run of looks is judged by -/

/-- The instant of a look. -/
def DiscoveryEvent.lookedAt : DiscoveryEvent → Option Int
  | .look now _ => some now
  | _ => none

/-- Whether a move is a look that ran the full snapshot. -/
def isFullLook (sweep : DiscoverySweep) (m : Move PropertyDiscovery DiscoveryEvent) : Bool :=
  m.event.lookedAt.any fun now ↦ sweep.lookFor m.pre now matches .full _

/-- Whether a move is a look that skipped. -/
def isSkippedLook (sweep : DiscoverySweep) (m : Move PropertyDiscovery DiscoveryEvent) : Bool :=
  m.event.lookedAt.any fun now ↦ sweep.lookFor m.pre now matches .skip _ _

/-- Whether an event records a failure of the snapshot or starts a new source epoch. -/
def DiscoveryEvent.restartsDiscovery : DiscoveryEvent → Bool
  | .snapshotFailed _ _ _ => true
  | .sourceEpochChanged => true
  | _ => false

/-- Whether an event changes which reconciliation is the last completed one. -/
def DiscoveryEvent.reconciles : DiscoveryEvent → Bool
  | .reconciled _ => true
  | .sourceEpochChanged => true
  | _ => false

/-- A date comes before the last completed reconciliation leaves the window. -/
def DiscoverySweep.BeforeDeadline (sweep : DiscoverySweep) (property : PropertyDiscovery)
    (date : Int) : Prop :=
  ∃ last, property.lastReconciledAt = some last ∧ date < last + sweep.window

/-- The next look is dated by `date` or before the deadline, and no retry is later than `date`. -/
structure DiscoverySweep.Covers (sweep : DiscoverySweep) (property : PropertyDiscovery)
    (date : Int) : Prop where
  dated : ∃ next, property.nextIncrementalAt = some next ∧
    (next ≤ date ∨ sweep.BeforeDeadline property next)
  retry : ∀ retryAt, property.errorRetryAt = some retryAt → retryAt ≤ date

/-! ## Skipping -/

/-- A look that may skip dates the next one strictly before the deadline. -/
theorem discoveryLookFor_skip_lt {input : DiscoveryLookInput} {nextDueAt : Int}
    {headCheck : Bool} (positive : 0 < input.interval)
    (h : discoveryLookFor input = .skip nextDueAt headCheck) :
    ∃ last, input.lastReconciledAt = some last ∧ nextDueAt < last + input.window := by
  obtain ⟨-, last, hlast, hnext, hdue⟩ := discoveryLookFor_skip h
  refine ⟨last, hlast, ?_⟩
  rcases hdue with hdue | hdue <;> omega

/-- A look of the sweep that skips had a reconciliation and left the next look before the
deadline. -/
theorem lookFor_skip {now nextDueAt : Int} {headCheck : Bool}
    (base : 0 < sweep.baseIntervalMs)
    (h : sweep.lookFor property now = .skip nextDueAt headCheck) :
    sweep.BeforeDeadline property nextDueAt ∧ now < nextDueAt := by
  have hinterval : 0 < discoveryIntervalMs property.activity now sweep.baseIntervalMs :=
    Int.lt_of_lt_of_le base (le_discoveryIntervalMs _ _ _)
  refine ⟨discoveryLookFor_skip_lt hinterval h, ?_⟩
  obtain ⟨-, last, hlast, hnext, hdue⟩ := discoveryLookFor_skip h
  simp only at hdue hnext
  rcases hdue with hdue | hdue <;> omega

/-- What a look does to the rows when it skips. -/
theorem lookAtCandidate_skip {now nextDueAt : Int} {headCheck : Bool} {enqueue : EnqueueOutcome}
    (h : sweep.lookFor property now = .skip nextDueAt headCheck) :
    sweep.lookAtCandidate property now enqueue = markDiscoverySkipped property nextDueAt := by
  unfold DiscoverySweep.lookAtCandidate
  rw [h]

/-- What a look does to the rows when it runs in full. -/
theorem lookAtCandidate_full {now : Int} {reason : DiscoveryFullReason} {enqueue : EnqueueOutcome}
    (h : sweep.lookFor property now = .full reason) :
    sweep.lookAtCandidate property now enqueue = sweep.enqueueFullLook property now enqueue := by
  unfold DiscoverySweep.lookAtCandidate
  rw [h]

/-! ## The date of the next look -/

/-- The later of a stored instant and a new one is one of the two. -/
theorem greatest_cases (stored : Option Int) (observed : Int) :
    greatest stored observed = observed ∨ stored = some (greatest stored observed) := by
  cases stored with
  | none => exact Or.inl rfl
  | some at_ =>
      change max at_ observed = observed ∨ some at_ = some (max at_ observed)
      rcases Int.le_total at_ observed with hle | hle
      · exact Or.inl (Int.max_eq_right hle)
      · exact Or.inr (by rw [Int.max_eq_left hle])

/-- A new instant is never later than the later of the two. -/
theorem le_greatest (stored : Option Int) (observed : Int) :
    observed ≤ greatest stored observed ∧
      ∀ at_, stored = some at_ → at_ ≤ greatest stored observed := by
  cases stored with
  | none => exact ⟨Int.le_refl _, by simp⟩
  | some at_ =>
      refine ⟨Int.le_max_right _ _, ?_⟩
      intro other hother
      cases hother
      exact Int.le_max_left _ _

/-- A completed reconciliation only puts the deadline off. -/
theorem DiscoverySweep.BeforeDeadline.reconciled {date evaluatedAt : Int}
    (h : sweep.BeforeDeadline property date) :
    sweep.BeforeDeadline
      (DiscoveryEvent.apply sweep property (.reconciled evaluatedAt)) date := by
  obtain ⟨last, hlast, hdate⟩ := h
  refine ⟨greatest property.lastReconciledAt evaluatedAt, rfl, ?_⟩
  have hle := (le_greatest property.lastReconciledAt evaluatedAt).2 last hlast
  omega

/-- An event that is neither a full look, a failure nor a new epoch keeps the next look dated. -/
theorem DiscoverySweep.Covers.apply {date : Int} {event : DiscoveryEvent} (base : 0 < sweep.baseIntervalMs)
    (covers : sweep.Covers property date)
    (skips : isFullLook sweep ⟨property, event, event.apply sweep property⟩ = false)
    (continues : event.restartsDiscovery = false) :
    sweep.Covers (event.apply sweep property) date := by
  obtain ⟨⟨next, hnext, hdated⟩, hretry⟩ := covers
  cases event with
  | look now enqueue =>
      cases hlook : sweep.lookFor property now with
      | full reason => simp [isFullLook, DiscoveryEvent.lookedAt, hlook] at skips
      | skip nextDueAt headCheck =>
          have happly : DiscoveryEvent.apply sweep property (.look now enqueue) =
              markDiscoverySkipped property nextDueAt := lookAtCandidate_skip hlook
          rw [happly]
          exact ⟨⟨nextDueAt, rfl, Or.inr (lookFor_skip base hlook).1⟩, hretry⟩
  | reconciled evaluatedAt =>
      exact ⟨⟨next, hnext, hdated.imp_right DiscoverySweep.BeforeDeadline.reconciled⟩, hretry⟩
  | syncSucceeded => exact ⟨⟨next, hnext, hdated⟩, fun retryAt h ↦ nomatch h⟩
  | snapshotFailed now locationTooLarge code => cases continues
  | newReviewObserved observedAt => exact ⟨⟨next, hnext, hdated⟩, hretry⟩
  | pushObserved observedAt =>
      refine ⟨⟨_, rfl, ?_⟩, hretry⟩
      -- The push dates the look by the failure's retry or no later than it was.
      rcases greatest_cases property.errorRetryAt
          (min (property.nextIncrementalAt.getD (observedAt + sweep.baseIntervalMs))
            (observedAt + sweep.baseIntervalMs)) with hgreatest | hgreatest
      · rw [hgreatest, hnext]
        have hle : min ((some next).getD (observedAt + sweep.baseIntervalMs))
            (observedAt + sweep.baseIntervalMs) ≤ next := Int.min_le_left _ _
        rcases hdated with hdate | ⟨last, hlast, hdate⟩
        · exact Or.inl (Int.le_trans hle hdate)
        · exact Or.inr ⟨last, hlast, by omega⟩
      · exact Or.inl (hretry _ hgreatest)
  | pulledForward now reconciledSince =>
      change sweep.Covers (pullLooksForward property now reconciledSince) date
      unfold pullLooksForward
      simp only
      split
      · next hpull =>
          simp only [Bool.and_eq_true, hnext, Option.any_some, decide_eq_true_eq] at hpull
          refine ⟨⟨now, rfl, ?_⟩, hretry⟩
          rcases hdated with hdate | ⟨last, hlast, hdate⟩
          · exact Or.inl (by omega)
          · exact Or.inr ⟨last, hlast, by omega⟩
      · exact ⟨⟨next, hnext, hdated⟩, hretry⟩
  | sourceEpochChanged => cases continues

/-- From a dated look on, the next look stays dated until a full look, a failure or a new epoch. -/
theorem covers_since {between earlier : List (Move PropertyDiscovery DiscoveryEvent)}
    {first : Move PropertyDiscovery DiscoveryEvent} {date : Int}
    (base : 0 < sweep.baseIntervalMs)
    (run : Run (discoverySystem sweep) (between ++ first :: earlier) property)
    (covers : sweep.Covers first.post date)
    (quiet : ∀ m ∈ between, isFullLook sweep m = false ∧ m.event.restartsDiscovery = false) :
    sweep.Covers property date := by
  refine run.kept_since (P := (sweep.Covers · date)) covers ?_
  intro m hm _ hstep held
  obtain ⟨hskips, hcontinues⟩ := quiet m hm
  obtain ⟨pre, event, post⟩ := m
  have hpost : post = event.apply sweep pre := hstep
  subst hpost
  exact held.apply base hskips hcontinues

/-! ## How many looks skip -/

/-- A strictly decreasing list of instants between two others is shorter than their distance. -/
theorem length_lt_of_between {times : List Int} {lower upper : Int} (room : lower < upper)
    (sorted : times.Pairwise fun later earlier ↦ earlier < later)
    (between : ∀ time ∈ times, lower < time ∧ time < upper) :
    lower + times.length < upper := by
  induction times generalizing upper with
  | nil => simpa using room
  | cons time times ih =>
      obtain ⟨hhead, htail⟩ := List.pairwise_cons.1 sorted
      obtain ⟨hlower, hupper⟩ := between time (by simp)
      have hrest := ih hlower htail
        fun other hother ↦ ⟨(between other (by simp [hother])).1, hhead other hother⟩
      rw [List.length_cons]
      omega

/-- The last completed reconciliation is the same until another one completes. -/
theorem lastReconciledAt_since {between earlier : List (Move PropertyDiscovery DiscoveryEvent)}
    {first : Move PropertyDiscovery DiscoveryEvent} {last : Int}
    (run : Run (discoverySystem sweep) (between ++ first :: earlier) property)
    (reconciled : first.post.lastReconciledAt = some last)
    (none : ∀ m ∈ between, m.event.reconciles = false) :
    property.lastReconciledAt = some last := by
  refine run.kept_since (P := (·.lastReconciledAt = some last)) reconciled ?_
  intro m hm _ hstep held
  have hnone := none m hm
  obtain ⟨pre, event, post⟩ := m
  have hpost : post = event.apply sweep pre := hstep
  subst hpost
  rw [← held]
  cases event with
  | look now enqueue =>
      change (sweep.lookAtCandidate pre now enqueue).lastReconciledAt = _
      unfold DiscoverySweep.lookAtCandidate
      split
      · rfl
      · rcases enqueue with _ | _ | _ <;> rfl
  | pulledForward now reconciledSince =>
      change (pullLooksForward pre now reconciledSince).lastReconciledAt = _
      unfold pullLooksForward
      simp only
      split <;> rfl
  | reconciled evaluatedAt => cases hnone
  | sourceEpochChanged => cases hnone
  | _ => rfl

/-- A look that skips in a run has looked between the last completed reconciliation and the end of
its window. -/
theorem skippedLook_before {m : Move PropertyDiscovery DiscoveryEvent} {last : Int}
    (base : 0 < sweep.baseIntervalMs) (skipped : isSkippedLook sweep m)
    (reconciled : m.pre.lastReconciledAt = some last) :
    ∃ now, m.event.lookedAt = some now ∧ now < last + sweep.window := by
  unfold isSkippedLook at skipped
  obtain ⟨now, hnow, hlook⟩ := (Option.any_eq_true _ _).1 skipped
  refine ⟨now, hnow, ?_⟩
  split at hlook
  · next nextDueAt headCheck hskip =>
      obtain ⟨⟨last', hlast', hdeadline⟩, hlater⟩ := lookFor_skip base hskip
      rw [reconciled] at hlast'
      cases hlast'
      exact Int.lt_trans hlater hdeadline
  · cases hlook

/-- On one reconciliation fewer looks skip than the window has milliseconds. -/
theorem skippedLooks_lt {later earlier : List (Move PropertyDiscovery DiscoveryEvent)}
    {first : Move PropertyDiscovery DiscoveryEvent} {last : Int}
    (base : 0 < sweep.baseIntervalMs) (window : 0 < sweep.window)
    (run : Run (discoverySystem sweep) (later ++ first :: earlier) property)
    (reconciled : first.post.lastReconciledAt = some last)
    (none : ∀ m ∈ later, m.event.reconciles = false)
    (spaced : (later.filterMap (·.event.lookedAt)).Pairwise fun later earlier ↦ earlier < later)
    (after : ∀ now ∈ later.filterMap (·.event.lookedAt), last < now) :
    (later.countP (isSkippedLook sweep) : Int) < sweep.window := by
  have hbefore : ∀ m ∈ later.filter (isSkippedLook sweep),
      ∃ now, m.event.lookedAt = some now ∧ now < last + sweep.window := by
    intro m hm
    obtain ⟨hmem, hskipped⟩ := List.mem_filter.1 hm
    obtain ⟨newer, older, rfl⟩ := List.append_of_mem hmem
    rw [List.append_assoc, List.cons_append] at run
    exact skippedLook_before base hskipped
      (lastReconciledAt_since run.of_append.1 reconciled fun n hn ↦ none n (by simp [hn]))
  have hsub : ((later.filter (isSkippedLook sweep)).filterMap (·.event.lookedAt)).Sublist
      (later.filterMap (·.event.lookedAt)) := List.filter_sublist.filterMap _
  have hlength : ((later.filter (isSkippedLook sweep)).filterMap (·.event.lookedAt)).length =
      later.countP (isSkippedLook sweep) := by
    rw [List.countP_eq_length_filter, List.filterMap_length_eq_length]
    intro m hm
    obtain ⟨now, hnow, -⟩ := hbefore m hm
    simp [hnow]
  have hcount := length_lt_of_between (show last < last + sweep.window by omega)
    (spaced.sublist hsub) (by
      intro now hnow
      refine ⟨after now (hsub.mem hnow), ?_⟩
      obtain ⟨m, hm, hat⟩ := List.mem_filterMap.1 hnow
      obtain ⟨now', hnow', hlt⟩ := hbefore m hm
      rw [hat] at hnow'
      cases hnow'
      exact hlt)
  omega

/-! ## The reconciliation window -/

/-- A full look that was enqueued dates the next look one ladder interval ahead. -/
theorem covers_of_fullLook {now : Int} (full : isFullLook sweep
      ⟨property, .look now .enqueued, DiscoveryEvent.apply sweep property (.look now .enqueued)⟩)
    (retry : ∀ retryAt, property.errorRetryAt = some retryAt →
      retryAt ≤ nextDiscoveryDueAt property.activity now sweep.baseIntervalMs) :
    sweep.Covers (DiscoveryEvent.apply sweep property (.look now .enqueued))
      (nextDiscoveryDueAt property.activity now sweep.baseIntervalMs) := by
  cases hlook : sweep.lookFor property now with
  | skip nextDueAt headCheck => simp [isFullLook, DiscoveryEvent.lookedAt, hlook] at full
  | full reason =>
      have happly : DiscoveryEvent.apply sweep property (.look now .enqueued) =
          sweep.enqueueFullLook property now .enqueued := lookAtCandidate_full hlook
      rw [happly]
      exact ⟨⟨_, rfl, Or.inl (Int.le_refl _)⟩, retry⟩

/-- The look after a full one is due by the date that one set or before the deadline. -/
theorem nextLook_in_time {between earlier : List (Move PropertyDiscovery DiscoveryEvent)}
    {first : Move PropertyDiscovery DiscoveryEvent} {t₀ t₁ : Int}
    (base : 0 < sweep.baseIntervalMs)
    (run : Run (discoverySystem sweep) (between ++ first :: earlier) property)
    (full : isFullLook sweep first) (enqueued : first.event = .look t₀ .enqueued)
    (quiet : ∀ m ∈ between, isFullLook sweep m = false ∧ m.event.restartsDiscovery = false)
    (retry : ∀ retryAt, first.pre.errorRetryAt = some retryAt →
      retryAt ≤ nextDiscoveryDueAt first.pre.activity t₀ sweep.baseIntervalMs)
    (onTime : ∀ next, property.nextIncrementalAt = some next → t₁ ≤ next) :
    t₁ ≤ nextDiscoveryDueAt first.pre.activity t₀ sweep.baseIntervalMs ∨
      sweep.BeforeDeadline property t₁ := by
  obtain ⟨-, hstep, -⟩ := run.of_append
  obtain ⟨pre, event, post⟩ := first
  have hpost : post = event.apply sweep pre := hstep
  subst hpost enqueued
  obtain ⟨⟨next, hnext, hdated⟩, -⟩ :=
    covers_since base run (covers_of_fullLook full retry) quiet
  have hle := onTime next hnext
  rcases hdated with hdate | ⟨last, hlast, hdate⟩
  · exact Or.inl (Int.le_trans hle hdate)
  · exact Or.inr ⟨last, hlast, Int.lt_of_le_of_lt hle hdate⟩

/-- A look that skips dates the next one before the deadline. After a full look, a look made by its
due date comes by the date the full look set or before the deadline; so, where the ladder stays
within the window, within the window of that look's reconciliation. On one reconciliation fewer
looks skip than the window has milliseconds. -/
theorem fullDiscovery_before_deadline (base : 0 < sweep.baseIntervalMs)
    (run : Run (discoverySystem sweep) h property) :
    (∀ input nextDueAt headCheck, 0 < input.interval →
      discoveryLookFor input = .skip nextDueAt headCheck →
      ∃ last, input.lastReconciledAt = some last ∧ nextDueAt < last + input.window) ∧
    (∀ m ∈ h, ∀ now enqueue nextDueAt headCheck, m.event = .look now enqueue →
      sweep.lookFor m.pre now = .skip nextDueAt headCheck →
      m.post.nextIncrementalAt = some nextDueAt ∧ sweep.BeforeDeadline m.post nextDueAt) ∧
    (∀ later second between first earlier t₀ t₁,
      h = later ++ second :: (between ++ first :: earlier) →
      isFullLook sweep first → first.event = .look t₀ .enqueued →
      second.event.lookedAt = some t₁ →
      (∀ m ∈ between, isFullLook sweep m = false ∧ m.event.restartsDiscovery = false) →
      (∀ retryAt, first.pre.errorRetryAt = some retryAt →
        retryAt ≤ nextDiscoveryDueAt first.pre.activity t₀ sweep.baseIntervalMs) →
      (∀ next, second.pre.nextIncrementalAt = some next → t₁ ≤ next) →
      (t₁ ≤ nextDiscoveryDueAt first.pre.activity t₀ sweep.baseIntervalMs ∨
        sweep.BeforeDeadline second.pre t₁) ∧
      (sweep.baseIntervalMs ≤ sweep.window → discoveryMaxIntervalMs ≤ sweep.window →
        ∀ last, second.pre.lastReconciledAt = some last → t₀ ≤ last →
        t₁ ≤ last + sweep.window)) ∧
    (∀ later first earlier last, h = later ++ first :: earlier →
      first.post.lastReconciledAt = some last → 0 < sweep.window →
      (∀ m ∈ later, m.event.reconciles = false) →
      (later.filterMap (·.event.lookedAt)).Pairwise (fun later earlier ↦ earlier < later) →
      (∀ now ∈ later.filterMap (·.event.lookedAt), last < now) →
      (later.countP (isSkippedLook sweep) : Int) < sweep.window) := by
  refine ⟨fun input _ _ positive hskip ↦ discoveryLookFor_skip_lt positive hskip, ?_, ?_, ?_⟩
  · intro m hm now enqueue nextDueAt headCheck hevent hlook
    obtain ⟨_, _, hstep⟩ := run.of_mem hm
    obtain ⟨pre, event, post⟩ := m
    have hpost : post = event.apply sweep pre := hstep
    subst hpost hevent
    have happly : DiscoveryEvent.apply sweep pre (.look now enqueue) =
        markDiscoverySkipped pre nextDueAt := lookAtCandidate_skip hlook
    rw [happly]
    exact ⟨rfl, (lookFor_skip base hlook).1⟩
  · intro later second between first earlier t₀ t₁ hh hfull henqueued _ quiet retry onTime
    subst hh
    have hdue := nextLook_in_time base run.of_append.1 hfull henqueued quiet retry onTime
    refine ⟨hdue, ?_⟩
    intro hbase hcap last hlast hle
    rcases hdue with hdate | ⟨last', hlast', hdeadline⟩
    · have hladder := discoveryIntervalMs_le first.pre.activity t₀ sweep.baseIntervalMs
      unfold nextDiscoveryDueAt at hdate
      omega
    · rw [hlast] at hlast'
      cases hlast'
      omega
  · intro later first earlier last hh hlast hwindow hnone hspaced hafter
    subst hh
    exact skippedLooks_lt base hwindow run hlast hnone hspaced hafter

/-! A hot property on the default ladder: a full look, its reconciliation a minute later, and the
next look, which skips. -/

section Sample

/-- The default sweep with head checks. -/
def sampleSweep : DiscoverySweep := ⟨15 * 60 * 1000, true, true, none⟩

/-- A property observed from instant zero and never looked at. -/
def sampleProperty : PropertyDiscovery := ⟨none, none, none, none, some 0, none, none, none⟩

/-- The property after its first full look. -/
def sampleScheduled : PropertyDiscovery :=
  { sampleProperty with nextIncrementalAt := some 900000 }

/-- The property once the snapshot of that look completed. -/
def sampleReconciled : PropertyDiscovery :=
  { sampleScheduled with lastReconciledAt := some 60000 }

/-- The property after the look that skipped. -/
def sampleSkipped : PropertyDiscovery :=
  { sampleReconciled with nextIncrementalAt := some 1800000 }

/-- The run of the two looks. -/
theorem sampleDiscoveryRun : Run (discoverySystem sampleSweep)
    [⟨sampleReconciled, .look 900000 .enqueued, sampleSkipped⟩,
      ⟨sampleScheduled, .reconciled 60000, sampleReconciled⟩,
      ⟨sampleProperty, .look 0 .enqueued, sampleScheduled⟩] sampleSkipped := by
  refine .next (.next (.next (.start trivial) ?_) ?_) ?_
  · change sampleScheduled = _
    decide
  · change sampleReconciled = _
    decide
  · change sampleSkipped = _
    decide

theorem fullDiscovery_before_deadline_skipped :
    sampleSkipped.nextIncrementalAt = some 1800000 ∧
      sampleSweep.BeforeDeadline sampleSkipped 1800000 ∧ (900000 : Int) ≤ 60000 + 6 * 3600000 := by
  have hlaw := fullDiscovery_before_deadline (show 0 < sampleSweep.baseIntervalMs by decide)
    sampleDiscoveryRun
  obtain ⟨hnext, hdeadline⟩ := hlaw.2.1 _ (List.mem_cons_self ..) 900000 .enqueued 1800000 true rfl
    (by decide)
  refine ⟨hnext, hdeadline, ?_⟩
  exact (hlaw.2.2.1 [] _ [_] _ [] 0 900000 rfl (by decide) rfl rfl
    (by intro m hm; cases List.mem_singleton.1 hm; decide) (by decide)
    (by decide)).2 (by decide) (by decide) 60000 rfl (by decide)

end Sample

/-- A base interval above the window: both looks run on their due date and reconcile at once, and
seven hours pass between the two reconciliations of a six-hour window. -/
theorem fullDiscovery_after_window :
    ∃ (sweep : DiscoverySweep) (p₀ p₁ p₂ p₃ : PropertyDiscovery),
      0 < sweep.baseIntervalMs ∧ sweep.window = 6 * 60 * 60 * 1000 ∧
      Run (discoverySystem sweep)
        [⟨p₂, .look (7 * 60 * 60 * 1000) .enqueued, p₃⟩, ⟨p₁, .reconciled 0, p₂⟩,
          ⟨p₀, .look 0 .enqueued, p₁⟩] p₃ ∧
      sweep.lookFor p₀ 0 = .full .noReconciliation ∧
      p₂.nextIncrementalAt = some (7 * 60 * 60 * 1000) ∧ p₂.lastReconciledAt = some 0 ∧
      sweep.lookFor p₂ (7 * 60 * 60 * 1000) = .full .due ∧
      ¬ (7 * 60 * 60 * 1000 : Int) ≤ 0 + sweep.window := by
  let slow : DiscoverySweep := ⟨7 * 60 * 60 * 1000, true, true, none⟩
  refine ⟨slow, sampleProperty, DiscoveryEvent.apply slow sampleProperty (.look 0 .enqueued), _, _,
    by decide, rfl, .next (.next (.next (.start trivial) rfl) rfl) rfl, ?_⟩
  decide

end ReputationKey.Review
