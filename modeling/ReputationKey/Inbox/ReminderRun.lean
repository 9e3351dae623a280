import ReputationKey.Base.Run
import ReputationKey.Inbox.ReminderRelease

/-!
# Reminder release over every run of ticks

A slot is delivered at most once and a halfway reminder only before its target is due. A slot a
tick listed and could reach stays pending only for an answering reply, for a failed read within the
delay cap, or because the tick had no Google reads left.
-/

namespace ReputationKey.Inbox

open ReputationKey.Base

variable {rows rows' : TargetRows} {kind kind' : ResponseTargetReminderKind} {slot : ReminderSlot}
  {startedAt now : Int} {c : SlotTick}

/-! ## One slot -/

/-- The slot that was set. -/
@[simp] theorem TargetRows.slot_setSlot : (rows.setSlot kind slot).slot kind = some slot := by
  cases kind <;> rfl

/-- The other slot stays as it is. -/
theorem TargetRows.slot_setSlot_of_ne (other : kind' ≠ kind) :
    (rows.setSlot kind slot).slot kind' = rows.slot kind' := by
  cases kind <;> cases kind' <;> first | rfl | exact absurd rfl other

/-- Setting a slot leaves what the target measures and its facts. -/
theorem TargetRows.setSlot_keeps :
    (rows.setSlot kind slot).dueAt = rows.dueAt ∧
      (rows.setSlot kind slot).startAt = rows.startAt ∧
      (rows.setSlot kind slot).sourceRevision = rows.sourceRevision ∧
      (rows.setSlot kind slot).facts = rows.facts := by
  cases kind <;> exact ⟨rfl, rfl, rfl, rfl⟩

/-- A due slot is a pending one. -/
theorem TargetRows.dueSlot_eq_some (h : rows.dueSlot kind now = some slot) :
    rows.slot kind = some slot ∧ slot.state = .pending ∧ slot.scheduledFor ≤ now := by
  obtain ⟨hslot, hdue⟩ := Option.filter_eq_some_iff.1 h
  rw [Bool.and_eq_true, beq_iff_eq, decide_eq_true_eq] at hdue
  exact ⟨hslot, hdue⟩

/-- What a tick may do to the rows: nothing, or settle one pending slot at the time it is decided.
A superseded halfway is cancelled, every other slot is delivered with its fact. -/
inductive SlotStep (rows : TargetRows) (kind : ResponseTargetReminderKind) (now : Int) :
    TargetRows → Prop
  | kept : SlotStep rows kind now rows
  | cancelled (slot : ReminderSlot) (due : rows.dueSlot kind now = some slot)
      (superseded : kind = .halfway ∧ rows.dueAt ≤ now) :
      SlotStep rows kind now (rows.setSlot kind { slot with state := .cancelled now })
  | delivered (slot : ReminderSlot) (due : rows.dueSlot kind now = some slot)
      (current : kind = .halfway → now < rows.dueAt) :
      SlotStep rows kind now
        { rows.setSlot kind { slot with state := .delivered now } with
          facts := ⟨kind, slot.scheduledFor, now⟩ :: rows.facts }

/-- A release settles the slot, if it is due and the row can be reached. -/
theorem releaseSlot_step (rows : TargetRows) (kind : ResponseTargetReminderKind) (c : SlotTick) :
    SlotStep rows kind c.decidedAt (releaseSlot rows kind c).2 := by
  unfold releaseSlot
  split
  · next slot hdue =>
      split
      · unfold settleLockedSlot isSupersededReminder
        split
        · next hsuperseded =>
            rw [Bool.and_eq_true, beq_iff_eq, decide_eq_true_eq] at hsuperseded
            exact .cancelled slot hdue hsuperseded
        · next hcurrent =>
            rw [Bool.and_eq_true, beq_iff_eq, decide_eq_true_eq] at hcurrent
            exact .delivered slot hdue fun hkind ↦
              Int.not_le.1 fun hpassed ↦ hcurrent ⟨hkind, hpassed⟩
      · exact .kept
  · exact .kept

/-- The same of a slot whose reply head could not be read. -/
theorem afterLookupFailure_step (rows : TargetRows) (kind : ResponseTargetReminderKind)
    (slot : ReminderSlot) (c : SlotTick) :
    SlotStep rows kind c.decidedAt (afterLookupFailure rows kind slot c).2 := by
  unfold afterLookupFailure
  split
  · exact releaseSlot_step rows kind c
  · exact .kept

/-- The same of a slot Google is read for. -/
theorem checkSlot_step (rows : TargetRows) (kind : ResponseTargetReminderKind)
    (slot : ReminderSlot) (c : SlotTick) :
    SlotStep rows kind c.decidedAt (checkSlot rows kind slot c).2 := by
  unfold checkSlot
  split
  · exact afterLookupFailure_step rows kind slot c
  · split
    · exact .kept
    · exact .kept
    · exact releaseSlot_step rows kind c

/-- The same of every plan. -/
theorem followPlan_step (rows : TargetRows) (kind : ResponseTargetReminderKind)
    (slot : ReminderSlot) (c : SlotTick) (plan : ReminderReleasePlan) :
    SlotStep rows kind c.decidedAt (followPlan rows kind slot c plan).2 := by
  unfold followPlan
  cases plan with
  | releaseUnchecked => exact releaseSlot_step rows kind c
  | holdLocal => exact .kept
  | check =>
      simp only
      split
      · exact afterLookupFailure_step rows kind slot c
      · split
        · exact checkSlot_step rows kind slot c
        · exact .kept

/-! ## Why a slot stays pending -/

/-- A tick found a reply that answers the revision the target measures, observed at or after the
target's start. -/
def AnswerObserved (rows : TargetRows) (c : SlotTick) : Prop :=
  ∃ head, (c.heads = .found (some head) ∨ c.headsAfterRead = .found (some head)) ∧
    isAnsweringGoogleReply head = true ∧ head.materialReviewRevision = rows.sourceRevision ∧
    rows.startAt ≤ head.observedAt

/-- A tick could not read Google, or the reply heads, in a way a later one may. -/
def CouldNotRead (c : SlotTick) : Prop :=
  c.heads = .failed ∨ toDecisionOutcome c.check = .transientFailure ∨
    toDecisionOutcome c.check = .reviewMissing ∨ (c.check = .read ∧ c.headsAfterRead = .failed)

/-- A held slot is held for an answering reply. -/
theorem answerObserved_of_holds {head : Option ReminderReplyHead}
    (h : holdsForAnsweringReply rows.scope head = true)
    (found : c.heads = .found head ∨ c.headsAfterRead = .found head) : AnswerObserved rows c := by
  unfold holdsForAnsweringReply at h
  split at h
  · next answer targetStartAt hstart =>
      cases hstart
      simp only [Bool.and_eq_true, beq_iff_eq, decide_eq_true_eq] at h
      exact ⟨answer, found, h.1.1, h.1.2, h.2⟩
  · cases h

/-- What one turn of a slot came to: settled, or left pending for one of four reasons. -/
inductive TurnResult (rows : TargetRows) (kind : ResponseTargetReminderKind) (slot : ReminderSlot)
    (c : SlotTick) : SlotOutcome → SlotState → Prop
  | released (current : kind = .halfway → c.decidedAt < rows.dueAt) :
      TurnResult rows kind slot c .released (.delivered c.decidedAt)
  | cancelled (superseded : kind = .halfway ∧ rows.dueAt ≤ c.decidedAt) :
      TurnResult rows kind slot c .cancelledSuperseded (.cancelled c.decidedAt)
  | held (outcome : SlotOutcome) (isHold : outcome = .heldLocal ∨ outcome = .heldAfterRead)
      (answered : AnswerObserved rows c) : TurnResult rows kind slot c outcome .pending
  | deferred (outcome : SlotOutcome) (isDeferral : outcome = .deferred ∨ outcome = .failed)
      (unread : CouldNotRead c)
      (early : c.decidedAt < slot.scheduledFor + reminderGoogleCheckDelayCapMs) :
      TurnResult rows kind slot c outcome .pending
  | outOfReads (spent : c.readsLeft = false) : TurnResult rows kind slot c .outOfReads .pending
  | skipped (unreached : c.reachesRow = false) : TurnResult rows kind slot c .skipped .pending

section TurnResults

variable {outcome : SlotOutcome} {state : SlotState}

/-- A held slot is held for an answering reply. -/
theorem TurnResult.answered (result : TurnResult rows kind slot c outcome state)
    (held : outcome = .heldLocal ∨ outcome = .heldAfterRead) : AnswerObserved rows c := by
  cases result with
  | held outcome isHold answered => exact answered
  | deferred outcome isDeferral unread early =>
      rcases isDeferral with rfl | rfl <;> rcases held with h | h <;> cases h
  | _ => rcases held with h | h <;> cases h

/-- A deferred slot could not be read, and is within the delay cap. -/
theorem TurnResult.unread (result : TurnResult rows kind slot c outcome state)
    (deferred : outcome = .deferred ∨ outcome = .failed) :
    CouldNotRead c ∧ c.decidedAt < slot.scheduledFor + reminderGoogleCheckDelayCapMs := by
  cases result with
  | deferred outcome isDeferral unread early => exact ⟨unread, early⟩
  | held outcome isHold answered =>
      rcases isHold with rfl | rfl <;> rcases deferred with h | h <;> cases h
  | _ => rcases deferred with h | h <;> cases h

/-- After the cap a turn that reaches the slot with reads left settles it, unless a reply already
answers. -/
theorem TurnResult.settled (result : TurnResult rows kind slot c outcome state)
    (late : slot.scheduledFor + reminderGoogleCheckDelayCapMs ≤ c.decidedAt)
    (readsLeft : c.readsLeft = true) (reaches : c.reachesRow = true)
    (unanswered : ¬ AnswerObserved rows c) :
    state =
      if kind = .halfway ∧ rows.dueAt ≤ c.decidedAt then .cancelled c.decidedAt
      else .delivered c.decidedAt := by
  cases result with
  | released current =>
      rw [if_neg]
      rintro ⟨hkind, hpassed⟩
      have hbefore := current hkind
      omega
  | cancelled superseded => rw [if_pos superseded]
  | held outcome isHold answered => exact absurd answered unanswered
  | deferred outcome isDeferral unread early => omega
  | outOfReads spent =>
      rw [readsLeft] at spent
      cases spent
  | skipped unreached =>
      rw [reaches] at unreached
      cases unreached

end TurnResults

/-- A result, as the turn's outcome and the state its slot is left in. -/
def HasResult (rows : TargetRows) (kind : ResponseTargetReminderKind) (slot : ReminderSlot)
    (c : SlotTick) (done : SlotOutcome × TargetRows) : Prop :=
  ∃ state, TurnResult rows kind slot c done.1 state ∧
    done.2.slot kind = some { slot with state := state }

/-- A turn that changes nothing leaves a pending slot pending. -/
theorem hasResult_of_pending (isSlot : rows.slot kind = some slot) (pending : slot.state = .pending)
    {outcome : SlotOutcome} (result : TurnResult rows kind slot c outcome .pending) :
    HasResult rows kind slot c (outcome, rows) :=
  ⟨.pending, result, by rw [isSlot, ← pending]⟩

/-- What a release comes to. -/
theorem releaseSlot_result (due : rows.dueSlot kind c.decidedAt = some slot) :
    HasResult rows kind slot c (releaseSlot rows kind c) := by
  obtain ⟨hslot, hpending, -⟩ := TargetRows.dueSlot_eq_some due
  unfold releaseSlot
  rw [due]
  simp only
  split
  · unfold settleLockedSlot isSupersededReminder
    split
    · next hsuperseded =>
        rw [Bool.and_eq_true, beq_iff_eq, decide_eq_true_eq] at hsuperseded
        exact ⟨_, .cancelled hsuperseded, TargetRows.slot_setSlot⟩
    · next hcurrent =>
        rw [Bool.and_eq_true, beq_iff_eq, decide_eq_true_eq] at hcurrent
        refine ⟨_, .released fun hkind ↦ Int.not_le.1 fun hpassed ↦ hcurrent ⟨hkind, hpassed⟩, ?_⟩
        cases kind <;> rfl
  · next hunreached =>
      exact hasResult_of_pending hslot hpending (.skipped (Bool.not_eq_true _ ▸ hunreached))

/-- What a failed lookup of heads comes to. -/
theorem afterLookupFailure_result (due : rows.dueSlot kind c.decidedAt = some slot)
    (unread : CouldNotRead c) :
    HasResult rows kind slot c (afterLookupFailure rows kind slot c) := by
  obtain ⟨hslot, hpending, -⟩ := TargetRows.dueSlot_eq_some due
  unfold afterLookupFailure decideReminderAfterGoogleCheck
  simp only
  by_cases hearly : c.decidedAt < slot.scheduledFor + reminderGoogleCheckDelayCapMs
  · rw [if_pos hearly]
    exact hasResult_of_pending hslot hpending (.deferred _ (Or.inr rfl) unread hearly)
  · rw [if_neg hearly]
    exact releaseSlot_result due

/-- What a read of Google comes to. -/
theorem checkSlot_result (due : rows.dueSlot kind c.decidedAt = some slot) :
    HasResult rows kind slot c (checkSlot rows kind slot c) := by
  obtain ⟨hslot, hpending, -⟩ := TargetRows.dueSlot_eq_some due
  unfold checkSlot
  split
  · next hfailed =>
      split at hfailed
      · next hread =>
          exact afterLookupFailure_result due (Or.inr (Or.inr (Or.inr ⟨hread, hfailed⟩)))
      · cases hfailed
  · next head hfound =>
      unfold decideReminderAfterGoogleCheck
      cases houtcome : toDecisionOutcome c.check with
      | read =>
          have hread : c.check = .read := by
            unfold toDecisionOutcome at houtcome
            split at houtcome <;> first | assumption | cases houtcome
          rw [if_pos hread] at hfound
          simp only
          by_cases hholds : holdsForAnsweringReply rows.scope head = true
          · rw [if_pos hholds]
            exact hasResult_of_pending hslot hpending
              (.held _ (Or.inr rfl) (answerObserved_of_holds hholds (Or.inr hfound)))
          · rw [if_neg hholds]
            exact releaseSlot_result due
      | transientFailure =>
          simp only
          by_cases hearly : c.decidedAt < slot.scheduledFor + reminderGoogleCheckDelayCapMs
          · rw [if_pos hearly]
            exact hasResult_of_pending hslot hpending
              (.deferred _ (Or.inl rfl) (Or.inr (Or.inl houtcome)) hearly)
          · rw [if_neg hearly]
            exact releaseSlot_result due
      | reviewMissing =>
          simp only
          by_cases hearly : c.decidedAt < slot.scheduledFor + reminderGoogleCheckDelayCapMs
          · rw [if_pos hearly]
            exact hasResult_of_pending hslot hpending
              (.deferred _ (Or.inl rfl) (Or.inr (Or.inr (Or.inl houtcome))) hearly)
          · rw [if_neg hearly]
            exact releaseSlot_result due
      | replyUnreadable => exact releaseSlot_result due
      | permanentFailure => exact releaseSlot_result due
      | notCheckable => exact releaseSlot_result due

/-- What a listed slot's turn comes to. -/
theorem followPlan_result (due : rows.dueSlot kind c.decidedAt = some slot) (startedAt : Int) :
    HasResult rows kind slot c
      (followPlan rows kind slot c
        (planReminderRelease rows.scope rows.targetKind kind (some rows.dueAt) startedAt
          c.heads.head)) := by
  obtain ⟨hslot, hpending, -⟩ := TargetRows.dueSlot_eq_some due
  unfold planReminderRelease
  split
  · exact releaseSlot_result due
  · split
    · exact releaseSlot_result due
    · split
      · next hholds =>
          have hheads : c.heads = .found c.heads.head := by
            cases hlookup : c.heads with
            | found head => rfl
            | failed =>
                rw [hlookup] at hholds
                cases hholds
          exact hasResult_of_pending hslot hpending
            (.held _ (Or.inl rfl) (answerObserved_of_holds hholds (Or.inl hheads)))
      · unfold followPlan
        simp only
        split
        · next hfailed => exact afterLookupFailure_result due (Or.inl hfailed)
        · split
          · exact checkSlot_result due
          · next hspent =>
              exact hasResult_of_pending hslot hpending
                (.outOfReads (Bool.not_eq_true _ ▸ hspent))

/-! ## Every run -/

/-- One slot's turn in a tick. -/
structure SlotTurn where
  kind : ResponseTargetReminderKind
  startedAt : Int
  circumstances : SlotTick
  deriving DecidableEq, Repr

/-- The rows after a turn. -/
def TargetRows.take (rows : TargetRows) (turn : SlotTurn) : TargetRows :=
  ((tickSlot rows turn.kind turn.startedAt turn.circumstances).map (·.2)).getD rows

/-- Runs of ticks over the slots of one measured target. -/
def reminderSystem : ReadSystem TargetRows SlotTurn where
  init rows := ∃ targetKind policy startAt snapshot sourceRevision recordedAt,
    buildResponseTargetSnapshot targetKind policy startAt = .ok snapshot ∧
      rows = .record snapshot sourceRevision recordedAt
  step _ rows turn rows' :=
    turn.startedAt ≤ turn.circumstances.decidedAt ∧ rows' = rows.take turn

/-- The facts of a target are of distinct settled slots, and a halfway one is from before the target
was due. -/
structure ReleaseInvariant (rows : TargetRows) : Prop where
  once : (rows.facts.map (·.reminderKind)).Nodup
  settled : ∀ fact ∈ rows.facts, ∃ slot, rows.slot fact.reminderKind = some slot ∧
    slot.state ≠ .pending
  beforeDue : ∀ fact ∈ rows.facts, fact.reminderKind = .halfway → fact.occurredAt < rows.dueAt

/-- A step of one slot keeps the invariant. -/
theorem ReleaseInvariant.step (inv : ReleaseInvariant rows) (step : SlotStep rows kind now rows') :
    ReleaseInvariant rows' := by
  have hkeeps : ∀ state slot, rows.dueSlot kind now = some slot → state ≠ .pending →
      ∀ fact ∈ rows.facts, ∃ slot', (rows.setSlot kind { slot with state := state }).slot
        fact.reminderKind = some slot' ∧ slot'.state ≠ .pending := by
    intro state slot hdue hstate fact hfact
    by_cases hkind : fact.reminderKind = kind
    · rw [hkind]
      exact ⟨_, TargetRows.slot_setSlot, hstate⟩
    · rw [TargetRows.slot_setSlot_of_ne hkind]
      exact inv.settled fact hfact
  cases step with
  | kept => exact inv
  | cancelled slot due superseded =>
      have hdueAt : (rows.setSlot kind { slot with state := .cancelled now }).dueAt = rows.dueAt :=
        TargetRows.setSlot_keeps.1
      have hfacts : (rows.setSlot kind { slot with state := .cancelled now }).facts = rows.facts :=
        TargetRows.setSlot_keeps.2.2.2
      refine ⟨?_, ?_, ?_⟩
      · rw [hfacts]
        exact inv.once
      · rw [hfacts]
        exact hkeeps _ slot due (fun h ↦ by cases h)
      · rw [hfacts, hdueAt]
        exact inv.beforeDue
  | delivered slot due current =>
      have hdelivered : ∀ k, TargetRows.slot
          { rows.setSlot kind { slot with state := .delivered now } with
            facts := ⟨kind, slot.scheduledFor, now⟩ :: rows.facts } k =
          (rows.setSlot kind { slot with state := .delivered now }).slot k := by
        intro k
        cases k <;> rfl
      have hdueAt : (rows.setSlot kind { slot with state := .delivered now }).dueAt = rows.dueAt :=
        TargetRows.setSlot_keeps.1
      obtain ⟨hslot, hpending, -⟩ := TargetRows.dueSlot_eq_some due
      refine ⟨?_, fun fact hfact ↦ ?_, fun fact hfact hhalfway ↦ ?_⟩
      · show ((kind :: rows.facts.map (·.reminderKind))).Nodup
        rw [List.nodup_cons]
        refine ⟨fun hmem ↦ ?_, inv.once⟩
        obtain ⟨fact, hfact, hkind⟩ := List.mem_map.1 hmem
        obtain ⟨slot', hslot', hsettled⟩ := inv.settled fact hfact
        rw [hkind, hslot, Option.some.injEq] at hslot'
        rw [← hslot'] at hsettled
        exact hsettled hpending
      · rw [hdelivered]
        rcases List.mem_cons.1 hfact with rfl | hfact
        · exact ⟨_, TargetRows.slot_setSlot, (fun h ↦ by cases h)⟩
        · exact hkeeps _ slot due (fun h ↦ by cases h) fact hfact
      · show fact.occurredAt < (rows.setSlot kind { slot with state := .delivered now }).dueAt
        rw [hdueAt]
        rcases List.mem_cons.1 hfact with rfl | hfact
        · exact current hhalfway
        · exact inv.beforeDue fact hfact hhalfway

/-- The rows after a turn are those of a slot step. -/
theorem take_step (rows : TargetRows) (turn : SlotTurn) :
    SlotStep rows turn.kind turn.circumstances.decidedAt (rows.take turn) := by
  unfold TargetRows.take tickSlot
  cases rows.dueSlot turn.kind turn.startedAt with
  | none => exact .kept
  | some slot =>
      rw [Option.filter_some]
      split
      · exact followPlan_step rows turn.kind slot turn.circumstances _
      · exact .kept

/-- A slot that is due when the tick starts is due when its turn is decided. -/
theorem TargetRows.dueSlot_later (due : rows.dueSlot kind startedAt = some slot)
    (later : startedAt ≤ now) : rows.dueSlot kind now = some slot := by
  obtain ⟨hslot, hpending, hbefore⟩ := TargetRows.dueSlot_eq_some due
  unfold TargetRows.dueSlot
  rw [hslot, Option.filter_some, if_pos]
  rw [Bool.and_eq_true, beq_iff_eq, decide_eq_true_eq]
  exact ⟨hpending, by omega⟩

section Runs

variable {h : List (Move TargetRows SlotTurn)}

/-- The facts of every run. -/
theorem releaseInvariant_of_run (r : Run reminderSystem h rows) : ReleaseInvariant rows := by
  refine r.invariant ?_ ?_
  · rintro rows ⟨targetKind, policy, startAt, snapshot, sourceRevision, recordedAt, -, rfl⟩
    exact ⟨.nil, (fun fact hfact ↦ by cases hfact), (fun fact hfact ↦ by cases hfact)⟩
  · rintro h rows turn rows' - inv ⟨-, rfl⟩
    exact inv.step (take_step rows turn)

/-- Reminder release, over every run of ticks with any outcomes. Each slot is delivered at most
once, and a halfway reminder only before its target is due. A listed slot is held only where the
tick found a reply that answers the revision at or after the target's start, and deferred only
where a read failed before the delay cap, unless the tick has no Google reads left; so at or after
the cap a tick that reaches it with reads left delivers it, or cancels a halfway whose target has
passed, unless it found such a reply. -/
theorem reminderRelease_protocol (r : Run reminderSystem h rows) :
    (rows.facts.map (·.reminderKind)).Nodup ∧
      (∀ fact ∈ rows.facts, fact.reminderKind = .halfway → fact.occurredAt < rows.dueAt) ∧
      ∀ m ∈ h, ∀ slot, m.pre.dueSlot m.event.kind m.event.startedAt = some slot →
        m.event.circumstances.listed = true →
        ∃ outcome, tickSlot m.pre m.event.kind m.event.startedAt m.event.circumstances =
            some (outcome, m.post) ∧
          (outcome = .heldLocal ∨ outcome = .heldAfterRead →
            AnswerObserved m.pre m.event.circumstances) ∧
          (outcome = .deferred ∨ outcome = .failed → CouldNotRead m.event.circumstances ∧
            m.event.circumstances.decidedAt <
              slot.scheduledFor + reminderGoogleCheckDelayCapMs) ∧
          (slot.scheduledFor + reminderGoogleCheckDelayCapMs ≤ m.event.circumstances.decidedAt →
            m.event.circumstances.readsLeft = true → m.event.circumstances.reachesRow = true →
            ¬ AnswerObserved m.pre m.event.circumstances →
            m.post.slot m.event.kind =
              some
                { slot with
                  state :=
                    if m.event.kind = .halfway ∧ m.pre.dueAt ≤ m.event.circumstances.decidedAt then
                      .cancelled m.event.circumstances.decidedAt
                    else .delivered m.event.circumstances.decidedAt }) := by
  have inv := releaseInvariant_of_run r
  refine ⟨inv.once, inv.beforeDue, fun m hm slot hdue hlisted ↦ ?_⟩
  obtain ⟨-, -, hlater, hpost⟩ := r.of_mem hm
  have hturn : tickSlot m.pre m.event.kind m.event.startedAt m.event.circumstances =
      some (followPlan m.pre m.event.kind slot m.event.circumstances
        (planReminderRelease m.pre.scope m.pre.targetKind m.event.kind (some m.pre.dueAt)
          m.event.startedAt m.event.circumstances.heads.head)) := by
    unfold tickSlot
    rw [hdue, Option.filter_some, if_pos hlisted]
    rfl
  obtain ⟨state, hresult, hstate⟩ :=
    followPlan_result (TargetRows.dueSlot_later hdue hlater) m.event.startedAt
  unfold TargetRows.take at hpost
  rw [hturn] at hpost
  change m.post = (followPlan _ _ _ _ _).2 at hpost
  rw [← hpost] at hstate
  refine ⟨_, hturn.trans (congrArg some (Prod.ext rfl hpost.symm)), hresult.answered,
    hresult.unread, fun late readsLeft reaches unanswered ↦ ?_⟩
  rw [hstate, hresult.settled late readsLeft reaches unanswered]

end Runs

section Sample

/-- A target of a Google review that lasts one minute, recorded at its start. -/
def sampleTarget : TargetRows :=
  { targetKind := .googleReviewResponse
    sourceRevision := 1
    startAt := 0
    dueAt := 60000
    halfway := some ⟨30000, .pending⟩
    targetPassed := some ⟨60000, .pending⟩
    facts := [] }

/-- The target is one a policy builds. -/
theorem sampleTarget_init : reminderSystem.init sampleTarget :=
  ⟨.googleReviewResponse, ⟨1, .organizationPolicy, 1⟩, 0,
    ⟨.googleReviewResponse, ⟨1, .organizationPolicy, 1⟩, 0, 60000,
      [⟨.halfway, 30000⟩, ⟨.targetPassed, 60000⟩]⟩, 1, 0, by decide, by decide⟩

/-- A tick that finds no reply and cannot read Google. -/
def sampleUnread (readsLeft : Bool) (decidedAt : Int) : SlotTick :=
  ⟨true, .found none, readsLeft, .unavailable true, .found none, decidedAt, true⟩

/-- A slot Google cannot be read for goes out fifteen minutes late. -/
theorem reminderRelease_protocol_after_cap :
    (sampleTarget.take ⟨.targetPassed, 960000, sampleUnread true 960000⟩).targetPassed =
      some ⟨60000, .delivered 960000⟩ := by
  have hrun : Run reminderSystem
      [⟨sampleTarget, ⟨.targetPassed, 960000, sampleUnread true 960000⟩,
        sampleTarget.take ⟨.targetPassed, 960000, sampleUnread true 960000⟩⟩]
      (sampleTarget.take ⟨.targetPassed, 960000, sampleUnread true 960000⟩) :=
    .next (.start sampleTarget_init) ⟨by decide, rfl⟩
  obtain ⟨-, -, hturns⟩ := reminderRelease_protocol hrun
  obtain ⟨outcome, -, -, -, hsettled⟩ :=
    hturns _ (List.mem_cons_self ..) ⟨60000, .pending⟩ (by decide) rfl
  refine (hsettled (by decide) rfl rfl ?_).trans (by decide)
  rintro ⟨head, hfound | hfound, -⟩ <;> cases hfound

/-- A tick without Google reads leaves a slot pending however late it is, and a halfway slot whose
reads failed is cancelled once its target has passed. -/
theorem slot_left_pending_after_cap :
    (¬ ∀ (h : List (Move TargetRows SlotTurn)) (rows : TargetRows), Run reminderSystem h rows →
      ∀ m ∈ h, ∀ slot, m.pre.dueSlot m.event.kind m.event.startedAt = some slot →
        m.event.circumstances.listed = true → m.event.circumstances.reachesRow = true →
        ¬ AnswerObserved m.pre m.event.circumstances → m.post.slot m.event.kind = some slot →
        m.event.circumstances.decidedAt < slot.scheduledFor + reminderGoogleCheckDelayCapMs) ∧
      (sampleTarget.take ⟨.halfway, 930000, sampleUnread true 930000⟩).halfway =
        some ⟨30000, .cancelled 930000⟩ := by
  refine ⟨fun bounded ↦ ?_, by decide⟩
  have hrun : Run reminderSystem
      [⟨sampleTarget, ⟨.targetPassed, 960000, sampleUnread false 960000⟩, sampleTarget⟩]
      sampleTarget :=
    .next (.start sampleTarget_init) ⟨by decide, by decide⟩
  have hearly := bounded _ _ hrun _ (List.mem_cons_self ..) ⟨60000, .pending⟩ (by decide) rfl rfl
    (by rintro ⟨head, hfound | hfound, -⟩ <;> cases hfound) rfl
  exact absurd hearly (by decide)

end Sample

end ReputationKey.Inbox
