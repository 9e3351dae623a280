import Mathlib.Data.List.Pairwise
import ReputationKey.Review.ReplyRun

/-!
# The open attempt of a reply

The rows of a reply hold at most one publication attempt whose outcome is open, and it is the row
the reply's cycle and attempt counters point at. The invariant says more: no attempt row is ahead of
the counters, keys are unique, and the reply awaits an outcome whenever an attempt is open. Each
kind of move keeps it, so every run does, and a claim, which starts from a reply that awaits
nothing, never finds an open attempt.
-/

namespace ReputationKey.Review

open ReputationKey.Base

/-- An attempt row of the reply, not ahead of the reply's counters. -/
def PublicationAttempt.WithinCounters (row : Reply) (a : PublicationAttempt) : Prop :=
  a.replyId = row.id ∧ a.publicationCycle ≤ row.publicationCycle ∧
    (a.publicationCycle = row.publicationCycle → a.attemptNumber ≤ row.publicationAttempts)

/-- The attempt the reply points at is open only while the reply awaits its outcome. -/
def PublicationAttempt.IsAwaited (row : Reply) (a : PublicationAttempt) : Prop :=
  a.isCurrentOf row ∧ awaitsOutcome row.publicationState row.publicationLastErrorClass

/-- What holds between the attempt rows and the reply in every reachable state. -/
structure OpenAttemptInvariant (s : Store) : Prop where
  owned : ∀ a ∈ s.attempts, ∃ row, s.reply = some row ∧ a.WithinCounters row ∧
    row.publicationState ≠ none
  numbered : ∀ a ∈ s.attempts, 1 ≤ a.attemptNumber
  uniqueKeys : s.attempts.Pairwise fun a b ↦ ¬ a.SameKey b
  openIsAwaited : ∀ a ∈ s.attempts, isOpenAttemptOutcome a.outcome →
    ∃ row, s.reply = some row ∧ a.IsAwaited row

variable {platform : Platform} {actor : Actor} {s s' : Store} {row : Reply}

/-- Two attempts the same reply points at have the same key. -/
theorem PublicationAttempt.sameKey_of_isCurrentOf {a b : PublicationAttempt}
    (ha : a.isCurrentOf row) (hb : b.isCurrentOf row) : a.SameKey b := by
  simp only [isCurrentOf, Bool.and_eq_true, beq_iff_eq] at ha hb
  exact ⟨ha.1.1.trans hb.1.1.symm, ha.1.2.trans hb.1.2.symm, ha.2.trans hb.2.symm⟩

/-- The reply a row of the same key is pointed at by. -/
theorem PublicationAttempt.SameKey.isCurrentOf {a b : PublicationAttempt} (h : a.SameKey b)
    (hb : b.isCurrentOf row) : a.isCurrentOf row := by
  simp only [PublicationAttempt.isCurrentOf, Bool.and_eq_true, beq_iff_eq] at hb ⊢
  exact ⟨⟨h.1.trans hb.1.1, h.2.1.trans hb.1.2⟩, h.2.2.trans hb.2⟩

/-- Setting outcomes keeps every key. -/
theorem SettlesAttempts.sameKey {selects : PublicationAttempt → Bool}
    {set : PublicationAttempt → PublicationAttempt} {awaits : Bool}
    (settles : SettlesAttempts s row selects set awaits) (a : PublicationAttempt) :
    (if selects a then set a else a).SameKey a := by
  split
  · rw [settles.keepsEvidence a]
    exact ⟨rfl, rfl, rfl⟩
  · exact ⟨rfl, rfl, rfl⟩

/-- Unique keys make a row of a shared key the row itself. -/
theorem OpenAttemptInvariant.eq_of_sameKey (inv : OpenAttemptInvariant s) {a b : PublicationAttempt}
    (ha : a ∈ s.attempts) (hb : b ∈ s.attempts) (key : a.SameKey b) : a = b := by
  by_contra hne
  have hsymm : Std.Symm fun a b : PublicationAttempt ↦ ¬ a.SameKey b :=
    ⟨fun a b hab hba ↦ hab ⟨hba.1.symm, hba.2.1.symm, hba.2.2.symm⟩⟩
  exact inv.uniqueKeys.forall ha hb hne key

/-- A reply that awaits nothing has no open attempt. -/
theorem OpenAttemptInvariant.no_open (inv : OpenAttemptInvariant s) (present : s.reply = some row)
    (settled : awaitsOutcome row.publicationState row.publicationLastErrorClass = false) :
    ∀ a ∈ s.attempts, ¬ isOpenAttemptOutcome a.outcome := by
  intro a ha hopen
  obtain ⟨found, hfound, -, hawaits⟩ := inv.openIsAwaited a ha hopen
  rw [present] at hfound
  cases hfound
  rw [settled] at hawaits
  cases hawaits

/-- An open attempt is the one the reply points at. -/
theorem OpenAttemptInvariant.isCurrentOf (inv : OpenAttemptInvariant s)
    (present : s.reply = some row) {a : PublicationAttempt} (ha : a ∈ s.attempts)
    (hopen : isOpenAttemptOutcome a.outcome) : a.isCurrentOf row := by
  obtain ⟨found, hfound, hcurrent, -⟩ := inv.openIsAwaited a ha hopen
  rw [present] at hfound
  cases hfound
  exact hcurrent

/-- The counters an attempt stays within, under any row with the same counters. -/
theorem OpenAttemptInvariant.withinCounters (inv : OpenAttemptInvariant s)
    (present : s.reply = some row) {a : PublicationAttempt} (ha : a ∈ s.attempts) :
    a.WithinCounters row := by
  obtain ⟨found, hfound, hwithin, -⟩ := inv.owned a ha
  rw [present] at hfound
  cases hfound
  exact hwithin

/-- A store that differs in its attempts' outcomes only keeps the invariant when its reply is
still at the same counters and awaits every attempt left open. -/
theorem OpenAttemptInvariant.of_settled (inv : OpenAttemptInvariant s) {new : Reply}
    (selects : PublicationAttempt → Bool) (set : PublicationAttempt → PublicationAttempt)
    (attempts : s'.attempts = s.attempts.map fun a ↦ if selects a then set a else a)
    (reply : s'.reply = some new) (present : s.reply = some row)
    (sameCounters : new.id = row.id ∧ new.publicationCycle = row.publicationCycle ∧
      new.publicationAttempts = row.publicationAttempts)
    (hasState : row.publicationState ≠ none → new.publicationState ≠ none)
    (sameKey : ∀ a, (if selects a then set a else a).SameKey a)
    (awaited : ∀ a ∈ s.attempts,
      isOpenAttemptOutcome (if selects a then set a else a).outcome →
        a.isCurrentOf row ∧ awaitsOutcome new.publicationState new.publicationLastErrorClass) :
    OpenAttemptInvariant s' := by
  have hpointer : PublicationAttempt.isCurrentOf new = PublicationAttempt.isCurrentOf row := by
    funext a
    simp [PublicationAttempt.isCurrentOf, sameCounters]
  refine ⟨?_, ?_, ?_, ?_⟩
  · rw [attempts]
    intro a' ha'
    obtain ⟨a, ha, rfl⟩ := List.mem_map.1 ha'
    obtain ⟨found, hfound, hwithin, hstate⟩ := inv.owned a ha
    rw [present] at hfound
    cases hfound
    obtain ⟨hid, hcycle, hnumber⟩ := sameKey a
    refine ⟨new, reply, ?_, hasState hstate⟩
    unfold PublicationAttempt.WithinCounters at hwithin ⊢
    rw [hid, hcycle, hnumber, sameCounters.1, sameCounters.2.1, sameCounters.2.2]
    exact hwithin
  · rw [attempts]
    intro a' ha'
    obtain ⟨a, ha, rfl⟩ := List.mem_map.1 ha'
    rw [(sameKey a).2.2]
    exact inv.numbered a ha
  · rw [attempts, List.pairwise_map]
    refine inv.uniqueKeys.imp fun {a b} hne hkey ↦ hne ?_
    have ha := sameKey a
    have hb := sameKey b
    exact ⟨ha.1.symm.trans (hkey.1.trans hb.1), ha.2.1.symm.trans (hkey.2.1.trans hb.2.1),
      ha.2.2.symm.trans (hkey.2.2.trans hb.2.2)⟩
  · rw [attempts]
    intro a' ha' hopen
    obtain ⟨a, ha, rfl⟩ := List.mem_map.1 ha'
    obtain ⟨hcurrent, hawaits⟩ := awaited a ha hopen
    exact ⟨new, reply, (sameKey a).isCurrentOf (hpointer ▸ hcurrent), hawaits⟩

/-- The invariant reads nothing but the reply and the attempts. -/
theorem OpenAttemptInvariant.congr (inv : OpenAttemptInvariant s) (reply : s'.reply = s.reply)
    (attempts : s'.attempts = s.attempts) : OpenAttemptInvariant s' := by
  refine ⟨?_, ?_, ?_, ?_⟩
  · rw [attempts, reply]
    exact inv.owned
  · rw [attempts]
    exact inv.numbered
  · rw [attempts]
    exact inv.uniqueKeys
  · rw [attempts, reply]
    exact inv.openIsAwaited

/-- Rows with no attempt satisfy the invariant, whatever the reply. -/
theorem OpenAttemptInvariant.of_nil (none : s.attempts = []) : OpenAttemptInvariant s := by
  refine ⟨?_, ?_, ?_, ?_⟩ <;> simp [none]

/-- A reply with no publication state has no attempts. -/
theorem OpenAttemptInvariant.attempts_eq_nil (inv : OpenAttemptInvariant s)
    (never : ∀ row, s.reply = some row → row.publicationState = none) : s.attempts = [] := by
  refine List.eq_nil_iff_forall_not_mem.2 fun a ha ↦ ?_
  obtain ⟨row, hrow, -, hstate⟩ := inv.owned a ha
  exact hstate (never row hrow)

/-- A publication write keeps the invariant: what stays open is awaited. -/
theorem OpenAttemptInvariant.publication (inv : OpenAttemptInvariant s) {status : ReplyStatus}
    {state : PublicationStateInput} {errorClass : Option PublicationFailureClass}
    {dueAt : Option Int} {selects : PublicationAttempt → Bool}
    {set : PublicationAttempt → PublicationAttempt} (present : s.reply = some row)
    (change : PublicationChange row status state errorClass)
    (settles : SettlesAttempts s row selects set (awaitsOutcome state errorClass)) :
    OpenAttemptInvariant
      ((s.writeReply row (row.withPublication status state errorClass dueAt)).setAttempts
        selects set) := by
  refine inv.of_settled selects set rfl rfl present ⟨rfl, rfl, rfl⟩ change.hasState
    settles.sameKey (fun a ha hopen ↦ ?_)
  -- A selected row shares the key of a current or open row, so it is the current one.
  have hcurrent : a.isCurrentOf row := by
    by_cases hsel : selects a
    · obtain ⟨b, hb, hkey, hcurrent | hbopen⟩ := settles.selected a ha hsel
      · exact hkey.isCurrentOf hcurrent
      · exact hkey.isCurrentOf (inv.isCurrentOf present hb hbopen)
    · rw [if_neg hsel] at hopen
      exact inv.isCurrentOf present ha hopen
  refine ⟨hcurrent, ?_⟩
  rcases settles.leavesOpen a ha hcurrent hopen with
    hawaits | hzero | ⟨hbefore, hsettled⟩ | ⟨b, hb, hne, hother⟩
  · exact hawaits
  · have hnumbered := inv.numbered a ha
    omega
  · exact absurd hbefore (inv.no_open present (by simpa using hsettled) a ha)
  · refine absurd (inv.eq_of_sameKey hb ha ?_) hne
    rcases hother with hb' | hb'
    · exact PublicationAttempt.sameKey_of_isCurrentOf hb' hcurrent
    · exact PublicationAttempt.sameKey_of_isCurrentOf (inv.isCurrentOf present hb hb') hcurrent

/-- A claim adds the attempt the reply now points at, to rows with nothing open. -/
theorem OpenAttemptInvariant.claim (inv : OpenAttemptInvariant s) {attempt : PublicationAttempt}
    {now : Int} (present : s.reply = some row) (read : row.publicationState = some .authorized)
    (key : attempt.isCurrentOf (claimedReply row now)) (isSending : attempt.outcome = .sending)
    (fresh : ∀ a ∈ s.attempts, ¬ a.isCurrentOf (claimedReply row now)) :
    OpenAttemptInvariant
      { s.writeReply row (claimedReply row now) with attempts := attempt :: s.attempts } := by
  have hclosed := inv.no_open present (by simp [awaitsOutcome, isUncertainPublicationState, read])
  have hkey := key
  simp only [PublicationAttempt.isCurrentOf, Bool.and_eq_true, beq_iff_eq] at hkey
  refine ⟨?_, ?_, ?_, ?_⟩
  · intro a ha
    refine ⟨_, rfl, ?_, fun h ↦ by cases h⟩
    rcases List.mem_cons.1 ha with rfl | ha
    · exact ⟨hkey.1.1, hkey.1.2.le, fun _ ↦ hkey.2.le⟩
    · obtain ⟨hid, hcycle, hnumber⟩ := inv.withinCounters present ha
      exact ⟨hid, hcycle, fun h ↦ Nat.le_succ_of_le (hnumber h)⟩
  · intro a ha
    rcases List.mem_cons.1 ha with rfl | ha
    · rw [hkey.2]
      exact Nat.succ_le_succ (Nat.zero_le _)
    · exact inv.numbered a ha
  · refine List.Pairwise.cons (fun a ha hsame ↦ fresh a ha ?_) inv.uniqueKeys
    refine PublicationAttempt.SameKey.isCurrentOf ?_ key
    exact ⟨hsame.1.symm, hsame.2.1.symm, hsame.2.2.symm⟩
  · intro a ha hopen
    rcases List.mem_cons.1 ha with rfl | ha
    · exact ⟨_, rfl, key, rfl⟩
    · exact absurd hopen (hclosed a ha)

/-- An authorization opens a cycle with no attempts, over rows with nothing open. -/
theorem OpenAttemptInvariant.authorize (inv : OpenAttemptInvariant s) {text : Text}
    {aiGenerated : Bool} {occurredAt : Int} {authorizations : List PublicationAuthorization}
    (present : s.reply = some row)
    (settled : awaitsOutcome row.publicationState row.publicationLastErrorClass = false) :
    OpenAttemptInvariant
      { s.writeReply row
          (authorizedReply row text aiGenerated (row.publicationCycle + 1) occurredAt) with
        authorizations := authorizations } := by
  have hclosed := inv.no_open present settled
  refine ⟨fun a ha ↦ ?_, inv.numbered, inv.uniqueKeys, fun a ha hopen ↦ ?_⟩
  · obtain ⟨hid, hcycle, -⟩ := inv.withinCounters present ha
    refine ⟨_, rfl, ⟨hid, Nat.le_succ_of_le hcycle, fun h ↦ ?_⟩, fun h ↦ by cases h⟩
    change a.publicationCycle = row.publicationCycle + 1 at h
    omega
  · exact absurd hopen (hclosed a ha)

/-- A command that authorizes starts from a reply that awaits nothing. -/
theorem awaitsOutcome_of_authorizing {command : ReplyCommand}
    (authorizes : command = .approve ∨ command = .retryPublication ∨ command = .editPublished)
    (start : replyCommandMayStart command row) :
    awaitsOutcome row.publicationState row.publicationLastErrorClass = false := by
  rcases authorizes with rfl | rfl | rfl
  · rcases (replyCommandMayStart_approve start).2 with h | h <;>
      simp [awaitsOutcome, isUncertainPublicationState, h]
  · obtain ⟨-, hstate, hclass⟩ := replyCommandMayStart_retry start
    simp [awaitsOutcome, isUncertainPublicationState, hstate, hclass]
  · rcases (replyCommandMayStart_edit start).2 with h | h <;>
      simp [awaitsOutcome, isUncertainPublicationState, h]

/-- Every move keeps the invariant. -/
theorem OpenAttemptInvariant.move (inv : OpenAttemptInvariant s) (m : StoreMove platform actor s s') :
    OpenAttemptInvariant s' := by
  cases m with
  | told facts => exact inv.congr rfl rfl
  | observed observations isReader keeps => exact inv.congr rfl rfl
  | reviewed review isSource => exact inv.congr rfl rfl
  | create row isAuthor absent isDraft hasNoState hasNoCycle =>
      refine .of_nil (inv.attempts_eq_nil fun row hrow ↦ ?_)
      rw [absent] at hrow
      cases hrow
  | delete row present never =>
      refine .of_nil (inv.attempts_eq_nil fun found hfound ↦ ?_)
      rw [present] at hfound
      cases hfound
      exact never
  | rewrite row text status aiGenerated origin present read written authorship =>
      refine inv.of_settled (fun _ ↦ false) id (by simp [Store.writeReply])
        rfl present ⟨rfl, rfl, rfl⟩ id (fun _ ↦ ⟨rfl, rfl, rfl⟩) fun a ha hopen ↦ ?_
      obtain ⟨found, hfound, hcurrent, hawaits⟩ := inv.openIsAwaited a ha hopen
      rw [present] at hfound
      cases hfound
      exact ⟨hcurrent, hawaits⟩
  | authorize row command intent text aiGenerated occurredAt present isManager authorizes start =>
      exact inv.authorize present (awaitsOutcome_of_authorizing authorizes start)
  | claim row attempt now present isWorker approved read key isSending fresh =>
      exact inv.claim present read key isSending fresh
  | publication row status state errorClass dueAt selects set present change settles =>
      exact inv.publication present change settles
  | withdraw row present isAi undispatched selects selected =>
      have hsettled :
          awaitsOutcome row.publicationState row.publicationLastErrorClass = false := by
        simp only [isUndispatchedOpenCycle, isBackAfterCancelledCycle, Bool.or_eq_true,
          Bool.and_eq_true, beq_iff_eq] at undispatched
        rcases undispatched with (h | h) | ⟨h, -⟩ <;>
          simp [awaitsOutcome, isUncertainPublicationState, h]
      refine inv.of_settled selects (PublicationAttempt.settle .superseded) rfl rfl
        present ⟨rfl, rfl, rfl⟩ (fun _ h ↦ by cases h) (fun a ↦ ?_) fun a ha hopen ↦ ?_
      · split <;> exact ⟨rfl, rfl, rfl⟩
      · split at hopen
        · cases hopen
        · exact absurd hopen (inv.no_open present hsettled a ha)

/-- Every reachable state of a reply that started with no attempts satisfies the invariant. -/
theorem openAttemptInvariant_of_run {h : List (Move Store StoreEvent)}
    (r : Run (replySystem platform fun s ↦ s.attempts = []) h s) : OpenAttemptInvariant s :=
  run_invariant_of_moves (fun _ none ↦ .of_nil none) (fun _ _ _ inv m ↦ inv.move m) r

/-- A claim takes an authorized reply, whose attempts are all settled. -/
theorem OpenAttemptInvariant.of_claimed (inv : OpenAttemptInvariant s) {snapshot claimed : Reply}
    {attempt : PublicationAttemptStart} {environment : ClaimEnvironment}
    (h : markPublicationSending platform s snapshot attempt environment =
      .ok (.claimed s' claimed)) :
    ∀ a ∈ s.attempts, ¬ isOpenAttemptOutcome a.outcome := by
  obtain ⟨row, authorization, spec⟩ := markPublicationSending_claimed h
  exact inv.no_open spec.present
    (by simp [awaitsOutcome, isUncertainPublicationState, spec.read])

/-- The invariant as a count: at most one attempt row is open. -/
theorem OpenAttemptInvariant.length_open_le_one (inv : OpenAttemptInvariant s) :
    (s.attempts.filter fun a ↦ isOpenAttemptOutcome a.outcome).length ≤ 1 := by
  have hall : ∀ a ∈ s.attempts.filter (fun a ↦ isOpenAttemptOutcome a.outcome),
      ∀ b ∈ s.attempts.filter (fun a ↦ isOpenAttemptOutcome a.outcome), a.SameKey b := by
    intro a ha b hb
    obtain ⟨ha, haopen⟩ := List.mem_filter.1 ha
    obtain ⟨hb, hbopen⟩ := List.mem_filter.1 hb
    obtain ⟨row, hrow, hcurrent, -⟩ := inv.openIsAwaited a ha haopen
    exact PublicationAttempt.sameKey_of_isCurrentOf hcurrent (inv.isCurrentOf hrow hb hbopen)
  have hunique := inv.uniqueKeys.filter fun a ↦ isOpenAttemptOutcome a.outcome
  cases hopen : s.attempts.filter fun a ↦ isOpenAttemptOutcome a.outcome with
  | nil => exact Nat.zero_le _
  | cons a rest =>
      rw [hopen] at hall hunique
      cases rest with
      | nil => exact le_refl _
      | cons b rest =>
          have hne := (List.pairwise_cons.1 hunique).1 b (List.mem_cons_self ..)
          exact absurd (hall a (List.mem_cons_self ..) b (by simp)) hne

/-- In every state reached from a reply with no attempt rows, at most one attempt is open, it is
the one the reply points at, and no claim succeeds while an attempt is open. -/
theorem openAttempt_unique_and_current {h : List (Move Store StoreEvent)}
    (r : Run (replySystem platform fun s ↦ s.attempts = []) h s) :
    (s.attempts.filter fun a ↦ isOpenAttemptOutcome a.outcome).length ≤ 1 ∧
      (∀ a ∈ s.attempts, isOpenAttemptOutcome a.outcome →
        ∃ row, s.reply = some row ∧ a.replyId = row.id ∧
          a.publicationCycle = row.publicationCycle ∧
            a.attemptNumber = row.publicationAttempts) ∧
      ∀ snapshot attempt environment s' claimed,
        markPublicationSending platform s snapshot attempt environment =
            .ok (.claimed s' claimed) →
          ∀ a ∈ s.attempts, ¬ isOpenAttemptOutcome a.outcome := by
  have inv := openAttemptInvariant_of_run r
  refine ⟨inv.length_open_le_one, fun a ha hopen ↦ ?_, fun _ _ _ _ _ h ↦ inv.of_claimed h⟩
  obtain ⟨row, hrow, hcurrent, -⟩ := inv.openIsAwaited a ha hopen
  simp only [PublicationAttempt.isCurrentOf, Bool.and_eq_true, beq_iff_eq] at hcurrent
  exact ⟨row, hrow, hcurrent.1.1, hcurrent.1.2, hcurrent.2⟩

/-- A claimed attempt is the one open attempt, and a second claim of its cycle finds it. -/
theorem openAttempt_unique_and_current_claimed :
    sampleSendingStore.attempts = [sampleAttempt] ∧
      isOpenAttemptOutcome sampleAttempt.outcome ∧
      ∀ snapshot attempt environment s' claimed,
        markPublicationSending samplePlatform sampleSendingStore snapshot attempt environment ≠
          .ok (.claimed s' claimed) :=
  ⟨rfl, rfl, fun snapshot attempt environment s' claimed h ↦
    (openAttempt_unique_and_current (sampleRun rfl)).2.2 snapshot attempt environment s' claimed h
      sampleAttempt (List.mem_singleton.2 rfl) rfl⟩

end ReputationKey.Review
