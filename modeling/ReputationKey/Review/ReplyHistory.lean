import Mathlib.Data.List.Pairwise
import Mathlib.Tactic.SplitIfs
import Mathlib.Tactic.Tauto
import ReputationKey.Review.ReplyRun

/-!
# What a run remembers of a reply

A reply row read at an earlier point of a run precedes the present row of the same reply: its
revision and cycle are not ahead, and at an equal revision the text, the status and the authorship
are still the ones read. That is why a guard that compares the revision compares the text. The
authorization rows form a ledger: rows are only added, each opens a cycle beyond every earlier one,
and each was added by the command of a manager.
-/

namespace ReputationKey.Review

open ReputationKey.Base

variable {platform : Platform} {actor : Actor} {init : Store → Prop}
  {h : List (Move Store StoreEvent)} {s s' : Store} {row : Reply}

/-- A row that the same reply had before. -/
structure Reply.Precedes (old row : Reply) : Prop where
  sameId : row.id = old.id
  revision : old.stateRevision ≤ row.stateRevision
  content : row.stateRevision = old.stateRevision →
    row.text = old.text ∧ row.status = old.status ∧ row.aiGenerated = old.aiGenerated
  cycle : old.publicationCycle ≤ row.publicationCycle

/-- Every row precedes itself. -/
theorem Reply.Precedes.refl (row : Reply) : row.Precedes row :=
  ⟨rfl, le_refl _, fun _ ↦ ⟨rfl, rfl, rfl⟩, le_refl _⟩

/-- A row before a row before this one is a row before this one. -/
theorem Reply.Precedes.trans {a b c : Reply} (hab : a.Precedes b) (hbc : b.Precedes c) :
    a.Precedes c := by
  refine ⟨hbc.sameId.trans hab.sameId, hab.revision.trans hbc.revision, ?_,
    hab.cycle.trans hbc.cycle⟩
  intro heq
  have hab' := hab.revision
  have hbc' := hbc.revision
  have hb : b.stateRevision = a.stateRevision := by omega
  have hc : c.stateRevision = b.stateRevision := by omega
  obtain ⟨htext, hstatus, hai⟩ := hab.content hb
  obtain ⟨htext', hstatus', hai'⟩ := hbc.content hc
  exact ⟨htext'.trans htext, hstatus'.trans hstatus, hai'.trans hai⟩

/-- The trigger advances the revision of every row whose content changed. -/
theorem Reply.precedes_applyReplyTrigger {row new : Reply} (sameId : new.id = row.id)
    (cycle : row.publicationCycle ≤ new.publicationCycle) :
    row.Precedes (applyReplyTrigger row new) := by
  by_cases hsame : new.text = row.text ∧ new.status = row.status ∧
      new.aiGenerated = row.aiGenerated
  · refine ⟨sameId, ?_, fun _ ↦ hsame, cycle⟩
    simp only [applyReplyTrigger]
    split_ifs <;> omega
  · have hnext : (applyReplyTrigger row new).stateRevision = row.stateRevision + 1 := by
      simp only [applyReplyTrigger]
      rw [if_pos]
      tauto
    refine ⟨sameId, ?_, ?_, cycle⟩
    · rw [hnext]
      exact Nat.le_succ _
    · intro heq
      rw [hnext] at heq
      omega

/-- A move leaves a row that follows the one it read, or the row of a new reply. -/
theorem StoreMove.reply_precedes (m : StoreMove platform actor s s') {row' : Reply}
    (present' : s'.reply = some row') :
    actor = .author row'.id ∨ ∃ row, s.reply = some row ∧ row.Precedes row' := by
  cases m with
  | told facts => exact Or.inr ⟨row', present', .refl row'⟩
  | observed observations isReader keeps => exact Or.inr ⟨row', present', .refl row'⟩
  | reviewed review isSource => exact Or.inr ⟨row', present', .refl row'⟩
  | create row isAuthor absent isDraft hasNoState hasNoCycle =>
      cases present'
      exact Or.inl isAuthor
  | delete row present never => cases present'
  | rewrite row text status aiGenerated origin present read written authorship =>
      cases present'
      exact Or.inr ⟨row, present, Reply.precedes_applyReplyTrigger rfl (le_refl _)⟩
  | authorize row command intent text aiGenerated occurredAt present =>
      cases present'
      exact Or.inr ⟨row, present, Reply.precedes_applyReplyTrigger rfl (Nat.le_succ _)⟩
  | claim row attempt now present =>
      cases present'
      exact Or.inr ⟨row, present, Reply.precedes_applyReplyTrigger rfl (le_refl _)⟩
  | publication row status state errorClass dueAt selects set present =>
      cases present'
      exact Or.inr ⟨row, present, Reply.precedes_applyReplyTrigger rfl (le_refl _)⟩
  | withdraw row present isAi undispatched selects selected =>
      cases present'
      exact Or.inr ⟨row, present, Reply.precedes_applyReplyTrigger rfl (le_refl _)⟩

/-- A transaction leaves a row that follows the one it found, or the row of a new reply. -/
theorem StoreMoves.reply_precedes (m : StoreMoves platform actor s s') {row' : Reply}
    (present' : s'.reply = some row') :
    actor = .author row'.id ∨ ∃ row, s.reply = some row ∧ row.Precedes row' := by
  induction m generalizing row' with
  | refl => exact Or.inr ⟨row', present', .refl row'⟩
  | tail _ hmove ih =>
      rcases hmove.reply_precedes present' with hauthor | ⟨mid, hmid, hprecedes⟩
      · exact Or.inl hauthor
      · rcases ih hmid with hauthor | ⟨row, hrow, hprecedes'⟩
        · left
          rw [hauthor, hprecedes.sameId]
        · exact Or.inr ⟨row, hrow, hprecedes'.trans hprecedes⟩

/-- A row some party read of the reply that is there now precedes the present row. -/
theorem run_read_precedes (r : Run (replySystem platform init) h s) {p : Store} {read : Reply}
    (seen : Seen h s p) (hread : p.reply = some read) (present : s.reply = some row)
    (sameId : row.id = read.id) : read.Precedes row := by
  induction r generalizing p row with
  | start hs =>
      rcases seen with rfl | ⟨m, hm, -⟩
      · rw [present] at hread
        cases hread
        exact .refl _
      · cases hm
  | @next h s s' e r hstep ih =>
      have hmoves := StoreEvent.apply_moves hstep.2
      have hbefore : Seen h s p → read.Precedes row := by
        intro hp
        rcases hmoves.reply_precedes present with hauthor | ⟨mid, hmid, hprecedes⟩
        · exact absurd sameId.symm (hstep.1.newId row.id hauthor p read hp hread)
        · exact (ih hp hread hmid (hprecedes.sameId.symm.trans sameId)).trans hprecedes
      rcases (seen_cons_iff _ _ _ _).1 seen with rfl | rfl | hp
      · rw [present] at hread
        cases hread
        exact .refl _
      · exact hbefore (Or.inl rfl)
      · exact hbefore (Or.inr hp)

/-- What holds of the authorization rows in every reachable state. -/
structure AuthorizationLedger (s : Store) : Prop where
  owned : ∀ x ∈ s.authorizations, ∃ row, s.reply = some row ∧ x.replyId = row.id ∧
    1 ≤ x.publicationCycle ∧ x.publicationCycle ≤ row.publicationCycle ∧
      row.publicationState ≠ none
  increasing : s.authorizations.Pairwise fun newer older ↦
    older.publicationCycle < newer.publicationCycle

/-- A ledger with no rows. -/
theorem AuthorizationLedger.of_nil (none : s.authorizations = []) : AuthorizationLedger s := by
  constructor <;> simp [none]

/-- A store with the same rows whose reply moved on keeps the ledger. -/
theorem AuthorizationLedger.of_row (ledger : AuthorizationLedger s) {new : Reply}
    (authorizations : s'.authorizations = s.authorizations) (present : s.reply = some row)
    (reply : s'.reply = some new) (sameId : new.id = row.id)
    (cycle : new.publicationCycle = row.publicationCycle)
    (hasState : row.publicationState ≠ none → new.publicationState ≠ none) :
    AuthorizationLedger s' := by
  constructor
  · intro x hx
    rw [authorizations] at hx
    obtain ⟨found, hfound, hid, hone, hcycle, hstate⟩ := ledger.owned x hx
    rw [present] at hfound
    cases hfound
    refine ⟨new, reply, hid.trans sameId.symm, hone, ?_, hasState hstate⟩
    rw [cycle]
    exact hcycle
  · rw [authorizations]
    exact ledger.increasing

/-- A reply with no publication state has no authorizations. -/
theorem AuthorizationLedger.eq_nil (ledger : AuthorizationLedger s)
    (never : ∀ row, s.reply = some row → row.publicationState = none) :
    s.authorizations = [] := by
  refine List.eq_nil_iff_forall_not_mem.2 fun x hx ↦ ?_
  obtain ⟨row, hrow, -, -, -, hstate⟩ := ledger.owned x hx
  exact hstate (never row hrow)

/-- Every move keeps the ledger. -/
theorem AuthorizationLedger.move (ledger : AuthorizationLedger s)
    (m : StoreMove platform actor s s') : AuthorizationLedger s' := by
  cases m with
  | told facts => exact ⟨ledger.owned, ledger.increasing⟩
  | observed observations isReader keeps => exact ⟨ledger.owned, ledger.increasing⟩
  | reviewed review isSource => exact ⟨ledger.owned, ledger.increasing⟩
  | create row isAuthor absent isDraft hasNoState hasNoCycle =>
      refine .of_nil (ledger.eq_nil fun row hrow ↦ ?_)
      rw [absent] at hrow
      cases hrow
  | delete row present never =>
      refine .of_nil (ledger.eq_nil fun found hfound ↦ ?_)
      rw [present] at hfound
      cases hfound
      exact never
  | rewrite row text status aiGenerated origin present read written authorship =>
      exact ledger.of_row rfl present rfl rfl rfl id
  | authorize row command intent text aiGenerated occurredAt present =>
      constructor
      · intro x hx
        refine ⟨_, rfl, ?_⟩
        rcases List.mem_cons.1 hx with rfl | hx
        · exact ⟨rfl, Nat.succ_le_succ (Nat.zero_le _), le_refl _, fun h ↦ by cases h⟩
        · obtain ⟨found, hfound, hid, hone, hcycle, -⟩ := ledger.owned x hx
          rw [present] at hfound
          cases hfound
          exact ⟨hid, hone, Nat.le_succ_of_le hcycle, fun h ↦ by cases h⟩
      · refine List.Pairwise.cons (fun x hx ↦ ?_) ledger.increasing
        obtain ⟨found, hfound, -, -, hcycle, -⟩ := ledger.owned x hx
        rw [present] at hfound
        cases hfound
        exact Nat.lt_succ_of_le hcycle
  | claim row attempt now present =>
      exact ledger.of_row rfl present rfl rfl rfl fun _ h ↦ by cases h
  | publication row status state errorClass dueAt selects set present change settles =>
      exact ledger.of_row rfl present rfl rfl rfl change.hasState
  | withdraw row present isAi undispatched selects selected =>
      exact ledger.of_row rfl present rfl rfl rfl fun _ h ↦ by cases h

/-- The authorizations of every reachable state form a ledger. -/
theorem authorizationLedger_of_run (start : ∀ s, init s → s.authorizations = [])
    (r : Run (replySystem platform init) h s) : AuthorizationLedger s :=
  run_invariant_of_moves (fun s hs ↦ .of_nil (start s hs)) (fun _ _ _ ledger m ↦ ledger.move m) r

/-- A move leaves the authorizations alone, or is a manager's and adds one row. -/
theorem StoreMove.authorizations (m : StoreMove platform actor s s') :
    s'.authorizations = s.authorizations ∨
      ∃ command x, actor = .manager command ∧
        (command = .approve ∨ command = .retryPublication ∨ command = .editPublished) ∧
          s'.authorizations = x :: s.authorizations := by
  cases m with
  | authorize row command intent text aiGenerated occurredAt present isManager authorizes =>
      exact Or.inr ⟨command, _, isManager, authorizes, rfl⟩
  | _ => exact Or.inl rfl

/-- Authorizations are only added. -/
theorem run_authorizations_suffix (r : Run (replySystem platform init) h s) {p : Store}
    (seen : Seen h s p) : p.authorizations <:+ s.authorizations := by
  refine run_related_of_moves (R := fun p s ↦ p.authorizations <:+ s.authorizations)
    (fun _ ↦ List.suffix_rfl) (fun _ _ _ h h' ↦ h.trans h') (fun _ s s' m ↦ ?_) r seen
  rcases m.authorizations with heq | ⟨-, x, -, -, heq⟩
  · rw [heq]
  · rw [heq]
    exact List.suffix_cons _ _

/-- A transaction that added an authorization is an authorizing command. -/
theorem StoreMoves.authorizing (m : StoreMoves platform actor s s')
    {x : PublicationAuthorization} (absent : x ∉ s.authorizations)
    (added : x ∈ s'.authorizations) :
    ∃ command, actor = .manager command ∧
      (command = .approve ∨ command = .retryPublication ∨ command = .editPublished) := by
  induction m with
  | refl => exact absurd added absent
  | tail _ hmove ih =>
      rcases hmove.authorizations with heq | ⟨command, y, hactor, hauthorizes, -⟩
      · rw [heq] at added
        exact ih added
      · exact ⟨command, hactor, hauthorizes⟩

/-- Only the source of the review writes the review row. -/
theorem StoreMoves.review_eq (m : StoreMoves platform actor s s') (notSource : actor ≠ .source) :
    s'.review = s.review := by
  induction m with
  | refl => rfl
  | tail _ hmove ih =>
      rw [← ih]
      cases hmove with
      | reviewed review isSource => exact absurd isSource notSource
      | _ => rfl

end ReputationKey.Review
