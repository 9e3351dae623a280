import Mathlib.Data.List.Chain
import ReputationKey.Base.Refusal
import ReputationKey.Base.Transducer
import ReputationKey.Identity.NoticeWalk

/-!
# Consent epochs over a run

Work started under a grant carries the epoch of its capability. As long as the epoch stays, the
capability stayed enabled for the same source and policy and no notice changed it materially; and
the analysis start is the head read when Review analysis got its epoch.
-/

namespace ReputationKey.Identity

open ReputationKey.Base

variable {changes : List MerchantAiNoticeChange}

/-! ## One transition -/

/-- The capability is enabled by the grant. -/
def MerchantAiSnapshot.enables (snapshot : MerchantAiSnapshot) (capability : MerchantAiCapability) :
    Prop :=
  snapshot.state = .enabled ∧ capability ∈ snapshot.capabilities

/-- The epoch of a capability at a grant, 0 while there is none. -/
def epochAt (snapshot : Option MerchantAiSnapshot) (capability : MerchantAiCapability) : Nat :=
  snapshot.elim 0 fun snapshot ↦ snapshot.capabilityEpochs.of capability

/-- What a committed transition does to the head. -/
structure Transitions (changes : List MerchantAiNoticeChange) (previous : Option MerchantAiSnapshot)
    (next : MerchantAiSnapshot) (reads : MerchantAiReads) : Prop where
  version : next.stateVersion = previous.elim 0 MerchantAiSnapshot.stateVersion + 1
  grows : ∀ capability, epochAt previous capability ≤ next.capabilityEpochs.of capability
  kept : ∀ capability, next.capabilityEpochs.of capability = epochAt previous capability →
    ∃ head, previous = some head ∧ head.state = .enabled ∧ next.state = .enabled ∧
      (capability ∈ head.capabilities ↔ capability ∈ next.capabilities) ∧
      (capability ∈ head.capabilities →
        next.authorizedSourceEpoch = head.authorizedSourceEpoch ∧
          next.sourcePolicyId = head.sourcePolicyId ∧
          next.routingPolicyVersion = head.routingPolicyVersion ∧
          next.redactionProfileFamily = head.redactionProfileFamily ∧
          NoMaterialChange changes capability head.notice next.notice)
  start : if MerchantAiCapability.reviewAnalysis ∈ next.capabilities ∧
      epochAt previous .reviewAnalysis < next.capabilityEpochs.of .reviewAnalysis then
      reads.currentAnalysisHead next.authorizedSourceEpoch = some next.analysisStartSequence
    else next.analysisStartSequence = previous.elim 0 MerchantAiSnapshot.analysisStartSequence

/-- The next epochs, capability by capability. -/
theorem nextMerchantAiCapabilityEpochs_of (head : MerchantAiSnapshot)
    (operation : MerchantAiOperation) (capabilities : List MerchantAiCapability)
    (contract : MerchantAiExecutionContract) (sourceRebound : Bool)
    (materiallyChanged : List MerchantAiCapability) (capability : MerchantAiCapability) :
    (nextMerchantAiCapabilityEpochs (some head) operation capabilities contract sourceRebound
        materiallyChanged).of capability =
      epochFor head operation capabilities contract sourceRebound materiallyChanged
        capability := by
  cases capability <;> rfl

/-- The first grant has every epoch at one. -/
theorem nextMerchantAiCapabilityEpochs_none (operation : MerchantAiOperation)
    (capabilities : List MerchantAiCapability) (contract : MerchantAiExecutionContract)
    (sourceRebound : Bool) (materiallyChanged : List MerchantAiCapability)
    (capability : MerchantAiCapability) :
    (nextMerchantAiCapabilityEpochs none operation capabilities contract sourceRebound
        materiallyChanged).of capability = 1 := by
  cases capability <;> rfl

/-- An epoch never falls. -/
theorem le_epochFor (head : MerchantAiSnapshot) (operation : MerchantAiOperation)
    (capabilities : List MerchantAiCapability) (contract : MerchantAiExecutionContract)
    (sourceRebound : Bool) (materiallyChanged : List MerchantAiCapability)
    (capability : MerchantAiCapability) :
    head.capabilityEpochs.of capability ≤
      epochFor head operation capabilities contract sourceRebound materiallyChanged capability :=
  Nat.le_add_right _ _

/-- What an epoch that stays says of the transition. -/
theorem epochFor_eq_iff (head : MerchantAiSnapshot) (operation : MerchantAiOperation)
    (capabilities : List MerchantAiCapability) (contract : MerchantAiExecutionContract)
    (sourceRebound : Bool) (materiallyChanged : List MerchantAiCapability)
    (capability : MerchantAiCapability) :
    epochFor head operation capabilities contract sourceRebound materiallyChanged capability =
        head.capabilityEpochs.of capability ↔
      operation = .change ∧ (capability ∈ head.capabilities ↔ capability ∈ capabilities) ∧
        (capability ∈ head.capabilities →
          sourceRebound = false ∧ head.sourcePolicyId = contract.sourcePolicyId ∧
            head.routingPolicyVersion = contract.routingPolicyVersion ∧
            head.redactionProfileFamily = contract.redactionProfileFamily ∧
            capability ∉ materiallyChanged) := by
  unfold epochFor
  cases operation <;> by_cases hhead : capability ∈ head.capabilities <;>
    by_cases hnext : capability ∈ capabilities <;> cases sourceRebound <;>
    (simp [hhead, hnext]; try grind)

/-- The database function expects the epochs that the application computes. -/
theorem expectedEpochFor_eq (current : Option MerchantAiSnapshot) (operation : MerchantAiOperation)
    (next : MerchantAiSnapshot) (capability : MerchantAiCapability) :
    expectedEpochFor changes current operation next capability =
      (nextMerchantAiCapabilityEpochs current operation next.capabilities
        next.toMerchantAiExecutionContract
        (current.any fun current ↦
          decide (current.authorizedSourceEpoch ≠ next.authorizedSourceEpoch))
        (current.elim [] fun current ↦
          materiallyChangedMerchantAiCapabilities changes current.notice next.notice)).of
        capability := by
  cases current with
  | none =>
      rw [nextMerchantAiCapabilityEpochs_none]
      rfl
  | some head =>
      rw [nextMerchantAiCapabilityEpochs_of]
      unfold expectedEpochFor epochFor
      cases operation with
      | enable => simp
      | revoke => simp
      | change =>
          have hbool : ∀ h n p m r : Bool, ((h != n) || ((r || p || m) && (h || n))) =
              ((false || false) || (h != n) || ((p || m) && (h || n)) || (r && (h || n))) := by
            decide
          simp only [Option.any_some, Option.elim_some, hbool]
          rfl

/-! ## What a commit does -/

/-- The database function answers a replay with the rows as they are, and otherwise commits what it
was given. -/
theorem applyMerchantAiTransition_eq_ok {store store' : MerchantAiStore} {reads : MerchantAiReads}
    {operation : MerchantAiOperation} {expectedStateVersion : Nat}
    {evidence : MerchantAiConsentEvidence}
    (h : applyMerchantAiTransition changes store reads operation expectedStateVersion evidence =
      .ok store') :
    store' = store ∨
      (store' = ⟨some evidence.snapshot, evidence :: store.evidence⟩ ∧
        admitsTransition store.enablement operation evidence.snapshot = true) := by
  unfold applyMerchantAiTransition at h
  simp only at h
  split at h
  · cases (ok_of_guard h).2
    exact Or.inl rfl
  · obtain ⟨-, h⟩ := ok_of_guard h
    obtain ⟨-, h⟩ := ok_of_guard h
    obtain ⟨hadmits, h⟩ := ok_of_guard h
    obtain ⟨-, h⟩ := ok_of_guard h
    obtain ⟨-, h⟩ := ok_of_guard h
    obtain ⟨-, h⟩ := ok_of_guard h
    cases (ok_of_guard h).2
    refine Or.inr ⟨rfl, ?_⟩
    by_contra hnot
    exact hadmits (Or.inr (Bool.eq_false_iff.2 hnot))

/-- The head a command leaves is a transition of the head before it. -/
theorem committedSnapshot_transitions {current : Option MerchantAiSnapshot}
    {reads : MerchantAiReads} {input : MerchantAiMutationInput}
    {authorizedSourceEpoch newLineageId analysisStartSequence : Nat}
    (admits : admitsTransition current input.operation (committedSnapshot changes current input
      authorizedSourceEpoch newLineageId analysisStartSequence) = true)
    (start : committedAnalysisStart current input.capabilities
      (committedEpochs changes current input authorizedSourceEpoch)
      (if input.operation = .revoke then none
        else reads.currentAnalysisHead authorizedSourceEpoch) = some analysisStartSequence) :
    Transitions changes current (committedSnapshot changes current input authorizedSourceEpoch
      newLineageId analysisStartSequence) reads := by
  refine ⟨rfl, fun capability ↦ ?_, fun capability hkept ↦ ?_, ?_⟩
  · cases current with
    | none => exact Nat.zero_le _
    | some head =>
        change _ ≤ (committedEpochs changes (some head) input authorizedSourceEpoch).of capability
        unfold committedEpochs
        rw [nextMerchantAiCapabilityEpochs_of]
        exact le_epochFor ..
  · change (committedEpochs changes current input authorizedSourceEpoch).of capability = _ at hkept
    unfold committedEpochs at hkept
    cases current with
    | none =>
        rw [nextMerchantAiCapabilityEpochs_none] at hkept
        cases hkept
    | some head =>
        rw [nextMerchantAiCapabilityEpochs_of] at hkept
        obtain ⟨hchange, hmember, hsame⟩ := (epochFor_eq_iff ..).1 hkept
        rw [hchange] at admits
        unfold admitsTransition at admits
        simp only [Bool.and_eq_true, decide_eq_true_eq] at admits
        refine ⟨head, rfl, admits.1.2, admits.1.1, hmember, fun hhas ↦ ?_⟩
        obtain ⟨hrebound, hpolicy, hrouting, hredaction, hmaterial⟩ := hsame hhas
        have hepoch : head.authorizedSourceEpoch = authorizedSourceEpoch := by
          simpa using hrebound
        exact ⟨hepoch.symm, hpolicy.symm, hrouting.symm, hredaction.symm,
          noMaterialChange_of_not_mem hmaterial⟩
  · have hbefore : epochAt current .reviewAnalysis =
        current.elim 0 fun current ↦ current.capabilityEpochs.reviewAnalysis := by
      cases current <;> rfl
    unfold committedAnalysisStart at start
    simp only at start
    rw [hbefore]
    change if MerchantAiCapability.reviewAnalysis ∈ input.capabilities ∧
        _ < (committedEpochs changes current input authorizedSourceEpoch).reviewAnalysis then
        reads.currentAnalysisHead authorizedSourceEpoch = some analysisStartSequence
      else analysisStartSequence = _
    by_cases hresets : MerchantAiCapability.reviewAnalysis ∈ input.capabilities ∧
        (current.elim 0 fun current ↦ current.capabilityEpochs.reviewAnalysis) <
          (committedEpochs changes current input authorizedSourceEpoch).reviewAnalysis
    · rw [if_pos hresets] at start ⊢
      split at start
      · cases start
      · exact start
    · rw [if_neg hresets] at start ⊢
      exact (Option.some.inj start).symm

/-- A commit leaves the rows as they are or makes one transition of the head. -/
theorem commitMerchantAiTransition_eq_ok {store store' : MerchantAiStore}
    {reads : MerchantAiReads} {input : MerchantAiMutationInput} {authorizedSourceEpoch : Nat}
    {requestHash : String}
    (h : commitMerchantAiTransition changes store reads input authorizedSourceEpoch requestHash =
      .ok store') :
    store' = store ∨ ∃ next, store'.enablement = some next ∧
      Transitions changes store.enablement next reads := by
  unfold commitMerchantAiTransition at h
  simp only at h
  obtain ⟨-, h⟩ := ok_of_guard h
  split at h
  · cases h
  · next analysisStartSequence hstart =>
    rcases applyMerchantAiTransition_eq_ok (ok_of_mapError h) with hreplay | ⟨hstore, hadmits⟩
    · exact Or.inl hreplay
    · exact Or.inr ⟨_, by rw [hstore], committedSnapshot_transitions hadmits hstart⟩

/-- The database function never refuses a command for its epochs: whatever the head, the command and
what was read, it expects those the application computes. -/
theorem epochs_never_refused (store : MerchantAiStore) (reads : MerchantAiReads)
    (input : MerchantAiMutationInput) (authorizedSourceEpoch : Nat) (requestHash : String) :
    commitMerchantAiTransition changes store reads input authorizedSourceEpoch requestHash ≠
      .error (.raised "merchant_ai_invalid_capability_epoch") := by
  intro h
  unfold commitMerchantAiTransition at h
  simp only at h
  by_cases hread : input.operation ≠ .revoke ∧ (if input.operation = .revoke then none
      else reads.currentAnalysisHead authorizedSourceEpoch) = none
  · rw [if_pos hread] at h
    cases h
  rw [if_neg hread] at h
  split at h
  · cases h
  next start _ =>
  cases happly : applyMerchantAiTransition changes store reads input.operation
      input.expectedStateVersion ⟨input.idempotencyKey, requestHash, committedSnapshot changes
        store.enablement input authorizedSourceEpoch reads.newLineageId start⟩ with
  | ok store' =>
      rw [happly] at h
      cases h
  | error code =>
      rw [happly] at h
      obtain rfl := MerchantAiFailure.raised.inj (Except.error.inj h)
      unfold applyMerchantAiTransition at happly
      simp only at happly
      split at happly
      · split_ifs at happly
        simp at happly
      · split_ifs at happly with _ _ _ _ _ hepochs <;> simp at happly
        obtain ⟨capability, -, hdiffers⟩ := hepochs
        apply hdiffers
        rw [expectedEpochFor_eq]
        rfl

/-! ## Runs -/

/-- A command on the Property's grant, with what it reads. -/
inductive MerchantAiEvent
  | mutate (reads : MerchantAiReads) (input : MerchantAiMutationInput) (requestHash : String)
      (replayIsNoOp : Bool)
  | consent (reads : MerchantAiReads) (desired : MerchantAiExecutionContract)
      (capabilities : List MerchantAiCapability) (idempotencyKey reasonCode requestHash : String)

/-- What the command reads. -/
def MerchantAiEvent.reads : MerchantAiEvent → MerchantAiReads
  | .mutate reads .. => reads
  | .consent reads .. => reads

/-- The rows a command leaves, or how it fails. -/
def MerchantAiEvent.run (changes : List MerchantAiNoticeChange) (store : MerchantAiStore) :
    MerchantAiEvent → Except MerchantAiFailure MerchantAiStore
  | .mutate reads input requestHash replayIsNoOp =>
      runMerchantAiMutation changes store reads input requestHash replayIsNoOp
  | .consent reads desired capabilities idempotencyKey reasonCode requestHash =>
      consentForProperty changes store reads desired capabilities idempotencyKey reasonCode
        requestHash

/-- One accepted transition: the heads before and after it, and what it read. -/
structure AcceptedTransition where
  previous : Option MerchantAiSnapshot
  next : MerchantAiSnapshot
  reads : MerchantAiReads

/-- Commands run one after another under the head's lock. One that fails, and a replay, leaves the
rows as they are. -/
def merchantAi (changes : List MerchantAiNoticeChange) :
    Transducer MerchantAiStore MerchantAiEvent AcceptedTransition where
  step store event :=
    match event.run changes store with
    | .error _ => (store, [])
    | .ok store' =>
        if store' = store then (store, [])
        else
          (store', store'.enablement.toList.map fun next ↦
            ⟨store.enablement, next, event.reads⟩)

/-- An accepted command leaves the rows as they are or makes one transition of the head. -/
theorem MerchantAiEvent.run_eq_ok {store store' : MerchantAiStore} {event : MerchantAiEvent}
    (h : event.run changes store = .ok store') :
    store' = store ∨ ∃ next, store'.enablement = some next ∧
      Transitions changes store.enablement next event.reads := by
  cases event with
  | mutate reads input requestHash replayIsNoOp =>
      change runMerchantAiMutation changes store reads input requestHash replayIsNoOp = _ at h
      unfold runMerchantAiMutation at h
      split at h
      · obtain ⟨-, h⟩ := ok_of_guard h
        cases (ok_of_guard h).2
        exact Or.inl rfl
      · split at h
        · cases h
        · cases h
        · simp only at h
          obtain ⟨-, h⟩ := ok_of_guard h
          obtain ⟨-, h⟩ := ok_of_guard h
          obtain ⟨-, h⟩ := ok_of_guard h
          obtain ⟨-, h⟩ := ok_of_guard h
          obtain ⟨-, h⟩ := ok_of_guard h
          exact commitMerchantAiTransition_eq_ok (ok_of_guard h).2
  | consent reads desired capabilities idempotencyKey reasonCode requestHash =>
      change consentForProperty changes store reads desired capabilities idempotencyKey reasonCode
        requestHash = _ at h
      unfold consentForProperty at h
      split at h
      · cases h
      · cases h
      · simp only at h
        split at h
        · cases h
          exact Or.inl rfl
        · exact commitMerchantAiTransition_eq_ok h
        · exact commitMerchantAiTransition_eq_ok h

/-- A step makes no transition and keeps the rows, or makes exactly one. -/
theorem merchantAi_step (store : MerchantAiStore) (event : MerchantAiEvent) :
    (merchantAi changes).step store event = (store, []) ∨
      ∃ store' next, (merchantAi changes).step store event =
          (store', [⟨store.enablement, next, event.reads⟩]) ∧
        store'.enablement = some next ∧ Transitions changes store.enablement next event.reads := by
  unfold merchantAi
  simp only
  split
  · exact Or.inl rfl
  · next store' hrun =>
    split
    · exact Or.inl rfl
    · next hmoved =>
      rcases MerchantAiEvent.run_eq_ok hrun with hsame | ⟨next, hnext, htransitions⟩
      · exact absurd hsame hmoved
      · exact Or.inr ⟨store', next, by rw [hnext]; rfl, hnext, htransitions⟩

/-! ## What the epochs of a run say -/

/-- The grant stays the same for a capability: it stays enabled for the same source and policy, and
no notice changed it materially. -/
structure SameConsent (changes : List MerchantAiNoticeChange) (capability : MerchantAiCapability)
    (a b : MerchantAiSnapshot) : Prop where
  enabled : b.enables capability
  sourceEpoch : b.authorizedSourceEpoch = a.authorizedSourceEpoch
  sourcePolicy : b.sourcePolicyId = a.sourcePolicyId
  routing : b.routingPolicyVersion = a.routingPolicyVersion
  redaction : b.redactionProfileFamily = a.redactionProfileFamily
  notice : NoMaterialChange changes capability a.notice b.notice

/-- What two heads of a run have in common: epochs never fall, and a capability that was enabled and
kept its epoch is still the same consent. -/
structure Continues (changes : List MerchantAiNoticeChange) (a b : MerchantAiSnapshot) : Prop where
  grows : ∀ capability, a.capabilityEpochs.of capability ≤ b.capabilityEpochs.of capability
  same : ∀ capability, a.enables capability →
    b.capabilityEpochs.of capability = a.capabilityEpochs.of capability →
    SameConsent changes capability a b

/-- One transition continues the head before it. -/
theorem Transitions.continues {head next : MerchantAiSnapshot} {reads : MerchantAiReads}
    (h : Transitions changes (some head) next reads) : Continues changes head next := by
  refine ⟨h.grows, fun capability henables hepoch ↦ ?_⟩
  obtain ⟨_, hhead, -, hstate, hmember, hsame⟩ := h.kept capability hepoch
  cases hhead
  obtain ⟨hsource, hpolicy, hrouting, hredaction, hnotice⟩ := hsame henables.2
  exact ⟨⟨hstate, hmember.1 henables.2⟩, hsource, hpolicy, hrouting, hredaction, hnotice⟩

/-- Heads continue each other along a run. -/
theorem Continues.trans {a b c : MerchantAiSnapshot} (h : Continues changes a b)
    (h' : Continues changes b c) : Continues changes a c := by
  refine ⟨fun capability ↦ Nat.le_trans (h.grows capability) (h'.grows capability),
    fun capability henables hepoch ↦ ?_⟩
  have hfirst := h.grows capability
  have hsecond := h'.grows capability
  have hsame := h.same capability henables (by omega)
  have hsame' := h'.same capability hsame.enabled (by omega)
  exact ⟨hsame'.enabled, hsame'.sourceEpoch.trans hsame.sourceEpoch,
    hsame'.sourcePolicy.trans hsame.sourcePolicy, hsame'.routing.trans hsame.routing,
    hsame'.redaction.trans hsame.redaction, hsame.notice.trans hsame'.notice⟩

/-- A transition gave Review analysis the epoch it has. -/
def AcceptedTransition.gaveAnalysisEpoch (transition : AcceptedTransition) : Prop :=
  epochAt transition.previous .reviewAnalysis <
    transition.next.capabilityEpochs.of .reviewAnalysis

/-- The analysis of a head starts at the head read by the transition of the run that gave Review
analysis its present epoch. -/
def StartsWhereEpochBegan (transitions : List AcceptedTransition) (head : MerchantAiSnapshot) :
    Prop :=
  head.enables .reviewAnalysis → ∃ transition ∈ transitions, transition.gaveAnalysisEpoch ∧
    transition.next.capabilityEpochs.of .reviewAnalysis =
      head.capabilityEpochs.of .reviewAnalysis ∧
    transition.next.authorizedSourceEpoch = head.authorizedSourceEpoch ∧
    transition.reads.currentAnalysisHead head.authorizedSourceEpoch =
      some head.analysisStartSequence

/-- The heads of a run: the one it starts with, if any, and the one each transition left. -/
def headsOf (start : Option MerchantAiSnapshot) (transitions : List AcceptedTransition) :
    List MerchantAiSnapshot :=
  start.toList ++ transitions.map AcceptedTransition.next

/-- What holds of the transitions made so far and the rows they left. -/
structure ConsentInvariant (changes : List MerchantAiNoticeChange)
    (start : Option MerchantAiSnapshot) (transitions : List AcceptedTransition)
    (store : MerchantAiStore) : Prop where
  head : (headsOf start transitions).getLast? = store.enablement
  first : ∀ transition ∈ transitions,
    transition.next.stateVersion = transition.previous.elim 0 MerchantAiSnapshot.stateVersion + 1
  versions : (headsOf start transitions).IsChain fun a b ↦ b.stateVersion = a.stateVersion + 1
  continues : (headsOf start transitions).IsChain (Continues changes)
  starts : ∀ before transition after, transitions = before ++ transition :: after →
    StartsWhereEpochBegan (before ++ [transition]) transition.next

variable {start : Option MerchantAiSnapshot} {transitions : List AcceptedTransition}
  {store : MerchantAiStore}

/-- A chain of heads goes on with a transition of the last one. -/
theorem isChain_headsOf_append {R : MerchantAiSnapshot → MerchantAiSnapshot → Prop}
    {transition : AcceptedTransition} (chain : (headsOf start transitions).IsChain R)
    (last : ∀ head, (headsOf start transitions).getLast? = some head → R head transition.next) :
    (headsOf start (transitions ++ [transition])).IsChain R := by
  unfold headsOf at chain last ⊢
  rw [List.map_append, ← List.append_assoc, List.isChain_append]
  refine ⟨chain, List.isChain_singleton _, fun head hhead next hnext ↦ ?_⟩
  cases hnext
  exact last head hhead

/-- A transition that leaves Review analysis enabled has its start where its epoch began. -/
theorem ConsentInvariant.startsWhereEpochBegan (h : ConsentInvariant changes start transitions store)
    (notEnabled : ∀ head, start = some head → head.state ≠ .enabled) {next : MerchantAiSnapshot}
    {reads : MerchantAiReads} (made : Transitions changes store.enablement next reads) :
    StartsWhereEpochBegan (transitions ++ [⟨store.enablement, next, reads⟩]) next := by
  intro henables
  have hstart := made.start
  by_cases hnew : epochAt store.enablement .reviewAnalysis <
      next.capabilityEpochs.of .reviewAnalysis
  · rw [if_pos ⟨henables.2, hnew⟩] at hstart
    exact ⟨_, List.mem_append_right _ (List.mem_singleton.2 rfl), hnew, rfl, rfl, hstart⟩
  · rw [if_neg fun hresets ↦ hnew hresets.2] at hstart
    have hgrows := made.grows .reviewAnalysis
    obtain ⟨head, hhead, hstate, -, hmember, hsame⟩ := made.kept .reviewAnalysis (by omega)
    have hhas := hmember.2 henables.2
    have hlast := h.head
    rw [hhead] at hlast hnew hgrows hstart
    rcases List.eq_nil_or_concat transitions with rfl | ⟨before, transition, rfl⟩
    · unfold headsOf at hlast
      cases hfirst : start with
      | none =>
          rw [hfirst] at hlast
          cases hlast
      | some first =>
          rw [hfirst] at hlast
          cases hlast
          exact absurd hstate (notEnabled _ hfirst)
    · rw [List.concat_eq_append] at hlast ⊢
      have hnext : transition.next = head := by
        unfold headsOf at hlast
        rw [List.map_append, ← List.append_assoc, List.map_singleton, List.getLast?_concat] at hlast
        exact Option.some.inj hlast
      obtain ⟨began, hmem, hgave, hepoch, hsource, hread⟩ :=
        h.starts before transition [] (List.concat_eq_append ..) (hnext ▸ ⟨hstate, hhas⟩)
      rw [hnext] at hepoch hsource hread
      refine ⟨began, List.mem_append_left _ hmem, hgave, ?_, ?_, ?_⟩
      · have hbefore : epochAt (some head) .reviewAnalysis =
            head.capabilityEpochs.of .reviewAnalysis := rfl
        omega
      · exact hsource.trans (hsame hhas).1.symm
      · rw [(hsame hhas).1, hstart]
        exact hread

/-- Every step keeps the invariant. -/
theorem consentInvariant_step (h : ConsentInvariant changes start transitions store)
    (notEnabled : ∀ head, start = some head → head.state ≠ .enabled) (event : MerchantAiEvent) :
    ConsentInvariant changes start (transitions ++ ((merchantAi changes).step store event).2)
      ((merchantAi changes).step store event).1 := by
  rcases merchantAi_step store event with hkept | ⟨store', next, hmoved, hnext, hmade⟩
  · rw [hkept, List.append_nil]
    exact h
  · rw [hmoved]
    have hhead := h.head
    refine ⟨?_, ?_, isChain_headsOf_append h.versions fun head hlast ↦ ?_,
      isChain_headsOf_append h.continues fun head hlast ↦ ?_,
      forall_split_append_singleton h.starts (h.startsWhereEpochBegan notEnabled hmade)⟩
    · unfold headsOf
      rw [List.map_append, ← List.append_assoc, List.map_singleton, List.getLast?_concat, hnext]
    · intro transition hmem
      rcases List.mem_append.1 hmem with hearlier | hlast
      · exact h.first transition hearlier
      · rw [List.mem_singleton.1 hlast]
        exact hmade.version
    · have hversion := hmade.version
      rw [← hhead, hlast] at hversion
      exact hversion
    · rw [← hhead, hlast] at hmade
      exact hmade.continues

/-- The invariant holds before the first transition. -/
theorem consentInvariant_start (store : MerchantAiStore) :
    ConsentInvariant changes store.enablement [] store where
  head := by
    unfold headsOf
    cases store.enablement <;> rfl
  first := fun _ hmem ↦ (List.not_mem_nil hmem).elim
  versions := by
    unfold headsOf
    cases store.enablement <;> simp
  continues := by
    unfold headsOf
    cases store.enablement <;> simp
  starts := fun before _ _ hsplit ↦ (List.append_ne_nil_of_right_ne_nil before
    (List.cons_ne_nil _ _) hsplit.symm).elim

/-- For every run of commands from a grant that is not enabled, with any tables of notice changes and
anything read: the state version rises by one with each transition; no capability epoch falls; a
capability enabled in two heads with one epoch is the same consent in every head between them, for
the same source, policy, routing and redaction family and without a material notice change; while
Review analysis is enabled, its start is the analysis head of its source epoch read when it got its
epoch. The walk for material changes ends, and answers every capability for a stranger. -/
theorem merchantAi_consentEpochs (changes : List MerchantAiNoticeChange) {store : MerchantAiStore}
    (notEnabled : ∀ head, store.enablement = some head → head.state ≠ .enabled)
    (events : List MerchantAiEvent) :
    let transitions := (merchantAi changes).output store events
    let heads := headsOf store.enablement transitions
    (heads.IsChain (fun a b ↦ b.stateVersion = a.stateVersion + 1) ∧
      ∀ transition ∈ transitions, transition.next.stateVersion =
        transition.previous.elim 0 MerchantAiSnapshot.stateVersion + 1) ∧
    heads.Pairwise (fun a b ↦ ∀ capability,
      a.capabilityEpochs.of capability ≤ b.capabilityEpochs.of capability) ∧
    (∀ before a between b after, heads = before ++ a :: (between ++ b :: after) →
      ∀ capability, a.enables capability → b.enables capability →
        a.capabilityEpochs.of capability = b.capabilityEpochs.of capability →
        ∀ x ∈ between ++ [b], SameConsent changes capability a x) ∧
    (∀ before transition after, transitions = before ++ transition :: after →
      StartsWhereEpochBegan (before ++ [transition]) transition.next) ∧
    ∀ previous next, (noticeWalk changes previous (changes.length + 1) next [] []).isSome ∧
      (¬ NoticeAncestor changes previous next →
        materiallyChangedMerchantAiCapabilities changes previous next =
          currentMerchantAiCapabilities) := by
  intro transitions heads
  have hinvariant : ConsentInvariant changes store.enablement ([] ++ transitions)
      ((merchantAi changes).final store events) :=
    (merchantAi changes).invariant (I := ConsentInvariant changes store.enablement)
      (fun _ _ event h ↦ consentInvariant_step h notEnabled event) (consentInvariant_start store)
      events
  rw [List.nil_append] at hinvariant
  have hpairwise : heads.Pairwise (Continues changes) := by
    have : IsTrans MerchantAiSnapshot (Continues changes) := ⟨fun _ _ _ ↦ Continues.trans⟩
    exact hinvariant.continues.pairwise
  refine ⟨⟨hinvariant.versions, hinvariant.first⟩, hpairwise.imp fun h ↦ h.grows, ?_,
    hinvariant.starts, fun previous next ↦
      ⟨noticeWalk_ends changes previous next, materiallyChanged_of_not_ancestor⟩⟩
  intro before a between b after hsplit capability henables _ hepoch x hx
  rw [hsplit, List.pairwise_append, List.pairwise_cons, List.pairwise_append] at hpairwise
  obtain ⟨-, ⟨hafter, -, -, hbetween⟩, -⟩ := hpairwise
  rcases List.mem_append.1 hx with hmem | hlast
  · have hax := hafter x (List.mem_append_left _ hmem)
    have hxb := hbetween x hmem b List.mem_cons_self
    have hle := hax.grows capability
    have hle' := hxb.grows capability
    exact hax.same capability henables (by omega)
  · rw [List.mem_singleton.1 hlast]
    exact (hafter b (List.mem_append_right _ List.mem_cons_self)).same capability henables
      hepoch.symm

section Sample

/-- An active Property at source epoch 0 without reviews. -/
def sampleReads : MerchantAiReads :=
  { discoveredSourceEpoch := 0
    propertyExists := true
    propertyActive := true
    sourceEpoch := 0
    authority := none
    analysisHead := fun _ ↦ none
    hasReviews := fun _ ↦ false
    newLineageId := 1 }

/-- A command on the sample Property. -/
def sampleMutation (key : String) (expectedStateVersion : Nat) (operation : MerchantAiOperation)
    (capabilities : List MerchantAiCapability) : MerchantAiEvent :=
  .mutate sampleReads
    { notice := ⟨"n", "d"⟩
      sourcePolicyId := "p"
      routingPolicyVersion := 1
      redactionProfileFamily := "f"
      idempotencyKey := key
      expectedStateVersion := expectedStateVersion
      operation := operation
      state := .enabled
      capabilities := capabilities
      reasonCode := "r" }
    key false

/-- An enable, a change, and a command that lost on the state version. -/
def sampleEvents : List MerchantAiEvent :=
  [sampleMutation "a" 0 .enable [.reviewAnalysis],
    sampleMutation "b" 1 .change [.reviewAnalysis, .replyDrafting],
    sampleMutation "c" 1 .change [.replyDrafting]]

/-- The run makes two transitions, with state versions one apart. -/
theorem merchantAi_consentEpochs_enabled :
    ((merchantAi []).output ⟨none, []⟩ sampleEvents).length = 2 ∧
      (headsOf none ((merchantAi []).output ⟨none, []⟩ sampleEvents)).IsChain fun a b ↦
        b.stateVersion = a.stateVersion + 1 := by
  have hnone : ∀ head, (⟨none, []⟩ : MerchantAiStore).enablement = some head →
      head.state ≠ .enabled := fun _ h ↦ by cases h
  exact ⟨by decide +kernel, (merchantAi_consentEpochs [] hnone sampleEvents).1.1⟩

end Sample

end ReputationKey.Identity
