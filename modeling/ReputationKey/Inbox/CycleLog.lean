import Mathlib.Data.List.Chain
import Mathlib.Data.List.Induction
import ReputationKey.Inbox.HandlingCycle

/-!
# The log of an item's Handling Cycles

The rows the accepted decisions of an item leave, and what its transition log says when it is
replayed: each transition has the next state revision, closes the current open cycle or opens the
next one. A log that replays explains its cycles, and the head too wherever the first cycle was
created open or a later one was opened.
-/

namespace ReputationKey.Inbox

/-! ## Replaying a log -/

/-- What the head says about the current cycle. -/
structure HeadPosition where
  currentCycleNumber : Int
  currentSourceRevision : Int
  stateRevision : Int
  status : InboxStatus
  deriving DecidableEq, Repr

/-- The position a head records. -/
def HandlingCycleHead.position (head : HandlingCycleHead) : HeadPosition :=
  ⟨head.currentCycleNumber, head.currentSourceRevision, head.stateRevision, head.status⟩

/-- Before any transition no cycle is open. -/
def HeadPosition.start : HeadPosition := ⟨0, 0, 0, .closed⟩

/-- The position after one more transition, if the transition fits. -/
def HeadPosition.next (p : HeadPosition) (t : HandlingCycleTransition) : Option HeadPosition :=
  if t.stateRevision ≠ p.stateRevision + 1 then none
  else
    match t.kind with
    | .closed =>
        if t.cycleNumber = p.currentCycleNumber ∧ t.sourceRevision = p.currentSourceRevision ∧
            p.status = .open then
          some { p with stateRevision := t.stateRevision, status := .closed }
        else none
    | .opened | .reopened =>
        if t.cycleNumber = p.currentCycleNumber + 1 ∧
            p.currentSourceRevision ≤ t.sourceRevision then
          some ⟨t.cycleNumber, t.sourceRevision, t.stateRevision, .open⟩
        else none

/-- An opening of the next cycle fits. -/
theorem HeadPosition.next_opening {p : HeadPosition} {t : HandlingCycleTransition}
    (kind : t.kind ≠ .closed) (revision : t.stateRevision = p.stateRevision + 1)
    (cycle : t.cycleNumber = p.currentCycleNumber + 1)
    (source : p.currentSourceRevision ≤ t.sourceRevision) :
    p.next t = some ⟨t.cycleNumber, t.sourceRevision, t.stateRevision, .open⟩ := by
  unfold HeadPosition.next
  rw [if_neg (not_not.2 revision)]
  cases hkind : t.kind with
  | closed => exact absurd hkind kind
  | opened => exact if_pos ⟨cycle, source⟩
  | reopened => exact if_pos ⟨cycle, source⟩

/-- A close of the open current cycle fits. -/
theorem HeadPosition.next_close {p : HeadPosition} {t : HandlingCycleTransition}
    (kind : t.kind = .closed) (revision : t.stateRevision = p.stateRevision + 1)
    (cycle : t.cycleNumber = p.currentCycleNumber)
    (source : t.sourceRevision = p.currentSourceRevision) (isOpen : p.status = .open) :
    p.next t = some { p with stateRevision := t.stateRevision, status := .closed } := by
  unfold HeadPosition.next
  rw [if_neg (not_not.2 revision), kind]
  exact if_pos ⟨cycle, source, isOpen⟩

/-- The position a whole log leads to. -/
def replay (log : List HandlingCycleTransition) : Option HeadPosition :=
  log.foldlM HeadPosition.next .start

variable {log : List HandlingCycleTransition} {t : HandlingCycleTransition} {p p' : HeadPosition}

/-- Replaying one more transition. -/
theorem replay_append_singleton :
    replay (log ++ [t]) = (replay log).bind fun p ↦ p.next t := by
  unfold replay
  rw [List.foldlM_append]
  cases log.foldlM HeadPosition.next .start with
  | none => rfl
  | some p => exact bind_pure (p.next t)

/-- What a transition that fits does. -/
theorem HeadPosition.next_eq_some (h : p.next t = some p') :
    t.stateRevision = p.stateRevision + 1 ∧ p'.stateRevision = t.stateRevision ∧
      p'.currentCycleNumber = t.cycleNumber ∧ p'.currentSourceRevision = t.sourceRevision ∧
      p.currentSourceRevision ≤ t.sourceRevision ∧
      ((t.kind = .closed ∧ t.cycleNumber = p.currentCycleNumber ∧
          t.sourceRevision = p.currentSourceRevision ∧ p.status = .open ∧ p'.status = .closed) ∨
        (t.kind ≠ .closed ∧ t.cycleNumber = p.currentCycleNumber + 1 ∧ p'.status = .open)) := by
  unfold HeadPosition.next at h
  split at h
  · cases h
  · next hrevision =>
      rw [ne_eq, not_not] at hrevision
      refine ⟨hrevision, ?_⟩
      split at h
      · next hkind =>
          split at h
          · next hfits =>
              obtain ⟨hcycle, hsource, hopen⟩ := hfits
              cases h
              exact ⟨rfl, hcycle.symm, hsource.symm, Int.le_of_eq hsource.symm,
                Or.inl ⟨hkind, hcycle, hsource, hopen, rfl⟩⟩
          · cases h
      all_goals
        next hkind =>
          split at h
          · next hfits =>
              cases h
              exact ⟨rfl, rfl, rfl, hfits.2, Or.inr ⟨by rw [hkind]; decide, hfits.1, rfl⟩⟩
          · cases h

/-- A rule for what every log that replays satisfies: it holds of the empty log, and one more
transition that fits keeps it. -/
theorem replay_induction {P : List HandlingCycleTransition → HeadPosition → Prop}
    (start : P [] .start)
    (step : ∀ log p t p', replay log = some p → P log p → p.next t = some p' → P (log ++ [t]) p')
    (h : replay log = some p) : P log p := by
  induction log using List.reverseRecOn generalizing p with
  | nil =>
      cases h
      exact start
  | append_singleton log t ih =>
      rw [replay_append_singleton] at h
      obtain ⟨q, hq, hnext⟩ := Option.bind_eq_some_iff.1 h
      exact step log q t p hq (ih hq) hnext

/-- The state revisions of a log count its transitions. -/
theorem replay_stateRevisions (h : replay log = some p) :
    log.map (·.stateRevision) = (List.range log.length).map (fun n : Nat ↦ (n : Int) + 1) ∧
      p.stateRevision = log.length := by
  refine replay_induction (P := fun log p ↦
    log.map (·.stateRevision) = (List.range log.length).map (fun n : Nat ↦ (n : Int) + 1) ∧
      p.stateRevision = log.length) ⟨rfl, rfl⟩ ?_ h
  intro log p t p' _ ih hnext
  obtain ⟨hrevision, hafter, -⟩ := HeadPosition.next_eq_some hnext
  rw [List.length_append, List.length_singleton, List.range_succ, List.map_append, List.map_append,
    ih.1, hafter]
  refine ⟨?_, ?_⟩
  · rw [List.map_singleton, List.map_singleton, hrevision, ih.2]
  · rw [hrevision, ih.2]
    rfl

/-- Every transition of a log is of a cycle up to the current one, and of a source revision up to
the current one. -/
theorem replay_bounds (h : replay log = some p) :
    ∀ t ∈ log, t.cycleNumber ≤ p.currentCycleNumber ∧
      t.sourceRevision ≤ p.currentSourceRevision := by
  refine replay_induction (P := fun log p ↦ ∀ t ∈ log, t.cycleNumber ≤ p.currentCycleNumber ∧
    t.sourceRevision ≤ p.currentSourceRevision) (fun t ht ↦ by cases ht) ?_ h
  intro log p t p' _ ih hnext u hu
  obtain ⟨-, -, hcycle, hsource, hgrows, hkind⟩ := HeadPosition.next_eq_some hnext
  have hmono : p.currentCycleNumber ≤ t.cycleNumber := by
    rcases hkind with ⟨-, hsame, -⟩ | ⟨-, hnew, -⟩ <;> omega
  rw [hcycle, hsource]
  rcases List.mem_append.1 hu with hu | hu
  · have hbound := ih u hu
    exact ⟨by omega, by omega⟩
  · rw [List.mem_singleton.1 hu]
    exact ⟨Int.le_refl _, Int.le_refl _⟩

/-- The source revisions of a log never decrease. -/
theorem replay_sourceRevisions (h : replay log = some p) :
    log.Pairwise fun t u ↦ t.sourceRevision ≤ u.sourceRevision := by
  refine replay_induction
    (P := fun log _ ↦ log.Pairwise fun t u ↦ t.sourceRevision ≤ u.sourceRevision) .nil ?_ h
  intro log p t p' hreplay ih hnext
  obtain ⟨-, -, -, -, hgrows, -⟩ := HeadPosition.next_eq_some hnext
  rw [List.pairwise_append]
  refine ⟨ih, List.pairwise_singleton _ _, fun u hu v hv ↦ ?_⟩
  rw [List.mem_singleton.1 hv]
  have hbound := (replay_bounds hreplay u hu).2
  omega

/-- The transitions of one cycle. -/
def transitionsOf (log : List HandlingCycleTransition) (cycleNumber : Int) :
    List HandlingCycleTransition :=
  log.filter fun t ↦ t.cycleNumber = cycleNumber

/-- One more transition, seen from a cycle. -/
theorem transitionsOf_append_singleton (cycleNumber : Int) :
    transitionsOf (log ++ [t]) cycleNumber =
      transitionsOf log cycleNumber ++ if t.cycleNumber = cycleNumber then [t] else [] := by
  unfold transitionsOf
  rw [List.filter_append]
  congr 1
  by_cases hcycle : t.cycleNumber = cycleNumber <;> simp [hcycle]

/-- A cycle the log has not reached has no transitions. -/
theorem transitionsOf_eq_nil (h : replay log = some p) {cycleNumber : Int}
    (later : p.currentCycleNumber < cycleNumber) : transitionsOf log cycleNumber = [] := by
  unfold transitionsOf
  rw [List.filter_eq_nil_iff]
  intro t ht
  have hbound := (replay_bounds h t ht).1
  rw [decide_eq_true_eq]
  omega

/-- An open current cycle has its opening and nothing else. -/
theorem transitionsOf_open (h : replay log = some p) (isOpen : p.status = .open) :
    ∃ opening, transitionsOf log p.currentCycleNumber = [opening] ∧ opening.kind ≠ .closed ∧
      opening.sourceRevision = p.currentSourceRevision := by
  refine replay_induction (P := fun log p ↦ p.status = .open →
    ∃ opening, transitionsOf log p.currentCycleNumber = [opening] ∧ opening.kind ≠ .closed ∧
      opening.sourceRevision = p.currentSourceRevision) (fun h ↦ by cases h) ?_ h isOpen
  intro log p t p' hreplay _ hnext isOpen
  obtain ⟨-, -, hcycle, hsource, -, hkind⟩ := HeadPosition.next_eq_some hnext
  rcases hkind with ⟨-, -, -, -, hclosed⟩ | ⟨hopening, hnew, -⟩
  · rw [hclosed] at isOpen
    cases isOpen
  · refine ⟨t, ?_, hopening, hsource.symm⟩
    rw [transitionsOf_append_singleton, hcycle, if_pos rfl,
      transitionsOf_eq_nil hreplay (by omega), List.nil_append]

/-! ## The rows of an item -/

/-- The rows the decisions of one item leave, oldest first. -/
structure CycleStore where
  cycles : List HandlingCycle
  head : HandlingCycleHead
  log : List HandlingCycleTransition
  deriving DecidableEq, Repr

/-- A decision asked of the current head. -/
inductive CycleCommand
  | createNext (next : NextHandlingCycle)
  | close (close : CloseHandlingCycle)
  deriving DecidableEq

/-- Whether a command opens a cycle. -/
def CycleCommand.opensCycle : CycleCommand → Bool
  | .createNext _ => true
  | .close _ => false

/-- The rows the first cycle leaves. -/
def CycleStore.create (input : CreateInitialHandlingCycleInput) : Except InboxError CycleStore :=
  (createInitialHandlingCycle input).map fun decision ↦
    ⟨[decision.cycle], decision.head, decision.transitions⟩

/-- The rows one more decision leaves. -/
def CycleStore.apply (s : CycleStore) : CycleCommand → Except InboxError CycleStore
  | .createNext next =>
      (createNextHandlingCycle ⟨next, s.head⟩).map fun decision ↦
        ⟨s.cycles ++ [decision.cycle], decision.head, s.log ++ decision.transitions⟩
  | .close close =>
      (closeHandlingCycle ⟨close, s.head⟩).map fun decision ↦
        ⟨s.cycles, decision.head, s.log ++ [decision.transition]⟩

/-- The rows the first cycle and then accepted decisions leave. -/
def CycleStore.run (input : CreateInitialHandlingCycleInput) (commands : List CycleCommand) :
    Except InboxError CycleStore :=
  CycleStore.create input >>= fun s ↦ commands.foldlM CycleStore.apply s

/-- How one cycle follows another: the next number, superseding the one before it, on the same
source revision or, exactly for the two source-advancing reasons, on a higher one. -/
structure HandlingCycle.Supersedes (before after : HandlingCycle) : Prop where
  cycleNumber : after.cycleNumber = before.cycleNumber + 1
  supersedes : after.supersedesCycleNumber = some before.cycleNumber
  sourceRevision : before.sourceRevision ≤ after.sourceRevision
  advances : before.sourceRevision < after.sourceRevision ↔
    after.openedReason.advancesSource = true

/-- The transitions of a cycle: its opening, and at most one close after it. -/
def IsEpisode (cycle : HandlingCycle) (transitions : List HandlingCycleTransition) : Prop :=
  ∃ opening, opening.kind ≠ .closed ∧ opening.sourceRevision = cycle.sourceRevision ∧
    (transitions = [opening] ∨
      ∃ close, close.kind = .closed ∧ close.sourceRevision = cycle.sourceRevision ∧
        transitions = [opening, close])

/-- A log explains cycles: it replays, and each cycle has its episode in it. -/
structure Explains (log : List HandlingCycleTransition) (cycles : List HandlingCycle)
    (p : HeadPosition) : Prop where
  replays : replay log = some p
  first : ∀ cycle, cycles.head? = some cycle →
    cycle.cycleNumber = 1 ∧ cycle.supersedesCycleNumber = none
  chain : cycles.IsChain HandlingCycle.Supersedes
  last : ∃ cycle, cycles.getLast? = some cycle ∧ cycle.cycleNumber = p.currentCycleNumber ∧
    cycle.sourceRevision = p.currentSourceRevision
  episodes : ∀ cycle ∈ cycles, IsEpisode cycle (transitionsOf log cycle.cycleNumber)
  recorded : ∀ t ∈ log, ∃ cycle ∈ cycles, cycle.cycleNumber = t.cycleNumber

variable {cycles : List HandlingCycle} {cycle : HandlingCycle}

/-- Cycles that supersede one another are numbered without a gap. -/
theorem cycleNumbers_of_chain {k : Int} (chain : cycles.IsChain HandlingCycle.Supersedes)
    (first : ∀ cycle, cycles.head? = some cycle → cycle.cycleNumber = k) :
    cycles.map (·.cycleNumber) =
      (List.range cycles.length).map (fun n : Nat ↦ (n : Int) + k) := by
  induction cycles generalizing k with
  | nil => rfl
  | cons oldest rest ih =>
      have hnumber : oldest.cycleNumber = k := first oldest rfl
      have hrest := ih (k := k + 1) chain.tail fun second hsecond ↦ by
        have hfollows := List.isChain_cons.1 chain |>.1 second hsecond
        rw [hfollows.cycleNumber, hnumber]
      rw [List.map_cons, List.length_cons, List.range_succ_eq_map, List.map_cons, List.map_map,
        hrest, hnumber]
      congr 1
      · simp
      · refine List.map_congr_left fun n _ ↦ ?_
        simp only [Function.comp_apply, Nat.succ_eq_add_one, Int.natCast_add, Int.cast_ofNat_Int]
        omega

/-- A cycle with an episode in the log is not after the current one. -/
theorem Explains.cycleNumber_le (explains : Explains log cycles p) (mem : cycle ∈ cycles) :
    cycle.cycleNumber ≤ p.currentCycleNumber := by
  by_contra hlater
  have hnil := transitionsOf_eq_nil explains.replays (Int.not_le.1 hlater)
  obtain ⟨opening, -, -, hone | ⟨close, -, -, htwo⟩⟩ := explains.episodes cycle mem
  · rw [hnil] at hone
    cases hone
  · rw [hnil] at htwo
    cases htwo

/-- Closing the current cycle keeps the log explaining its cycles. -/
theorem Explains.close (explains : Explains log cycles p) (hnext : p.next t = some p')
    (kind : t.kind = .closed) : Explains (log ++ [t]) cycles p' := by
  obtain ⟨-, -, hcycle, hsource, -, ⟨-, hsame, hsameSource, hopen, -⟩ | ⟨hopening, -⟩⟩ :=
    HeadPosition.next_eq_some hnext
  · refine ⟨?_, explains.first, explains.chain, ?_, fun cycle mem ↦ ?_, fun u hu ↦ ?_⟩
    · rw [replay_append_singleton, explains.replays]
      exact hnext
    · obtain ⟨last, hlast, hnumber, hrevision⟩ := explains.last
      exact ⟨last, hlast, by omega, by omega⟩
    · rw [transitionsOf_append_singleton]
      by_cases hcurrent : t.cycleNumber = cycle.cycleNumber
      · obtain ⟨opening, honly, hkind, hopened⟩ := transitionsOf_open explains.replays hopen
        have hnumber : p.currentCycleNumber = cycle.cycleNumber := by omega
        rw [hnumber] at honly
        -- the cycle's own episode is that one opening, so it has the current source revision
        have hrevision : cycle.sourceRevision = p.currentSourceRevision := by
          obtain ⟨opening', -, hsource', hone | ⟨close, -, -, htwo⟩⟩ := explains.episodes cycle mem
          · rw [honly, List.singleton_inj] at hone
            rw [← hsource', ← hone, hopened]
          · rw [honly] at htwo
            cases htwo
        refine ⟨opening, hkind, by omega, Or.inr ⟨t, kind, by omega, ?_⟩⟩
        rw [honly, if_pos hcurrent]
        rfl
      · rw [if_neg hcurrent, List.append_nil]
        exact explains.episodes cycle mem
    · rcases List.mem_append.1 hu with hu | hu
      · exact explains.recorded u hu
      · obtain ⟨last, hlast, hnumber, -⟩ := explains.last
        rw [List.mem_singleton.1 hu]
        exact ⟨last, List.mem_of_getLast? hlast, by omega⟩
  · exact absurd kind hopening

/-- Opening the next cycle keeps the log explaining its cycles. -/
theorem Explains.opening (explains : Explains log cycles p) (hnext : p.next t = some p')
    (kind : t.kind ≠ .closed) (number : cycle.cycleNumber = t.cycleNumber)
    (revision : cycle.sourceRevision = t.sourceRevision)
    (supersedes : cycle.supersedesCycleNumber = some p.currentCycleNumber)
    (advances : p.currentSourceRevision < cycle.sourceRevision ↔
      cycle.openedReason.advancesSource = true) :
    Explains (log ++ [t]) (cycles ++ [cycle]) p' := by
  obtain ⟨-, -, hcycle, hsource, hgrows, ⟨hclosed, -⟩ | ⟨-, hnew, -⟩⟩ :=
    HeadPosition.next_eq_some hnext
  · exact absurd hclosed kind
  · obtain ⟨last, hlast, hlastNumber, hlastRevision⟩ := explains.last
    refine ⟨?_, fun first hfirst ↦ ?_, ?_, ?_, fun other mem ↦ ?_, fun u hu ↦ ?_⟩
    · rw [replay_append_singleton, explains.replays]
      exact hnext
    · cases cycles with
      | nil => cases hlast
      | cons oldest rest => exact explains.first first hfirst
    · rw [List.isChain_append]
      refine ⟨explains.chain, List.isChain_singleton _, fun before hbefore after hafter ↦ ?_⟩
      obtain rfl : last = before := Option.some.inj (hlast.symm.trans hbefore)
      obtain rfl : cycle = after := Option.some.inj hafter
      rw [← hlastNumber] at supersedes
      rw [← hlastRevision] at advances
      exact ⟨by omega, supersedes, by omega, advances⟩
    · exact ⟨cycle, List.getLast?_concat, by omega, by omega⟩
    · rw [transitionsOf_append_singleton]
      rcases List.mem_append.1 mem with hold | hadded
      · have hbefore := explains.cycleNumber_le hold
        rw [if_neg (by omega), List.append_nil]
        exact explains.episodes other hold
      · rw [List.mem_singleton.1 hadded, if_pos number.symm,
          transitionsOf_eq_nil explains.replays (by omega)]
        exact ⟨t, kind, revision.symm, Or.inl rfl⟩
    · rcases List.mem_append.1 hu with hu | hu
      · obtain ⟨other, hother, hnumber⟩ := explains.recorded u hu
        exact ⟨other, List.mem_append_left _ hother, hnumber⟩
      · rw [List.mem_singleton.1 hu]
        exact ⟨cycle, List.mem_append_right _ (List.mem_singleton_self _), number⟩

/-! ## What the decisions record -/

/-- The rule of the opening reason about the source revision. -/
theorem sourceRevision_of_noViolation {input : CreateNextHandlingCycleInput}
    (h : findOpenedReasonViolation input = none) :
    input.current.currentSourceRevision ≤ input.sourceRevision ∧
      (input.current.currentSourceRevision < input.sourceRevision ↔
        input.openedReason.advancesSource = true) := by
  unfold findOpenedReasonViolation at h
  split at h
  · cases h
  · next hmaterial =>
      split at h
      · cases h
      · next hfeedback =>
          split at h
          · cases h
          · split at h
            · cases h
            · next hkeeps =>
                have hmaterialRule : input.openedReason = .materialRevisionChanged →
                    input.current.currentSourceRevision < input.sourceRevision := fun hreason ↦
                  Int.not_le.1 fun hle ↦ hmaterial ⟨hreason, Or.inr hle⟩
                have hfeedbackRule : input.openedReason = .feedbackSubmitted →
                    input.current.currentSourceRevision < input.sourceRevision := fun hreason ↦
                  Int.not_le.1 fun hle ↦ hfeedback ⟨hreason, Or.inr hle⟩
                have hkeepsRule : input.openedReason ≠ .materialRevisionChanged →
                    input.openedReason ≠ .feedbackSubmitted →
                    input.sourceRevision = input.current.currentSourceRevision :=
                  fun hnot hnot' ↦ not_not.1 fun hne ↦ hkeeps ⟨hnot, hnot', hne⟩
                cases hreason : input.openedReason <;>
                  simp [hreason, HandlingCycleOpenReason.advancesSource] at * <;> omega

/-- An accepted next cycle: the cycle and head it leaves, after a close of the current cycle where
that is open. -/
theorem createNextHandlingCycle_eq_ok {input : CreateNextHandlingCycleInput}
    {decision : HandlingCycleDecision} (h : createNextHandlingCycle input = .ok decision) :
    input.current.currentSourceRevision ≤ input.sourceRevision ∧
      (input.current.currentSourceRevision < input.sourceRevision ↔
        input.openedReason.advancesSource = true) ∧
      decision.cycle.cycleNumber = input.current.currentCycleNumber + 1 ∧
      decision.cycle.sourceRevision = input.sourceRevision ∧
      decision.cycle.openedReason = input.openedReason ∧
      decision.cycle.supersedesCycleNumber = some input.current.currentCycleNumber ∧
      ∃ opening, opening.kind ≠ .closed ∧
        opening.cycleNumber = input.current.currentCycleNumber + 1 ∧
        opening.sourceRevision = input.sourceRevision ∧
        opening.stateRevision =
          input.current.stateRevision + (if input.current.status = .open then 2 else 1) ∧
        decision.head.position =
          ⟨opening.cycleNumber, opening.sourceRevision, opening.stateRevision, .open⟩ ∧
        decision.transitions =
          (if input.current.status = .open then [supersededTransition input] else []) ++
            [opening] := by
  unfold createNextHandlingCycle at h
  simp only at h
  split at h
  · cases h
  · split at h
    · cases h
    · split at h
      · cases h
      · next hviolation =>
          obtain ⟨hgrows, hadvances⟩ := sourceRevision_of_noViolation hviolation
          have hkind : nextCycleTransitionKind input ≠ .closed := by
            unfold nextCycleTransitionKind
            repeat' split
            all_goals decide
          by_cases hopen : input.current.status = .open
          · simp only [if_pos hopen] at h ⊢
            split at h
            · cases h
            · cases h
              exact ⟨hgrows, hadvances, rfl, rfl, rfl, rfl, _, hkind, rfl, rfl, rfl, rfl, rfl⟩
          · simp only [if_neg hopen] at h ⊢
            split at h
            · cases h
            · cases h
              exact ⟨hgrows, hadvances, rfl, rfl, rfl, rfl, _, hkind, rfl, rfl, rfl, rfl, rfl⟩

/-- An accepted close: the head it leaves. -/
theorem closeHandlingCycle_eq_ok {input : CloseHandlingCycleInput} {decision : CloseDecision}
    (h : closeHandlingCycle input = .ok decision) :
    input.current.status = .open ∧ decision.transition.kind = .closed ∧
      decision.transition.cycleNumber = input.current.currentCycleNumber ∧
      decision.transition.sourceRevision = input.current.currentSourceRevision ∧
      decision.transition.stateRevision = input.current.stateRevision + 1 ∧
      decision.head.position =
        { input.current.position with
          stateRevision := input.current.stateRevision + 1
          status := .closed } := by
  unfold closeHandlingCycle at h
  simp only at h
  split at h
  · cases h
  · next hopen =>
      split at h
      · cases h
      · split at h
        · cases h
        · cases h
          exact ⟨not_not.1 hopen, rfl, rfl, rfl, rfl, rfl⟩

/-! ## Every run -/

/-- The log of a store explains its cycles and its head, but that a first cycle created closed may
still show as open. -/
structure LogInvariant (s : CycleStore) (shown : InboxStatus) : Prop where
  explains : Explains s.log s.cycles { s.head.position with status := shown }
  shownOpen : shown ≠ s.head.status → shown = .open ∧ s.head.status = .closed

/-- The first cycle is explained, and shows as open. -/
theorem create_logInvariant {input : CreateInitialHandlingCycleInput} {s : CycleStore}
    (h : CycleStore.create input = .ok s) :
    LogInvariant s .open ∧ s.head.status = input.status := by
  unfold CycleStore.create at h
  cases hdecision : createInitialHandlingCycle input with
  | error e =>
      rw [hdecision] at h
      cases h
  | ok decision =>
      rw [hdecision] at h
      unfold createInitialHandlingCycle at hdecision
      split at hdecision
      · cases hdecision
      · next hpositive =>
          split at hdecision
          · cases hdecision
          · cases hdecision
            cases h
            have hnonneg : (0 : Int) ≤ input.sourceRevision := by
              rw [Bool.not_eq_true, Bool.not_eq_false'] at hpositive
              unfold isPositiveSafeInteger at hpositive
              simp only [Bool.and_eq_true, decide_eq_true_eq] at hpositive
              omega
            have hfirst : HeadPosition.next .start
                { input.toCycleScope with
                  cycleNumber := 1
                  stateRevision := 1
                  sourceRevision := input.sourceRevision
                  kind := .opened
                  transitionReason := .openReason input.openedReason
                  actorType := input.actorType
                  actorUserId := none
                  triggerEventId := input.triggerEventId
                  transitionedAt := input.openedAt } =
                some ⟨1, input.sourceRevision, 1, .open⟩ := by
              simp [HeadPosition.next, HeadPosition.start, hnonneg]
            refine ⟨⟨⟨?_, ?_, List.isChain_singleton _, ⟨_, rfl, rfl, rfl⟩, ?_, ?_⟩, ?_⟩, rfl⟩
            · show replay ([] ++ [_]) = _
              rw [replay_append_singleton]
              exact hfirst
            · rintro cycle ⟨⟩
              exact ⟨rfl, rfl⟩
            · intro cycle mem
              rw [List.mem_singleton.1 mem]
              exact ⟨_, (fun hclosed ↦ by cases hclosed), rfl, Or.inl rfl⟩
            · intro t ht
              rw [List.mem_singleton.1 ht]
              exact ⟨_, List.mem_singleton_self _, rfl⟩
            · intro hne
              refine ⟨rfl, ?_⟩
              change InboxStatus.open ≠ input.status at hne
              show input.status = .closed
              cases hstatus : input.status with
              | «open» => exact absurd hstatus.symm hne
              | closed => rfl

/-- An accepted decision keeps the log explaining the rows, and the head where it is explained or a
cycle is opened. -/
theorem LogInvariant.apply {s s' : CycleStore} {shown : InboxStatus} {command : CycleCommand}
    (inv : LogInvariant s shown) (h : s.apply command = .ok s') :
    ∃ shown', LogInvariant s' shown' ∧
      (shown' = s'.head.status ↔ shown = s.head.status ∨ command.opensCycle = true) := by
  cases command with
  | createNext next =>
      unfold CycleStore.apply at h
      cases hdecision : createNextHandlingCycle ⟨next, s.head⟩ with
      | error e =>
          simp only [hdecision] at h
          cases h
      | ok decision =>
          simp only [hdecision] at h
          cases h
          obtain ⟨hgrows, hadvances, hnumber, hrevision, hreason, hsupersedes, opening, hkind,
            hcycle, hsource, hstate, hhead, htransitions⟩ := createNextHandlingCycle_eq_ok hdecision
          have hshown : (⟨opening.cycleNumber, opening.sourceRevision, opening.stateRevision,
              .open⟩ : HeadPosition) = { decision.head.position with status := .open } := by
            rw [hhead]
          refine ⟨.open, ⟨?_, fun hne ↦ absurd (congrArg HeadPosition.status hhead).symm hne⟩,
            fun _ ↦ Or.inr rfl, fun _ ↦ (congrArg HeadPosition.status hhead).symm⟩
          show Explains (s.log ++ decision.transitions) (s.cycles ++ [decision.cycle])
            { decision.head.position with status := .open }
          rw [htransitions, ← hshown]
          by_cases hopen : s.head.status = .open
          · -- the open cycle is closed first
            have hshownOpen : shown = .open := by
              by_contra hne
              have hclosed := (inv.shownOpen (by rw [hopen]; exact hne)).2
              rw [hopen] at hclosed
              cases hclosed
            rw [if_pos hopen] at hstate ⊢
            rw [← List.append_assoc]
            have hclosing := inv.explains.close (HeadPosition.next_close
              (t := supersededTransition ⟨next, s.head⟩) rfl rfl rfl rfl hshownOpen) rfl
            refine hclosing.opening (HeadPosition.next_opening hkind ?_ hcycle ?_) hkind
              (hnumber.trans hcycle.symm) (hrevision.trans hsource.symm) hsupersedes ?_
            · rw [hstate]
              show s.head.stateRevision + 2 = s.head.stateRevision + 1 + 1
              omega
            · rw [hsource]
              exact hgrows
            · rw [hrevision, hreason]
              exact hadvances
          · rw [if_neg hopen] at hstate ⊢
            refine inv.explains.opening (HeadPosition.next_opening hkind hstate hcycle ?_) hkind
              (hnumber.trans hcycle.symm) (hrevision.trans hsource.symm) hsupersedes ?_
            · rw [hsource]
              exact hgrows
            · rw [hrevision, hreason]
              exact hadvances
  | close close =>
      unfold CycleStore.apply at h
      cases hdecision : closeHandlingCycle ⟨close, s.head⟩ with
      | error e =>
          simp only [hdecision] at h
          cases h
      | ok decision =>
          simp only [hdecision] at h
          cases h
          obtain ⟨hopen, hkind, hcycle, hsource, hstate, hhead⟩ := closeHandlingCycle_eq_ok hdecision
          have hshownOpen : shown = .open := by
            by_contra hne
            have hclosed := (inv.shownOpen (by rw [hopen]; exact hne)).2
            rw [hopen] at hclosed
            cases hclosed
          have hclosed : decision.head.status = .closed := congrArg HeadPosition.status hhead
          refine ⟨.closed, ⟨?_, fun hne ↦ absurd hclosed.symm hne⟩,
            fun _ ↦ Or.inl (hshownOpen.trans hopen.symm), fun _ ↦ hclosed.symm⟩
          have hshown : ({ { s.head.position with status := shown } with
              stateRevision := decision.transition.stateRevision, status := .closed } :
                HeadPosition) = { decision.head.position with status := .closed } := by
            rw [hhead, hstate]
          show Explains (s.log ++ [decision.transition]) s.cycles _
          rw [← hshown]
          exact inv.explains.close
            (HeadPosition.next_close hkind hstate hcycle hsource hshownOpen) hkind

/-- The same of a sequence of accepted decisions. -/
theorem LogInvariant.applyAll {s s' : CycleStore} {shown : InboxStatus}
    {commands : List CycleCommand} (inv : LogInvariant s shown)
    (h : commands.foldlM CycleStore.apply s = .ok s') :
    ∃ shown', LogInvariant s' shown' ∧
      (shown' = s'.head.status ↔
        shown = s.head.status ∨ ∃ command ∈ commands, command.opensCycle = true) := by
  induction commands generalizing s shown with
  | nil =>
      cases h
      exact ⟨shown, inv, by simp⟩
  | cons command commands ih =>
      rw [List.foldlM_cons] at h
      cases hstep : s.apply command with
      | error e =>
          rw [hstep] at h
          cases h
      | ok mid =>
          rw [hstep] at h
          obtain ⟨shownMid, invMid, hmid⟩ := inv.apply hstep
          obtain ⟨shown', inv', hafter⟩ := ih invMid h
          refine ⟨shown', inv', ?_⟩
          rw [hafter, hmid]
          simp only [List.mem_cons, exists_eq_or_imp, or_assoc]

/-- The log of every run that creates a first cycle and continues with accepted decisions. Its
state revisions are 1, 2, 3 and so on; the cycles are numbered from 1 and each supersedes the one
before it, on the same source revision or, exactly for the two source-advancing reasons, on a
higher one; each cycle's transitions are one opening and at most one close after it, and the log
has no others; and the log leads to the head exactly where the first cycle was created open or a
later one was opened. -/
theorem log_explains_head {input : CreateInitialHandlingCycleInput} {commands : List CycleCommand}
    {s : CycleStore} (h : CycleStore.run input commands = .ok s) :
    s.log.map (·.stateRevision) = (List.range s.log.length).map (fun n : Nat ↦ (n : Int) + 1) ∧
      s.cycles.map (·.cycleNumber) =
        (List.range s.cycles.length).map (fun n : Nat ↦ (n : Int) + 1) ∧
      (∀ cycle, s.cycles.head? = some cycle → cycle.supersedesCycleNumber = none) ∧
      s.cycles.IsChain HandlingCycle.Supersedes ∧
      (∀ cycle ∈ s.cycles, IsEpisode cycle (transitionsOf s.log cycle.cycleNumber)) ∧
      (∀ t ∈ s.log, ∃ cycle ∈ s.cycles, cycle.cycleNumber = t.cycleNumber) ∧
      s.log.Pairwise (fun t u ↦ t.sourceRevision ≤ u.sourceRevision) ∧
      (replay s.log = some s.head.position ↔
        input.status = .open ∨ ∃ command ∈ commands, command.opensCycle = true) := by
  unfold CycleStore.run at h
  cases hcreate : CycleStore.create input with
  | error e =>
      rw [hcreate] at h
      cases h
  | ok first =>
      rw [hcreate] at h
      obtain ⟨invFirst, hstatus⟩ := create_logInvariant hcreate
      obtain ⟨shown, inv, hshown⟩ := invFirst.applyAll h
      have explains := inv.explains
      refine ⟨(replay_stateRevisions explains.replays).1, ?_, ?_, explains.chain,
        explains.episodes, explains.recorded, replay_sourceRevisions explains.replays, ?_⟩
      · exact cycleNumbers_of_chain explains.chain fun cycle hcycle ↦ (explains.first cycle hcycle).1
      · exact fun cycle hcycle ↦ (explains.first cycle hcycle).2
      · rw [hstatus] at hshown
        rw [explains.replays, @eq_comm _ input.status, ← hshown]
        refine ⟨fun hsame ↦ congrArg HeadPosition.status (Option.some.inj hsame), fun hsame ↦ ?_⟩
        rw [hsame]
        rfl

section Sample

/-- The first cycle of a review, created with a status. -/
def sampleFirstCycle (status : InboxStatus) : CreateInitialHandlingCycleInput :=
  { inboxItemId := 1
    organizationId := 1
    propertyId := 1
    sourceType := .review
    sourceId := 1
    sourceRevision := 4
    openedReason := .reviewObserved
    actorType := .provider
    triggerEventId := none
    openedAt := 0
    status := status
    mayOpenFirst := Or.inr (Or.inl rfl) }

/-- The guest edits the review. -/
def sampleMaterialChange : CycleCommand :=
  .createNext
    { sourceRevision := 5
      openedReason := .materialRevisionChanged
      manualReopenReason := none
      manualReopenExplanation := none
      openedBy := none
      actorType := .provider
      triggerEventId := none
      openedAt := 1
      mayOpenNext := by decide }

/-- The rows after the edit of an open review. -/
def sampleChanged : CycleStore :=
  { cycles :=
      [{ (sampleFirstCycle .open).toCycleScope with
          cycleNumber := 1
          sourceRevision := 4
          openedReason := .reviewObserved
          manualReopenReason := none
          manualReopenExplanation := none
          supersedesCycleNumber := none
          openedBy := none
          openedAt := 0 },
        { (sampleFirstCycle .open).toCycleScope with
          cycleNumber := 2
          sourceRevision := 5
          openedReason := .materialRevisionChanged
          manualReopenReason := none
          manualReopenExplanation := none
          supersedesCycleNumber := some 1
          openedBy := none
          openedAt := 1 }]
    head :=
      { (sampleFirstCycle .open).toCycleScope with
        currentCycleNumber := 2
        currentSourceRevision := 5
        stateRevision := 3
        status := .open }
    log :=
      [{ (sampleFirstCycle .open).toCycleScope with
          cycleNumber := 1
          stateRevision := 1
          sourceRevision := 4
          kind := .opened
          transitionReason := .openReason .reviewObserved
          actorType := .provider
          actorUserId := none
          triggerEventId := none
          transitionedAt := 0 },
        { (sampleFirstCycle .open).toCycleScope with
          cycleNumber := 1
          stateRevision := 2
          sourceRevision := 4
          kind := .closed
          transitionReason := .closeReason .supersededBySourceRevision
          actorType := .provider
          actorUserId := none
          triggerEventId := none
          transitionedAt := 1 },
        { (sampleFirstCycle .open).toCycleScope with
          cycleNumber := 2
          stateRevision := 3
          sourceRevision := 5
          kind := .opened
          transitionReason := .openReason .materialRevisionChanged
          actorType := .provider
          actorUserId := none
          triggerEventId := none
          transitionedAt := 1 }] }

/-- An edit of an open review leaves a log that leads to the head. -/
theorem log_explains_head_changed :
    CycleStore.run (sampleFirstCycle .open) [sampleMaterialChange] = .ok sampleChanged ∧
      replay sampleChanged.log = some sampleChanged.head.position := by
  have hrun : CycleStore.run (sampleFirstCycle .open) [sampleMaterialChange] =
      .ok sampleChanged := by
    decide
  obtain ⟨-, -, -, -, -, -, -, hhead⟩ := log_explains_head hrun
  exact ⟨hrun, hhead.2 (Or.inl rfl)⟩

/-- A first cycle created closed has a log that ends in its opening. -/
theorem closed_first_cycle_is_not_in_its_log :
    ¬ ∀ (input : CreateInitialHandlingCycleInput) (commands : List CycleCommand) (s : CycleStore),
      CycleStore.run input commands = .ok s → replay s.log = some s.head.position := by
  intro explains
  have hrun : CycleStore.run (sampleFirstCycle .closed) [] =
      .ok
        { sampleChanged with
          cycles := sampleChanged.cycles.take 1
          head :=
            { sampleChanged.head with
              currentCycleNumber := 1
              currentSourceRevision := 4
              stateRevision := 1
              status := .closed }
          log := sampleChanged.log.take 1 } := by
    decide
  exact absurd (explains _ _ _ hrun) (by decide)

end Sample

end ReputationKey.Inbox
