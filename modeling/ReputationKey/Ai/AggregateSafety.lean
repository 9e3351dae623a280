import ReputationKey.Ai.AggregateTotals

/-!
# Safety of the daily aggregates

Commands run one after another, each in a transaction that rolls back on an error. The days count
the latest contributions, and the contributions over which an analysis of the kind with mentions was
applied: such an analysis does not touch the days.
-/

namespace ReputationKey.Ai

open Base

/-- A command of the store. -/
inductive AggregateCommand (ρ α δ : Type)
  | apply (input : ApplyReviewAnalysis ρ α δ)
  | advance (input : AggregateIdentity ρ)

/-- Whether a command was applied. -/
def AggregateOutcome.isApplied : AggregateOutcome → Bool
  | .applied _ => true
  | _ => false

section Safety

variable {ρ α δ : Type}

/-! ## Commands that change no day -/

/-- A store whose days a command did not change. -/
structure Quiet (s s' : AggregateStore ρ α δ) : Prop where
  cube : SameCube s s'
  sound : AggregatesSound s'

theorem Quiet.refl {s : AggregateStore ρ α δ} (h : AggregatesSound s) : Quiet s s := ⟨.refl s, h⟩

/-- The ledger grew and the cube did not change. -/
theorem AggregatesSound.of_sameCube {s s' : AggregateStore ρ α δ} (h : AggregatesSound s)
    (cube : SameCube s s') (settled : ∀ row ∈ s.settlements, row ∈ s'.settlements)
    (distinct : ∀ epoch, (settledSequences epoch s').Nodup) (heads : HeadsCount s') :
    AggregatesSound s' := by
  refine ⟨?_, ?_, ?_, distinct, heads⟩
  · rw [cube.contributions]
    exact h.ranked
  · rw [cube.contributions]
    exact fun row mem ↦ settled _ (h.settled row mem)
  · rw [cube.contributions]
    exact h.valid

/-- A replay takes the head. -/
theorem Quiet.lock {s : AggregateStore ρ α δ} (h : AggregatesSound s) {input : AggregateIdentity ρ}
    (present : input.analysisSequence ∈ settledSequences input.generation.toAggregateEpoch s) :
    Quiet s (lockAggregateHead input.generation s).2 := by
  obtain ⟨hcube, hledger, -⟩ := lockAggregateHead_spec input.generation s
  have hnonempty : epochSettlements input.generation.toAggregateEpoch s ≠ [] := by
    intro hnil
    rw [settledSequences, hnil] at present
    cases present
  refine ⟨hcube, h.of_sameCube hcube (fun row mem ↦ by rwa [hledger]) (fun epoch ↦ ?_)
    (h.heads.lock hnonempty)⟩
  rw [settledSequences, epochSettlements, hledger]
  exact h.distinct epoch

/-- A sequence is settled without a contribution. -/
theorem Quiet.count {s : AggregateStore ρ α δ} (h : AggregatesSound s) {input : AggregateIdentity ρ}
    (absent : input.analysisSequence ∉ settledSequences input.generation.toAggregateEpoch s) :
    Quiet s (countSettledSequence input.generation (withSettlement input s)) := by
  obtain ⟨hcube, hledger⟩ := sameCube_countSettledSequence input.generation (withSettlement input s)
  have hall := (sameCube_withSettlement input s).trans hcube
  refine ⟨hall, h.of_sameCube hall (fun row mem ↦ ?_) (fun epoch ↦ ?_) ?_⟩
  · rw [hledger]
    exact List.mem_cons_of_mem _ mem
  · rw [settledSequences, epochSettlements, hledger]
    exact h.distinct_withSettlement absent epoch
  · let count := countedHead input.generation
      (lockAggregateHead input.generation (withSettlement input s)).2
    have hsame (head : AggregateHead) : (count head).generation = head.generation := rfl
    exact h.heads.count input hsame (fun _ ↦ rfl) rfl hledger

theorem findApplicable_error {input : ApplyReviewAnalysis ρ α δ} {outcome : AggregateOutcome}
    (h : findApplicable input = .error outcome) : outcome.isApplied = false := by
  rw [findApplicable] at h
  cases hanalysis : input.analysis with
  | none =>
      rw [hanalysis] at h
      cases h
      rfl
  | some analysis =>
      rw [hanalysis] at h
      dsimp only at h
      by_cases hcurrent : analysis.reviewAnalysisEpoch = input.generation.reviewAnalysisEpoch ∧
          analysis.propertyProfileVersion = input.generation.propertyProfileVersion
      · rw [if_pos hcurrent] at h
        cases hreview : input.currentReview with
        | none =>
            rw [hreview] at h
            cases h
            rfl
        | some review =>
            rw [hreview] at h
            dsimp only at h
            cases hdate : review.localDate with
            | none =>
                rw [hdate] at h
                cases h
                rfl
            | some localDate =>
                rw [hdate] at h
                cases h
      · rw [if_neg hcurrent] at h
        cases h
        rfl

theorem mem_withSettlement {s s' : AggregateStore ρ α δ} {input : AggregateIdentity ρ}
    (h : SettlementCommitted input s s') {row : AggregateSettlement ρ} (mem : row ∈ s.settlements) :
    row ∈ s'.settlements := by
  rw [h.settlements]
  exact List.mem_cons_of_mem _ mem

variable [DecidableEq ρ]

theorem settleReviewSequence_error {input : AggregateIdentity ρ} {s : AggregateStore ρ α δ}
    {error : AggregateError} (h : settleReviewSequence input s = .error error) :
    error = .settlementIdentityConflict := by
  rw [settleReviewSequence] at h
  cases hrecord : recordAggregateSettlement input s with
  | ok recorded =>
      rw [bind_of_ok hrecord] at h
      split_ifs at h
  | error error' =>
      rw [hrecord] at h
      rw [← Except.error.inj h]
      rw [recordAggregateSettlement] at hrecord
      cases hfind : (epochSettlements input.generation.toAggregateEpoch s).find? fun row ↦
          row.analysisSequence = input.analysisSequence with
      | none =>
          rw [hfind] at hrecord
          cases hrecord
      | some existing =>
          rw [hfind] at hrecord
          dsimp only at hrecord
          split_ifs at hrecord
          cases hrecord
          rfl

variable [DecidableEq α] [DecidableEq δ]

/-! ## Commands -/

/-- The tables of a Property that has applied nothing. -/
def AggregateStore.empty : AggregateStore ρ α δ where
  contributions := []
  settlements := []
  heads := []
  days := fun _ ↦ none
  aspectDays := fun _ ↦ none

/-- The transaction of a command. -/
def AggregateCommand.run (command : AggregateCommand ρ α δ) (s : AggregateStore ρ α δ) :
    Except AggregateError (AggregateOutcome × AggregateStore ρ α δ) :=
  match command with
  | .apply input => applyReviewAnalysis input s
  | .advance input => advanceWithoutAnalysis input s

/-- The store after a command. -/
def AggregateStore.next (s : AggregateStore ρ α δ) (command : AggregateCommand ρ α δ) :
    AggregateStore ρ α δ :=
  match command.run s with
  | .ok (_, s) => s
  | .error _ => s

/-- The store after commands. -/
def aggregatesAfter (commands : List (AggregateCommand ρ α δ)) : AggregateStore ρ α δ :=
  commands.foldl AggregateStore.next .empty

/-- What a command leaves on its day although it no longer stands for its review: an analysis of the
kind with mentions is applied over a ready contribution of the kind with aspects. -/
def AggregateCommand.leaves (command : AggregateCommand ρ α δ) (s : AggregateStore ρ α δ) :
    Option (StoredContribution ρ α δ) :=
  match command with
  | .advance _ => none
  | .apply input =>
      if (command.run s).toOption.any (fun result ↦ result.1.isApplied) ∧
          input.analysis.any (fun analysis ↦ analysis.mentions) then
        (latestContribution input.generation input.reviewId s.contributions).filter fun row ↦
          row.isAspectReady
      else none

/-- What commands leave on their days, from a store on. -/
def leftFrom (s : AggregateStore ρ α δ) :
    List (AggregateCommand ρ α δ) → List (StoredContribution ρ α δ)
  | [] => []
  | command :: commands => (command.leaves s).toList ++ leftFrom (s.next command) commands

/-- The contributions over which an analysis of the kind with mentions was applied. -/
def leftOnDays (commands : List (AggregateCommand ρ α δ)) : List (StoredContribution ρ α δ) :=
  leftFrom .empty commands

/-! ## What a command does -/

/-- A review was withdrawn. -/
structure Withdrawn (left : List (StoredContribution ρ α δ)) (input : AggregateIdentity ρ)
    (s s' : AggregateStore ρ α δ) : Prop where
  contributions : s'.contributions = s.contributions.filter fun row ↦
    contributionKey row ≠ (input.generation, input.reviewId)
  committed : SettlementCommitted input s s'
  counts : CountsOnly left input.generation s s'

/-- What a command may come to. -/
inductive CommandResult (left : List (StoredContribution ρ α δ)) (s : AggregateStore ρ α δ) :
    AggregateCommand ρ α δ → Except AggregateError (AggregateOutcome × AggregateStore ρ α δ) → Prop
  | refused {command : AggregateCommand ρ α δ} {error : AggregateError}
      (named : error = .settlementIdentityConflict ∨ error = .analysisAspectRowsInvalid) :
      CommandResult left s command (.error error)
  | quiet {command : AggregateCommand ρ α δ} {outcome : AggregateOutcome} {s' : AggregateStore ρ α δ}
      (unapplied : outcome.isApplied = false) (quiet : Quiet s s') :
      CommandResult left s command (.ok (outcome, s'))
  | applied {input : ApplyReviewAnalysis ρ α δ} {found : ApplicableAnalysis α δ} {revision : ℕ}
      {s' : AggregateStore ρ α δ} (new : IsNewSequence input.toAggregateIdentity s)
      (finds : findApplicable input = .ok found)
      (valid : hasValidAspects (found.contribution.status = .ready ∧ found.mentions = false)
        found.aspects = true)
      (applied : AnalysisApplied left input found s s') :
      CommandResult left s (.apply input) (.ok (.applied revision, s'))
  | withdrawn {input : AggregateIdentity ρ} {revision : ℕ} {s' : AggregateStore ρ α δ}
      (new : IsNewSequence input s) (withdrawn : Withdrawn left input s s') :
      CommandResult left s (.advance input) (.ok (.applied revision, s'))

theorem applyReviewAnalysis_result {s : AggregateStore ρ α δ} (sound : AggregatesSound s)
    (input : ApplyReviewAnalysis ρ α δ) {left : List (StoredContribution ρ α δ)}
    (counts : CountsCurrent left input.generation s) :
    CommandResult left s (.apply input) (applyReviewAnalysis input s) := by
  rw [applyReviewAnalysis]
  cases hfresh : appliedContribution input s with
  | some replayed => exact .quiet rfl (.refl sound)
  | none =>
      dsimp only
      cases hsettle : settleReviewSequence input.toAggregateIdentity s with
      | error error => exact .refused (.inl (settleReviewSequence_error hsettle))
      | ok settled =>
          rw [bind_of_ok rfl]
          obtain ⟨kind, settledStore⟩ := settled
          have hsettling := settleReviewSequence_ok hsettle
          dsimp only at hsettling ⊢
          cases hsettling with
          | stale => exact .quiet rfl (.refl sound)
          | late absent => exact .quiet rfl (.count sound absent)
          | new hnew =>
              rw [if_neg (by decide)]
              cases hfound : findApplicable input with
              | error outcome =>
                  rw [if_pos rfl]
                  exact .quiet (findApplicable_error hfound) (.count sound hnew.1)
              | ok found =>
                  dsimp only
                  split_ifs with hvalid hreplayed
                  · exact .refused (.inr rfl)
                  · cases hreplayed
                  · obtain ⟨revision, s', hok, happlied⟩ :=
                      applyFound_ok sound hnew hfound hfresh left counts
                    rw [settledStore] at hok
                    rw [hok]
                    exact .applied hnew hfound (by simpa using hvalid) happlied
          | replayed present =>
              rw [if_neg (by decide)]
              cases hfound : findApplicable input with
              | error outcome =>
                  rw [if_neg (by decide)]
                  exact .quiet (findApplicable_error hfound) (.refl sound)
              | ok found =>
                  dsimp only
                  split_ifs with hvalid hreplayed
                  · exact .refused (.inr rfl)
                  · exact .quiet rfl (.lock sound present)
                  · exact absurd rfl hreplayed

theorem advanceWithoutAnalysis_result {s : AggregateStore ρ α δ} (sound : AggregatesSound s)
    (input : AggregateIdentity ρ) {left : List (StoredContribution ρ α δ)}
    (counts : CountsCurrent left input.generation s) :
    CommandResult left s (.advance input) (advanceWithoutAnalysis input s) := by
  rw [advanceWithoutAnalysis]
  cases hsettle : settleReviewSequence input s with
  | error error => exact .refused (.inl (settleReviewSequence_error hsettle))
  | ok settled =>
      rw [bind_of_ok rfl]
      obtain ⟨kind, settled⟩ := settled
      have hsettling := settleReviewSequence_ok hsettle
      dsimp only at hsettling ⊢
      cases hsettling with
      | stale => exact .quiet rfl (.refl sound)
      | late absent => exact .quiet rfl (.count sound absent)
      | replayed present => exact .quiet rfl (.lock sound present)
      | new hnew =>
          rw [if_neg (by decide), if_neg (by decide)]
          let locked := lockAggregateHead input.generation (withSettlement input s)
          obtain ⟨days, aspectDays, hok, hcounts⟩ := withdraw_ok sound input locked.1
            (locked.1.aggregateRevision + 1) left counts
          obtain ⟨heads, hcommit, hcommitted⟩ := commit_ok sound.heads
            (withCube (settledStore input s) _ days aspectDays) input (locked.1.aggregateRevision + 1)
            rfl (lockAggregateHead_spec input.generation (withSettlement input s)).2.1
          rw [settledStore] at hok
          rw [bind_of_ok hok]
          rw [settledStore] at hcommit
          rw [bind_of_ok hcommit]
          exact .withdrawn hnew ⟨rfl, hcommitted, hcounts⟩

/-! ## Runs -/

/-- What holds of the tables, with the contributions that were left on their days. -/
structure AggregatesHold (left : List (StoredContribution ρ α δ)) (s : AggregateStore ρ α δ) :
    Prop where
  sound : AggregatesSound s
  counts : ∀ generation, CountsCurrent left generation s

theorem command_result {left : List (StoredContribution ρ α δ)} {s : AggregateStore ρ α δ}
    (h : AggregatesHold left s) (command : AggregateCommand ρ α δ) :
    CommandResult left s command (command.run s) := by
  cases command with
  | apply input => exact applyReviewAnalysis_result h.sound input (h.counts input.generation)
  | advance input => exact advanceWithoutAnalysis_result h.sound input (h.counts input.generation)

/-- A contribution that is stored for a new sequence. -/
theorem AnalysisApplied.sound {left : List (StoredContribution ρ α δ)} {s s' : AggregateStore ρ α δ}
    {input : ApplyReviewAnalysis ρ α δ} {found : ApplicableAnalysis α δ}
    (h : AnalysisApplied left input found s s') (sound : AggregatesSound s)
    (new : IsNewSequence input.toAggregateIdentity s) (finds : findApplicable input = .ok found)
    (valid : hasValidAspects (found.contribution.status = .ready ∧ found.mentions = false)
      found.aspects = true) : AggregatesSound s' := by
  obtain ⟨revision, hrows⟩ := h.contributions
  refine ⟨?_, ?_, ?_, fun epoch ↦ ?_, h.committed.heads⟩
  · rw [hrows]
    exact sound.ranked.cons (sound.newest new)
  · rw [hrows, List.forall_mem_cons]
    constructor
    · rw [h.committed.settlements]
      exact List.mem_cons_self
    · exact fun row mem ↦ mem_withSettlement h.committed (sound.settled row mem)
  · rw [hrows, List.forall_mem_cons]
    refine ⟨?_, sound.valid⟩
    have hkind : (storedContribution input found revision).isAspectReady =
        decide (found.contribution.status = .ready ∧ found.mentions = false) := by
      by_cases hready : found.contribution.status = .ready
      · have hmention : (storedContribution input found revision).isMention = found.mentions :=
          isMention_of_findApplicable finds hready
        have hstatus : (storedContribution input found revision).status = .ready := hready
        rw [StoredContribution.isAspectReady, hmention, hstatus]
        cases found.mentions <;> simp [hready]
      · have hstatus : (storedContribution input found revision).status ≠ .ready := hready
        simp [StoredContribution.isAspectReady, hready, hstatus]
    rw [hkind]
    exact valid
  · rw [settledSequences, epochSettlements, h.committed.settlements]
    exact sound.distinct_withSettlement new.1 epoch

theorem Withdrawn.sound {left : List (StoredContribution ρ α δ)} {s s' : AggregateStore ρ α δ}
    {input : AggregateIdentity ρ} (h : Withdrawn left input s s') (sound : AggregatesSound s)
    (new : IsNewSequence input s) : AggregatesSound s' := by
  refine ⟨?_, ?_, ?_, fun epoch ↦ ?_, h.committed.heads⟩
  · rw [h.contributions]
    exact sound.ranked.filter _
  · rw [h.contributions]
    exact fun row mem ↦ mem_withSettlement h.committed (sound.settled row (List.mem_filter.1 mem).1)
  · rw [h.contributions]
    exact fun row mem ↦ sound.valid row (List.mem_filter.1 mem).1
  · rw [settledSequences, epochSettlements, h.committed.settlements]
    exact sound.distinct_withSettlement new.1 epoch

theorem leaves_of_unapplied {command : AggregateCommand ρ α δ} {s : AggregateStore ρ α δ}
    (h : (command.run s).toOption.any (fun result ↦ result.1.isApplied) = false) :
    command.leaves s = none := by
  cases command with
  | advance input => rfl
  | apply input => rw [AggregateCommand.leaves, h, if_neg (by simp)]

theorem leaves_of_applied {input : ApplyReviewAnalysis ρ α δ} {s s' : AggregateStore ρ α δ}
    {found : ApplicableAnalysis α δ} {revision : ℕ}
    (run : (AggregateCommand.apply input).run s = .ok (.applied revision, s'))
    (finds : findApplicable input = .ok found) :
    (AggregateCommand.apply input).leaves s = if found.mentions then
      (latestContribution input.generation input.reviewId s.contributions).filter fun row ↦
        row.isAspectReady
      else none := by
  obtain ⟨analysis, hanalysis, hmentions, -⟩ := findApplicable_eq_ok finds
  have happlied : ((AggregateCommand.apply input).run s).toOption.any
      (fun result ↦ result.1.isApplied) = true := by
    rw [run]
    rfl
  rw [AggregateCommand.leaves, happlied, hanalysis, hmentions]
  simp

/-- The days of other generations are as they were, and so are their totals. -/
theorem counts_of_only {left : List (StoredContribution ρ α δ)} {generation : AggregateGeneration}
    {s s' : AggregateStore ρ α δ} (h : CountsOnly left generation s s')
    (counts : ∀ generation, CountsCurrent left generation s)
    (others : ∀ generation', generation' ≠ generation → ∀ date counter,
      currentTotal generation' date counter s'.contributions =
        currentTotal generation' date counter s.contributions) (generation' : AggregateGeneration) :
    CountsCurrent left generation' s' := by
  intro date counter
  rw [h]
  by_cases hgeneration : generation' = generation
  · rw [if_pos hgeneration, hgeneration]
  · rw [if_neg hgeneration, others generation' hgeneration, counts]

theorem AnalysisApplied.counts_mentions {left : List (StoredContribution ρ α δ)}
    {s s' : AggregateStore ρ α δ} {input : ApplyReviewAnalysis ρ α δ} {found : ApplicableAnalysis α δ}
    (h : AnalysisApplied left input found s s') (hold : AggregatesHold left s)
    (new : IsNewSequence input.toAggregateIdentity s) (finds : findApplicable input = .ok found)
    (mentions : found.mentions = true) (generation : AggregateGeneration) :
    CountsCurrent (left ++ ((latestContribution input.generation input.reviewId
      s.contributions).filter fun row ↦ row.isAspectReady).toList) generation s' := by
  obtain ⟨revision, hrows⟩ := h.contributions
  obtain ⟨hdays, haspects⟩ := h.mentions mentions
  intro date counter
  have hcount : s'.count generation date counter = s.count generation date counter := by
    cases counter <;> simp only [AggregateStore.count, hdays, haspects]
  -- what no longer stands for the review is what was left
  have hleft : standingTotal generation date counter ((latestContribution input.generation
        input.reviewId s.contributions).filter fun row ↦ row.isAspectReady).toList =
      if input.generation = generation then
        (latestContribution input.generation input.reviewId s.contributions).elim 0 fun row ↦
          row.standing date counter
      else 0 := by
    cases hlatest : latestContribution input.generation input.reviewId s.contributions with
    | none => simp [standingTotal]
    | some row =>
        have hgeneration : row.generation = input.generation :=
          (Prod.mk.inj (LatestRow.latest_mem hlatest).2).1
        cases hready : row.isAspectReady with
        | true =>
            rw [Option.filter_some, if_pos hready, Option.elim_some]
            simp [standingTotal, standingIn, hgeneration]
        | false =>
            rw [Option.filter_some, if_neg (Bool.eq_false_iff.1 hready), Option.elim_some,
              standing_of_not_aspectReady hready, ite_self]
            rfl
  have hstored : (storedContribution input found revision).standing date counter = 0 := by
    rw [standing_storedContribution finds, mentions, if_pos rfl]
  rw [hcount, hold.counts, hrows, currentTotal_cons hold.sound new, hstored,
    standingTotal_append, hleft]
  split_ifs <;> ring

/-- A command keeps what holds, with what it leaves on its day. -/
theorem AggregatesHold.next {left : List (StoredContribution ρ α δ)} {s : AggregateStore ρ α δ}
    (h : AggregatesHold left s) (command : AggregateCommand ρ α δ) :
    AggregatesHold (left ++ (command.leaves s).toList) (s.next command) := by
  have hresult := command_result h command
  generalize hrun : command.run s = result at hresult
  cases hresult with
  | refused named =>
      rw [leaves_of_unapplied (by rw [hrun]; rfl), Option.toList_none, List.append_nil,
        AggregateStore.next, hrun]
      exact h
  | quiet unapplied quiet =>
      rw [leaves_of_unapplied (by rw [hrun]; exact unapplied), Option.toList_none, List.append_nil,
        AggregateStore.next, hrun]
      refine ⟨quiet.sound, fun generation date counter ↦ ?_⟩
      rw [quiet.cube.count, quiet.cube.contributions]
      exact h.counts generation date counter
  | @applied _ found _ _ new finds valid applied =>
      rw [leaves_of_applied hrun finds, AggregateStore.next, hrun]
      refine ⟨applied.sound h.sound new finds valid, ?_⟩
      by_cases hmentions : found.mentions = true
      · rw [if_pos hmentions]
        exact applied.counts_mentions h new finds hmentions
      · rw [if_neg hmentions, Option.toList_none, List.append_nil]
        apply counts_of_only (applied.counts (Bool.eq_false_iff.2 hmentions)) h.counts
        intro generation hgeneration date counter
        obtain ⟨revision, hrows⟩ := applied.contributions
        rw [hrows, currentTotal_cons h.sound new, if_neg (Ne.symm hgeneration), add_zero]
  | @withdrawn input _ _ new withdrawn =>
      rw [AggregateCommand.leaves, Option.toList_none, List.append_nil, AggregateStore.next, hrun]
      refine ⟨withdrawn.sound h.sound new, counts_of_only withdrawn.counts h.counts ?_⟩
      intro generation hgeneration date counter
      have hremove := LatestRow.total_remove h.sound.ranked (standingIn generation date counter)
        (input.generation, input.reviewId)
      have hnone : (LatestRow.latest contributionKey StoredContribution.analysisSequence
          (input.generation, input.reviewId) s.contributions).elim 0
            (standingIn generation date counter) = 0 := by
        cases hlatest : LatestRow.latest contributionKey StoredContribution.analysisSequence
            (input.generation, input.reviewId) s.contributions with
        | none => rfl
        | some row =>
            have hrow : row.generation = input.generation :=
              (Prod.mk.inj (LatestRow.latest_mem hlatest).2).1
            rw [Option.elim_some, standingIn, if_neg (by rw [hrow]; exact Ne.symm hgeneration)]
      rw [hnone, add_zero] at hremove
      rw [withdrawn.contributions, currentTotal_eq, currentTotal_eq]
      exact hremove

theorem aggregatesHold_empty : AggregatesHold [] (.empty : AggregateStore ρ α δ) := by
  refine ⟨⟨List.Pairwise.nil, List.forall_mem_nil _, List.forall_mem_nil _, fun _ ↦ List.nodup_nil,
    ⟨List.nodup_nil, fun _ _ ↦ rfl, List.forall_mem_nil _⟩⟩, fun generation date counter ↦ ?_⟩
  cases counter <;> rfl

theorem aggregatesHold_from {left : List (StoredContribution ρ α δ)} {s : AggregateStore ρ α δ}
    (h : AggregatesHold left s) (commands : List (AggregateCommand ρ α δ)) :
    AggregatesHold (left ++ leftFrom s commands) (commands.foldl AggregateStore.next s) := by
  induction commands generalizing left s with
  | nil =>
      rw [leftFrom, List.append_nil]
      exact h
  | cons command commands ih =>
      rw [leftFrom, List.foldl_cons, ← List.append_assoc]
      exact ih (h.next command)

/-- The tables hold after any commands. -/
theorem aggregatesHold (commands : List (AggregateCommand ρ α δ)) :
    AggregatesHold (leftOnDays commands) (aggregatesAfter commands) :=
  aggregatesHold_from aggregatesHold_empty commands

/-! ## Every run -/

/-- After any commands, every day shows the contributions that stand for their reviews, together
with those over which an analysis of the kind with mentions was applied; a command fails only on a
sequence of another review or on an analysis with the wrong number of aspects; one that is not
applied changes no day; and the only head of an epoch has counted the distinct sequences of its
ledger. -/
theorem daily_aggregates_fold_contributions (commands : List (AggregateCommand ρ α δ)) :
    (∀ generation date, DayShows ((aggregatesAfter commands).count generation date)
      (dayContributions generation date
        (currentContributions (aggregatesAfter commands).contributions ++ leftOnDays commands))) ∧
    (∀ (command : AggregateCommand ρ α δ) error, command.run (aggregatesAfter commands) = .error error →
      error = .settlementIdentityConflict ∨ error = .analysisAspectRowsInvalid) ∧
    (∀ (command : AggregateCommand ρ α δ) outcome s',
      command.run (aggregatesAfter commands) = .ok (outcome, s') → outcome.isApplied = false → s'.days = (aggregatesAfter commands).days ∧
        s'.aspectDays = (aggregatesAfter commands).aspectDays) ∧
    ∀ head ∈ (aggregatesAfter commands).heads, (∀ other ∈ (aggregatesAfter commands).heads,
        other.generation.toAggregateEpoch = head.generation.toAggregateEpoch →
          other.generation = head.generation) →
      head.settledAnalysisCount = (settledSequences head.generation.toAggregateEpoch
        (aggregatesAfter commands)).toFinset.card := by
  have hold := aggregatesHold commands
  refine ⟨fun generation date ↦ ?_, fun command error hrun ↦ ?_,
    fun command outcome s' hrun happlied ↦ ?_, fun head mem sole ↦ ?_⟩
  · have hcount : (aggregatesAfter commands).count generation date = fun counter ↦
        standingTotal generation date counter
          (currentContributions (aggregatesAfter commands).contributions ++ leftOnDays commands) := by
      funext counter
      rw [hold.counts, standingTotal_append, currentTotal]
    rw [hcount]
    exact dayShows_standingTotal generation date _
  · have hresult := command_result hold command
    rw [hrun] at hresult
    cases hresult with
    | refused named => exact named
  · have hresult := command_result hold command
    rw [hrun] at hresult
    cases hresult with
    | quiet _ quiet => exact ⟨quiet.cube.days, quiet.cube.aspectDays⟩
    | applied | withdrawn => cases happlied
  · rw [hold.sound.heads.counted head mem sole, List.toFinset_card_of_nodup (hold.sound.distinct _),
      settledSequences, List.length_map]

end Safety

/-! ## An analysis of the kind with mentions over one of the kind with aspects -/

/-- A generation. -/
def sampleGeneration : AggregateGeneration := ⟨⟨1, 1⟩, 1⟩

/-- A ready analysis of the kind with aspects. -/
def sampleAspectAnalysis : ReviewAnalysisRow ℕ where
  reviewAnalysisEpoch := 1
  propertyProfileVersion := 1
  mentions := false
  status := .ready
  sentiment := some .positive
  primaryCategory := some 0
  attention := some .low
  aspectRows := [⟨0, .positive, 1⟩]
  described := by decide

/-- A ready analysis of the kind with mentions. -/
def sampleMentionAnalysis : ReviewAnalysisRow ℕ where
  reviewAnalysisEpoch := 1
  propertyProfileVersion := 1
  mentions := true
  status := .ready
  sentiment := some .positive
  primaryCategory := none
  attention := some .low
  aspectRows := []
  described := by decide

/-- An analysis of a review is applied. -/
def sampleApply (analysisSequence : ℕ) (analysis : ReviewAnalysisRow ℕ) : AggregateCommand ℕ ℕ ℕ :=
  .apply
    { generation := sampleGeneration
      reviewId := 7
      analysisSequence
      sourceRevision := analysisSequence
      analysis := some analysis
      currentReview := some ⟨4, by decide, some 20⟩ }

/-- A review that is analysed anew with mentions stays on the day of its earlier analysis. -/
theorem mention_analysis_leaves_day :
    ¬ ∀ (commands : List (AggregateCommand ℕ ℕ ℕ)) (generation : AggregateGeneration) (date : ℕ),
      DayShows ((aggregatesAfter commands).count generation date) (dayContributions generation date
        (currentContributions (aggregatesAfter commands).contributions)) := by
  intro h
  have hshows := (h [sampleApply 1 sampleAspectAnalysis, sampleApply 2 sampleMentionAnalysis]
    sampleGeneration 20).reviews
  revert hshows
  decide

end ReputationKey.Ai
