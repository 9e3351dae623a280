import ReputationKey.Ai.AggregateDays

/-!
# Runs of the daily aggregates

What a command does to the tables, and what holds of them after any commands: the ledger has each
sequence of an epoch once, a contribution is backed by the ledger, and the days count the latest
contributions of their generation, as long as no analysis of the kind with mentions comes after one
of the kind with aspects.
-/

namespace ReputationKey.Ai

open Base

section Runs

variable {ρ α δ : Type}

/-! ## The ledger -/

/-- The sequences that the ledger has settled in an epoch. -/
def settledSequences (epoch : AggregateEpoch) (s : AggregateStore ρ α δ) : List ℕ :=
  (epochSettlements epoch s).map (·.analysisSequence)

/-- A sequence newer than every one that is settled for its review, and not settled for another. -/
def IsNewSequence (input : AggregateIdentity ρ) (s : AggregateStore ρ α δ) : Prop :=
  input.analysisSequence ∉ settledSequences input.generation.toAggregateEpoch s ∧
    ∀ row ∈ epochSettlements input.generation.toAggregateEpoch s, row.reviewId = input.reviewId →
      row.analysisSequence < input.analysisSequence

/-- The store with the sequence settled in the ledger. -/
def withSettlement (input : AggregateIdentity ρ) (s : AggregateStore ρ α δ) : AggregateStore ρ α δ :=
  let row : AggregateSettlement ρ :=
    ⟨input.generation.toAggregateEpoch, input.analysisSequence, input.reviewId⟩
  { s with settlements := row :: s.settlements }

/-- Tables other than the ledger and the heads are as they were. -/
structure SameCube (s s' : AggregateStore ρ α δ) : Prop where
  contributions : s'.contributions = s.contributions
  days : s'.days = s.days
  aspectDays : s'.aspectDays = s.aspectDays

theorem SameCube.refl (s : AggregateStore ρ α δ) : SameCube s s := ⟨rfl, rfl, rfl⟩

theorem SameCube.trans {s s' s'' : AggregateStore ρ α δ} (h : SameCube s s') (h' : SameCube s' s'') :
    SameCube s s'' :=
  ⟨h'.contributions.trans h.contributions, h'.days.trans h.days, h'.aspectDays.trans h.aspectDays⟩

theorem sameCube_withSettlement (input : AggregateIdentity ρ) (s : AggregateStore ρ α δ) :
    SameCube s (withSettlement input s) := ⟨rfl, rfl, rfl⟩

theorem lockAggregateHead_spec (generation : AggregateGeneration) (s : AggregateStore ρ α δ) :
    SameCube s (lockAggregateHead generation s).2 ∧
      (lockAggregateHead generation s).2.settlements = s.settlements ∧
      headOf generation (lockAggregateHead generation s).2 =
        some (lockAggregateHead generation s).1 := by
  rw [lockAggregateHead]
  cases h : headOf generation s with
  | some head => exact ⟨.refl s, rfl, h⟩
  | none => exact ⟨⟨rfl, rfl, rfl⟩, rfl, by simp [headOf, RowTable.find]⟩

theorem sameCube_countSettledSequence (generation : AggregateGeneration) (s : AggregateStore ρ α δ) :
    SameCube s (countSettledSequence generation s) ∧
      (countSettledSequence generation s).settlements = s.settlements := by
  obtain ⟨hsame, hledger, -⟩ := lockAggregateHead_spec generation s
  exact ⟨⟨hsame.contributions, hsame.days, hsame.aspectDays⟩, hledger⟩

section Ledger

variable [DecidableEq ρ]

/-- Recording a sequence adds a row to the ledger, or finds one. -/
theorem recordAggregateSettlement_ok {input : AggregateIdentity ρ} {s : AggregateStore ρ α δ}
    {result : Bool × AggregateStore ρ α δ} (h : recordAggregateSettlement input s = .ok result) :
    (result = (true, withSettlement input s) ∧
      input.analysisSequence ∉ settledSequences input.generation.toAggregateEpoch s) ∨
    (result = (false, s) ∧
      input.analysisSequence ∈ settledSequences input.generation.toAggregateEpoch s) := by
  rw [recordAggregateSettlement] at h
  cases hfind : (epochSettlements input.generation.toAggregateEpoch s).find? fun row ↦
      row.analysisSequence = input.analysisSequence with
  | none =>
      rw [hfind] at h
      refine .inl ⟨(Except.ok.inj h).symm, fun mem ↦ ?_⟩
      obtain ⟨row, hrow, hsequence⟩ := List.mem_map.1 mem
      exact absurd (List.find?_eq_none.1 hfind row hrow) (by simpa using hsequence)
  | some existing =>
      rw [hfind] at h
      refine .inr ⟨(Except.ok.inj (ok_of_guard h).2).symm, ?_⟩
      have hsequence := List.find?_some hfind
      rw [decide_eq_true_eq] at hsequence
      rw [settledSequences, ← hsequence]
      exact List.mem_map_of_mem (List.mem_of_find?_eq_some hfind)

/-- What settling a sequence may come to. -/
inductive SequenceSettling (input : AggregateIdentity ρ) (s : AggregateStore ρ α δ) :
    SettlementKind → AggregateStore ρ α δ → Prop
  | new : IsNewSequence input s → SequenceSettling input s .new (withSettlement input s)
  | replayed : input.analysisSequence ∈ settledSequences input.generation.toAggregateEpoch s →
      SequenceSettling input s .replayed s
  | stale : SequenceSettling input s .stale s
  | late : input.analysisSequence ∉ settledSequences input.generation.toAggregateEpoch s →
      SequenceSettling input s .stale (countSettledSequence input.generation (withSettlement input s))

theorem settleReviewSequence_ok {input : AggregateIdentity ρ} {s : AggregateStore ρ α δ}
    {settled : SettlementKind × AggregateStore ρ α δ} (h : settleReviewSequence input s = .ok settled) :
    SequenceSettling input s settled.1 settled.2 := by
  rw [settleReviewSequence] at h
  obtain ⟨recorded, hrecorded, h⟩ := ok_of_bind h
  have hlatest {latest : ℕ} (hmax : readLatestReviewSettlement input s = some latest) :
      latest ∈ settledSequences input.generation.toAggregateEpoch s ∧
        ∀ row ∈ epochSettlements input.generation.toAggregateEpoch s, row.reviewId = input.reviewId →
          row.analysisSequence ≤ latest := by
    obtain ⟨hmem, hgreatest⟩ := List.max?_eq_some_iff.1 hmax
    obtain ⟨row, hrow, rfl⟩ := List.mem_map.1 hmem
    refine ⟨List.mem_map_of_mem (List.mem_filter.1 hrow).1, fun row hrow hreview ↦ ?_⟩
    exact hgreatest _ (List.mem_map_of_mem (List.mem_filter.2 ⟨hrow, by simpa using hreview⟩))
  rcases recordAggregateSettlement_ok hrecorded with ⟨rfl, habsent⟩ | ⟨rfl, hpresent⟩
  · by_cases hsame : readLatestReviewSettlement input s = some input.analysisSequence
    · exact absurd (hlatest hsame).1 habsent
    rw [if_neg hsame] at h
    by_cases hstale : (readLatestReviewSettlement input s).any fun latest ↦
        input.analysisSequence < latest
    · rw [if_pos hstale] at h
      rw [← Except.ok.inj h]
      exact .late habsent
    · rw [if_neg hstale] at h
      rw [← Except.ok.inj h]
      refine .new ⟨habsent, fun row hrow hreview ↦ ?_⟩
      have hne : row.analysisSequence ≠ input.analysisSequence := by
        intro heq
        exact habsent (heq ▸ List.mem_map_of_mem hrow)
      cases hmax : readLatestReviewSettlement input s with
      | none =>
          have hnil := List.max?_eq_none_iff.1 hmax
          rw [List.map_eq_nil_iff, List.filter_eq_nil_iff] at hnil
          exact absurd (hnil row hrow) (by simpa using hreview)
      | some latest =>
          have hle := (hlatest hmax).2 row hrow hreview
          rw [hmax] at hstale
          simp only [Option.any_some, decide_eq_true_eq] at hstale
          omega
  · by_cases hsame : readLatestReviewSettlement input s = some input.analysisSequence
    · rw [if_pos hsame] at h
      rw [← Except.ok.inj h]
      exact .replayed hpresent
    rw [if_neg hsame] at h
    by_cases hstale : (readLatestReviewSettlement input s).any fun latest ↦
        input.analysisSequence < latest
    · rw [if_pos hstale] at h
      rw [← Except.ok.inj h]
      exact .stale
    · rw [if_neg hstale] at h
      rw [← Except.ok.inj h]
      exact .replayed hpresent

end Ledger

/-! ## Heads -/

/-- Heads of different generations, of which the only one of its epoch has counted the epoch's
ledger; an epoch without a head has settled nothing. -/
structure HeadsCount (s : AggregateStore ρ α δ) : Prop where
  nodup : (s.heads.map AggregateHead.generation).Nodup
  started : ∀ epoch, epochHeads epoch s = [] → epochSettlements epoch s = []
  counted : ∀ head ∈ s.heads, (∀ other ∈ s.heads,
      other.generation.toAggregateEpoch = head.generation.toAggregateEpoch →
        other.generation = head.generation) →
    head.settledAnalysisCount = (epochSettlements head.generation.toAggregateEpoch s).length

theorem epochSettlements_withSettlement (input : AggregateIdentity ρ) (s : AggregateStore ρ α δ)
    (epoch : AggregateEpoch) : epochSettlements epoch (withSettlement input s) =
      if epoch = input.generation.toAggregateEpoch then
        ⟨epoch, input.analysisSequence, input.reviewId⟩ :: epochSettlements epoch s
      else epochSettlements epoch s := by
  rw [epochSettlements, withSettlement, List.filter_cons, epochSettlements]
  by_cases h : epoch = input.generation.toAggregateEpoch
  · simp [h]
  · simp [h, Ne.symm h]

/-- Heads once the one of a generation is there. -/
theorem heads_lockAggregateHead (generation : AggregateGeneration) (s : AggregateStore ρ α δ) :
    (lockAggregateHead generation s).2.heads = s.heads ∨
      (headOf generation s = none ∧ ∃ head : AggregateHead, head.generation = generation ∧
        (lockAggregateHead generation s).2.heads = head :: s.heads) := by
  rw [lockAggregateHead]
  cases h : headOf generation s with
  | some head => exact .inl rfl
  | none => exact .inr ⟨rfl, _, rfl, rfl⟩

theorem nodup_lockAggregateHead {generation : AggregateGeneration} {s : AggregateStore ρ α δ}
    (h : (s.heads.map AggregateHead.generation).Nodup) :
    ((lockAggregateHead generation s).2.heads.map AggregateHead.generation).Nodup := by
  rcases heads_lockAggregateHead generation s with hheads | ⟨hnone, head, rfl, hheads⟩
  · rwa [hheads]
  · rw [hheads, List.map_cons, List.nodup_cons]
    exact ⟨RowTable.find_eq_none_iff.1 hnone, h⟩

theorem mem_lockAggregateHead {generation : AggregateGeneration} {s : AggregateStore ρ α δ}
    {head : AggregateHead} (mem : head ∈ (lockAggregateHead generation s).2.heads) :
    head ∈ s.heads ∨ head.generation = generation := by
  rcases heads_lockAggregateHead generation s with hheads | ⟨-, locked, hgeneration, hheads⟩
  · rw [hheads] at mem
    exact .inl mem
  · rw [hheads, List.mem_cons] at mem
    rcases mem with rfl | mem
    · exact .inr hgeneration
    · exact .inl mem

theorem mem_heads_of_lock (generation : AggregateGeneration) {s : AggregateStore ρ α δ}
    {head : AggregateHead} (mem : head ∈ s.heads) :
    head ∈ (lockAggregateHead generation s).2.heads := by
  rcases heads_lockAggregateHead generation s with hheads | ⟨-, locked, -, hheads⟩
  · rwa [hheads]
  · rw [hheads]
    exact List.mem_cons_of_mem _ mem

/-- A head that is taken while the epoch has settled something. -/
theorem HeadsCount.lock {s : AggregateStore ρ α δ} (h : HeadsCount s) {generation : AggregateGeneration}
    (settled : epochSettlements generation.toAggregateEpoch s ≠ []) :
    HeadsCount (lockAggregateHead generation s).2 := by
  have hledger (epoch : AggregateEpoch) :
      epochSettlements epoch (lockAggregateHead generation s).2 = epochSettlements epoch s := by
    rw [epochSettlements, (lockAggregateHead_spec generation s).2.1, epochSettlements]
  refine ⟨nodup_lockAggregateHead h.nodup, fun epoch hnone ↦ ?_, fun head mem sole ↦ ?_⟩
  · rw [hledger]
    apply h.started
    rw [epochHeads, List.filter_eq_nil_iff] at hnone ⊢
    exact fun head mem ↦ hnone head (mem_heads_of_lock generation mem)
  · have hkept : head ∈ s.heads → head.settledAnalysisCount =
        (epochSettlements head.generation.toAggregateEpoch s).length := fun mem ↦
      h.counted head mem fun other hother ↦ sole other (mem_heads_of_lock generation hother)
    rw [hledger]
    rcases heads_lockAggregateHead generation s with hheads | ⟨hnone, locked, rfl, hheads⟩
    · rw [hheads] at mem
      exact hkept mem
    · rw [hheads, List.mem_cons] at mem
      rcases mem with rfl | mem
      · -- another head of the epoch has counted what is settled
        exfalso
        apply settled
        apply h.started
        rw [epochHeads, List.filter_eq_nil_iff]
        intro other hother hepoch
        rw [decide_eq_true_eq] at hepoch
        have hsame := sole other (mem_heads_of_lock _ hother) hepoch
        exact RowTable.find_eq_none_iff.1 hnone (hsame ▸ List.mem_map_of_mem hother)
      · exact hkept mem

/-- A head that counts a new settlement. -/
theorem HeadsCount.count {s s' : AggregateStore ρ α δ} (h : HeadsCount s) (input : AggregateIdentity ρ)
    {change : AggregateHead → AggregateHead}
    (same : ∀ head, (change head).generation = head.generation)
    (counts : ∀ head, (change head).settledAnalysisCount = settledCountAfterSettlement input.generation
      (lockAggregateHead input.generation (withSettlement input s)).2 head.settledAnalysisCount)
    (heads : s'.heads = RowTable.alter AggregateHead.generation input.generation change
      (lockAggregateHead input.generation (withSettlement input s)).2.heads)
    (settlements : s'.settlements = (withSettlement input s).settlements) : HeadsCount s' := by
  let locked := (lockAggregateHead input.generation (withSettlement input s)).2
  obtain ⟨-, hlockedLedger, hlockedHead⟩ :=
    lockAggregateHead_spec input.generation (withSettlement input s)
  have hledger (epoch : AggregateEpoch) :
      epochSettlements epoch s' = epochSettlements epoch (withSettlement input s) := by
    rw [epochSettlements, settlements, epochSettlements]
  have hlocked (epoch : AggregateEpoch) :
      epochSettlements epoch locked = epochSettlements epoch (withSettlement input s) := by
    rw [epochSettlements, hlockedLedger, epochSettlements]
  have hcounter := (RowTable.mem_of_find hlockedHead).1
  have hgenerations : s'.heads.map AggregateHead.generation =
      locked.heads.map AggregateHead.generation := by
    rw [heads, RowTable.map_key_alter same]
  have hpresent (generation : AggregateGeneration)
      (mem : generation ∈ locked.heads.map AggregateHead.generation) :
      ∃ other ∈ s'.heads, other.generation = generation := by
    rw [← hgenerations] at mem
    exact List.mem_map.1 mem
  refine ⟨?_, fun epoch hnone ↦ ?_, fun head mem sole ↦ ?_⟩
  · rw [hgenerations]
    exact nodup_lockAggregateHead h.nodup
  · rw [epochHeads, List.filter_eq_nil_iff] at hnone
    have hother {other : AggregateHead} (mem : other ∈ locked.heads) :
        other.generation.toAggregateEpoch ≠ epoch := by
      obtain ⟨head, hhead, hgeneration⟩ := hpresent _ (List.mem_map_of_mem mem)
      have hne := hnone head hhead
      rwa [decide_eq_true_eq, hgeneration] at hne
    have hepoch : epoch ≠ input.generation.toAggregateEpoch := by
      intro hsame
      apply hother hcounter
      rw [(RowTable.mem_of_find hlockedHead).2, hsame]
    rw [hledger, epochSettlements_withSettlement, if_neg hepoch]
    apply h.started
    rw [epochHeads, List.filter_eq_nil_iff]
    intro other hmem
    rw [decide_eq_true_eq]
    exact hother (mem_heads_of_lock _ hmem)
  · have hsole {other : AggregateHead} (mem : other ∈ locked.heads)
        (hepoch : other.generation.toAggregateEpoch = head.generation.toAggregateEpoch) :
        other.generation = head.generation := by
      obtain ⟨same, hmem, hgeneration⟩ := hpresent _ (List.mem_map_of_mem mem)
      rw [← hgeneration] at hepoch ⊢
      exact sole same hmem hepoch
    rw [heads] at mem
    rcases RowTable.mem_alter mem with ⟨old, -, hold, rfl⟩ | ⟨hmem, hne⟩
    · have hgeneration : (change old).generation = input.generation := (same old).trans hold
      have hnone : ((epochHeads input.generation.toAggregateEpoch locked).any fun head ↦
          decide (head.generation ≠ input.generation)) = false := by
        rw [List.any_eq_false]
        intro other hother
        obtain ⟨hmem, hepoch⟩ := List.mem_filter.1 hother
        rw [decide_eq_true_eq] at hepoch
        rw [decide_eq_true_eq, not_not]
        rw [hgeneration] at hsole
        exact hsole hmem hepoch
      rw [counts, settledCountAfterSettlement, hnone, if_neg Bool.false_ne_true, hlocked, hgeneration,
        hledger]
    · have hepoch : head.generation.toAggregateEpoch ≠ input.generation.toAggregateEpoch := by
        intro hsame
        have hgeneration := (RowTable.mem_of_find hlockedHead).2
        apply hne
        rw [← hgeneration] at hsame ⊢
        exact (hsole hcounter hsame.symm).symm
      rw [hledger, epochSettlements_withSettlement, if_neg hepoch]
      rcases mem_lockAggregateHead hmem with hmem | hsame
      · exact h.counted head hmem fun other hother ↦ hsole (mem_heads_of_lock _ hother)
      · exact absurd hsame hne

/-! ## What holds after any commands -/

/-- A contribution of the kind with aspects that is ready: one that stands on a day. -/
def StoredContribution.isAspectReady (row : StoredContribution ρ α δ) : Bool :=
  row.status == .ready && !row.isMention

/-- Contributions of different sequences that the ledger has, with as many aspects as their kind;
the ledger has each sequence of an epoch once, and the heads count it. -/
structure AggregatesSound (s : AggregateStore ρ α δ) : Prop where
  ranked : LatestRow.Ranked contributionKey StoredContribution.analysisSequence s.contributions
  settled : ∀ row ∈ s.contributions,
    ⟨row.generation.toAggregateEpoch, row.analysisSequence, row.reviewId⟩ ∈ s.settlements
  valid : ∀ row ∈ s.contributions, hasValidAspects row.isAspectReady row.aspects = true
  distinct : ∀ epoch, (settledSequences epoch s).Nodup
  heads : HeadsCount s

/-- A new sequence is newer than every contribution of its review. -/
theorem AggregatesSound.newest {s : AggregateStore ρ α δ} (h : AggregatesSound s)
    {input : AggregateIdentity ρ} (new : IsNewSequence input s) : ∀ row ∈ s.contributions,
      contributionKey row = (input.generation, input.reviewId) →
        row.analysisSequence < input.analysisSequence := by
  intro row mem hkey
  obtain ⟨hgeneration, hreview⟩ := Prod.mk.inj hkey
  exact new.2 ⟨row.generation.toAggregateEpoch, row.analysisSequence, row.reviewId⟩
    (List.mem_filter.2 ⟨h.settled row mem, by rw [hgeneration, decide_eq_true_eq]⟩) hreview

theorem AggregatesSound.distinct_withSettlement {s : AggregateStore ρ α δ} (h : AggregatesSound s)
    {input : AggregateIdentity ρ}
    (absent : input.analysisSequence ∉ settledSequences input.generation.toAggregateEpoch s)
    (epoch : AggregateEpoch) : (settledSequences epoch (withSettlement input s)).Nodup := by
  rw [settledSequences, epochSettlements_withSettlement]
  by_cases hepoch : epoch = input.generation.toAggregateEpoch
  · subst hepoch
    rw [if_pos rfl, List.map_cons, List.nodup_cons]
    exact ⟨absent, h.distinct _⟩
  · rw [if_neg hepoch]
    exact h.distinct epoch

theorem settledCount_congr {s s' : AggregateStore ρ α δ} (heads : s'.heads = s.heads)
    (settlements : s'.settlements = s.settlements) (generation : AggregateGeneration) (settled : ℕ) :
    settledCountAfterSettlement generation s' settled =
      settledCountAfterSettlement generation s settled := by
  rw [settledCountAfterSettlement, epochHeads, epochSettlements, heads, settlements]
  rfl

/-- A store that settled a new sequence and committed its head. -/
structure SettlementCommitted (input : AggregateIdentity ρ) (s s' : AggregateStore ρ α δ) : Prop where
  settlements : s'.settlements = (withSettlement input s).settlements
  heads : HeadsCount s'

/-- What a cube that was updated is committed to. -/
theorem commit_ok {s : AggregateStore ρ α δ} (h : HeadsCount s) (cube : AggregateStore ρ α δ)
    (input : AggregateIdentity ρ) (aggregateRevision : ℕ)
    (heads : cube.heads = (lockAggregateHead input.generation (withSettlement input s)).2.heads)
    (settlements : cube.settlements = (withSettlement input s).settlements) :
    ∃ heads', commitAggregateHead input.generation input.analysisSequence
        (lockAggregateHead input.generation (withSettlement input s)).1 aggregateRevision cube =
          .ok { cube with heads := heads' } ∧
      SettlementCommitted input s { cube with heads := heads' } := by
  obtain ⟨-, hledger, hhead⟩ := lockAggregateHead_spec input.generation (withSettlement input s)
  let commit := committedHead input.generation input.analysisSequence aggregateRevision cube
  have hfound : headOf input.generation cube =
      some (lockAggregateHead input.generation (withSettlement input s)).1 := by
    rw [headOf, heads]
    exact hhead
  have hsame (head : AggregateHead) : (commit head).generation = head.generation := rfl
  refine ⟨RowTable.alter AggregateHead.generation input.generation commit cube.heads, ?_,
    settlements, ?_⟩
  · rw [commitAggregateHead, hfound, Option.map_some, if_neg (not_not_intro rfl)]
  · have hcounts (head : AggregateHead) :=
      settledCount_congr heads (settlements.trans hledger.symm) input.generation
        head.settledAnalysisCount
    have hheads : RowTable.alter AggregateHead.generation input.generation commit cube.heads =
        RowTable.alter AggregateHead.generation input.generation commit
          (lockAggregateHead input.generation (withSettlement input s)).2.heads := by rw [heads]
    exact h.count input hsame hcounts hheads settlements

/-! ## Commands on the ledger -/

/-- The store whose ledger has the sequence and whose head is taken. -/
def settledStore (input : AggregateIdentity ρ) (s : AggregateStore ρ α δ) : AggregateStore ρ α δ :=
  (lockAggregateHead input.generation (withSettlement input s)).2

theorem sameCube_settledStore (input : AggregateIdentity ρ) (s : AggregateStore ρ α δ) :
    SameCube s (settledStore input s) :=
  (sameCube_withSettlement input s).trans
    (lockAggregateHead_spec input.generation (withSettlement input s)).1

theorem SameCube.count {s s' : AggregateStore ρ α δ} (h : SameCube s s')
    (generation : AggregateGeneration) (date : δ) (counter : DayCounter α) :
    s'.count generation date counter = s.count generation date counter := by
  cases counter <;> simp only [AggregateStore.count, h.days, h.aspectDays]

/-- A store with another cube. -/
def withCube (s : AggregateStore ρ α δ) (contributions : List (StoredContribution ρ α δ))
    (days : KeyedRecord (AggregateGeneration × δ) DailyRow)
    (aspectDays : KeyedRecord (AggregateGeneration × δ × α × AspectPolarity) ℤ) :
    AggregateStore ρ α δ :=
  { s with contributions, days, aspectDays }

/-- What an apply finds comes from its analysis. -/
theorem findApplicable_eq_ok {input : ApplyReviewAnalysis ρ α δ} {found : ApplicableAnalysis α δ}
    (h : findApplicable input = .ok found) : ∃ analysis, input.analysis = some analysis ∧
      found.mentions = analysis.mentions ∧ found.contribution.status = analysis.status ∧
      found.contribution.primaryCategory = analysis.primaryCategory ∧
      found.aspects = if analysis.status = .ready ∧ analysis.mentions = false then
        analysis.aspectRows else [] := by
  rw [findApplicable] at h
  cases hanalysis : input.analysis with
  | none =>
      rw [hanalysis] at h
      cases h
  | some analysis =>
      rw [hanalysis] at h
      dsimp only at h
      by_cases hcurrent : analysis.reviewAnalysisEpoch = input.generation.reviewAnalysisEpoch ∧
          analysis.propertyProfileVersion = input.generation.propertyProfileVersion
      · rw [if_pos hcurrent] at h
        cases hreview : input.currentReview with
        | none =>
            rw [hreview] at h
            cases h
        | some review =>
            rw [hreview] at h
            dsimp only at h
            cases hdate : review.localDate with
            | none =>
                rw [hdate] at h
                cases h
            | some localDate =>
                rw [hdate] at h
                rw [← Except.ok.inj h]
                exact ⟨analysis, rfl, rfl, rfl, rfl, rfl⟩
      · rw [if_neg hcurrent] at h
        cases h

/-- What an apply finds is of the kind with mentions exactly when its analysis is. -/
theorem isMention_of_findApplicable {input : ApplyReviewAnalysis ρ α δ}
    {found : ApplicableAnalysis α δ} (h : findApplicable input = .ok found)
    (ready : found.contribution.status = .ready) : found.contribution.isMention = found.mentions := by
  obtain ⟨analysis, -, hmentions, hstatus, hcategory, -⟩ := findApplicable_eq_ok h
  have hdescribed := analysis.described.2.2
  rw [← hstatus, ready, ← hcategory] at hdescribed
  have hnone : found.contribution.primaryCategory.isNone = analysis.mentions := by
    rw [← Option.not_isSome, hdescribed]
    simp
  rw [Contribution.isMention, ready, hnone, hmentions]
  rfl

/-! ## The previous contribution -/

variable [DecidableEq ρ]

/-- The latest contribution of a review in a generation. -/
def latestContribution (generation : AggregateGeneration) (reviewId : ρ)
    (rows : List (StoredContribution ρ α δ)) : Option (StoredContribution ρ α δ) :=
  LatestRow.latest contributionKey StoredContribution.analysisSequence (generation, reviewId) rows

/-- The aspects that are read for a contribution. -/
def readAspects (row : StoredContribution ρ α δ) : List (ContributionAspect α) :=
  if row.isAspectReady then row.aspects else []

/-- The previous contribution is read with its aspects. -/
theorem readPreviousContribution_ok {s : AggregateStore ρ α δ} (generation : AggregateGeneration)
    (reviewId : ρ)
    (valid : ∀ row ∈ s.contributions, hasValidAspects row.isAspectReady row.aspects = true) :
    readPreviousContribution generation reviewId s =
      .ok (latestContribution generation reviewId s.contributions,
        (latestContribution generation reviewId s.contributions).elim [] readAspects) := by
  rw [readPreviousContribution, latestContribution]
  cases hlatest : LatestRow.latest contributionKey StoredContribution.analysisSequence
      (generation, reviewId) s.contributions with
  | none => rfl
  | some row =>
      have hvalid := valid row (LatestRow.latest_mem hlatest).1
      rw [Option.elim_some, readAspects]
      cases hready : row.isAspectReady with
      | true =>
          have hkind : row.status = .ready ∧ row.isMention = false := by
            simpa [StoredContribution.isAspectReady] using hready
          rw [hready] at hvalid
          simp [hkind, hvalid]
      | false =>
          have hkind : ¬(row.status = .ready ∧ row.isMention = false) := by
            intro h
            simp [StoredContribution.isAspectReady, h] at hready
          simp [hkind]

end Runs

end ReputationKey.Ai
