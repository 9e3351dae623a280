import ReputationKey.Base.KeyedRecord
import ReputationKey.Base.LatestRow
import ReputationKey.Base.Refusal
import ReputationKey.Base.RowTable
import Mathlib.Data.List.Dedup

/-!
# Daily aggregates of a Property

The analyses of reviews that a Property has applied: the ledger of settled analysis sequences, the
stored contribution of every applied analysis, a head for every profile generation, and the cube of
daily counts that is kept by taking a review's earlier contribution off its day. A command is one
transaction under the Property's lock. Follows
`src/src/contexts/ai/infrastructure/adapters/ai-property-aggregate-contributions.ts`,
`src/src/contexts/ai/infrastructure/adapters/ai-property-aggregate-head.ts` and
`src/src/contexts/ai/infrastructure/adapters/ai-property-aggregate-store.adapter.ts:61–433`.
-/

namespace ReputationKey.Ai

open Base

/-! ## The tables -/

/-- `SENTIMENT_COLUMNS`. -/
inductive Sentiment
  | positive
  | neutral
  | negative
  | mixed
  deriving DecidableEq, Repr

/-- `ATTENTION_COLUMNS`. -/
inductive Attention
  | urgent
  | high
  | medium
  | low
  deriving DecidableEq, Repr

/-- The polarity of an aspect. -/
inductive AspectPolarity
  | positive
  | neutral
  | negative
  deriving DecidableEq, Repr

/-- Whether an analysis could read its review. -/
inductive AnalysisStatus
  | ready
  | unavailable
  deriving DecidableEq, Repr

/-- An epoch of a Property's source and of its analysis. -/
structure AggregateEpoch where
  sourceEpoch : ℕ
  reviewAnalysisEpoch : ℕ
  deriving DecidableEq, Repr

/-- A profile generation of an epoch. -/
structure AggregateGeneration extends AggregateEpoch where
  propertyProfileVersion : ℕ
  deriving DecidableEq, Repr

/-- An aspect that a review speaks of; the aspects are `α`. -/
structure ContributionAspect (α : Type) where
  aspect : α
  polarity : AspectPolarity
  intensity : ℤ
  deriving DecidableEq, Repr

/-- `Contribution`, with what the tables' checks and the writers of analyses grant: a ready one has
a sentiment and an attention, an unavailable one has none, and the rating is one of stars. -/
structure Contribution (α : Type) where
  status : AnalysisStatus
  rating : ℕ
  sentiment : Option Sentiment
  primaryCategory : Option α
  attention : Option Attention
  rated : 1 ≤ rating ∧ rating ≤ 5
  described : sentiment.isSome = (status == .ready) ∧ attention.isSome = (status == .ready) ∧
    (status = .unavailable → primaryCategory = none)

/-- A stored contribution of the review `reviewId` to the day `localDate`, with its aspect rows. -/
structure StoredContribution (ρ α δ : Type) extends Contribution α where
  generation : AggregateGeneration
  reviewId : ρ
  sourceRevision : ℕ
  analysisSequence : ℕ
  localDate : δ
  aspects : List (ContributionAspect α)
  appliedAggregateRevision : ℕ

/-- A row of the settlement ledger. -/
structure AggregateSettlement (ρ : Type) where
  epoch : AggregateEpoch
  analysisSequence : ℕ
  reviewId : ρ
  deriving DecidableEq, Repr

/-- A row of the aggregate heads. -/
structure AggregateHead where
  generation : AggregateGeneration
  aggregateRevision : ℕ
  terminalAnalysisSequence : ℕ
  settledAnalysisCount : ℕ
  deriving DecidableEq, Repr

/-- A daily row; its four sentiment and four attention columns are functions. -/
structure DailyRow where
  aggregateRevision : ℕ
  terminalAnalysisSequence : ℕ
  reviewCount : ℤ
  ratingSum : ℤ
  sentimentCount : Sentiment → ℤ
  attentionCount : Attention → ℤ

/-- The tables of one Property. -/
structure AggregateStore (ρ α δ : Type) where
  contributions : List (StoredContribution ρ α δ)
  settlements : List (AggregateSettlement ρ)
  heads : List AggregateHead
  days : KeyedRecord (AggregateGeneration × δ) DailyRow
  aspectDays : KeyedRecord (AggregateGeneration × δ × α × AspectPolarity) ℤ

/-- What makes a transaction roll back. -/
inductive AggregateError
  | settlementIdentityConflict
  | analysisAspectRowsInvalid
  | previousAspectsInvalid
  | contributionConflict
  | dailyAggregateMissing
  | dailyAggregateNegative
  | dailyCheckViolated
  | dailyAspectNegative
  | headUpdateFailed
  deriving DecidableEq, Repr

/-- `AggregateIdentityInput` with the review it is about. -/
structure AggregateIdentity (ρ : Type) where
  generation : AggregateGeneration
  reviewId : ρ
  analysisSequence : ℕ
  deriving DecidableEq, Repr

/-- `isMentionContribution`. -/
def Contribution.isMention {α : Type} (contribution : Contribution α) : Bool :=
  contribution.status == .ready && contribution.primaryCategory.isNone

/-! ## Daily counts -/

/-- `zeroDailyValues`. -/
def zeroDailyValues (aggregateRevision terminalAnalysisSequence : ℕ) : DailyRow where
  aggregateRevision := aggregateRevision
  terminalAnalysisSequence := terminalAnalysisSequence
  reviewCount := 0
  ratingSum := 0
  sentimentCount _ := 0
  attentionCount _ := 0

/-- `adjustDaily`. -/
def adjustDaily {α : Type} (row : DailyRow) (contribution : Contribution α) (direction : ℤ) :
    DailyRow :=
  match contribution.status, contribution.sentiment, contribution.attention with
  | .ready, some sentiment, some attention =>
      { row with
        reviewCount := row.reviewCount + direction
        ratingSum := row.ratingSum + direction * contribution.rating
        sentimentCount := fun other ↦
          if other = sentiment then row.sentimentCount other + direction else row.sentimentCount other
        attentionCount := fun other ↦
          if other = attention then row.attentionCount other + direction else row.attentionCount other }
  | _, _, _ => row

/-- A row with the revision and the watermark of the command that writes it. -/
def DailyRow.stamped (row : DailyRow) (aggregateRevision terminalAnalysisSequence : ℕ) : DailyRow :=
  { row with aggregateRevision, terminalAnalysisSequence }

/-- The checks of the table of daily rows on its counts. -/
def DailyRow.Accepted (row : DailyRow) : Prop :=
  0 ≤ row.reviewCount ∧ 0 ≤ row.ratingSum ∧
    (0 ≤ row.sentimentCount .positive ∧ 0 ≤ row.sentimentCount .neutral ∧
      0 ≤ row.sentimentCount .negative ∧ 0 ≤ row.sentimentCount .mixed) ∧
    (0 ≤ row.attentionCount .urgent ∧ 0 ≤ row.attentionCount .high ∧
      0 ≤ row.attentionCount .medium ∧ 0 ≤ row.attentionCount .low) ∧
    row.sentimentCount .positive + row.sentimentCount .neutral + row.sentimentCount .negative +
      row.sentimentCount .mixed = row.reviewCount ∧
    row.attentionCount .urgent + row.attentionCount .high + row.attentionCount .medium +
      row.attentionCount .low = row.reviewCount ∧
    row.ratingSum ≤ row.reviewCount * 5

instance (row : DailyRow) : Decidable row.Accepted := by
  unfold DailyRow.Accepted
  infer_instance

section Tables

variable {ρ α δ : Type} [DecidableEq ρ] [DecidableEq α] [DecidableEq δ]

/-- A key of the aspect counts within a generation. -/
abbrev AspectKey (α δ : Type) := δ × α × AspectPolarity

/-- One more of a key, in a map that keeps the order in which its keys came. -/
def bumpDelta (deltas : List (AspectKey α δ × ℤ)) (key : AspectKey α δ) (direction : ℤ) :
    List (AspectKey α δ × ℤ) :=
  if key ∈ deltas.map Prod.fst then
    RowTable.alter Prod.fst key (fun entry ↦ (entry.1, entry.2 + direction)) deltas
  else deltas ++ [(key, direction)]

/-- `addAspectDeltas`. -/
def addAspectDeltas (deltas : List (AspectKey α δ × ℤ)) (localDate : δ)
    (aspects : List (ContributionAspect α)) (direction : ℤ) : List (AspectKey α δ × ℤ) :=
  aspects.foldl (fun deltas aspect ↦
    bumpDelta deltas (localDate, aspect.aspect, aspect.polarity) direction) deltas

/-- `AnalysisContribution`: what a review adds to its day once an analysis is applied. -/
structure AnalysisContribution (α δ : Type) where
  contribution : Contribution α
  localDate : δ
  aspects : List (ContributionAspect α)

/-- `collectAspectDeltas`. -/
def collectAspectDeltas (previous : Option (StoredContribution ρ α δ))
    (previousAspects : List (ContributionAspect α)) (next : Option (AnalysisContribution α δ)) :
    List (AspectKey α δ × ℤ) :=
  let taken := previous.elim [] fun row ↦
    if row.status = .ready then addAspectDeltas [] row.localDate previousAspects (-1) else []
  next.elim taken fun row ↦
    if row.contribution.status = .ready then addAspectDeltas taken row.localDate row.aspects 1
    else taken

/-- `persistAspectDelta`. -/
def persistAspectDelta (generation : AggregateGeneration) (s : AggregateStore ρ α δ)
    (delta : AspectKey α δ × ℤ) : Except AggregateError (AggregateStore ρ α δ) :=
  if delta.2 = 0 then .ok s
  else if 0 < delta.2 then
    let count := (s.aspectDays (generation, delta.1)).getD 0
    .ok { s with aspectDays := s.aspectDays.set (generation, delta.1) (count + delta.2) }
  else
    match s.aspectDays (generation, delta.1) with
    | none => .error .dailyAspectNegative
    | some count =>
        if count + delta.2 < 0 then .error .dailyAspectNegative
        else if count + delta.2 = 0 then
          .ok { s with aspectDays := s.aspectDays.erase (generation, delta.1) }
        else .ok { s with aspectDays := s.aspectDays.set (generation, delta.1) (count + delta.2) }

/-- The days that an update touches. -/
def touchedDates (previous : Option (StoredContribution ρ α δ))
    (next : Option (AnalysisContribution α δ)) : List δ :=
  ((previous.filter fun row ↦ row.status == .ready).toList.map (·.localDate) ++
    (next.filter fun row ↦ row.contribution.status == .ready).toList.map (·.localDate)).dedup

/-- A day's row with the previous contribution taken off and the next one put on. -/
def adjustedDay (previous : Option (StoredContribution ρ α δ))
    (next : Option (AnalysisContribution α δ)) (localDate : δ) (row : DailyRow) : DailyRow :=
  let taken := previous.elim row fun previous ↦
    if previous.localDate = localDate then adjustDaily row previous.toContribution (-1) else row
  (next.filter fun row ↦ row.contribution.status == .ready).elim taken fun next ↦
    if next.localDate = localDate then adjustDaily taken next.contribution 1 else taken

/-- The rows of the days that an update touches, written one by one. -/
def updateDays (generation : AggregateGeneration) (previous : Option (StoredContribution ρ α δ))
    (next : Option (AnalysisContribution α δ)) (aggregateRevision terminalAnalysisSequence : ℕ)
    (s : AggregateStore ρ α δ) (localDate : δ) : Except AggregateError (AggregateStore ρ α δ) :=
  match s.days (generation, localDate) with
  | none => .error .dailyAggregateMissing
  | some row =>
      let next := adjustedDay previous next localDate row
      if next.reviewCount < 0 ∨ next.ratingSum < 0 then .error .dailyAggregateNegative
      else if ¬next.Accepted then .error .dailyCheckViolated
      else
        let written := next.stamped aggregateRevision terminalAnalysisSequence
        .ok { s with days := s.days.set (generation, localDate) written }

/-- `updateDailyAggregates`, behind its exception for mentions. -/
def updateDaysAndAspects (generation : AggregateGeneration) (analysisSequence : ℕ)
    (head : AggregateHead) (aggregateRevision : ℕ) (next : Option (AnalysisContribution α δ))
    (previous : Option (StoredContribution ρ α δ)) (previousAspects : List (ContributionAspect α))
    (s : AggregateStore ρ α δ) : Except AggregateError (AggregateStore ρ α δ) :=
  let dates := touchedDates previous next
  if dates = [] then .ok s
  else
    let zero := zeroDailyValues head.aggregateRevision head.terminalAnalysisSequence
    let started := dates.foldl (fun days localDate ↦
      days.modify (generation, localDate) fun row ↦ some (row.getD zero)) s.days
    let terminal := max head.terminalAnalysisSequence analysisSequence
    dates.foldlM (updateDays generation previous next aggregateRevision terminal)
        { s with days := started } >>= fun s ↦
      (collectAspectDeltas previous previousAspects next).foldlM (persistAspectDelta generation) s

/-- `updateDailyAggregates`: a contribution of the kind with mentions never stood on a day. -/
def updateDailyAggregates (generation : AggregateGeneration) (analysisSequence : ℕ)
    (head : AggregateHead) (aggregateRevision : ℕ) (next : Option (AnalysisContribution α δ))
    (previous : Option (StoredContribution ρ α δ)) (previousAspects : List (ContributionAspect α))
    (s : AggregateStore ρ α δ) : Except AggregateError (AggregateStore ρ α δ) :=
  if previous.any fun row ↦ row.isMention then
    updateDaysAndAspects generation analysisSequence head aggregateRevision next none [] s
  else
    updateDaysAndAspects generation analysisSequence head aggregateRevision next previous
      previousAspects s

/-! ## The head -/

/-- The ledger's rows of an epoch. -/
def epochSettlements (epoch : AggregateEpoch) (s : AggregateStore ρ α δ) :
    List (AggregateSettlement ρ) :=
  s.settlements.filter fun row ↦ row.epoch = epoch

/-- The head of a generation. -/
def headOf (generation : AggregateGeneration) (s : AggregateStore ρ α δ) : Option AggregateHead :=
  RowTable.find AggregateHead.generation generation s.heads

/-- The heads of an epoch. -/
def epochHeads (epoch : AggregateEpoch) (s : AggregateStore ρ α δ) : List AggregateHead :=
  s.heads.filter fun head ↦ head.generation.toAggregateEpoch = epoch

/-- `lockAggregateHead`: a new head has the watermark of its epoch and has settled nothing. -/
def lockAggregateHead (generation : AggregateGeneration) (s : AggregateStore ρ α δ) :
    AggregateHead × AggregateStore ρ α δ :=
  match headOf generation s with
  | some head => (head, s)
  | none =>
      let watermark :=
        ((epochHeads generation.toAggregateEpoch s).map (·.terminalAnalysisSequence)).max?
      let head : AggregateHead := ⟨generation, 0, watermark.getD 0, 0⟩
      (head, { s with heads := head :: s.heads })

/-- `settledCountAfterSettlement`, for a head that has counted so many. -/
def settledCountAfterSettlement (generation : AggregateGeneration) (s : AggregateStore ρ α δ)
    (settled : ℕ) : ℕ :=
  if (epochHeads generation.toAggregateEpoch s).any fun head ↦ head.generation ≠ generation then
    settled + 1
  else (epochSettlements generation.toAggregateEpoch s).length

/-- A head that has counted the settlement. -/
def countedHead (generation : AggregateGeneration) (s : AggregateStore ρ α δ) (head : AggregateHead) :
    AggregateHead :=
  { head with
    settledAnalysisCount := settledCountAfterSettlement generation s head.settledAnalysisCount }

/-- `countSettledSequence`. -/
def countSettledSequence (generation : AggregateGeneration) (s : AggregateStore ρ α δ) :
    AggregateStore ρ α δ :=
  let s := (lockAggregateHead generation s).2
  { s with
    heads := RowTable.alter AggregateHead.generation generation (countedHead generation s) s.heads }

/-- A head that has counted the settlement and takes the revision. -/
def committedHead (generation : AggregateGeneration) (analysisSequence aggregateRevision : ℕ)
    (s : AggregateStore ρ α δ) (head : AggregateHead) : AggregateHead :=
  { countedHead generation s head with
    aggregateRevision
    terminalAnalysisSequence := max head.terminalAnalysisSequence analysisSequence }

/-- `commitAggregateHead`. -/
def commitAggregateHead (generation : AggregateGeneration) (analysisSequence : ℕ) (head : AggregateHead)
    (aggregateRevision : ℕ) (s : AggregateStore ρ α δ) :
    Except AggregateError (AggregateStore ρ α δ) :=
  if (headOf generation s).map (·.aggregateRevision) ≠ some head.aggregateRevision then
    .error .headUpdateFailed
  else
    let commit := committedHead generation analysisSequence aggregateRevision s
    .ok { s with heads := RowTable.alter AggregateHead.generation generation commit s.heads }

/-! ## Settling a sequence -/

/-- `readLatestReviewSettlement`. -/
def readLatestReviewSettlement (input : AggregateIdentity ρ) (s : AggregateStore ρ α δ) : Option ℕ :=
  (((epochSettlements input.generation.toAggregateEpoch s).filter fun row ↦
    row.reviewId = input.reviewId).map (·.analysisSequence)).max?

/-- `recordAggregateSettlement`: whether the row is new. -/
def recordAggregateSettlement (input : AggregateIdentity ρ) (s : AggregateStore ρ α δ) :
    Except AggregateError (Bool × AggregateStore ρ α δ) :=
  let epoch := input.generation.toAggregateEpoch
  match (epochSettlements epoch s).find? fun row ↦ row.analysisSequence = input.analysisSequence with
  | none =>
      let row : AggregateSettlement ρ := ⟨epoch, input.analysisSequence, input.reviewId⟩
      .ok (true, { s with settlements := row :: s.settlements })
  | some existing =>
      if existing.reviewId ≠ input.reviewId then .error .settlementIdentityConflict else .ok (false, s)

/-- What settling a sequence came to. -/
inductive SettlementKind
  | new
  | replayed
  | stale
  deriving DecidableEq, Repr

/-- `settleReviewSequence`. -/
def settleReviewSequence (input : AggregateIdentity ρ) (s : AggregateStore ρ α δ) :
    Except AggregateError (SettlementKind × AggregateStore ρ α δ) :=
  let latest := readLatestReviewSettlement input s
  recordAggregateSettlement input s >>= fun recorded ↦
    if latest = some input.analysisSequence then .ok (.replayed, recorded.2)
    else if latest.any fun latest ↦ input.analysisSequence < latest then
      .ok (.stale, if recorded.1 then countSettledSequence input.generation recorded.2 else recorded.2)
    else .ok (if recorded.1 then .new else .replayed, recorded.2)

/-! ## Commands -/

/-- What the transaction reads of the analysis: its row, joined with the Property's active profile,
and its aspect rows. The check of the table grants that a ready one names a primary category unless
it is of the kind with mentions. -/
structure ReviewAnalysisRow (α : Type) where
  reviewAnalysisEpoch : ℕ
  propertyProfileVersion : ℕ
  mentions : Bool
  status : AnalysisStatus
  sentiment : Option Sentiment
  primaryCategory : Option α
  attention : Option Attention
  aspectRows : List (ContributionAspect α)
  described : sentiment.isSome = (status == .ready) ∧ attention.isSome = (status == .ready) ∧
    primaryCategory.isSome = (status == .ready && !mentions)

omit [DecidableEq α] in
theorem ReviewAnalysisRow.describes (row : ReviewAnalysisRow α) :
    row.sentiment.isSome = (row.status == .ready) ∧ row.attention.isSome = (row.status == .ready) ∧
      (row.status = .unavailable → row.primaryCategory = none) := by
  refine ⟨row.described.1, row.described.2.1, fun h ↦ ?_⟩
  have hcategory := row.described.2.2
  rw [h, show (AnalysisStatus.unavailable == .ready) = false from rfl, Bool.false_and] at hcategory
  exact Option.not_isSome_iff_eq_none.1 (by rw [hcategory]; exact Bool.false_ne_true)

/-- What it reads of the review, where that is at the sequence: its rating and its local date. -/
structure CurrentReviewRow (δ : Type) where
  rating : ℕ
  rated : 1 ≤ rating ∧ rating ≤ 5
  localDate : Option δ

/-- The input of `applyReviewAnalysis`, with what its transaction reads of other tables. -/
structure ApplyReviewAnalysis (ρ α δ : Type) extends AggregateIdentity ρ where
  sourceRevision : ℕ
  analysis : Option (ReviewAnalysisRow α)
  currentReview : Option (CurrentReviewRow δ)

/-- The answer to a command. -/
inductive AggregateOutcome
  | applied (aggregateRevision : ℕ)
  | replayed (aggregateRevision : ℕ)
  | unavailable
  | stale
  deriving DecidableEq, Repr

/-- What a review has to put on a day. -/
structure ApplicableAnalysis (α δ : Type) extends AnalysisContribution α δ where
  mentions : Bool

/-- What an apply finds before it takes the head: an analysis to put on a day, or the answer that it
ends with. -/
def findApplicable (input : ApplyReviewAnalysis ρ α δ) :
    Except AggregateOutcome (ApplicableAnalysis α δ) :=
  match input.analysis with
  | none => .error .stale
  | some analysis =>
      if analysis.reviewAnalysisEpoch = input.generation.reviewAnalysisEpoch ∧
          analysis.propertyProfileVersion = input.generation.propertyProfileVersion then
        match input.currentReview with
        | none => .error .stale
        | some review =>
            match review.localDate with
            | none => .error .unavailable
            | some localDate =>
                .ok { mentions := analysis.mentions
                      localDate
                      aspects := if analysis.status = .ready ∧ analysis.mentions = false then
                        analysis.aspectRows else []
                      contribution :=
                        { status := analysis.status
                          rating := review.rating
                          sentiment := analysis.sentiment
                          primaryCategory := analysis.primaryCategory
                          attention := analysis.attention
                          rated := review.rated
                          described := analysis.describes } }
      else .error .stale

/-- The aspects of a contribution are as many as its kind has. -/
def hasValidAspects (isAspectKind : Bool) (aspects : List (ContributionAspect α)) : Bool :=
  if isAspectKind then 1 ≤ aspects.length ∧ aspects.length ≤ 5 else aspects = []

/-- `reviewGenerationContributions`, the key of a review's contributions in a generation. -/
def contributionKey (row : StoredContribution ρ α δ) : AggregateGeneration × ρ :=
  (row.generation, row.reviewId)

/-- `readPreviousContribution`. -/
def readPreviousContribution (generation : AggregateGeneration) (reviewId : ρ)
    (s : AggregateStore ρ α δ) : Except AggregateError
      (Option (StoredContribution ρ α δ) × List (ContributionAspect α)) :=
  match LatestRow.latest contributionKey StoredContribution.analysisSequence (generation, reviewId)
      s.contributions with
  | none => .ok (none, [])
  | some previous =>
      if previous.status = .ready ∧ previous.isMention = false then
        if hasValidAspects true previous.aspects then .ok (some previous, previous.aspects)
        else .error .previousAspectsInvalid
      else .ok (some previous, [])

/-- `withdrawReviewContribution`. -/
def withdrawReviewContribution (input : AggregateIdentity ρ) (head : AggregateHead)
    (aggregateRevision : ℕ) (s : AggregateStore ρ α δ) :
    Except AggregateError (AggregateStore ρ α δ) :=
  readPreviousContribution input.generation input.reviewId s >>= fun previous ↦
    if previous.1.isNone then .ok s
    else
      updateDailyAggregates input.generation input.analysisSequence head aggregateRevision none
          previous.1 previous.2 s >>= fun s ↦
        .ok { s with contributions := s.contributions.filter fun row ↦
                contributionKey row ≠ (input.generation, input.reviewId) }

/-- The contribution that an apply stores. -/
def storedContribution (input : ApplyReviewAnalysis ρ α δ) (found : ApplicableAnalysis α δ)
    (aggregateRevision : ℕ) : StoredContribution ρ α δ :=
  { found.contribution with
    generation := input.generation
    reviewId := input.reviewId
    sourceRevision := input.sourceRevision
    analysisSequence := input.analysisSequence
    localDate := found.localDate
    aspects := found.aspects
    appliedAggregateRevision := aggregateRevision }

/-- A stored contribution under the primary key of an apply. -/
def appliedContribution (input : ApplyReviewAnalysis ρ α δ) (s : AggregateStore ρ α δ) :
    Option (StoredContribution ρ α δ) :=
  s.contributions.find? fun row ↦ row.reviewId = input.reviewId ∧
    row.generation.sourceEpoch = input.generation.sourceEpoch ∧
    row.sourceRevision = input.sourceRevision ∧ row.analysisSequence = input.analysisSequence

/-- The end of `applyReviewAnalysis`: the contribution is stored, the days follow, and the head
takes the revision. -/
def applyFound (input : ApplyReviewAnalysis ρ α δ) (found : ApplicableAnalysis α δ)
    (head : AggregateHead) (s : AggregateStore ρ α δ) :
    Except AggregateError (AggregateOutcome × AggregateStore ρ α δ) :=
  readPreviousContribution input.generation input.reviewId s >>= fun previous ↦
    let aggregateRevision := head.aggregateRevision + 1
    if (appliedContribution input s).isSome then .error .contributionConflict
    else
      let stored := { s with
        contributions := storedContribution input found aggregateRevision :: s.contributions }
      (if found.mentions then .ok stored
        else updateDailyAggregates input.generation input.analysisSequence head aggregateRevision
          (some found.toAnalysisContribution) previous.1 previous.2 stored) >>= fun s ↦
        commitAggregateHead input.generation input.analysisSequence head aggregateRevision s >>= fun s ↦
          .ok (.applied aggregateRevision, s)

/-- `applyReviewAnalysis`. -/
def applyReviewAnalysis (input : ApplyReviewAnalysis ρ α δ) (s : AggregateStore ρ α δ) :
    Except AggregateError (AggregateOutcome × AggregateStore ρ α δ) :=
  match appliedContribution input s with
  | some replayed => .ok (.replayed replayed.appliedAggregateRevision, s)
  | none =>
      settleReviewSequence input.toAggregateIdentity s >>= fun settled ↦
        if settled.1 = .stale then .ok (.stale, settled.2)
        else
          match findApplicable input with
          | .error outcome =>
              .ok (outcome, if settled.1 = .new then countSettledSequence input.generation settled.2
                else settled.2)
          | .ok found =>
              if hasValidAspects (found.contribution.status = .ready ∧ found.mentions = false)
                  found.aspects = false then .error .analysisAspectRowsInvalid
              else
                let locked := lockAggregateHead input.generation settled.2
                if settled.1 = .replayed then .ok (.replayed locked.1.aggregateRevision, locked.2)
                else applyFound input found locked.1 locked.2

/-- `advanceWithoutAnalysis`. -/
def advanceWithoutAnalysis (input : AggregateIdentity ρ) (s : AggregateStore ρ α δ) :
    Except AggregateError (AggregateOutcome × AggregateStore ρ α δ) :=
  settleReviewSequence input s >>= fun settled ↦
    if settled.1 = .stale then .ok (.stale, settled.2)
    else
      let locked := lockAggregateHead input.generation settled.2
      if settled.1 = .replayed then .ok (.replayed locked.1.aggregateRevision, locked.2)
      else
        let revision := locked.1.aggregateRevision + 1
        withdrawReviewContribution input locked.1 revision locked.2 >>= fun s ↦
          commitAggregateHead input.generation input.analysisSequence locked.1 revision s >>= fun s ↦
            .ok (.applied revision, s)

end Tables

end ReputationKey.Ai
