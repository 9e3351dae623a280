import ReputationKey.Ai.AggregateRuns
import Mathlib.Algebra.BigOperators.Ring.Finset

/-!
# Daily aggregates are the fold of current contributions

The counts of every day against the latest contributions of the generation. They agree as long as no
analysis of the kind with mentions is applied over a ready one of the kind with aspects, which it
leaves on its day.
-/

namespace ReputationKey.Ai

open Base

section Totals

variable {ρ α δ : Type}

/-! ## Bounds of counts -/

/-- Counts in bounds, those of aspects included. -/
def CountsBounded (counts : DayCounter α → ℤ) : Prop :=
  CountsAccepted counts ∧ ∀ aspect polarity, 0 ≤ counts (.aspect aspect polarity)

theorem CountsBounded.zero : CountsBounded fun _ : DayCounter α ↦ 0 := by
  simp [CountsBounded, CountsAccepted]

theorem CountsBounded.add {counts counts' : DayCounter α → ℤ} (h : CountsBounded counts)
    (h' : CountsBounded counts') : CountsBounded fun counter ↦ counts counter + counts' counter := by
  refine ⟨?_, fun aspect polarity ↦ add_nonneg (h.2 _ _) (h'.2 _ _)⟩
  have hleft := h.1
  have hright := h'.1
  rw [CountsAccepted] at hleft hright ⊢
  omega

variable [DecidableEq α] [DecidableEq δ]

/-- What a contribution counts is in bounds. -/
theorem AnalysisContribution.standing_bounded (row : AnalysisContribution α δ) (date : δ) :
    CountsBounded (row.standing date) := by
  by_cases hdate : row.localDate = date
  · refine ⟨?_, fun aspect polarity ↦ ?_⟩
    · suffices h : CountsAccepted row.contribution.amount by
        apply h.congr
        intro counter hcolumn
        rw [standing_of_isColumn hcolumn, if_pos hdate]
      obtain ⟨status, rating, sentiment, category, attention, rated, -⟩ := row.contribution
      cases status with
      | unavailable => simp [CountsAccepted, Contribution.amount]
      | ready =>
          cases sentiment with
          | none => simp [CountsAccepted, Contribution.amount]
          | some sentiment =>
              cases attention with
              | none => simp [CountsAccepted, Contribution.amount]
              | some attention =>
                  have hrating : 0 ≤ (rating : ℤ) ∧ (rating : ℤ) ≤ 5 := by omega
                  cases sentiment <;> cases attention <;>
                    simp [CountsAccepted, Contribution.amount, hrating]
    · rw [AnalysisContribution.standing, if_pos hdate]
      split_ifs
      · exact Int.natCast_nonneg _
      · exact le_refl 0
  · have hzero : row.standing date = fun _ ↦ 0 := by
      funext counter
      simp only [AnalysisContribution.standing, if_neg hdate]
    rw [hzero]
    exact .zero

theorem StoredContribution.standing_bounded (row : StoredContribution ρ α δ) (date : δ) :
    CountsBounded (row.standing date) := by
  cases hmention : row.isMention with
  | true =>
      have hzero : row.standing date = fun _ ↦ 0 := by
        funext counter
        rw [StoredContribution.standing, hmention, if_pos rfl]
      rw [hzero]
      exact .zero
  | false =>
      have hsame : row.standing date = AnalysisContribution.standing
          ⟨row.toContribution, row.localDate, row.aspects⟩ date := by
        funext counter
        rw [StoredContribution.standing, hmention, if_neg Bool.false_ne_true]
      rw [hsame]
      exact AnalysisContribution.standing_bounded _ date

/-- What a contribution counts on a day of a generation. -/
def standingIn (generation : AggregateGeneration) (date : δ) (counter : DayCounter α)
    (row : StoredContribution ρ α δ) : ℤ :=
  if row.generation = generation then row.standing date counter else 0

/-- What contributions count on a day of a generation. -/
def standingTotal (generation : AggregateGeneration) (date : δ) (counter : DayCounter α)
    (rows : List (StoredContribution ρ α δ)) : ℤ :=
  (rows.map (standingIn generation date counter)).sum

theorem standingTotal_append (generation : AggregateGeneration) (date : δ) (counter : DayCounter α)
    (rows rows' : List (StoredContribution ρ α δ)) :
    standingTotal generation date counter (rows ++ rows') =
      standingTotal generation date counter rows + standingTotal generation date counter rows' := by
  rw [standingTotal, List.map_append, List.sum_append, standingTotal, standingTotal]

/-- Totals are in bounds. -/
theorem standingTotal_bounded (generation : AggregateGeneration) (date : δ)
    (rows : List (StoredContribution ρ α δ)) :
    CountsBounded fun counter ↦ standingTotal generation date counter rows := by
  induction rows with
  | nil => exact .zero
  | cons row rows ih =>
      have hrow : CountsBounded fun counter ↦ standingIn generation date counter row := by
        by_cases h : row.generation = generation
        · simp only [standingIn, if_pos h]
          exact row.standing_bounded date
        · simp only [standingIn, if_neg h]
          exact .zero
      simp only [standingTotal, List.map_cons, List.sum_cons]
      exact hrow.add ih

/-- A contribution that is not ready counts nothing. -/
theorem standing_of_not_ready (row : AnalysisContribution α δ) (h : row.contribution.status ≠ .ready)
    (date : δ) (counter : DayCounter α) : row.standing date counter = 0 := by
  cases hcolumn : counter.isColumn with
  | true => rw [standing_of_isColumn hcolumn, amount_of_not_ready h, ite_self]
  | false =>
      cases counter with
      | aspect => simp [AnalysisContribution.standing, h]
      | reviews | ratings | sentiment | attention => cases hcolumn

/-- What an update takes off is what the previous contribution stood for. -/
theorem updateChange_eq (previous : Option (StoredContribution ρ α δ))
    (next : Option (AnalysisContribution α δ)) (date : δ) (counter : DayCounter α) :
    updateChange previous (previous.elim [] readAspects) next date counter =
      next.elim 0 (fun row ↦ row.standing date counter) -
        previous.elim 0 fun row ↦ row.standing date counter := by
  have hprevious : (((previous.filter fun row ↦ !row.isMention).map fun row ↦
        row.withAspects (previous.elim [] readAspects)).elim 0 fun row ↦ row.standing date counter) =
      previous.elim 0 fun row ↦ row.standing date counter := by
    cases previous with
    | none => rfl
    | some row =>
        cases hmention : row.isMention with
        | true =>
            have hgone : (some row).filter (fun row ↦ !row.isMention) = none := by
              rw [Option.filter_some, hmention]
              rfl
            rw [hgone, Option.map_none, Option.elim_none, Option.elim_some, StoredContribution.standing,
              hmention, if_pos rfl]
        | false =>
            have hkept : (some row).filter (fun row ↦ !row.isMention) = some row := by
              simp [hmention]
            rw [hkept, Option.map_some, Option.elim_some, Option.elim_some, Option.elim_some,
              StoredContribution.standing, hmention, if_neg Bool.false_ne_true]
            by_cases hready : row.status = .ready
            · have hread : readAspects row = row.aspects := by
                simp [readAspects, StoredContribution.isAspectReady, hready, hmention]
              rw [hread]
              rfl
            · cases hcolumn : counter.isColumn with
              | true => rw [standing_of_isColumn hcolumn, standing_of_isColumn hcolumn]; rfl
              | false =>
                  cases counter with
                  | aspect =>
                      simp [AnalysisContribution.standing, StoredContribution.withAspects, hready]
                  | reviews | ratings | sentiment | attention => cases hcolumn
  rw [updateChange, dayChange, hprevious]

/-- What an apply stores counts as its analysis does, or nothing if that is of the kind with
mentions. -/
theorem standing_storedContribution {input : ApplyReviewAnalysis ρ α δ}
    {found : ApplicableAnalysis α δ} (h : findApplicable input = .ok found) (aggregateRevision : ℕ)
    (date : δ) (counter : DayCounter α) :
    (storedContribution input found aggregateRevision).standing date counter =
      if found.mentions then 0 else found.toAnalysisContribution.standing date counter := by
  by_cases hready : found.contribution.status = .ready
  · have hmention : (storedContribution input found aggregateRevision).isMention = found.mentions :=
      isMention_of_findApplicable h hready
    rw [StoredContribution.standing, hmention]
    rfl
  · have hstored : AnalysisContribution.standing ⟨(storedContribution input found
          aggregateRevision).toContribution, found.localDate, found.aspects⟩ date counter = 0 :=
      standing_of_not_ready _ hready date counter
    have hnext := standing_of_not_ready found.toAnalysisContribution hready date counter
    rw [hnext, ite_self]
    exact (congrArg (ite _ (0 : ℤ)) hstored).trans (ite_self _)

/-! ## What a day shows -/

/-- A contribution that is not ready or not of the kind with aspects stands on no day. -/
theorem standing_of_not_aspectReady {row : StoredContribution ρ α δ} (h : row.isAspectReady = false)
    (date : δ) (counter : DayCounter α) : row.standing date counter = 0 := by
  rw [StoredContribution.standing]
  cases hmention : row.isMention with
  | true => rw [if_pos rfl]
  | false =>
      rw [if_neg Bool.false_ne_true]
      apply standing_of_not_ready
      intro hready
      have hstatus : row.status = .ready := hready
      rw [StoredContribution.isAspectReady, hmention, hstatus] at h
      cases h

/-- The ready contributions of the kind with aspects that are dated a day, within a generation. -/
def dayContributions (generation : AggregateGeneration) (date : δ)
    (rows : List (StoredContribution ρ α δ)) : List (StoredContribution ρ α δ) :=
  rows.filter fun row ↦ row.generation = generation ∧ row.localDate = date ∧ row.isAspectReady = true

/-- What a day shows of contributions: how many there are, the sum of their ratings, how many have
each sentiment and each attention, and how often they name each aspect. -/
structure DayShows (shown : DayCounter α → ℤ) (rows : List (StoredContribution ρ α δ)) : Prop where
  reviews : shown .reviews = (rows.length : ℕ)
  ratings : shown .ratings = ((rows.map fun row ↦ row.rating).sum : ℕ)
  sentiments : ∀ sentiment, shown (.sentiment sentiment) =
    (rows.countP fun row ↦ row.sentiment = some sentiment : ℕ)
  attentions : ∀ attention, shown (.attention attention) =
    (rows.countP fun row ↦ row.attention = some attention : ℕ)
  aspects : ∀ aspect polarity, shown (.aspect aspect polarity) =
    (rows.map fun row ↦ aspectTally aspect polarity row.aspects).sum

/-- What a ready contribution of the kind with aspects adds to its day. -/
def StoredContribution.shown (row : StoredContribution ρ α δ) : DayCounter α → ℤ
  | .reviews => 1
  | .ratings => row.rating
  | .sentiment sentiment => if row.sentiment = some sentiment then 1 else 0
  | .attention attention => if row.attention = some attention then 1 else 0
  | .aspect aspect polarity => aspectTally aspect polarity row.aspects

theorem standingIn_eq (generation : AggregateGeneration) (date : δ) (counter : DayCounter α)
    (row : StoredContribution ρ α δ) : standingIn generation date counter row =
      if row.generation = generation ∧ row.localDate = date ∧ row.isAspectReady = true then
        row.shown counter
      else 0 := by
  rw [standingIn]
  by_cases hgeneration : row.generation = generation
  · rw [if_pos hgeneration]
    cases hready : row.isAspectReady with
    | false => rw [standing_of_not_aspectReady hready, if_neg (by simp)]
    | true =>
        have hkind : row.status = .ready ∧ row.isMention = false := by
          simpa [StoredContribution.isAspectReady] using hready
        rw [StoredContribution.standing, hkind.2, if_neg Bool.false_ne_true]
        by_cases hdate : row.localDate = date
        · rw [if_pos ⟨hgeneration, hdate, rfl⟩]
          obtain ⟨hsentiment, hattention, -⟩ := row.described
          rw [hkind.1] at hsentiment hattention
          obtain ⟨sentiment, hsentiment⟩ := Option.isSome_iff_exists.1 hsentiment
          obtain ⟨attention, hattention⟩ := Option.isSome_iff_exists.1 hattention
          cases counter <;>
            simp [AnalysisContribution.standing, Contribution.amount, StoredContribution.shown, hdate,
              hkind.1, hsentiment, hattention, eq_comm]
        · rw [if_neg fun h ↦ hdate h.2.1]
          simp only [AnalysisContribution.standing, if_neg hdate]
  · rw [if_neg hgeneration, if_neg fun h ↦ hgeneration h.1]

theorem sum_map_ite_one {β : Type} (p : β → Prop) [DecidablePred p] (l : List β) :
    (l.map fun x ↦ if p x then (1 : ℤ) else 0).sum = (l.countP fun x ↦ p x : ℕ) := by
  induction l with
  | nil => rfl
  | cons x l ih =>
      rw [List.map_cons, List.sum_cons, ih, List.countP_cons]
      by_cases hx : p x <;> simp [hx, add_comm]

/-- Totals of contributions are what a day shows of them. -/
theorem dayShows_standingTotal (generation : AggregateGeneration) (date : δ)
    (rows : List (StoredContribution ρ α δ)) :
    DayShows (fun counter ↦ standingTotal generation date counter rows)
      (dayContributions generation date rows) := by
  have htotal (counter : DayCounter α) : standingTotal generation date counter rows =
      ((dayContributions generation date rows).map fun row ↦ row.shown counter).sum := by
    rw [standingTotal, dayContributions]
    induction rows with
    | nil => rfl
    | cons row rows ih =>
        rw [List.map_cons, List.sum_cons, ih, standingIn_eq, List.filter_cons]
        split_ifs <;> simp_all
  constructor
  · rw [htotal]
    simp [StoredContribution.shown]
  · rw [htotal]
    rw [Nat.cast_list_sum, List.map_map]
    rfl
  · intro sentiment
    rw [htotal]
    exact sum_map_ite_one _ _
  · intro attention
    rw [htotal]
    exact sum_map_ite_one _ _
  · intro aspect polarity
    rw [htotal]
    rfl

variable [DecidableEq ρ]

/-- The contributions that stand for their reviews. -/
def currentContributions (rows : List (StoredContribution ρ α δ)) : List (StoredContribution ρ α δ) :=
  LatestRow.currents contributionKey StoredContribution.analysisSequence rows

/-- What the latest contributions count on a day of a generation. -/
def currentTotal (generation : AggregateGeneration) (date : δ) (counter : DayCounter α)
    (rows : List (StoredContribution ρ α δ)) : ℤ :=
  standingTotal generation date counter (currentContributions rows)

theorem currentTotal_eq (generation : AggregateGeneration) (date : δ) (counter : DayCounter α)
    (rows : List (StoredContribution ρ α δ)) : currentTotal generation date counter rows =
      LatestRow.total contributionKey StoredContribution.analysisSequence
        (standingIn generation date counter) rows := rfl

/-! ## Steps on the cube -/

/-- The days of a generation count its latest contributions and the ones that were left there. -/
def CountsCurrent (left : List (StoredContribution ρ α δ)) (generation : AggregateGeneration)
    (s : AggregateStore ρ α δ) : Prop :=
  ∀ date counter, s.count generation date counter =
    currentTotal generation date counter s.contributions + standingTotal generation date counter left

/-- An update that leaves the counts at totals goes through. -/
theorem update_ok {s : AggregateStore ρ α δ} {generation : AggregateGeneration}
    (analysisSequence : ℕ) (head : AggregateHead) (aggregateRevision : ℕ)
    (next : Option (AnalysisContribution α δ)) (previous : Option (StoredContribution ρ α δ))
    (rows left : List (StoredContribution ρ α δ))
    (totals : ∀ date counter, s.count generation date counter +
        updateChange previous (previous.elim [] readAspects) next date counter =
      currentTotal generation date counter rows + standingTotal generation date counter left) :
    ∃ days aspectDays,
      updateDailyAggregates generation analysisSequence head aggregateRevision next previous
        (previous.elim [] readAspects) s = .ok { s with days, aspectDays } ∧
      ∀ generation' date counter,
        ({ s with days, aspectDays } : AggregateStore ρ α δ).count generation' date counter =
          if generation' = generation then
            currentTotal generation date counter rows + standingTotal generation date counter left
          else s.count generation' date counter := by
  have hbounded (date : δ) :=
    (standingTotal_bounded generation date (currentContributions rows)).add
      (standingTotal_bounded generation date left)
  obtain ⟨days, aspectDays, hok, hcount⟩ := updateDailyAggregates_ok generation analysisSequence head
    aggregateRevision next previous (previous.elim [] readAspects) s
    (by intro date; simp only [totals]; exact (hbounded date).1)
    (by intro date aspect polarity; rw [totals]; exact (hbounded date).2 aspect polarity)
  refine ⟨days, aspectDays, hok, fun generation' date counter ↦ ?_⟩
  rw [hcount]
  by_cases h : generation' = generation
  · rw [h, if_pos rfl, if_pos rfl, totals]
  · rw [if_neg h, if_neg h, add_zero]

/-! ## Commands on the cube -/

/-- The days of a generation count the latest contributions and the ones that were left there; those
of the other generations are as they were. -/
def CountsOnly (left : List (StoredContribution ρ α δ)) (generation : AggregateGeneration)
    (s s' : AggregateStore ρ α δ) : Prop :=
  ∀ generation' date counter, s'.count generation' date counter =
    if generation' = generation then currentTotal generation date counter s'.contributions +
      standingTotal generation date counter left
    else s.count generation' date counter

/-- A review is withdrawn: the days lose what it stood for. -/
theorem withdraw_ok {s : AggregateStore ρ α δ} (sound : AggregatesSound s) (input : AggregateIdentity ρ)
    (head : AggregateHead) (aggregateRevision : ℕ) (left : List (StoredContribution ρ α δ))
    (counts : CountsCurrent left input.generation s) :
    ∃ days aspectDays,
      withdrawReviewContribution input head aggregateRevision (settledStore input s) =
        .ok (withCube (settledStore input s) (s.contributions.filter fun row ↦
          contributionKey row ≠ (input.generation, input.reviewId)) days aspectDays) ∧
      CountsOnly left input.generation s (withCube (settledStore input s)
        (s.contributions.filter fun row ↦ contributionKey row ≠ (input.generation, input.reviewId))
        days aspectDays) := by
  have hcube := sameCube_settledStore input s
  have hcount (generation : AggregateGeneration) (date : δ) (counter : DayCounter α) :
      (settledStore input s).count generation date counter = s.count generation date counter :=
    hcube.count generation date counter
  have hread := readPreviousContribution_ok (s := settledStore input s) input.generation input.reviewId
    (by rw [hcube.contributions]; exact sound.valid)
  rw [hcube.contributions] at hread
  have hremove (date : δ) (counter : DayCounter α) :=
    LatestRow.total_remove sound.ranked (standingIn input.generation date counter)
      (input.generation, input.reviewId)
  cases hlatest : latestContribution input.generation input.reviewId s.contributions with
  | none =>
      have hself : (s.contributions.filter fun row ↦
          contributionKey row ≠ (input.generation, input.reviewId)) = s.contributions := by
        rw [List.filter_eq_self]
        intro row mem
        exact decide_eq_true (LatestRow.latest_eq_none_iff.1 hlatest row mem)
      refine ⟨s.days, s.aspectDays, ?_, fun generation date counter ↦ ?_⟩
      · rw [withdrawReviewContribution, hread, hlatest, hself, ← hcube.contributions, ← hcube.days,
          ← hcube.aspectDays]
        rfl
      · have hsame : SameCube s (withCube (settledStore input s) s.contributions s.days s.aspectDays) :=
          ⟨rfl, rfl, rfl⟩
        rw [hself, hsame.count]
        by_cases hgeneration : generation = input.generation
        · rw [if_pos hgeneration, hgeneration]
          exact counts date counter
        · rw [if_neg hgeneration]
  | some previous =>
      obtain ⟨hmem, hkey⟩ := LatestRow.latest_mem hlatest
      have hgeneration : previous.generation = input.generation := (Prod.mk.inj hkey).1
      have htotals (date : δ) (counter : DayCounter α) :
          (settledStore input s).count input.generation date counter +
              updateChange (some previous) ((some previous).elim [] readAspects) none date counter =
            currentTotal input.generation date counter (s.contributions.filter fun row ↦
                contributionKey row ≠ (input.generation, input.reviewId)) +
              standingTotal input.generation date counter left := by
        have htotal := hremove date counter
        rw [latestContribution] at hlatest
        rw [hlatest, Option.elim_some, standingIn, if_pos hgeneration] at htotal
        rw [← currentTotal_eq, ← currentTotal_eq] at htotal
        rw [updateChange_eq, Option.elim_none, Option.elim_some, hcount, counts, ← htotal]
        ring
      obtain ⟨days, aspectDays, hok, hupdated⟩ := update_ok
        input.analysisSequence head aggregateRevision none (some previous) _ left htotals
      refine ⟨days, aspectDays, ?_, fun generation date counter ↦ ?_⟩
      · rw [hlatest, Option.elim_some] at hread
        rw [withdrawReviewContribution, bind_of_ok hread]
        rw [Option.elim_some] at hok
        dsimp only
        rw [if_neg (by simp), bind_of_ok hok, ← hcube.contributions]
        rfl
      · have hresult := hupdated generation date counter
        rw [hcount] at hresult
        exact hresult

/-- A new contribution takes the place of the one before it. -/
theorem currentTotal_cons {s : AggregateStore ρ α δ} (sound : AggregatesSound s)
    {input : ApplyReviewAnalysis ρ α δ} (new : IsNewSequence input.toAggregateIdentity s)
    (found : ApplicableAnalysis α δ) (aggregateRevision : ℕ) (generation : AggregateGeneration)
    (date : δ) (counter : DayCounter α) :
    currentTotal generation date counter
        (storedContribution input found aggregateRevision :: s.contributions) =
      currentTotal generation date counter s.contributions +
        if input.generation = generation then
          (storedContribution input found aggregateRevision).standing date counter -
            (latestContribution input.generation input.reviewId s.contributions).elim 0 fun row ↦
              row.standing date counter
        else 0 := by
  have hnewest : ∀ other ∈ s.contributions,
      contributionKey other = contributionKey (storedContribution input found aggregateRevision) →
        other.analysisSequence < (storedContribution input found aggregateRevision).analysisSequence :=
    sound.newest new
  have htotal := LatestRow.total_cons sound.ranked (standingIn generation date counter) hnewest
  have hlatest : (LatestRow.latest contributionKey StoredContribution.analysisSequence
        (contributionKey (storedContribution input found aggregateRevision)) s.contributions).elim 0
          (standingIn generation date counter) =
      if input.generation = generation then
        (latestContribution input.generation input.reviewId s.contributions).elim 0 fun row ↦
          row.standing date counter
      else 0 := by
    have hkey : contributionKey (storedContribution input found aggregateRevision) =
        (input.generation, input.reviewId) := rfl
    rw [hkey, latestContribution]
    cases hrow : LatestRow.latest contributionKey StoredContribution.analysisSequence
        (input.generation, input.reviewId) s.contributions with
    | none => simp
    | some row =>
        have hgeneration : row.generation = input.generation :=
          (Prod.mk.inj (LatestRow.latest_mem hrow).2).1
        rw [Option.elim_some, Option.elim_some, standingIn, hgeneration]
  have hstored : standingIn generation date counter (storedContribution input found aggregateRevision) =
      if input.generation = generation then
        (storedContribution input found aggregateRevision).standing date counter else 0 := rfl
  rw [hlatest, hstored, ← currentTotal_eq, ← currentTotal_eq] at htotal
  split_ifs at htotal ⊢ <;> omega

/-- An apply that goes through: its contribution is stored, and the days follow unless it is of the
kind with mentions. -/
structure AnalysisApplied (left : List (StoredContribution ρ α δ)) (input : ApplyReviewAnalysis ρ α δ)
    (found : ApplicableAnalysis α δ) (s s' : AggregateStore ρ α δ) : Prop where
  contributions : ∃ revision,
    s'.contributions = storedContribution input found revision :: s.contributions
  committed : SettlementCommitted input.toAggregateIdentity s s'
  mentions : found.mentions = true → s'.days = s.days ∧ s'.aspectDays = s.aspectDays
  counts : found.mentions = false → CountsOnly left input.generation s s'

theorem applyFound_ok {s : AggregateStore ρ α δ} (sound : AggregatesSound s)
    {input : ApplyReviewAnalysis ρ α δ} (new : IsNewSequence input.toAggregateIdentity s)
    {found : ApplicableAnalysis α δ}
    (hfound : findApplicable input = .ok found) (fresh : appliedContribution input s = none)
    (left : List (StoredContribution ρ α δ)) (counts : CountsCurrent left input.generation s) :
    ∃ revision s', applyFound input found
        (lockAggregateHead input.generation (withSettlement input.toAggregateIdentity s)).1
        (settledStore input.toAggregateIdentity s) = .ok (.applied revision, s') ∧
      AnalysisApplied left input found s s' := by
  let head := (lockAggregateHead input.generation (withSettlement input.toAggregateIdentity s)).1
  let stored := storedContribution input found (head.aggregateRevision + 1)
  let store : AggregateStore ρ α δ := withCube (settledStore input.toAggregateIdentity s)
    (stored :: s.contributions) s.days s.aspectDays
  have hcube := sameCube_settledStore input.toAggregateIdentity s
  have hledger : (settledStore input.toAggregateIdentity s).settlements =
      (withSettlement input.toAggregateIdentity s).settlements :=
    (lockAggregateHead_spec input.generation (withSettlement input.toAggregateIdentity s)).2.1
  have hread := readPreviousContribution_ok (s := settledStore input.toAggregateIdentity s)
    input.generation input.reviewId (by rw [hcube.contributions]; exact sound.valid)
  rw [hcube.contributions] at hread
  have hfresh :
      (appliedContribution input (settledStore input.toAggregateIdentity s)).isSome = false := by
    rw [appliedContribution, hcube.contributions]
    rw [appliedContribution] at fresh
    rw [fresh]
    rfl
  have hstore : { settledStore input.toAggregateIdentity s with
      contributions := stored :: (settledStore input.toAggregateIdentity s).contributions } =
        store := by
    rw [hcube.contributions]
    simp only [store, withCube, ← hcube.days, ← hcube.aspectDays]
  have hbody : applyFound input found head (settledStore input.toAggregateIdentity s) =
      (if found.mentions then .ok store
        else updateDailyAggregates input.generation input.analysisSequence head
          (head.aggregateRevision + 1) (some found.toAnalysisContribution)
          (latestContribution input.generation input.reviewId s.contributions)
          ((latestContribution input.generation input.reviewId s.contributions).elim [] readAspects)
          store) >>= fun s ↦
        commitAggregateHead input.generation input.analysisSequence head (head.aggregateRevision + 1)
          s >>= fun s ↦ .ok (.applied (head.aggregateRevision + 1), s) := by
    rw [applyFound, bind_of_ok hread]
    dsimp only
    rw [hfresh, if_neg Bool.false_ne_true, hstore]
  rw [hbody]
  cases hmentions : found.mentions with
  | true =>
      obtain ⟨heads, hcommit, hcommitted⟩ := commit_ok sound.heads store
        input.toAggregateIdentity (head.aggregateRevision + 1) rfl hledger
      have hresult : AnalysisApplied left input found s { store with heads } :=
        { contributions := ⟨head.aggregateRevision + 1, rfl⟩
          committed := hcommitted
          mentions := fun _ ↦ ⟨rfl, rfl⟩
          counts := fun h ↦ absurd (hmentions.symm.trans h) Bool.true_eq_false.mp }
      refine ⟨head.aggregateRevision + 1, _, ?_, hresult⟩
      rw [if_pos rfl, bind_of_ok rfl]
      exact bind_of_ok hcommit
  | false =>
      have htotals (date : δ) (counter : DayCounter α) :
          store.count input.generation date counter +
              updateChange (latestContribution input.generation input.reviewId s.contributions)
                ((latestContribution input.generation input.reviewId s.contributions).elim []
                  readAspects)
                (some found.toAnalysisContribution) date counter =
            currentTotal input.generation date counter (stored :: s.contributions) +
              standingTotal input.generation date counter left := by
        have hcount : store.count input.generation date counter =
            s.count input.generation date counter :=
          SameCube.count ⟨rfl, rfl, rfl⟩ _ _ _
        rw [hcount, counts, updateChange_eq, currentTotal_cons sound new, if_pos rfl,
          standing_storedContribution hfound, hmentions, if_neg Bool.false_ne_true, Option.elim_some]
        ring
      obtain ⟨days, aspectDays, hok, hupdated⟩ := update_ok input.analysisSequence head
        (head.aggregateRevision + 1) (some found.toAnalysisContribution)
        (latestContribution input.generation input.reviewId s.contributions) _ left htotals
      obtain ⟨heads, hcommit, hcommitted⟩ := commit_ok sound.heads
        (withCube store (stored :: s.contributions) days aspectDays) input.toAggregateIdentity
        (head.aggregateRevision + 1) rfl hledger
      have hresult : AnalysisApplied left input found s
          { withCube store (stored :: s.contributions) days aspectDays with heads } :=
        { contributions := ⟨head.aggregateRevision + 1, rfl⟩
          committed := hcommitted
          mentions := fun h ↦ absurd (h.symm.trans hmentions) Bool.true_eq_false.mp
          counts := fun _ ↦ hupdated }
      refine ⟨head.aggregateRevision + 1, _, ?_, hresult⟩
      rw [if_neg Bool.false_ne_true, bind_of_ok hok]
      exact bind_of_ok hcommit

end Totals

end ReputationKey.Ai
