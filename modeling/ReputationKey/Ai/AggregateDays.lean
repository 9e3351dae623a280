import ReputationKey.Ai.PropertyAggregates
import Mathlib.Algebra.Order.Ring.Int
import Mathlib.Tactic.Ring

/-!
# What an update does to the days

The counts of a day are one function of its counters. An update adds what the next contribution
counts and takes off what the previous one counted, and it goes through wherever the counts stay in
bounds.
-/

namespace ReputationKey.Ai

open Base

/-- The counters of a day: reviews, ratings, and one for each sentiment, attention and aspect. -/
inductive DayCounter (α : Type)
  | reviews
  | ratings
  | sentiment (sentiment : Sentiment)
  | attention (attention : Attention)
  | aspect (aspect : α) (polarity : AspectPolarity)
  deriving DecidableEq

section Counts

variable {ρ α δ : Type}

/-- The counter of a daily row; aspects have a table of their own. -/
def DailyRow.counter (row : DailyRow) : DayCounter α → ℤ
  | .reviews => row.reviewCount
  | .ratings => row.ratingSum
  | .sentiment sentiment => row.sentimentCount sentiment
  | .attention attention => row.attentionCount attention
  | .aspect _ _ => 0

/-- What a day of a generation shows on a counter. -/
def AggregateStore.count (s : AggregateStore ρ α δ) (generation : AggregateGeneration) (localDate : δ) :
    DayCounter α → ℤ
  | .aspect aspect polarity => (s.aspectDays (generation, localDate, aspect, polarity)).getD 0
  | counter => ((s.days (generation, localDate)).map (·.counter counter)).getD 0

/-- What a contribution adds to its day, aspects aside. -/
def Contribution.amount (contribution : Contribution α) : DayCounter α → ℤ :=
  match contribution.status, contribution.sentiment, contribution.attention with
  | .ready, some sentiment, some attention => fun counter ↦
      match counter with
      | .reviews => 1
      | .ratings => contribution.rating
      | .sentiment other => if other = sentiment then 1 else 0
      | .attention other => if other = attention then 1 else 0
      | .aspect _ _ => 0
  | _, _, _ => fun _ ↦ 0

/-- How often aspects name one with a polarity. -/
def aspectTally [DecidableEq α] (aspect : α) (polarity : AspectPolarity)
    (aspects : List (ContributionAspect α)) : ℤ :=
  ((aspects.filter fun row ↦ row.aspect = aspect ∧ row.polarity = polarity).length : ℕ)

/-- What an analysis adds to a day. -/
def AnalysisContribution.standing [DecidableEq α] [DecidableEq δ] (row : AnalysisContribution α δ)
    (localDate : δ) (counter : DayCounter α) : ℤ :=
  if row.localDate = localDate then
    match counter with
    | .aspect aspect polarity =>
        if row.contribution.status = .ready then aspectTally aspect polarity row.aspects else 0
    | counter => row.contribution.amount counter
  else 0

/-- What a stored contribution counts on a day: nothing unless it is ready and of the kind with
aspects. -/
def StoredContribution.standing [DecidableEq α] [DecidableEq δ] (row : StoredContribution ρ α δ)
    (localDate : δ) (counter : DayCounter α) : ℤ :=
  if row.isMention then 0
  else AnalysisContribution.standing ⟨row.toContribution, row.localDate, row.aspects⟩ localDate counter

/-- Counts that the table of daily rows accepts. -/
def CountsAccepted (counts : DayCounter α → ℤ) : Prop :=
  0 ≤ counts .reviews ∧ 0 ≤ counts .ratings ∧
    (0 ≤ counts (.sentiment .positive) ∧ 0 ≤ counts (.sentiment .neutral) ∧
      0 ≤ counts (.sentiment .negative) ∧ 0 ≤ counts (.sentiment .mixed)) ∧
    (0 ≤ counts (.attention .urgent) ∧ 0 ≤ counts (.attention .high) ∧
      0 ≤ counts (.attention .medium) ∧ 0 ≤ counts (.attention .low)) ∧
    counts (.sentiment .positive) + counts (.sentiment .neutral) + counts (.sentiment .negative) +
      counts (.sentiment .mixed) = counts .reviews ∧
    counts (.attention .urgent) + counts (.attention .high) + counts (.attention .medium) +
      counts (.attention .low) = counts .reviews ∧
    counts .ratings ≤ counts .reviews * 5

theorem counter_adjustDaily (row : DailyRow) (contribution : Contribution α) (direction : ℤ)
    (counter : DayCounter α) : (adjustDaily row contribution direction).counter counter =
      row.counter counter + direction * contribution.amount counter := by
  rw [adjustDaily, Contribution.amount]
  cases contribution.status with
  | unavailable => simp
  | ready =>
      cases contribution.sentiment with
      | none => simp
      | some sentiment =>
          cases contribution.attention with
          | none => simp
          | some attention =>
              cases counter with
              | reviews | ratings | aspect => simp [DailyRow.counter]
              | sentiment other => by_cases h : other = sentiment <;> simp [DailyRow.counter, h]
              | attention other => by_cases h : other = attention <;> simp [DailyRow.counter, h]

/-! ## Columns -/

/-- A counter that is a column of the daily rows. -/
def DayCounter.isColumn : DayCounter α → Bool
  | .aspect _ _ => false
  | _ => true

theorem amount_of_not_ready {contribution : Contribution α} (h : contribution.status ≠ .ready)
    (counter : DayCounter α) : contribution.amount counter = 0 := by
  rw [Contribution.amount]
  cases hstatus : contribution.status with
  | ready => exact absurd hstatus h
  | unavailable => rfl

/-- A row is accepted by its counters. -/
theorem accepted_iff (row : DailyRow) :
    row.Accepted ↔ CountsAccepted fun counter : DayCounter α ↦ row.counter counter := Iff.rfl

/-- A day without a row shows nothing; with one, its counters. -/
theorem count_of_isColumn (s : AggregateStore ρ α δ) (generation : AggregateGeneration) (localDate : δ)
    {counter : DayCounter α} (h : counter.isColumn = true) : s.count generation localDate counter =
      ((s.days (generation, localDate)).map (·.counter counter)).getD 0 := by
  cases counter with
  | aspect => cases h
  | reviews | ratings | sentiment | attention => rfl

/-- Accepted counts are told by the columns. -/
theorem CountsAccepted.congr {counts counts' : DayCounter α → ℤ} (h : CountsAccepted counts)
    (same : ∀ counter, counter.isColumn = true → counts' counter = counts counter) :
    CountsAccepted counts' := by
  rw [CountsAccepted] at h ⊢
  rw [same _ rfl, same _ rfl, same _ rfl, same _ rfl, same _ rfl, same _ rfl, same _ rfl, same _ rfl,
    same _ rfl, same _ rfl]
  exact h

theorem zeroDailyValues_counter (revision terminal : ℕ) (counter : DayCounter α) :
    (zeroDailyValues revision terminal).counter counter = 0 := by
  cases counter <;> rfl

section Rows

variable [DecidableEq δ]

/-- The rows of different days are all written. -/
theorem foldlM_updateDays_ok (generation : AggregateGeneration)
    (previous : Option (StoredContribution ρ α δ)) (next : Option (AnalysisContribution α δ))
    (aggregateRevision terminal : ℕ) {dates : List δ} (nodup : dates.Nodup)
    (s : AggregateStore ρ α δ)
    (h : ∀ date ∈ dates, ∃ row, s.days (generation, date) = some row ∧
      (adjustedDay previous next date row).Accepted) :
    ∃ days, dates.foldlM (updateDays generation previous next aggregateRevision terminal) s =
        .ok { s with days } ∧
      ∀ key, days key = if key.1 = generation ∧ key.2 ∈ dates then
        (s.days key).map fun row ↦
          (adjustedDay previous next key.2 row).stamped aggregateRevision terminal
        else s.days key := by
  induction dates generalizing s with
  | nil => exact ⟨s.days, rfl, fun key ↦ by simp⟩
  | cons first rest ih =>
      rw [List.nodup_cons] at nodup
      obtain ⟨row, hrow, haccepted⟩ := h first List.mem_cons_self
      let written := (adjustedDay previous next first row).stamped aggregateRevision terminal
      have hok : updateDays generation previous next aggregateRevision terminal s first =
          .ok { s with days := s.days.set (generation, first) written } := by
        have hnonneg : ¬((adjustedDay previous next first row).reviewCount < 0 ∨
            (adjustedDay previous next first row).ratingSum < 0) := by
          have hreviews := haccepted.1
          have hratings := haccepted.2.1
          omega
        rw [updateDays, hrow]
        dsimp only
        rw [if_neg hnonneg, if_neg (not_not_intro haccepted)]
      have hother {key : AggregateGeneration × δ} (hkey : key ≠ (generation, first)) :
          s.days.set (generation, first) written key = s.days key := KeyedRecord.set_other _ _ hkey
      obtain ⟨days, hrest, hdays⟩ := ih nodup.2
        { s with days := s.days.set (generation, first) written } (by
          intro date mem
          have hdate : date ≠ first := fun hsame ↦ nodup.1 (hsame ▸ mem)
          obtain ⟨row, hrow, haccepted⟩ := h date (List.mem_cons_of_mem _ mem)
          exact ⟨row, (hother (by simpa using hdate)).trans hrow, haccepted⟩)
      refine ⟨days, ?_, fun key ↦ ?_⟩
      · rw [List.foldlM_cons, hok]
        exact hrest
      · rw [hdays]
        by_cases hkey : key = (generation, first)
        · subst hkey
          simp [nodup.1, hrow, KeyedRecord.set_same, written]
        · have hmem : (key.1 = generation ∧ key.2 ∈ first :: rest) ↔
              (key.1 = generation ∧ key.2 ∈ rest) := by
            rw [List.mem_cons]
            constructor
            · rintro ⟨hgeneration, hfirst | hrest⟩
              · exact absurd (Prod.ext hgeneration hfirst) hkey
              · exact ⟨hgeneration, hrest⟩
            · exact fun h ↦ ⟨h.1, .inr h.2⟩
          simp only [hmem, hother hkey]

theorem touchedDates_nodup (previous : Option (StoredContribution ρ α δ))
    (next : Option (AnalysisContribution α δ)) : (touchedDates previous next).Nodup :=
  List.nodup_dedup _

/-- The days that an update starts from: the touched ones have a row. -/
theorem started_days (generation : AggregateGeneration) (zero : DailyRow) {dates : List δ}
    (nodup : dates.Nodup) (days : KeyedRecord (AggregateGeneration × δ) DailyRow)
    (key : AggregateGeneration × δ) :
    dates.foldl (fun days localDate ↦
        days.modify (generation, localDate) fun row ↦ some (row.getD zero)) days key =
      if key.1 = generation ∧ key.2 ∈ dates then some ((days key).getD zero) else days key := by
  have hkeys : (dates.map fun date ↦ (generation, date)).Nodup :=
    nodup.map fun _ _ h ↦ (Prod.mk.inj h).2
  have hfold := KeyedRecord.foldl_modify
    (fun _ row ↦ some (row.getD zero)) hkeys days key
  rw [List.foldl_map] at hfold
  rw [hfold]
  congr 1
  rw [List.mem_map, eq_iff_iff]
  constructor
  · rintro ⟨date, mem, rfl⟩
    exact ⟨rfl, mem⟩
  · rintro ⟨rfl, mem⟩
    exact ⟨key.2, mem, rfl⟩

end Rows

/-! ## Aspect deltas -/

variable [DecidableEq α] [DecidableEq δ]

/-- The change that deltas have for a key. -/
def deltaAt (deltas : List (AspectKey α δ × ℤ)) (key : AspectKey α δ) : ℤ :=
  ((RowTable.find Prod.fst key deltas).map Prod.snd).getD 0

theorem deltaAt_bumpDelta (deltas : List (AspectKey α δ × ℤ)) (key other : AspectKey α δ)
    (direction : ℤ) : deltaAt (bumpDelta deltas key direction) other =
      deltaAt deltas other + if other = key then direction else 0 := by
  rw [bumpDelta]
  by_cases hmem : key ∈ deltas.map Prod.fst
  · rw [if_pos hmem, deltaAt, RowTable.find_alter (by intro row; rfl), deltaAt]
    by_cases hkey : other = key
    · subst hkey
      cases hfind : RowTable.find Prod.fst other deltas with
      | none => exact absurd hmem (RowTable.find_eq_none_iff.1 hfind)
      | some entry => simp
    · cases RowTable.find Prod.fst other deltas <;> simp [hkey]
  · rw [if_neg hmem, deltaAt, deltaAt, RowTable.find, List.find?_append]
    by_cases hkey : other = key
    · subst hkey
      have hnone := RowTable.find_eq_none_iff.2 hmem
      rw [RowTable.find] at hnone
      simp [hnone, RowTable.find]
    · have hlast : [(key, direction)].find? (fun row ↦ decide (row.1 = other)) = none := by
        simp [Ne.symm hkey]
      rw [hlast, Option.or_none, if_neg hkey, add_zero, RowTable.find]

theorem nodup_bumpDelta {deltas : List (AspectKey α δ × ℤ)} (h : (deltas.map Prod.fst).Nodup)
    (key : AspectKey α δ) (direction : ℤ) : ((bumpDelta deltas key direction).map Prod.fst).Nodup := by
  rw [bumpDelta]
  by_cases hmem : key ∈ deltas.map Prod.fst
  · rwa [if_pos hmem, RowTable.map_key_alter (by intro row; rfl)]
  · rw [if_neg hmem, List.map_append, List.nodup_append_comm]
    simpa using ⟨by simpa using hmem, h⟩

theorem deltaAt_addAspectDeltas (deltas : List (AspectKey α δ × ℤ)) (localDate : δ)
    (aspects : List (ContributionAspect α)) (direction : ℤ) (date : δ) (aspect : α)
    (polarity : AspectPolarity) :
    deltaAt (addAspectDeltas deltas localDate aspects direction) (date, aspect, polarity) =
      deltaAt deltas (date, aspect, polarity) +
        direction * if localDate = date then aspectTally aspect polarity aspects else 0 := by
  induction aspects generalizing deltas with
  | nil => simp [addAspectDeltas, aspectTally]
  | cons first rest ih =>
      have hcons : addAspectDeltas deltas localDate (first :: rest) direction =
          addAspectDeltas (bumpDelta deltas (localDate, first.aspect, first.polarity) direction)
            localDate rest direction := rfl
      rw [hcons, ih, deltaAt_bumpDelta]
      by_cases hdate : localDate = date
      · subst hdate
        by_cases hfirst : first.aspect = aspect ∧ first.polarity = polarity
        · obtain ⟨rfl, rfl⟩ := hfirst
          simp [aspectTally]
          ring
        · have hne : ¬(aspect = first.aspect ∧ polarity = first.polarity) :=
            fun h ↦ hfirst ⟨h.1.symm, h.2.symm⟩
          simp [aspectTally, hfirst, hne]
      · have hne : date ≠ localDate := Ne.symm hdate
        simp [hdate, hne]

theorem nodup_addAspectDeltas {deltas : List (AspectKey α δ × ℤ)} (h : (deltas.map Prod.fst).Nodup)
    (localDate : δ) (aspects : List (ContributionAspect α)) (direction : ℤ) :
    ((addAspectDeltas deltas localDate aspects direction).map Prod.fst).Nodup := by
  induction aspects generalizing deltas with
  | nil => exact h
  | cons first rest ih => exact ih (nodup_bumpDelta h _ _)

theorem nodup_collectAspectDeltas (previous : Option (StoredContribution ρ α δ))
    (previousAspects : List (ContributionAspect α)) (next : Option (AnalysisContribution α δ)) :
    ((collectAspectDeltas previous previousAspects next).map Prod.fst).Nodup := by
  have htaken : ((previous.elim [] fun row ↦
      if row.status = .ready then addAspectDeltas [] row.localDate previousAspects (-1)
      else []).map Prod.fst).Nodup := by
    cases previous with
    | none => exact List.nodup_nil
    | some row =>
        rw [Option.elim_some]
        split_ifs
        · exact nodup_addAspectDeltas (by exact List.nodup_nil) _ _ _
        · exact List.nodup_nil
  rw [collectAspectDeltas]
  cases next with
  | none => exact htaken
  | some row =>
      rw [Option.elim_some]
      split_ifs
      · exact nodup_addAspectDeltas htaken _ _ _
      · exact htaken

/-- What an update changes on a counter of a day. -/
def dayChange (previous : Option (AnalysisContribution α δ)) (next : Option (AnalysisContribution α δ))
    (localDate : δ) (counter : DayCounter α) : ℤ :=
  next.elim 0 (fun row ↦ row.standing localDate counter) -
    previous.elim 0 fun row ↦ row.standing localDate counter

/-- A stored contribution with aspects that were read for it. -/
def StoredContribution.withAspects (row : StoredContribution ρ α δ)
    (aspects : List (ContributionAspect α)) : AnalysisContribution α δ :=
  ⟨row.toContribution, row.localDate, aspects⟩

/-- The deltas of an update are its changes of the aspect counters. -/
theorem deltaAt_collectAspectDeltas (previous : Option (StoredContribution ρ α δ))
    (previousAspects : List (ContributionAspect α)) (next : Option (AnalysisContribution α δ))
    (localDate : δ) (aspect : α) (polarity : AspectPolarity) :
    deltaAt (collectAspectDeltas previous previousAspects next) (localDate, aspect, polarity) =
      dayChange (previous.map fun row ↦ row.withAspects previousAspects) next localDate
        (.aspect aspect polarity) := by
  have hnil : deltaAt ([] : List (AspectKey α δ × ℤ)) (localDate, aspect, polarity) = 0 := rfl
  rw [collectAspectDeltas, dayChange]
  cases previous with
  | none =>
      cases next with
      | none => simp [hnil]
      | some next =>
          by_cases hnext : next.contribution.status = .ready
          · by_cases hdate : next.localDate = localDate <;>
              simp [hnext, hdate, hnil, deltaAt_addAspectDeltas, AnalysisContribution.standing]
          · simp [hnext, hnil, AnalysisContribution.standing]
  | some previous =>
      have htaken : deltaAt (if previous.status = .ready then
            addAspectDeltas [] previous.localDate previousAspects (-1) else [])
              (localDate, aspect, polarity) =
          -(previous.withAspects previousAspects).standing localDate (.aspect aspect polarity) := by
        by_cases hprevious : previous.status = .ready
        · by_cases hdate : previous.localDate = localDate <;>
            simp [hprevious, hdate, hnil, deltaAt_addAspectDeltas, AnalysisContribution.standing,
              StoredContribution.withAspects]
        · simp [hprevious, hnil, AnalysisContribution.standing, StoredContribution.withAspects]
      cases next with
      | none => simp [htaken]
      | some next =>
          by_cases hnext : next.contribution.status = .ready
          · by_cases hdate : next.localDate = localDate
            · simp [hnext, hdate, htaken, deltaAt_addAspectDeltas, AnalysisContribution.standing]
              ring
            · simp [hnext, hdate, htaken, deltaAt_addAspectDeltas, AnalysisContribution.standing]
          · simp [hnext, htaken, AnalysisContribution.standing]

/-- A delta is written where the count stays in bounds. -/
theorem persistAspectDelta_ok (generation : AggregateGeneration) (s : AggregateStore ρ α δ)
    {delta : AspectKey α δ × ℤ} (h : 0 ≤ (s.aspectDays (generation, delta.1)).getD 0 + delta.2) :
    ∃ aspectDays, persistAspectDelta generation s delta = .ok { s with aspectDays } ∧
      ∀ key, (aspectDays key).getD 0 =
        (s.aspectDays key).getD 0 + if key = (generation, delta.1) then delta.2 else 0 := by
  rw [persistAspectDelta]
  by_cases hzero : delta.2 = 0
  · rw [if_pos hzero]
    refine ⟨s.aspectDays, rfl, fun key ↦ ?_⟩
    rw [hzero, ite_self, add_zero]
  rw [if_neg hzero]
  by_cases hpos : 0 < delta.2
  · rw [if_pos hpos]
    refine ⟨_, rfl, fun key ↦ ?_⟩
    by_cases hkey : key = (generation, delta.1)
    · rw [hkey, KeyedRecord.set_same, if_pos rfl, Option.getD_some]
    · rw [KeyedRecord.set_other _ _ hkey, if_neg hkey, add_zero]
  rw [if_neg hpos]
  cases hcount : s.aspectDays (generation, delta.1) with
  | none =>
      rw [hcount, Option.getD_none] at h
      omega
  | some count =>
      rw [hcount, Option.getD_some] at h
      dsimp only
      rw [if_neg (by omega)]
      by_cases hgone : count + delta.2 = 0
      · rw [if_pos hgone]
        refine ⟨_, rfl, fun key ↦ ?_⟩
        by_cases hkey : key = (generation, delta.1)
        · rw [hkey, KeyedRecord.erase, if_pos rfl, if_pos rfl, hcount, Option.getD_none,
            Option.getD_some, hgone]
        · rw [KeyedRecord.erase, if_neg hkey, if_neg hkey, add_zero]
      · rw [if_neg hgone]
        refine ⟨_, rfl, fun key ↦ ?_⟩
        by_cases hkey : key = (generation, delta.1)
        · rw [hkey, KeyedRecord.set_same, if_pos rfl, Option.getD_some, hcount, Option.getD_some]
        · rw [KeyedRecord.set_other _ _ hkey, if_neg hkey, add_zero]

/-- Deltas of different keys are all written. -/
theorem foldlM_persistAspectDelta_ok (generation : AggregateGeneration)
    {deltas : List (AspectKey α δ × ℤ)} (nodup : (deltas.map Prod.fst).Nodup)
    (s : AggregateStore ρ α δ)
    (h : ∀ key, 0 ≤ (s.aspectDays (generation, key)).getD 0 + deltaAt deltas key) :
    ∃ aspectDays, deltas.foldlM (persistAspectDelta generation) s = .ok { s with aspectDays } ∧
      ∀ generation' key, (aspectDays (generation', key)).getD 0 =
        (s.aspectDays (generation', key)).getD 0 +
          if generation' = generation then deltaAt deltas key else 0 := by
  induction deltas generalizing s with
  | nil => exact ⟨s.aspectDays, rfl, fun generation' key ↦ by simp [deltaAt, RowTable.find]⟩
  | cons first rest ih =>
      rw [List.map_cons, List.nodup_cons] at nodup
      have hfirst : deltaAt (first :: rest) first.1 = first.2 := by
        simp [deltaAt, RowTable.find]
      have hself : deltaAt rest first.1 = 0 := by
        rw [deltaAt, RowTable.find_eq_none_iff.2 nodup.1]
        rfl
      have hrest {key : AspectKey α δ} (hne : key ≠ first.1) :
          deltaAt (first :: rest) key = deltaAt rest key := by
        simp [deltaAt, RowTable.find, Ne.symm hne]
      obtain ⟨aspectDays, hok, hwritten⟩ := persistAspectDelta_ok generation s
        (by rw [← hfirst]; exact h first.1)
      have hbounds (key : AspectKey α δ) :
          0 ≤ (aspectDays (generation, key)).getD 0 + deltaAt rest key := by
        by_cases hkey : key = first.1
        · have hfull := h key
          rw [hkey, hfirst] at hfull
          rw [hwritten, hkey, if_pos rfl, hself]
          omega
        · have hfull := h key
          rw [hrest hkey] at hfull
          rw [hwritten, if_neg (by simpa using hkey), add_zero]
          exact hfull
      obtain ⟨aspectDays', hok', hwritten'⟩ := ih nodup.2 { s with aspectDays } hbounds
      refine ⟨aspectDays', ?_, fun generation' key ↦ ?_⟩
      · rw [List.foldlM_cons, hok]
        exact hok'
      · rw [hwritten', hwritten]
        by_cases hgeneration : generation' = generation
        · by_cases hkey : key = first.1
          · simp [hgeneration, hkey, hself, hfirst]
          · simp [hgeneration, hkey, hrest hkey]
        · simp [hgeneration]

/-! ## Daily rows -/

/-- On a column only a contribution that is ready counts, whatever its aspects. -/
theorem standing_of_isColumn {row : AnalysisContribution α δ} {localDate : δ} {counter : DayCounter α}
    (h : counter.isColumn = true) : row.standing localDate counter =
      if row.localDate = localDate then row.contribution.amount counter else 0 := by
  cases counter with
  | aspect => cases h
  | reviews | ratings | sentiment | attention => rfl

/-- A day's row after an update. -/
theorem counter_adjustedDay (previous : Option (StoredContribution ρ α δ))
    (previousAspects : List (ContributionAspect α)) (next : Option (AnalysisContribution α δ))
    (localDate : δ) (row : DailyRow) {counter : DayCounter α} (h : counter.isColumn = true) :
    (adjustedDay previous next localDate row).counter counter = row.counter counter +
      dayChange (previous.map fun row ↦ row.withAspects previousAspects) next localDate counter := by
  have htaken : (previous.elim row fun previous ↦
        if previous.localDate = localDate then adjustDaily row previous.toContribution (-1)
        else row).counter counter =
      row.counter counter - (previous.map fun row ↦ row.withAspects previousAspects).elim 0 fun row ↦
        row.standing localDate counter := by
    cases previous with
    | none => simp
    | some previous =>
        rw [Option.elim_some, Option.map_some, Option.elim_some, standing_of_isColumn h]
        by_cases hdate : previous.localDate = localDate
        · simp [hdate, counter_adjustDaily, StoredContribution.withAspects, sub_eq_add_neg]
        · simp [hdate, StoredContribution.withAspects]
  rw [adjustedDay, dayChange]
  cases next with
  | none =>
      rw [Option.filter_none, Option.elim_none, htaken, Option.elim_none]
      ring
  | some next =>
      rw [Option.elim_some, standing_of_isColumn h]
      by_cases hready : next.contribution.status = .ready
      · rw [Option.filter_some, if_pos (by simpa using hready), Option.elim_some]
        by_cases hdate : next.localDate = localDate
        · rw [if_pos hdate, if_pos hdate, counter_adjustDaily, htaken]
          ring
        · rw [if_neg hdate, if_neg hdate, htaken]
          ring
      · rw [Option.filter_some, if_neg (by simpa using hready), Option.elim_none, htaken,
          amount_of_not_ready hready, ite_self]
        ring

/-- A day that is not touched does not change. -/
theorem dayChange_of_not_touched {previous : Option (StoredContribution ρ α δ)}
    {previousAspects : List (ContributionAspect α)} {next : Option (AnalysisContribution α δ)}
    {date : δ} (h : date ∉ touchedDates previous next) (counter : DayCounter α) :
    dayChange (previous.map fun row ↦ row.withAspects previousAspects) next date counter = 0 := by
  have hquiet (row : AnalysisContribution α δ)
      (hrow : row.contribution.status = .ready → row.localDate ≠ date) :
      row.standing date counter = 0 := by
    by_cases hdate : row.localDate = date
    · have hstatus : row.contribution.status ≠ .ready := fun hready ↦ hrow hready hdate
      cases hcolumn : counter.isColumn with
      | true => rw [standing_of_isColumn hcolumn, amount_of_not_ready hstatus, ite_self]
      | false =>
          cases counter with
          | aspect => simp [AnalysisContribution.standing, hstatus]
          | reviews | ratings | sentiment | attention => cases hcolumn
    · simp only [AnalysisContribution.standing, if_neg hdate]
  rw [touchedDates, List.mem_dedup, List.mem_append, not_or] at h
  have hprevious : (previous.map fun row ↦ row.withAspects previousAspects).elim 0
      (fun row ↦ row.standing date counter) = 0 := by
    cases previous with
    | none => rfl
    | some row =>
        apply hquiet
        rintro hready rfl
        have hstatus : row.status = .ready := hready
        exact h.1 (by simp [hstatus, StoredContribution.withAspects])
  have hnext : next.elim 0 (fun row ↦ row.standing date counter) = 0 := by
    cases next with
    | none => rfl
    | some row =>
        apply hquiet
        rintro hready rfl
        exact h.2 (by simp [hready])
  rw [dayChange, hprevious, hnext, sub_zero]

/-- The rows and the aspect counts that an update writes. -/
theorem updateDaysAndAspects_ok (generation : AggregateGeneration) (analysisSequence : ℕ)
    (head : AggregateHead) (aggregateRevision : ℕ) (next : Option (AnalysisContribution α δ))
    (previous : Option (StoredContribution ρ α δ)) (previousAspects : List (ContributionAspect α))
    (s : AggregateStore ρ α δ)
    (accepted : ∀ date, CountsAccepted fun counter ↦ s.count generation date counter +
      dayChange (previous.map fun row ↦ row.withAspects previousAspects) next date counter)
    (nonneg : ∀ date aspect polarity, 0 ≤ s.count generation date (.aspect aspect polarity) +
      dayChange (previous.map fun row ↦ row.withAspects previousAspects) next date
        (.aspect aspect polarity)) :
    ∃ days aspectDays,
      updateDaysAndAspects generation analysisSequence head aggregateRevision next previous
        previousAspects s = .ok { s with days, aspectDays } ∧
      ∀ generation' date counter,
        ({ s with days, aspectDays } : AggregateStore ρ α δ).count generation' date counter =
          s.count generation' date counter + if generation' = generation then
            dayChange (previous.map fun row ↦ row.withAspects previousAspects) next date counter
          else 0 := by
  let dates := touchedDates previous next
  let zero := zeroDailyValues head.aggregateRevision head.terminalAnalysisSequence
  have hnodup : dates.Nodup := touchedDates_nodup previous next
  have hstarted := started_days generation zero hnodup s.days
  by_cases hnone : dates = []
  · rw [updateDaysAndAspects, if_pos hnone]
    refine ⟨s.days, s.aspectDays, rfl, fun generation' date counter ↦ ?_⟩
    rw [dayChange_of_not_touched (by rw [show touchedDates previous next = [] from hnone]; simp),
      ite_self, add_zero]
  let started := dates.foldl (fun days localDate ↦
    days.modify (generation, localDate) fun row ↦ some (row.getD zero)) s.days
  have hcounter (date : δ) {counter : DayCounter α} (h : counter.isColumn = true) :
      ((s.days (generation, date)).getD zero).counter counter = s.count generation date counter := by
    rw [count_of_isColumn s generation date h]
    cases s.days (generation, date) with
    | none => exact zeroDailyValues_counter _ _ counter
    | some row => rfl
  obtain ⟨days, hdays, hwritten⟩ := foldlM_updateDays_ok generation previous next aggregateRevision
    (max head.terminalAnalysisSequence analysisSequence) hnodup { s with days := started } (by
      intro date mem
      refine ⟨(s.days (generation, date)).getD zero, (hstarted _).trans (if_pos ⟨rfl, mem⟩), ?_⟩
      rw [accepted_iff (α := α)]
      apply (accepted date).congr
      intro counter h
      rw [counter_adjustedDay previous previousAspects next date _ h, hcounter date h])
  obtain ⟨aspectDays, haspects, hcounts⟩ := foldlM_persistAspectDelta_ok generation
    (nodup_collectAspectDeltas previous previousAspects next)
    ({ s with days } : AggregateStore ρ α δ) (by
      rintro ⟨date, aspect, polarity⟩
      rw [deltaAt_collectAspectDeltas]
      exact nonneg date aspect polarity)
  refine ⟨days, aspectDays, ?_, fun generation' date counter ↦ ?_⟩
  · have hbody : (if dates = [] then .ok s
          else
            (dates.foldlM (updateDays generation previous next aggregateRevision
              (max head.terminalAnalysisSequence analysisSequence)) { s with days := started }) >>=
            fun s ↦ (collectAspectDeltas previous previousAspects next).foldlM
              (persistAspectDelta generation) s) =
        (.ok { s with days, aspectDays } : Except AggregateError (AggregateStore ρ α δ)) := by
      rw [if_neg hnone, hdays]
      exact haspects
    exact hbody
  cases hcolumn : counter.isColumn with
  | false =>
      cases counter with
      | reviews | ratings | sentiment | attention => cases hcolumn
      | aspect aspect polarity =>
          rw [AggregateStore.count, hcounts, deltaAt_collectAspectDeltas]
          rfl
  | true =>
      have hcount :
          ({ s with days, aspectDays } : AggregateStore ρ α δ).count generation' date counter =
            ((days (generation', date)).map (·.counter counter)).getD 0 :=
        count_of_isColumn _ _ _ hcolumn
      rw [hcount, hwritten, count_of_isColumn s _ _ hcolumn]
      by_cases htouched : generation' = generation ∧ date ∈ dates
      · obtain ⟨rfl, hdate⟩ := htouched
        rw [if_pos ⟨rfl, hdate⟩, if_pos rfl, ← count_of_isColumn s _ _ hcolumn, ← hcounter date hcolumn,
          ← counter_adjustedDay previous previousAspects next date _ hcolumn]
        dsimp only
        have hrow : started (generation', date) = some ((s.days (generation', date)).getD zero) :=
          (hstarted _).trans (if_pos ⟨rfl, hdate⟩)
        rw [hrow, Option.map_some, Option.map_some, Option.getD_some]
        cases counter with
        | aspect => cases hcolumn
        | reviews | ratings | sentiment | attention => rfl
      · have hrow : started (generation', date) = s.days (generation', date) :=
          (hstarted _).trans (if_neg htouched)
        rw [if_neg htouched]
        dsimp only
        rw [hrow]
        by_cases hgeneration : generation' = generation
        · rw [if_pos hgeneration,
            dayChange_of_not_touched fun mem ↦ htouched ⟨hgeneration, mem⟩, add_zero]
        · rw [if_neg hgeneration, add_zero]

/-- What an update changes, with a previous contribution of the kind with mentions left out. -/
def updateChange (previous : Option (StoredContribution ρ α δ))
    (previousAspects : List (ContributionAspect α)) (next : Option (AnalysisContribution α δ))
    (date : δ) (counter : DayCounter α) : ℤ :=
  dayChange ((previous.filter fun row ↦ !row.isMention).map fun row ↦ row.withAspects previousAspects)
    next date counter

/-- An update goes through where the counts stay in bounds, and changes the counts of its
generation. -/
theorem updateDailyAggregates_ok (generation : AggregateGeneration) (analysisSequence : ℕ)
    (head : AggregateHead) (aggregateRevision : ℕ) (next : Option (AnalysisContribution α δ))
    (previous : Option (StoredContribution ρ α δ)) (previousAspects : List (ContributionAspect α))
    (s : AggregateStore ρ α δ)
    (accepted : ∀ date, CountsAccepted fun counter ↦ s.count generation date counter +
      updateChange previous previousAspects next date counter)
    (nonneg : ∀ date aspect polarity, 0 ≤ s.count generation date (.aspect aspect polarity) +
      updateChange previous previousAspects next date (.aspect aspect polarity)) :
    ∃ days aspectDays,
      updateDailyAggregates generation analysisSequence head aggregateRevision next previous
        previousAspects s = .ok { s with days, aspectDays } ∧
      ∀ generation' date counter,
        ({ s with days, aspectDays } : AggregateStore ρ α δ).count generation' date counter =
          s.count generation' date counter + if generation' = generation then
            updateChange previous previousAspects next date counter else 0 := by
  obtain ⟨previous', previousAspects', hbody, hmap⟩ : ∃ (previous' : Option (StoredContribution ρ α δ))
      (previousAspects' : List (ContributionAspect α)),
      updateDailyAggregates generation analysisSequence head aggregateRevision next previous
          previousAspects s =
        updateDaysAndAspects generation analysisSequence head aggregateRevision next previous'
          previousAspects' s ∧
      previous'.map (fun row ↦ row.withAspects previousAspects') =
        (previous.filter fun row ↦ !row.isMention).map fun row ↦ row.withAspects previousAspects := by
    cases previous with
    | none => exact ⟨none, previousAspects, rfl, rfl⟩
    | some row =>
        cases hmention : row.isMention with
        | true => exact ⟨none, [], by simp [updateDailyAggregates, hmention], by simp [hmention]⟩
        | false =>
            exact ⟨some row, previousAspects, by simp [updateDailyAggregates, hmention],
              by simp [hmention]⟩
  simp only [updateChange, ← hmap] at accepted nonneg ⊢
  rw [hbody]
  exact updateDaysAndAspects_ok generation analysisSequence head aggregateRevision next previous'
    previousAspects' s accepted nonneg

end Counts

end ReputationKey.Ai
