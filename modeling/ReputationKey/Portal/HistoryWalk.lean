import Mathlib.Data.List.Nodup
import ReputationKey.Portal.History

/-!
# Walking the merged history

Each source's bound admits exactly its records strictly after the cursor, so the walk over the
pages returns every record once, in order, and ends.
-/

namespace ReputationKey.Portal

open ReputationKey.Base

variable {δ : Type} {source other : HistorySource} {rows : HistorySource → List (SourceRow δ)}
  {limit : Nat}

/-! ## The order of keys -/

/-- No prefix starts another one. -/
theorem keyPrefix_free (h : source.keyPrefix <+: other.keyPrefix) : source = other := by
  revert h
  cases source <;> cases other <;> decide

/-- Texts that start with different unrelated prefixes compare as the prefixes do. -/
theorem append_lt_append_iff {p q : List Char} (hpq : ¬ p <+: q) (hqp : ¬ q <+: p)
    (x y : List Char) : p ++ x < q ++ y ↔ p < q ++ y := by
  induction p generalizing q with
  | nil => exact absurd (List.nil_prefix) hpq
  | cons a p ih =>
      cases q with
      | nil => exact absurd (List.nil_prefix) hqp
      | cons b q =>
          rw [List.cons_append, List.cons_append, List.cons_lt_cons_iff, List.cons_lt_cons_iff]
          by_cases hab : a = b
          · subst hab
            rw [List.prefix_cons_inj] at hpq hqp
            rw [ih hpq hqp]
          · simp [hab]

/-- Texts that start with the same prefix compare as the rest does. -/
theorem append_lt_append_left_iff (p x y : List Char) : p ++ x < p ++ y ↔ x < y := by
  induction p with
  | nil => rfl
  | cons a p ih => rw [List.cons_append, List.cons_append, List.cons_lt_cons_self, ih]

/-- A key starts with a prefix only if it is a key of that source. -/
theorem eq_of_isPrefixOf_key {id : List Char}
    (h : source.keyPrefix.isPrefixOf (other.keyPrefix ++ id) = true) : source = other := by
  rw [List.isPrefixOf_iff_prefix] at h
  rcases List.prefix_or_prefix_of_prefix h (List.prefix_append other.keyPrefix id) with hs | ho
  · exact keyPrefix_free hs
  · exact (keyPrefix_free ho).symm

/-! ## The order of records -/

variable {a b c : PortalHistoryRecord δ}

/-- What the comparison says. -/
theorem comesFirst_iff :
    comesFirst a b = true ↔ b.time < a.time ∨ (a.time = b.time ∧ b.key ≤ a.key) := by
  unfold comesFirst compareHistoryDescending
  rw [decide_eq_true_eq]
  simp only
  by_cases htime : b.time - a.time = 0
  · have hsame : a.time = b.time := by omega
    rw [if_neg (not_not.2 htime)]
    by_cases hkey : a.key = b.key
    · rw [if_pos hkey]
      simp [hsame, hkey]
    · rw [if_neg hkey]
      by_cases hlt : a.key < b.key
      · rw [if_pos hlt]
        have hnot : ¬ b.key ≤ a.key := not_le_of_gt hlt
        simp [hsame, hnot]
      · rw [if_neg hlt]
        have hle : b.key ≤ a.key := not_lt.1 hlt
        simp [hsame, hle]
  · rw [if_pos htime]
    omega

/-- The comparison is transitive. -/
theorem comesFirst_trans (a b c : PortalHistoryRecord δ) (hab : comesFirst a b = true)
    (hbc : comesFirst b c = true) : comesFirst a c = true := by
  rw [comesFirst_iff] at hab hbc ⊢
  rcases hab with hab | ⟨hab, hkab⟩
  · rcases hbc with hbc | ⟨hbc, -⟩ <;> exact Or.inl (by omega)
  · rcases hbc with hbc | ⟨hbc, hkbc⟩
    · exact Or.inl (by omega)
    · exact Or.inr ⟨by omega, le_trans hkbc hkab⟩

/-- The comparison is total. -/
theorem comesFirst_total (a b : PortalHistoryRecord δ) :
    (comesFirst a b || comesFirst b a) = true := by
  rw [Bool.or_eq_true, comesFirst_iff, comesFirst_iff]
  rcases Int.lt_trichotomy a.time b.time with hlt | heq | hlt
  · exact Or.inr (Or.inl hlt)
  · rcases le_total b.key a.key with hle | hle
    · exact Or.inl (Or.inr ⟨heq, hle⟩)
    · exact Or.inr (Or.inr ⟨heq.symm, hle⟩)
  · exact Or.inl (Or.inl hlt)

/-- A record comes strictly after another when it is older, or as old with a lower key. -/
theorem comesAfter_iff :
    comesAfter comesFirst a b = true ↔ b.time < a.time ∨ (a.time = b.time ∧ b.key < a.key) := by
  unfold comesAfter
  rw [Bool.and_eq_true, Bool.not_eq_true', ← Bool.not_eq_true, comesFirst_iff, comesFirst_iff]
  constructor
  · rintro ⟨hlt | ⟨heq, -⟩, hnot⟩
    · exact Or.inl hlt
    · refine Or.inr ⟨heq, ?_⟩
      by_contra hge
      exact hnot (Or.inr ⟨heq.symm, not_lt.1 hge⟩)
  · rintro (hlt | ⟨heq, hlt⟩)
    · refine ⟨Or.inl hlt, ?_⟩
      rintro (hgt | ⟨heq, -⟩) <;> omega
    · refine ⟨Or.inr ⟨heq, le_of_lt hlt⟩, ?_⟩
      rintro (hgt | ⟨-, hle⟩)
      · omega
      · exact not_lt_of_ge hle hlt

/-- Records with distinct keys are never tied. -/
theorem noTies_of_keys {records : List (PortalHistoryRecord δ)}
    (keys : (records.map (·.key)).Nodup) : NoTies comesFirst records := by
  intro a ha b hb hab hba
  rw [comesFirst_iff] at hab hba
  refine List.inj_on_of_nodup_map keys ha hb ?_
  rcases hab with hlt | ⟨heq, hle⟩
  · rcases hba with hgt | ⟨heq, -⟩ <;> omega
  · rcases hba with hgt | ⟨-, hge⟩
    · omega
    · exact le_antisymm hge hle

/-! ## Bounds -/

/-- A source's bound for a record's place admits exactly its rows strictly after that record. -/
theorem historyBoundFor_admits {row row' : SourceRow δ}
    (idless : source = other → source.idless = true → row.time = row'.time → row = row') :
    ((historyBoundFor source.keyPrefix (some (row'.record other).position) source.idless).all
        fun bound ↦ bound.admits row) =
      comesAfter comesFirst (row'.record other) (row.record source) := by
  rw [Bool.eq_iff_iff, comesAfter_iff]
  unfold historyBoundFor
  rw [Option.map_some, Option.all_some]
  by_cases hsame : source = other
  · subst hsame
    have hstarts : source.keyPrefix.isPrefixOf (source.keyPrefix ++ row'.id) = true := by
      rw [List.isPrefixOf_iff_prefix]
      exact List.prefix_append _ _
    show HistoryBound.admits (if source.keyPrefix.isPrefixOf (source.keyPrefix ++ row'.id) then _
      else _) row = true ↔ _
    rw [if_pos hstarts]
    have hkeys : (row.record source).key < (row'.record source).key ↔ row.id < row'.id :=
      append_lt_append_left_iff _ _ _
    rw [hkeys]
    cases hidless : source.idless with
    | true =>
        -- no two rows of the source share an instant, so none is tied with the cursor
        rw [if_pos rfl]
        have hnotTied : ¬ ((row'.record source).time = (row.record source).time ∧
            row.id < row'.id) := by
          rintro ⟨htime, hlt⟩
          obtain rfl := idless rfl hidless htime.symm
          exact List.lt_irrefl _ hlt
        simp only [HistoryBound.admits, Bool.false_and, Bool.or_false, decide_eq_true_eq,
          hnotTied, or_false]
        exact Iff.rfl
    | false =>
        rw [if_neg Bool.false_ne_true]
        simp only [HistoryBound.admits, Bool.true_and, Option.all_some, Bool.or_eq_true,
          Bool.and_eq_true, decide_eq_true_eq, beq_iff_eq]
        have hid : (row'.record source).position.key.drop source.keyPrefix.length = row'.id :=
          List.drop_left
        rw [hid]
        exact or_congr Iff.rfl (and_congr eq_comm Iff.rfl)
  · have hstarts : source.keyPrefix.isPrefixOf (other.keyPrefix ++ row'.id) = false := by
      rw [← Bool.not_eq_true]
      exact fun h ↦ hsame (eq_of_isPrefixOf_key h)
    show HistoryBound.admits (if source.keyPrefix.isPrefixOf (other.keyPrefix ++ row'.id) then _
      else _) row = true ↔ _
    rw [if_neg (by rw [hstarts]; exact Bool.false_ne_true)]
    have hkeys : (row.record source).key < (row'.record other).key ↔
        source.keyPrefix < other.keyPrefix ++ row'.id :=
      append_lt_append_iff (fun h ↦ hsame (keyPrefix_free h))
        (fun h ↦ hsame (keyPrefix_free h).symm) _ _
    rw [hkeys]
    simp only [HistoryBound.admits, Option.all_none, Bool.and_true, Bool.or_eq_true,
      Bool.and_eq_true, decide_eq_true_eq, beq_iff_eq]
    exact or_congr Iff.rfl (and_comm.trans (and_congr eq_comm Iff.rfl))

/-! ## Cursors -/

/-- What stands before and after the first separator. -/
theorem splitAtSeparator_append {separator : Char} {before : List Char}
    (absent : separator ∉ before) (after : List Char) :
    splitAtSeparator separator (before ++ separator :: after) = some (before, after) := by
  have hall : ∀ c ∈ before, (c != separator) = true := by
    intro c hc
    rw [bne_iff_ne]
    rintro rfl
    exact absent hc
  unfold splitAtSeparator
  rw [List.dropWhile_append_of_pos hall, List.takeWhile_append_of_pos hall]
  simp

/-- A prefix is a name and a colon. -/
theorem keyPrefix_eq (source : HistorySource) :
    ∃ name, source.keyPrefix = name ++ [':'] ∧ ':' ∉ name ∧ isRun isPrefixChar 20 name = true := by
  refine ⟨source.keyPrefix.dropLast, ?_⟩
  cases source <;> decide

/-- The digits of an instant are up to fifteen. -/
theorem millisText_isRun {time : Int} (notBefore : 0 ≤ time) (before : time < 10 ^ 15) :
    millisText time = Nat.toDigits 10 time.natAbs ∧
      isRun Char.isDigit 15 (Nat.toDigits 10 time.natAbs) = true ∧
      '|' ∉ Nat.toDigits 10 time.natAbs := by
  have hdigits : ∀ c ∈ Nat.toDigits 10 time.natAbs, c.isDigit = true :=
    fun c hc ↦ Nat.isDigit_of_mem_toDigits (by decide) (by decide) hc
  refine ⟨if_neg (Int.not_lt.2 notBefore), ?_, fun hmem ↦ ?_⟩
  · have hlength : (Nat.toDigits 10 time.natAbs).length ≤ 15 := by
      rw [Nat.length_toDigits_le_iff (by decide) (by decide)]
      omega
    have hpositive := Nat.length_toDigits_pos (b := 10) (n := time.natAbs)
    unfold isRun
    simp only [Bool.and_eq_true, decide_eq_true_eq, List.all_eq_true]
    exact ⟨⟨hpositive, hlength⟩, hdigits⟩
  · exact absurd (hdigits _ hmem) (by decide)

/-- The cursor of a record's place leads back to it. -/
theorem decodeHistoryCursor_encode {row : SourceRow δ} (id : isRun isIdChar 64 row.id = true)
    (notBefore : 0 ≤ row.time) (before : row.time < 10 ^ 15) :
    decodeHistoryCursor (encodeHistoryCursor (row.record source).position) =
      some (row.record source).position := by
  obtain ⟨hmillis, hrun, habsent⟩ := millisText_isRun notBefore before
  obtain ⟨name, hstarts, hcolon, hname⟩ := keyPrefix_eq source
  have hsplit : splitAtSeparator '|' (encodeHistoryCursor (row.record source).position) =
      some (Nat.toDigits 10 row.time.natAbs, source.keyPrefix ++ row.id) := by
    show splitAtSeparator '|' (millisText row.time ++ '|' :: (source.keyPrefix ++ row.id)) = _
    rw [hmillis]
    exact splitAtSeparator_append habsent _
  have hkey : splitAtSeparator ':' (source.keyPrefix ++ row.id) = some (name, row.id) := by
    rw [hstarts, List.append_assoc]
    exact splitAtSeparator_append hcolon _
  have hmatch : matchCursor (encodeHistoryCursor (row.record source).position) =
      some (Nat.toDigits 10 row.time.natAbs, source.keyPrefix ++ row.id) := by
    unfold matchCursor
    rw [hsplit, Option.filter_some, if_pos]
    show (isRun Char.isDigit 15 _ && (splitAtSeparator ':' (source.keyPrefix ++ row.id)).any _) =
      true
    rw [hrun, hkey, Option.any_some, hname, id]
    rfl
  have hknown : HistorySource.all.any (fun s ↦ s.keyPrefix.isPrefixOf (source.keyPrefix ++ row.id)) =
      true := by
    rw [List.any_eq_true]
    refine ⟨source, by cases source <;> decide, ?_⟩
    rw [List.isPrefixOf_iff_prefix]
    exact List.prefix_append _ _
  unfold decodeHistoryCursor
  rw [hmatch, Option.bind_some]
  show (if HistorySource.all.any (fun s ↦ s.keyPrefix.isPrefixOf (source.keyPrefix ++ row.id)) then
    _ else _) = _
  rw [if_pos hknown]
  show (if Nat.ofDigitChars 10 (Nat.toDigits 10 row.time.natAbs) 0 ≤ maxDateMs then _ else _) = _
  rw [Nat.ofDigitChars_ten_toDigits, if_pos (by unfold maxDateMs; omega)]
  show some (⟨(row.time.natAbs : Int), source.keyPrefix ++ row.id⟩ : HistoryPosition) = _
  rw [Int.natAbs_of_nonneg notBefore]
  rfl

/-! ## Pages -/

/-- What a source reads, as records. -/
theorem readSource_record (rows : List (SourceRow δ)) (bound : Option HistoryBound) (n : Nat) :
    (readSource rows bound n).map (SourceRow.record source) =
      newest comesFirst n
        ((rows.filter fun row ↦ bound.all fun bound ↦ bound.admits row).map
          (SourceRow.record source)) := by
  unfold readSource newest
  rw [List.map_take, List.map_mergeSort]
  intro a _ b _
  rw [Bool.eq_iff_iff, comesFirst_iff]
  unfold rowComesFirst
  rw [Bool.or_eq_true, Bool.and_eq_true, decide_eq_true_eq, beq_iff_eq, Bool.not_eq_true',
    decide_eq_false_iff_not]
  refine or_congr Iff.rfl (and_congr Iff.rfl ?_)
  rw [← not_lt]
  exact not_congr (append_lt_append_left_iff _ _ _).symm

/-! ## The walk -/

/-- The rows of the sources: identifiers and instants a cursor can hold, distinct keys, and no two
rows at one instant in a source without identifiers. -/
structure WellFormedSources (rows : HistorySource → List (SourceRow δ)) : Prop where
  ids : ∀ source, ∀ row ∈ rows source, isRun isIdChar 64 row.id = true
  times : ∀ source, ∀ row ∈ rows source, 0 ≤ row.time ∧ row.time < 10 ^ 15
  keys : ((allRecords rows).map (·.key)).Nodup
  idless : ∀ source, source.idless = true → ∀ row ∈ rows source, ∀ row' ∈ rows source,
    row.time = row'.time → row = row'

/-- The records of a page, from the records each source admits. -/
theorem portalHistoryPage_eq {cursor : Option (List Char)} {position : Option HistoryPosition}
    (decodes : cursor.bind decodeHistoryCursor = position)
    {admitted : List (PortalHistoryRecord δ)}
    (all : (HistorySource.all.map fun source ↦
      ((rows source).filter fun row ↦
        (historyBoundFor source.keyPrefix position source.idless).all fun bound ↦
          bound.admits row).map (SourceRow.record source)).flatten = admitted)
    (noTies : NoTies comesFirst admitted) :
    portalHistoryPage rows limit cursor =
      pageOf (fun record ↦ encodeHistoryCursor record.position) limit
        (admitted.mergeSort comesFirst) := by
  have hread : (HistorySource.all.flatMap fun source ↦
      (readSource (rows source) (historyBoundFor source.keyPrefix position source.idless)
        (limit + 1)).map (SourceRow.record source)) =
      (HistorySource.all.map fun source ↦
        ((rows source).filter fun row ↦
          (historyBoundFor source.keyPrefix position source.idless).all fun bound ↦
            bound.admits row).map (SourceRow.record source)).flatMap
        (newest comesFirst (limit + 1)) := by
    rw [List.flatMap_map]
    simp only [readSource_record]
  have hnewest : newest comesFirst (limit + 1)
      (HistorySource.all.flatMap fun source ↦
        (readSource (rows source) (historyBoundFor source.keyPrefix position source.idless)
          (limit + 1)).map (SourceRow.record source)) =
      newest comesFirst (limit + 1) admitted := by
    rw [hread, newest_flatMap comesFirst_trans comesFirst_total (all ▸ noTies), all]
  unfold portalHistoryPage
  simp only [decodes]
  rw [← pageOf_congr hnewest]
  unfold pageHistory pageOf
  simp only
  split
  · rw [Option.map_map]
    rfl
  · rfl

/-- Without a cursor every source admits every row. -/
theorem admitted_first :
    (HistorySource.all.map fun source ↦
      ((rows source).filter fun row ↦
        (historyBoundFor source.keyPrefix none source.idless).all fun bound ↦
          bound.admits row).map (SourceRow.record source)).flatten = allRecords rows := by
  unfold allRecords
  rw [List.flatMap_def]
  congr 1
  refine List.map_congr_left fun source _ ↦ ?_
  have hall : ((rows source).filter fun row ↦
      (historyBoundFor source.keyPrefix none source.idless).all fun bound ↦
        bound.admits row) = rows source :=
    List.filter_eq_self.2 fun _ _ ↦ rfl
  rw [hall]

/-- With a record's cursor they admit the records strictly after it. -/
theorem admitted_later (wellFormed : WellFormedSources rows) {row' : SourceRow δ}
    (mem : row' ∈ rows other) :
    (HistorySource.all.map fun source ↦
      ((rows source).filter fun row ↦
        (historyBoundFor source.keyPrefix (some (row'.record other).position)
          source.idless).all fun bound ↦ bound.admits row).map (SourceRow.record source)).flatten =
      (allRecords rows).filter (comesAfter comesFirst (row'.record other)) := by
  unfold allRecords
  rw [List.flatMap_def, List.filter_flatten, List.map_map]
  congr 1
  refine List.map_congr_left fun source _ ↦ ?_
  rw [Function.comp_apply, List.filter_map]
  congr 1
  refine List.filter_congr fun row hrow ↦ ?_
  refine historyBoundFor_admits ?_
  rintro rfl hidless htime
  exact wellFormed.idless source hidless row hrow row' mem htime

/-- Every record is one of a row. -/
theorem exists_row_of_mem_allRecords {c : PortalHistoryRecord δ} (h : c ∈ allRecords rows) :
    ∃ source, ∃ row ∈ rows source, row.record source = c := by
  obtain ⟨source, -, hmem⟩ := List.mem_flatMap.1 h
  obtain ⟨row, hrow, hrecord⟩ := List.mem_map.1 hmem
  exact ⟨source, row, hrow, hrecord⟩

/-- The merged history is paged exactly. With any page size of at least one, the walk that starts
without a cursor and follows the cursors ends and returns every record once, newest first and
strictly descending; and the bound of each source admits exactly its records strictly after the
cursor. -/
theorem portalHistory_walk (wellFormed : WellFormedSources rows) (positive : 0 < limit) :
    (∃ records, walk (portalHistoryPage rows limit) ((allRecords rows).length + 1) none =
        some records ∧
      records.Perm (allRecords rows) ∧
      records.Pairwise fun a b ↦ b.time < a.time ∨ (a.time = b.time ∧ b.key < a.key)) ∧
      ∀ source other, ∀ row ∈ rows source, ∀ row' ∈ rows other,
        ((historyBoundFor source.keyPrefix
            (decodeHistoryCursor (encodeHistoryCursor (row'.record other).position))
            source.idless).any fun bound ↦ bound.admits row) = true ↔
          row.time < row'.time ∨
            (row'.time = row.time ∧ (row.record source).key < (row'.record other).key) := by
  have hnoTies := noTies_of_keys wellFormed.keys
  have hnodup : (allRecords rows).Nodup := wellFormed.keys.of_map _
  have hdecodes : ∀ source, ∀ row ∈ rows source,
      decodeHistoryCursor (encodeHistoryCursor (row.record source).position) =
        some (row.record source).position := fun source row hrow ↦
    decodeHistoryCursor_encode (wellFormed.ids source row hrow) (wellFormed.times source row hrow).1
      (wellFormed.times source row hrow).2
  have hperm := List.mergeSort_perm (allRecords rows) comesFirst
  refine ⟨⟨(allRecords rows).mergeSort comesFirst, ?_, hperm, ?_⟩, ?_⟩
  · refine walk_eq_some positive (portalHistoryPage_eq rfl admitted_first hnoTies) ?_ ?_
    · intro front c back hsplit
      have hmem : c ∈ allRecords rows := hperm.subset (by rw [hsplit]; simp)
      obtain ⟨source, row, hrow, rfl⟩ := exists_row_of_mem_allRecords hmem
      have hcursor : (some (encodeHistoryCursor (row.record source).position)).bind
          decodeHistoryCursor = some (row.record source).position := hdecodes source row hrow
      rw [portalHistoryPage_eq hcursor (admitted_later wellFormed hrow)
        (hnoTies.mono fun x hx ↦ List.mem_of_mem_filter hx),
        mergeSort_filter_comesAfter comesFirst_trans comesFirst_total hnoTies hnodup hsplit]
    · rw [List.length_mergeSort]
      omega
  · have hsorted := List.pairwise_mergeSort comesFirst_trans comesFirst_total (allRecords rows)
    have hdistinct : ((allRecords rows).mergeSort comesFirst).Pairwise fun a b ↦ a.key ≠ b.key := by
      rw [← List.pairwise_map]
      exact (hperm.map _).nodup_iff.2 wellFormed.keys
    refine (hsorted.and hdistinct).imp fun {a b} h ↦ ?_
    rcases comesFirst_iff.1 h.1 with hlt | ⟨htime, hle⟩
    · exact Or.inl hlt
    · refine Or.inr ⟨htime, ?_⟩
      rcases le_iff_lt_or_eq.1 hle with hlt | heq
      · exact hlt
      · exact absurd heq.symm h.2
  · intro source other row hrow row' hrow'
    rw [hdecodes other row' hrow']
    have hany : ((historyBoundFor source.keyPrefix (some (row'.record other).position)
        source.idless).any fun bound ↦ bound.admits row) =
        comesAfter comesFirst (row'.record other) (row.record source) := by
      refine historyBoundFor_admits ?_
      rintro rfl hidless htime
      exact wellFormed.idless source hidless row hrow row' hrow' htime
    rw [hany, comesAfter_iff]
    exact Iff.rfl

section Sample

/-- Three records at one instant, of different sources. -/
def sampleRows : HistorySource → List (SourceRow Unit)
  | .created => [⟨"p1".toList, 7, ()⟩]
  | .health => [⟨"h1".toList, 7, ()⟩]
  | .codeRevoked => [⟨"7".toList, 7, ()⟩]
  | _ => []

/-- The rows are well formed. -/
theorem sampleRows_wellFormed : WellFormedSources sampleRows := by
  refine ⟨fun source row hrow ↦ ?_, fun source row hrow ↦ ?_, by decide, fun source _ ↦ ?_⟩
  · cases source <;> simp [sampleRows] at hrow <;> subst hrow <;> decide
  · cases source <;> simp [sampleRows] at hrow <;> subst hrow <;> decide
  · cases source <;> decide

/-- Pages of one record return all three. -/
theorem portalHistory_walk_ties :
    ∃ records, walk (portalHistoryPage sampleRows 1) 4 none = some records ∧
      records.Perm (allRecords sampleRows) := by
  obtain ⟨⟨records, hwalk, hperm, -⟩, -⟩ := portalHistory_walk sampleRows_wellFormed Nat.one_pos
  exact ⟨records, hwalk, hperm⟩

end Sample

end ReputationKey.Portal
