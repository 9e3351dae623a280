import ReputationKey.Shared.CsvCell

/-!
# Scanning and reading CSV

The check scans a document cell by cell. Here it meets the reader of RFC 4180 documents whose lines
end at a carriage return, a line feed or both: where a cell is scanned the reader reads the same
cell, and where none can be scanned the reader refuses the document.
-/

namespace ReputationKey.Shared

open ReputationKey.Base
open ReputationKey.Review (Text)

/-! ## Written cells -/

/-- No cell text starts a formula, since an apostrophe does not. -/
theorem startsFormula_cellText (numberText : JsNumber → Text) (value : CsvCellValue) :
    startsFormula (cellText numberText value) = false := by
  rw [cellText]
  split_ifs with h
  · rfl
  · exact Bool.eq_false_iff.2 h

theorem isWrittenCell_csvCell (numberText : JsNumber → Text) (value : CsvCellValue) :
    IsWrittenCell (csvCell numberText value) (cellText numberText value) := by
  rw [csvCell]
  split_ifs with h
  · exact Or.inr rfl
  · refine Or.inl ⟨rfl, fun unit mem ↦ ?_⟩
    by_contra hplain
    exact h (List.any_eq_true.2 ⟨unit, mem, by simp [hplain]⟩)

/-! ## Scanning is reading -/

section Scanning

variable {document text rest : Text} {record : List Text} {cell : Text}

/-- Inside quotes the reader goes to the next quote. -/
theorem readCsvFrom_until_quote (record : List Text) (cell : Text) {part : Text} (rest : Text)
    (noQuote : ∀ unit ∈ part, unit ≠ csvQuote) :
    readCsvFrom true .quoted cell record (part ++ rest) =
      readCsvFrom true .quoted (cell ++ part) record rest := by
  induction part generalizing cell with
  | nil => rw [List.nil_append, List.append_nil]
  | cons unit part ih =>
      have hunit := noQuote unit List.mem_cons_self
      rw [List.cons_append, readCsvFrom]
      simp only [csvMove, if_neg hunit, if_pos]
      rw [ih _ fun u mem ↦ noQuote u (List.mem_cons_of_mem _ mem), List.append_assoc]
      rfl

theorem ne_of_not_separator {unit : UInt16} (h : isCellSeparator unit = false) :
    unit ≠ csvComma ∧ unit ≠ csvFeed ∧ unit ≠ csvReturn := by
  simpa [isCellSeparator] using h

theorem endsCell_of_separator {unit : UInt16} (h : isCellSeparator unit = true) :
    EndsCell true (unit :: rest) := by
  simpa [isCellSeparator, EndsCell, endsLine] using h

/-- A quote that is not doubled closes a cell, and only a separator may follow. -/
theorem readCsvFrom_closed_malformed {unit : UInt16} (notQuote : unit ≠ csvQuote)
    (notEnd : isCellSeparator unit = false) :
    readCsvFrom true .closed cell record (unit :: rest) = none := by
  obtain ⟨hcomma, hfeed, hreturn⟩ := ne_of_not_separator notEnd
  rw [readCsvFrom]
  simp [csvMove, csvMoveOutside, hcomma, hfeed, hreturn, notQuote]

/-- The text before the first quote, and from it on. -/
theorem split_at_quote {quote : ℕ} (h : document.findIdx? (· == csvQuote) = some quote) :
    (∀ unit ∈ document.take quote, unit ≠ csvQuote) ∧
      document = document.take quote ++ csvQuote :: document.drop (quote + 1) := by
  obtain ⟨hlt, hquote, hbefore⟩ := List.findIdx?_eq_some_iff_getElem.1 h
  constructor
  · intro unit mem
    obtain ⟨i, hi, rfl⟩ := List.mem_take_iff_getElem.1 mem
    have hnot := hbefore i (by omega)
    simpa using hnot
  · have hunit : document[quote] = csvQuote := beq_iff_eq.1 hquote
    rw [← hunit, List.getElem_cons_drop, List.take_append_drop]

/-- A quoted cell is scanned as it is read. -/
theorem readCsvFrom_scanQuotedCell (document : Text) (cell : Text) :
    readCsvFrom true .quoted cell record document =
      (scanQuotedCell document).bind fun scanned ↦
        readCsvFrom true .closed (cell ++ scanned.text) record scanned.rest := by
  induction document using scanQuotedCell.induct generalizing cell with
  | case1 document hfind =>
      have hnone : ∀ unit ∈ document, unit ≠ csvQuote := fun unit mem ↦ by
        simpa using List.findIdx?_eq_none_iff.1 hfind unit mem
      have hread := readCsvFrom_until_quote record cell [] hnone
      rw [List.append_nil] at hread
      rw [scanQuotedCell, hfind, hread]
      rfl
  | case2 document quote hfind hhead =>
      obtain ⟨hbefore, hsplit⟩ := split_at_quote hfind
      rw [scanQuotedCell, hfind]
      simp only
      rw [if_pos hhead, hsplit, readCsvFrom_until_quote _ _ _ hbefore, ← hsplit, readCsvFrom]
      simp [csvMove]
  | case3 document quote hfind hhead ih =>
      obtain ⟨hbefore, hsplit⟩ := split_at_quote hfind
      have hnext : document.drop (quote + 1) = csvQuote :: document.drop (quote + 2) := by
        rw [ne_eq, not_not, List.head?_drop, List.getElem?_eq_some_iff] at hhead
        obtain ⟨hlt, hunit⟩ := hhead
        rw [← hunit, List.getElem_cons_drop]
      rw [scanQuotedCell, hfind]
      simp only
      rw [if_neg hhead]
      have hread : readCsvFrom true .quoted cell record document =
          readCsvFrom true .quoted (cell ++ document.take quote ++ [csvQuote]) record
            (document.drop (quote + 2)) := by
        conv_lhs => rw [hsplit, hnext, readCsvFrom_until_quote _ _ _ hbefore, readCsvFrom]
        simp only [csvMove, if_pos, List.append_nil]
        rw [readCsvFrom]
        rfl
      rw [hread, ih]
      cases scanQuotedCell (document.drop (quote + 2)) with
      | none => rfl
      | some scanned => simp

/-- A cell without quotes is scanned as it is read. -/
theorem readCsvFrom_scanPlainCell (document : Text) (cell : Text) :
    readCsvFrom true .plain cell record document =
      (scanPlainCell document).bind fun scanned ↦
        readCsvFrom true .closed (cell ++ scanned.text) record scanned.rest := by
  induction document generalizing cell with
  | nil => simp [scanPlainCell, readCsvFrom]
  | cons unit rest ih =>
      rw [scanPlainCell]
      by_cases hseparator : isCellSeparator unit = true
      · have hends : EndsCell true (unit :: rest) := endsCell_of_separator hseparator
        rw [if_pos hseparator, readCsvFrom_of_endsCell hends (Or.inr rfl)]
        simp
      · rw [if_neg hseparator]
        obtain ⟨hcomma, hfeed, hreturn⟩ := ne_of_not_separator (Bool.eq_false_iff.2 hseparator)
        rw [readCsvFrom]
        by_cases hquote : unit = csvQuote
        · rw [if_pos hquote, hquote]
          rfl
        · rw [if_neg hquote]
          simp only [csvMove, csvMoveOutside, reduceCtorEq, hcomma, hfeed, hreturn, hquote,
            if_false, false_and]
          rw [ih]
          cases scanPlainCell rest with
          | none => rfl
          | some scanned => simp

/-- The quote that closes a cell is not doubled. -/
theorem scanQuotedCell_rest {scanned : ScannedCell} (h : scanQuotedCell document = some scanned) :
    scanned.rest.head? ≠ some csvQuote := by
  induction document using scanQuotedCell.induct generalizing scanned with
  | case1 document hfind =>
      rw [scanQuotedCell, hfind] at h
      cases h
  | case2 document quote hfind hhead =>
      rw [scanQuotedCell, hfind] at h
      simp only at h
      rw [if_pos hhead, Option.some.injEq] at h
      rwa [← h]
  | case3 document quote hfind hhead ih =>
      rw [scanQuotedCell, hfind] at h
      simp only at h
      rw [if_neg hhead] at h
      obtain ⟨later, hlater, rfl⟩ := Option.map_eq_some_iff.1 h
      exact @ih later hlater

theorem scanPlainCell_rest {scanned : ScannedCell} (h : scanPlainCell document = some scanned) :
    scanned.rest.head?.all isCellSeparator = true := by
  induction document generalizing scanned with
  | nil =>
      cases h
      rfl
  | cons unit rest ih =>
      rw [scanPlainCell] at h
      split_ifs at h with hseparator
      · cases h
        exact hseparator
      · obtain ⟨later, hlater, rfl⟩ := Option.map_eq_some_iff.1 h
        exact @ih later hlater

/-- A scanned cell ends the document or stands before a separator. -/
theorem scanCell_rest {scanned : ScannedCell} (h : scanCell document = some scanned) :
    scanned.rest.head?.all isCellSeparator = true := by
  rw [scanCell] at h
  split_ifs at h
  · exact (Option.filter_eq_some_iff.1 h).2
  · exact scanPlainCell_rest h

/-- After the quote that closes a cell the reader refuses what the check refuses. -/
theorem readCsvFrom_filter {scanned : Option ScannedCell}
    (closed : ∀ c ∈ scanned, c.rest.head? ≠ some csvQuote) :
    (scanned.bind fun c ↦ readCsvFrom true .closed c.text record c.rest) =
      (scanned.filter fun c ↦ c.rest.head?.all isCellSeparator).bind fun c ↦
        readCsvFrom true .closed c.text record c.rest := by
  cases scanned with
  | none => rfl
  | some c =>
      have hquote := closed c rfl
      by_cases hends : c.rest.head?.all isCellSeparator = true
      · rw [Option.filter_some, if_pos hends]
      · rw [Option.filter_some, if_neg hends]
        obtain ⟨text, rest⟩ := c
        cases rest with
        | nil => exact absurd rfl hends
        | cons unit rest =>
            exact readCsvFrom_closed_malformed (fun heq ↦ hquote (congrArg some heq))
              (Bool.eq_false_iff.2 hends)

/-- A cell is scanned as it is read. -/
theorem readCsvFrom_scanCell (document : Text) :
    readCsvFrom true .start [] record document =
      (scanCell document).bind fun scanned ↦
        readCsvFrom true .closed scanned.text record scanned.rest := by
  cases document with
  | nil => rfl
  | cons unit rest =>
      by_cases hquote : unit = csvQuote
      · have hscan : scanCell (unit :: rest) =
            (scanQuotedCell rest).filter fun c ↦ c.rest.head?.all isCellSeparator := by
          rw [hquote]
          rfl
        rw [hscan, ← readCsvFrom_filter fun c hc ↦ scanQuotedCell_rest hc, hquote]
        exact readCsvFrom_scanQuotedCell rest []
      · have hscan : scanCell (unit :: rest) = scanPlainCell (unit :: rest) :=
          if_neg fun heq ↦ hquote (Option.some.inj heq)
        -- The first unit of a cell without quotes is read like any other.
        have hmove : csvMove true .start unit rest.head? = csvMove true .plain unit rest.head? := by
          simp [csvMove, csvMoveOutside, hquote]
        have hplain : readCsvFrom true .start [] record (unit :: rest) =
            readCsvFrom true .plain [] record (unit :: rest) := by
          rw [readCsvFrom, readCsvFrom, hmove]
        rw [hscan, hplain]
        exact readCsvFrom_scanPlainCell (unit :: rest) []

theorem afterCell_return (h : rest.head? ≠ some csvFeed) :
    afterCell (csvReturn :: rest) = rest := by
  have hprefix : [csvReturn, csvFeed].isPrefixOf (csvReturn :: rest) = false := by
    cases rest with
    | nil => rfl
    | cons next later =>
        have hnext : csvFeed ≠ next := fun heq ↦ h (congrArg some heq.symm)
        simp [List.isPrefixOf, hnext]
  rw [afterCell, hprefix]
  rfl

/-- After a scanned cell the reader goes on at the next one, in the same record or in a new one, or
it is at the end. -/
theorem readCsvFrom_afterCell (ends : rest.head?.all isCellSeparator = true) :
    readCsvFrom true .closed cell record rest = some [record ++ [cell]] ∧ afterCell rest = [] ∨
    readCsvFrom true .closed cell record rest =
      readCsvFrom true .start [] (record ++ [cell]) (afterCell rest) ∨
    readCsvFrom true .closed cell record rest =
      (readCsvFrom true .start [] [] (afterCell rest)).map ((record ++ [cell]) :: ·) := by
  cases rest with
  | nil => exact Or.inl ⟨rfl, rfl⟩
  | cons unit rest =>
      have hunit : unit = csvComma ∨ unit = csvFeed ∨ unit = csvReturn := by
        simpa [isCellSeparator] using ends
      refine Or.inr ?_
      rcases hunit with rfl | rfl | rfl
      · exact Or.inl rfl
      · exact Or.inr rfl
      · right
        by_cases hfeed : rest.head? = some csvFeed
        · obtain ⟨later, rfl⟩ : ∃ later, rest = csvFeed :: later := by
            cases rest with
            | nil => cases hfeed
            | cons next later => exact ⟨later, by rw [Option.some.inj hfeed]⟩
          exact readCsvFrom_closed_return_feed
        · rw [afterCell_return hfeed]
          exact readCsvFrom_closed_return hfeed

end Scanning

/-! ## The check -/

/-- No cell of a document starts a formula. -/
def NoFormula (records : List (List Text)) : Prop :=
  ∀ record ∈ records, ∀ cell ∈ record, startsFormula cell = false

theorem noFormula_cons {record : List Text} {records : List (List Text)} :
    NoFormula (record :: records) ↔
      (∀ cell ∈ record, startsFormula cell = false) ∧ NoFormula records :=
  List.forall_mem_cons

theorem safe_append {record : List Text} {cell : Text}
    (before : ∀ c ∈ record, startsFormula c = false) (safe : startsFormula cell = false) :
    ∀ c ∈ record ++ [cell], startsFormula c = false := by
  intro c mem
  rcases List.mem_append.1 mem with mem | mem
  · exact before c mem
  · rw [List.mem_singleton.1 mem]
    exact safe

/-- What the reader has read of a cell stays in what it reads. -/
theorem not_noFormula_of_formula {record : List Text} {cell rest : Text}
    {records : List (List Text)} (ends : rest.head?.all isCellSeparator = true)
    (formula : startsFormula cell = true)
    (h : readCsvFrom true .closed cell record rest = some records) : ¬NoFormula records := by
  intro hnone
  have hprefix : ∃ first ∈ records, record ++ [cell] <+: first := by
    rcases readCsvFrom_afterCell ends with ⟨hread, -⟩ | hread | hread
    · rw [h, Option.some.injEq] at hread
      exact ⟨_, hread ▸ List.mem_cons_self, List.prefix_rfl⟩
    · obtain ⟨first, more, rfl, hfirst⟩ := prefix_of_readCsvFrom (hread ▸ h)
      exact ⟨first, List.mem_cons_self, hfirst⟩
    · rw [hread] at h
      obtain ⟨later, -, rfl⟩ := Option.map_eq_some_iff.1 h
      exact ⟨_, List.mem_cons_self, List.prefix_rfl⟩
  obtain ⟨first, hfirst, hcell⟩ := hprefix
  have hmem : cell ∈ first := hcell.subset (List.mem_append_right _ List.mem_cons_self)
  rw [hnone first hfirst cell hmem] at formula
  cases formula

theorem isFormulaSafeCsv_nil : isFormulaSafeCsv [] = true := by
  rw [isFormulaSafeCsv, if_pos rfl]

theorem isFormulaSafeCsv_of_scan {document : Text} (ne : document ≠ []) :
    isFormulaSafeCsv document = (scanCell document).any fun cell ↦
      !startsFormula cell.text && isFormulaSafeCsv (afterCell cell.rest) := by
  rw [isFormulaSafeCsv, if_neg ne]
  cases hscan : scanCell document with
  | none => rfl
  | some cell =>
      by_cases hformula : startsFormula cell.text = true
      · simp [hformula]
      · simp [hformula]

/-- The check accepts what the reader reads without a formula. -/
theorem isFormulaSafeCsv_iff_from (document : Text) {record : List Text}
    (before : ∀ cell ∈ record, startsFormula cell = false) :
    isFormulaSafeCsv document = true ↔
      ∃ records, readCsvFrom true .start [] record document = some records ∧
        NoFormula records := by
  induction document using isFormulaSafeCsv.induct generalizing record with
  | case1 =>
      refine iff_of_true isFormulaSafeCsv_nil ⟨[record ++ [[]]], rfl, ?_⟩
      exact noFormula_cons.2 ⟨safe_append before rfl, List.forall_mem_nil _⟩
  | case2 document hne hscan =>
      rw [isFormulaSafeCsv_of_scan hne, readCsvFrom_scanCell, hscan]
      simp
  | case3 document hne cell hscan hformula =>
      rw [isFormulaSafeCsv_of_scan hne, readCsvFrom_scanCell, hscan, Option.any_some, hformula,
        Option.bind_some]
      refine iff_of_false Bool.false_ne_true ?_
      rintro ⟨records, hread, hnone⟩
      exact not_noFormula_of_formula (scanCell_rest hscan) hformula hread hnone
  | case4 document hne cell hscan hformula ih =>
      have hsafe := safe_append before (Bool.eq_false_iff.2 hformula)
      have hcheck : isFormulaSafeCsv document = isFormulaSafeCsv (afterCell cell.rest) := by
        rw [isFormulaSafeCsv_of_scan hne, hscan, Option.any_some, Bool.eq_false_iff.2 hformula]
        rfl
      rw [hcheck, readCsvFrom_scanCell, hscan, Option.bind_some]
      rcases readCsvFrom_afterCell (scanCell_rest hscan) with ⟨hread, hafter⟩ | hread | hread
      · rw [hread, hafter]
        refine iff_of_true isFormulaSafeCsv_nil ⟨_, rfl, ?_⟩
        exact noFormula_cons.2 ⟨hsafe, List.forall_mem_nil _⟩
      · rw [hread]
        exact ih hsafe
      · rw [hread, ih (List.forall_mem_nil _)]
        constructor
        · rintro ⟨records, hlater, hnone⟩
          exact ⟨_, Option.map_eq_some_iff.2 ⟨records, hlater, rfl⟩,
            noFormula_cons.2 ⟨hsafe, hnone⟩⟩
        · rintro ⟨records, hlater, hnone⟩
          obtain ⟨later, hread, rfl⟩ := Option.map_eq_some_iff.1 hlater
          exact ⟨later, hread, (noFormula_cons.1 hnone).2⟩

theorem isFormulaSafeCsv_iff (document : Text) : isFormulaSafeCsv document = true ↔
    ∃ records, readCsv true document = some records ∧ NoFormula records :=
  isFormulaSafeCsv_iff_from document (List.forall_mem_nil _)

/-! ## Written documents -/

/-- The document of a table: its values as cells with commas between them, its rows with line breaks
between them. -/
def writtenCsv (numberText : JsNumber → Text) (first : List CsvCellValue)
    (rest : List (LineBreak × List CsvCellValue)) : Text :=
  csvDocument (first.map (csvCell numberText))
    (rest.map fun line ↦ (line.1, line.2.map (csvCell numberText)))

theorem readCsv_writtenCsv (numberText : JsNumber → Text) (loneReturn : Bool)
    {first : List CsvCellValue} {rest : List (LineBreak × List CsvCellValue)} (ne : first ≠ [])
    (each : ∀ line ∈ rest, line.2 ≠ []) :
    readCsv loneReturn (writtenCsv numberText first rest) =
      some ((first :: rest.map (·.2)).map (·.map (cellText numberText))) :=
  readCsv_document loneReturn (isWrittenCell_csvCell numberText) ne each

theorem noFormula_texts (numberText : JsNumber → Text) (table : List (List CsvCellValue)) :
    NoFormula (table.map (·.map (cellText numberText))) := by
  intro record hrecord cell hcell
  obtain ⟨row, -, rfl⟩ := List.mem_map.1 hrecord
  obtain ⟨value, -, rfl⟩ := List.mem_map.1 hcell
  exact startsFormula_cellText numberText value

/-- A written document passes the check and is read back as the texts of its values, with an
apostrophe before those that start a formula. The check ends on every document, and it accepts those
that are well formed and hold no cell that starts a formula. -/
theorem csv_safe_and_lossless (numberText : JsNumber → Text) :
    (∀ first rest, first ≠ [] → (∀ line ∈ rest, line.2 ≠ []) →
      isFormulaSafeCsv (writtenCsv numberText first rest) = true ∧
        ∀ loneReturn, readCsv loneReturn (writtenCsv numberText first rest) =
          some ((first :: rest.map (·.2)).map (·.map (cellText numberText)))) ∧
      isFormulaSafeCsv [] = true ∧
      (∀ value, cellText numberText value = renderedText numberText value ∧
          startsFormula (renderedText numberText value) = false ∨
        cellText numberText value = apostrophe :: renderedText numberText value ∧
          startsFormula (renderedText numberText value) = true) ∧
      (∀ document cell, document ≠ [] → scanCell document = some cell →
        (afterCell cell.rest).length < document.length) ∧
      ∀ document, isFormulaSafeCsv document = true ↔
        ∃ records, readCsv true document = some records ∧ NoFormula records := by
  refine ⟨fun first rest hne heach ↦ ⟨?_, fun loneReturn ↦ ?_⟩, isFormulaSafeCsv_nil,
    fun value ↦ ?_, fun document cell ↦ afterCell_length, isFormulaSafeCsv_iff⟩
  · have hread := readCsv_writtenCsv numberText true hne heach
    exact (isFormulaSafeCsv_iff _).2 ⟨_, hread, noFormula_texts numberText _⟩
  · exact readCsv_writtenCsv numberText loneReturn hne heach
  · rw [cellText]
    by_cases hformula : startsFormula (renderedText numberText value) = true
    · exact Or.inr ⟨if_pos hformula, hformula⟩
    · exact Or.inl ⟨if_neg hformula, Bool.eq_false_iff.2 hformula⟩

/-- A formula, a negative amount and a text with a quote and a comma. -/
theorem csv_safe_and_lossless_formula :
    isFormulaSafeCsv (writtenCsv (fun _ ↦ asciiText "0") [.string (asciiText "=1+1"), .null]
      [(.returnFeed, [.string (asciiText "-3.0"), .string (asciiText "\"a\",b")])]) = true ∧
    readCsv false (writtenCsv (fun _ ↦ asciiText "0") [.string (asciiText "=1+1"), .null]
      [(.returnFeed, [.string (asciiText "-3.0"), .string (asciiText "\"a\",b")])]) =
        some [[asciiText "'=1+1", []], [asciiText "-3.0", asciiText "\"a\",b"]] := by
  have h := (csv_safe_and_lossless fun _ ↦ asciiText "0").1
    [.string (asciiText "=1+1"), .null]
    [(.returnFeed, [.string (asciiText "-3.0"), .string (asciiText "\"a\",b")])]
    (List.cons_ne_nil _ _) (List.forall_mem_singleton.2 (List.cons_ne_nil _ _))
  exact ⟨h.1, (h.2 false).trans (by decide)⟩

end ReputationKey.Shared
