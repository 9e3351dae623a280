import Mathlib.Data.List.Basic
import Mathlib.Tactic.Common

/-!
# Comma-separated text

A reader of RFC 4180 documents over UTF-16 code units, unit by unit, and what it reads of cells put
between commas and line breaks. A line ends at a line feed and at a carriage return with a line
feed; it may also end at a carriage return alone. Line breaks stand between records.
-/

namespace ReputationKey.Base

abbrev csvQuote : UInt16 := 34
abbrev csvComma : UInt16 := 44
abbrev csvReturn : UInt16 := 13
abbrev csvFeed : UInt16 := 10

/-- Where a reader is in a cell: before it, before the first cell of a line that a carriage return
began, in a cell without quotes, inside quotes, or after a quote inside quotes. -/
inductive CsvState
  | start
  | afterReturn
  | plain
  | quoted
  | closed
  deriving DecidableEq, Repr

/-- What a unit does: it ends the cell, or the line as well, or adds units to the cell. -/
inductive CsvMove
  | endCell
  | endLine (state : CsvState)
  | append (units : List UInt16) (state : CsvState)
  deriving DecidableEq, Repr

/-- Whether a carriage return ends a line, by the unit after it. -/
def endsLine (loneReturn : Bool) (next : Option UInt16) : Bool := loneReturn || next == some csvFeed

/-- What a unit does outside quotes. -/
def csvMoveOutside (loneReturn : Bool) (state : CsvState) (unit : UInt16) (next : Option UInt16) :
    Option CsvMove :=
  if unit = csvComma then some .endCell
  else if unit = csvFeed then
    if state = .afterReturn then some (.append [] .start) else some (.endLine .start)
  else if unit = csvReturn ∧ endsLine loneReturn next = true then some (.endLine .afterReturn)
  else if unit = csvQuote then
    if state = .plain then none
    else if state = .closed then some (.append [csvQuote] .quoted)
    else some (.append [] .quoted)
  else if state = .closed then none
  else some (.append [unit] .plain)

/-- What a unit does. -/
def csvMove (loneReturn : Bool) (state : CsvState) (unit : UInt16) (next : Option UInt16) :
    Option CsvMove :=
  if state = .quoted then
    if unit = csvQuote then some (.append [] .closed) else some (.append [unit] .quoted)
  else csvMoveOutside loneReturn state unit next

/-- The records of a document, from a state in a cell of a record on; `none` if its quoting is not
well formed. -/
def readCsvFrom (loneReturn : Bool) (state : CsvState) (cell : List UInt16)
    (record : List (List UInt16)) : List UInt16 → Option (List (List (List UInt16)))
  | [] => if state = .quoted then none else some [record ++ [cell]]
  | unit :: rest =>
      match csvMove loneReturn state unit rest.head? with
      | none => none
      | some .endCell => readCsvFrom loneReturn .start [] (record ++ [cell]) rest
      | some (.endLine state) =>
          (readCsvFrom loneReturn state [] [] rest).map ((record ++ [cell]) :: ·)
      | some (.append units state) => readCsvFrom loneReturn state (cell ++ units) record rest

/-- The records of a document. -/
def readCsv (loneReturn : Bool) (document : List UInt16) : Option (List (List (List UInt16))) :=
  readCsvFrom loneReturn .start [] [] document

/-- A unit that stands for itself in a cell without quotes. -/
def IsPlainUnit (unit : UInt16) : Prop :=
  unit ≠ csvQuote ∧ unit ≠ csvComma ∧ unit ≠ csvReturn ∧ unit ≠ csvFeed

instance (unit : UInt16) : Decidable (IsPlainUnit unit) := inferInstanceAs (Decidable (_ ∧ _))

/-- A text inside quotes. -/
def quoted (text : List UInt16) : List UInt16 :=
  csvQuote :: text.flatMap (fun unit ↦ if unit = csvQuote then [csvQuote, csvQuote] else [unit]) ++
    [csvQuote]

/-- What follows a cell: nothing, a comma or a line break. -/
def EndsCell (loneReturn : Bool) (rest : List UInt16) : Prop :=
  match rest with
  | [] => True
  | unit :: more => unit = csvComma ∨ unit = csvFeed ∨
      unit = csvReturn ∧ endsLine loneReturn more.head? = true

section Reading

variable {loneReturn : Bool} {state : CsvState} {cell text rest : List UInt16}
  {record : List (List UInt16)} {records : List (List (List UInt16))}

/-- What is read starts with the record that was read so far. -/
theorem prefix_of_readCsvFrom {document : List UInt16}
    (h : readCsvFrom loneReturn state cell record document = some records) :
    ∃ first more, records = first :: more ∧ record <+: first := by
  induction document generalizing state cell record records with
  | nil =>
      rw [readCsvFrom] at h
      split_ifs at h
      cases h
      exact ⟨_, _, rfl, List.prefix_append _ _⟩
  | cons unit rest ih =>
      rw [readCsvFrom] at h
      split at h
      · cases h
      · obtain ⟨first, more, rfl, hprefix⟩ := ih h
        exact ⟨first, more, rfl, (List.prefix_append _ _).trans hprefix⟩
      · obtain ⟨later, -, rfl⟩ := Option.map_eq_some_iff.1 h
        exact ⟨_, _, rfl, List.prefix_append _ _⟩
      · exact ih h

/-- Plain units are read as they are. -/
theorem readCsvFrom_plain (plain : ∀ unit ∈ text, IsPlainUnit unit) :
    readCsvFrom loneReturn .plain cell record (text ++ rest) =
      readCsvFrom loneReturn .plain (cell ++ text) record rest := by
  induction text generalizing cell with
  | nil => simp
  | cons unit text ih =>
      obtain ⟨hquote, hcomma, hreturn, hfeed⟩ := plain unit List.mem_cons_self
      have hmove : csvMove loneReturn .plain unit (text ++ rest).head? =
          some (.append [unit] .plain) := by
        simp [csvMove, csvMoveOutside, hquote, hcomma, hreturn, hfeed]
      rw [List.cons_append, readCsvFrom, hmove]
      simp only
      rw [ih fun u mem ↦ plain u (List.mem_cons_of_mem _ mem), List.append_assoc]
      rfl

/-- A text inside quotes is read up to its closing quote. -/
theorem readCsvFrom_quoted : readCsvFrom loneReturn .quoted cell record
    (text.flatMap (fun unit ↦ if unit = csvQuote then [csvQuote, csvQuote] else [unit]) ++
      csvQuote :: rest) = readCsvFrom loneReturn .closed (cell ++ text) record rest := by
  induction text generalizing cell with
  | nil =>
      rw [List.flatMap_nil, List.nil_append, List.append_nil, readCsvFrom]
      simp [csvMove]
  | cons unit text ih =>
      rw [List.flatMap_cons, List.append_assoc]
      by_cases hquote : unit = csvQuote
      · rw [if_pos hquote]
        rw [List.cons_append, List.cons_append, List.nil_append, readCsvFrom]
        simp only [csvMove, if_pos, List.append_nil]
        rw [readCsvFrom]
        simp only [csvMove, csvMoveOutside]
        have hsame : cell ++ [csvQuote] ++ text = cell ++ unit :: text := by simp [hquote]
        rw [← hsame, ← ih]
        rfl
      · have hsame : cell ++ [unit] ++ text = cell ++ unit :: text := by simp
        rw [if_neg hquote, List.singleton_append, readCsvFrom, ← hsame, ← ih]
        simp [csvMove, hquote]

/-- After a cell it does not matter how it was written. -/
theorem readCsvFrom_of_endsCell (ends : EndsCell loneReturn rest)
    (outside : state = .start ∨ state = .plain) :
    readCsvFrom loneReturn state cell record rest =
      readCsvFrom loneReturn .closed cell record rest := by
  cases rest with
  | nil => rcases outside with rfl | rfl <;> rfl
  | cons unit rest =>
      have hmove : csvMove loneReturn state unit rest.head? =
          csvMove loneReturn .closed unit rest.head? := by
        rcases ends with rfl | rfl | ⟨rfl, hnext⟩
        · rcases outside with rfl | rfl <;> rfl
        · rcases outside with rfl | rfl <;> rfl
        · rcases outside with rfl | rfl <;> simp [csvMove, csvMoveOutside, hnext]
      rw [readCsvFrom, readCsvFrom, hmove]

/-- A text as a cell of a document: as it is if every unit stands for itself, or inside quotes. -/
def IsWrittenCell (written text : List UInt16) : Prop :=
  (written = text ∧ ∀ unit ∈ text, IsPlainUnit unit) ∨ written = quoted text

/-- A written cell is read as its text. -/
theorem readCsvFrom_cell {written : List UInt16} (cell : IsWrittenCell written text)
    (ends : EndsCell loneReturn rest) : readCsvFrom loneReturn .start [] record (written ++ rest) =
      readCsvFrom loneReturn .closed text record rest := by
  rcases cell with ⟨rfl, hplain⟩ | rfl
  · cases written with
    | nil => exact readCsvFrom_of_endsCell ends (Or.inl rfl)
    | cons unit text =>
        obtain ⟨hquote, hcomma, hreturn, hfeed⟩ := hplain unit List.mem_cons_self
        have hmove : csvMove loneReturn .start unit (text ++ rest).head? =
            some (.append [unit] .plain) := by
          simp [csvMove, csvMoveOutside, hquote, hcomma, hreturn, hfeed]
        rw [List.cons_append, readCsvFrom, hmove]
        simp only
        rw [readCsvFrom_plain fun u mem ↦ hplain u (List.mem_cons_of_mem _ mem),
          readCsvFrom_of_endsCell ends (Or.inr rfl)]
        rfl
  · rw [quoted, List.cons_append, List.cons_append, List.append_assoc, List.singleton_append,
      readCsvFrom]
    exact readCsvFrom_quoted

theorem readCsvFrom_closed_comma : readCsvFrom loneReturn .closed cell record (csvComma :: rest) =
    readCsvFrom loneReturn .start [] (record ++ [cell]) rest := rfl

theorem readCsvFrom_closed_feed : readCsvFrom loneReturn .closed cell record (csvFeed :: rest) =
    (readCsvFrom loneReturn .start [] [] rest).map ((record ++ [cell]) :: ·) := rfl

theorem readCsvFrom_closed_return_feed :
    readCsvFrom loneReturn .closed cell record (csvReturn :: csvFeed :: rest) =
      (readCsvFrom loneReturn .start [] [] rest).map ((record ++ [cell]) :: ·) := by
  rw [readCsvFrom]
  simp only [csvMove, csvMoveOutside, endsLine, List.head?_cons, BEq.rfl, Bool.or_true]
  rw [readCsvFrom]
  rfl

/-- Before a unit that is no line feed it does not matter that a carriage return began the line. -/
theorem readCsvFrom_afterReturn (h : rest.head? ≠ some csvFeed) :
    readCsvFrom loneReturn .afterReturn cell record rest =
      readCsvFrom loneReturn .start cell record rest := by
  cases rest with
  | nil => rfl
  | cons unit rest =>
      have hfeed : unit ≠ csvFeed := fun h' ↦ h (congrArg some h')
      have hmove : csvMove loneReturn .afterReturn unit rest.head? =
          csvMove loneReturn .start unit rest.head? := by
        simp [csvMove, csvMoveOutside, hfeed]
      rw [readCsvFrom, readCsvFrom, hmove]

theorem readCsvFrom_closed_return (h : rest.head? ≠ some csvFeed) :
    readCsvFrom true .closed cell record (csvReturn :: rest) =
      (readCsvFrom true .start [] [] rest).map ((record ++ [cell]) :: ·) := by
  rw [← readCsvFrom_afterReturn h, readCsvFrom]
  rfl

end Reading

/-! ## Documents -/

/-- A line break between two records. -/
inductive LineBreak
  | returnFeed
  | feed
  deriving DecidableEq, Repr

def LineBreak.text : LineBreak → List UInt16
  | .returnFeed => [csvReturn, csvFeed]
  | .feed => [csvFeed]

/-- Written cells with commas between them. -/
def csvRow (cells : List (List UInt16)) : List UInt16 := [csvComma].intercalate cells

/-- Rows of written cells with line breaks between them. -/
def csvDocument (first : List (List UInt16)) (rest : List (LineBreak × List (List UInt16))) :
    List UInt16 :=
  csvRow first ++ rest.flatMap fun line ↦ line.1.text ++ csvRow line.2

section Documents

universe u

variable {α : Type u} {write read : α → List UInt16} (loneReturn : Bool)

/-- A row is read cell by cell, whatever ends it. -/
theorem readCsvFrom_row {rest : List UInt16}
    (written : ∀ value, IsWrittenCell (write value) (read value))
    (ends : EndsCell loneReturn rest) {row : List α} (ne : row ≠ []) (record : List (List UInt16)) :
    ∃ front last, row.map read = front ++ [last] ∧
      readCsvFrom loneReturn .start [] record (csvRow (row.map write) ++ rest) =
        readCsvFrom loneReturn .closed last (record ++ front) rest := by
  induction row generalizing record with
  | nil => exact absurd rfl ne
  | cons value row ih =>
      cases row with
      | nil =>
          refine ⟨[], read value, rfl, ?_⟩
          rw [List.map_singleton, csvRow, List.intercalate_singleton,
            readCsvFrom_cell (written value) ends, List.append_nil]
      | cons next row =>
          obtain ⟨front, last, hrow, hread⟩ := ih (List.cons_ne_nil _ _) (record ++ [read value])
          refine ⟨read value :: front, last, by rw [List.map_cons, hrow]; rfl, ?_⟩
          have hsplit : csvRow ((value :: next :: row).map write) ++ rest =
              write value ++ csvComma :: (csvRow ((next :: row).map write) ++ rest) := by
            simp [csvRow, List.intercalate_cons_cons]
          have hends : EndsCell loneReturn
              (csvComma :: (csvRow ((next :: row).map write) ++ rest)) :=
            Or.inl rfl
          rw [hsplit, readCsvFrom_cell (written value) hends, readCsvFrom_closed_comma, hread,
            List.append_assoc]
          rfl

/-- The last row of a document. -/
theorem readCsvFrom_row_end (written : ∀ value, IsWrittenCell (write value) (read value))
    {row : List α} (ne : row ≠ []) : readCsvFrom loneReturn .start [] [] (csvRow (row.map write)) =
      some [row.map read] := by
  have hends : EndsCell loneReturn [] := trivial
  obtain ⟨front, last, hrow, hread⟩ := readCsvFrom_row loneReturn written hends ne []
  rw [List.append_nil] at hread
  rw [hread, hrow]
  rfl

/-- A row with a line break after it. -/
theorem readCsvFrom_row_break (written : ∀ value, IsWrittenCell (write value) (read value))
    {row : List α} (ne : row ≠ []) (lineBreak : LineBreak) (rest : List UInt16) :
    readCsvFrom loneReturn .start [] [] (csvRow (row.map write) ++ (lineBreak.text ++ rest)) =
      (readCsvFrom loneReturn .start [] [] rest).map (row.map read :: ·) := by
  cases lineBreak with
  | returnFeed =>
      have hends : EndsCell loneReturn (csvReturn :: csvFeed :: rest) :=
        Or.inr (Or.inr ⟨rfl, by simp [endsLine]⟩)
      obtain ⟨front, last, hrow, hread⟩ := readCsvFrom_row loneReturn written hends ne []
      exact hread.trans (by rw [readCsvFrom_closed_return_feed, hrow]; rfl)
  | feed =>
      have hends : EndsCell loneReturn (csvFeed :: rest) := Or.inr (Or.inl rfl)
      obtain ⟨front, last, hrow, hread⟩ := readCsvFrom_row loneReturn written hends ne []
      exact hread.trans (by rw [readCsvFrom_closed_feed, hrow]; rfl)

/-- A document is read row by row and cell by cell. -/
theorem readCsv_document (written : ∀ value, IsWrittenCell (write value) (read value))
    {first : List α} {rest : List (LineBreak × List α)} (ne : first ≠ [])
    (each : ∀ line ∈ rest, line.2 ≠ []) :
    readCsv loneReturn (csvDocument (first.map write)
      (rest.map fun line ↦ (line.1, line.2.map write))) =
        some ((first :: rest.map (·.2)).map (·.map read)) := by
  induction rest generalizing first with
  | nil =>
      rw [readCsv, csvDocument, List.map_nil, List.flatMap_nil, List.append_nil,
        readCsvFrom_row_end loneReturn written ne]
      rfl
  | cons line rest ih =>
      have hrest := ih (each line List.mem_cons_self)
        fun other mem ↦ each other (List.mem_cons_of_mem _ mem)
      rw [readCsv, csvDocument] at hrest
      rw [readCsv, csvDocument, List.map_cons, List.flatMap_cons, List.append_assoc,
        readCsvFrom_row_break loneReturn written ne, hrest]
      rfl

end Documents

end ReputationKey.Base
