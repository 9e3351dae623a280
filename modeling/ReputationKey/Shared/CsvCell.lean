import ReputationKey.Base.CsvText
import ReputationKey.Base.JsNumber
import ReputationKey.Shared.JsString
import Mathlib.Data.List.Infix

/-!
# Spreadsheet-safe CSV cells

Text that starts a formula is written with a leading apostrophe, and a document is safe when no cell
of it starts a formula. How a number is written is a parameter. Follows
`src/src/shared/security/csv-cell.ts`; a place in the document is the text from it on.
-/

namespace ReputationKey.Shared

open ReputationKey.Base
open ReputationKey.Review (Text)

/-! ## Source decisions -/

/-- What a cell may hold. -/
inductive CsvCellValue
  | string (value : Text)
  | number (value : JsNumber)
  | boolean (value : Bool)
  | null
  | undefined
  deriving DecidableEq, Repr

/-- The characters that start a formula: `=`, `+`, `-`, `@`, a tabulator and a carriage return. -/
def formulaTriggers : Text := asciiText "=+-@\t\r"

/-- The apostrophe that makes a spreadsheet open a cell as text. -/
def apostrophe : UInt16 := 39

def isDigitUnit (unit : UInt16) : Bool := decide (48 ≤ unit) && decide (unit ≤ 57)

/-- A text without its sign. -/
def withoutSign : Text → Text
  | [] => []
  | unit :: rest => if (asciiText "+-").contains unit then rest else unit :: rest

/-- `1`, `1.`, `1.5` or `.5`. -/
def isMantissa (text : Text) : Bool :=
  match text.splitOn 46 with
  | [digits] => !digits.isEmpty && digits.all isDigitUnit
  | [whole, fraction] =>
      !(whole.isEmpty && fraction.isEmpty) && whole.all isDigitUnit && fraction.all isDigitUnit
  | _ => false

/-- Nothing, or an `e` with an integer. -/
def isExponent : Text → Bool
  | [] => true
  | _ :: rest => !(withoutSign rest).isEmpty && (withoutSign rest).all isDigitUnit

/-- An optional sign, a mantissa and an optional exponent. -/
def isDecimalLiteral (text : Text) : Bool :=
  let isMark (unit : UInt16) : Bool := (asciiText "eE").contains unit
  isMantissa ((withoutSign text).takeWhile fun unit ↦ !isMark unit) &&
    isExponent ((withoutSign text).dropWhile fun unit ↦ !isMark unit)

/-- Whether a spreadsheet would evaluate this cell text as a formula. -/
def startsFormula (text : Text) : Bool :=
  (text.head?.any fun unit ↦ formulaTriggers.contains unit) && !isDecimalLiteral text

/-- The text of a value; nothing for `null` and `undefined`. -/
def renderedText (numberText : JsNumber → Text) : CsvCellValue → Text
  | .string value => value
  | .number value => numberText value
  | .boolean true => asciiText "true"
  | .boolean false => asciiText "false"
  | .null | .undefined => []

/-- The text of a cell: that of its value, with a leading apostrophe if it starts a formula. -/
def cellText (numberText : JsNumber → Text) (value : CsvCellValue) : Text :=
  let rendered := renderedText numberText value
  if startsFormula rendered then apostrophe :: rendered else rendered

def needsQuotes (text : Text) : Bool := text.any fun unit ↦ !decide (IsPlainUnit unit)

/-- One RFC 4180 cell. -/
def csvCell (numberText : JsNumber → Text) (value : CsvCellValue) : Text :=
  let text := cellText numberText value
  if needsQuotes text then quoted text else text

/-- A scanned cell: its text, and the document from its end on. -/
structure ScannedCell where
  text : Text
  rest : Text
  deriving DecidableEq, Repr

/-- A quoted cell after its opening quote; `none` when the quote never closes. -/
def scanQuotedCell (document : Text) : Option ScannedCell :=
  match _hfind : document.findIdx? (· == csvQuote) with
  | none => none
  | some quote =>
      if (document.drop (quote + 1)).head? ≠ some csvQuote then
        some ⟨document.take quote, document.drop (quote + 1)⟩
      else
        (scanQuotedCell (document.drop (quote + 2))).map fun cell ↦
          ⟨document.take quote ++ csvQuote :: cell.text, cell.rest⟩
termination_by document.length
decreasing_by
  have hlt := (List.findIdx?_eq_some_iff_findIdx_eq.1 ‹_›).1
  simp only [List.length_drop]
  omega

/-- A unit that ends a cell. -/
def isCellSeparator (unit : UInt16) : Bool := [csvComma, csvFeed, csvReturn].contains unit

/-- A cell without quotes; `none` when it holds one. -/
def scanPlainCell : Text → Option ScannedCell
  | [] => some ⟨[], []⟩
  | unit :: rest =>
      if isCellSeparator unit then some ⟨[], unit :: rest⟩
      else if unit = csvQuote then none
      else (scanPlainCell rest).map fun cell ↦ ⟨unit :: cell.text, cell.rest⟩

/-- The cell a document starts with; `none` when its quoting is malformed. -/
def scanCell (document : Text) : Option ScannedCell :=
  if document.head? = some csvQuote then
    (scanQuotedCell document.tail).filter fun cell ↦ cell.rest.head?.all isCellSeparator
  else scanPlainCell document

/-- The document after the separator of a cell. -/
def afterCell (rest : Text) : Text :=
  if [csvReturn, csvFeed].isPrefixOf rest then rest.drop 2 else rest.drop 1

theorem scanQuotedCell_length {document : Text} {cell : ScannedCell}
    (h : scanQuotedCell document = some cell) : cell.rest.length < document.length := by
  induction document using scanQuotedCell.induct generalizing cell with
  | case1 document hfind =>
      rw [scanQuotedCell, hfind] at h
      cases h
  | case2 document quote hfind hhead =>
      have hlt := (List.findIdx?_eq_some_iff_findIdx_eq.1 hfind).1
      rw [scanQuotedCell, hfind] at h
      simp only at h
      rw [if_pos hhead, Option.some.injEq] at h
      rw [← h, List.length_drop]
      omega
  | case3 document quote hfind hhead ih =>
      have hlt := (List.findIdx?_eq_some_iff_findIdx_eq.1 hfind).1
      rw [scanQuotedCell, hfind] at h
      simp only at h
      rw [if_neg hhead] at h
      obtain ⟨later, hlater, rfl⟩ := Option.map_eq_some_iff.1 h
      have hshort := ih hlater
      rw [List.length_drop] at hshort
      simp only
      omega

theorem scanPlainCell_length {document : Text} {cell : ScannedCell}
    (h : scanPlainCell document = some cell) : cell.rest.length ≤ document.length := by
  induction document generalizing cell with
  | nil =>
      cases h
      exact Nat.le_refl _
  | cons unit rest ih =>
      rw [scanPlainCell] at h
      split_ifs at h
      · cases h
        exact Nat.le_refl _
      · obtain ⟨later, hlater, rfl⟩ := Option.map_eq_some_iff.1 h
        exact (ih hlater).trans (Nat.le_succ _)

theorem scanCell_length {document : Text} {cell : ScannedCell} (h : scanCell document = some cell) :
    cell.rest.length ≤ document.length := by
  rw [scanCell] at h
  split_ifs at h with hquote
  · have hshort := scanQuotedCell_length (Option.filter_eq_some_iff.1 h).1
    rw [List.length_tail] at hshort
    omega
  · exact scanPlainCell_length h

/-- A document gets shorter cell by cell. -/
theorem afterCell_length {document : Text} {cell : ScannedCell} (ne : document ≠ [])
    (h : scanCell document = some cell) : (afterCell cell.rest).length < document.length := by
  have hpos := List.length_pos_iff.2 ne
  have hrest := scanCell_length h
  rw [afterCell]
  split_ifs
  · rw [List.length_drop]
    omega
  · rw [List.length_drop]
    omega

/-- Whether a spreadsheet can open this document without evaluating any cell as a formula. -/
def isFormulaSafeCsv (document : Text) : Bool :=
  if document = [] then true
  else
    match _hscan : scanCell document with
    | none => false
    | some cell =>
        if startsFormula cell.text then false else isFormulaSafeCsv (afterCell cell.rest)
termination_by document.length
decreasing_by exact afterCell_length ‹_› ‹_›

end ReputationKey.Shared
