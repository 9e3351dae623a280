import Mathlib.Algebra.Order.Ring.Int
import Mathlib.Data.Char
import Mathlib.Data.List.Lex
import ReputationKey.Base.KeysetPaging

/-!
# The merged history of a Portal

One timeline merged from independently ordered sources: the order of records, the cursor of a page
and the bound each source applies for it. Keys and cursors are lists of ASCII characters, compared
as the source compares strings; times are epoch milliseconds. Follows
`src/src/contexts/portal/domain/portal-history.ts:23–162` and, for the reads of one page,
`src/src/contexts/portal/application/use-cases/get-portal-history.ts:86–281`.
-/

namespace ReputationKey.Portal

open ReputationKey.Base

/-- The sources of the timeline. -/
inductive HistorySource
  | codeDownloaded
  | codeIssued
  | codeRevoked
  | created
  | edit
  | health
  | publication
  deriving DecidableEq, Repr

namespace HistorySource

/-- Every source. -/
def all : List HistorySource :=
  [.codeDownloaded, .codeIssued, .codeRevoked, .created, .edit, .health, .publication]

/-- The key prefix of a source. -/
def prefixText : HistorySource → String
  | .codeDownloaded => "code-downloaded:"
  | .codeIssued => "code-issued:"
  | .codeRevoked => "code-revoked:"
  | .created => "created:"
  | .edit => "edit:"
  | .health => "health:"
  | .publication => "publication:"

/-- The key prefix of a source, as keys hold it. -/
def keyPrefix (source : HistorySource) : List Char := source.prefixText.toList

/-- Whether the rows of a source have no identifier. -/
def idless (source : HistorySource) : Bool := source == .codeRevoked

end HistorySource

/-- A record of the timeline, with an entry no order reads: its category, actor and detail. -/
structure PortalHistoryRecord (δ : Type) where
  key : List Char
  time : Int
  entry : δ
  deriving DecidableEq, Repr

/-- A place in the timeline. -/
structure HistoryPosition where
  time : Int
  key : List Char
  deriving DecidableEq, Repr

variable {δ : Type}

/-- The place of a record. -/
def PortalHistoryRecord.position (record : PortalHistoryRecord δ) : HistoryPosition :=
  ⟨record.time, record.key⟩

/-- Newest first; a tie on the instant is broken by key, highest first. -/
def compareHistoryDescending (a b : PortalHistoryRecord δ) : Int :=
  let byTime := b.time - a.time
  if byTime ≠ 0 then byTime
  else if a.key = b.key then 0
  else if a.key < b.key then 1
  else -1

/-- The order a list is sorted in with the comparison above. -/
def comesFirst (a b : PortalHistoryRecord δ) : Bool := decide (compareHistoryDescending a b ≤ 0)

/-- A page of records, and where the next one starts. -/
structure HistoryPage (δ : Type) where
  records : List (PortalHistoryRecord δ)
  next : Option HistoryPosition
  deriving DecidableEq, Repr

/-- The newest records, and the place of the last one if there are more. -/
def pageHistory (records : List (PortalHistoryRecord δ)) (limit : Nat) : HistoryPage δ :=
  let ordered := records.mergeSort comesFirst
  let visible := ordered.take limit
  { records := visible
    next :=
      if limit < ordered.length then visible.getLast?.map PortalHistoryRecord.position else none }

/-! ## Cursors -/

/-- The decimal digits of an instant. -/
def millisText (time : Int) : List Char :=
  if time < 0 then '-' :: Nat.toDigits 10 time.natAbs else Nat.toDigits 10 time.natAbs

/-- The cursor of a place. -/
def encodeHistoryCursor (position : HistoryPosition) : List Char :=
  millisText position.time ++ '|' :: position.key

/-- A lower-case letter or a hyphen. -/
def isPrefixChar (c : Char) : Bool := c.isLower || c == '-'

/-- An ASCII letter, a digit or a hyphen. -/
def isIdChar (c : Char) : Bool := c.isAlphanum || c == '-'

/-- Whether a text has a length in a range and only some characters. -/
def isRun (allowed : Char → Bool) (longest : Nat) (text : List Char) : Bool :=
  decide (1 ≤ text.length) && decide (text.length ≤ longest) && text.all allowed

/-- A text up to a separator it does not contain, and what follows the separator. -/
def splitAtSeparator (separator : Char) (text : List Char) : Option (List Char × List Char) :=
  match text.dropWhile (· != separator) with
  | [] => none
  | _ :: rest => some (text.takeWhile (· != separator), rest)

/-- The two parts of a cursor: up to fifteen digits, and a key of a prefix and an identifier. -/
def matchCursor (value : List Char) : Option (List Char × List Char) :=
  (splitAtSeparator '|' value).filter fun parts ↦
    isRun Char.isDigit 15 parts.1 &&
      (splitAtSeparator ':' parts.2).any fun keyParts ↦
        isRun isPrefixChar 20 keyParts.1 && isRun isIdChar 64 keyParts.2

/-- The latest instant a date may be. -/
def maxDateMs : Nat := 8640000000000000

/-- The place of a cursor, or nothing for a cursor this module did not produce. -/
def decodeHistoryCursor (value : List Char) : Option HistoryPosition :=
  (matchCursor value).bind fun parts ↦
    if HistorySource.all.any fun source ↦ source.keyPrefix.isPrefixOf parts.2 then
      let millis := Nat.ofDigitChars 10 parts.1 0
      if millis ≤ maxDateMs then some ⟨millis, parts.2⟩ else none
    else none

/-! ## The bound a source applies -/

/-- A source row is before the cursor when it is older, or when it shares the instant, `inclusive`
is set and (when `afterId` is given) its identifier sorts strictly below it. -/
structure HistoryBound where
  time : Int
  inclusive : Bool
  afterId : Option (List Char)
  deriving DecidableEq, Repr

/-- The bound of a source for a cursor. -/
def historyBoundFor (sourcePrefix : List Char) (position : Option HistoryPosition)
    (idless : Bool) : Option HistoryBound :=
  position.map fun position ↦
    if sourcePrefix.isPrefixOf position.key then
      if idless then ⟨position.time, false, none⟩
      else ⟨position.time, true, some (position.key.drop sourcePrefix.length)⟩
    else ⟨position.time, decide (sourcePrefix < position.key), none⟩

/-- A row of a source. -/
structure SourceRow (δ : Type) where
  id : List Char
  time : Int
  entry : δ
  deriving DecidableEq, Repr

/-- The record of a row. -/
def SourceRow.record (source : HistorySource) (row : SourceRow δ) : PortalHistoryRecord δ :=
  ⟨source.keyPrefix ++ row.id, row.time, row.entry⟩

/-- Whether a bound admits a row. Follows
`src/src/contexts/portal/infrastructure/portal-history-bound.ts:10–25`. -/
def HistoryBound.admits (bound : HistoryBound) (row : SourceRow δ) : Bool :=
  decide (row.time < bound.time) ||
    (bound.inclusive && row.time == bound.time &&
      bound.afterId.all fun afterId ↦ decide (row.id < afterId))

/-- The order a source reads its rows in: newest first, then by identifier, highest first. -/
def rowComesFirst (a b : SourceRow δ) : Bool :=
  decide (b.time < a.time) || (a.time == b.time && !decide (a.id < b.id))

/-- The newest rows of a source a bound admits. -/
def readSource (rows : List (SourceRow δ)) (bound : Option HistoryBound) (limit : Nat) :
    List (SourceRow δ) :=
  newest rowComesFirst limit (rows.filter fun row ↦ bound.all fun bound ↦ bound.admits row)

/-- One page of the timeline: every source's newest rows before the cursor, merged, and the cursor
of the next page. A cursor that decodes to nothing starts over. -/
def portalHistoryPage (rows : HistorySource → List (SourceRow δ)) (limit : Nat)
    (cursor : Option (List Char)) : List (PortalHistoryRecord δ) × Option (List Char) :=
  let position := cursor.bind decodeHistoryCursor
  let records := HistorySource.all.flatMap fun source ↦
    (readSource (rows source) (historyBoundFor source.keyPrefix position source.idless)
      (limit + 1)).map (SourceRow.record source)
  let merged := pageHistory records limit
  (merged.records, merged.next.map encodeHistoryCursor)

/-- Every record of the sources. -/
def allRecords (rows : HistorySource → List (SourceRow δ)) : List (PortalHistoryRecord δ) :=
  HistorySource.all.flatMap fun source ↦ (rows source).map (SourceRow.record source)

end ReputationKey.Portal
