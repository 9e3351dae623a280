import ReputationKey.Base.DoubleRounding
import ReputationKey.Base.IsoDate
import ReputationKey.Review.Rows

/-!
# Buckets of a chart

Rows of a time series are grouped by the day, week or month of their local date, gaps included, and
an axis labels some of the buckets. Local dates are texts. Follows
`src/src/shared/chart-buckets.ts`; the formatters of the labels are parameters.
-/

namespace ReputationKey.Shared

open Base Civil
open ReputationKey.Review (Text)

/-! ## The code -/

/-- `BucketUnit`. -/
inductive BucketUnit
  | day
  | week
  | month
  deriving DecidableEq, Repr

/-- A week starts on Monday. A date that is none throws. -/
def startOfWeek (localDate : Text) : Option Text :=
  (dateOfText localDate).map fun date ↦
    let backToMonday := if weekday date = 0 then 6 else weekday date - 1
    isoText (date - backToMonday)

/-- The local date that opens the bucket of a local date. -/
def bucketStart (localDate : Text) : BucketUnit → Option Text
  | .day => some localDate
  | .week => startOfWeek localDate
  | .month => some (localDate.take 7 ++ [hyphen, 48, 49])

structure Bucket (τ : Type) where
  start : Text
  label : Text
  rows : List τ
  deriving DecidableEq

/-- A row under its start, behind the rows that are there. -/
def addRow {τ : Type} (start : Text) (row : τ) : List (Text × List τ) → List (Text × List τ)
  | [] => [(start, [row])]
  | (key, rows) :: others =>
      if key = start then (key, rows ++ [row]) :: others else (key, rows) :: addRow start row others

/-- A row under the start of its bucket; a row whose date is absent is dropped. -/
def addDated {τ : Type} (unit : BucketUnit) (getDate : τ → Option Text) (grouped : List (Text × List τ))
    (row : τ) : Option (List (Text × List τ)) :=
  match getDate row with
  | none => some grouped
  | some localDate =>
      if localDate = [] then some grouped
      else (bucketStart localDate unit).map fun start ↦ addRow start row grouped

/-- The rows by their start. -/
def byStart {τ : Type} (unit : BucketUnit) (getDate : τ → Option Text) (rows : List τ) :
    Option (List (Text × List τ)) :=
  rows.foldlM (addDated unit getDate) []

/-- The day a cursor moves on to. -/
def nextCursor (unit : BucketUnit) (cursor : ℤ) : ℤ :=
  match unit with
  | .day => cursor + 1
  | .week => cursor + 7
  | .month => makeDay (yearOfDay cursor) (monthOfDay cursor + 1) (dateOfDay cursor)

/-- The loop of `fillGaps`, with the turns its guard leaves. -/
def fillFrom (unit : BucketUnit) (last : ℤ) : ℕ → ℤ → List Text
  | 0, _ => []
  | guard + 1, cursor =>
      if cursor ≤ last then isoText cursor :: fillFrom unit last guard (nextCursor unit cursor) else []

/-- Every start from the first to the last; none of what is no date. -/
def fillGaps (first last : Text) (unit : BucketUnit) : List Text :=
  match dateOfText first, dateOfText last with
  | some first, some last => fillFrom unit last 1000 first
  | _, _ => []

/-- The formatters of the labels. -/
structure LabelFormatters where
  start : BucketUnit → ℤ → Text
  year : ℤ → Text

/-- The label of a bucket, with the year or without. -/
def bucketLabel (formatters : LabelFormatters) (unit : BucketUnit) (showYear : Bool) (date : ℤ) : Text :=
  if showYear then formatters.start unit date ++ 32 :: formatters.year date else formatters.start unit date

/-- The buckets of the starts, given the year of the bucket before. -/
def labelled {τ : Type} (formatters : LabelFormatters) (unit : BucketUnit)
    (grouped : List (Text × List τ)) (previousYear : Option Text) : List Text → Option (List (Bucket τ))
  | [] => some []
  | start :: starts =>
      let year := start.take 4
      (dateOfText start).bind fun date ↦
        (labelled formatters unit grouped (some year) starts).map fun buckets ↦
          { start
            label := bucketLabel formatters unit (some year != previousYear) date
            rows := (grouped.lookup start).getD [] } :: buckets

/-- The rows in buckets of a unit, ascending by date, gaps included. -/
def groupByBucket {τ : Type} (formatters : LabelFormatters) (rows : List τ) (unit : BucketUnit)
    (getDate : τ → Option Text) : Option (List (Bucket τ)) :=
  (byStart unit getDate rows).bind fun grouped ↦
    let starts := (grouped.map (·.1)).insertionSort Json.textLe
    match starts.head?, starts.getLast? with
    | some first, some last => labelled formatters unit grouped none (fillGaps first last unit)
    | _, _ => some []

/-- What a set of texts holds after some are added, in the order they were first added. -/
def picked (texts : List Text) : List Text :=
  texts.foldl (fun set text ↦ if set.contains text then set else set ++ [text]) []

/-- `Math.round` of a product. -/
def roundedPosition (index : ℕ) (step : ℚ) : ℤ := ⌊nearestDouble (index * step) + 1 / 2⌋

/-- At most so many starts, evenly spaced; an index that is no bucket throws. -/
def axisTicks {τ : Type} (buckets : List (Bucket τ)) (max : ℕ) : Option (List Text) :=
  if buckets.length ≤ max then some (buckets.map (·.start))
  else
    let step := nearestDouble ((buckets.length - 1 : ℕ) / (max - 1 : ℕ))
    ((List.range max).mapM fun index ↦
      (buckets[(roundedPosition index step).toNat]?).map (·.start)).map picked

end ReputationKey.Shared
