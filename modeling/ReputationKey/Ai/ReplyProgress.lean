import ReputationKey.Base.CodePoints
import ReputationKey.Base.JsonScan
import ReputationKey.Review.Rows
import ReputationKey.Shared.JsString

/-!
# Progress of a reply under way

The parser that watches a reply's JSON text arrive and tells which sentences it answers, and when
the reply itself begins. Follows `src/src/shared/ai-provider-control/reply-progress-parser.ts` and
the answer schema of `src/src/shared/reply-drafting-v2-schema.ts`.
-/

namespace ReputationKey.Ai

open ReputationKey.Base
open ReputationKey.Review (Text isJsWhitespace trim)
open ReputationKey.Shared (asciiText)

variable {ν : Type}

/-! ## The answer schema -/

/-- Numbers of a JSON text, equal as keys of a set are, and those that are positive safe integers.
-/
structure ReplyNumbers (ν : Type) extends JsonNumbers ν where
  isPositiveSafe : ν → Bool

/-- `REPLY_DRAFTING_V2_CASES`. -/
inductive ReplyCase
  | praise
  | praiseWithIssue
  | mixed
  | complaint
  | serious
  | money
  | unclear
  deriving DecidableEq, Repr

/-- The texts that name the cases. -/
def replyCases : List (Text × ReplyCase) :=
  [(asciiText "praise", .praise), (asciiText "praise_with_issue", .praiseWithIssue),
    (asciiText "mixed", .mixed), (asciiText "complaint", .complaint),
    (asciiText "serious", .serious), (asciiText "money", .money), (asciiText "unclear", .unclear)]

/-- A text whose length is in bounds. -/
def textWithin (least most : ℕ) (text : Text) : Option Text :=
  if least ≤ text.length ∧ text.length ≤ most then some text else none

/-- `z.string().min(1).max(35)`. -/
def languageCodeOf : Json ν → Option Text
  | .string text => textWithin 1 35 text
  | _ => none

/-- `z.enum(REPLY_DRAFTING_V2_CASES)`. -/
def caseOf : Json ν → Option ReplyCase
  | .string text => (replyCases.find? fun entry ↦ entry.1 == text).map Prod.snd
  | _ => none

/-- `z.number().int().positive().safe()`. -/
def sentenceNumberOf (numbers : ReplyNumbers ν) : Json ν → Option ν
  | .number x => if numbers.isPositiveSafe x then some x else none
  | _ => none

/-- One or two sentence numbers. -/
def mainPointOf (numbers : ReplyNumbers ν) : Json ν → Option (List ν)
  | .array elements =>
      if 1 ≤ elements.length ∧ elements.length ≤ 2 then elements.mapM (sentenceNumberOf numbers)
      else none
  | _ => none

/-- `z.string().trim().min(2).max(40)`. -/
def avoidTermOf : Json ν → Option Text
  | .string text => textWithin 2 40 (trim text)
  | _ => none

/-- At most eight terms. -/
def avoidTermsOf : Json ν → Option (List Text)
  | .array elements => if elements.length ≤ 8 then elements.mapM avoidTermOf else none
  | _ => none

/-- `z.string().trim().min(24).max(1_200)`. -/
def replyTextOf : Json ν → Option Text
  | .string text => textWithin 24 1200 (trim text)
  | _ => none

/-- The fields of an answer. -/
inductive ReplyField
  | languageCode
  | replyCase
  | mainPoint
  | avoidTerms
  | replyText
  deriving DecidableEq, Repr

/-- `FIELDS`. -/
def replyFields : List ReplyField := [.languageCode, .replyCase, .mainPoint, .avoidTerms, .replyText]

namespace ReplyField

/-- The key of a field. -/
def key : ReplyField → Text
  | languageCode => asciiText "languageCode"
  | replyCase => asciiText "case"
  | mainPoint => asciiText "mainPoint"
  | avoidTerms => asciiText "avoidTerms"
  | replyText => asciiText "replyText"

/-- Whether the schema accepts a value of a field. -/
def accepts (numbers : ReplyNumbers ν) (value : Json ν) : ReplyField → Bool
  | languageCode => (languageCodeOf value).isSome
  | replyCase => (caseOf value).isSome
  | mainPoint => (mainPointOf numbers value).isSome
  | avoidTerms => (avoidTermsOf value).isSome
  | replyText => (replyTextOf value).isSome

end ReplyField

/-- An answer that the schema accepts. -/
structure ReplyDraftingOutput (ν : Type) where
  languageCode : Text
  replyCase : ReplyCase
  mainPoint : List ν
  avoidTerms : List Text
  replyText : Text

/-- What an object holds for a field. -/
def memberOf (members : List (Text × Json ν)) (field : ReplyField) : Option (Json ν) :=
  (members.find? fun m ↦ m.1 == field.key).map Prod.snd

/-- `replyDraftingV2OutputSchema`, which allows no other keys. -/
def replyDraftingOutput (numbers : ReplyNumbers ν) (members : List (Text × Json ν)) :
    Option (ReplyDraftingOutput ν) := do
  let languageCode ← (memberOf members .languageCode).bind languageCodeOf
  let replyCase ← (memberOf members .replyCase).bind caseOf
  let mainPoint ← (memberOf members .mainPoint).bind (mainPointOf numbers)
  let avoidTerms ← (memberOf members .avoidTerms).bind avoidTermsOf
  let replyText ← (memberOf members .replyText).bind replyTextOf
  if members.all fun m ↦ replyFields.any fun field ↦ field.key == m.1 then
    return { languageCode, replyCase, mainPoint, avoidTerms, replyText }
  else none

/-! ## The parser -/

/-- A step that is reported. -/
inductive ReplyProgress (ν : Type)
  | answering (sentenceNumbers : List ν)
  | writing

/-- What the parser keeps between characters, and the steps reported so far. -/
structure ReplyProgressParser (ν : Type) extends JsonScan where
  field : Text
  fieldIndex : ℕ
  started : Bool
  invalid : Bool
  writing : Bool
  bytes : ℕ
  reported : List (ReplyProgress ν)

namespace ReplyProgressParser

/-- A new parser. -/
def start : ReplyProgressParser ν where
  depth := 0
  quoted := false
  escaped := false
  field := []
  fieldIndex := 0
  started := false
  invalid := false
  writing := false
  bytes := 0
  reported := []

/-- Suppress what follows. -/
def suppress (parser : ReplyProgressParser ν) : ReplyProgressParser ν := { parser with invalid := true }

/-- Go on to the next field. -/
def nextField (parser : ReplyProgressParser ν) : ReplyProgressParser ν :=
  { parser with fieldIndex := parser.fieldIndex + 1, field := [] }

/-- Report a step. -/
def report (step : ReplyProgress ν) (parser : ReplyProgressParser ν) : ReplyProgressParser ν :=
  { parser with reported := parser.reported ++ [step] }

end ReplyProgressParser

/-- `nestingChange`. -/
def nestingChange (character : Text) : ℤ :=
  if character = [123] ∨ character = [91] then 1
  else if character = [125] ∨ character = [93] then -1
  else 0

/-- A hexadecimal digit of either case. -/
def isHexUnit (unit : UInt16) : Bool :=
  (48 ≤ unit && unit ≤ 57) || (97 ≤ unit && unit ≤ 102) || (65 ≤ unit && unit ≤ 70)

/-- Whether what follows a backslash makes an escape. -/
def startsWithEscape : Text → Bool
  | 117 :: a :: b :: c :: d :: _ => isHexUnit a && isHexUnit b && isHexUnit c && isHexUnit d
  | letter :: _ => [34, 92, 47, 98, 102, 110, 114, 116].contains letter
  | [] => false

/-- The rest of a field after `"replyText"`, a colon and an opening quote, with white space before
each. -/
def replyTextPrefix (field : Text) : Option Text := do
  let rest ← Json.expectWord (34 :: (ReplyField.replyText.key ++ [34])) (field.dropWhile isJsWhitespace)
  let rest ← Json.expect 58 (rest.dropWhile isJsWhitespace)
  Json.expect 34 (rest.dropWhile isJsWhitespace)

/-- Whether a text behind its opening quote has a first character. -/
def startsText : Text → Bool
  | [] => false
  | first :: rest => if first = 92 then startsWithEscape rest else first != 34 && 0x20 ≤ first

/-- `hasFirstReplyCharacter`. -/
def hasFirstReplyCharacter (field : Text) : Bool := (replyTextPrefix field).any startsText

section Parser

variable [DecidableEq ν] (numbers : ReplyNumbers ν) (sentenceNumbers : List ν)

namespace ReplyProgressParser

variable (parser : ReplyProgressParser ν)

/-- `completeField`: the text of a field is parsed as an object of its own. -/
def completeField : ReplyProgressParser ν :=
  match Json.parse numbers.toJsonNumbers (123 :: (parser.field ++ [125])), replyFields[parser.fieldIndex]?
  with
  | some (.object [(name, value)]), some field =>
      if name ≠ field.key then parser.suppress
      else if !field.accepts numbers value then parser.suppress
      else if field = .mainPoint then
        match mainPointOf numbers value with
        | none => parser.suppress
        | some mainPoint =>
            if mainPoint.all fun n ↦ sentenceNumbers.contains n then
              (parser.report (.answering mainPoint)).nextField
            else parser.suppress
      else parser.nextField
  | _, _ => parser.suppress

/-- A comma or a brace of the object itself. -/
def endsField (character : Text) : Bool :=
  !parser.quoted && parser.depth == 1 && (character == [44] || character == [125])

/-- `consume`. A character is one code point. -/
def consume (character : Text) : ReplyProgressParser ν :=
  if !parser.started then
    if character.all isJsWhitespace then parser
    else if character ≠ [123] then parser.suppress
    else { parser with started := true, depth := 1 }
  else if parser.endsField character then
    let parser := parser.completeField numbers sentenceNumbers
    if character = [125] then parser.suppress else parser
  else
    let parser := { parser with field := parser.field ++ character }
    if parser.escaped then { parser with escaped := false }
    else if parser.quoted && character == [92] then { parser with escaped := true }
    else
      let quoted := if character = [34] then !parser.quoted else parser.quoted
      let depth := if quoted then parser.depth else parser.depth + nestingChange character
      let parser := { parser with quoted, depth }
      if !parser.writing && parser.fieldIndex == 4 && hasFirstReplyCharacter parser.field then
        { parser with writing := true }.report .writing
      else parser

/-- A character of a delta; nothing is consumed any more once the parser is invalid. -/
def step (character : Text) : ReplyProgressParser ν :=
  if parser.invalid then parser else parser.consume numbers sentenceNumbers character

/-- A delta: at most 16384 bytes of text are looked at. -/
def receive (delta : Text) : ReplyProgressParser ν :=
  let bytes := parser.bytes + (utf8Bytes delta).length
  (codePoints delta).foldl (step numbers sentenceNumbers)
    { parser with bytes, invalid := parser.invalid || 16384 < bytes }

end ReplyProgressParser

/-- The steps that are reported while the deltas arrive. -/
def replyProgress (deltas : List Text) : List (ReplyProgress ν) :=
  (deltas.foldl (ReplyProgressParser.receive numbers sentenceNumbers) .start).reported

end Parser

end ReputationKey.Ai
