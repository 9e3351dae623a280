import ReputationKey.Review.Rows

/-!
# What Google can be sent as a reply comment

The one rule every layer asks about reply text. Follows
`src/src/shared/google-provider-control/reply-comment.ts`.
-/

namespace ReputationKey.Review

/-- Google's limit on a reply comment, in bytes. -/
def googleReplyCommentMaxBytes : Nat := 4096

/-- Why Google cannot be sent a text. -/
inductive ReplyCommentProblem
  | empty
  | tooLong
  | invalidCharacter
  | malformedUnicode
  deriving DecidableEq, Repr

/-- The first unit of a surrogate pair. -/
def isHighSurrogate (unit : UInt16) : Bool := 0xd800 ≤ unit && unit ≤ 0xdbff

/-- The second unit of a surrogate pair. -/
def isLowSurrogate (unit : UInt16) : Bool := 0xdc00 ≤ unit && unit ≤ 0xdfff

/-- The UTF-8 length of a text; a lone surrogate counts as the three bytes that replace it. -/
def replyCommentByteLength : Text → Nat
  | [] => 0
  | [unit] => if unit < 0x80 then 1 else if unit < 0x800 then 2 else 3
  | unit :: next :: rest =>
      if unit < 0x80 then 1 + replyCommentByteLength (next :: rest)
      else if unit < 0x800 then 2 + replyCommentByteLength (next :: rest)
      else if isHighSurrogate unit && isLowSurrogate next then 4 + replyCommentByteLength rest
      else 3 + replyCommentByteLength (next :: rest)

/-- A control character other than line feed, carriage return and tab. -/
def isRefusedControl (unit : UInt16) : Bool :=
  !(unit == 0x0a || unit == 0x0d || unit == 0x09) && (unit ≤ 0x1f || unit == 0x7f)

/-- The first character problem of a text. -/
def characterProblem : Text → Option ReplyCommentProblem
  | [] => none
  | [unit] =>
      if isHighSurrogate unit || isLowSurrogate unit then some .malformedUnicode
      else if isRefusedControl unit then some .invalidCharacter
      else none
  | unit :: next :: rest =>
      if isHighSurrogate unit then
        if !isLowSurrogate next then some .malformedUnicode else characterProblem rest
      else if isLowSurrogate unit then some .malformedUnicode
      else if isRefusedControl unit then some .invalidCharacter
      else characterProblem (next :: rest)

/-- `none` when Google can be sent this text. -/
def replyCommentProblem (text : Text) : Option ReplyCommentProblem :=
  if trim text = [] then some .empty
  else
    match characterProblem text with
    | some problem => some problem
    | none =>
        if googleReplyCommentMaxBytes < replyCommentByteLength text then some .tooLong else none

/-- Blank text is not a reply. -/
theorem replyCommentProblem_nil : replyCommentProblem [] = some .empty := rfl

/-- Text Google can be sent is not blank. -/
theorem ne_nil_of_sendable {text : Text} (h : replyCommentProblem text = none) : text ≠ [] := by
  rintro rfl
  cases h

/-- Whether a manager can save a text as it is typed: Google can be sent it, and it has no white
space at its ends. -/
def isReplyText (text : Text) : Bool := replyCommentProblem text == none && trim text == text

end ReputationKey.Review
