import ReputationKey.Base.IsoInstant
import ReputationKey.Base.WellFormedText
import ReputationKey.Review.NormalizedText
import ReputationKey.Shared.JsString

/-!
# Digests of reviews

The digests that stand for a review's content: of what the provider sent, of the material in its
source and comparison forms, and the content hash. SHA-256 of the bytes of a text is a parameter, as
is the text of a number. Follows `src/src/contexts/review/domain/material-review-revision.ts:76–148`
and `src/src/contexts/review/domain/rules.ts:28–51`.
-/

namespace ReputationKey.Review

open ReputationKey.Base
open ReputationKey.Shared (asciiText)

/-- Stars of a review. -/
structure StarRating where
  stars : ℕ
  bounds : 1 ≤ stars ∧ stars ≤ 5
  deriving DecidableEq

/-- A `Date` that is valid: milliseconds after the start of 1970. -/
abbrev Instant := { epoch : ℤ // IsInstant epoch }

/-- `String` of a whole number. -/
def decimalText (n : ℕ) : Text := (Nat.toDigits 10 n).map fun c ↦ UInt16.ofNat c.toNat

/-- `canonicalField`. -/
def canonicalField : Option Text → Text
  | none => asciiText "null"
  | some value => asciiText "text:" ++ (decimalText value.length ++ 58 :: value)

/-- `canonicalDate`. -/
def canonicalDate : Option Instant → Text
  | none => asciiText "null"
  | some value => asciiText "date:" ++ instantText value.1

section Digests

variable {δ : Type} (sha256 : List UInt8 → δ)

/-- `sha256Hex`: of the UTF-8 encoding of a text. -/
def sha256Hex (text : Text) : δ := sha256 (utf8Bytes text)

/-- `ReviewMaterialDescription`. -/
structure ReviewMaterialDescription (δ : Type) where
  rating : StarRating
  originalText : Option Text
  normalizedText : Option Text
  sourceDigest : δ
  normalizedDigest : δ

/-- What a digest of the material is taken of. -/
def materialText (version : Text) (rating : StarRating) (text : Option Text) : Text :=
  version ++ 0 :: (decimalText rating.stars ++ 0 :: canonicalField text)

/-- `describeReviewMaterial`. -/
def describeReviewMaterial (normalizeNfc : Text → Text) (rating : StarRating) (text : Option Text) :
    ReviewMaterialDescription δ :=
  let normalizedText := normalizeOriginalReviewText normalizeNfc text
  { rating, originalText := text, normalizedText
    sourceDigest := sha256Hex sha256
      (materialText (asciiText "repkey-review-material-source-v1") rating text)
    normalizedDigest := sha256Hex sha256
      (materialText (asciiText "repkey-review-material-normalized-v1") rating normalizedText) }

/-- What an observation digest is taken of. -/
structure SourceObservation where
  rating : StarRating
  text : Option Text
  translatedText : Option Text
  languageCode : Option Text
  reviewerName : Option Text
  reviewerProfilePhotoUrl : Option Text
  reviewedAt : Instant
  sourceCreatedAt : Option Instant
  sourceUpdatedAt : Option Instant

/-- `computeReviewSourceObservationDigest`. -/
def computeReviewSourceObservationDigest (input : SourceObservation) : δ :=
  let fields := [decimalText input.rating.stars, canonicalField input.text,
    canonicalField input.translatedText, canonicalField input.languageCode,
    canonicalField input.reviewerName, canonicalField input.reviewerProfilePhotoUrl,
    canonicalDate (some input.reviewedAt), canonicalDate input.sourceCreatedAt,
    canonicalDate input.sourceUpdatedAt]
  sha256Hex sha256 (asciiText "repkey-review-source-observation-v1" ++ 0 :: [0].intercalate fields)

/-- What a content hash is taken of. -/
structure ReviewContent (ν : Type) where
  rating : ν
  text : Option Text
  reviewerName : Option Text
  languageCode : Option Text

/-- `computeReviewContentHash`. -/
def computeReviewContentHash {ν : Type} (numberText : ν → Text) (fields : ReviewContent ν) : δ :=
  sha256Hex sha256 ([0].intercalate [numberText fields.rating, fields.text.getD [],
    fields.reviewerName.getD [], fields.languageCode.getD []])

end Digests

end ReputationKey.Review
