import ReputationKey.Review.ReviewDigests

/-!
# Review digests identify content

Canonical fields are told from what follows, so digests of them are the same only of the same
fields, up to unpaired surrogates, which have no bytes of their own. The content hash joins its
fields without their lengths: what it tells is the pieces that they fall into at NUL.
-/

namespace ReputationKey.Review

open ReputationKey.Base
open ReputationKey.Shared (asciiText)

/-! ## Canonical fields tell where they end -/

theorem toNat_ofNat_digit {c : Char} (h : c.isDigit = true) : Char.ofNat (UInt16.ofNat c.toNat).toNat = c ∧
    48 ≤ (UInt16.ofNat c.toNat).toNat ∧ (UInt16.ofNat c.toNat).toNat ≤ 57 := by
  have hbounds : 48 ≤ c.toNat ∧ c.toNat ≤ 57 := by
    simpa [Char.isDigit, UInt32.le_iff_toNat_le] using h
  have hnat : (UInt16.ofNat c.toNat).toNat = c.toNat := by
    rw [UInt16.toNat_ofNat']
    omega
  rw [hnat]
  exact ⟨Char.ofNat_toNat c, hbounds⟩

/-- A decimal text holds digits only. -/
theorem digit_of_mem_decimalText {n : ℕ} {unit : UInt16} (mem : unit ∈ decimalText n) :
    48 ≤ unit.toNat ∧ unit.toNat ≤ 57 := by
  obtain ⟨c, hc, rfl⟩ := List.mem_map.1 mem
  exact (toNat_ofNat_digit (Nat.isDigit_of_mem_toDigits (by decide) (by decide) hc)).2

theorem decimalText_injective : Function.Injective decimalText := by
  intro n m h
  have hdigits (n : ℕ) : (decimalText n).map (fun unit ↦ Char.ofNat unit.toNat) = Nat.toDigits 10 n := by
    rw [decimalText, List.map_map]
    refine (List.map_congr_left fun c hc ↦ ?_).trans (List.map_id _)
    exact (toNat_ofNat_digit (Nat.isDigit_of_mem_toDigits (by decide) (by decide) hc)).1
  have hsame : Nat.toDigits 10 n = Nat.toDigits 10 m := by
    rw [← hdigits n, h, hdigits m]
  rw [← @Nat.ofDigitChars_ten_toDigits n, hsame, Nat.ofDigitChars_ten_toDigits]

theorem not_mem_decimalText {n : ℕ} {unit : UInt16} (h : unit.toNat < 48 ∨ 57 < unit.toNat) :
    unit ∉ decimalText n := by
  intro mem
  have hdigit := digit_of_mem_decimalText mem
  omega

/-- A field is told from what follows, whatever it holds. -/
theorem selfDelimiting_canonicalField : SelfDelimiting canonicalField := by
  have hcount : SelfDelimiting fun n ↦ decimalText n ++ [58] :=
    .marked decimalText_injective fun n ↦ not_mem_decimalText (.inr (by decide))
  have hvalue : SelfDelimiting fun a : Text ↦
      asciiText "ext:" ++ ((decimalText a.length ++ [58]) ++ a) := hcount.counted.behind _
  have hfield := @SelfDelimiting.optional _ _ _ 110 116 (asciiText "ull") (by decide) hvalue
  have hsame : canonicalField = fun a : Option Text ↦ a.elim (110 :: asciiText "ull") fun a ↦
      116 :: (asciiText "ext:" ++ ((decimalText a.length ++ [58]) ++ a)) := by
    funext a
    cases a with
    | none => decide
    | some a =>
        have hhead : asciiText "text:" = 116 :: asciiText "ext:" := by decide
        rw [canonicalField, hhead, Option.elim_some, List.append_assoc, List.singleton_append,
          List.cons_append]
  rw [hsame]
  exact hfield

theorem zero_not_mem_canonicalDate (date : Option Instant) : (0 : UInt16) ∉ canonicalDate date := by
  cases date with
  | none => decide
  | some date =>
      rw [canonicalDate, List.mem_append, not_or]
      refine ⟨by decide, fun mem ↦ ?_⟩
      exact absurd (bounds_of_mem_instantText _ _ mem).1 (by decide)

theorem canonicalDate_injective : Function.Injective canonicalDate := by
  have hapart (date : Instant) : canonicalDate none ≠ canonicalDate (some date) := by
    intro h
    have hhead := congrArg List.head? h
    rw [canonicalDate, canonicalDate, List.head?_append, show (asciiText "null").head? = some 110 by decide,
      show (asciiText "date:").head? = some 100 by decide] at hhead
    cases hhead
  intro a b h
  cases a with
  | none =>
      cases b with
      | none => rfl
      | some b => exact absurd h (hapart b)
  | some a =>
      cases b with
      | none => exact absurd h.symm (hapart a)
      | some b =>
          rw [canonicalDate, canonicalDate] at h
          have hinstant := instantText_inj a.2 b.2 (List.append_cancel_left h)
          rw [Subtype.ext hinstant]

/-! ## Repaired fields -/

/-- Units that no text needs repaired. -/
def IsPlain (text : Text) : Prop := ∀ unit ∈ text, isHighUnit unit = false ∧ isLowUnit unit = false

theorem isPlain_of_all {text : Text} (h : (text.all fun unit ↦ unit.toNat < 128) = true) :
    IsPlain text := by
  intro unit mem
  have hlt := List.all_eq_true.1 h unit mem
  rw [decide_eq_true_eq] at hlt
  rw [← Bool.not_eq_true, ← Bool.not_eq_true, isHighUnit_iff, isLowUnit_iff]
  omega

theorem isPlain_decimalText (n : ℕ) : IsPlain (decimalText n) := by
  apply isPlain_of_all
  rw [List.all_eq_true]
  intro unit mem
  have hdigit := digit_of_mem_decimalText mem
  rw [decide_eq_true_eq]
  omega

theorem toWellFormed_of_isPlain {text : Text} (h : IsPlain text) : toWellFormed text = text := by
  have hkept := toWellFormed_append h []
  rwa [List.append_nil, toWellFormed, List.append_nil] at hkept

/-- A field is repaired in its value. -/
theorem toWellFormed_canonicalField (value : Option Text) :
    toWellFormed (canonicalField value) = canonicalField (value.map toWellFormed) := by
  cases value with
  | none => decide
  | some value =>
      rw [canonicalField, toWellFormed_append (isPlain_of_all (by decide)),
        toWellFormed_append_cons (by decide) (by decide),
        toWellFormed_of_isPlain (isPlain_decimalText _), Option.map_some, canonicalField,
        length_toWellFormed]

theorem toWellFormed_canonicalDate (date : Option Instant) :
    toWellFormed (canonicalDate date) = canonicalDate date := by
  cases date with
  | none => decide
  | some date =>
      have hplain : IsPlain (instantText date.1) := by
        apply isPlain_of_all
        rw [List.all_eq_true]
        intro unit mem
        have hbounds := bounds_of_mem_instantText _ unit mem
        rw [decide_eq_true_eq]
        omega
      rw [canonicalDate, toWellFormed_append (isPlain_of_all (by decide)),
        toWellFormed_of_isPlain hplain]

/-- A separator parts what is repaired. -/
theorem toWellFormed_separated (text rest : Text) :
    toWellFormed (text ++ 0 :: rest) = toWellFormed text ++ 0 :: toWellFormed rest :=
  toWellFormed_append_cons (by decide) (by decide) text rest

/-! ## What the digests tell apart -/

section Identity

variable {δ : Type} {sha256 : List UInt8 → δ}

/-- Digests are the same of texts that are the same but for unpaired surrogates. -/
theorem sha256Hex_eq_iff (hsha : Function.Injective sha256) {text other : Text} :
    sha256Hex sha256 text = sha256Hex sha256 other ↔ toWellFormed text = toWellFormed other := by
  rw [sha256Hex, sha256Hex, hsha.eq_iff, utf8Bytes_eq_iff]

theorem rating_eq_of_stars {rating other : StarRating} (h : decimalText rating.stars =
    decimalText other.stars) : rating = other := by
  have hstars := decimalText_injective h
  cases rating
  cases other
  cases hstars
  rfl

theorem zero_not_mem_decimalText (n : ℕ) : (0 : UInt16) ∉ decimalText n :=
  not_mem_decimalText (.inl (by decide))

theorem toWellFormed_materialText {version : Text} (hversion : IsPlain version) (rating : StarRating)
    (text : Option Text) : toWellFormed (materialText version rating text) =
      materialText version rating (text.map toWellFormed) := by
  rw [materialText, toWellFormed_separated, toWellFormed_of_isPlain hversion, toWellFormed_separated,
    toWellFormed_of_isPlain (isPlain_decimalText _), toWellFormed_canonicalField, materialText]

/-- The digest of a rating and a text tells both, but for unpaired surrogates. -/
theorem materialDigest_eq_iff (hsha : Function.Injective sha256) {version : Text}
    (hversion : IsPlain version) {rating rating' : StarRating} {text text' : Option Text} :
    sha256Hex sha256 (materialText version rating text) =
        sha256Hex sha256 (materialText version rating' text') ↔
      rating = rating' ∧ text.map toWellFormed = text'.map toWellFormed := by
  rw [sha256Hex_eq_iff hsha, toWellFormed_materialText hversion, toWellFormed_materialText hversion]
  constructor
  · intro h
    have hbehind := (List.cons.inj (List.append_cancel_left h)).2
    obtain ⟨hrating, hfield⟩ := append_mark_inj (zero_not_mem_decimalText _)
      (zero_not_mem_decimalText _) hbehind
    exact ⟨rating_eq_of_stars hrating, selfDelimiting_canonicalField.injective hfield⟩
  · rintro ⟨rfl, htext⟩
    rw [htext]

/-- An observation with its texts repaired. -/
def SourceObservation.wellFormed (input : SourceObservation) : SourceObservation :=
  { input with
    text := input.text.map toWellFormed
    translatedText := input.translatedText.map toWellFormed
    languageCode := input.languageCode.map toWellFormed
    reviewerName := input.reviewerName.map toWellFormed
    reviewerProfilePhotoUrl := input.reviewerProfilePhotoUrl.map toWellFormed }

/-- What an observation's digest is taken of. -/
def observationText (input : SourceObservation) : Text :=
  asciiText "repkey-review-source-observation-v1" ++ 0 :: (decimalText input.rating.stars ++ 0 ::
    (canonicalField input.text ++ 0 :: (canonicalField input.translatedText ++ 0 ::
      (canonicalField input.languageCode ++ 0 :: (canonicalField input.reviewerName ++ 0 ::
        (canonicalField input.reviewerProfilePhotoUrl ++ 0 ::
          (canonicalDate (some input.reviewedAt) ++ 0 :: (canonicalDate input.sourceCreatedAt ++ 0 ::
            canonicalDate input.sourceUpdatedAt))))))))

theorem computeReviewSourceObservationDigest_eq (input : SourceObservation) :
    computeReviewSourceObservationDigest sha256 input = sha256Hex sha256 (observationText input) := by
  simp [computeReviewSourceObservationDigest, observationText, List.intercalate_cons_cons]

theorem toWellFormed_observationText (input : SourceObservation) :
    toWellFormed (observationText input) = observationText input.wellFormed := by
  simp only [observationText, toWellFormed_separated, toWellFormed_canonicalField,
    toWellFormed_canonicalDate, toWellFormed_of_isPlain (isPlain_decimalText _),
    toWellFormed_of_isPlain (isPlain_of_all (show ((asciiText "repkey-review-source-observation-v1").all
      fun unit ↦ unit.toNat < 128) = true by decide)), SourceObservation.wellFormed]

/-- The fields of an observation are told from one another, whatever they hold. -/
theorem observationText_injective : Function.Injective observationText := by
  intro a b h
  rw [observationText, observationText] at h
  replace h := (List.cons.inj (List.append_cancel_left h)).2
  obtain ⟨hrating, h⟩ := append_mark_inj (zero_not_mem_decimalText _) (zero_not_mem_decimalText _) h
  obtain ⟨htext, h⟩ := selfDelimiting_canonicalField h
  obtain ⟨htranslated, h⟩ := selfDelimiting_canonicalField (List.cons.inj h).2
  obtain ⟨hlanguage, h⟩ := selfDelimiting_canonicalField (List.cons.inj h).2
  obtain ⟨hname, h⟩ := selfDelimiting_canonicalField (List.cons.inj h).2
  obtain ⟨hphoto, h⟩ := selfDelimiting_canonicalField (List.cons.inj h).2
  obtain ⟨hreviewed, h⟩ := append_mark_inj (zero_not_mem_canonicalDate _)
    (zero_not_mem_canonicalDate _) (List.cons.inj h).2
  obtain ⟨hcreated, h⟩ := append_mark_inj (zero_not_mem_canonicalDate _)
    (zero_not_mem_canonicalDate _) h
  have hupdated := canonicalDate_injective h
  have hstars := rating_eq_of_stars hrating
  have hreviewedAt := Option.some.inj (canonicalDate_injective hreviewed)
  have hcreatedAt := canonicalDate_injective hcreated
  cases a
  cases b
  cases hstars
  cases htext
  cases htranslated
  cases hlanguage
  cases hname
  cases hphoto
  cases hreviewedAt
  cases hcreatedAt
  cases hupdated
  rfl

/-- An observation's digest tells every field, but for unpaired surrogates. -/
theorem observationDigest_eq_iff (hsha : Function.Injective sha256) {a b : SourceObservation} :
    computeReviewSourceObservationDigest sha256 a = computeReviewSourceObservationDigest sha256 b ↔
      a.wellFormed = b.wellFormed := by
  rw [computeReviewSourceObservationDigest_eq, computeReviewSourceObservationDigest_eq,
    sha256Hex_eq_iff hsha, toWellFormed_observationText, toWellFormed_observationText,
    observationText_injective.eq_iff]

/-! ## The content hash -/

variable {ν : Type} {numberText : ν → Text}

/-- `String` of a number: ASCII, and different for different numbers. -/
structure TellsNumbers (numberText : ν → Text) : Prop where
  injective : Function.Injective numberText
  ascii : ∀ x, ∀ unit ∈ numberText x, 0 < unit.toNat ∧ unit.toNat < 128

/-- The content with a missing value as an empty one. -/
def ReviewContent.filled (fields : ReviewContent ν) : ReviewContent ν where
  rating := fields.rating
  text := some (fields.text.getD [])
  reviewerName := some (fields.reviewerName.getD [])
  languageCode := some (fields.languageCode.getD [])

/-- The pieces that text, name and language fall into at NUL, end to end. -/
def ReviewContent.pieces (fields : ReviewContent ν) : List Text :=
  (toWellFormed (fields.text.getD [])).splitOn 0 ++
    ((toWellFormed (fields.reviewerName.getD [])).splitOn 0 ++
      (toWellFormed (fields.languageCode.getD [])).splitOn 0)

/-- What is behind the rating in the text that is hashed. -/
def ReviewContent.joined (fields : ReviewContent ν) : Text :=
  toWellFormed (fields.text.getD []) ++ 0 :: (toWellFormed (fields.reviewerName.getD []) ++ 0 ::
    toWellFormed (fields.languageCode.getD []))

theorem ReviewContent.splitOn_joined (fields : ReviewContent ν) :
    fields.joined.splitOn 0 = fields.pieces := by
  rw [joined, List.splitOn_append_cons_self, List.splitOn_append_cons_self, pieces]

theorem ReviewContent.joined_eq_iff {a b : ReviewContent ν} :
    a.joined = b.joined ↔ a.pieces = b.pieces := by
  rw [← splitOn_joined, ← splitOn_joined]
  constructor
  · intro h
    rw [h]
  · intro h
    rw [← @List.intercalate_splitOn _ a.joined _ _ 0, h, List.intercalate_splitOn]

/-- The content hash tells the rating and the pieces. -/
theorem contentHash_eq_iff (hsha : Function.Injective sha256) (hnumber : TellsNumbers numberText)
    {a b : ReviewContent ν} :
    computeReviewContentHash sha256 numberText a = computeReviewContentHash sha256 numberText b ↔
      a.rating = b.rating ∧ a.pieces = b.pieces := by
  have hplain (x : ν) : IsPlain (numberText x) := by
    apply isPlain_of_all
    rw [List.all_eq_true]
    exact fun unit mem ↦ decide_eq_true (hnumber.ascii x unit mem).2
  have hzero (x : ν) : (0 : UInt16) ∉ numberText x := by
    intro mem
    exact absurd (hnumber.ascii x 0 mem).1 (by decide)
  have htext (fields : ReviewContent ν) : toWellFormed ([0].intercalate [numberText fields.rating,
      fields.text.getD [], fields.reviewerName.getD [], fields.languageCode.getD []]) =
        numberText fields.rating ++ 0 :: fields.joined := by
    simp only [List.intercalate_cons_cons, List.intercalate_singleton, List.append_assoc,
      List.singleton_append, toWellFormed_separated, toWellFormed_of_isPlain (hplain _),
      ReviewContent.joined]
  rw [computeReviewContentHash, computeReviewContentHash, sha256Hex_eq_iff hsha, htext, htext,
    ← ReviewContent.joined_eq_iff]
  constructor
  · intro h
    obtain ⟨hrating, hjoined⟩ := append_mark_inj (hzero _) (hzero _) h
    exact ⟨hnumber.injective hrating, hjoined⟩
  · rintro ⟨hrating, hjoined⟩
    rw [hrating, hjoined]

end Identity

/-! ## The digests together -/

/-- When the digests of reviews identify content: exactly where the inputs do not differ in unpaired
surrogates only, nor, for the content hash, in where text and name end among the same pieces. -/
theorem review_digests_identify_content {δ ν : Type} (sha256 : List UInt8 → δ)
    (normalizeNfc : Text → Text) (numberText : ν → Text) (hsha : Function.Injective sha256)
    (hnfc : ComposesCanonically normalizeNfc) (hnumber : TellsNumbers numberText) :
    (∀ a b : SourceObservation,
      (computeReviewSourceObservationDigest sha256 a = computeReviewSourceObservationDigest sha256 b ↔
        a = b) ↔ (a.wellFormed = b.wellFormed → a = b)) ∧
      (∀ (rating rating' : StarRating) (text text' : Option Text),
        ((describeReviewMaterial sha256 normalizeNfc rating text).sourceDigest =
            (describeReviewMaterial sha256 normalizeNfc rating' text').sourceDigest ↔
          rating = rating' ∧ text = text') ↔
        (rating = rating' → text.map toWellFormed = text'.map toWellFormed → text = text')) ∧
      (∀ (rating rating' : StarRating) (text text' : Option Text),
        let material := describeReviewMaterial sha256 normalizeNfc rating text
        let material' := describeReviewMaterial sha256 normalizeNfc rating' text'
        (material.normalizedDigest = material'.normalizedDigest ↔
          rating = rating' ∧ material.normalizedText = material'.normalizedText) ↔
        (rating = rating' → material.normalizedText.map toWellFormed =
          material'.normalizedText.map toWellFormed →
            material.normalizedText = material'.normalizedText)) ∧
      (∀ text, normalizeOriginalReviewText normalizeNfc
          (normalizeOriginalReviewText normalizeNfc text) =
        normalizeOriginalReviewText normalizeNfc text) ∧
      (∀ text, normalizeOriginalReviewText normalizeNfc text = none ↔
        ∀ written ∈ text, ∀ unit ∈ written, isBlank unit = true) ∧
      (∀ before run run' after : Text, run ≠ [] → run' ≠ [] →
        (∀ unit ∈ run, isUnicodeWhiteSpace unit = true) →
        (∀ unit ∈ run', isUnicodeWhiteSpace unit = true) →
          normalizeOriginalReviewText normalizeNfc (some (before ++ run ++ after)) =
            normalizeOriginalReviewText normalizeNfc (some (before ++ run' ++ after))) ∧
      (∀ front text back : Text, (∀ unit ∈ front, isBlank unit = true) →
        (∀ unit ∈ back, isBlank unit = true) →
          normalizeOriginalReviewText normalizeNfc (some (front ++ text ++ back)) =
            normalizeOriginalReviewText normalizeNfc (some text)) ∧
      ∀ a b : ReviewContent ν,
        (computeReviewContentHash sha256 numberText a = computeReviewContentHash sha256 numberText b →
          a.filled = b.filled) ↔
        (a.rating = b.rating → a.pieces = b.pieces → a.filled = b.filled) := by
  have hmaterial {version : Text} (hversion : IsPlain version) (rating rating' : StarRating)
      (text text' : Option Text) :
      (sha256Hex sha256 (materialText version rating text) =
          sha256Hex sha256 (materialText version rating' text') ↔ rating = rating' ∧ text = text') ↔
        (rating = rating' → text.map toWellFormed = text'.map toWellFormed → text = text') := by
    rw [materialDigest_eq_iff hsha hversion]
    constructor
    · exact fun h hrating htext ↦ (h.1 ⟨hrating, htext⟩).2
    · intro h
      constructor
      · exact fun hsame ↦ ⟨hsame.1, h hsame.1 hsame.2⟩
      · rintro ⟨hrating, rfl⟩
        exact ⟨hrating, rfl⟩
  refine ⟨fun a b ↦ ?_, fun rating rating' text text' ↦ ?_, fun rating rating' text text' ↦ ?_,
    normalizeOriginalReviewText_idempotent hnfc, normalizeOriginalReviewText_eq_none_iff hnfc,
    fun before run run' after hne hne' hrun hrun' ↦
      normalizeOriginalReviewText_run hnfc hne hne' hrun hrun' before after,
    fun front text back hfront hback ↦ normalizeOriginalReviewText_framed hnfc hfront hback text,
    fun a b ↦ ?_⟩
  · rw [observationDigest_eq_iff hsha]
    constructor
    · exact fun h ↦ h.1
    · intro h
      constructor
      · exact h
      · rintro rfl
        rfl
  · exact hmaterial (isPlain_of_all (by decide)) rating rating' text text'
  · exact hmaterial (isPlain_of_all (by decide)) rating rating' _ _
  · rw [contentHash_eq_iff hsha hnumber, and_imp]

/-- Text that is composed already. -/
theorem composesCanonically_id : ComposesCanonically id where
  idempotent _ := rfl
  nil := rfl
  apart before unit after _ := by simp
  white unit h := ⟨unit, rfl, h⟩
  space := rfl
  byteOrderMark := rfl
  other _ h := h
  nonempty _ h := h

theorem tellsNumbers_decimalText : TellsNumbers decimalText where
  injective := decimalText_injective
  ascii _ unit mem := by
    have hdigit := digit_of_mem_decimalText mem
    omega

/-- A review of five stars with a text. -/
def goodObservation (text : Option Text) : SourceObservation where
  rating := ⟨5, by decide⟩
  text := text
  translatedText := none
  languageCode := some (asciiText "en")
  reviewerName := some (asciiText "Ann")
  reviewerProfilePhotoUrl := none
  reviewedAt := ⟨0, ⟨by decide, by decide⟩⟩
  sourceCreatedAt := none
  sourceUpdatedAt := none

/-- A review that lost its text has another digest. -/
theorem review_digests_identify_content_lost :
    computeReviewSourceObservationDigest id (goodObservation (some (asciiText "Good"))) ≠
      computeReviewSourceObservationDigest id (goodObservation none) := by
  have hboth := (review_digests_identify_content id id decimalText Function.injective_id
    composesCanonically_id tellsNumbers_decimalText).1 (goodObservation (some (asciiText "Good")))
    (goodObservation none)
  intro h
  have hne : (goodObservation (some (asciiText "Good"))).wellFormed ≠
      (goodObservation none).wellFormed :=
    fun hsame ↦ absurd (congrArg SourceObservation.text hsame) (by decide)
  have hsame := (hboth.2 fun hsame ↦ absurd hsame hne).1 h
  exact absurd (congrArg SourceObservation.text hsame) (by decide)

/-- A name that moves out of the text over a NUL leaves the content hash as it was, and so does an
unpaired surrogate that becomes the replacement character leave the observation's digest. -/
theorem contents_share_a_hash :
    (computeReviewContentHash id decimalText
        ⟨5, some (asciiText "Good" ++ 0 :: asciiText "Ann"), none, some (asciiText "en")⟩ =
      computeReviewContentHash id decimalText
        ⟨5, some (asciiText "Good"), some (asciiText "Ann" ++ [0]), some (asciiText "en")⟩) ∧
      asciiText "Good" ++ 0 :: asciiText "Ann" ≠ asciiText "Good" ∧
      computeReviewSourceObservationDigest id (goodObservation (some [0xd800])) =
        computeReviewSourceObservationDigest id (goodObservation (some [0xfffd])) := by
  refine ⟨?_, by decide, ?_⟩
  · exact (contentHash_eq_iff Function.injective_id tellsNumbers_decimalText).2 ⟨rfl, by decide⟩
  · exact (observationDigest_eq_iff Function.injective_id).2 rfl

end ReputationKey.Review
