import ReputationKey.Base.TextSearch
import ReputationKey.Shared.JsString
import Mathlib.Data.List.TakeWhile

/-!
# Google's comment envelopes

Google joins a guest's own words and its translation of them into one comment: the translation first
under a prefix, or the original first with the translation below a marker line. The parser takes the
first marker of the one and the last marker line of the other. Follows
`src/src/shared/google-review-comment.ts`.
-/

namespace ReputationKey.Review

open Base
open Shared (asciiText)

/-! ## The parser -/

/-- The envelope Google prepends; the original text follows the original marker. -/
def translatedPrefix : Text := asciiText "(Translated by Google)"

def originalMarker : Text := asciiText "(Original)"

/-- The rest after a line break: a line feed, after a carriage return or not. -/
def afterLineBreak : Text → Option Text
  | [] => none
  | unit :: rest =>
      if unit = 10 then some rest
      else if unit = 13 then
        match rest with
        | [] => none
        | next :: more => if next = 10 then some more else none
      else none

/-- Whether a code unit is a space or a tab. -/
def isBlankUnit (unit : UInt16) : Bool := unit == 32 || unit == 9

/-- The rest after a part a text starts with. -/
def afterPart (part text : Text) : Option Text :=
  if part.isPrefixOf text then some (text.drop part.length) else none

/-- The rest after a marker line at the head of a text: a blank line, the marker alone on the next,
and a line break that stays. No part of it can match in two ways, so nothing is tried again. -/
def afterTranslationLine (text : Text) : Option Text := do
  let rest ← afterLineBreak text
  let rest ← afterLineBreak (rest.dropWhile isBlankUnit)
  let rest ← afterPart translatedPrefix (rest.dropWhile isBlankUnit)
  let rest := rest.dropWhile isBlankUnit
  let _ ← afterLineBreak rest
  return rest

/-- The length of a marker line at the head of a text. -/
def translationLine (text : Text) : Option ℕ :=
  (afterTranslationLine text).map fun rest ↦ text.length - rest.length

/-- The two parts of a comment. -/
structure GoogleReviewComment where
  original : Option Text
  translation : Option Text
  deriving DecidableEq, Repr

/-- Surrounding whitespace is envelope framing, never content. -/
def trimmedOrNull (value : Text) : Option Text :=
  if 0 < (trim value).length then some (trim value) else none

/-- The original-first envelope splits on its last marker line. -/
def splitOriginalFirst (comment : Text) : GoogleReviewComment :=
  match (scan translationLine 0 0 comment).getLast? with
  | none => ⟨trimmedOrNull comment, none⟩
  | some (index, length) =>
      ⟨trimmedOrNull (comment.take index), trimmedOrNull (comment.drop (index + length))⟩

/-- The original text and the translation of a comment. -/
def parseGoogleReviewComment : Option Text → GoogleReviewComment
  | none => ⟨none, none⟩
  | some comment =>
      let body := comment.dropWhile isJsWhitespace
      if translatedPrefix.isPrefixOf body then
        let wrapped := body.drop translatedPrefix.length
        match firstIndexOf originalMarker wrapped with
        | none => ⟨none, trimmedOrNull wrapped⟩
        | some marker =>
            ⟨trimmedOrNull (wrapped.drop (marker + originalMarker.length)),
              trimmedOrNull (wrapped.take marker)⟩
      else splitOriginalFirst comment

/-- A reply as it is read back. -/
structure GoogleReplyComment where
  text : Option Text
  unreadable : Bool
  deriving DecidableEq, Repr

/-- The reply's own words; a reply without any is unreadable, never absent. -/
def parseGoogleReplyComment : Option Text → GoogleReplyComment
  | none => ⟨none, false⟩
  | some comment =>
      let original := (parseGoogleReviewComment (some comment)).original
      ⟨original, original.isNone⟩

/-! ## Trimmed texts -/

/-- A text with no whitespace at its ends, and something between them. -/
structure Trimmed (text : Text) : Prop where
  nonempty : text ≠ []
  same : trim text = text

theorem length_dropWhile_le (p : UInt16 → Bool) (text : Text) :
    (text.dropWhile p).length ≤ text.length := (List.dropWhile_suffix p).length_le

/-- A trimmed text starts with a character of its own. -/
theorem Trimmed.head {unit : UInt16} {rest : Text} (h : Trimmed (unit :: rest)) :
    isJsWhitespace unit = false := by
  by_contra hspace
  have hlength := congrArg List.length h.same
  have hfront := length_dropWhile_le isJsWhitespace rest
  have hback := length_dropWhile_le isJsWhitespace (rest.dropWhile isJsWhitespace).reverse
  rw [trim, List.dropWhile_cons_of_pos (by simpa using hspace), List.length_reverse,
    List.length_cons] at hlength
  rw [List.length_reverse] at hback
  omega

/-- And ends with one. -/
theorem Trimmed.last {front : Text} {unit : UInt16} (h : Trimmed (front ++ [unit])) :
    isJsWhitespace unit = false := by
  have hsame := congrArg List.reverse h.same
  rw [trim, List.reverse_reverse, List.reverse_append, List.reverse_singleton,
    List.singleton_append] at hsame
  have hhead := List.head?_dropWhile_not isJsWhitespace
    ((front ++ [unit]).dropWhile isJsWhitespace).reverse
  rwa [hsame] at hhead

/-- Framing around a trimmed text is trimmed off. -/
theorem Trimmed.trim_framed {text : Text} (h : Trimmed text) {front back : Text}
    (hfront : ∀ unit ∈ front, isJsWhitespace unit = true)
    (hback : ∀ unit ∈ back, isJsWhitespace unit = true) : trim (front ++ text ++ back) = text := by
  obtain ⟨unit, rest, rfl⟩ := List.exists_cons_of_ne_nil h.nonempty
  have hhead : ((unit :: rest) ++ back).dropWhile isJsWhitespace = (unit :: rest) ++ back := by
    rw [List.cons_append, List.dropWhile_cons_of_neg (by simp [h.head])]
  have hlast : (unit :: rest).reverse.dropWhile isJsWhitespace = (unit :: rest).reverse := by
    rcases List.eq_nil_or_concat (unit :: rest) with hnil | ⟨most, last, hsplit⟩
    · cases hnil
    · rw [List.concat_eq_append] at hsplit
      rw [hsplit] at h ⊢
      rw [List.reverse_append, List.reverse_singleton, List.singleton_append,
        List.dropWhile_cons_of_neg (by simp [h.last])]
  rw [trim, List.append_assoc, List.dropWhile_append_of_pos hfront, hhead, List.reverse_append,
    List.dropWhile_append_of_pos (by simpa using hback), hlast, List.reverse_reverse]

theorem Trimmed.trimmedOrNull_framed {text : Text} (h : Trimmed text) {front back : Text}
    (hfront : ∀ unit ∈ front, isJsWhitespace unit = true)
    (hback : ∀ unit ∈ back, isJsWhitespace unit = true) :
    trimmedOrNull (front ++ text ++ back) = some text := by
  rw [trimmedOrNull, h.trim_framed hfront hback, if_pos (List.length_pos_iff.2 h.nonempty)]

/-! ## The translation-first envelope -/

/-- A marker starts with its bracket, and none has a line break. -/
theorem translatedPrefix_eq : translatedPrefix = 40 :: translatedPrefix.tail := by decide

theorem originalMarker_eq : originalMarker = 40 :: originalMarker.tail := by decide

theorem lineFeed_not_mem_originalMarker : 10 ∉ originalMarker := by decide

/-- The translation under the prefix, then the original under its marker. -/
def translationFirst (original translation : Text) : Text :=
  translatedPrefix ++ ((32 :: translation ++ [10, 10]) ++ (originalMarker ++ 10 :: original))

/-- A comment that starts with a bracket has no framing before it. -/
theorem dropWhile_bracket (text : Text) :
    (40 :: text).dropWhile isJsWhitespace = 40 :: text := List.dropWhile_cons_of_neg (by decide)

/-- The first original marker below a translation without one is the envelope's. -/
theorem firstIndexOf_originalMarker {translation : Text}
    (absent : ¬ originalMarker <:+: translation) (original : Text) :
    firstIndexOf originalMarker
      ((32 :: translation ++ [10, 10]) ++ (originalMarker ++ 10 :: original)) =
      some (32 :: translation ++ [10, 10]).length := by
  have hbelow : firstIndexOf originalMarker (10 :: 10 :: (originalMarker ++ 10 :: original)) = some 2 := by
    rw [originalMarker_eq, firstIndexOf_cons_of_ne (by decide), firstIndexOf_cons_of_ne (by decide),
      firstIndexOf_of_prefix (List.prefix_append _ _)]
    rfl
  have hsplit : (32 :: translation ++ [10, 10]) ++ (originalMarker ++ 10 :: original) =
      32 :: (translation ++ 10 :: 10 :: (originalMarker ++ 10 :: original)) := by
    simp
  have hlength : (32 :: translation ++ [10, 10] : Text).length = 2 + translation.length + 1 := by
    simp
    omega
  rw [hsplit, hlength, originalMarker_eq, firstIndexOf_cons_of_ne (by decide), ← originalMarker_eq,
    firstIndexOf_append absent lineFeed_not_mem_originalMarker, hbelow]
  rfl

theorem parse_translationFirst {original translation : Text} (horiginal : Trimmed original)
    (htranslation : Trimmed translation) (absent : ¬ originalMarker <:+: translation) :
    parseGoogleReviewComment (some (translationFirst original translation)) =
      ⟨some original, some translation⟩ := by
  have hbody : (translationFirst original translation).dropWhile isJsWhitespace =
      translationFirst original translation := by
    rw [translationFirst, translatedPrefix_eq]
    exact dropWhile_bracket _
  have hprefix : translatedPrefix.isPrefixOf (translationFirst original translation) = true :=
    List.isPrefixOf_iff_prefix.2 (List.prefix_append _ _)
  have hwrapped : (translationFirst original translation).drop translatedPrefix.length =
      (32 :: translation ++ [10, 10]) ++ (originalMarker ++ 10 :: original) := List.drop_left
  have hleft : trimmedOrNull (32 :: translation ++ [10, 10]) = some translation :=
    @Trimmed.trimmedOrNull_framed _ htranslation [32] [10, 10] (List.all_eq_true.1 (by decide))
      (List.all_eq_true.1 (by decide))
  have hright : trimmedOrNull (10 :: original) = some original := by
    have hframed := @Trimmed.trimmedOrNull_framed _ horiginal [10] []
      (List.all_eq_true.1 (by decide)) (List.forall_mem_nil _)
    rwa [List.append_nil] at hframed
  simp only [parseGoogleReviewComment, hbody, hprefix, if_true, hwrapped,
    firstIndexOf_originalMarker absent, ← List.drop_drop, List.drop_left, List.take_left, hleft,
    hright]

/-! ## The original-first envelope -/

/-- The original, then the translation below a marker line. -/
def originalFirst (original translation : Text) : Text :=
  original ++ ([10, 10] ++ translatedPrefix ++ 10 :: translation)

/-- A text in which a marker line stands somewhere. -/
def hasMarkerLine (text : Text) : Bool := text.tails.any fun rest ↦ (translationLine rest).isSome

theorem translationLine_of_not_hasMarkerLine {text : Text} (h : hasMarkerLine text = false)
    (rest : Text) (suffix : rest <:+ text) : translationLine rest = none := by
  rw [hasMarkerLine, List.any_eq_false] at h
  simpa using h rest ((List.mem_tails rest text).2 suffix)

/-- What the rest after a line break leaves. -/
theorem afterLineBreak_spec {text rest : Text} (h : afterLineBreak text = some rest) :
    ∃ lineBreak, text = lineBreak ++ rest ∧ ∀ unit ∈ lineBreak, isJsWhitespace unit = true := by
  cases text with
  | nil => cases h
  | cons unit text =>
      simp only [afterLineBreak] at h
      split_ifs at h with hfeed hreturn
      · refine ⟨[10], ?_, List.all_eq_true.1 (by decide)⟩
        rw [hfeed, Option.some.inj h]
        rfl
      · cases text with
        | nil => cases h
        | cons next text =>
            simp only at h
            split_ifs at h with hnext
            refine ⟨[13, 10], ?_, List.all_eq_true.1 (by decide)⟩
            rw [hreturn, hnext, Option.some.inj h]
            rfl

theorem isJsWhitespace_of_isBlankUnit {unit : UInt16} (h : isBlankUnit unit = true) :
    isJsWhitespace unit = true := by
  rw [isBlankUnit, Bool.or_eq_true, beq_iff_eq, beq_iff_eq] at h
  rcases h with rfl | rfl <;> decide

/-- A marker line: whitespace, the marker, and blanks up to the line break that stays. -/
theorem afterTranslationLine_spec {text rest : Text} (h : afterTranslationLine text = some rest) :
    ∃ space blanks, text = space ++ (translatedPrefix ++ blanks) ++ rest ∧
      (∀ unit ∈ space, isJsWhitespace unit = true) ∧ ∀ unit ∈ blanks, isBlankUnit unit = true := by
  simp only [afterTranslationLine, Option.bind_eq_bind, Option.bind_eq_some_iff] at h
  obtain ⟨line, hline, second, hsecond, marked, hmarked, ended, -, hrest⟩ := h
  obtain ⟨lineBreak, rfl, hbreak⟩ := afterLineBreak_spec hline
  obtain ⟨lineBreak', hline', hbreak'⟩ := afterLineBreak_spec hsecond
  rw [afterPart] at hmarked
  split_ifs at hmarked with hprefix
  obtain ⟨after, hafter⟩ := List.isPrefixOf_iff_prefix.1 hprefix
  rw [← hafter, List.drop_left, Option.some_inj] at hmarked
  subst hmarked
  have hblank (text : Text) : text = text.takeWhile isBlankUnit ++ text.dropWhile isBlankUnit :=
    List.takeWhile_append_dropWhile.symm
  have hspace (text : Text) (unit : UInt16) (mem : unit ∈ text.takeWhile isBlankUnit) :
      isJsWhitespace unit = true := isJsWhitespace_of_isBlankUnit (List.mem_takeWhile_imp mem)
  refine ⟨lineBreak ++ line.takeWhile isBlankUnit ++ lineBreak' ++ second.takeWhile isBlankUnit,
    after.takeWhile isBlankUnit, ?_, ?_, fun unit ↦ List.mem_takeWhile_imp⟩
  · calc lineBreak ++ line
        = lineBreak ++ (line.takeWhile isBlankUnit ++ (lineBreak' ++ second)) := by
          rw [← hline', ← hblank]
      _ = lineBreak ++ (line.takeWhile isBlankUnit ++ (lineBreak' ++
            (second.takeWhile isBlankUnit ++ (translatedPrefix ++ after)))) := by
          rw [hafter, ← hblank]
      _ = lineBreak ++ (line.takeWhile isBlankUnit ++ (lineBreak' ++
            (second.takeWhile isBlankUnit ++ (translatedPrefix ++
              (after.takeWhile isBlankUnit ++ after.dropWhile isBlankUnit))))) := by
          rw [← hblank]
      _ = _ := by
          rw [← Option.some.inj hrest]
          simp only [List.append_assoc]
  · intro unit mem
    simp only [List.mem_append] at mem
    rcases mem with ((hmem | hmem) | hmem) | hmem
    · exact hbreak unit hmem
    · exact hspace _ unit hmem
    · exact hbreak' unit hmem
    · exact hspace _ unit hmem

/-- A marker line at a nonempty rest of a trimmed text does not reach out of it into a line break. -/
theorem translationLine_within {text : Text} (h : Trimmed text) {rest back : Text}
    (suffix : rest <:+ text) (nonempty : rest ≠ []) {length : ℕ}
    (found : translationLine (rest ++ 10 :: back) = some length) : length ≤ rest.length := by
  rw [translationLine, Option.map_eq_some_iff] at found
  obtain ⟨after, hafter, rfl⟩ := found
  obtain ⟨space, blanks, hsplit, hspace, hblanks⟩ := afterTranslationLine_spec hafter
  by_contra hlong
  -- the line break would stand in the whitespace of the match, and the text's last character too
  have hmatch : rest ++ [10] <+: space ++ (translatedPrefix ++ blanks) := by
    apply @List.prefix_of_prefix_length_le _ _ _ (rest ++ 10 :: back)
    · exact ⟨back, by simp⟩
    · exact ⟨after, hsplit.symm⟩
    · have hlength := congrArg List.length hsplit
      simp only [List.length_append, List.length_cons, List.length_nil] at *
      omega
  have habsent : 10 ∉ translatedPrefix ++ blanks := by
    rw [List.mem_append]
    rintro (hmem | hmem)
    · exact absurd hmem (by decide)
    · exact absurd (hblanks 10 hmem) (by decide)
  have hfront := prefix_of_append_singleton_prefix habsent hmatch
  obtain ⟨front, rfl⟩ := suffix
  rcases List.eq_nil_or_concat rest with rfl | ⟨most, last, rfl⟩
  · exact nonempty rfl
  · rw [List.concat_eq_append] at h hfront
    rw [← List.append_assoc] at h
    have hlast := h.last
    rw [hspace last (hfront.subset (by simp))] at hlast
    cases hlast

/-- The envelope's own marker line, and what comes below it. -/
theorem translationLine_envelope (translation : Text) :
    translationLine (([10, 10] ++ translatedPrefix) ++ 10 :: translation) =
      some ([10, 10] ++ translatedPrefix).length := by
  have hafter : afterTranslationLine (([10, 10] ++ translatedPrefix) ++ 10 :: translation) =
      some (10 :: translation) := by
    rfl
  rw [translationLine, hafter, Option.map_some, List.length_append, Nat.add_sub_cancel]

/-- Below the envelope's marker line there is no other when the translation has none. -/
theorem scan_translation {translation : Text} (h : Trimmed translation)
    (absent : hasMarkerLine translation = false) (index : ℕ) :
    scan translationLine index 0 (10 :: translation) = [] := by
  apply scan_eq_nil
  intro rest suffix
  rcases List.suffix_cons_iff.1 suffix with rfl | hsuffix
  · obtain ⟨unit, more, rfl⟩ := List.exists_cons_of_ne_nil h.nonempty
    have hhead := h.head
    have hblank : isBlankUnit unit = false := by
      by_contra hblank
      rw [isJsWhitespace_of_isBlankUnit (by simpa using hblank)] at hhead
      cases hhead
    have hfeed : unit ≠ 10 := by
      rintro rfl
      cases hhead
    have hreturn : unit ≠ 13 := by
      rintro rfl
      cases hhead
    simp [translationLine, afterTranslationLine, afterLineBreak, hblank, hfeed, hreturn]
  · exact translationLine_of_not_hasMarkerLine absent rest hsuffix

/-- An original that does not start with the prefix starts no prefix with the line break below. -/
theorem not_translatedPrefix_of_original {original : Text} (h : Trimmed original)
    (absent : ¬ translatedPrefix <+: original) (below : Text) :
    translatedPrefix.isPrefixOf ((original ++ 10 :: below).dropWhile isJsWhitespace) = false := by
  have hbody : (original ++ 10 :: below).dropWhile isJsWhitespace = original ++ 10 :: below := by
    obtain ⟨unit, rest, rfl⟩ := List.exists_cons_of_ne_nil h.nonempty
    exact List.dropWhile_cons_of_neg (by simp [h.head])
  rw [hbody, ← Bool.not_eq_true, List.isPrefixOf_iff_prefix]
  exact fun hprefix ↦ absent (prefix_of_prefix_append_cons (by decide) hprefix)

theorem parse_originalFirst {original translation : Text} (horiginal : Trimmed original)
    (htranslation : Trimmed translation) (absent : hasMarkerLine translation = false)
    (unprefixed : ¬ translatedPrefix <+: original) :
    parseGoogleReviewComment (some (originalFirst original translation)) =
      ⟨some original, some translation⟩ := by
  have hcomment : originalFirst original translation =
      original ++ 10 :: (10 :: translatedPrefix ++ 10 :: translation) := rfl
  have hprefix := not_translatedPrefix_of_original horiginal unprefixed
    (10 :: translatedPrefix ++ 10 :: translation)
  -- the matches in the original end inside it, so the scan reaches the envelope's own marker line
  obtain ⟨found, hfound⟩ := @scan_append _ translationLine original
    (10 :: (10 :: translatedPrefix ++ 10 :: translation))
    (fun rest suffix nonempty length ↦ translationLine_within horiginal suffix nonempty) 0 0
    (Nat.zero_le _)
  have hmarker := scan_of_match (0 + original.length)
    (show 10 :: (10 :: translatedPrefix ++ 10 :: translation) =
      ([10, 10] ++ translatedPrefix) ++ 10 :: translation from rfl) (by simp)
    (translationLine_envelope translation)
  rw [scan_translation htranslation absent] at hmarker
  have hlast : (scan translationLine 0 0 (originalFirst original translation)).getLast? =
      some (original.length, ([10, 10] ++ translatedPrefix).length) := by
    rw [hcomment, hfound, hmarker, List.getLast?_append, zero_add]
    rfl
  have hleft : trimmedOrNull original = some original := by
    have hframed := @Trimmed.trimmedOrNull_framed _ horiginal [] [] (List.forall_mem_nil _)
      (List.forall_mem_nil _)
    rwa [List.append_nil] at hframed
  have hright : trimmedOrNull (10 :: translation) = some translation := by
    have hframed := @Trimmed.trimmedOrNull_framed _ htranslation [10] []
      (List.all_eq_true.1 (by decide)) (List.forall_mem_nil _)
    rwa [List.append_nil] at hframed
  rw [← hcomment] at hprefix
  simp only [parseGoogleReviewComment, hprefix, Bool.false_eq_true, if_false, splitOriginalFirst,
    hlast]
  rw [originalFirst, List.take_left, hleft, ← List.drop_drop, List.drop_left, List.drop_left, hright]

/-! ## Both envelopes -/

/-- A comment in neither envelope. -/
structure Unwrapped (comment : Text) : Prop where
  unprefixed : ¬ translatedPrefix <+: comment.dropWhile isJsWhitespace
  noMarkerLine : hasMarkerLine comment = false

theorem parse_unwrapped {comment : Text} (h : Unwrapped comment) :
    parseGoogleReviewComment (some comment) = ⟨trimmedOrNull comment, none⟩ := by
  have hprefix : translatedPrefix.isPrefixOf (comment.dropWhile isJsWhitespace) = false := by
    rw [← Bool.not_eq_true, List.isPrefixOf_iff_prefix]
    exact h.unprefixed
  have hscan : scan translationLine 0 0 comment = [] :=
    scan_eq_nil (translationLine_of_not_hasMarkerLine h.noMarkerLine) 0
  simp only [parseGoogleReviewComment, hprefix, Bool.false_eq_true, if_false, splitOriginalFirst,
    hscan, List.getLast?_nil]

/-- A translation-first comment gives back its parts when the translation holds no original marker,
an original-first one when the translation holds no marker line and the original does not start with
the prefix; so the two shapes of one review are read alike. A comment in neither envelope is read as
itself, trimmed. -/
theorem comment_envelopes_round_trip :
    (∀ original translation, Trimmed original → Trimmed translation →
      ¬ originalMarker <:+: translation →
      parseGoogleReviewComment (some (translationFirst original translation)) =
        ⟨some original, some translation⟩) ∧
    (∀ original translation, Trimmed original → Trimmed translation →
      hasMarkerLine translation = false → ¬ translatedPrefix <+: original →
      parseGoogleReviewComment (some (originalFirst original translation)) =
        ⟨some original, some translation⟩) ∧
    (∀ original translation, Trimmed original → Trimmed translation →
      ¬ originalMarker <:+: translation → hasMarkerLine translation = false →
      ¬ translatedPrefix <+: original →
      parseGoogleReviewComment (some (translationFirst original translation)) =
        parseGoogleReviewComment (some (originalFirst original translation)) ∧
      parseGoogleReplyComment (some (originalFirst original translation)) = ⟨some original, false⟩) ∧
    ∀ comment, Unwrapped comment →
      parseGoogleReviewComment (some comment) = ⟨trimmedOrNull comment, none⟩ := by
  refine ⟨?_, ?_, ?_, ?_⟩
  · intro original translation horiginal htranslation absent
    exact parse_translationFirst horiginal htranslation absent
  · intro original translation horiginal htranslation absent unprefixed
    exact parse_originalFirst horiginal htranslation absent unprefixed
  · intro original translation horiginal htranslation absent absent' unprefixed
    have hparsed := parse_originalFirst horiginal htranslation absent' unprefixed
    refine ⟨(parse_translationFirst horiginal htranslation absent).trans hparsed.symm, ?_⟩
    simp only [parseGoogleReplyComment, hparsed, Option.isNone_some]
  · intro comment h
    exact parse_unwrapped h

/-- A Bulgarian review of two letters, after one that quotes both markers. -/
theorem comment_envelopes_round_trip_quoted :
    parseGoogleReviewComment (some (translationFirst (asciiText "a (Original) b") [1054, 1082])) =
      ⟨some (asciiText "a (Original) b"), some [1054, 1082]⟩ ∧
    parseGoogleReviewComment (some (originalFirst
        (asciiText "a\n\n(Translated by Google)\nb") [1054, 1082])) =
      ⟨some (asciiText "a\n\n(Translated by Google)\nb"), some [1054, 1082]⟩ :=
  ⟨comment_envelopes_round_trip.1 _ _ ⟨by decide, by decide⟩ ⟨by decide, by decide⟩ (by decide),
    comment_envelopes_round_trip.2.1 _ _ ⟨by decide, by decide⟩ ⟨by decide, by decide⟩ (by decide)
      (by decide)⟩

end ReputationKey.Review
