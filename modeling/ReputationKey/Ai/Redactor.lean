import ReputationKey.Ai.MarkerCandidates
import ReputationKey.Base.MarkedText
import ReputationKey.Base.TextSearch
import ReputationKey.Shared.JsString

/-!
# Redaction of a review's text

A review is redacted as one text, or cut into sentences that keep their numbers: every interval the scan
resolved is written as its placeholder. The detectors, the Unicode tables and the digests of the profiles
are parameters. Follows `src/src/shared/ai-deterministic-redactor.ts` and the scan of
`src/src/shared/ai-structured-marker-detectors.ts`.
-/

namespace ReputationKey.Ai

open ReputationKey.Base
open ReputationKey.Review (Text isHighSurrogate isLowSurrogate)
open ReputationKey.Shared (asciiText)

/-! ## The scan -/

/-- What the scan takes from elsewhere: its profile's digest, normalization and case folding of Unicode,
the countries of the phone number library, and the detectors. -/
structure MarkerScanner where
  detectorDigest : String
  redactionDigest : String
  normalizeNfkc : Text → Text
  foldAiMarkerText : Text → Text
  isCountry : String → Bool
  detect : Text → String → Except AiStructuredMarkerBlockReason (List Candidate)

def aiStructuredMarkerDetectorsVersion : String := "structured-marker-detectors-v1"

def aiRedactionProfileVersion : String := "gbp-review-global-v1"

/-- Whether every surrogate of a text belongs to a pair. -/
def isScalarString : Text → Bool
  | [] => true
  | [unit] => !isHighSurrogate unit && !isLowSurrogate unit
  | unit :: next :: rest =>
      if isHighSurrogate unit && isLowSurrogate next then isScalarString rest
      else !isHighSurrogate unit && !isLowSurrogate unit && isScalarString (next :: rest)

/-- The redacted intervals of a text, or why it is blocked. -/
def scanStructuredMarkerCandidates (scanner : MarkerScanner) (text : Text)
    (countryCode expectedProfileVersion expectedProfileDigest : String) :
    Except AiStructuredMarkerBlockReason (List AiStructuredMarkerInterval) :=
  if expectedProfileVersion ≠ aiStructuredMarkerDetectorsVersion ∨
      expectedProfileDigest ≠ scanner.detectorDigest then .error .profile_mismatch
  else if !isScalarString text then .error .invalid_unicode
  else if text ≠ scanner.normalizeNfkc text then .error .noncanonical_unicode
  else if maxAiStructuredMarkerInputScalars < countScalars text then .error .input_too_large
  else if !scanner.isCountry countryCode then .error .invalid_country
  else do
    let candidates ← scanner.detect text countryCode
    resolveCandidates text candidates

/-! ## Source decisions -/

/-- Why a redaction is refused. -/
inductive AiRedactionBlockReason
  | marker (reason : AiStructuredMarkerBlockReason)
  | profile_mismatch
  | forbidden_source_placeholder
  | redaction_ratio_exceeded
  deriving DecidableEq, Repr

/-- How many markers of each kind a redacted text has. -/
structure AiRedactionCounts where
  person : ℕ
  detected : AiDetectedPlaceholder → ℕ

/-- The profiles a caller expects, and the country of the review. -/
structure RedactionExpectation where
  countryCode : String
  expectedRedactionProfileVersion : String
  expectedRedactionProfileDigest : String
  expectedDetectorProfileVersion : String
  expectedDetectorProfileDigest : String
  deriving DecidableEq, Repr

/-- The text of a placeholder. -/
def placeholderText : AiDetectedPlaceholder → Text
  | .contact => asciiText "[CONTACT]"
  | .address => asciiText "[ADDRESS]"
  | .financial => asciiText "[FINANCIAL]"
  | .identifier => asciiText "[IDENTIFIER]"
  | .secret => asciiText "[SECRET]"

/-- The placeholder of the persons the source names. -/
def personPlaceholder : Text := asciiText "[PERSON]"

def aiClosedPlaceholders : List Text :=
  personPlaceholder :: [AiDetectedPlaceholder.contact, .address, .financial, .identifier, .secret].map
    placeholderText

/-- The match of a fixed text. -/
def literalMatch (part : Text) (text : Text) : Option ℕ :=
  if part.isPrefixOf text then some part.length else none

/-- How often a text names a person by the placeholder. -/
def countExactPersonPlaceholders (text : Text) : ℕ :=
  (scan (literalMatch personPlaceholder) 0 0 text).length

/-- A text without the occurrences of a part, the elements of an occurrence being skipped. -/
def withoutAll (part : Text) (skip : ℕ) : Text → Text
  | [] => []
  | unit :: rest =>
      match skip with
      | skip + 1 => withoutAll part skip rest
      | 0 =>
          if part.isPrefixOf (unit :: rest) then withoutAll part (part.length - 1) rest
          else unit :: withoutAll part 0 rest

/-- Whether the source already has a placeholder of its own, the persons' apart. -/
def hasForbiddenSourcePlaceholder (scanner : MarkerScanner) (text : Text) : Bool :=
  aiClosedPlaceholders.any fun placeholder ↦
    (firstIndexOf (scanner.foldAiMarkerText placeholder)
      (scanner.foldAiMarkerText (withoutAll personPlaceholder 0 text))).isSome

/-- Whether a caller expects other profiles. -/
def profileMismatch (scanner : MarkerScanner) (expected : RedactionExpectation) : Bool :=
  expected.expectedRedactionProfileVersion != aiRedactionProfileVersion ||
    expected.expectedRedactionProfileDigest != scanner.redactionDigest ||
    expected.expectedDetectorProfileVersion != aiStructuredMarkerDetectorsVersion ||
    expected.expectedDetectorProfileDigest != scanner.detectorDigest

/-- The intervals a text is redacted by, within the limits of a redaction, with their counts. -/
def redactionIntervals (scanner : MarkerScanner) (text : Text) (expected : RedactionExpectation) :
    Except AiRedactionBlockReason (List AiStructuredMarkerInterval × AiRedactionCounts) :=
  if profileMismatch scanner expected then .error .profile_mismatch
  else if hasForbiddenSourcePlaceholder scanner text then .error .forbidden_source_placeholder
  else
    match scanStructuredMarkerCandidates scanner text expected.countryCode
        expected.expectedDetectorProfileVersion expected.expectedDetectorProfileDigest with
    | .error reason => .error (.marker reason)
    | .ok intervals =>
        let personCount := countExactPersonPlaceholders text
        let redactedScalarCount :=
          personCount * personPlaceholder.length + (intervals.map (·.scalarLength)).sum
        if 64 < intervals.length + personCount then .error (.marker .candidate_limit_exceeded)
        else if 0 < countScalars text ∧ countScalars text * 3 < redactedScalarCount * 5 then
          .error .redaction_ratio_exceeded
        else .ok (intervals, ⟨personCount, fun placeholder ↦
          intervals.countP fun interval ↦ interval.placeholder == placeholder⟩)

/-- A text from a cursor on, each interval replaced by its placeholder. -/
def renderText (text : Text) : List AiStructuredMarkerInterval → ℕ → Text
  | [], cursor => text.drop cursor
  | interval :: intervals, cursor =>
      slice text cursor interval.startUtf16 ++ placeholderText interval.placeholder ++
        renderText text intervals interval.endUtf16

/-- A sentence of a joined text from a cursor on, each interval that touches it replaced. -/
def renderSentence (joined : Text) (sentenceStart sentenceEnd : ℕ) :
    List AiStructuredMarkerInterval → ℕ → Text
  | [], cursor => slice joined cursor sentenceEnd
  | interval :: intervals, cursor =>
      if interval.endUtf16 ≤ sentenceStart then
        renderSentence joined sentenceStart sentenceEnd intervals cursor
      else if sentenceEnd ≤ interval.startUtf16 then slice joined cursor sentenceEnd
      else
        slice joined cursor (max interval.startUtf16 sentenceStart) ++
          placeholderText interval.placeholder ++
          renderSentence joined sentenceStart sentenceEnd intervals (min interval.endUtf16 sentenceEnd)

/-- The sentences of a joined text from the one that starts at a position on. -/
def renderSentences (joined : Text) (intervals : List AiStructuredMarkerInterval) :
    List Text → ℕ → List Text
  | [], _ => []
  | sentence :: sentences, sentenceStart =>
      renderSentence joined sentenceStart (sentenceStart + sentence.length) intervals sentenceStart ::
        renderSentences joined intervals sentences (sentenceStart + sentence.length + 1)

/-- Sentences with one space between each two. -/
def joinSentences (sentences : List Text) : Text := (asciiText " ").intercalate sentences

def redactAiReviewText (scanner : MarkerScanner) (text : Text) (expected : RedactionExpectation) :
    Except AiRedactionBlockReason (Text × AiRedactionCounts) := do
  let (intervals, counts) ← redactionIntervals scanner text expected
  .ok (renderText text intervals 0, counts)

def redactAiReviewSentences (scanner : MarkerScanner) (sentences : List Text)
    (expected : RedactionExpectation) :
    Except AiRedactionBlockReason (List Text × AiRedactionCounts) := do
  let (intervals, counts) ← redactionIntervals scanner (joinSentences sentences) expected
  .ok (renderSentences (joinSentences sentences) intervals sentences 0, counts)

/-! ## What a rendering is -/

/-- Where the sentences of a joined text start; before each start but the first stands a space. -/
def sentenceStarts : List Text → ℕ → List ℕ
  | [], _ => []
  | sentence :: sentences, start => start :: sentenceStarts sentences (start + sentence.length + 1)

/-- What stands at a position of a span in joined sentences: its placeholder where it starts in a
sentence and at the start of each sentence that it goes on in, and the space between two sentences. -/
def markAt (starts : List ℕ) (span : Candidate) (p : ℕ) : Text :=
  (if span.start < p ∧ p ∈ starts ∨ p = span.start ∧ p + 1 ∉ starts then placeholderText span.label
    else []) ++ if p + 1 ∈ starts then asciiText " " else []

/-- What stands for a span in joined sentences. -/
def markAcross (starts : List ℕ) (span : Candidate) : Text :=
  (List.range' span.start (span.stop - span.start)).flatMap (markAt starts span)

/-- A piece of joined sentences as it is written. -/
def writeAcross (text : Text) (starts : List ℕ) : Piece AiDetectedPlaceholder → Text
  | .kept p => text[p]?.toList
  | .marker span => markAcross starts span

/-- The rendering of a part of a text: the characters outside the spans, each once and in order, and one
placeholder for each span that overlaps the part, where it enters it. -/
structure IsRendering (text : Text) (spans : List Candidate) (start stop : ℕ) (rendered : Text)
    (parts : List (Piece AiDetectedPlaceholder)) : Prop where
  written : rendered = parts.flatMap (Piece.write text placeholderText)
  kept : parts.filterMap Piece.kept? =
    (List.range' start (stop - start)).filter fun p ↦ decide (∀ span ∈ spans, ¬ span.Covers p)
  marked : parts.filterMap Piece.marker? = spans.filter fun span ↦ decide (span.Overlaps start stop)
  ordered : parts.Pairwise fun a b ↦ a.position start ≤ b.position start

/-- The rendering of sentences: one text for each, the rendering of its own part of the joined text. -/
def RendersEach (text : Text) (spans : List Candidate) (sentences rendered : List Text)
    (starts : List ℕ) : Prop :=
  rendered.length = sentences.length ∧ ∀ (k : ℕ) (sentence : Text),
    sentences[k]? = some sentence →
    ∃ (start : ℕ) (output : Text) (parts : List (Piece AiDetectedPlaceholder)),
      starts[k]? = some start ∧ rendered[k]? = some output ∧
      slice text start (start + sentence.length) = sentence ∧
      IsRendering text spans start (start + sentence.length) output parts

/-! ## Renderings -/

section Renderings

variable {text : Text} {intervals : List AiStructuredMarkerInterval} {start stop cursor : ℕ}

/-- A sentence is rendered piece by piece. -/
theorem renderSentence_eq (text : Text) (start stop : ℕ) (intervals : List AiStructuredMarkerInterval)
    (cursor : ℕ) : renderSentence text start stop intervals cursor =
      (piecesFrom start stop (intervals.map (·.span)) cursor).flatMap
        (Piece.write text placeholderText) := by
  induction intervals generalizing cursor with
  | nil => exact (write_keptFrom text placeholderText cursor stop).symm
  | cons interval intervals ih =>
      simp only [renderSentence, List.map_cons, piecesFrom, AiStructuredMarkerInterval.span]
      split_ifs with hskip hbreak
      · exact ih cursor
      · exact (write_keptFrom text placeholderText cursor stop).symm
      · rw [List.flatMap_append, List.flatMap_cons, write_keptFrom, ih, List.append_assoc]
        rfl

/-- A whole text is rendered as its one part. -/
theorem renderText_eq (nonempty : ∀ interval ∈ intervals, 0 < interval.endUtf16)
    (inside : ∀ interval ∈ intervals, interval.startUtf16 < text.length ∧
      interval.endUtf16 ≤ text.length) (cursor : ℕ) :
    renderText text intervals cursor =
      (piecesFrom 0 text.length (intervals.map (·.span)) cursor).flatMap
        (Piece.write text placeholderText) := by
  induction intervals generalizing cursor with
  | nil =>
      rw [renderText, List.map_nil, piecesFrom, write_keptFrom, List.take_of_length_le]
      rw [List.length_drop]
  | cons interval intervals ih =>
      have hpositive := nonempty interval List.mem_cons_self
      obtain ⟨hstart, hend⟩ := inside interval List.mem_cons_self
      have hmin : min interval.endUtf16 text.length = interval.endUtf16 := Nat.min_eq_left hend
      simp only [renderText, List.map_cons, piecesFrom, AiStructuredMarkerInterval.span]
      rw [if_neg (by omega), if_neg (by omega), hmin, Nat.max_zero, List.flatMap_append,
        List.flatMap_cons, write_keptFrom, List.append_assoc,
        ih (fun i mem ↦ nonempty i (List.mem_cons_of_mem _ mem))
          (fun i mem ↦ inside i (List.mem_cons_of_mem _ mem))]
      rfl

/-- The rendering of a sentence is a rendering of its part. -/
theorem isRendering_sentence (separated : Separated (intervals.map (·.span))) (le : start ≤ stop) :
    IsRendering text (intervals.map (·.span)) start stop (renderSentence text start stop intervals start)
      (pieces (intervals.map (·.span)) start stop) where
  written := renderSentence_eq text start stop intervals start
  kept := keptPositions (cursorBefore_start separated le)
  marked := markedSpans (cursorBefore_start separated le)
  ordered := (piecesFrom_ordered (cursorBefore_start separated le)).2

/-! ## Joined sentences -/

theorem joinSentences_cons_cons (sentence next : Text) (sentences : List Text) :
    joinSentences (sentence :: next :: sentences) =
      sentence ++ asciiText " " ++ joinSentences (next :: sentences) := by
  rw [joinSentences, List.intercalate_cons_cons, ← joinSentences, List.append_assoc]

theorem joinSentences_singleton (sentence : Text) : joinSentences [sentence] = sentence :=
  List.intercalate_singleton

/-- A text starts with its first sentence. -/
theorem joinSentences_prefix (sentence : Text) (sentences : List Text) :
    sentence <+: joinSentences (sentence :: sentences) := by
  cases sentences with
  | nil => rw [joinSentences_singleton]
  | cons next sentences =>
      rw [joinSentences_cons_cons, List.append_assoc]
      exact List.prefix_append _ _

/-- Every sentence is rendered on its own part of the joined text. -/
theorem rendersEach_from (separated : Separated (intervals.map (·.span))) (sentences : List Text)
    (front : Text) (joined : text = front ++ joinSentences sentences) :
    RendersEach text (intervals.map (·.span)) sentences
      (renderSentences text intervals sentences front.length) (sentenceStarts sentences front.length) := by
  induction sentences generalizing front with
  | nil => exact ⟨rfl, nofun⟩
  | cons sentence sentences ih =>
      have hfirst : slice text front.length (front.length + sentence.length) = sentence := by
        obtain ⟨back, hback⟩ := joinSentences_prefix sentence sentences
        rw [joined, ← hback, slice, List.drop_left, Nat.add_sub_cancel_left, List.take_left]
      have hrest : RendersEach text (intervals.map (·.span)) sentences
          (renderSentences text intervals sentences (front.length + sentence.length + 1))
          (sentenceStarts sentences (front.length + sentence.length + 1)) := by
        cases sentences with
        | nil => exact ⟨rfl, nofun⟩
        | cons next sentences =>
            have hlength : front.length + sentence.length + 1 =
                (front ++ sentence ++ asciiText " ").length := by
              rw [List.length_append, List.length_append]
              rfl
            rw [hlength]
            apply ih
            rw [joined, joinSentences_cons_cons]
            simp only [List.append_assoc]
      refine ⟨congrArg (· + 1) hrest.1, ?_⟩
      intro k found hfound
      cases k with
      | zero =>
          cases hfound
          exact ⟨front.length, _, _, rfl, rfl, hfirst, isRendering_sentence separated (Nat.le_add_right _ _)⟩
      | succ k => exact hrest.2 k found hfound

/-- The start of a sentence comes after those before it. -/
theorem le_of_mem_sentenceStarts {sentences : List Text} {p : ℕ}
    (mem : p ∈ sentenceStarts sentences start) : start ≤ p := by
  induction sentences generalizing start with
  | nil => cases mem
  | cons sentence sentences ih =>
      rcases List.mem_cons.1 mem with rfl | mem
      · exact le_rfl
      · have := ih mem
        omega

/-- What stands at a position of joined sentences. -/
def joinedAt (text : Text) (spans : List Candidate) (starts : List ℕ) (p : ℕ) : Text :=
  match spans.find? fun span ↦ decide (span.Covers p) with
  | none => text[p]?.toList
  | some span => markAt starts span p

section Joined

variable {spans : List Candidate} {starts : List ℕ} {p : ℕ}

/-- At a position inside a sentence stands what the sentence has there. -/
theorem joinedAt_eq_writeAt (le : start ≤ p) (inside : p + 1 ∉ starts) (first : p ∈ starts ↔ p = start) :
    joinedAt text spans starts p = writeAt text placeholderText spans start p := by
  cases hfind : spans.find? fun span ↦ decide (span.Covers p) with
  | none => simp only [joinedAt, writeAt, hfind]
  | some span =>
      have hcovers := List.find?_some hfind
      rw [decide_eq_true_eq] at hcovers
      have hcond : (span.start < p ∧ p ∈ starts ∨ p = span.start ∧ p + 1 ∉ starts) ↔
          p = max span.start start := by
        have := hcovers.1
        rw [first]
        simp only [inside, not_false_eq_true, and_true]
        omega
      simp only [joinedAt, writeAt, hfind, markAt, if_neg inside, List.append_nil, hcond]

/-- At a space after a sentence that is not empty stands the space. -/
theorem joinedAt_space (space : text[p]? = some 32) (next : p + 1 ∈ starts) (none : p ∉ starts) :
    joinedAt text spans starts p = asciiText " " := by
  unfold joinedAt
  split
  · rw [space]
    rfl
  · rw [markAt, if_pos next, if_neg, List.nil_append]
    rintro (⟨-, h⟩ | ⟨-, h⟩)
    · exact none h
    · exact h next

/-- At an empty sentence stands the placeholder of a span around it, and the space after it. -/
theorem joinedAt_empty (space : text[p]? = some 32) (next : p + 1 ∈ starts) (first : p ∈ starts)
    (separated : Separated spans) : joinedAt text spans starts p =
      (piecesFrom p p spans p).flatMap (Piece.write text placeholderText) ++ asciiText " " := by
  rw [write_empty_part separated]
  cases hfind : spans.find? fun span ↦ decide (span.Covers p) with
  | none =>
      simp only [joinedAt, hfind, space]
      rfl
  | some span => simp [joinedAt, hfind, markAt, next, first]

/-- A sentence and the space after it, position by position. -/
theorem renderSentence_space (separated : Separated (intervals.map (·.span))) (le : start ≤ stop)
    (space : text[stop]? = some 32) (next : stop + 1 ∈ starts)
    (first : ∀ p, start ≤ p → p ≤ stop → (p ∈ starts ↔ p = start)) :
    renderSentence text start stop intervals start ++ asciiText " " =
      (List.range' start (stop + 1 - start)).flatMap (joinedAt text (intervals.map (·.span)) starts) := by
  rw [renderSentence_eq]
  rcases le.eq_or_lt with rfl | hlt
  · have hone : start + 1 - start = 1 := by omega
    rw [hone, List.range'_one, List.flatMap_singleton,
      joinedAt_empty space next ((first start le_rfl le_rfl).2 rfl) separated]
  · have hlast : List.range' stop (stop + 1 - stop) = [stop] := by
      have hone : stop + 1 - stop = 1 := by omega
      rw [hone, List.range'_one]
    have hnot : stop ∉ starts := by
      rw [first stop le le_rfl]
      omega
    rw [write_part (cursorBefore_start separated le) hlt, range'_split le (Nat.le_succ stop),
      List.flatMap_append, hlast, List.flatMap_singleton, joinedAt_space space next hnot]
    congr 1
    apply List.flatMap_congr
    intro p mem
    obtain ⟨hlow, hhigh⟩ := mem_range'_sub.1 mem
    apply (joinedAt_eq_writeAt hlow _ (first p hlow hhigh.le)).symm
    rw [first (p + 1) (by omega) (by omega)]
    omega

/-- The sentences of a joined text, rendered and joined, position by position. -/
theorem joinSentences_from (separated : Separated (intervals.map (·.span)))
    (inside : ∀ span ∈ intervals.map (·.span), span.stop ≤ text.length) (sentences : List Text)
    (front : Text) (before : List ℕ) (joined : text = front ++ joinSentences sentences)
    (hstarts : starts = before ++ sentenceStarts sentences front.length)
    (hbefore : ∀ q ∈ before, q < front.length) :
    joinSentences (renderSentences text intervals sentences front.length) =
      (List.range' front.length (text.length - front.length)).flatMap
        (joinedAt text (intervals.map (·.span)) starts) := by
  induction sentences generalizing front before with
  | nil =>
      have hlength : text.length - front.length = 0 := by
        rw [joined]
        simp [joinSentences]
      rw [hlength]
      rfl
  | cons sentence sentences ih =>
      have hfirst (p : ℕ) (low : front.length ≤ p) (high : p ≤ front.length + sentence.length) :
          p ∈ starts ↔ p = front.length := by
        rw [hstarts, sentenceStarts, List.mem_append, List.mem_cons]
        constructor
        · rintro (h | h | h)
          · exact absurd (hbefore p h) (not_lt.2 low)
          · exact h
          · have := le_of_mem_sentenceStarts h
            omega
        · exact fun h ↦ Or.inr (Or.inl h)
      have hfront : front.length ∈ starts := (hfirst _ le_rfl (Nat.le_add_right _ _)).2 rfl
      cases sentences with
      | nil =>
          have hlength : text.length = front.length + sentence.length := by
            rw [joined, joinSentences_singleton, List.length_append]
          rw [renderSentences, renderSentences, joinSentences_singleton, renderSentence_eq, ← hlength]
          rcases Nat.eq_zero_or_pos sentence.length with hempty | hpositive
          · have hsame : text.length = front.length := by omega
            have hnone : ((intervals.map (·.span)).find? fun span ↦ decide (span.Covers front.length)) =
                none := by
              rw [List.find?_eq_none]
              intro span mem hcovers
              have := inside span mem
              have := (of_decide_eq_true hcovers).2
              omega
            rw [hsame, write_empty_part separated, hnone, Nat.sub_self]
            rfl
          · rw [write_part (cursorBefore_start separated (by omega)) (by omega)]
            apply List.flatMap_congr
            intro p mem
            obtain ⟨hlow, hhigh⟩ := mem_range'_sub.1 mem
            apply (joinedAt_eq_writeAt hlow _ (hfirst p hlow (by omega))).symm
            rw [hfirst (p + 1) (by omega) (by omega)]
            omega
      | cons next sentences =>
          have hstop : front.length + sentence.length + 1 = (front ++ sentence ++ asciiText " ").length := by
            rw [List.length_append, List.length_append]
            rfl
          have hjoined : text = front ++ sentence ++ asciiText " " ++ joinSentences (next :: sentences) := by
            rw [joined, joinSentences_cons_cons]
            simp only [List.append_assoc]
          have hspace : text[front.length + sentence.length]? = some 32 := by
            rw [hjoined, List.append_assoc, ← List.length_append, List.getElem?_append_right le_rfl,
              Nat.sub_self]
            rfl
          have hnext : front.length + sentence.length + 1 ∈ starts := by
            rw [hstarts]
            simp [sentenceStarts]
          have hrest := ih (front ++ sentence ++ asciiText " ") (before ++ [front.length]) hjoined
            (by rw [hstarts, sentenceStarts, ← hstop, List.append_assoc]; rfl)
            (by
              intro q mem
              rw [← hstop]
              rcases List.mem_append.1 mem with mem | mem
              · have := hbefore q mem
                omega
              · have := List.mem_singleton.1 mem
                omega)
          have hlength : front.length + sentence.length + 1 ≤ text.length := by
            have hsum := congrArg List.length hjoined
            rw [List.length_append, ← hstop] at hsum
            omega
          rw [← hstop] at hrest
          rw [range'_split (show front.length ≤ front.length + sentence.length + 1 by omega) hlength,
            List.flatMap_append, ← hrest,
            ← renderSentence_space separated (Nat.le_add_right _ _) hspace hnext hfirst]
          exact joinSentences_cons_cons _ _ _

/-- A span's positions show it. -/
theorem flatMap_joinedAt (separated : Separated spans) {span : Candidate} (mem : span ∈ spans) :
    (List.range' span.start (span.stop - span.start)).flatMap (joinedAt text spans starts) =
      markAcross starts span := by
  apply List.flatMap_congr
  intro p hp
  have hcovers : span.Covers p := mem_range'_sub.1 hp
  cases hfind : spans.find? fun s ↦ decide (s.Covers p) with
  | none => exact absurd hcovers (by simpa using List.find?_eq_none.1 hfind span mem)
  | some found =>
      have hfound := List.find?_some hfind
      rw [decide_eq_true_eq] at hfound
      have hsame := separated.eq_of_covers (List.mem_of_find?_eq_some hfind) mem hfound hcovers
      simp only [joinedAt, hfind, hsame]

/-- Rendered sentences, joined, are the pieces of the joined text with their spans across sentences. -/
theorem joinSentences_rendered (separated : Separated (intervals.map (·.span)))
    (inside : ∀ span ∈ intervals.map (·.span), span.stop ≤ text.length) (sentences : List Text)
    (joined : text = joinSentences sentences) :
    joinSentences (renderSentences text intervals sentences 0) =
      (pieces (intervals.map (·.span)) 0 text.length).flatMap
        (writeAcross text (sentenceStarts sentences 0)) := by
  have hbefore : CursorBefore 0 text.length (intervals.map (·.span)) 0 :=
    cursorBefore_start separated (Nat.zero_le _)
  have hpositions := joinSentences_from separated inside sentences
    [] [] joined (List.nil_append (sentenceStarts sentences 0)).symm nofun
  rw [List.length_nil] at hpositions
  rw [hpositions, ← flatMap_spread _ hbefore inside, pieces]
  apply List.flatMap_congr
  intro piece mem
  cases piece with
  | kept p =>
      have hkept : p ∈ (piecesFrom 0 text.length (intervals.map (·.span)) 0).filterMap Piece.kept? :=
        List.mem_filterMap.2 ⟨_, mem, rfl⟩
      rw [keptPositions hbefore, List.mem_filter, decide_eq_true_eq] at hkept
      have hnone : ((intervals.map (·.span)).find? fun span ↦ decide (span.Covers p)) = none := by
        simpa using hkept.2
      simp only [Piece.spread, writeAcross, joinedAt, hnone]
  | marker span =>
      have hmarked : span ∈ (piecesFrom 0 text.length (intervals.map (·.span)) 0).filterMap Piece.marker? :=
        List.mem_filterMap.2 ⟨_, mem, rfl⟩
      rw [markedSpans hbefore, List.mem_filter] at hmarked
      exact flatMap_joinedAt separated hmarked.1

/-- A span that covers no space between sentences stands as its placeholder. -/
theorem markAcross_of_inside {span : Candidate} (nonempty : span.start < span.stop)
    (inside : ∀ p, span.Covers p → p + 1 ∉ starts) :
    markAcross starts span = placeholderText span.label := by
  obtain ⟨n, hn⟩ : ∃ n, span.stop - span.start = n + 1 := ⟨span.stop - span.start - 1, by omega⟩
  rw [markAcross, hn, List.range'_succ, List.flatMap_cons, List.flatMap_eq_nil_iff.2, List.append_nil]
  · have hnext := inside span.start ⟨le_rfl, nonempty⟩
    simp [markAt, hnext]
  · intro p mem
    have hp := List.mem_range'_1.1 mem
    have hnext := inside p ⟨by omega, by omega⟩
    have hstart : p ∉ starts := by
      have hbefore := inside (p - 1) ⟨by omega, by omega⟩
      rwa [Nat.sub_add_cancel (by omega)] at hbefore
    have hlater : p ≠ span.start := by omega
    simp [markAt, hnext, hstart, hlater]

end Joined

end Renderings

/-! ## Redactions -/

section Redactions

variable {scanner : MarkerScanner} {text : Text} {expected : RedactionExpectation}

/-- Redacted intervals are the resolved candidates of the detectors. -/
theorem redactionIntervals_ok {intervals : List AiStructuredMarkerInterval} {counts : AiRedactionCounts}
    (ok : redactionIntervals scanner text expected = .ok (intervals, counts)) :
    ∃ candidates, scanner.detect text expected.countryCode = .ok candidates ∧
      resolveCandidates text candidates = .ok intervals := by
  unfold redactionIntervals at ok
  obtain ⟨-, ok⟩ := ok_of_guard ok
  obtain ⟨-, ok⟩ := ok_of_guard ok
  split at ok
  · cases ok
  · next found hscan =>
      obtain ⟨-, ok⟩ := ok_of_guard ok
      obtain ⟨-, ok⟩ := ok_of_guard ok
      cases ok
      unfold scanStructuredMarkerCandidates at hscan
      obtain ⟨-, hscan⟩ := ok_of_guard hscan
      obtain ⟨-, hscan⟩ := ok_of_guard hscan
      obtain ⟨-, hscan⟩ := ok_of_guard hscan
      obtain ⟨-, hscan⟩ := ok_of_guard hscan
      obtain ⟨-, hscan⟩ := ok_of_guard hscan
      exact ok_of_bind hscan

/-- A redacted text is the rendering of resolved candidates. -/
theorem redactAiReviewText_ok {output : Text} {counts : AiRedactionCounts}
    (ok : redactAiReviewText scanner text expected = .ok (output, counts)) :
    ∃ candidates intervals, scanner.detect text expected.countryCode = .ok candidates ∧
      resolveCandidates text candidates = .ok intervals ∧ output = renderText text intervals 0 := by
  obtain ⟨⟨intervals, counts'⟩, hintervals, ok⟩ := ok_of_bind ok
  cases ok
  obtain ⟨candidates, hdetect, hresolve⟩ := redactionIntervals_ok hintervals
  exact ⟨candidates, intervals, hdetect, hresolve, rfl⟩

/-- Redacted sentences are the rendering of the joined text's resolved candidates. -/
theorem redactAiReviewSentences_ok {sentences output : List Text} {counts : AiRedactionCounts}
    (ok : redactAiReviewSentences scanner sentences expected = .ok (output, counts)) :
    ∃ candidates intervals,
      scanner.detect (joinSentences sentences) expected.countryCode = .ok candidates ∧
      resolveCandidates (joinSentences sentences) candidates = .ok intervals ∧
      output = renderSentences (joinSentences sentences) intervals sentences 0 := by
  obtain ⟨⟨intervals, counts'⟩, hintervals, ok⟩ := ok_of_bind ok
  cases ok
  obtain ⟨candidates, hdetect, hresolve⟩ := redactionIntervals_ok hintervals
  exact ⟨candidates, intervals, hdetect, hresolve, rfl⟩

end Redactions

/-- Candidates in any order are resolved to the same intervals, if to any, and these merge the
candidates; both renderings keep what is outside the intervals and write one placeholder for each, and
the sentences, joined, differ from the whole text where an interval covers a space between them. -/
theorem redaction_renders_markers (text : Text) (candidates : List Candidate)
    (spans : ∀ c ∈ candidates, c.start < c.stop ∧ c.stop ≤ text.length) :
    (∀ other, List.Perm other candidates →
      resolveCandidates text other = resolveCandidates text candidates) ∧
    ∀ intervals, resolveCandidates text candidates = .ok intervals →
      IsMerge placeholderPriority candidates (intervals.map (·.span)) ∧
      IsRendering text (intervals.map (·.span)) 0 text.length (renderText text intervals 0)
        (pieces (intervals.map (·.span)) 0 text.length) ∧
      ∀ sentences, text = joinSentences sentences →
        RendersEach text (intervals.map (·.span)) sentences (renderSentences text intervals sentences 0)
          (sentenceStarts sentences 0) ∧
        joinSentences (renderSentences text intervals sentences 0) =
          (pieces (intervals.map (·.span)) 0 text.length).flatMap
            (writeAcross text (sentenceStarts sentences 0)) ∧
        ∀ span ∈ intervals.map (·.span), (∀ p, span.Covers p → p + 1 ∉ sentenceStarts sentences 0) →
          markAcross (sentenceStarts sentences 0) span = placeholderText span.label := by
  refine ⟨fun other perm ↦ resolveCandidates_of_perm perm, ?_⟩
  intro intervals ok
  have hmerge := resolveCandidates_isMerge (fun c mem ↦ (spans c mem).1) ok
  have hnonempty := hmerge.separated.nonempty
  have hinside : ∀ span ∈ intervals.map (·.span), span.stop ≤ text.length := by
    intro span mem
    have hpositive := hnonempty span mem
    obtain ⟨c, hc, hcovers⟩ := (hmerge.covered (span.stop - 1)).1 ⟨span, mem, by omega, by omega⟩
    have := (spans c hc).2
    have := hcovers.2
    omega
  refine ⟨hmerge, ?_, ?_⟩
  · have hbefore : CursorBefore 0 text.length (intervals.map (·.span)) 0 :=
      cursorBefore_start hmerge.separated (Nat.zero_le _)
    refine ⟨?_, keptPositions hbefore, markedSpans hbefore, (piecesFrom_ordered hbefore).2⟩
    apply renderText_eq
    · intro interval mem
      exact Nat.zero_lt_of_lt (hnonempty interval.span (List.mem_map_of_mem mem))
    · intro interval mem
      have hpositive := hnonempty interval.span (List.mem_map_of_mem mem)
      have hend := hinside interval.span (List.mem_map_of_mem mem)
      exact ⟨hpositive.trans_le hend, hend⟩
  · intro sentences joined
    refine ⟨?_, joinSentences_rendered hmerge.separated hinside sentences joined, ?_⟩
    · exact rendersEach_from hmerge.separated sentences [] joined
    · intro span mem inside
      exact markAcross_of_inside (hnonempty span mem) inside

/-- Two markers in one text, one across its two sentences. -/
theorem redaction_renders_markers_pair :
    (∀ c ∈ ([⟨1, 4, .contact⟩, ⟨0, 5, .secret⟩] : List Candidate),
      c.start < c.stop ∧ c.stop ≤ (joinSentences [asciiText "ab", asciiText "cd"]).length) ∧
    renderSentences (joinSentences [asciiText "ab", asciiText "cd"]) [⟨0, 5, 5, .secret⟩]
      [asciiText "ab", asciiText "cd"] 0 = [asciiText "[SECRET]", asciiText "[SECRET]"] ∧
    resolveCandidates (joinSentences [asciiText "ab", asciiText "cd"])
      [⟨0, 5, .secret⟩, ⟨1, 4, .contact⟩] =
        resolveCandidates (joinSentences [asciiText "ab", asciiText "cd"])
          [⟨1, 4, .contact⟩, ⟨0, 5, .secret⟩] := by
  have hspans : ∀ c ∈ ([⟨1, 4, .contact⟩, ⟨0, 5, .secret⟩] : List Candidate),
      c.start < c.stop ∧ c.stop ≤ (joinSentences [asciiText "ab", asciiText "cd"]).length :=
    List.forall_mem_cons.2 ⟨by decide, List.forall_mem_cons.2 ⟨by decide, nofun⟩⟩
  refine ⟨hspans, by decide, ?_⟩
  exact (redaction_renders_markers _ _ hspans).1 _ (List.Perm.swap _ _ _)

/-- In how many sentences a span has a part. -/
def sentencesOverlapped (sentences : List Text) (span : Candidate) : ℕ :=
  ((sentenceStarts sentences 0).zip sentences).countP fun part ↦
    decide (span.Overlaps part.1 (part.1 + part.2.length))

/-- An interval that ends on the space between two sentences is in one of them only, and the space stays
in the joined sentences. -/
theorem joined_sentences_keep_space :
    ¬ ∀ (sentences : List Text) (candidates : List Candidate)
      (intervals : List AiStructuredMarkerInterval),
      (∀ c ∈ candidates, c.start < c.stop ∧ c.stop ≤ (joinSentences sentences).length) →
      resolveCandidates (joinSentences sentences) candidates = .ok intervals →
      (∀ interval ∈ intervals, sentencesOverlapped sentences interval.span ≤ 1) →
      joinSentences (renderSentences (joinSentences sentences) intervals sentences 0) =
        renderText (joinSentences sentences) intervals 0 := by
  intro h
  have heq := h [asciiText "ab", asciiText "cd"] [⟨1, 3, .contact⟩] [⟨1, 3, 2, .contact⟩]
    (List.forall_mem_cons.2 ⟨by decide, nofun⟩) (by decide) (List.forall_mem_cons.2 ⟨by decide, nofun⟩)
  exact absurd heq (by decide)

end ReputationKey.Ai
