import Mathlib.Data.List.TakeWhile
import ReputationKey.Base.Separators
import ReputationKey.Review.Trimming

/-!
# Sentences of a review

The sentences that evidence numbers index into, and where each stands in the text. Follows
`src/src/shared/review-sentences.ts`.
-/

namespace ReputationKey.Ai

open ReputationKey.Base
open ReputationKey.Review (Text isJsWhitespace trim trim_split)

/-- The full stop, the exclamation mark, the question mark and the ellipsis. -/
def isTerminator (unit : UInt16) : Bool :=
  unit == 0x2e || unit == 0x21 || unit == 0x3f || unit == 0x2026

/-- The length of a separator at the head of a text: the white space behind a terminator, or else
line feeds; 0 where there is none. The split pattern of the source. -/
def sentenceSeparator (before : Option UInt16) (rest : Text) : ℕ :=
  if before.any isTerminator && rest.head?.any isJsWhitespace then
    (rest.takeWhile isJsWhitespace).length
  else (rest.takeWhile (· == 10)).length

/-- The sentences of a text. -/
def splitReviewSentences (text : Text) : List Text :=
  ((splitBetween sentenceSeparator text).map trim).filter (· ≠ [])

/-- A sentence with its number, and where it stands. -/
structure LocatedReviewSentence where
  number : ℕ
  text : Text
  start : ℕ
  stop : ℕ
  deriving DecidableEq, Repr

/-- `String.prototype.trimStart`. -/
def trimStart (text : Text) : Text := text.dropWhile isJsWhitespace

/-- What trimming leaves of a part of the text, if anything. -/
def locateTrimmedPart (text : Text) (rawStart rawEnd number : ℕ) : Option LocatedReviewSentence :=
  let raw := Base.slice text rawStart rawEnd
  let sentence := trim raw
  if sentence.length = 0 then none
  else
    let leadingLength := raw.length - (trimStart raw).length
    let start := rawStart + leadingLength
    some ⟨number, sentence, start, start + sentence.length⟩

/-- One match of the separator pattern: the sentence before it, and where the next part begins. -/
def locateStep (text : Text) (state : List LocatedReviewSentence × ℕ) (found : ℕ × ℕ) :
    List LocatedReviewSentence × ℕ :=
  (state.1 ++ (locateTrimmedPart text state.2 found.1 (state.1.length + 1)).toList,
    found.1 + found.2)

/-- The part behind the last match. -/
def locateLast (text : Text) (state : List LocatedReviewSentence × ℕ) : List LocatedReviewSentence :=
  state.1 ++ (locateTrimmedPart text state.2 text.length (state.1.length + 1)).toList

/-- The sentences of a text with their places. Follows `review-sentences.ts:36–56`. -/
def locateReviewSentences (text : Text) : List LocatedReviewSentence :=
  locateLast text ((separators sentenceSeparator text).foldl (locateStep text) ([], 0))

/-! ## The separators -/

section Separators

variable {before : Option UInt16} {rest text : Text}

theorem sentenceSeparator_le (before : Option UInt16) (rest : Text) :
    sentenceSeparator before rest ≤ rest.length := by
  rw [sentenceSeparator]
  split_ifs
  · exact (List.takeWhile_prefix _).length_le
  · exact (List.takeWhile_prefix _).length_le

/-- A separator is white space. -/
theorem isJsWhitespace_of_mem_separator (before : Option UInt16) (rest : Text) :
    ∀ unit ∈ rest.take (sentenceSeparator before rest), isJsWhitespace unit = true := by
  intro unit hunit
  have htake (p : UInt16 → Bool) : rest.take (rest.takeWhile p).length = rest.takeWhile p :=
    (List.prefix_iff_eq_take.1 (List.takeWhile_prefix p)).symm
  rw [sentenceSeparator] at hunit
  split_ifs at hunit
  · rw [htake] at hunit
    exact List.mem_takeWhile_imp hunit
  · rw [htake] at hunit
    have hfeed := List.mem_takeWhile_imp hunit
    rw [beq_iff_eq] at hfeed
    rw [hfeed]
    rfl

end Separators

/-! ## One part -/

section Parts

variable {text : Text} {rawStart rawEnd number place : ℕ} {sentence : LocatedReviewSentence}

/-- A sentence as it stands in the text: a part of it with no white space at its ends. -/
structure IsSentenceOf (text : Text) (sentence : LocatedReviewSentence) : Prop where
  text_eq : sentence.text = Base.slice text sentence.start sentence.stop
  nonempty : sentence.text ≠ []
  head : ∀ unit ∈ sentence.text.head?, isJsWhitespace unit = false
  last : ∀ unit ∈ sentence.text.getLast?, isJsWhitespace unit = false

/-- Whether a place of a text holds white space. -/
def IsSpaceAt (text : Text) (place : ℕ) : Prop := ∀ unit ∈ text[place]?, isJsWhitespace unit = true

theorem isSpaceAt_of_mem (low : rawStart ≤ place) (high : place < rawEnd)
    (space : ∀ unit ∈ Base.slice text rawStart rawEnd, isJsWhitespace unit = true) :
    IsSpaceAt text place := by
  intro unit hunit
  rw [← getElem?_slice low high] at hunit
  exact space unit (List.mem_of_getElem? hunit)

/-- A part that is located as nothing is white space. -/
theorem locateTrimmedPart_none (h : locateTrimmedPart text rawStart rawEnd number = none) :
    trim (Base.slice text rawStart rawEnd) = [] ∧
      ∀ place, rawStart ≤ place → place < rawEnd → IsSpaceAt text place := by
  simp only [locateTrimmedPart] at h
  split_ifs at h with hempty
  rw [List.length_eq_zero_iff] at hempty
  obtain ⟨front, back, hraw, -, hfront, hback, -, -⟩ := trim_split (Base.slice text rawStart rawEnd)
  refine ⟨hempty, fun place hlow hhigh ↦ isSpaceAt_of_mem hlow hhigh fun unit hunit ↦ ?_⟩
  rw [hraw, hempty, List.append_nil] at hunit
  rcases List.mem_append.1 hunit with hunit | hunit
  · exact hfront unit hunit
  · exact hback unit hunit

/-- A located part is what trimming leaves of it, and what is left out is white space. -/
theorem locateTrimmedPart_some (ordered : rawStart ≤ rawEnd) (bounded : rawEnd ≤ text.length)
    (h : locateTrimmedPart text rawStart rawEnd number = some sentence) :
    sentence.number = number ∧ sentence.text = trim (Base.slice text rawStart rawEnd) ∧
      IsSentenceOf text sentence ∧ rawStart ≤ sentence.start ∧ sentence.start < sentence.stop ∧
      sentence.stop ≤ rawEnd ∧ ∀ place, rawStart ≤ place → place < rawEnd →
        sentence.start ≤ place ∧ place < sentence.stop ∨ IsSpaceAt text place := by
  simp only [locateTrimmedPart] at h
  split_ifs at h with hempty
  obtain ⟨front, back, hraw, hlead, hfront, hback, hhead, hlast⟩ :=
    trim_split (Base.slice text rawStart rawEnd)
  have hlength : (Base.slice text rawStart rawEnd).length = rawEnd - rawStart := by
    rw [Base.slice, List.length_drop, List.length_take, min_eq_left bounded]
  have hparts := congrArg List.length hraw
  rw [List.length_append, List.length_append, hlength] at hparts
  have hleading : (Base.slice text rawStart rawEnd).length -
      (trimStart (Base.slice text rawStart rawEnd)).length =
      front.length := by
    rw [trimStart]
    omega
  rw [hleading] at h
  cases h
  refine ⟨rfl, rfl, ⟨(slice_middle ordered bounded hraw).symm, ?_, hhead, hlast⟩, ?_, ?_, ?_, ?_⟩
  · rwa [Ne, ← List.length_eq_zero_iff]
  · exact Nat.le_add_right _ _
  · simp only
    omega
  · simp only
    omega
  · intro place hlow hhigh
    simp only
    by_cases hbefore : place < rawStart + front.length
    · refine Or.inr fun unit hunit ↦ ?_
      rw [← getElem?_slice hlow hhigh, hraw, List.append_assoc,
        List.getElem?_append_left (by omega)] at hunit
      exact hfront unit (List.mem_of_getElem? hunit)
    · by_cases hinside : place < rawStart + front.length + (trim (Base.slice text rawStart rawEnd)).length
      · exact Or.inl ⟨Nat.not_lt.1 hbefore, hinside⟩
      · refine Or.inr fun unit hunit ↦ ?_
        rw [← getElem?_slice hlow hhigh, hraw, List.getElem?_append_right
          (by rw [List.length_append]; omega)] at hunit
        exact hback unit (List.mem_of_getElem? hunit)

end Parts

/-! ## All parts -/

section AllParts

variable {text : Text} {cuts : List (ℕ × ℕ)} {cursor : ℕ}

/-- One part after the other. -/
def locatePart (text : Text) (located : List LocatedReviewSentence) (cut : ℕ × ℕ) :
    List LocatedReviewSentence :=
  located ++ (locateTrimmedPart text cut.1 cut.2 (located.length + 1)).toList

/-- The loop locates the parts between the separators one after the other. -/
theorem foldl_locateStep (located : List LocatedReviewSentence) (found : List (ℕ × ℕ)) :
    locateLast text (found.foldl (locateStep text) (located, cursor)) =
      (cutsFrom cursor text.length found).foldl (locatePart text) located := by
  induction found generalizing located cursor with
  | nil => rfl
  | cons found later ih =>
      rw [List.foldl_cons, cutsFrom, List.foldl_cons]
      exact ih _

/-- What holds of the sentences of the parts so far, all of them before a place. -/
structure LocatedSoFar (text : Text) (done : List (ℕ × ℕ)) (limit : ℕ)
    (located : List LocatedReviewSentence) : Prop where
  texts : located.map (·.text) =
    ((done.map fun cut ↦ Base.slice text cut.1 cut.2).map trim).filter (· ≠ [])
  numbers : located.map (·.number) = List.range' 1 located.length
  sentences : ∀ sentence ∈ located, IsSentenceOf text sentence ∧
    sentence.start < sentence.stop ∧ sentence.stop ≤ limit
  ordered : located.Pairwise fun sentence later ↦ sentence.stop ≤ later.start
  covered : ∀ cut ∈ done, ∀ place, cut.1 ≤ place → place < cut.2 →
    (∃ sentence ∈ located, sentence.start ≤ place ∧ place < sentence.stop) ∨ IsSpaceAt text place

/-- One more part keeps it. -/
theorem LocatedSoFar.part {done : List (ℕ × ℕ)} {limit : ℕ} {located : List LocatedReviewSentence}
    {cut : ℕ × ℕ} (h : LocatedSoFar text done limit located) (after : limit ≤ cut.1)
    (ordered : cut.1 ≤ cut.2) (bounded : cut.2 ≤ text.length) :
    LocatedSoFar text (done ++ [cut]) cut.2 (locatePart text located cut) := by
  cases hpart : locateTrimmedPart text cut.1 cut.2 (located.length + 1) with
  | none =>
      obtain ⟨hempty, hspace⟩ := locateTrimmedPart_none hpart
      rw [locatePart, hpart, Option.toList_none, List.append_nil]
      refine ⟨?_, h.numbers, fun sentence hsentence ↦ ?_, h.ordered, fun other hother place hlow hhigh ↦ ?_⟩
      · simp [h.texts, hempty]
      · obtain ⟨hsentence, hproper, hstop⟩ := h.sentences sentence hsentence
        exact ⟨hsentence, hproper, by omega⟩
      · rcases List.mem_append.1 hother with hother | hother
        · exact h.covered other hother place hlow hhigh
        · rw [List.mem_singleton.1 hother] at hlow hhigh
          exact Or.inr (hspace place hlow hhigh)
  | some sentence =>
      obtain ⟨hnumber, htext, hsentence, hlow, hproper, hhigh, hcovered⟩ :=
        locateTrimmedPart_some ordered bounded hpart
      rw [locatePart, hpart, Option.toList_some]
      refine ⟨?_, ?_, fun other hother ↦ ?_, ?_, fun other hother place hplace hstop ↦ ?_⟩
      · have hnonempty := hsentence.nonempty
        rw [htext] at hnonempty
        simp [h.texts, htext, hnonempty]
      · rw [List.map_append, h.numbers, List.map_singleton, hnumber, List.length_append,
          List.length_singleton, List.range'_concat, Nat.one_mul, Nat.add_comm 1]
      · rcases List.mem_append.1 hother with hother | hother
        · obtain ⟨hbefore, hbeforeProper, hbeforeStop⟩ := h.sentences other hother
          exact ⟨hbefore, hbeforeProper, by omega⟩
        · rw [List.mem_singleton.1 hother]
          exact ⟨hsentence, hproper, hhigh⟩
      · rw [List.pairwise_append]
        refine ⟨h.ordered, List.pairwise_singleton _ _, fun other hother later hlater ↦ ?_⟩
        have hstop := (h.sentences other hother).2.2
        rw [List.mem_singleton.1 hlater]
        omega
      · rcases List.mem_append.1 hother with hother | hother
        · rcases h.covered other hother place hplace hstop with ⟨found, hfound, hinside⟩ | hspace
          · exact Or.inl ⟨found, List.mem_append_left _ hfound, hinside⟩
          · exact Or.inr hspace
        · rw [List.mem_singleton.1 hother] at hplace hstop
          rcases hcovered place hplace hstop with hinside | hspace
          · exact Or.inl ⟨sentence, List.mem_append_right _ (List.mem_singleton.2 rfl), hinside⟩
          · exact Or.inr hspace

/-- All parts in order keep it. -/
theorem LocatedSoFar.parts {done : List (ℕ × ℕ)} {limit : ℕ} {located : List LocatedReviewSentence}
    (h : LocatedSoFar text done limit located)
    (inside : limit ≤ text.length) (ordered : cuts.Pairwise fun cut later ↦ cut.2 ≤ later.1)
    (bounds : ∀ cut ∈ cuts, limit ≤ cut.1 ∧ cut.1 ≤ cut.2 ∧ cut.2 ≤ text.length) :
    ∃ reached ≤ text.length,
      LocatedSoFar text (done ++ cuts) reached (cuts.foldl (locatePart text) located) := by
  induction cuts generalizing done limit located with
  | nil =>
      rw [List.append_nil]
      exact ⟨limit, inside, h⟩
  | cons cut cuts ih =>
      obtain ⟨hlimit, hcut, hstop⟩ := bounds cut List.mem_cons_self
      rw [List.pairwise_cons] at ordered
      rw [List.foldl_cons, List.append_cons]
      refine ih (h.part hlimit hcut hstop) hstop ordered.2 fun later hlater ↦ ?_
      exact ⟨ordered.1 later hlater, (bounds later (List.mem_cons_of_mem _ hlater)).2⟩

end AllParts

/-- Located sentences are the split sentences. They are the sentences of the split in the same
order, numbered from 1 without a gap; each is the part of the text from its start to its end, not
empty and without white space at its ends; they follow each other without a common character, and
every character outside them is white space. -/
theorem located_sentences_are_split (text : Text) :
    (locateReviewSentences text).map (·.text) = splitReviewSentences text ∧
    (locateReviewSentences text).map (·.number) =
      List.range' 1 (locateReviewSentences text).length ∧
    (∀ sentence ∈ locateReviewSentences text,
      sentence.text = Base.slice text sentence.start sentence.stop ∧ sentence.text ≠ [] ∧
      (∀ unit ∈ sentence.text.head?, isJsWhitespace unit = false) ∧
      (∀ unit ∈ sentence.text.getLast?, isJsWhitespace unit = false) ∧
      sentence.start < sentence.stop ∧ sentence.stop ≤ text.length) ∧
    (locateReviewSentences text).Pairwise (fun sentence later ↦ sentence.stop ≤ later.start) ∧
    ∀ (place : ℕ) (inside : place < text.length),
      (∀ sentence ∈ locateReviewSentences text, ¬(sentence.start ≤ place ∧ place < sentence.stop)) →
        isJsWhitespace text[place] = true := by
  have hfollow : FollowFrom text.length 0 (separators sentenceSeparator text) := by
    have hfrom := @followFrom_separatorsFrom _ sentenceSeparator text none 0 sentenceSeparator_le
    rwa [Nat.zero_add] at hfrom
  obtain ⟨hordered, hbounds⟩ := cuts_ordered hfollow
  have hstart : LocatedSoFar text [] 0 [] :=
    ⟨rfl, rfl, nofun, List.Pairwise.nil, nofun⟩
  obtain ⟨reached, hreached, hall⟩ := hstart.parts (Nat.zero_le _) hordered hbounds
  rw [List.nil_append, ← foldl_locateStep, ← locateReviewSentences] at hall
  refine ⟨?_, hall.numbers, fun sentence hsentence ↦ ?_, hall.ordered, fun place hplace houtside ↦ ?_⟩
  · rw [hall.texts, splitReviewSentences, splitBetween_eq sentenceSeparator_le]
  · obtain ⟨hpart, hproper, hstop⟩ := hall.sentences sentence hsentence
    exact ⟨hpart.text_eq, hpart.nonempty, hpart.head, hpart.last, hproper, by omega⟩
  · have hunit : text[place]? = some text[place] := List.getElem?_eq_getElem hplace
    rcases cuts_cover (Nat.zero_le place) hplace with ⟨cut, hcut, hlow, hhigh⟩ | ⟨found, hfound, hlow, hhigh⟩
    · rcases hall.covered cut hcut place hlow hhigh with ⟨sentence, hsentence, hinside⟩ | hspace
      · exact absurd hinside (houtside sentence hsentence)
      · exact hspace _ hunit
    · have hseparator := @mem_separatorsFrom _ sentenceSeparator [] text none found.1 found.2
        (fun unit ↦ isJsWhitespace unit = true) sentenceSeparator_le isJsWhitespace_of_mem_separator
        hfound place hlow hhigh
      exact hseparator _ hunit

end ReputationKey.Ai
