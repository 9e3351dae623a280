import ReputationKey.Ai.ReplyProgress

/-!
# The steps of a reply come in order

What one character can do to the parser, and from it: whatever text arrives, answering is reported
at most once, with given numbers only, and writing at most once and behind it; and how a text of
bounded size is cut does not matter.
-/

namespace ReputationKey.Ai

open ReputationKey.Base
open ReputationKey.Review (Text isJsWhitespace)

variable {ν : Type} {sentenceNumbers : List ν}

/-- Steps that a parser may report: answering, with given numbers only, and then writing. -/
def InOrder (sentenceNumbers : List ν) (steps : List (ReplyProgress ν)) : Prop :=
  steps = [] ∨ ∃ mainPoint : List ν, (∀ n ∈ mainPoint, n ∈ sentenceNumbers) ∧
    (steps = [.answering mainPoint] ∨ steps = [.answering mainPoint, .writing])

theorem mainPoint_iff {index : ℕ} {field : ReplyField} (h : replyFields[index]? = some field) :
    field = .mainPoint ↔ index = 2 := by
  rcases index with _ | _ | _ | _ | _ | index <;> simp [replyFields] at h <;> subst h <;> simp

namespace ReplyProgressParser

/-! ## What a character can do -/

/-- The scan after a character that ends no field. -/
def scanCharacter (scan : JsonScan) (character : Text) : JsonScan :=
  if scan.escaped then { scan with escaped := false }
  else if scan.quoted && character == [92] then { scan with escaped := true }
  else
    let quoted := if character = [34] then !scan.quoted else scan.quoted
    { scan with quoted, depth := if quoted then scan.depth else scan.depth + nestingChange character }

/-- The parser after text of a field. -/
def passOver (parser : ReplyProgressParser ν) (scan : JsonScan) (field : Text) (begins : Bool) :
    ReplyProgressParser ν :=
  { parser with
    toJsonScan := scan, field, writing := parser.writing || begins
    reported := parser.reported ++ if !parser.writing && begins then [.writing] else [] }

/-- Whether a character shows that the reply begins. -/
def begins (parser : ReplyProgressParser ν) (character : Text) : Bool :=
  !parser.escaped && !(parser.quoted && character == [92]) && parser.fieldIndex == 4 &&
    hasFirstReplyCharacter (parser.field ++ character)

/-- The steps so far, described by how far the parser has come. -/
structure Ordered (sentenceNumbers : List ν) (parser : ReplyProgressParser ν) : Prop where
  steps : ∃ mainPoint : List ν, (∀ n ∈ mainPoint, n ∈ sentenceNumbers) ∧
    parser.reported = (if 3 ≤ parser.fieldIndex then [.answering mainPoint] else []) ++
      if parser.writing = true then [.writing] else []
  writing : parser.writing = true → 4 ≤ parser.fieldIndex

variable {parser : ReplyProgressParser ν}

theorem Ordered.inOrder (h : Ordered sentenceNumbers parser) :
    InOrder sentenceNumbers parser.reported := by
  obtain ⟨mainPoint, hgiven, hsteps⟩ := h.steps
  by_cases hwriting : parser.writing = true
  · have hfield := h.writing hwriting
    rw [if_pos (by omega), if_pos hwriting] at hsteps
    exact .inr ⟨mainPoint, hgiven, .inr hsteps⟩
  · rw [if_neg hwriting, List.append_nil] at hsteps
    by_cases hfield : 3 ≤ parser.fieldIndex
    · rw [if_pos hfield] at hsteps
      exact .inr ⟨mainPoint, hgiven, .inl hsteps⟩
    · rw [if_neg hfield] at hsteps
      exact .inl hsteps

theorem ordered_start : Ordered sentenceNumbers (start : ReplyProgressParser ν) :=
  ⟨⟨[], nofun, rfl⟩, nofun⟩

/-- What the steps so far are described by is kept where nothing is reported and the field stays. -/
theorem Ordered.of_eq {next : ReplyProgressParser ν} (h : Ordered sentenceNumbers parser)
    (hindex : next.fieldIndex = parser.fieldIndex) (hwriting : next.writing = parser.writing)
    (hreported : next.reported = parser.reported) : Ordered sentenceNumbers next := by
  constructor
  · rw [hindex, hwriting, hreported]
    exact h.steps
  · rw [hindex, hwriting]
    exact h.writing

/-- Writing is reported once, in the fifth field. -/
theorem Ordered.passOver (h : Ordered sentenceNumbers parser) (scan : JsonScan) (field : Text)
    {begins : Bool} (hbegins : begins = true → parser.fieldIndex = 4) :
    Ordered sentenceNumbers (parser.passOver scan field begins) := by
  cases begins with
  | false =>
      refine h.of_eq rfl ?_ ?_
      · exact Bool.or_false _
      · rw [ReplyProgressParser.passOver, Bool.and_false]
        exact List.append_nil _
  | true =>
      obtain ⟨mainPoint, hgiven, hsteps⟩ := h.steps
      have hfield := hbegins rfl
      constructor
      · refine ⟨mainPoint, hgiven, ?_⟩
        cases hwriting : parser.writing <;> simp [ReplyProgressParser.passOver, hsteps, hwriting]
      · intro _
        exact le_of_eq hfield.symm

variable [DecidableEq ν] {numbers : ReplyNumbers ν}

variable (numbers sentenceNumbers parser) in
/-- What a completed field can do. -/
theorem completeField_cases :
    parser.completeField numbers sentenceNumbers = parser.suppress ∨
      (parser.completeField numbers sentenceNumbers = parser.nextField ∧ parser.fieldIndex ≠ 2) ∨
      ∃ mainPoint : List ν, (∀ n ∈ mainPoint, n ∈ sentenceNumbers) ∧ parser.fieldIndex = 2 ∧
        parser.completeField numbers sentenceNumbers =
          (parser.report (.answering mainPoint)).nextField := by
  rw [completeField]
  split
  · next name value field _ hfield =>
      split_ifs with hname haccepts hmain
      · exact .inl rfl
      · exact .inl rfl
      · split
        · exact .inl rfl
        · next mainPoint _ =>
            split_ifs with hgiven
            · refine .inr (.inr ⟨mainPoint, fun n mem ↦ ?_, (mainPoint_iff hfield).1 hmain, rfl⟩)
              exact List.contains_iff_mem.1 (List.all_eq_true.1 hgiven n mem)
            · exact .inl rfl
      · exact .inr (.inl ⟨rfl, mt (mainPoint_iff hfield).2 hmain⟩)
  · exact .inl rfl

/-- A comma or a brace of the object completes a field. -/
theorem consume_end (hstarted : parser.started = true) {character : Text}
    (ends : parser.endsField character = true) :
    parser.consume numbers sentenceNumbers character =
      if character = [125] then (parser.completeField numbers sentenceNumbers).suppress
      else parser.completeField numbers sentenceNumbers := by
  rw [consume, if_neg (by simp [hstarted]), if_pos ends]

/-- A character inside a field is added to it. -/
theorem consume_inside (hstarted : parser.started = true) {character : Text}
    (inside : ¬parser.endsField character = true) :
    parser.consume numbers sentenceNumbers character =
      parser.passOver (scanCharacter parser.toJsonScan character) (parser.field ++ character)
        (parser.begins character) := by
  rw [consume, if_neg (by simp [hstarted]), if_neg inside, scanCharacter, begins]
  simp only
  cases hescaped : parser.escaped
  · cases hbackslash : parser.quoted && character == [92]
    · cases hwriting : parser.writing
      · by_cases hfirst : parser.fieldIndex = 4 ∧
            hasFirstReplyCharacter (parser.field ++ character) = true
        · simp [passOver, report, hfirst, hwriting]
        · simp [passOver, hfirst, hwriting]
          simpa using hfirst
      · simp [passOver, hwriting]
    · simp [passOver]
  · simp [passOver]

theorem Ordered.completeField (h : Ordered sentenceNumbers parser) :
    Ordered sentenceNumbers (parser.completeField numbers sentenceNumbers) := by
  obtain ⟨mainPoint, hgiven, hsteps⟩ := h.steps
  rcases completeField_cases sentenceNumbers parser numbers with
    hcase | ⟨hcase, hindex⟩ | ⟨answered, hanswered, hindex, hcase⟩
  · rw [hcase]
    exact h.of_eq rfl rfl rfl
  · -- past the main point, or before it, as the field was
    rw [hcase]
    refine ⟨⟨mainPoint, hgiven, ?_⟩, fun hwriting ↦ ?_⟩
    · have hiff : 3 ≤ parser.fieldIndex + 1 ↔ 3 ≤ parser.fieldIndex := by omega
      simp only [nextField, hsteps, hiff]
    · have hfield := h.writing hwriting
      simp only [nextField]
      omega
  · have hwriting : parser.writing = false := by
      by_contra hwriting
      have hfield := h.writing (by simpa using hwriting)
      omega
    rw [hcase]
    refine ⟨⟨answered, hanswered, ?_⟩, fun hnow ↦ ?_⟩
    · simp [nextField, report, hsteps, hindex, hwriting]
    · rw [show (parser.report (.answering answered)).nextField.writing = parser.writing from rfl,
        hwriting] at hnow
      cases hnow

theorem Ordered.consume (h : Ordered sentenceNumbers parser) (character : Text) :
    Ordered sentenceNumbers (parser.consume numbers sentenceNumbers character) := by
  by_cases hstarted : parser.started = true
  · by_cases hends : parser.endsField character = true
    · rw [consume_end hstarted hends]
      split_ifs
      · exact h.completeField.of_eq rfl rfl rfl
      · exact h.completeField
    · rw [consume_inside hstarted hends]
      apply h.passOver
      intro hbegins
      simp only [begins, Bool.and_eq_true, beq_iff_eq] at hbegins
      exact hbegins.1.2
  · rw [ReplyProgressParser.consume, if_pos (by simpa using hstarted)]
    split_ifs
    · exact h
    · exact h.of_eq rfl rfl rfl
    · exact h.of_eq rfl rfl rfl

theorem Ordered.step (h : Ordered sentenceNumbers parser) (character : Text) :
    Ordered sentenceNumbers (parser.step numbers sentenceNumbers character) := by
  rw [ReplyProgressParser.step]
  split_ifs
  · exact h
  · exact h.consume character

theorem Ordered.foldl (h : Ordered sentenceNumbers parser) (characters : List Text) :
    Ordered sentenceNumbers
      (characters.foldl (ReplyProgressParser.step numbers sentenceNumbers) parser) := by
  induction characters generalizing parser with
  | nil => exact h
  | cons character characters ih => exact ih (h.step character)

theorem Ordered.receive (h : Ordered sentenceNumbers parser) (delta : Text) :
    Ordered sentenceNumbers (parser.receive numbers sentenceNumbers delta) := by
  apply Ordered.foldl
  exact h.of_eq rfl rfl rfl

/-! ## How a text is cut -/

/-- The parser with another count of bytes. -/
def withBytes (bytes : ℕ) (parser : ReplyProgressParser ν) : ReplyProgressParser ν :=
  { parser with bytes }

omit [DecidableEq ν] in
theorem ite_withBytes {P : Prop} [Decidable P] (bytes : ℕ) (a b : ReplyProgressParser ν) :
    (if P then withBytes bytes a else withBytes bytes b) = withBytes bytes (if P then a else b) := by
  split_ifs <;> rfl

theorem completeField_withBytes (bytes : ℕ) :
    (parser.withBytes bytes).completeField numbers sentenceNumbers =
      (parser.completeField numbers sentenceNumbers).withBytes bytes := by
  simp only [completeField, withBytes]
  split
  · split_ifs
    · rfl
    · rfl
    · split
      · rfl
      · split_ifs <;> rfl
    · rfl
  · rfl

theorem step_withBytes (bytes : ℕ) (character : Text) :
    (parser.withBytes bytes).step numbers sentenceNumbers character =
      (parser.step numbers sentenceNumbers character).withBytes bytes := by
  have hcomplete := @completeField_withBytes ν sentenceNumbers parser _ numbers bytes
  rw [step, step, show (parser.withBytes bytes).invalid = parser.invalid from rfl, ← ite_withBytes]
  congr 1
  by_cases hstarted : parser.started = true
  · have hstarted' : (parser.withBytes bytes).started = true := hstarted
    by_cases hend : parser.endsField character = true
    · have hend' : (parser.withBytes bytes).endsField character = true := hend
      rw [consume_end hstarted hend, consume_end hstarted' hend', hcomplete]
      exact ite_withBytes bytes (parser.completeField numbers sentenceNumbers).suppress _
    · have hend' : ¬(parser.withBytes bytes).endsField character = true := hend
      rw [consume_inside hstarted hend, consume_inside hstarted' hend']
      rfl
  · rw [Bool.not_eq_true] at hstarted
    rw [consume, consume, hstarted, show (parser.withBytes bytes).started = false from hstarted]
    simp only [Bool.not_false, if_true]
    split_ifs <;> rfl

theorem foldl_step_withBytes (bytes : ℕ) (characters : List Text) :
    characters.foldl (step numbers sentenceNumbers) (parser.withBytes bytes) =
      (characters.foldl (step numbers sentenceNumbers) parser).withBytes bytes := by
  induction characters generalizing parser with
  | nil => rfl
  | cons character characters ih => rw [List.foldl_cons, step_withBytes, ih, List.foldl_cons]

/-- Deltas of bounded size are received as the characters they are made of. -/
theorem foldl_receive {deltas : List Text}
    (hbytes : parser.bytes + (deltas.flatMap utf8Bytes).length ≤ 16384) :
    deltas.foldl (receive numbers sentenceNumbers) parser =
      ((deltas.flatMap codePoints).foldl (step numbers sentenceNumbers) parser).withBytes
        (parser.bytes + (deltas.flatMap utf8Bytes).length) := by
  induction deltas generalizing parser with
  | nil => rfl
  | cons delta deltas ih =>
      rw [List.flatMap_cons, List.length_append] at hbytes
      have hreceive : parser.receive numbers sentenceNumbers delta =
          ((codePoints delta).foldl (step numbers sentenceNumbers) parser).withBytes
            (parser.bytes + (utf8Bytes delta).length) := by
        have hbound : decide (16384 < parser.bytes + (utf8Bytes delta).length) = false :=
          decide_eq_false (by omega)
        rw [receive, ← foldl_step_withBytes, hbound, Bool.or_false]
        rfl
      rw [List.foldl_cons, hreceive, ih, List.flatMap_cons, List.flatMap_cons, List.foldl_append,
        List.length_append, foldl_step_withBytes]
      · exact congrArg (fun n ↦ withBytes n _) (Nat.add_assoc _ _ _)
      · show parser.bytes + (utf8Bytes delta).length + _ ≤ 16384
        omega

end ReplyProgressParser

open ReplyProgressParser

variable [DecidableEq ν] (numbers : ReplyNumbers ν)

/-- Whatever arrives, the steps are reported in order, with given numbers only. -/
theorem replyProgress_inOrder (deltas : List Text) :
    InOrder sentenceNumbers (replyProgress numbers sentenceNumbers deltas) := by
  have hall {parser : ReplyProgressParser ν} (h : Ordered sentenceNumbers parser) : Ordered
      sentenceNumbers (deltas.foldl (receive numbers sentenceNumbers) parser) := by
    induction deltas generalizing parser with
    | nil => exact h
    | cons delta deltas ih => exact ih (h.receive delta)
  exact (hall ordered_start).inOrder

/-- The steps for a text of bounded size are those of its characters, however it is cut. -/
theorem replyProgress_of_cut {text : Text} {deltas : List Text} (hcut : CutsBetween text deltas)
    (hbytes : (utf8Bytes text).length ≤ 16384) :
    replyProgress numbers sentenceNumbers deltas =
      ((codePoints text).foldl (step numbers sentenceNumbers) start).reported := by
  have hdeltas := @foldl_receive ν sentenceNumbers start _ numbers deltas
    (by rw [hcut.utf8Bytes_eq]; exact le_trans (le_of_eq (Nat.zero_add _)) hbytes)
  rw [replyProgress, hdeltas, hcut.codePoints_eq]
  rfl

end ReputationKey.Ai
