import ReputationKey.Ai.ReplyProgressOrder

/-!
# Live reply progress never guesses

An answer that `JSON.parse` reads as the five fields, its keys written as they are, is reported as
it is read: each field's text, up to the comma or brace that ends it, is parsed as the field it is
in the whole.
-/

namespace ReputationKey.Ai

open ReputationKey.Base ReputationKey.Base.JsonScan
open ReputationKey.Review (Text isJsWhitespace trim)
open ReputationKey.Shared (asciiText)

variable {ν : Type}

/-! ## The first character of a reply -/

theorem expectWord_append_right {word text rest : List UInt16}
    (h : Json.expectWord word text = some rest) (more : List UInt16) :
    Json.expectWord word (text ++ more) = some (rest ++ more) := by
  rw [Json.expectWord_eq_some h, List.append_assoc, Json.expectWord_append]

theorem expect_append_right {unit : UInt16} {text rest : List UInt16}
    (h : Json.expect unit text = some rest) (more : List UInt16) :
    Json.expect unit (text ++ more) = some (rest ++ more) := by
  rw [Json.expect_eq_some h, List.cons_append, Json.expect_self]

/-- White space is passed over up to what is there already. -/
theorem dropWhile_append_right {text : List UInt16} {p : UInt16 → Bool}
    (h : text.dropWhile p ≠ []) (more : List UInt16) :
    (text ++ more).dropWhile p = text.dropWhile p ++ more := by
  rw [List.dropWhile_append, if_neg (by simpa using h)]

theorem expect_ne_nil {unit : UInt16} {text rest : List UInt16}
    (h : Json.expect unit text = some rest) : text ≠ [] := by
  rw [Json.expect_eq_some h]
  exact List.cons_ne_nil _ _

theorem replyTextPrefix_append {field value : Text} (h : replyTextPrefix field = some value)
    (more : Text) : replyTextPrefix (field ++ more) = some (value ++ more) := by
  rw [replyTextPrefix] at h ⊢
  simp only [Option.bind_eq_bind, Option.bind_eq_some_iff] at h ⊢
  obtain ⟨rest, hkey, rest', hcolon, hquote⟩ := h
  refine ⟨rest ++ more, ?_, rest' ++ more, ?_, ?_⟩
  · rw [dropWhile_append_right, expectWord_append_right hkey]
    rw [Json.expectWord_eq_some hkey]
    exact List.cons_ne_nil _ _
  · rw [dropWhile_append_right (expect_ne_nil hcolon), expect_append_right hcolon]
  · rw [dropWhile_append_right (expect_ne_nil hquote), expect_append_right hquote]

/-- An escape of one letter. -/
theorem startsWithEscape_letter {letter : UInt16} (h : letter ≠ 117) (rest : Text) :
    startsWithEscape (letter :: rest) = [34, 92, 47, 98, 102, 110, 114, 116].contains letter := by
  rw [startsWithEscape.eq_def]
  split
  · next heq =>
      cases heq
      exact absurd rfl h
  · next heq =>
      cases heq
      rfl
  · next heq => cases heq

theorem startsWithEscape_append {text : Text} (h : startsWithEscape text = true) (more : Text) :
    startsWithEscape (text ++ more) = true := by
  revert h
  fun_cases startsWithEscape text with
  | case1 a b c d rest => exact id
  | case2 letter rest hother =>
      intro h
      have hletter : letter ≠ 117 := by
        rintro rfl
        cases h
      rw [List.cons_append, startsWithEscape_letter hletter]
      exact h
  | case3 => nofun

theorem startsText_append {text : Text} (h : startsText text = true) (more : Text) :
    startsText (text ++ more) = true := by
  cases text with
  | nil => cases h
  | cons first rest =>
      rw [startsText] at h
      rw [List.cons_append, startsText]
      split_ifs at h ⊢
      · exact startsWithEscape_append h more
      · exact h

/-- A first character stays one. -/
theorem hasFirstReplyCharacter_append {field : Text} (h : hasFirstReplyCharacter field = true)
    (more : Text) : hasFirstReplyCharacter (field ++ more) = true := by
  obtain ⟨value, hvalue, hstarts⟩ := (Option.any_eq_true _ _).1 h
  exact (Option.any_eq_true _ _).2 ⟨_, replyTextPrefix_append hvalue more, startsText_append hstarts more⟩

theorem isHexUnit_of_hexValue {unit value : UInt16} (h : Json.hexValue unit = some value) :
    isHexUnit unit = true := by
  rw [Json.hexValue] at h
  rw [isHexUnit]
  split_ifs at h with hdigit hsmall hcapital
  · simp [hdigit]
  · simp [hsmall]
  · simp [hcapital]

theorem contains_of_unescape {letter unit : UInt16} (h : Json.unescape letter = some unit) :
    [34, 92, 47, 98, 102, 110, 114, 116].contains letter = true := by
  rw [Json.unescape] at h
  split_ifs at h with hb ht hn hf hr hsame
  · rw [hb]; rfl
  · rw [ht]; rfl
  · rw [hn]; rfl
  · rw [hf]; rfl
  · rw [hr]; rfl
  · rcases hsame with rfl | rfl | rfl <;> rfl

/-- A text in quotes has a first character unless it is empty. -/
theorem startsText_of_parseText {text read rest : List UInt16}
    (h : Json.parseText text = some (read, rest)) : startsText text = !read.isEmpty := by
  induction text using Json.parseText.induct with
  | case1 => rw [Json.parseText.eq_def] at h; cases h
  | case2 =>
      rw [Json.parseText_quoted] at h
      cases h
      rfl
  | case3 unit hunit =>
      rw [Json.parseText.eq_def] at h
      simp [hunit] at h
  | case4 letter more =>
      rw [Json.parseText_quoted] at h
      cases h
      rfl
  | case5 a b c d more _ _ =>
      rw [Json.parseText, if_neg (by decide), if_pos rfl, if_pos rfl] at h
      simp only [Option.bind_eq_bind, Option.bind_eq_some_iff, pure, Option.some.injEq,
        Prod.mk.injEq] at h
      obtain ⟨a', ha, b', hb, c', hc, d', hd, _, _, rfl, _⟩ := h
      rw [startsText, if_pos rfl, startsWithEscape, isHexUnit_of_hexValue ha, isHexUnit_of_hexValue hb,
        isHexUnit_of_hexValue hc, isHexUnit_of_hexValue hd]
      rfl
  | case6 more hmore _ =>
      rw [Json.parseText, if_neg (by decide), if_pos rfl, if_pos rfl] at h
      · cases h
      · exact hmore
  | case7 letter more hletter _ _ =>
      rw [Json.parseText.eq_def] at h
      simp only at h
      rw [if_neg (by decide), if_pos trivial, if_neg hletter] at h
      simp only [Option.bind_eq_bind, Option.bind_eq_some_iff, pure, Option.some.injEq,
        Prod.mk.injEq] at h
      obtain ⟨unit, hunit, _, _, rfl, _⟩ := h
      rw [startsText, if_pos rfl, startsWithEscape_letter hletter]
      exact contains_of_unescape hunit
  | case8 unit letter more h34 h92 hcontrol =>
      rw [Json.parseText.eq_def] at h
      simp [h34, h92, hcontrol] at h
  | case9 unit letter more h34 h92 hcontrol _ =>
      rw [Json.parseText_plain h34 h92 hcontrol, Option.map_eq_some_iff] at h
      obtain ⟨_, _, hread⟩ := h
      cases hread
      rw [startsText, if_neg h92]
      simp [h34, UInt16.not_lt.1 hcontrol]

/-- The text of a value that is read as a text. -/
theorem parse_string {numbers : JsonNumbers ν} {text read : List UInt16}
    (h : Json.parse numbers text = some (.string read)) :
    ∃ space rest after, Json.AllSpace space ∧ text = space ++ 34 :: rest ∧
      Json.parseText rest = some (read, after) := by
  obtain ⟨space, part, after, rfl, hspace, hafter, hreads⟩ := Json.parse_eq_some h
  obtain ⟨unit, more, rfl, -⟩ := hreads.starts.starts
  have hvalue := hreads.parse (more.length + 1) after le_rfl (Json.endsNumber_of_allSpace hafter)
  rw [List.cons_append, Json.parseValue.eq_def] at hvalue
  simp only at hvalue
  split_ifs at hvalue with hobject harray hquote hnumber hnull htrue hfalse
  · split at hvalue
    · cases hvalue
    · obtain ⟨_, _, hx⟩ := Option.map_eq_some_iff.1 hvalue
      cases hx
  · split at hvalue
    · cases hvalue
    · obtain ⟨_, _, hx⟩ := Option.map_eq_some_iff.1 hvalue
      cases hx
  · obtain ⟨⟨read', rest'⟩, htext, hx⟩ := Option.map_eq_some_iff.1 hvalue
    cases hx
    rw [hquote]
    exact ⟨space, more ++ rest', rest', hspace, rfl, htext⟩
  all_goals
    obtain ⟨_, _, hx⟩ := Option.map_eq_some_iff.1 hvalue
    cases hx

theorem isJsWhitespace_of_isSpace {unit : UInt16} (h : Json.isSpace unit = true) :
    isJsWhitespace unit = true := by
  simp only [Json.isSpace, Bool.or_eq_true, beq_iff_eq] at h
  rcases h with ((rfl | rfl) | rfl) | rfl <;> decide

theorem dropWhile_before {space : Text} {unit : UInt16} (h : Json.AllSpace space)
    (hunit : isJsWhitespace unit = false) (rest : Text) :
    (space ++ unit :: rest).dropWhile isJsWhitespace = unit :: rest := by
  rw [List.dropWhile_append_of_pos fun u mem ↦ isJsWhitespace_of_isSpace (h u mem),
    List.dropWhile_cons_of_neg (by simp [hunit])]

/-- The text of the last field shows a first character unless the reply is empty. -/
theorem hasFirstReplyCharacter_eq {numbers : JsonNumbers ν} {text reply : Text}
    (h : Json.MemberText numbers ReplyField.replyText.key (.string reply) text) :
    hasFirstReplyCharacter text = !reply.isEmpty := by
  obtain ⟨space, between, value, hspace, hbetween, rfl, hvalue⟩ := h
  obtain ⟨inner, rest, after, hinner, rfl, hrest⟩ := parse_string hvalue
  have hkey (more : Text) : 34 :: (ReplyField.replyText.key ++ 34 :: more) =
      34 :: (ReplyField.replyText.key ++ [34]) ++ more := by
    rw [List.cons_append, List.append_assoc, List.singleton_append]
  rw [hasFirstReplyCharacter, replyTextPrefix, dropWhile_before hspace (by decide),
    hkey (between ++ 58 :: (inner ++ 34 :: rest)), Json.expectWord_append]
  simp only [Option.bind_eq_bind, Option.bind_some, dropWhile_before hbetween
    (show isJsWhitespace 58 = false by decide), Json.expect_self, dropWhile_before hinner
    (show isJsWhitespace 34 = false by decide), Option.any_some, startsText_of_parseText hrest]

/-! ## A field is passed over -/

namespace ReplyProgressParser

variable {parser : ReplyProgressParser ν} {scan scan' : JsonScan}

/-- A backslash comes inside quotes only. -/
def EscapesInQuotes (scan : JsonScan) : Prop := scan.escaped = true → scan.quoted = true

theorem escapesInQuotes_next (scan : JsonScan) (unit : UInt16) :
    EscapesInQuotes (scan.next unit) := by
  rw [JsonScan.next]
  by_cases hescaped : scan.escaped = true
  · rw [if_pos hescaped]
    intro h
    cases h
  · rw [if_neg hescaped]
    by_cases hquoted : (scan.quoted && unit == 92) = true
    · rw [if_pos hquoted]
      intro _
      exact (Bool.and_eq_true_iff.1 hquoted).1
    · rw [if_neg hquoted]
      intro h
      cases h

/-- A scan by code points is the scan by units. -/
theorem scanCharacter_single (scan : JsonScan) (unit : UInt16) :
    scanCharacter scan [unit] = scan.next unit := by
  cases hescaped : scan.escaped <;>
    simp [scanCharacter, JsonScan.next, nestingChange, nesting, hescaped]

/-- A surrogate means nothing to a scan, but that it may be what a backslash stands before. -/
theorem next_surrogate {unit : UInt16} (h : isHighUnit unit = true ∨ isLowUnit unit = true)
    (scan : JsonScan) : scan.next unit = { scan with escaped := false } := by
  have hne (other : UInt16) (hother : isHighUnit other = false ∧ isLowUnit other = false) :
      unit ≠ other := by
    rintro rfl
    rw [hother.1, hother.2] at h
    rcases h with h | h <;> cases h
  have hnesting : nesting unit = 0 := by
    rw [nesting, if_neg, if_neg]
    · exact not_or.2 ⟨hne 125 (by decide), hne 93 (by decide)⟩
    · exact not_or.2 ⟨hne 123 (by decide), hne 91 (by decide)⟩
  have hquote := hne 34 (by decide)
  have hbackslash := hne 92 (by decide)
  cases hescaped : scan.escaped <;> simp [JsonScan.next, hnesting, hquote, hbackslash, hescaped]

theorem scanCharacter_pair {high low : UInt16} (hhigh : isHighUnit high = true)
    (hlow : isLowUnit low = true) (scan : JsonScan) :
    scanCharacter scan [high, low] = (scan.next high).next low := by
  rw [next_surrogate (.inl hhigh), next_surrogate (.inr hlow)]
  cases hescaped : scan.escaped <;> simp [scanCharacter, nestingChange, hescaped]

/-- The scan after the characters that a text begins with is the scan after its units. -/
theorem passOver_passOver (first second : JsonScan) (field field' : Text) (begins begins' : Bool) :
    (parser.passOver first field begins).passOver second field' begins' =
      parser.passOver second field' (begins || begins') := by
  cases hwriting : parser.writing <;> cases begins <;> cases begins' <;> simp [passOver, hwriting]

/-- A character is inside a field where its first unit parts no members. -/
theorem not_endsField {character : Text} {unit : UInt16} {rest : Text} (h : character = unit :: rest)
    (hparts : ¬Parts 1 parser.toJsonScan unit) : ¬parser.endsField character = true := by
  intro hends
  simp only [endsField, Bool.and_eq_true, Bool.or_eq_true, beq_iff_eq, Bool.not_eq_true'] at hends
  refine hparts ⟨hends.1.1, hends.1.2, ?_⟩
  rcases hends.2 with hcomma | hbrace
  · rw [h] at hcomma
    cases hcomma
    exact .inl rfl
  · rw [h] at hbrace
    cases hbrace
    exact .inr rfl

/-- Writing has begun once a character shows it outside quotes. -/
theorem begins_of_unquoted {character : Text} (hescapes : EscapesInQuotes parser.toJsonScan)
    (hquoted : (scanCharacter parser.toJsonScan character).quoted = false)
    (hfield : parser.fieldIndex = 4)
    (hfirst : hasFirstReplyCharacter (parser.field ++ character) = true) :
    parser.begins character = true := by
  rw [scanCharacter] at hquoted
  by_cases hescaped : parser.escaped = true
  · rw [if_pos hescaped, hescapes hescaped] at hquoted
    cases hquoted
  · rw [if_neg hescaped] at hquoted
    by_cases hbackslash : (parser.quoted && character == [92]) = true
    · rw [if_pos hbackslash, (Bool.and_eq_true_iff.1 hbackslash).1] at hquoted
      cases hquoted
    · simp [begins, hescaped, hbackslash, hfield, hfirst]

/-! ## The fields of an answer -/

/-- At the start of a field. -/
def atField (index : ℕ) (reported : List (ReplyProgress ν)) : ReplyProgressParser ν :=
  { (start : ReplyProgressParser ν) with depth := 1, fieldIndex := index, started := true, reported }

theorem key_plain (field : ReplyField) : field.key.all Json.isTextUnit = true := by
  cases field <;> decide

theorem passes_field {numbers : JsonNumbers ν} {field : ReplyField} {value : Json ν} {text : Text}
    (h : Json.MemberText numbers field.key value text) :
    Passes 1 (unquoted 1) text (unquoted 1) := h.passes (key_plain field) 1

/-- A field's text is an object of its own. -/
theorem parse_field {numbers : JsonNumbers ν} {field : ReplyField} {value : Json ν} {text : Text}
    (h : Json.MemberText numbers field.key value text) :
    Json.parse numbers (123 :: (text ++ [125])) = some (.object [(field.key, value)]) := by
  have hparse : Json.parse numbers (Json.objectText [] [text] []) =
      some (.object [(field.key, value)]) :=
    Json.parse_objectText nofun nofun (List.nodup_singleton _)
      (List.forall_mem_singleton.2 (key_plain field)) (.cons h .nil)
  rwa [Json.objectText, List.intercalate_singleton] at hparse

/-! ## Text of a field -/

variable [DecidableEq ν] {numbers : ReplyNumbers ν} {sentenceNumbers : List ν}

variable (numbers sentenceNumbers) in
/-- Text is added to the field; where it leaves quotes, writing has begun if the field shows a first
character of the reply. -/
structure PassedOver (parser : ReplyProgressParser ν) (text : Text) (scan : JsonScan) (begun : Bool) :
    Prop where
  foldl : (codePoints text).foldl (step numbers sentenceNumbers) parser =
    parser.passOver scan (parser.field ++ text) begun
  shown : begun = true →
    parser.fieldIndex = 4 ∧ hasFirstReplyCharacter (parser.field ++ text) = true
  noticed : text ≠ [] → scan.quoted = false → parser.fieldIndex = 4 →
    hasFirstReplyCharacter (parser.field ++ text) = true → begun = true

theorem PassedOver.nil :
    PassedOver numbers sentenceNumbers parser [] parser.toJsonScan false where
  foldl := by simp [codePoints, passOver]
  shown := nofun
  noticed h := absurd rfl h

/-- One character inside a field, and the rest. -/
theorem PassedOver.cons {unit : UInt16} {more rest : Text} {begun : Bool}
    (hstarted : parser.started = true) (hvalid : parser.invalid = false)
    (hescapes : EscapesInQuotes parser.toJsonScan) (hparts : ¬Parts 1 parser.toJsonScan unit)
    (hpoint : codePoints (unit :: more ++ rest) = (unit :: more) :: codePoints rest)
    (h : PassedOver numbers sentenceNumbers
      (parser.passOver (scanCharacter parser.toJsonScan (unit :: more))
        (parser.field ++ unit :: more) (parser.begins (unit :: more))) rest scan begun) :
    PassedOver numbers sentenceNumbers parser (unit :: more ++ rest) scan
      (parser.begins (unit :: more) || begun) := by
  have hstep : parser.step numbers sentenceNumbers (unit :: more) =
      parser.passOver (scanCharacter parser.toJsonScan (unit :: more))
        (parser.field ++ unit :: more) (parser.begins (unit :: more)) := by
    rw [step, if_neg (by simp [hvalid]), consume_inside hstarted (not_endsField rfl hparts)]
  have hfield : parser.field ++ unit :: more ++ rest = parser.field ++ (unit :: more ++ rest) :=
    List.append_assoc _ _ _
  refine ⟨?_, fun hbegun ↦ ?_, fun _ hquoted hindex hfirst ↦ ?_⟩
  · rw [hpoint, List.foldl_cons, hstep, h.foldl, passOver_passOver, ← hfield]
    rfl
  · rw [← hfield]
    rcases Bool.or_eq_true_iff.1 hbegun with hbegins | hbegun
    · simp only [begins, Bool.and_eq_true, beq_iff_eq] at hbegins
      exact ⟨hbegins.1.2, hasFirstReplyCharacter_append hbegins.2 rest⟩
    · exact h.shown hbegun
  · rw [← hfield] at hfirst
    rw [Bool.or_eq_true]
    by_cases hrest : rest = []
    · -- the last character is looked at, as it is outside quotes
      subst hrest
      rw [List.append_nil] at hfirst
      have hlast := congrArg ReplyProgressParser.toJsonScan h.foldl
      exact .inl (begins_of_unquoted hescapes (by rw [← hquoted]; exact congrArg _ hlast) hindex hfirst)
    · exact .inr (h.noticed hrest hquoted hindex hfirst)

variable (numbers sentenceNumbers) in
/-- Text that a scan passes over is added to the field. -/
theorem passedOver {text : Text} {scan' : JsonScan} (hstarted : parser.started = true)
    (hvalid : parser.invalid = false) (hscan : parser.toJsonScan = scan)
    (hpasses : Passes 1 scan text scan') (hescapes : EscapesInQuotes scan) :
    ∃ begun, PassedOver numbers sentenceNumbers parser text scan' begun := by
  induction text using scalar_induction generalizing parser scan with
  | nil =>
      cases hpasses
      rw [← hscan]
      exact ⟨false, .nil⟩
  | pair high low rest hhigh hlow ih =>
      cases hpasses with
      | cons hparts hpasses =>
          cases hpasses with
          | cons _ hpasses =>
              have hpair := scanCharacter_pair hhigh hlow scan
              obtain ⟨begun, hrest⟩ := @ih (parser.passOver (scanCharacter scan [high, low])
                  (parser.field ++ [high, low]) (parser.begins [high, low])) _
                hstarted hvalid hpair hpasses (escapesInQuotes_next _ low)
              subst hscan
              exact ⟨_, .cons hstarted hvalid hescapes hparts (codePoints_cons_pair hhigh hlow) hrest⟩
  | unit unit rest hunit ih =>
      cases hpasses with
      | cons hparts hpasses =>
          have hsingle := scanCharacter_single scan unit
          obtain ⟨begun, hrest⟩ := @ih (parser.passOver (scanCharacter scan [unit])
              (parser.field ++ [unit]) (parser.begins [unit])) _ hstarted hvalid hsingle hpasses (escapesInQuotes_next _ unit)
          subst hscan
          exact ⟨_, .cons hstarted hvalid hescapes hparts (codePoints_cons_unit hunit) hrest⟩

variable (numbers) in
/-- What is reported for a field. -/
def answered (field : ReplyField) (value : Json ν) : List (ReplyProgress ν) :=
  if field = .mainPoint then ((mainPointOf numbers value).map .answering).toList else []

/-- A field that the schema accepts is completed. -/
theorem completeField_of_accepts {field : ReplyField} {value : Json ν}
    (hfield : replyFields[parser.fieldIndex]? = some field)
    (hparse : Json.parse numbers.toJsonNumbers (123 :: (parser.field ++ [125])) =
      some (.object [(field.key, value)])) (haccepts : field.accepts numbers value = true)
    (hgiven : field = .mainPoint → ∀ mainPoint, mainPointOf numbers value = some mainPoint →
      ∀ n ∈ mainPoint, n ∈ sentenceNumbers) :
    parser.completeField numbers sentenceNumbers =
      { parser.nextField with reported := parser.reported ++ answered numbers field value } := by
  rw [completeField, hparse, hfield]
  simp only
  rw [if_neg (fun h ↦ h rfl), if_neg (by simp [haccepts])]
  by_cases hmain : field = .mainPoint
  · rw [if_pos hmain, answered, if_pos hmain]
    subst hmain
    obtain ⟨mainPoint, hpoint⟩ := Option.isSome_iff_exists.1 haccepts
    rw [hpoint]
    simp only
    rw [if_pos]
    · rfl
    · rw [List.all_eq_true]
      exact fun n mem ↦ List.contains_iff_mem.2 (hgiven rfl mainPoint hpoint n mem)
  · rw [if_neg hmain, answered, if_neg hmain, List.append_nil]
    rfl

variable (numbers sentenceNumbers) in
/-- A field's text is passed over from its start. -/
theorem passedOver_field (index : ℕ) (reported : List (ReplyProgress ν)) {field : ReplyField}
    {value : Json ν} {text : Text}
    (hmember : Json.MemberText numbers.toJsonNumbers field.key value text) :
    ∃ begun, PassedOver numbers sentenceNumbers (atField index reported) text (unquoted 1) begun :=
  passedOver numbers sentenceNumbers rfl rfl rfl (passes_field hmember) nofun

/-- A field before the last, and the comma behind it. -/
theorem foldl_field {index : ℕ} {field : ReplyField} {value : Json ν} {text : Text}
    (reported : List (ReplyProgress ν)) (hfield : replyFields[index]? = some field) (hlast : index ≠ 4)
    (hmember : Json.MemberText numbers.toJsonNumbers field.key value text)
    (haccepts : field.accepts numbers value = true)
    (hgiven : field = .mainPoint → ∀ mainPoint, mainPointOf numbers value = some mainPoint →
      ∀ n ∈ mainPoint, n ∈ sentenceNumbers) (rest : List Text) :
    (codePoints text ++ [44] :: rest).foldl (step numbers sentenceNumbers) (atField index reported) =
      rest.foldl (step numbers sentenceNumbers)
        (atField (index + 1) (reported ++ answered numbers field value)) := by
  obtain ⟨begun, h⟩ := passedOver_field numbers sentenceNumbers index reported hmember
  have hbegun : begun = false := by
    by_contra hbegun
    exact hlast (h.shown (by simpa using hbegun)).1
  rw [List.foldl_append, h.foldl, hbegun, List.foldl_cons]
  congr 1
  have hcomplete := @completeField_of_accepts ν
    ((atField index reported).passOver (unquoted 1) ((atField index reported).field ++ text) false) _
    numbers sentenceNumbers field value hfield (parse_field hmember) haccepts hgiven
  rw [step, if_neg (by simp [passOver, atField, start]), consume_end rfl rfl, if_neg (by decide),
    hcomplete]
  simp [passOver, atField, start, nextField, unquoted]

/-- Nothing is consumed any more once the parser is invalid. -/
theorem foldl_step_of_invalid (h : parser.invalid = true) (rest : List Text) :
    rest.foldl (step numbers sentenceNumbers) parser = parser := by
  induction rest with
  | nil => rfl
  | cons character rest ih => rw [List.foldl_cons, step, if_pos h, ih]

/-- The last field, and all that follows it. -/
theorem reported_last {field : ReplyField} {value : Json ν} {text : Text}
    (reported : List (ReplyProgress ν))
    (hmember : Json.MemberText numbers.toJsonNumbers field.key value text) (rest : List Text) :
    ((codePoints text ++ [125] :: rest).foldl (step numbers sentenceNumbers)
      (atField 4 reported)).reported =
        reported ++ if hasFirstReplyCharacter text = true then [.writing] else [] := by
  obtain ⟨begun, h⟩ := passedOver_field numbers sentenceNumbers 4 reported hmember
  have hbegun : begun = hasFirstReplyCharacter text := by
    obtain ⟨space, between, value, -, -, htext, -⟩ := hmember
    rw [Bool.eq_iff_iff]
    exact ⟨fun hbegun ↦ (h.shown hbegun).2, h.noticed (by simp [htext]) rfl rfl⟩
  have hreported (last : ReplyProgressParser ν) (hlast : last.fieldIndex = 4) :
      (last.completeField numbers sentenceNumbers).reported = last.reported := by
    rcases completeField_cases sentenceNumbers last numbers with
      hcase | ⟨hcase, -⟩ | ⟨mainPoint, -, hindex, -⟩
    · rw [hcase]
      rfl
    · rw [hcase]
      rfl
    · rw [hlast] at hindex
      cases hindex
  rw [List.foldl_append, h.foldl, List.foldl_cons, step, if_neg (by simp [passOver, atField, start]),
    consume_end rfl rfl, if_pos rfl, foldl_step_of_invalid rfl]
  refine (hreported _ rfl).trans ?_
  rw [← hbegun]
  rfl

theorem step_start (character : Text) : (start : ReplyProgressParser ν).step numbers sentenceNumbers
    character = start.consume numbers sentenceNumbers character := if_neg Bool.false_ne_true

/-- The white space before an answer. -/
theorem foldl_space {space : Text} (h : Json.AllSpace space) :
    (codePoints space).foldl (step numbers sentenceNumbers) start = start := by
  induction space with
  | nil => rfl
  | cons unit space ih =>
      have hunit := h unit List.mem_cons_self
      simp only [Json.isSpace, Bool.or_eq_true, beq_iff_eq] at hunit
      have hhigh : isHighUnit unit = false := by
        rcases hunit with ((rfl | rfl) | rfl) | rfl <;> decide
      have hwhite : [unit].all isJsWhitespace = true := by
        rcases hunit with ((rfl | rfl) | rfl) | rfl <;> decide
      rw [codePoints_cons hhigh, List.foldl_cons, step_start, consume,
        if_pos (by rfl), if_pos hwhite]
      exact ih fun u mem ↦ h u (List.mem_cons_of_mem _ mem)

theorem step_brace :
    (start : ReplyProgressParser ν).step numbers sentenceNumbers [123] = atField 0 [] := by
  rw [step_start, consume, if_pos (by rfl), if_neg (by decide),
    if_neg (by decide)]
  rfl

end ReplyProgressParser

/-! ## A whole answer -/

section Output

open ReplyProgressParser

/-- Keys are those of their fields only. -/
theorem key_beq (field other : ReplyField) : (field.key == other.key) = decide (field = other) := by
  cases field <;> cases other <;> decide

variable {numbers : ReplyNumbers ν} {members : List (Text × Json ν)} {output : ReplyDraftingOutput ν}

theorem keys_plain : ∀ key ∈ replyFields.map ReplyField.key, key.all Json.isTextUnit = true :=
  List.forall_mem_map.2 fun field _ ↦ key_plain field

/-- The members of an answer that the schema accepts, its keys in the declared order. -/
theorem members_of_output (hkeys : Json.keysOf members = replyFields.map ReplyField.key)
    (houtput : replyDraftingOutput numbers members = some output) :
    ∃ languageCode replyCase mainPoint avoidTerms replyText : Json ν,
      members = [(ReplyField.languageCode.key, languageCode), (ReplyField.replyCase.key, replyCase),
        (ReplyField.mainPoint.key, mainPoint), (ReplyField.avoidTerms.key, avoidTerms),
        (ReplyField.replyText.key, replyText)] ∧
      languageCodeOf languageCode = some output.languageCode ∧
      caseOf replyCase = some output.replyCase ∧
      mainPointOf numbers mainPoint = some output.mainPoint ∧
      avoidTermsOf avoidTerms = some output.avoidTerms ∧
      replyTextOf replyText = some output.replyText := by
  have hlength := congrArg List.length hkeys
  rw [Json.keysOf, List.length_map, List.length_map] at hlength
  cases members with
  | nil => cases hlength
  | cons m₀ members =>
      obtain ⟨m₁, m₂, m₃, m₄, rfl⟩ := List.length_eq_four.1 (Nat.succ.inj hlength)
      obtain ⟨n₀, v₀⟩ := m₀
      obtain ⟨n₁, v₁⟩ := m₁
      obtain ⟨n₂, v₂⟩ := m₂
      obtain ⟨n₃, v₃⟩ := m₃
      obtain ⟨n₄, v₄⟩ := m₄
      simp only [Json.keysOf, replyFields, List.map_cons, List.map_nil, List.cons.injEq,
        and_true] at hkeys
      obtain ⟨rfl, rfl, rfl, rfl, rfl⟩ := hkeys
      simp only [replyDraftingOutput, memberOf, List.find?, key_beq, reduceCtorEq, decide_false,
        decide_true, Option.map_some, Option.bind_some, Option.bind_eq_bind] at houtput
      simp only [Option.bind_eq_some_iff] at houtput
      obtain ⟨languageCode, hlanguage, replyCase, hcase, mainPoint, hmain, avoidTerms, havoid,
        replyText, hreply, houtput⟩ := houtput
      split_ifs at houtput
      cases houtput
      exact ⟨v₀, v₁, v₂, v₃, v₄, rfl, hlanguage, hcase, hmain, havoid, hreply⟩

/-- A reply that the schema accepts is not empty, before trimming and after. -/
theorem replyText_ne_nil {raw reply : Text} (h : replyTextOf (.string raw : Json ν) = some reply) :
    raw ≠ [] ∧ reply ≠ [] := by
  rw [replyTextOf, textWithin] at h
  split_ifs at h with hlength
  cases h
  constructor
  · rintro rfl
    exact absurd hlength.1 (by decide)
  · intro hempty
    rw [hempty] at hlength
    exact absurd hlength.1 (by decide)

variable [DecidableEq ν] {sentenceNumbers : List ν}

/-- An answer that is read as a whole is reported as it is read. -/
theorem reported_of_answer {text : Text} (hparse : Json.parse numbers.toJsonNumbers text =
      some (.object members)) (hkeys : Json.keysOf members = replyFields.map ReplyField.key)
    (hwritten : Json.KeysWritten numbers.toJsonNumbers (replyFields.map ReplyField.key) text)
    (houtput : replyDraftingOutput numbers members = some output)
    (hgiven : ∀ n ∈ output.mainPoint, n ∈ sentenceNumbers) :
    ((codePoints text).foldl (step numbers sentenceNumbers) start).reported =
      .answering output.mainPoint :: if output.replyText = [] then [] else [.writing] := by
  obtain ⟨languageCode, replyCase, mainPoint, avoidTerms, replyText, hmembers, hlanguage, hcase, hmain,
    havoid, hreply⟩ := members_of_output hkeys houtput
  subst hmembers
  obtain ⟨before, texts, after, hbefore, hafter, rfl, written⟩ := Json.KeysWritten.memberTexts
    (by rwa [hkeys]) (List.cons_ne_nil _ _) (by rw [hkeys]; decide) (by rw [hkeys]; exact keys_plain) hparse
  cases written with
  | @cons _ text₀ _ texts h₀ written => cases written with
  | @cons _ text₁ _ texts h₁ written => cases written with
  | @cons _ text₂ _ texts h₂ written => cases written with
  | @cons _ text₃ _ texts h₃ written => cases written with
  | @cons _ text₄ _ texts h₄ written => cases written with
  | nil =>
      have hother {field : ReplyField} {value : Json ν} (h : field ≠ .mainPoint) :
          field = .mainPoint → ∀ mainPoint, mainPointOf numbers value = some mainPoint →
            ∀ n ∈ mainPoint, n ∈ sentenceNumbers := fun heq ↦ absurd heq h
      obtain ⟨raw, rfl⟩ : ∃ raw, replyText = .string raw := by
        cases replyText with
        | string raw => exact ⟨raw, rfl⟩
        | _ => cases hreply
      simp only [Json.objectText, Json.commas_cons, List.intercalate_singleton, List.append_assoc,
        List.cons_append]
      have hlast : Json.MemberText numbers.toJsonNumbers ReplyField.replyText.key (.string raw) text₄ := h₄
      have hcut (text rest : Text) (unit : UInt16) (h : isHighUnit unit = false ∧
          isLowUnit unit = false) := codePoints_append_cons h.1 h.2 text rest
      rw [hcut _ _ 123 (by decide), hcut _ _ 44 (by decide), hcut _ _ 44 (by decide),
        hcut _ _ 44 (by decide), hcut _ _ 44 (by decide), hcut _ _ 125 (by decide), List.foldl_append,
        foldl_space hbefore, List.foldl_cons, step_brace,
        foldl_field [] rfl (by decide) h₀ (by simp [ReplyField.accepts, hlanguage]) (hother (by decide)),
        foldl_field _ rfl (by decide) h₁ (by simp [ReplyField.accepts, hcase]) (hother (by decide)),
        foldl_field _ rfl (by decide) h₂ (by simp [ReplyField.accepts, hmain])
          (fun _ read hread ↦ by rw [hmain] at hread; cases hread; exact hgiven),
        foldl_field _ rfl (by decide) h₃ (by simp [ReplyField.accepts, havoid]) (hother (by decide)),
        reported_last _ hlast, hasFirstReplyCharacter_eq hlast]
      obtain ⟨hraw, houtput⟩ := replyText_ne_nil hreply
      simp [answered, hmain, hraw, houtput]

end Output

section Claim

/-- The natural numbers, written in decimal digits. -/
def decimalNumbers : ReplyNumbers ℕ where
  zero := 0
  stringify n := (Nat.toDigits 10 n).map fun c ↦ UInt16.ofNat c.toNat
  read text := if text.all fun unit ↦ 48 ≤ unit && unit ≤ 57 then
    some (text.foldl (fun n unit ↦ 10 * n + (unit.toNat - 48)) 0) else none
  isPositiveSafe n := 0 < n && n < 9007199254740992

/-- The texts of an answer's members. -/
def thanksTexts : List Text :=
  [asciiText "\"languageCode\":\"en\"", asciiText "\"case\":\"praise\"", asciiText "\"mainPoint\":[1]",
    asciiText "\"avoidTerms\":[]", asciiText "\"replyText\":\"Thank you for your visit!\""]

/-- The members of that answer. -/
def thanksMembers : List (Text × Json ℕ) :=
  [(asciiText "languageCode", .string (asciiText "en")), (asciiText "case", .string (asciiText "praise")),
    (asciiText "mainPoint", .array [.number 1]), (asciiText "avoidTerms", .array []),
    (asciiText "replyText", .string (asciiText "Thank you for your visit!"))]

/-- That answer behind white space. -/
def thanksAfter (spaces : ℕ) : Text := Json.objectText (List.replicate spaces 32) thanksTexts []

/-- What the schema makes of it. -/
def thanksOutput : ReplyDraftingOutput ℕ where
  languageCode := asciiText "en"
  replyCase := .praise
  mainPoint := [1]
  avoidTerms := []
  replyText := asciiText "Thank you for your visit!"

theorem parse_plainText {key : Text} (h : key.all Json.isTextUnit = true) :
    Json.parse decimalNumbers.toJsonNumbers (34 :: (key ++ [34])) = some (.string key) := by
  have hvalue : Json.ReadsValue decimalNumbers.toJsonNumbers (.string key) (34 :: (key ++ [34])) :=
    .string (Json.readsText_key h)
  have hparse := @Json.ReadsValue.parse_eq _ _ _ [] _ [] hvalue nofun nofun
  rwa [List.append_nil, List.nil_append] at hparse

theorem thanks_written : List.Forall₂
    (fun m text ↦ Json.MemberText decimalNumbers.toJsonNumbers m.1 m.2 text) thanksMembers
    thanksTexts := by
  refine .cons ?_ (.cons ?_ (.cons ?_ (.cons ?_ (.cons ?_ .nil))))
  · exact ⟨[], [], 34 :: (asciiText "en" ++ [34]), nofun, nofun, by decide, parse_plainText (by decide)⟩
  · exact ⟨[], [], 34 :: (asciiText "praise" ++ [34]), nofun, nofun, by decide,
      parse_plainText (by decide)⟩
  · exact ⟨[], [], [91, 49, 93], nofun, nofun, by decide, by rfl⟩
  · exact ⟨[], [], [91, 93], nofun, nofun, by decide, by rfl⟩
  · exact ⟨[], [], 34 :: (asciiText "Thank you for your visit!" ++ [34]), nofun, nofun, by decide,
      parse_plainText (by decide)⟩

theorem allSpace_replicate (spaces : ℕ) : Json.AllSpace (List.replicate spaces 32) := by
  intro unit mem
  rw [(List.mem_replicate.1 mem).2]
  decide

theorem parse_thanks (spaces : ℕ) :
    Json.parse decimalNumbers.toJsonNumbers (thanksAfter spaces) = some (.object thanksMembers) :=
  Json.parse_objectText (allSpace_replicate spaces) nofun (by decide)
    (fun _ mem ↦ keys_plain _ (List.mem_map_of_mem mem)) thanks_written

theorem thanks_keysWritten (spaces : ℕ) :
    Json.KeysWritten decimalNumbers.toJsonNumbers (replyFields.map ReplyField.key)
      (thanksAfter spaces) := by
  have hkeys : List.Forall₂
      (fun key text ↦ ∃ x, Json.MemberText decimalNumbers.toJsonNumbers key x text)
      (thanksMembers.map Prod.fst) thanksTexts :=
    List.forall₂_map_left_iff.2 (thanks_written.imp fun m _ h ↦ ⟨m.2, h⟩)
  exact ⟨_, _, [], allSpace_replicate spaces, nofun, rfl, hkeys⟩

variable [DecidableEq ν] (numbers : ReplyNumbers ν) (sentenceNumbers : List ν)

/-- Nothing is reported of a text in one piece that is larger than the parser looks at. -/
theorem replyProgress_of_large {text : Text} (h : 16384 < (utf8Bytes text).length) :
    replyProgress numbers sentenceNumbers [text] = [] := by
  rw [replyProgress, List.foldl_cons, List.foldl_nil, ReplyProgressParser.receive,
    ReplyProgressParser.foldl_step_of_invalid]
  · rfl
  · simpa [ReplyProgressParser.start] using h

/-- Live reply progress never guesses. -/
theorem reply_progress_never_guesses :
    (∀ deltas, InOrder sentenceNumbers (replyProgress numbers sentenceNumbers deltas)) ∧
      (∀ text deltas deltas', (utf8Bytes text).length ≤ 16384 → CutsBetween text deltas →
        CutsBetween text deltas' → replyProgress numbers sentenceNumbers deltas =
          replyProgress numbers sentenceNumbers deltas') ∧
      ∀ text deltas members output, (utf8Bytes text).length ≤ 16384 → CutsBetween text deltas →
        Json.parse numbers.toJsonNumbers text = some (.object members) →
        Json.keysOf members = replyFields.map ReplyField.key →
        Json.KeysWritten numbers.toJsonNumbers (replyFields.map ReplyField.key) text →
        replyDraftingOutput numbers members = some output →
        (∀ n ∈ output.mainPoint, n ∈ sentenceNumbers) →
          replyProgress numbers sentenceNumbers deltas =
            .answering output.mainPoint :: if output.replyText = [] then [] else [.writing] := by
  refine ⟨replyProgress_inOrder numbers, fun text deltas deltas' hbytes hcut hcut' ↦ ?_,
    fun text deltas members output hbytes hcut hparse hkeys hwritten houtput hgiven ↦ ?_⟩
  · rw [replyProgress_of_cut numbers hcut hbytes, replyProgress_of_cut numbers hcut' hbytes]
  · rw [replyProgress_of_cut numbers hcut hbytes]
    exact reported_of_answer hparse hkeys hwritten houtput hgiven

/-- An answer that thanks is reported, behind a little white space and in one piece. -/
theorem reply_progress_thanks : replyProgress decimalNumbers [1, 2] [thanksAfter 3] =
    [.answering [1], .writing] := by
  have hbytes : (utf8Bytes (thanksAfter 3)).length ≤ 16384 := by decide +kernel
  exact (reply_progress_never_guesses decimalNumbers [1, 2]).2.2 (thanksAfter 3) [thanksAfter 3]
    thanksMembers thanksOutput hbytes (cutsBetween_self _) (parse_thanks 3) rfl (thanks_keysWritten 3)
    (by rfl) (by simp [thanksOutput])

/-- The same answer behind more white space than the parser looks at is read as well, but nothing of
it is reported. -/
theorem large_answer_is_not_reported :
    Json.parse decimalNumbers.toJsonNumbers (thanksAfter 16385) = some (.object thanksMembers) ∧
      Json.keysOf thanksMembers = replyFields.map ReplyField.key ∧
      Json.KeysWritten decimalNumbers.toJsonNumbers (replyFields.map ReplyField.key)
        (thanksAfter 16385) ∧
      replyDraftingOutput decimalNumbers thanksMembers = some thanksOutput ∧
      thanksOutput.mainPoint = [1] ∧ CutsBetween (thanksAfter 16385) [thanksAfter 16385] ∧
      replyProgress decimalNumbers [1] [thanksAfter 16385] = [] := by
  refine ⟨parse_thanks _, rfl, thanks_keysWritten _, rfl, rfl, cutsBetween_self _,
    replyProgress_of_large _ _ ?_⟩
  have hlength : 16384 < (thanksAfter 16385).length := by
    rw [thanksAfter, Json.objectText, List.length_append, List.length_replicate]
    exact Nat.lt_of_lt_of_le (Nat.lt_succ_self _) (Nat.le_add_right _ _)
  exact lt_of_lt_of_le hlength (length_le_utf8Bytes _)

end Claim

end ReputationKey.Ai
