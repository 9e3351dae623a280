import ReputationKey.Base.JsonText

/-!
# Scanning JSON texts

A scan of a JSON text that knows how deep in brackets it is, whether it is inside quotes, and
whether a backslash came before: a value that `JSON.parse` reads is passed over without leaving the
depth it starts at, and what is read of a value does not depend on what comes behind it.
-/

namespace ReputationKey.Base

/-- Where a scan of a JSON text stands. -/
structure JsonScan where
  depth : ℤ
  quoted : Bool
  escaped : Bool

namespace JsonScan

/-- How far a code unit goes into brackets or out of them. -/
def nesting (unit : UInt16) : ℤ :=
  if unit = 123 ∨ unit = 91 then 1 else if unit = 125 ∨ unit = 93 then -1 else 0

/-- One code unit. -/
def next (s : JsonScan) (unit : UInt16) : JsonScan :=
  if s.escaped then { s with escaped := false }
  else if s.quoted && unit == 92 then { s with escaped := true }
  else
    let quoted := if unit = 34 then !s.quoted else s.quoted
    { depth := if quoted then s.depth else s.depth + nesting unit, quoted, escaped := false }

/-- Outside quotes. -/
def unquoted (depth : ℤ) : JsonScan := ⟨depth, false, false⟩

/-- Inside quotes. -/
def inQuotes (depth : ℤ) : JsonScan := ⟨depth, true, false⟩

/-- A code unit that parts or ends the members of an object at a depth. -/
def Parts (depth : ℤ) (s : JsonScan) (unit : UInt16) : Prop :=
  s.quoted = false ∧ s.depth = depth ∧ (unit = 44 ∨ unit = 125)

/-- A text that a scan passes over without meeting the end of a member at a depth. -/
inductive Passes (depth : ℤ) : JsonScan → List UInt16 → JsonScan → Prop
  | nil (s : JsonScan) : Passes depth s [] s
  | cons {s t : JsonScan} {unit : UInt16} {rest : List UInt16} : ¬Parts depth s unit →
      Passes depth (s.next unit) rest t → Passes depth s (unit :: rest) t

variable {depth : ℤ} {s t r : JsonScan} {text more : List UInt16} {unit : UInt16}

theorem Passes.append (first : Passes depth s text t) (second : Passes depth t more r) :
    Passes depth s (text ++ more) r := by
  induction first with
  | nil => exact second
  | cons hunit _ ih => exact .cons hunit (ih second)

theorem Passes.single (h : ¬Parts depth s unit) : Passes depth s [unit] (s.next unit) :=
  .cons h (.nil _)

/-- A code unit that means nothing outside quotes. -/
def isPlainUnit (unit : UInt16) : Bool :=
  unit != 34 && unit != 44 && unit != 91 && unit != 93 && unit != 123 && unit != 125

@[simp] theorem next_plain (h : isPlainUnit unit = true) (depth : ℤ) :
    (unquoted depth).next unit = unquoted depth := by
  simp only [isPlainUnit, Bool.and_eq_true, bne_iff_ne] at h
  simp [next, unquoted, nesting, h]

@[simp] theorem next_quote (depth : ℤ) : (unquoted depth).next 34 = inQuotes depth := rfl

@[simp] theorem next_endQuote (depth : ℤ) : (inQuotes depth).next 34 = unquoted depth := by
  simp [next, unquoted, inQuotes, nesting]

theorem next_in (h : unit ≠ 34) (h' : unit ≠ 92) : (inQuotes depth).next unit = inQuotes depth := by
  simp [next, inQuotes, h, h']

theorem next_escape (letter : UInt16) :
    ((inQuotes depth).next 92).next letter = inQuotes depth := by
  simp [next, inQuotes]

theorem not_parts_inQuotes (depth depth' : ℤ) (unit : UInt16) : ¬Parts depth (inQuotes depth') unit :=
  fun h ↦ by cases h.1

/-- Code units that mean nothing are passed over. -/
theorem passes_plain (depth depth' : ℤ) (h : ∀ unit ∈ text, isPlainUnit unit = true) :
    Passes depth (unquoted depth') text (unquoted depth') := by
  induction text with
  | nil => exact .nil _
  | cons unit text ih =>
      have hunit := h unit List.mem_cons_self
      apply Passes.cons
      · rintro ⟨-, -, rfl | rfl⟩ <;> exact absurd hunit (by decide)
      · rw [next_plain hunit]
        exact ih fun u mem ↦ h u (List.mem_cons_of_mem _ mem)

theorem isPlainUnit_of_isSpace (h : Json.isSpace unit = true) : isPlainUnit unit = true := by
  simp only [Json.isSpace, Bool.or_eq_true, beq_iff_eq] at h
  rcases h with ((rfl | rfl) | rfl) | rfl <;> decide

theorem isPlainUnit_of_isNumberUnit (h : Json.isNumberUnit unit = true) : isPlainUnit unit = true := by
  simp only [isPlainUnit, Bool.and_eq_true, bne_iff_ne]
  refine ⟨⟨⟨⟨⟨?_, ?_⟩, ?_⟩, ?_⟩, ?_⟩, ?_⟩ <;> rintro rfl <;> exact absurd h (by decide)

theorem passes_spaces (depth depth' : ℤ) (h : ∀ unit ∈ text, Json.isSpace unit = true) :
    Passes depth (unquoted depth') text (unquoted depth') :=
  passes_plain depth depth' fun unit mem ↦ isPlainUnit_of_isSpace (h unit mem)

/-- A bracket at a depth that matters, or deeper. -/
theorem passes_open (hunit : unit = 123 ∨ unit = 91) {depth' : ℤ} :
    Passes depth (unquoted depth') [unit] (unquoted (depth' + 1)) := by
  have hparts : ¬Parts depth (unquoted depth') unit := by
    rintro ⟨-, -, rfl | rfl⟩ <;> revert hunit <;> decide
  have hnext := Passes.single hparts
  rcases hunit with rfl | rfl <;> exact hnext

/-- A bracket or a comma deeper than the depth that matters. -/
theorem not_parts_deeper {depth' : ℤ} (deeper : depth < depth') (unit : UInt16) :
    ¬Parts depth (unquoted depth') unit := by
  rintro ⟨-, rfl, -⟩
  exact lt_irrefl _ deeper

theorem passes_close (hunit : unit = 125 ∨ unit = 93) {depth' : ℤ} (inside : depth ≤ depth') :
    Passes depth (unquoted (depth' + 1)) [unit] (unquoted depth') := by
  have hparts := not_parts_deeper (show depth < depth' + 1 by omega) unit
  have hnext := Passes.single hparts
  have hdepth : (unquoted (depth' + 1)).next unit = unquoted depth' := by
    have hsum : depth' + 1 + -1 = depth' := by omega
    rcases hunit with rfl | rfl <;> exact congrArg unquoted hsum
  rwa [hdepth] at hnext

theorem passes_comma {depth' : ℤ} (deeper : depth < depth') :
    Passes depth (unquoted depth') [44] (unquoted depth') := by
  have hnext := Passes.single (not_parts_deeper deeper 44)
  have hdepth : (unquoted depth').next 44 = unquoted depth' := by
    simp [next, unquoted, nesting]
  rwa [hdepth] at hnext

end JsonScan

namespace Json

open JsonScan

variable {ν : Type} {numbers : JsonNumbers ν} {text rest : List UInt16}

/-! ## What is read of a text does not depend on what comes behind it -/

theorem parseText_quoted (rest : List UInt16) : parseText (34 :: rest) = some ([], rest) := by
  rw [parseText.eq_def]
  cases rest <;> rfl

theorem parseText_plain {unit : UInt16} (h : unit ≠ 34) (h' : unit ≠ 92) (h'' : ¬unit < 32)
    (rest : List UInt16) :
    parseText (unit :: rest) = (parseText rest).map fun read ↦ (unit :: read.1, read.2) := by
  cases rest with
  | nil => simp [parseText, h]
  | cons next rest =>
      rw [parseText.eq_def]
      simp only
      rw [if_neg h, if_neg h', if_neg h'']

/-- A text in quotes is read up to its closing quote, whatever comes behind it, and passed over. -/
structure ReadsText (read text : List UInt16) : Prop where
  parse : ∀ more, parseText (text ++ more) = some (read, more)
  passes : ∀ depth depth', Passes depth (inQuotes depth') text (unquoted depth')

theorem ReadsText.nil : ReadsText [] [34] where
  parse := parseText_quoted
  passes depth depth' := by
    have hnext := Passes.single (not_parts_inQuotes depth depth' 34)
    rwa [next_endQuote] at hnext

theorem ReadsText.escape {read text : List UInt16} {letter unit : UInt16} (hletter : letter ≠ 117)
    (hunit : unescape letter = some unit) (h : ReadsText read text) :
    ReadsText (unit :: read) (92 :: letter :: text) where
  parse more := by
    rw [List.cons_append, List.cons_append, parseText.eq_def]
    simp only
    rw [if_neg (by decide), if_pos trivial, if_neg hletter, hunit, h.parse]
    rfl
  passes depth depth' := by
    apply Passes.cons (not_parts_inQuotes _ _ _)
    apply Passes.cons
    · rintro ⟨hquoted, -⟩
      simp [next, inQuotes] at hquoted
    · rw [next_escape]
      exact h.passes depth depth'

theorem hexValue_ne {unit value : UInt16} (h : hexValue unit = some value) :
    unit ≠ 34 ∧ unit ≠ 92 := by
  constructor <;> rintro rfl <;> cases h

theorem ReadsText.hex {read text : List UInt16} {a b c d a' b' c' d' : UInt16}
    (ha : hexValue a = some a') (hb : hexValue b = some b') (hc : hexValue c = some c')
    (hd : hexValue d = some d') (h : ReadsText read text) :
    ReadsText ((4096 * a' + 256 * b' + 16 * c' + d') :: read)
      (92 :: 117 :: a :: b :: c :: d :: text) where
  parse more := by
    simp only [List.cons_append]
    rw [parseText, if_neg (by decide), if_pos rfl, if_pos rfl]
    simp only [ha, hb, hc, hd, h.parse more, Option.bind_eq_bind, Option.bind_some, pure]
  passes depth depth' := by
    have hpasses {unit value : UInt16} {text : List UInt16} (hunit : hexValue unit = some value)
        (htext : Passes depth (inQuotes depth') text (unquoted depth')) :
        Passes depth (inQuotes depth') (unit :: text) (unquoted depth') := by
      apply Passes.cons (not_parts_inQuotes _ _ _)
      rwa [next_in (hexValue_ne hunit).1 (hexValue_ne hunit).2]
    apply Passes.cons (not_parts_inQuotes _ _ _)
    apply Passes.cons
    · rintro ⟨hquoted, -⟩
      simp [next, inQuotes] at hquoted
    · rw [next_escape]
      exact hpasses ha (hpasses hb (hpasses hc (hpasses hd (h.passes depth depth'))))

theorem ReadsText.plain {read text : List UInt16} {unit : UInt16} (h34 : unit ≠ 34) (h92 : unit ≠ 92)
    (hcontrol : ¬unit < 32) (h : ReadsText read text) :
    ReadsText (unit :: read) (unit :: text) where
  parse more := by
    rw [List.cons_append, parseText_plain h34 h92 hcontrol, h.parse]
    rfl
  passes depth depth' := by
    apply Passes.cons (not_parts_inQuotes _ _ _)
    rw [next_in h34 h92]
    exact h.passes depth depth'

/-- What is read of a text in quotes is read of its part up to the closing quote. -/
theorem parseText_eq_some {read : List UInt16} (h : parseText text = some (read, rest)) :
    ∃ part, text = part ++ rest ∧ ReadsText read part := by
  induction text using parseText.induct generalizing read rest with
  | case1 => rw [parseText.eq_def] at h; cases h
  | case2 =>
      rw [parseText_quoted] at h
      cases h
      exact ⟨[34], rfl, .nil⟩
  | case3 unit hunit =>
      rw [parseText.eq_def] at h
      simp [hunit] at h
  | case4 letter more =>
      rw [parseText_quoted] at h
      cases h
      exact ⟨[34], rfl, .nil⟩
  | case5 a b c d more _ ih =>
      rw [parseText, if_neg (by decide), if_pos rfl, if_pos rfl] at h
      simp only [Option.bind_eq_bind, Option.bind_eq_some_iff, pure, Option.some.injEq,
        Prod.mk.injEq] at h
      obtain ⟨a', ha, b', hb, c', hc, d', hd, ⟨read', rest'⟩, hrest, rfl, rfl⟩ := h
      obtain ⟨part, rfl, hpart⟩ := ih hrest
      exact ⟨_, rfl, hpart.hex ha hb hc hd⟩
  | case6 more hmore _ =>
      rw [parseText, if_neg (by decide), if_pos rfl, if_pos rfl] at h
      · cases h
      · exact hmore
  | case7 letter more hletter _ ih =>
      rw [parseText.eq_def] at h
      simp only at h
      rw [if_neg (by decide), if_pos trivial, if_neg hletter] at h
      simp only [Option.bind_eq_bind, Option.bind_eq_some_iff, pure, Option.some.injEq,
        Prod.mk.injEq] at h
      obtain ⟨unit, hunit, ⟨read', rest'⟩, hrest, rfl, rfl⟩ := h
      obtain ⟨part, rfl, hpart⟩ := ih hrest
      exact ⟨_, rfl, hpart.escape hletter hunit⟩
  | case8 unit letter more h34 h92 hcontrol =>
      rw [parseText.eq_def] at h
      simp [h34, h92, hcontrol] at h
  | case9 unit letter more h34 h92 hcontrol ih =>
      rw [parseText_plain h34 h92 hcontrol, Option.map_eq_some_iff] at h
      obtain ⟨⟨read', rest'⟩, hrest, hread⟩ := h
      cases hread
      obtain ⟨part, hmore, hpart⟩ := ih hrest
      rw [hmore]
      exact ⟨_, rfl, hpart.plain h34 h92 hcontrol⟩

/-! ## White space and brackets -/

theorem expect_eq_some {unit : UInt16} (h : expect unit text = some rest) : text = unit :: rest := by
  cases text with
  | nil => cases h
  | cons first more =>
      rw [expect] at h
      split_ifs at h with hunit
      cases h
      rw [hunit]

theorem expect_ne {unit other : UInt16} (h : unit ≠ other) (rest : List UInt16) :
    expect other (unit :: rest) = none := if_neg h

/-- A text is its white space and what is left after it. -/
theorem skipSpace_split (text : List UInt16) :
    ∃ space, text = space ++ skipSpace text ∧ ∀ unit ∈ space, isSpace unit = true :=
  ⟨text.takeWhile isSpace, List.takeWhile_append_dropWhile.symm,
    fun _ mem ↦ List.mem_takeWhile_imp mem⟩

theorem skipSpace_append {space : List UInt16} (h : ∀ unit ∈ space, isSpace unit = true)
    (text : List UInt16) : skipSpace (space ++ text) = skipSpace text :=
  List.dropWhile_append_of_pos h

/-- White space before a unit that is none. -/
theorem skipSpace_before {space : List UInt16} {unit : UInt16} (h : ∀ unit ∈ space, isSpace unit = true)
    (hunit : isSpace unit = false) (more : List UInt16) :
    skipSpace (space ++ unit :: more) = unit :: more := by
  rw [skipSpace_append h, skipSpace, List.dropWhile_cons_of_neg (by simp [hunit])]

/-- A unit that a text goes on with after white space. -/
theorem expect_skipSpace {unit : UInt16} (h : expect unit (skipSpace text) = some rest) :
    ∃ space, text = space ++ unit :: rest ∧ ∀ unit ∈ space, isSpace unit = true := by
  obtain ⟨space, htext, hspace⟩ := skipSpace_split text
  rw [expect_eq_some h] at htext
  exact ⟨space, htext, hspace⟩

theorem isNumberUnit_of_isSpace {unit : UInt16} (h : isSpace unit = true) :
    isNumberUnit unit = false := by
  simp only [isSpace, Bool.or_eq_true, beq_iff_eq] at h
  rcases h with ((rfl | rfl) | rfl) | rfl <;> decide

/-- White space, and a unit that belongs to no number, end a number. -/
theorem endsNumber_before {space : List UInt16} {unit : UInt16}
    (h : ∀ unit ∈ space, isSpace unit = true) (hunit : isNumberUnit unit = false)
    (more : List UInt16) : EndsNumber (space ++ unit :: more) := by
  intro first hfirst
  cases space with
  | nil =>
      cases hfirst
      exact hunit
  | cons blank space =>
      cases hfirst
      exact isNumberUnit_of_isSpace (h _ List.mem_cons_self)

/-! ## Values -/

/-- A text is read as a value, whatever comes behind it, and passed over. -/
structure ReadsValue (numbers : JsonNumbers ν) (value : Json ν) (text : List UInt16) : Prop where
  starts : StartsValue text
  parse : ∀ fuel more, text.length ≤ fuel → EndsNumber more →
    parseValue numbers fuel (text ++ more) = some (value, more)
  passes : ∀ depth depth', depth ≤ depth' → Passes depth (unquoted depth') text (unquoted depth')

/-- A text is read as the elements of an array, up to the bracket that closes it. -/
structure ReadsElements (numbers : JsonNumbers ν) (elements : List (Json ν)) (text : List UInt16) :
    Prop where
  starts : StartsValue text
  parse : ∀ fuel more, text.length ≤ fuel →
    parseElements numbers fuel (text ++ more) = some (elements, more)
  passes : ∀ depth depth', depth ≤ depth' →
    Passes depth (unquoted (depth' + 1)) text (unquoted depth')

/-- A text is read as members behind those read so far, up to the bracket that closes the object. -/
structure ReadsMembers (numbers : JsonNumbers ν) (before members : List (List UInt16 × Json ν))
    (text : List UInt16) : Prop where
  starts : StartsValue text
  parse : ∀ fuel more, text.length ≤ fuel →
    parseMembers numbers fuel before (text ++ more) = some (members, more)
  passes : ∀ depth depth', depth ≤ depth' →
    Passes depth (unquoted (depth' + 1)) text (unquoted depth')

/-- A word made of letters. -/
theorem ReadsValue.word {value : Json ν} {first : UInt16} {word : List UInt16}
    (hplain : ∀ unit ∈ first :: word, isPlainUnit unit = true)
    (hfirst : isSpace first = false)
    (hparse : ∀ fuel more, parseValue numbers (fuel + 1) (first :: (word ++ more)) = some (value, more)) :
    ReadsValue numbers value (first :: word) where
  starts := by
    have hunit := hplain first List.mem_cons_self
    simp only [isPlainUnit, Bool.and_eq_true, bne_iff_ne] at hunit
    exact ⟨⟨first, word, rfl, hfirst, hunit.1.1.2, hunit.2⟩⟩
  parse fuel more hfuel _ := by
    cases fuel with
    | zero => cases hfuel
    | succ fuel => exact hparse fuel more
  passes depth depth' _ := passes_plain depth depth' hplain

theorem expectWord_append (word more : List UInt16) : expectWord word (word ++ more) = some more := by
  induction word with
  | nil => rfl
  | cons unit word ih => rw [List.cons_append, expectWord, expect_self, Option.bind_some, ih]

theorem expectWord_eq_some {word : List UInt16} (h : expectWord word text = some rest) :
    text = word ++ rest := by
  induction word generalizing text with
  | nil =>
      cases h
      rfl
  | cons unit word ih =>
      rw [expectWord, Option.bind_eq_some_iff] at h
      obtain ⟨more, hmore, h⟩ := h
      rw [expect_eq_some hmore, ih h]
      rfl

theorem ReadsValue.number {x : ν} {text : List UInt16} (hne : text ≠ [])
    (hunits : ∀ unit ∈ text, isNumberUnit unit = true) (hread : numbers.read text = some x) :
    ReadsValue numbers (.number x) text := by
  obtain ⟨first, word, rfl⟩ := List.exists_cons_of_ne_nil hne
  have hfirst := hunits first List.mem_cons_self
  have hother (unit : UInt16) (hunit : isNumberUnit unit = false) : first ≠ unit := by
    rintro rfl
    rw [hfirst] at hunit
    cases hunit
  refine ⟨⟨first, word, rfl, ?_, hother 93 (by decide), hother 125 (by decide)⟩,
    fun fuel more hfuel hmore ↦ ?_,
    fun depth depth' _ ↦ passes_plain depth depth' fun unit mem ↦
      isPlainUnit_of_isNumberUnit (hunits unit mem)⟩
  · rw [← Bool.not_eq_true]
    intro hspace
    rw [isNumberUnit_of_isSpace hspace] at hfirst
    cases hfirst
  have htake : (first :: (word ++ more)).takeWhile isNumberUnit = first :: word := by
    rw [← List.cons_append, List.takeWhile_append_of_pos hunits]
    cases more with
    | nil => simp
    | cons next more =>
        rw [List.takeWhile_cons_of_neg (by simp [hmore next rfl]), List.append_nil]
  have hdrop : (first :: (word ++ more)).dropWhile isNumberUnit = more := by
    rw [← List.cons_append, List.dropWhile_append_of_pos hunits]
    cases more with
    | nil => rfl
    | cons next more => rw [List.dropWhile_cons_of_neg (by simp [hmore next rfl])]
  cases fuel with
  | zero => cases hfuel
  | succ fuel =>
      rw [List.cons_append, parseValue, if_neg (hother 123 (by decide)),
        if_neg (hother 91 (by decide)), if_neg (hother 34 (by decide)), if_pos hfirst, htake, hdrop,
        hread]
      rfl

theorem ReadsValue.string {read text : List UInt16} (h : ReadsText read text) :
    ReadsValue numbers (.string read) (34 :: text) where
  starts := ⟨34, text, rfl, by decide, by decide, by decide⟩
  parse fuel more hfuel _ := by
    cases fuel with
    | zero => cases hfuel
    | succ fuel =>
        rw [List.cons_append, parseValue, if_neg (by decide), if_neg (by decide), if_pos rfl,
          h.parse]
        rfl
  passes depth depth' _ := by
    apply Passes.cons
    · rintro ⟨-, -, hunit | hunit⟩ <;> cases hunit
    · exact h.passes depth depth'

section Brackets

variable {space after : List UInt16} {first : List UInt16} {x : Json ν}
  {elements : List (Json ν)}

theorem ReadsValue.emptyArray (h : ∀ unit ∈ space, isSpace unit = true) :
    ReadsValue numbers (.array []) (91 :: (space ++ [93])) where
  starts := ⟨91, _, rfl, by decide, by decide, by decide⟩
  parse fuel more hfuel _ := by
    cases fuel with
    | zero => cases hfuel
    | succ fuel =>
        rw [List.cons_append, List.append_assoc, List.singleton_append, parseValue,
          if_neg (by decide), if_pos rfl, skipSpace_before h (by decide), expect_self]
  passes depth depth' inside :=
    (passes_open (.inr rfl)).append ((passes_spaces _ _ h).append (passes_close (.inr rfl) inside))

theorem ReadsValue.emptyObject (h : ∀ unit ∈ space, isSpace unit = true) :
    ReadsValue numbers (.object []) (123 :: (space ++ [125])) where
  starts := ⟨123, _, rfl, by decide, by decide, by decide⟩
  parse fuel more hfuel _ := by
    cases fuel with
    | zero => cases hfuel
    | succ fuel =>
        rw [List.cons_append, List.append_assoc, List.singleton_append, parseValue,
          if_pos rfl, skipSpace_before h (by decide), expect_self]
  passes depth depth' inside :=
    (passes_open (.inl rfl)).append ((passes_spaces _ _ h).append (passes_close (.inl rfl) inside))

theorem ReadsValue.array (h : ∀ unit ∈ space, isSpace unit = true)
    (helements : ReadsElements numbers elements text) :
    ReadsValue numbers (.array elements) (91 :: (space ++ text)) where
  starts := ⟨91, _, rfl, by decide, by decide, by decide⟩
  parse fuel more hfuel _ := by
    cases fuel with
    | zero => cases hfuel
    | succ fuel =>
        rw [List.length_cons, List.length_append] at hfuel
        rw [List.cons_append, List.append_assoc, parseValue, if_neg (by decide), if_pos rfl,
          skipSpace_append h, helements.starts.skipSpace, (helements.starts.expect more).1,
          helements.parse fuel more (by omega)]
        rfl
  passes depth depth' inside :=
    (passes_open (.inr rfl)).append ((passes_spaces _ _ h).append
      (helements.passes depth depth' inside))

theorem ReadsValue.object {members : List (List UInt16 × Json ν)}
    (h : ∀ unit ∈ space, isSpace unit = true) (hmembers : ReadsMembers numbers [] members text) :
    ReadsValue numbers (.object members) (123 :: (space ++ text)) where
  starts := ⟨123, _, rfl, by decide, by decide, by decide⟩
  parse fuel more hfuel _ := by
    cases fuel with
    | zero => cases hfuel
    | succ fuel =>
        rw [List.length_cons, List.length_append] at hfuel
        rw [List.cons_append, List.append_assoc, parseValue, if_pos rfl,
          skipSpace_append h, hmembers.starts.skipSpace, (hmembers.starts.expect more).2,
          hmembers.parse fuel more (by omega)]
        rfl
  passes depth depth' inside :=
    (passes_open (.inl rfl)).append ((passes_spaces _ _ h).append
      (hmembers.passes depth depth' inside))

theorem StartsValue.append (h : StartsValue first) (more : List UInt16) :
    StartsValue (first ++ more) := by
  obtain ⟨unit, rest, rfl, hunit⟩ := h.starts
  exact ⟨⟨unit, _, rfl, hunit⟩⟩

/-- The last element of an array. -/
theorem ReadsValue.last (hx : ReadsValue numbers x first)
    (h : ∀ unit ∈ space, isSpace unit = true) :
    ReadsElements numbers [x] (first ++ (space ++ [93])) where
  starts := hx.starts.append _
  parse fuel more hfuel := by
    rw [List.length_append, List.length_append, List.length_singleton] at hfuel
    cases fuel with
    | zero => omega
    | succ fuel =>
        have hvalue := hx.parse fuel (space ++ 93 :: more) (by omega)
          (endsNumber_before h (by decide) _)
        have hcomma := expect_ne (show (93 : UInt16) ≠ 44 by decide) more
        rw [List.append_assoc, List.append_assoc, List.singleton_append, parseElements]
        simp only [hvalue, Option.bind_eq_bind, Option.bind_some,
          skipSpace_before h (show isSpace 93 = false by decide), hcomma, expect_self, pure]
  passes depth depth' inside :=
    (hx.passes depth (depth' + 1) (by omega)).append ((passes_spaces _ _ h).append
      (passes_close (.inr rfl) inside))

/-- An element of an array before others. -/
theorem ReadsValue.cons (hx : ReadsValue numbers x first)
    (h : ∀ unit ∈ space, isSpace unit = true) (h' : ∀ unit ∈ after, isSpace unit = true)
    (helements : ReadsElements numbers elements text) :
    ReadsElements numbers (x :: elements) (first ++ (space ++ 44 :: (after ++ text))) where
  starts := hx.starts.append _
  parse fuel more hfuel := by
    rw [List.length_append, List.length_append, List.length_cons, List.length_append] at hfuel
    cases fuel with
    | zero => omega
    | succ fuel =>
        have hvalue := hx.parse fuel (space ++ 44 :: (after ++ (text ++ more))) (by omega)
          (endsNumber_before h (by decide) _)
        have hrest := helements.parse fuel more (by omega)
        rw [List.append_assoc, List.append_assoc, List.cons_append, List.append_assoc, parseElements]
        simp only [hvalue, Option.bind_eq_bind, Option.bind_some,
          skipSpace_before h (show isSpace 44 = false by decide), expect_self,
          skipSpace_append h', helements.starts.skipSpace, hrest, pure]
  passes depth depth' inside := by
    have hcomma := @passes_comma depth (depth' + 1) (by omega)
    exact (hx.passes depth (depth' + 1) (by omega)).append ((passes_spaces _ _ h).append
      (hcomma.append ((passes_spaces _ _ h').append (helements.passes depth depth' inside))))

/-- A text is read as one member of an object, whatever comes behind it, and passed over. -/
structure ReadsMember (numbers : JsonNumbers ν) (key : List UInt16) (x : Json ν)
    (text : List UInt16) : Prop where
  starts : StartsValue text
  comma : ∀ fuel before more rest, text.length ≤ fuel + 1 → EndsNumber more →
    expect 44 (skipSpace more) = some rest → parseMembers numbers (fuel + 1) before (text ++ more) =
      parseMembers numbers fuel (setMember before key x) (skipSpace rest)
  close : ∀ fuel before more rest, text.length ≤ fuel + 1 → EndsNumber more →
    expect 44 (skipSpace more) = none → expect 125 (skipSpace more) = some rest →
      parseMembers numbers (fuel + 1) before (text ++ more) = some (setMember before key x, rest)
  passes : ∀ depth depth', depth ≤ depth' → Passes depth (unquoted depth') text (unquoted depth')

theorem ReadsMember.intro {key keyText : List UInt16} (hkey : ReadsText key keyText)
    (h : ∀ unit ∈ space, isSpace unit = true) (h' : ∀ unit ∈ after, isSpace unit = true)
    (hx : ReadsValue numbers x text) :
    ReadsMember numbers key x (34 :: (keyText ++ (space ++ 58 :: (after ++ text)))) where
  starts := ⟨34, _, rfl, by decide, by decide, by decide⟩
  comma fuel before more rest hfuel hmore hcomma := by
    rw [List.length_cons, List.length_append, List.length_append, List.length_cons,
      List.length_append] at hfuel
    have hvalue := hx.parse fuel more (by omega) hmore
    rw [List.cons_append, List.append_assoc, List.append_assoc, List.cons_append, List.append_assoc,
      parseMembers]
    simp only [expect_self, hkey.parse, Option.bind_eq_bind, Option.bind_some,
      skipSpace_before h (show isSpace 58 = false by decide), skipSpace_append h',
      hx.starts.skipSpace, hvalue, hcomma]
  close fuel before more rest hfuel hmore hcomma hclose := by
    rw [List.length_cons, List.length_append, List.length_append, List.length_cons,
      List.length_append] at hfuel
    have hvalue := hx.parse fuel more (by omega) hmore
    rw [List.cons_append, List.append_assoc, List.append_assoc, List.cons_append, List.append_assoc,
      parseMembers]
    simp only [expect_self, hkey.parse, Option.bind_eq_bind, Option.bind_some,
      skipSpace_before h (show isSpace 58 = false by decide), skipSpace_append h',
      hx.starts.skipSpace, hvalue, hcomma, hclose, pure]
  passes depth depth' inside := by
    have hquote : Passes depth (unquoted depth') [34] (inQuotes depth') := by
      apply Passes.single
      rintro ⟨-, -, hunit | hunit⟩ <;> cases hunit
    have hcolon := passes_plain depth depth' (show ∀ unit ∈ [58], isPlainUnit unit = true by
      simp [isPlainUnit])
    exact hquote.append ((hkey.passes depth depth').append ((passes_spaces _ _ h).append
      (hcolon.append ((passes_spaces _ _ h').append (hx.passes depth depth' inside)))))

variable {key : List UInt16} {before members : List (List UInt16 × Json ν)}

/-- The last member of an object. -/
theorem ReadsMember.last (hx : ReadsMember numbers key x first)
    (h : ∀ unit ∈ space, isSpace unit = true) :
    ReadsMembers numbers before (setMember before key x) (first ++ (space ++ [125])) where
  starts := hx.starts.append _
  parse fuel more hfuel := by
    rw [List.length_append, List.length_append, List.length_singleton] at hfuel
    rw [List.append_assoc, List.append_assoc, List.singleton_append]
    cases fuel with
    | zero => omega
    | succ fuel =>
        apply hx.close fuel before _ more (by omega) (endsNumber_before h (by decide) _)
        · rw [skipSpace_before h (by decide), expect_ne (by decide)]
        · rw [skipSpace_before h (by decide), expect_self]
  passes depth depth' inside :=
    (hx.passes depth (depth' + 1) (by omega)).append ((passes_spaces _ _ h).append
      (passes_close (.inl rfl) inside))

/-- A member of an object before others. -/
theorem ReadsMember.cons (hx : ReadsMember numbers key x first)
    (h : ∀ unit ∈ space, isSpace unit = true) (h' : ∀ unit ∈ after, isSpace unit = true)
    (hmembers : ReadsMembers numbers (setMember before key x) members text) :
    ReadsMembers numbers before members (first ++ (space ++ 44 :: (after ++ text))) where
  starts := hx.starts.append _
  parse fuel more hfuel := by
    rw [List.length_append, List.length_append, List.length_cons, List.length_append] at hfuel
    rw [List.append_assoc, List.append_assoc, List.cons_append, List.append_assoc]
    cases fuel with
    | zero => omega
    | succ fuel =>
        rw [hx.comma fuel before _ (after ++ (text ++ more)) (by omega)
          (endsNumber_before h (by decide) _)
          (by rw [skipSpace_before h (by decide), expect_self]), skipSpace_append h',
          hmembers.starts.skipSpace]
        exact hmembers.parse fuel more (by omega)
  passes depth depth' inside := by
    have hcomma := @passes_comma depth (depth' + 1) (by omega)
    exact (hx.passes depth (depth' + 1) (by omega)).append ((passes_spaces _ _ h).append
      (hcomma.append ((passes_spaces _ _ h').append (hmembers.passes depth depth' inside))))

end Brackets

/-! ## Everything that is read is read so -/

section Inversion

variable (numbers) in
/-- What is read with some fuel is read of the part of the text that is used up. -/
structure ReadsParts (fuel : ℕ) : Prop where
  value : ∀ {text rest x}, parseValue numbers fuel text = some (x, rest) →
    ∃ part, text = part ++ rest ∧ ReadsValue numbers x part
  elements : ∀ {text rest elements}, parseElements numbers fuel text = some (elements, rest) →
    ∃ part, text = part ++ rest ∧ ReadsElements numbers elements part
  members : ∀ {before text rest members},
    parseMembers numbers fuel before text = some (members, rest) →
      ∃ part, text = part ++ rest ∧ ReadsMembers numbers before members part

/-- A text that is read after white space goes on as a text that is read. -/
theorem skipSpace_eq_append {part : List UInt16} (h : skipSpace text = part ++ rest) :
    ∃ space, text = space ++ (part ++ rest) ∧ ∀ unit ∈ space, isSpace unit = true := by
  obtain ⟨space, htext, hspace⟩ := skipSpace_split text
  rw [h] at htext
  exact ⟨space, htext, hspace⟩

variable {fuel : ℕ}

theorem ReadsParts.parseElements (h : ReadsParts numbers fuel) {elements : List (Json ν)}
    (hread : parseElements numbers (fuel + 1) text = some (elements, rest)) :
    ∃ part, text = part ++ rest ∧ ReadsElements numbers elements part := by
  rw [Json.parseElements] at hread
  simp only [Option.bind_eq_bind, Option.bind_eq_some_iff] at hread
  obtain ⟨⟨x, more⟩, hx, hread⟩ := hread
  obtain ⟨part, rfl, hpart⟩ := h.value hx
  simp only at hread
  split at hread
  · next after hcomma =>
      obtain ⟨⟨elements', rest'⟩, helements, hread⟩ := Option.bind_eq_some_iff.1 hread
      cases hread
      obtain ⟨space, rfl, hspace⟩ := expect_skipSpace hcomma
      obtain ⟨more, hmore, hmore'⟩ := h.elements helements
      obtain ⟨space', rfl, hspace'⟩ := skipSpace_eq_append hmore
      exact ⟨_, by simp only [List.append_assoc, List.cons_append], hpart.cons hspace hspace' hmore'⟩
  · obtain ⟨rest', hclose, hread⟩ := Option.bind_eq_some_iff.1 hread
    cases hread
    obtain ⟨space, rfl, hspace⟩ := expect_skipSpace hclose
    exact ⟨_, by simp only [List.append_assoc, List.singleton_append], hpart.last hspace⟩

theorem ReadsParts.parseMembers (h : ReadsParts numbers fuel)
    {before members : List (List UInt16 × Json ν)}
    (hread : parseMembers numbers (fuel + 1) before text = some (members, rest)) :
    ∃ part, text = part ++ rest ∧ ReadsMembers numbers before members part := by
  rw [Json.parseMembers] at hread
  simp only [Option.bind_eq_bind, Option.bind_eq_some_iff] at hread
  obtain ⟨quoted, hquote, ⟨key, more⟩, hkey, after, hcolon, ⟨x, behind⟩, hx, hread⟩ := hread
  simp only at hcolon hread
  obtain ⟨keyText, rfl, hkeyText⟩ := parseText_eq_some hkey
  obtain ⟨space, rfl, hspace⟩ := expect_skipSpace hcolon
  obtain ⟨part, hpart, hvalue⟩ := h.value hx
  obtain ⟨space', rfl, hspace'⟩ := skipSpace_eq_append hpart
  have hmember := ReadsMember.intro hkeyText hspace hspace' hvalue
  rw [expect_eq_some hquote]
  split at hread
  · next next hcomma =>
      obtain ⟨last, rfl, hlast⟩ := expect_skipSpace hcomma
      obtain ⟨more, hmore, hmembers⟩ := h.members hread
      obtain ⟨space'', rfl, hspace''⟩ := skipSpace_eq_append hmore
      exact ⟨_, by simp only [List.append_assoc, List.cons_append],
        hmember.cons hlast hspace'' hmembers⟩
  · obtain ⟨rest', hclose, hread⟩ := Option.bind_eq_some_iff.1 hread
    cases hread
    obtain ⟨last, rfl, hlast⟩ := expect_skipSpace hclose
    exact ⟨_, by simp only [List.append_assoc, List.cons_append, List.nil_append],
      hmember.last hlast⟩

/-- The word of a value that is written in letters. -/
theorem readsValue_word {value x : Json ν} {first : UInt16} {word : List UInt16}
    (hread : (expectWord word text).map (fun rest ↦ (value, rest)) = some (x, rest))
    (hword : ReadsValue numbers value (first :: word)) :
    ∃ part, first :: text = part ++ rest ∧ ReadsValue numbers x part := by
  obtain ⟨rest', hrest, hx⟩ := Option.map_eq_some_iff.1 hread
  cases hx
  rw [expectWord_eq_some hrest]
  exact ⟨first :: word, rfl, hword⟩

theorem ReadsParts.parseValue (h : ReadsParts numbers fuel) {x : Json ν}
    (hread : parseValue numbers (fuel + 1) text = some (x, rest)) :
    ∃ part, text = part ++ rest ∧ ReadsValue numbers x part := by
  cases text with
  | nil => cases hread
  | cons unit text =>
      rw [Json.parseValue] at hread
      split_ifs at hread with hobject harray hquote hnumber hnull htrue hfalse
      · subst hobject
        split at hread
        · next rest' hclose =>
            cases hread
            obtain ⟨space, rfl, hspace⟩ := expect_skipSpace hclose
            exact ⟨_, by simp only [List.append_assoc, List.cons_append, List.nil_append],
              .emptyObject hspace⟩
        · obtain ⟨⟨members, rest'⟩, hmembers, hx⟩ := Option.map_eq_some_iff.1 hread
          cases hx
          obtain ⟨part, hpart, hreads⟩ := h.members hmembers
          obtain ⟨space, rfl, hspace⟩ := skipSpace_eq_append hpart
          exact ⟨_, by simp only [List.append_assoc, List.cons_append], .object hspace hreads⟩
      · subst harray
        split at hread
        · next rest' hclose =>
            cases hread
            obtain ⟨space, rfl, hspace⟩ := expect_skipSpace hclose
            exact ⟨_, by simp only [List.append_assoc, List.cons_append, List.nil_append],
              .emptyArray hspace⟩
        · obtain ⟨⟨elements, rest'⟩, helements, hx⟩ := Option.map_eq_some_iff.1 hread
          cases hx
          obtain ⟨part, hpart, hreads⟩ := h.elements helements
          obtain ⟨space, rfl, hspace⟩ := skipSpace_eq_append hpart
          exact ⟨_, by simp only [List.append_assoc, List.cons_append], .array hspace hreads⟩
      · subst hquote
        obtain ⟨⟨read, rest'⟩, htext, hx⟩ := Option.map_eq_some_iff.1 hread
        cases hx
        obtain ⟨part, rfl, hreads⟩ := parseText_eq_some htext
        exact ⟨34 :: part, rfl, .string hreads⟩
      · obtain ⟨n, hn, hx⟩ := Option.map_eq_some_iff.1 hread
        cases hx
        refine ⟨_, List.takeWhile_append_dropWhile.symm, .number ?_
          (fun _ mem ↦ List.mem_takeWhile_imp mem) hn⟩
        rw [List.takeWhile_cons_of_pos hnumber]
        exact List.cons_ne_nil _ _
      · subst hnull
        exact readsValue_word hread (.word (by simp [isPlainUnit]) (by decide)
          fun fuel more ↦ by rfl)
      · subst htrue
        exact readsValue_word hread (.word (by simp [isPlainUnit]) (by decide)
          fun fuel more ↦ by rfl)
      · subst hfalse
        exact readsValue_word hread (.word (by simp [isPlainUnit]) (by decide)
          fun fuel more ↦ by rfl)

variable (numbers) in
theorem readsParts (fuel : ℕ) : ReadsParts numbers fuel := by
  induction fuel with
  | zero => exact ⟨nofun, nofun, nofun⟩
  | succ fuel ih => exact ⟨ih.parseValue, ih.parseElements, ih.parseMembers⟩

end Inversion

/-! ## Whole texts -/

/-- Only white space. -/
def AllSpace (text : List UInt16) : Prop := ∀ unit ∈ text, isSpace unit = true

/-- A text with a value is that value's part between white space. -/
theorem parse_eq_some {x : Json ν} (h : parse numbers text = some x) :
    ∃ space part after, text = space ++ (part ++ after) ∧ AllSpace space ∧ AllSpace after ∧
      ReadsValue numbers x part := by
  rw [parse] at h
  simp only [Option.bind_eq_bind, Option.bind_eq_some_iff] at h
  obtain ⟨⟨value, rest⟩, hvalue, h⟩ := h
  simp only at h
  split_ifs at h with hrest
  cases h
  obtain ⟨part, hpart, hreads⟩ := (readsParts numbers _).value hvalue
  obtain ⟨space, rfl, hspace⟩ := skipSpace_eq_append hpart
  obtain ⟨after, hafter, hafterSpace⟩ := skipSpace_split rest
  rw [hrest, List.append_nil] at hafter
  rw [hafter]
  exact ⟨space, part, after, rfl, hspace, hafterSpace, hreads⟩

theorem skipSpace_of_allSpace (h : AllSpace text) : skipSpace text = [] :=
  List.dropWhile_eq_nil_iff.2 h

theorem endsNumber_of_allSpace (h : AllSpace text) : EndsNumber text := by
  intro unit hunit
  exact isNumberUnit_of_isSpace (h unit (List.mem_of_mem_head? hunit))

theorem ReadsValue.parse_eq {x : Json ν} {space part after : List UInt16}
    (h : ReadsValue numbers x part) (hspace : AllSpace space) (hafter : AllSpace after) :
    Json.parse numbers (space ++ (part ++ after)) = some x := by
  rw [Json.parse, skipSpace_append hspace, h.starts.skipSpace,
    h.parse _ after (by simp only [List.length_append]; omega) (endsNumber_of_allSpace hafter)]
  simp only [Option.bind_eq_bind, Option.bind_some, skipSpace_of_allSpace hafter, if_true]

/-! ## Objects with their keys written out -/

/-- A member of an object as it stands in a text: the key in quotes, unit by unit, a colon, and the
text of a value. -/
def MemberText (numbers : JsonNumbers ν) (key : List UInt16) (x : Json ν) (text : List UInt16) : Prop :=
  ∃ space between value, AllSpace space ∧ AllSpace between ∧
    text = space ++ 34 :: (key ++ 34 :: (between ++ 58 :: value)) ∧ parse numbers value = some x

/-- The text of an object, given the texts of its members. -/
def objectText (before : List UInt16) (members : List (List UInt16)) (after : List UInt16) :
    List UInt16 :=
  before ++ 123 :: ([44].intercalate members ++ 125 :: after)

/-- An object whose keys are written unit by unit, in this order. -/
def KeysWritten (numbers : JsonNumbers ν) (keys : List (List UInt16)) (text : List UInt16) : Prop :=
  ∃ before texts after, AllSpace before ∧ AllSpace after ∧ text = objectText before texts after ∧
    List.Forall₂ (fun key member ↦ ∃ x, MemberText numbers key x member) keys texts

/-- A code unit that stands for itself inside quotes. -/
def isTextUnit (unit : UInt16) : Bool := unit != 34 && unit != 92 && 32 ≤ unit

theorem readsText_key {key : List UInt16} (h : key.all isTextUnit = true) :
    ReadsText key (key ++ [34]) := by
  induction key with
  | nil => exact .nil
  | cons unit key ih =>
      rw [List.all_cons, Bool.and_eq_true, isTextUnit, Bool.and_eq_true, Bool.and_eq_true,
        bne_iff_ne, bne_iff_ne, decide_eq_true_eq] at h
      exact (ih h.2).plain h.1.1.1 h.1.1.2 (UInt16.not_lt.2 h.1.2)

/-- A member's text is read as that member. -/
theorem MemberText.reads {key : List UInt16} {x : Json ν} (h : MemberText numbers key x text)
    (hkey : key.all isTextUnit = true) :
    ∃ space part after, text = space ++ (part ++ after) ∧ AllSpace space ∧ AllSpace after ∧
      ReadsMember numbers key x part := by
  obtain ⟨space, between, value, hspace, hbetween, rfl, hvalue⟩ := h
  obtain ⟨inner, part, after, rfl, hinner, hafter, hreads⟩ := parse_eq_some hvalue
  refine ⟨space, _, after, ?_, hspace, hafter, .intro (readsText_key hkey) hbetween hinner hreads⟩
  simp only [List.append_assoc, List.cons_append, List.nil_append]

/-- A member's text is passed over at the depth of its object. -/
theorem MemberText.passes {key : List UInt16} {x : Json ν} (h : MemberText numbers key x text)
    (hkey : key.all isTextUnit = true) (depth : ℤ) :
    Passes depth (unquoted depth) text (unquoted depth) := by
  obtain ⟨space, part, after, rfl, hspace, hafter, hreads⟩ := h.reads hkey
  exact (passes_spaces _ _ hspace).append ((hreads.passes depth depth le_rfl).append
    (passes_spaces _ _ hafter))

/-- The texts of members, parted by commas and closed by a bracket, are read as those members. -/
theorem readsMembers_of_texts (before : List (List UInt16 × Json ν)) {m : List UInt16 × Json ν}
    {members : List (List UInt16 × Json ν)} {first : List UInt16} {texts : List (List UInt16)}
    (nodup : (keysOf (before ++ m :: members)).Nodup)
    (plain : ∀ n ∈ m :: members, n.1.all isTextUnit = true)
    (hfirst : MemberText numbers m.1 m.2 first)
    (written : List.Forall₂ (fun n text ↦ MemberText numbers n.1 n.2 text) members texts) :
    ∃ space part, [44].intercalate (first :: texts) ++ [125] = space ++ part ∧ AllSpace space ∧
      ReadsMembers numbers before (before ++ m :: members) part := by
  induction written generalizing m before first with
  | nil =>
      obtain ⟨space, part, after, rfl, hspace, hafter, hreads⟩ := hfirst.reads
        (plain m List.mem_cons_self)
      refine ⟨space, part ++ (after ++ [125]), ?_, hspace, ?_⟩
      · rw [List.intercalate_singleton]
        simp only [List.append_assoc]
      · rw [← setMember_of_nodup nodup]
        exact hreads.last hafter
  | @cons n second members texts hsecond _ ih =>
      obtain ⟨space, part, after, rfl, hspace, hafter, hreads⟩ := hfirst.reads
        (plain m List.mem_cons_self)
      have hnodup : (keysOf (before ++ [m] ++ n :: members)).Nodup := by
        rwa [List.append_assoc]
      obtain ⟨inner, rest, hrest, hinner, hmembers⟩ := ih _ hnodup
        (fun k mem ↦ plain k (List.mem_cons_of_mem _ mem)) hsecond
      rw [List.append_assoc, List.singleton_append, ← setMember_of_nodup nodup] at hmembers
      refine ⟨space, part ++ (after ++ 44 :: (inner ++ rest)), ?_, hspace,
        hreads.cons hafter hinner hmembers⟩
      rw [commas_cons, List.append_assoc, List.cons_append, hrest]
      simp only [List.append_assoc]

/-- An object that is written out with distinct keys is read as its members. -/
theorem parse_objectText {m : List UInt16 × Json ν} {members : List (List UInt16 × Json ν)}
    {before after : List UInt16} {texts : List (List UInt16)} (hbefore : AllSpace before)
    (hafter : AllSpace after) (nodup : (keysOf (m :: members)).Nodup)
    (plain : ∀ n ∈ m :: members, n.1.all isTextUnit = true)
    (written : List.Forall₂ (fun n text ↦ MemberText numbers n.1 n.2 text) (m :: members) texts) :
    parse numbers (objectText before texts after) = some (.object (m :: members)) := by
  cases written with
  | @cons _ first _ texts hfirst written =>
      obtain ⟨space, part, hparts, hspace, hmembers⟩ :=
        readsMembers_of_texts [] nodup plain hfirst written
      have hvalue := (ReadsValue.object hspace hmembers).parse_eq hbefore hafter
      rw [← hparts] at hvalue
      rw [objectText]
      simpa only [List.append_assoc, List.cons_append, List.nil_append] using hvalue

/-- The members of an object that is written out are those that its text is read as. -/
theorem KeysWritten.memberTexts {members : List (List UInt16 × Json ν)}
    (h : KeysWritten numbers (keysOf members) text) (hne : members ≠ [])
    (nodup : (keysOf members).Nodup) (plain : ∀ key ∈ keysOf members, key.all isTextUnit = true)
    (hparse : parse numbers text = some (.object members)) :
    ∃ before texts after, AllSpace before ∧ AllSpace after ∧ text = objectText before texts after ∧
      List.Forall₂ (fun n text ↦ MemberText numbers n.1 n.2 text) members texts := by
  obtain ⟨before, texts, after, hbefore, hafter, rfl, written⟩ := h
  have hchosen : ∃ read : List (List UInt16 × Json ν), keysOf read = keysOf members ∧
      List.Forall₂ (fun n text ↦ MemberText numbers n.1 n.2 text) read texts := by
    clear hparse
    generalize keysOf members = keys at written
    induction written with
    | nil => exact ⟨[], rfl, .nil⟩
    | @cons key text keys texts hx _ ih =>
        obtain ⟨x, hx⟩ := hx
        obtain ⟨read, hkeys, hread⟩ := ih
        exact ⟨(key, x) :: read, congrArg (key :: ·) hkeys, .cons hx hread⟩
  obtain ⟨read, hkeys, hread⟩ := hchosen
  refine ⟨before, texts, after, hbefore, hafter, rfl, ?_⟩
  cases read with
  | nil =>
      cases members with
      | nil => exact absurd rfl hne
      | cons m members => cases hkeys
  | cons m read =>
      have hagain := parse_objectText hbefore hafter (by rwa [hkeys])
        (fun n mem ↦ plain n.1 (by rw [← hkeys]; exact List.mem_map_of_mem mem)) hread
      rw [hparse] at hagain
      cases hagain
      exact hread

end Json

end ReputationKey.Base
