import ReputationKey.Base.JsonValue
import Mathlib.Data.List.TakeWhile

/-!
# JSON texts

How `JSON.stringify` writes values without white space, and how `JSON.parse` reads texts: by
recursive descent, with the last of several members of one key. How a number is written and read is
a parameter. What is written is read back.
-/

namespace ReputationKey.Base

/-- How finite numbers are written and read. -/
structure JsonNumbers (ν : Type) where
  zero : ν
  stringify : ν → List UInt16
  read : List UInt16 → Option ν

namespace Json

variable {ν : Type}

/-! ## Writing -/

/-- A hexadecimal digit, in lower case. -/
def hexDigit (value : UInt16) : UInt16 := if value < 10 then 48 + value else 87 + value

/-- A code unit inside quotes. -/
def quoteUnit (unit : UInt16) : List UInt16 :=
  if unit = 8 then [92, 98]
  else if unit = 9 then [92, 116]
  else if unit = 10 then [92, 110]
  else if unit = 12 then [92, 102]
  else if unit = 13 then [92, 114]
  else if unit = 34 then [92, 34]
  else if unit = 92 then [92, 92]
  else if unit < 32 then [92, 117, 48, 48, hexDigit (unit / 16), hexDigit (unit % 16)]
  else [unit]

/-- A text of Unicode scalar values in quotes. -/
def quote (text : List UInt16) : List UInt16 := 34 :: (text.flatMap quoteUnit ++ [34])

variable (numbers : JsonNumbers ν)

/-- A value as a text, the members of an object as they are listed. -/
def print : Json ν → List UInt16
  | .null => [110, 117, 108, 108]
  | .boolean true => [116, 114, 117, 101]
  | .boolean false => [102, 97, 108, 115, 101]
  | .number x => numbers.stringify x
  | .string text => quote text
  | .array elements => 91 :: ([44].intercalate (elements.map fun x ↦ x.print) ++ [93])
  | .object members =>
      123 :: ([44].intercalate (members.map fun m ↦ quote m.1 ++ 58 :: m.2.print) ++ [125])
termination_by value => sizeOf value
decreasing_by
  · decreasing_trivial
  · have := sizeOf_member_lt ‹_›
    simp only [object.sizeOf_spec]
    omega

/-! ## Reading -/

/-- White space between the parts of a text. -/
def isSpace (unit : UInt16) : Bool := unit == 32 || unit == 9 || unit == 10 || unit == 13

/-- A code unit of a number: a digit, a sign, a point or an exponent mark. -/
def isNumberUnit (unit : UInt16) : Bool :=
  (48 ≤ unit && unit ≤ 57) || unit == 43 || unit == 45 || unit == 46 || unit == 69 || unit == 101

/-- The rest after white space. -/
def skipSpace (text : List UInt16) : List UInt16 := text.dropWhile isSpace

/-- The rest after a code unit that a text starts with. -/
def expect (unit : UInt16) : List UInt16 → Option (List UInt16)
  | [] => none
  | first :: rest => if first = unit then some rest else none

/-- The rest after a word that a text starts with. -/
def expectWord : List UInt16 → List UInt16 → Option (List UInt16)
  | [], text => some text
  | unit :: word, text => (expect unit text).bind (expectWord word)

/-- What a hexadecimal digit counts. -/
def hexValue (unit : UInt16) : Option UInt16 :=
  if 48 ≤ unit ∧ unit ≤ 57 then some (unit - 48)
  else if 97 ≤ unit ∧ unit ≤ 102 then some (unit - 87)
  else if 65 ≤ unit ∧ unit ≤ 70 then some (unit - 55)
  else none

/-- The code unit that a letter after a backslash stands for. -/
def unescape (letter : UInt16) : Option UInt16 :=
  if letter = 98 then some 8
  else if letter = 116 then some 9
  else if letter = 110 then some 10
  else if letter = 102 then some 12
  else if letter = 114 then some 13
  else if letter = 34 ∨ letter = 92 ∨ letter = 47 then some letter
  else none

/-- A text up to its closing quote, and the rest. -/
def parseText : List UInt16 → Option (List UInt16 × List UInt16)
  | [] => none
  | [unit] => if unit = 34 then some ([], []) else none
  | unit :: letter :: rest =>
      if unit = 34 then some ([], letter :: rest)
      else if unit = 92 then
        if letter = 117 then
          match rest with
          | a :: b :: c :: d :: rest => do
              let a ← hexValue a
              let b ← hexValue b
              let c ← hexValue c
              let d ← hexValue d
              let (text, rest) ← parseText rest
              return ((4096 * a + 256 * b + 16 * c + d) :: text, rest)
          | _ => none
        else do
          let unit ← unescape letter
          let (text, rest) ← parseText rest
          return (unit :: text, rest)
      else if unit < 32 then none
      else (parseText (letter :: rest)).map fun (text, rest) ↦ (unit :: text, rest)

/-- Set a member of an object under way: a key that is there keeps its place. -/
def setMember (members : List (List UInt16 × Json ν)) (key : List UInt16) (value : Json ν) :
    List (List UInt16 × Json ν) :=
  if key ∈ keysOf members then members.map fun m ↦ if m.1 = key then (key, value) else m
  else members ++ [(key, value)]

mutual

/-- A value at the head of a text, and the rest. The text's length is fuel enough: what a call does not
read itself, the bracket that closes it pays for. -/
def parseValue : ℕ → List UInt16 → Option (Json ν × List UInt16)
  | 0, _ => none
  | _ + 1, [] => none
  | fuel + 1, unit :: rest =>
      if unit = 123 then
        match expect 125 (skipSpace rest) with
        | some rest => some (.object [], rest)
        | none => (parseMembers fuel [] (skipSpace rest)).map fun (members, rest) ↦ (.object members, rest)
      else if unit = 91 then
        match expect 93 (skipSpace rest) with
        | some rest => some (.array [], rest)
        | none => (parseElements fuel (skipSpace rest)).map fun (elements, rest) ↦ (.array elements, rest)
      else if unit = 34 then (parseText rest).map fun (text, rest) ↦ (.string text, rest)
      else if isNumberUnit unit then
        (numbers.read ((unit :: rest).takeWhile isNumberUnit)).map fun x ↦
          (.number x, (unit :: rest).dropWhile isNumberUnit)
      else if unit = 110 then
        (expectWord [117, 108, 108] rest).map fun rest ↦ (.null, rest)
      else if unit = 116 then
        (expectWord [114, 117, 101] rest).map fun rest ↦ (.boolean true, rest)
      else if unit = 102 then
        (expectWord [97, 108, 115, 101] rest).map fun rest ↦ (.boolean false, rest)
      else none

/-- The elements up to the end of an array. -/
def parseElements : ℕ → List UInt16 → Option (List (Json ν) × List UInt16)
  | 0, _ => none
  | fuel + 1, text => do
      let (x, rest) ← parseValue fuel text
      match expect 44 (skipSpace rest) with
      | some rest =>
          let (elements, rest) ← parseElements fuel (skipSpace rest)
          return (x :: elements, rest)
      | none =>
          let rest ← expect 93 (skipSpace rest)
          return ([x], rest)

/-- The members up to the end of an object, after those read so far. -/
def parseMembers : ℕ → List (List UInt16 × Json ν) → List UInt16 →
    Option (List (List UInt16 × Json ν) × List UInt16)
  | 0, _, _ => none
  | fuel + 1, members, text => do
      let rest ← expect 34 text
      let (key, rest) ← parseText rest
      let rest ← expect 58 (skipSpace rest)
      let (value, rest) ← parseValue fuel (skipSpace rest)
      match expect 44 (skipSpace rest) with
      | some rest => parseMembers fuel (setMember members key value) (skipSpace rest)
      | none =>
          let rest ← expect 125 (skipSpace rest)
          return (setMember members key value, rest)

end

/-- The value of a whole text. -/
def parse (text : List UInt16) : Option (Json ν) := do
  let (value, rest) ← parseValue numbers text.length (skipSpace text)
  if skipSpace rest = [] then some value else none

/-! ## Texts are read back -/

/-- A hexadecimal pair counts the control character it was written for. -/
theorem control_eq (unit : UInt16) (h : unit < 32) :
    hexValue (hexDigit (unit / 16)) = some (unit / 16) ∧
      hexValue (hexDigit (unit % 16)) = some (unit % 16) ∧
      4096 * 0 + 256 * 0 + 16 * (unit / 16) + unit % 16 = unit := by
  have hall : ∀ n : Fin 32, hexValue (hexDigit (UInt16.ofNat n / 16)) = some (UInt16.ofNat n / 16) ∧
      hexValue (hexDigit (UInt16.ofNat n % 16)) = some (UInt16.ofNat n % 16) ∧
      4096 * 0 + 256 * 0 + 16 * (UInt16.ofNat n / 16) + UInt16.ofNat n % 16 = UInt16.ofNat n := by
    decide
  have hunit := hall ⟨unit.toNat, h⟩
  rwa [UInt16.ofNat_toNat] at hunit

/-- A quoted code unit is read back. -/
theorem parseText_quoteUnit (unit : UInt16) (rest : List UInt16) :
    parseText (quoteUnit unit ++ rest) =
      (parseText rest).map fun read ↦ (unit :: read.1, read.2) := by
  have hletter (letter : UInt16) (h : letter ≠ 117) : parseText (92 :: letter :: rest) =
      (unescape letter).bind fun u ↦ (parseText rest).map fun read ↦ (u :: read.1, read.2) := by
    rw [parseText.eq_def]
    simp only
    rw [if_neg (by decide), if_pos trivial, if_neg h]
    cases unescape letter <;> cases parseText rest <;> rfl
  rw [quoteUnit]
  split_ifs with h8 h9 h10 h12 h13 h34 h92 hcontrol
  · subst h8; exact hletter 98 (by decide)
  · subst h9; exact hletter 116 (by decide)
  · subst h10; exact hletter 110 (by decide)
  · subst h12; exact hletter 102 (by decide)
  · subst h13; exact hletter 114 (by decide)
  · subst h34; exact hletter 34 (by decide)
  · subst h92; exact hletter 92 (by decide)
  · obtain ⟨hhigh, hlow, hsum⟩ := control_eq unit hcontrol
    have hzero : hexValue 48 = some 0 := by decide
    simp only [List.cons_append, List.nil_append]
    rw [parseText, if_neg (by decide), if_pos rfl, if_pos rfl]
    simp only [hzero, hhigh, hlow, hsum, Option.bind_eq_bind, Option.bind_some]
    cases parseText rest <;> rfl
  · cases rest with
    | nil => simp [parseText, h34]
    | cons next rest =>
        rw [List.singleton_append, parseText.eq_def]
        simp only
        rw [if_neg h34, if_neg h92, if_neg hcontrol]

/-- What is between quotes is read back. -/
theorem parseText_quote (text rest : List UInt16) :
    parseText (text.flatMap quoteUnit ++ 34 :: rest) = some (text, rest) := by
  induction text with
  | nil =>
      rw [List.flatMap_nil, List.nil_append, parseText.eq_def]
      cases rest <;> rfl
  | cons unit text ih =>
      rw [List.flatMap_cons, List.append_assoc, parseText_quoteUnit, ih]
      rfl

/-! ## Values are read back -/

/-- Numbers are written in the code units of numbers and read back. -/
structure NumbersReadBack (numbers : JsonNumbers ν) : Prop where
  nonempty : ∀ x, numbers.stringify x ≠ []
  units : ∀ x, ∀ unit ∈ numbers.stringify x, isNumberUnit unit = true
  read : ∀ x, numbers.read (numbers.stringify x) = some x

/-- A text that does not go on with a number. -/
def EndsNumber (text : List UInt16) : Prop := ∀ unit ∈ text.head?, isNumberUnit unit = false

/-- A value is written in a text that starts with none of the code units that end or part values. -/
structure StartsValue (text : List UInt16) : Prop where
  starts : ∃ unit rest, text = unit :: rest ∧ isSpace unit = false ∧ unit ≠ 93 ∧ unit ≠ 125

theorem StartsValue.skipSpace {text : List UInt16} (h : StartsValue text) (rest : List UInt16) :
    skipSpace (text ++ rest) = text ++ rest := by
  obtain ⟨unit, more, rfl, hspace, -⟩ := h.starts
  exact List.dropWhile_cons_of_neg (by simp [hspace])

theorem StartsValue.expect {text : List UInt16} (h : StartsValue text) (rest : List UInt16) :
    expect 93 (text ++ rest) = none ∧ expect 125 (text ++ rest) = none := by
  obtain ⟨unit, more, rfl, -, hunit, hunit'⟩ := h.starts
  exact ⟨if_neg hunit, if_neg hunit'⟩

variable {numbers}

theorem startsValue_print (h : NumbersReadBack numbers) (value : Json ν) :
    StartsValue (value.print numbers) := by
  cases value with
  | null => rw [print]; exact ⟨⟨_, _, rfl, by decide, by decide, by decide⟩⟩
  | boolean b =>
      cases b <;> rw [print] <;> exact ⟨⟨_, _, rfl, by decide, by decide, by decide⟩⟩
  | number x =>
      rw [print]
      obtain ⟨unit, rest, hunit⟩ := List.exists_cons_of_ne_nil (h.nonempty x)
      have hnumber := h.units x unit (by rw [hunit]; exact List.mem_cons_self)
      refine ⟨⟨unit, rest, hunit, ?_, ?_, ?_⟩⟩
      · by_contra hspace
        simp only [isSpace, Bool.not_eq_false, Bool.or_eq_true, beq_iff_eq] at hspace
        rcases hspace with ((rfl | rfl) | rfl) | rfl <;> exact absurd hnumber (by decide)
      · rintro rfl
        exact absurd hnumber (by decide)
      · rintro rfl
        exact absurd hnumber (by decide)
  | string text => rw [print]; exact ⟨⟨_, _, rfl, by decide, by decide, by decide⟩⟩
  | array elements => rw [print]; exact ⟨⟨_, _, rfl, by decide, by decide, by decide⟩⟩
  | object members => rw [print]; exact ⟨⟨_, _, rfl, by decide, by decide, by decide⟩⟩

/-- What is read of a value that is written at the head of a text. -/
def ReadsBack (numbers : JsonNumbers ν) (value : Json ν) : Prop :=
  ∀ fuel rest, (value.print numbers).length ≤ fuel → EndsNumber rest →
    parseValue numbers fuel (value.print numbers ++ rest) = some (value, rest)

theorem readsBack_number (h : NumbersReadBack numbers) (x : ν) : ReadsBack numbers (.number x) := by
  intro fuel rest hfuel hrest
  rw [print] at *
  obtain ⟨unit, more, hunit⟩ := List.exists_cons_of_ne_nil (h.nonempty x)
  have hunits := h.units x
  have htake : (numbers.stringify x ++ rest).takeWhile isNumberUnit = numbers.stringify x := by
    rw [List.takeWhile_append_of_pos hunits]
    cases rest with
    | nil => simp
    | cons next rest =>
        rw [List.takeWhile_cons_of_neg (by simp [hrest next rfl]), List.append_nil]
  have hdrop : (numbers.stringify x ++ rest).dropWhile isNumberUnit = rest := by
    rw [List.dropWhile_append_of_pos hunits]
    cases rest with
    | nil => rfl
    | cons next rest => rw [List.dropWhile_cons_of_neg (by simp [hrest next rfl])]
  have hnumber := hunits unit (by rw [hunit]; exact List.mem_cons_self)
  have hne (other : UInt16) (hother : isNumberUnit other = false) : unit ≠ other := by
    rintro rfl
    rw [hnumber] at hother
    cases hother
  cases fuel with
  | zero => simp [hunit] at hfuel
  | succ fuel =>
      rw [hunit, List.cons_append, parseValue, if_neg (hne 123 (by decide)),
        if_neg (hne 91 (by decide)), if_neg (hne 34 (by decide)), if_pos hnumber]
      rw [← List.cons_append, ← hunit, htake, hdrop, h.read]
      rfl

theorem expect_after {unit : UInt16} (hspace : isSpace unit = false) (rest : List UInt16) :
    expect unit (skipSpace (unit :: rest)) = some rest := by
  rw [skipSpace, List.dropWhile_cons_of_neg (by simp [hspace]), expect, if_pos rfl]

theorem expect_other {unit other : UInt16} (hspace : isSpace unit = false) (hne : unit ≠ other)
    (rest : List UInt16) : expect other (skipSpace (unit :: rest)) = none := by
  rw [skipSpace, List.dropWhile_cons_of_neg (by simp [hspace]), expect, if_neg hne]

/-- Texts parted by commas. -/
theorem commas_cons (first second : List UInt16) (more : List (List UInt16)) :
    [44].intercalate (first :: second :: more) = first ++ 44 :: [44].intercalate (second :: more) := by
  rw [List.intercalate_cons_cons, List.append_assoc, List.singleton_append]

theorem StartsValue.commas {first : List UInt16} (h : StartsValue first) (more : List (List UInt16)) :
    StartsValue ([44].intercalate (first :: more)) := by
  cases more with
  | nil => rwa [List.intercalate_singleton]
  | cons second more =>
      obtain ⟨unit, rest, rfl, hunit⟩ := h.starts
      rw [commas_cons]
      exact ⟨⟨unit, _, rfl, hunit⟩⟩

/-- Elements that are read back one by one are read back from the text of their array. -/
theorem parseElements_print (h : NumbersReadBack numbers) (x : Json ν) (elements : List (Json ν))
    (each : ∀ y ∈ x :: elements, ReadsBack numbers y) (fuel : ℕ) (rest : List UInt16)
    (enough : ([44].intercalate ((x :: elements).map (print numbers))).length < fuel) :
    parseElements numbers fuel
      ([44].intercalate ((x :: elements).map (print numbers)) ++ 93 :: rest) =
      some (x :: elements, rest) := by
  induction elements generalizing x fuel with
  | nil =>
      cases fuel with
      | zero => cases enough
      | succ fuel =>
          rw [List.map_singleton, List.intercalate_singleton] at *
          have hends : EndsNumber (93 :: rest) := by
            rintro unit ⟨⟩
            decide
          have hx := each x List.mem_cons_self fuel (93 :: rest) (by omega) hends
          simp only [parseElements, hx, Option.bind_eq_bind, Option.bind_some,
            expect_other (show isSpace 93 = false by decide) (show (93 : UInt16) ≠ 44 by decide),
            expect_after (show isSpace 93 = false by decide), pure]
  | cons y elements ih =>
      cases fuel with
      | zero => cases enough
      | succ fuel =>
          rw [List.map_cons, List.map_cons, commas_cons, List.append_assoc, List.cons_append]
          rw [List.map_cons, List.map_cons, commas_cons, List.length_append, List.length_cons] at enough
          have hends : EndsNumber (44 ::
              ([44].intercalate (print numbers y :: elements.map (print numbers)) ++ 93 :: rest)) := by
            rintro unit ⟨⟩
            decide
          have hx := each x List.mem_cons_self fuel _ (by omega) hends
          have hrest := ih y (fun z mem ↦ each z (List.mem_cons_of_mem _ mem)) fuel (by
            rw [List.map_cons]
            omega)
          have hspace := ((startsValue_print h y).commas (elements.map (print numbers))).skipSpace
            (93 :: rest)
          rw [List.map_cons] at hrest
          simp only [parseElements, hx, Option.bind_eq_bind, Option.bind_some,
            expect_after (show isSpace 44 = false by decide), hspace, hrest, pure]

/-- A member of an object, its key in quotes. -/
def printMember (numbers : JsonNumbers ν) (member : List UInt16 × Json ν) : List UInt16 :=
  quote member.1 ++ 58 :: member.2.print numbers

theorem printMember_append (member : List UInt16 × Json ν) (more : List UInt16) :
    printMember numbers member ++ more =
      34 :: (member.1.flatMap quoteUnit ++ 34 :: (58 :: (member.2.print numbers ++ more))) := by
  simp [printMember, quote]

/-- A member's text starts with a quote. -/
theorem startsValue_printMember (member : List UInt16 × Json ν) :
    StartsValue (printMember numbers member) := ⟨⟨_, _, rfl, by decide, by decide, by decide⟩⟩

theorem length_print_lt (member : List UInt16 × Json ν) :
    (member.2.print numbers).length < (printMember numbers member).length := by
  have hparts := congrArg List.length (@printMember_append _ numbers member [])
  simp only [List.append_nil, List.length_cons, List.length_append] at hparts
  omega

/-- A new key is set behind those read so far. -/
theorem setMember_of_nodup {before after : List (List UInt16 × Json ν)} {m : List UInt16 × Json ν}
    (nodup : (keysOf (before ++ m :: after)).Nodup) : setMember before m.1 m.2 = before ++ [m] := by
  rw [setMember, if_neg]
  intro hmem
  rw [keysOf, List.map_append, List.map_cons] at nodup
  exact (List.nodup_append.1 nodup).2.2 m.1 hmem m.1 List.mem_cons_self rfl

theorem expect_self (unit : UInt16) (rest : List UInt16) : expect unit (unit :: rest) = some rest :=
  if_pos rfl

/-- Members of distinct keys that are read back one by one are read back from the text of their
object, after those read so far. -/
theorem parseMembers_print (h : NumbersReadBack numbers) (before : List (List UInt16 × Json ν))
    (m : List UInt16 × Json ν) (members : List (List UInt16 × Json ν))
    (nodup : (keysOf (before ++ m :: members)).Nodup)
    (each : ∀ n ∈ m :: members, ReadsBack numbers n.2) (fuel : ℕ) (rest : List UInt16)
    (enough : ([44].intercalate ((m :: members).map (printMember numbers))).length < fuel) :
    parseMembers numbers fuel before
      ([44].intercalate ((m :: members).map (printMember numbers)) ++ 125 :: rest) =
      some (before ++ m :: members, rest) := by
  have hlength := @length_print_lt _ numbers m
  induction members generalizing before m fuel with
  | nil =>
      cases fuel with
      | zero => cases enough
      | succ fuel =>
          rw [List.map_singleton, List.intercalate_singleton] at *
          have hends : EndsNumber (125 :: rest) := by
            rintro unit ⟨⟩
            decide
          have hvalue := each m List.mem_cons_self fuel (125 :: rest) (by omega) hends
          rw [printMember_append]
          simp only [parseMembers, expect_self, parseText_quote, Option.bind_eq_bind,
            Option.bind_some, expect_after (show isSpace 58 = false by decide),
            (startsValue_print h m.2).skipSpace, hvalue,
            expect_other (show isSpace 125 = false by decide) (show (125 : UInt16) ≠ 44 by decide),
            expect_after (show isSpace 125 = false by decide), setMember_of_nodup nodup, pure]
  | cons n members ih =>
      cases fuel with
      | zero => cases enough
      | succ fuel =>
          rw [List.map_cons, List.map_cons, commas_cons, List.append_assoc, List.cons_append]
          rw [List.map_cons, List.map_cons, commas_cons, List.length_append, List.length_cons] at enough
          have hends : EndsNumber (44 ::
              ([44].intercalate (printMember numbers n :: members.map (printMember numbers)) ++
                125 :: rest)) := by
            rintro unit ⟨⟩
            decide
          have hvalue := each m List.mem_cons_self fuel _ (by omega) hends
          have hrest := ih (before ++ [m]) n (by rwa [List.append_assoc])
            (fun k mem ↦ each k (List.mem_cons_of_mem _ mem)) fuel (by
              rw [List.map_cons]
              omega) (length_print_lt n)
          have hspace := ((@startsValue_printMember _ numbers n).commas
            (members.map (printMember numbers))).skipSpace (125 :: rest)
          rw [List.map_cons, List.append_assoc, List.singleton_append] at hrest
          rw [printMember_append]
          simp only [parseMembers, expect_self, parseText_quote, Option.bind_eq_bind,
            Option.bind_some, expect_after (show isSpace 58 = false by decide),
            (startsValue_print h m.2).skipSpace, hvalue,
            expect_after (show isSpace 44 = false by decide), setMember_of_nodup nodup, hspace, hrest]

/-- A value whose objects have distinct keys is read back. -/
theorem WellKeyed.readsBack (h : NumbersReadBack numbers) {value : Json ν} (keyed : value.WellKeyed) :
    ReadsBack numbers value := by
  induction keyed with
  | null =>
      intro fuel rest hfuel _
      rw [print] at *
      cases fuel with
      | zero => cases hfuel
      | succ fuel => rfl
  | boolean b =>
      intro fuel rest hfuel _
      cases fuel with
      | zero =>
          cases b <;> rw [print] at hfuel <;> cases hfuel
      | succ fuel =>
          cases b <;> rw [print] <;> rfl
  | number x => exact readsBack_number h x
  | string text =>
      intro fuel rest hfuel _
      rw [print] at *
      cases fuel with
      | zero => cases hfuel
      | succ fuel =>
          rw [quote, List.cons_append, parseValue, if_neg (by decide), if_neg (by decide), if_pos rfl,
            List.append_assoc, List.singleton_append, parseText_quote]
          rfl
  | @array elements _ ih =>
      intro fuel rest hfuel _
      rw [print] at *
      cases fuel with
      | zero => cases hfuel
      | succ fuel =>
          rw [List.cons_append, parseValue, if_neg (by decide), if_pos rfl]
          cases elements with
          | nil => rfl
          | cons x elements =>
              have hstarts := (startsValue_print h x).commas (elements.map (print numbers))
              have helements := parseElements_print h x elements ih fuel rest (by
                rw [List.length_cons, List.length_append, List.length_singleton] at hfuel
                exact Nat.lt_of_succ_le (Nat.le_of_succ_le_succ hfuel))
              rw [List.map_cons] at *
              rw [List.append_assoc, List.singleton_append, hstarts.skipSpace,
                (hstarts.expect _).1, helements]
              rfl
  | @object members nodup _ ih =>
      intro fuel rest hfuel _
      have hmember : (fun m : List UInt16 × Json ν ↦ quote m.1 ++ 58 :: m.2.print numbers) =
          printMember numbers := rfl
      rw [print, hmember] at *
      cases fuel with
      | zero => cases hfuel
      | succ fuel =>
          rw [List.cons_append, parseValue, if_pos rfl]
          cases members with
          | nil => rfl
          | cons m members =>
              have hstarts := (@startsValue_printMember _ numbers m).commas
                (members.map (printMember numbers))
              have hmembers := parseMembers_print h [] m members nodup ih fuel rest (by
                rw [List.length_cons, List.length_append, List.length_singleton] at hfuel
                exact Nat.lt_of_succ_le (Nat.le_of_succ_le_succ hfuel))
              rw [List.map_cons] at *
              rw [List.append_assoc, List.singleton_append, hstarts.skipSpace, (hstarts.expect _).2,
                hmembers]
              rfl

/-- What is written of a value is parsed as that value. -/
theorem parse_print (h : NumbersReadBack numbers) {value : Json ν} (keyed : value.WellKeyed) :
    parse numbers (value.print numbers) = some value := by
  have hread := keyed.readsBack h (value.print numbers).length [] le_rfl (by rintro unit ⟨⟩)
  have hspace := (startsValue_print h value).skipSpace []
  rw [List.append_nil] at hread hspace
  rw [parse, hspace, hread]
  rfl

end Json

end ReputationKey.Base
