import Mathlib.Data.Nat.Notation
import Mathlib.Data.List.Basic

/-!
# Patterns of a whole text

Regular expressions without unbounded repetition, matched by trying the ways in order: an
alternative before the next one, a longer run before a shorter one. A match of the whole text is the
first way that leaves nothing, and gives what the groups took, an outer group before the groups in
it.
-/

namespace ReputationKey.Base

/-- A pattern over an alphabet. -/
inductive Pattern (α : Type)
  | word (text : List α)
  | repeated (admits : α → Bool) (least most : ℕ)
  | either (first second : Pattern α)
  | followed (first second : Pattern α)
  | group (inner : Pattern α)

namespace Pattern

variable {α : Type}

/-- A pattern after another, and so on. -/
def sequence (patterns : List (Pattern α)) : Pattern α := patterns.foldr followed (word [])

/-- The first of the words that matches. -/
def oneOf (words : List (List α)) : Pattern α :=
  words.foldr (fun text rest ↦ either (word text) rest) (repeated (fun _ ↦ false) 1 1)

/-! ## What a pattern matches -/

/-- A text that a pattern matches, and what the groups take. -/
def Matches : Pattern α → List α → List (List α) → Prop
  | word front, text, taken => text = front ∧ taken = []
  | repeated admits least most, text, taken =>
      (least ≤ text.length ∧ text.length ≤ most ∧ ∀ a ∈ text, admits a = true) ∧ taken = []
  | either first second, text, taken => Matches first text taken ∨ Matches second text taken
  | followed first second, text, taken =>
      ∃ front back takenFirst takenNext, text = front ++ back ∧ taken = takenFirst ++ takenNext ∧
        Matches first front takenFirst ∧ Matches second back takenNext
  | group inner, text, taken => ∃ takenInside, taken = text :: takenInside ∧ Matches inner text takenInside

@[simp] theorem matches_sequence_nil {text : List α} {taken : List (List α)} :
    Matches (sequence []) text taken ↔ text = [] ∧ taken = [] := Iff.rfl

@[simp] theorem matches_sequence_word {front text : List α} {patterns : List (Pattern α)}
    {taken : List (List α)} :
    Matches (sequence (word front :: patterns)) text taken ↔
      ∃ back, text = front ++ back ∧ Matches (sequence patterns) back taken := by
  constructor
  · rintro ⟨_, back, _, takenNext, rfl, rfl, ⟨rfl, rfl⟩, matched⟩
    exact ⟨back, rfl, matched⟩
  · rintro ⟨back, rfl, matched⟩
    exact ⟨front, back, [], taken, rfl, rfl, ⟨rfl, rfl⟩, matched⟩

@[simp] theorem matches_sequence_repeated {admits : α → Bool} {least most : ℕ} {text : List α}
    {patterns : List (Pattern α)} {taken : List (List α)} :
    Matches (sequence (repeated admits least most :: patterns)) text taken ↔
      ∃ run back, text = run ++ back ∧
        (least ≤ run.length ∧ run.length ≤ most ∧ ∀ a ∈ run, admits a = true) ∧
        Matches (sequence patterns) back taken := by
  constructor
  · rintro ⟨run, back, _, takenNext, rfl, rfl, ⟨admitted, rfl⟩, matched⟩
    exact ⟨run, back, rfl, admitted, matched⟩
  · rintro ⟨run, back, rfl, admitted, matched⟩
    exact ⟨run, back, [], taken, rfl, rfl, ⟨admitted, rfl⟩, matched⟩

@[simp] theorem matches_sequence_group {inner : Pattern α} {text : List α}
    {patterns : List (Pattern α)} {taken : List (List α)} :
    Matches (sequence (group inner :: patterns)) text taken ↔
      ∃ part back takenInside takenNext, text = part ++ back ∧
        taken = part :: (takenInside ++ takenNext) ∧ Matches inner part takenInside ∧
        Matches (sequence patterns) back takenNext := by
  constructor
  · rintro ⟨part, back, _, takenNext, rfl, rfl, ⟨takenInside, rfl, inside⟩, matched⟩
    exact ⟨part, back, takenInside, takenNext, rfl, rfl, inside, matched⟩
  · rintro ⟨part, back, takenInside, takenNext, rfl, rfl, inside, matched⟩
    exact ⟨part, back, part :: takenInside, takenNext, rfl, rfl, ⟨takenInside, rfl, inside⟩, matched⟩

@[simp] theorem matches_repeated {admits : α → Bool} {least most : ℕ} {text : List α}
    {taken : List (List α)} :
    Matches (repeated admits least most) text taken ↔
      (least ≤ text.length ∧ text.length ≤ most ∧ ∀ a ∈ text, admits a = true) ∧ taken = [] := Iff.rfl

@[simp] theorem matches_oneOf {words : List (List α)} {text : List α} {taken : List (List α)} :
    Matches (oneOf words) text taken ↔ text ∈ words ∧ taken = [] := by
  induction words with
  | nil =>
      simp only [oneOf, List.foldr_nil, Matches, List.not_mem_nil, false_and, iff_false]
      rintro ⟨⟨long, -, admitted⟩, -⟩
      cases text with
      | nil => simp at long
      | cons a rest => simpa using admitted a
  | cons front words ih =>
      have rest : Matches (words.foldr (fun text rest ↦ either (word text) rest)
          (repeated (fun _ ↦ false) 1 1)) text taken ↔ text ∈ words ∧ taken = [] := ih
      simp only [oneOf, List.foldr_cons, Matches, rest, List.mem_cons]
      constructor
      · rintro (⟨same, none⟩ | ⟨later, none⟩)
        · exact ⟨Or.inl same, none⟩
        · exact ⟨Or.inr later, none⟩
      · rintro ⟨same | later, none⟩
        · exact Or.inl ⟨same, none⟩
        · exact Or.inr ⟨later, none⟩

/-! ## The ways to match -/

/-- The lengths of the runs at the start of a text, the longest first. -/
def runLengths (admits : α → Bool) (least most : ℕ) (text : List α) : List ℕ :=
  ((List.range (((text.take most).takeWhile admits).length + 1)).filter fun count ↦
    decide (least ≤ count)).reverse

/-- A run at the start of a text is a first part of it whose members are all admitted. -/
theorem mem_runLengths {admits : α → Bool} {least most count : ℕ} {text : List α} :
    count ∈ runLengths admits least most text ↔
      ∃ front back, text = front ++ back ∧ front.length = count ∧ least ≤ count ∧ count ≤ most ∧
        ∀ a ∈ front, admits a = true := by
  rw [runLengths, List.mem_reverse, List.mem_filter, List.mem_range, decide_eq_true_eq,
    Nat.lt_succ_iff]
  constructor
  · rintro ⟨short, long⟩
    have run := List.takeWhile_append_dropWhile (p := admits) (l := text.take most)
    have bound : ((text.take most).takeWhile admits).length ≤ (text.take most).length :=
      (List.takeWhile_sublist admits).length_le
    rw [List.length_take] at bound
    refine ⟨text.take count, text.drop count, (List.take_append_drop ..).symm, ?_, long, by omega, ?_⟩
    · rw [List.length_take]
      omega
    · intro a member
      have within : text.take count = ((text.take most).takeWhile admits).take count := by
        have first := congrArg (List.take count) run
        rw [List.take_append_of_le_length short, List.take_take, Nat.min_eq_left (by omega)] at first
        exact first.symm
      rw [within] at member
      exact List.all_eq_true.1 List.all_takeWhile a (List.mem_of_mem_take member)
  · rintro ⟨front, back, rfl, rfl, long, bound, admitted⟩
    refine ⟨?_, long⟩
    rw [List.take_append, List.take_of_length_le bound,
      List.takeWhile_append_of_pos (fun a member ↦ admitted a member), List.length_append]
    omega

variable [DecidableEq α]

/-- The ways to match the start of a text: what the groups took, and the rest. -/
def ways : Pattern α → List α → List (List (List α) × List α)
  | word front, text => if text.take front.length = front then [([], text.drop front.length)] else []
  | repeated admits least most, text =>
      (runLengths admits least most text).map fun count ↦ ([], text.drop count)
  | either first second, text => ways first text ++ ways second text
  | followed first second, text =>
      (ways first text).flatMap fun way ↦
        (ways second way.2).map fun next ↦ (way.1 ++ next.1, next.2)
  | group inner, text =>
      (ways inner text).map fun way ↦ (text.take (text.length - way.2.length) :: way.1, way.2)

/-- A match of the whole text: what its groups took. -/
def exec (pattern : Pattern α) (text : List α) : Option (List (List α)) :=
  ((ways pattern text).find? fun way ↦ way.2.isEmpty).map (·.1)

/-- The ways are the first parts of the text that the pattern matches. -/
theorem mem_ways {pattern : Pattern α} {text rest : List α} {taken : List (List α)} :
    (taken, rest) ∈ ways pattern text ↔
      ∃ front, text = front ++ rest ∧ Matches pattern front taken := by
  induction pattern generalizing text taken rest with
  | word front =>
      simp only [ways, Matches]
      constructor
      · intro h
        split at h
        · next found =>
          simp only [List.mem_singleton, Prod.mk.injEq] at h
          refine ⟨front, ?_, rfl, h.1⟩
          rw [h.2, ← List.take_append_drop front.length text, found]
          simp
        · simp at h
      · rintro ⟨_, rfl, rfl, rfl⟩
        simp
  | repeated admits least most =>
      simp only [ways, Matches, List.mem_map, mem_runLengths, Prod.mk.injEq]
      constructor
      · rintro ⟨count, ⟨front, back, rfl, rfl, long, bound, admitted⟩, rfl, rfl⟩
        exact ⟨front, by simp, ⟨long, bound, admitted⟩, rfl⟩
      · rintro ⟨front, rfl, ⟨long, bound, admitted⟩, rfl⟩
        exact ⟨front.length, ⟨front, rest, rfl, rfl, long, bound, admitted⟩, rfl, by simp⟩
  | either first second ihFirst ihSecond =>
      simp only [ways, Matches, List.mem_append, ihFirst, ihSecond]
      constructor
      · rintro (⟨front, same, h⟩ | ⟨front, same, h⟩)
        · exact ⟨front, same, Or.inl h⟩
        · exact ⟨front, same, Or.inr h⟩
      · rintro ⟨front, same, h | h⟩
        · exact Or.inl ⟨front, same, h⟩
        · exact Or.inr ⟨front, same, h⟩
  | followed first second ihFirst ihSecond =>
      simp only [ways, Matches, List.mem_flatMap, List.mem_map, Prod.mk.injEq, Prod.exists, ihFirst,
        ihSecond]
      constructor
      · rintro ⟨takenFirst, between, ⟨front, rfl, matched⟩, takenNext, _, ⟨back, rfl, followed⟩, rfl, rfl⟩
        exact ⟨front ++ back, by simp, front, back, _, _, rfl, rfl, matched, followed⟩
      · rintro ⟨_, rfl, front, back, takenFirst, takenNext, rfl, rfl, matched, followed⟩
        exact ⟨takenFirst, back ++ rest, ⟨front, by simp, matched⟩, takenNext, rest,
          ⟨back, rfl, followed⟩, rfl, rfl⟩
  | group inner ih =>
      simp only [ways, Matches, List.mem_map, Prod.mk.injEq, Prod.exists, ih]
      constructor
      · rintro ⟨takenInside, _, ⟨front, rfl, matched⟩, rfl, rfl⟩
        exact ⟨front, rfl, takenInside, by simp, matched⟩
      · rintro ⟨front, rfl, takenInside, rfl, matched⟩
        exact ⟨takenInside, rest, ⟨front, rfl, matched⟩, by simp, rfl⟩

/-- What is found is matched. -/
theorem matches_of_exec {pattern : Pattern α} {text : List α} {taken : List (List α)}
    (h : exec pattern text = some taken) : Matches pattern text taken := by
  obtain ⟨way, found, rfl⟩ := Option.map_eq_some_iff.1 h
  have none := List.find?_some found
  obtain ⟨front, same, matched⟩ := mem_ways.1 (List.mem_of_find?_eq_some found)
  rw [List.isEmpty_iff.1 none, List.append_nil] at same
  rw [same]
  exact matched

/-- What is matched is found. -/
theorem isSome_exec_iff {pattern : Pattern α} {text : List α} :
    (exec pattern text).isSome = true ↔ ∃ taken, Matches pattern text taken := by
  constructor
  · intro h
    obtain ⟨taken, found⟩ := Option.isSome_iff_exists.1 h
    exact ⟨taken, matches_of_exec found⟩
  · rintro ⟨taken, matched⟩
    rw [exec, Option.isSome_map, List.find?_isSome]
    exact ⟨(taken, []), mem_ways.2 ⟨text, by simp, matched⟩, rfl⟩

end Pattern

end ReputationKey.Base
