import Mathlib.Data.List.Basic
import ReputationKey.Base.Numeral
import ReputationKey.Shared.AsciiUnits

/-!
# Check digits of card and account numbers

The validators that decide whether a number in a review is a card or an account. Follows
`src/src/shared/ai-financial-validators.ts`.
-/

namespace ReputationKey.Ai

open ReputationKey.Base (numeral)
open ReputationKey.Review (Text)
open ReputationKey.Shared (asciiText isDecimalUnit isUpperUnit upperUnit isDecimalUnit_iff isUpperUnit_iff)

/-- `String.prototype.toUpperCase`, which maps character by character and leaves digits alone. -/
structure CaseMapping where
  toUpperCase : Text → Text
  keepsDigit : ∀ front unit back, isDecimalUnit unit = true →
    toUpperCase (front ++ unit :: back) = toUpperCase front ++ unit :: toUpperCase back

/-! ## The Luhn check -/

/-- The digit a character stands for, as the code reads it. -/
def digitOf (unit : UInt16) : Int := unit.toNat - 0x30

/-- One character of the Luhn sum, from the right, and whether the next one is doubled. -/
def luhnStep (state : Int × Bool) (unit : UInt16) : Int × Bool :=
  let digit :=
    if state.2 then
      if 9 < digitOf unit * 2 then digitOf unit * 2 - 9 else digitOf unit * 2
    else digitOf unit
  (state.1 + digit, !state.2)

/-- Follows `ai-financial-validators.ts:3–16`. -/
def luhnValid (digits : Text) : Bool :=
  (digits.reverse.foldl luhnStep (0, false)).1.tmod 10 == 0

/-! ## The account number check -/

/-- A separator between the groups of an account number. -/
def isGroupSeparator (unit : UInt16) : Bool := unit == 32 || unit == 45

/-- The account number without separators and in capitals. -/
def compactIban (mapping : CaseMapping) (value : Text) : Text :=
  mapping.toUpperCase (value.filter fun unit ↦ !isGroupSeparator unit)

/-- The pattern of an account number. -/
def matchesIban : Text → Bool
  | first :: second :: third :: fourth :: rest =>
      isUpperUnit first && isUpperUnit second && isDecimalUnit third && isDecimalUnit fourth &&
        rest.all (fun unit ↦ isUpperUnit unit || isDecimalUnit unit) &&
        decide (11 ≤ rest.length) && decide (rest.length ≤ 30)
  | _ => false

/-- The digits a character is written as: a letter as 10 to 35. -/
def expandUnit (unit : UInt16) : List ℕ :=
  if isUpperUnit unit then [(unit.toNat - 55) / 10, (unit.toNat - 55) % 10] else [unit.toNat - 48]

/-- Follows `ai-financial-validators.ts:18–33`. -/
def ibanValid (mapping : CaseMapping) (value : Text) : Bool :=
  let compact := compactIban mapping value
  if !matchesIban compact || decide (34 < compact.length) then false
  else
    let rearranged := compact.drop 4 ++ compact.take 4
    (rearranged.flatMap expandUnit).foldl (fun remainder digit ↦ (remainder * 10 + digit) % 97) 0 == 1

/-- Where the groups of a match end. -/
def groupEnds (raw : Text) : List ℕ :=
  (List.range raw.length).filter fun index ↦ raw[index]?.any isGroupSeparator

/-- The whole match, or its longest prefix up to a separator that is an account number. Follows
`ai-financial-validators.ts:43–53`. -/
def longestValidIban (mapping : CaseMapping) (raw : Text) : Option Text :=
  if ibanValid mapping raw then some raw
  else
    ((groupEnds raw).reverse.map fun index ↦ raw.take index).find? fun candidate ↦
      ibanValid mapping candidate

/-! ## What the checks stand for -/

/-- The weight of a digit, by its place from the right: every second one is doubled, less nine when
that makes two digits of it. -/
def luhnWeight (place : ℕ) (digit : Int) : Int :=
  if place % 2 = 1 then
    if 9 < digit * 2 then digit * 2 - 9 else digit * 2
  else digit

/-- The weighted sum of digits listed from the right, the first of them at a place. -/
def luhnSumFrom : ℕ → List Int → Int
  | _, [] => 0
  | place, digit :: digits => luhnWeight place digit + luhnSumFrom (place + 1) digits

/-- The weighted digit sum of a text. -/
def luhnSum (text : Text) : Int := luhnSumFrom 0 (text.reverse.map digitOf)

/-- The shape of an account number: two letters, two digits, and letters and digits up to 15 to 34
characters. -/
structure IsIbanShaped (compact : Text) : Prop where
  country : ∀ unit ∈ compact.take 2, isUpperUnit unit = true
  check : ∀ unit ∈ (compact.drop 2).take 2, isDecimalUnit unit = true
  account : ∀ unit ∈ compact.drop 4, isUpperUnit unit = true ∨ isDecimalUnit unit = true
  atLeast : 15 ≤ compact.length
  atMost : compact.length ≤ 34

/-- The number that an account number writes with its first four characters moved to the end. -/
def ibanInteger (compact : Text) : ℕ :=
  numeral 10 ((compact.drop 4 ++ compact.take 4).flatMap expandUnit)

/-- The whole match, or a prefix of it that ends right before a separator. -/
def IsIbanCandidate (raw candidate : Text) : Prop :=
  candidate = raw ∨ ∃ front separator back, raw = front ++ separator :: back ∧
    isGroupSeparator separator = true ∧ candidate = front

/-! ## The Luhn sum -/

section Luhn

variable {unit other : UInt16} {digit otherDigit : Int} {place : ℕ} {front back text : Text}

theorem digitOf_bounds (h : isDecimalUnit unit = true) : 0 ≤ digitOf unit ∧ digitOf unit ≤ 9 := by
  rw [isDecimalUnit_iff] at h
  rw [digitOf]
  omega

theorem digitOf_inj : digitOf unit = digitOf other ↔ unit = other := by
  rw [digitOf, digitOf, ← UInt16.toNat_inj]
  omega

/-- A doubled digit counts the sum of its digits. -/
theorem luhnWeight_doubled (odd : place % 2 = 1) (low : 0 ≤ digit) (high : digit ≤ 9) :
    luhnWeight place digit = digit * 2 / 10 + digit * 2 % 10 := by
  rw [luhnWeight, if_pos odd]
  split_ifs <;> omega

theorem luhnStep_eq {sum : Int} : luhnStep (sum, decide (place % 2 = 1)) unit =
    (sum + luhnWeight place (digitOf unit), decide ((place + 1) % 2 = 1)) := by
  have hnext : (!decide (place % 2 = 1)) = decide ((place + 1) % 2 = 1) := by
    rw [← decide_not]
    apply decide_eq_decide.2
    omega
  rw [luhnStep, hnext, luhnWeight]
  simp only [decide_eq_true_eq]

/-- The loop adds up the weighted digits. -/
theorem foldl_luhnStep {sum : Int} :
    (text.foldl luhnStep (sum, decide (place % 2 = 1))).1 =
      sum + luhnSumFrom place (text.map digitOf) := by
  induction text generalizing sum place with
  | nil => exact (Int.add_zero sum).symm
  | cons unit text ih =>
      rw [List.foldl_cons, luhnStep_eq, ih, List.map_cons, luhnSumFrom, Int.add_assoc]

theorem luhnValid_iff : luhnValid text = true ↔ 10 ∣ luhnSum text := by
  have hloop := @foldl_luhnStep 0 text.reverse 0
  rw [luhnValid, beq_iff_eq, ← Int.dvd_iff_tmod_eq_zero, luhnSum]
  rw [Int.zero_add] at hloop
  rw [← hloop]
  rfl

theorem luhnSumFrom_append {digits more : List Int} :
    luhnSumFrom place (digits ++ more) =
      luhnSumFrom place digits + luhnSumFrom (place + digits.length) more := by
  induction digits generalizing place with
  | nil => exact (Int.zero_add _).symm
  | cons digit digits ih =>
      have hplace : place + 1 + digits.length = place + (digits.length + 1) := by omega
      rw [List.cons_append, luhnSumFrom, ih, luhnSumFrom, List.length_cons, hplace, Int.add_assoc]

/-- The sum around one character. -/
theorem luhnSum_middle : luhnSum (front ++ unit :: back) =
    luhnSumFrom 0 (back.reverse.map digitOf) + (luhnWeight back.length (digitOf unit) +
      luhnSumFrom (back.length + 1) (front.reverse.map digitOf)) := by
  rw [luhnSum, List.reverse_append, List.reverse_cons, List.append_assoc, List.map_append,
    luhnSumFrom_append, List.map_append, List.map_singleton, List.singleton_append, luhnSumFrom,
    List.length_map, List.length_reverse, Nat.zero_add]

/-- Digits with the same weight to the modulus are the same. -/
theorem luhnWeight_inj (low : 0 ≤ digit) (high : digit ≤ 9) (otherLow : 0 ≤ otherDigit)
    (otherHigh : otherDigit ≤ 9)
    (h : 10 ∣ luhnWeight place digit - luhnWeight place otherDigit) : digit = otherDigit := by
  rw [luhnWeight, luhnWeight] at h
  split_ifs at h <;> omega

/-- Swapped digits have the same weights to the modulus only when they are the same, or 0 and 9. -/
theorem luhnWeight_swap (low : 0 ≤ digit) (high : digit ≤ 9) (otherLow : 0 ≤ otherDigit)
    (otherHigh : otherDigit ≤ 9)
    (h : 10 ∣ luhnWeight place otherDigit + luhnWeight (place + 1) digit -
      (luhnWeight place digit + luhnWeight (place + 1) otherDigit)) :
    digit = otherDigit ∨ (digit = 0 ∧ otherDigit = 9) ∨ (digit = 9 ∧ otherDigit = 0) := by
  have hparity : (place + 1) % 2 = 1 ↔ ¬place % 2 = 1 := by omega
  simp only [luhnWeight, hparity] at h
  split_ifs at h <;> omega

/-- No single changed digit goes unnoticed. -/
theorem luhn_change (digits : isDecimalUnit unit = true) (otherDigits : isDecimalUnit other = true)
    (changed : unit ≠ other) (valid : luhnValid (front ++ unit :: back) = true) :
    luhnValid (front ++ other :: back) = false := by
  rw [← Bool.not_eq_true]
  intro hother
  rw [luhnValid_iff, luhnSum_middle] at valid hother
  obtain ⟨hlow, hhigh⟩ := digitOf_bounds digits
  obtain ⟨hotherLow, hotherHigh⟩ := digitOf_bounds otherDigits
  apply changed
  rw [← digitOf_inj]
  apply @luhnWeight_inj _ _ back.length hlow hhigh hotherLow hotherHigh
  omega

/-- No swap of unequal neighbours goes unnoticed, but that of 0 and 9. -/
theorem luhn_swap (digits : isDecimalUnit unit = true) (otherDigits : isDecimalUnit other = true)
    (unequal : unit ≠ other) (notZeroNine : ¬(digitOf unit = 0 ∧ digitOf other = 9))
    (notNineZero : ¬(digitOf unit = 9 ∧ digitOf other = 0))
    (valid : luhnValid (front ++ unit :: other :: back) = true) :
    luhnValid (front ++ other :: unit :: back) = false := by
  rw [← Bool.not_eq_true]
  intro hother
  have hsum (u v : UInt16) : luhnSum (front ++ u :: v :: back) =
      luhnSumFrom 0 (back.reverse.map digitOf) + (luhnWeight back.length (digitOf v) +
        (luhnWeight (back.length + 1) (digitOf u) +
          luhnSumFrom (back.length + 1 + 1) (front.reverse.map digitOf))) := by
    rw [List.append_cons front u (v :: back), luhnSum_middle, List.reverse_append, List.reverse_singleton,
      List.singleton_append, List.map_cons, luhnSumFrom]
  rw [luhnValid_iff, hsum] at valid hother
  obtain ⟨hlow, hhigh⟩ := digitOf_bounds digits
  obtain ⟨hotherLow, hotherHigh⟩ := digitOf_bounds otherDigits
  have hswap := @luhnWeight_swap (digitOf unit) (digitOf other) back.length hlow hhigh hotherLow
    hotherHigh (by omega)
  rcases hswap with h | h | h
  · exact unequal (digitOf_inj.1 h)
  · exact notZeroNine h
  · exact notNineZero h

end Luhn

/-! ## The account number -/

section Iban

variable {mapping : CaseMapping} {unit other : UInt16} {compact value raw found front back : Text}

theorem matchesIban_iff : matchesIban compact = true ∧ compact.length ≤ 34 ↔ IsIbanShaped compact := by
  constructor
  · rintro ⟨hmatch, hlength⟩
    match compact, hmatch, hlength with
    | first :: second :: third :: fourth :: rest, hmatch, hlength =>
        simp only [matchesIban, Bool.and_eq_true, decide_eq_true_eq, List.all_eq_true,
          Bool.or_eq_true] at hmatch
        obtain ⟨⟨⟨⟨⟨⟨hfirst, hsecond⟩, hthird⟩, hfourth⟩, hrest⟩, hlow⟩, hhigh⟩ := hmatch
        simp only [List.length_cons] at hlength
        refine ⟨?_, ?_, hrest, ?_, hlength⟩
        · exact List.forall_mem_cons.2 ⟨hfirst, List.forall_mem_singleton.2 hsecond⟩
        · exact List.forall_mem_cons.2 ⟨hthird, List.forall_mem_singleton.2 hfourth⟩
        · simp only [List.length_cons]
          omega
  · intro h
    refine ⟨?_, h.atMost⟩
    match compact, h with
    | first :: second :: third :: fourth :: rest, h =>
        have hlow := h.atLeast
        have hhigh := h.atMost
        simp only [List.length_cons] at hlow hhigh
        simp only [matchesIban, Bool.and_eq_true, decide_eq_true_eq, List.all_eq_true,
          Bool.or_eq_true]
        refine ⟨⟨⟨⟨⟨⟨?_, ?_⟩, ?_⟩, ?_⟩, h.account⟩, by omega⟩, by omega⟩
        · exact h.country first List.mem_cons_self
        · exact h.country second (List.mem_cons_of_mem _ List.mem_cons_self)
        · exact h.check third List.mem_cons_self
        · exact h.check fourth (List.mem_cons_of_mem _ List.mem_cons_self)
    | [], h => exact absurd h.atLeast (by decide)
    | [_], h => exact absurd h.atLeast (by simp)
    | [_, _], h => exact absurd h.atLeast (by simp)
    | [_, _, _], h => exact absurd h.atLeast (by simp)

theorem ibanValid_iff : ibanValid mapping value = true ↔
    IsIbanShaped (compactIban mapping value) ∧
      ibanInteger (compactIban mapping value) % 97 = 1 := by
  have hstream (digits : List ℕ) :
      digits.foldl (fun remainder digit ↦ (remainder * 10 + digit) % 97) 0 =
        numeral 10 digits % 97 := by
    rw [Base.foldl_remainder (by decide : 0 < 97), Nat.zero_mul, Nat.zero_add]
  simp only [ibanValid, hstream]
  rw [← matchesIban_iff, ibanInteger]
  split_ifs with h
  · rw [Bool.or_eq_true, Bool.not_eq_true', decide_eq_true_eq] at h
    refine ⟨False.elim, ?_⟩
    rintro ⟨⟨hmatch, hlength⟩, -⟩
    rcases h with h | h
    · rw [h] at hmatch
      exact absurd hmatch Bool.false_ne_true
    · omega
  · rw [Bool.or_eq_true, not_or, Bool.not_eq_true', Bool.not_eq_false, decide_eq_true_eq,
      Nat.not_lt] at h
    rw [beq_iff_eq]
    exact ⟨fun hone ↦ ⟨h, hone⟩, And.right⟩

/-- Wherever a digit stands, it stands once in the rearranged account number. -/
theorem rearranged_middle (front back : Text) :
    ∃ front' back', ∀ unit, (front ++ unit :: back).drop 4 ++ (front ++ unit :: back).take 4 =
      front' ++ unit :: back' := by
  by_cases h : 4 ≤ front.length
  · refine ⟨front.drop 4, back ++ front.take 4, fun unit ↦ ?_⟩
    rw [List.drop_append_of_le_length h, List.take_append_of_le_length h, List.append_assoc,
      List.cons_append]
  · refine ⟨back.drop (3 - front.length) ++ front, back.take (3 - front.length), fun unit ↦ ?_⟩
    have hrest : 4 - front.length = 3 - front.length + 1 := by omega
    rw [List.drop_append, List.take_append, List.drop_eq_nil_of_le (by omega),
      List.take_of_length_le (by omega), hrest, List.drop_succ_cons, List.take_succ_cons,
      List.nil_append, List.append_assoc]

theorem expandUnit_digit (h : isDecimalUnit unit = true) :
    expandUnit unit = [unit.toNat - 48] := by
  have hletter : ¬isUpperUnit unit = true := by
    rw [isDecimalUnit_iff] at h
    rw [isUpperUnit_iff]
    omega
  rw [expandUnit, if_neg hletter]

/-- No account number stays one when a single digit changes. -/
theorem iban_change (digits : isDecimalUnit unit = true) (otherDigits : isDecimalUnit other = true)
    (changed : unit ≠ other) (valid : ibanValid mapping (front ++ unit :: back) = true) :
    ibanValid mapping (front ++ other :: back) = false := by
  rw [← Bool.not_eq_true]
  intro hother
  have hcompact (u : UInt16) (h : isDecimalUnit u = true) :
      compactIban mapping (front ++ u :: back) =
        compactIban mapping front ++ u :: compactIban mapping back := by
    have hkept : (!isGroupSeparator u) = true := by
      rw [isDecimalUnit_iff] at h
      simp only [isGroupSeparator, Bool.not_eq_true', Bool.or_eq_false_iff, beq_eq_false_iff_ne,
        ne_eq, ← UInt16.toNat_inj, UInt16.reduceToNat]
      omega
    have hcons : (u :: back).filter (fun unit ↦ !isGroupSeparator unit) =
        u :: back.filter fun unit ↦ !isGroupSeparator unit := List.filter_cons_of_pos hkept
    rw [compactIban, List.filter_append, hcons, mapping.keepsDigit _ _ _ h]
    rfl
  obtain ⟨front', back', hmiddle⟩ :=
    rearranged_middle (compactIban mapping front) (compactIban mapping back)
  have hinteger (u : UInt16) (h : isDecimalUnit u = true)
      (hvalid : ibanValid mapping (front ++ u :: back) = true) :
      numeral 10 (front'.flatMap expandUnit ++ (u.toNat - 48) :: back'.flatMap expandUnit) % 97 =
        1 := by
    have hone := (ibanValid_iff.1 hvalid).2
    rwa [ibanInteger, hcompact u h, hmiddle, List.flatMap_append, List.flatMap_cons,
      expandUnit_digit h, List.singleton_append] at hone
  have hmod := Base.digit_modEq_of_numeral (by decide : Nat.Coprime 97 10)
    ((hinteger unit digits valid).trans (hinteger other otherDigits hother).symm)
  apply changed
  rw [isDecimalUnit_iff] at digits otherDigits
  rw [← UInt16.toNat_inj]
  rw [Nat.ModEq] at hmod
  omega

/-- The prefixes that end right before a separator, the longest first. -/
theorem mem_prefixes_iff {candidate : Text} :
    candidate ∈ (groupEnds raw).reverse.map (fun index ↦ raw.take index) ↔
      ∃ front separator back, raw = front ++ separator :: back ∧
        isGroupSeparator separator = true ∧ candidate = front := by
  simp only [List.mem_map, List.mem_reverse, groupEnds, List.mem_filter, List.mem_range]
  constructor
  · rintro ⟨index, ⟨hlt, hseparator⟩, rfl⟩
    rw [List.getElem?_eq_getElem hlt, Option.any_some] at hseparator
    refine ⟨raw.take index, raw[index], raw.drop (index + 1), ?_, hseparator, rfl⟩
    rw [List.getElem_cons_drop, List.take_append_drop]
  · rintro ⟨front, separator, back, rfl, hseparator, rfl⟩
    refine ⟨candidate.length, ⟨?_, ?_⟩, List.take_left⟩
    · rw [List.length_append, List.length_cons]
      omega
    · rw [List.getElem?_append_right (le_refl _), Nat.sub_self]
      exact hseparator

theorem prefixes_shorten : ((groupEnds raw).reverse.map fun index ↦ raw.take index).Pairwise
    fun candidate later ↦ later.length ≤ candidate.length := by
  rw [List.pairwise_map, List.pairwise_reverse]
  have hsorted : (groupEnds raw).Pairwise (· < ·) :=
    List.Pairwise.filter _ List.pairwise_lt_range
  apply hsorted.imp
  intro index later hlt
  rw [List.length_take, List.length_take]
  omega

/-- What is found is an account number among the candidates, and none of them is a longer one. -/
theorem longestValidIban_some (h : longestValidIban mapping raw = some found) :
    IsIbanCandidate raw found ∧ ibanValid mapping found = true ∧
      ∀ candidate, IsIbanCandidate raw candidate → ibanValid mapping candidate = true →
        candidate.length ≤ found.length := by
  rw [longestValidIban] at h
  split_ifs at h with hwhole
  · cases h
    refine ⟨Or.inl rfl, hwhole, ?_⟩
    rintro candidate (rfl | ⟨front, separator, back, hraw, -, rfl⟩) _
    · exact le_refl _
    · rw [hraw, List.length_append]
      omega
  · obtain ⟨hvalid, longer, shorter, hsplit, hinvalid⟩ := List.find?_eq_some_iff_append.1 h
    have hmem := List.mem_of_find?_eq_some h
    refine ⟨Or.inr (mem_prefixes_iff.1 hmem), hvalid, ?_⟩
    rintro candidate (rfl | hshort) hcandidate
    · exact absurd hcandidate hwhole
    · have horder := @prefixes_shorten raw
      rw [← mem_prefixes_iff, hsplit] at hshort
      rw [hsplit] at horder
      rcases List.mem_append.1 hshort with hbefore | hbehind
      · have hnot := hinvalid candidate hbefore
        rw [hcandidate] at hnot
        exact absurd hnot (by decide)
      · rcases List.mem_cons.1 hbehind with rfl | hshorter
        · exact le_refl _
        · exact List.rel_of_pairwise_cons (List.pairwise_append.1 horder).2.1 hshorter

theorem longestValidIban_none_iff : longestValidIban mapping raw = none ↔
    ∀ candidate, IsIbanCandidate raw candidate → ibanValid mapping candidate = false := by
  rw [longestValidIban]
  split_ifs with hwhole
  · refine ⟨nofun, fun h ↦ ?_⟩
    rw [h raw (Or.inl rfl)] at hwhole
    cases hwhole
  · rw [List.find?_eq_none]
    constructor
    · rintro h candidate (rfl | hshort)
      · rwa [Bool.not_eq_true] at hwhole
      · rw [← Bool.not_eq_true]
        exact h candidate (mem_prefixes_iff.2 hshort)
    · intro h candidate hmem
      rw [h candidate (Or.inr (mem_prefixes_iff.1 hmem))]
      exact Bool.false_ne_true

/-- A candidate is the part of the match of its length. -/
theorem IsIbanCandidate.eq_take {candidate : Text} (h : IsIbanCandidate raw candidate) :
    candidate = raw.take candidate.length := by
  rcases h with rfl | ⟨front, separator, back, rfl, -, rfl⟩
  · exact (List.take_length).symm
  · exact List.take_left.symm

theorem longestValidIban_some_iff : longestValidIban mapping raw = some found ↔
    IsIbanCandidate raw found ∧ ibanValid mapping found = true ∧
      ∀ candidate, IsIbanCandidate raw candidate → ibanValid mapping candidate = true →
        candidate.length ≤ found.length := by
  refine ⟨longestValidIban_some, ?_⟩
  rintro ⟨hcandidate, hvalid, hlongest⟩
  cases hfound : longestValidIban mapping raw with
  | none =>
      rw [longestValidIban_none_iff.1 hfound found hcandidate] at hvalid
      cases hvalid
  | some other =>
      obtain ⟨hother, hotherValid, hotherLongest⟩ := longestValidIban_some hfound
      have hlength : other.length = found.length :=
        le_antisymm (hlongest other hother hotherValid) (hotherLongest found hcandidate hvalid)
      rw [hother.eq_take, hcandidate.eq_take, hlength]

end Iban

/-- Financial checksums are the standard ones. A text is an account number exactly when its compact
form has the shape and writes a number that is 1 modulo 97; the longest account number among the
whole match and its prefixes up to a separator is found, and nothing only when there is none; the
card check holds exactly when the weighted sum, whose doubled digits count the sum of their digits,
is 0 modulo 10. A changed digit breaks both checks, and so do swapped neighbours of a card number,
unless they are equal or 0 and 9. -/
theorem financial_checksums (mapping : CaseMapping) :
    (∀ value, ibanValid mapping value = true ↔
      IsIbanShaped (compactIban mapping value) ∧
        ibanInteger (compactIban mapping value) % 97 = 1) ∧
    (∀ raw found, longestValidIban mapping raw = some found ↔
      IsIbanCandidate raw found ∧ ibanValid mapping found = true ∧
        ∀ candidate, IsIbanCandidate raw candidate → ibanValid mapping candidate = true →
          candidate.length ≤ found.length) ∧
    (∀ raw, longestValidIban mapping raw = none ↔
      ∀ candidate, IsIbanCandidate raw candidate → ibanValid mapping candidate = false) ∧
    (∀ text, luhnValid text = true ↔ luhnSum text % 10 = 0) ∧
    (∀ (place : ℕ) (digit : Int), place % 2 = 1 → 0 ≤ digit → digit ≤ 9 →
      luhnWeight place digit = digit * 2 / 10 + digit * 2 % 10) ∧
    (∀ front back unit other, isDecimalUnit unit = true → isDecimalUnit other = true →
      unit ≠ other → luhnValid (front ++ unit :: back) = true →
        luhnValid (front ++ other :: back) = false) ∧
    (∀ front back unit other, isDecimalUnit unit = true → isDecimalUnit other = true →
      unit ≠ other → ¬(digitOf unit = 0 ∧ digitOf other = 9) →
        ¬(digitOf unit = 9 ∧ digitOf other = 0) →
          luhnValid (front ++ unit :: other :: back) = true →
            luhnValid (front ++ other :: unit :: back) = false) ∧
    ∀ front back unit other, isDecimalUnit unit = true → isDecimalUnit other = true →
      unit ≠ other → ibanValid mapping (front ++ unit :: back) = true →
        ibanValid mapping (front ++ other :: back) = false := by
  refine ⟨fun value ↦ ibanValid_iff, fun raw found ↦ longestValidIban_some_iff,
    fun raw ↦ longestValidIban_none_iff, fun text ↦ ?_, fun place digit ↦ luhnWeight_doubled,
    fun front back unit other ↦ luhn_change, fun front back unit other ↦ luhn_swap,
    fun front back unit other ↦ iban_change⟩
  rw [luhnValid_iff, Int.dvd_iff_emod_eq_zero]

/-- The mapping of texts of ASCII characters. -/
def asciiCaseMapping : CaseMapping where
  toUpperCase text := text.map upperUnit
  keepsDigit front unit back h := by
    rw [List.map_append, List.map_cons]
    have hsmall : upperUnit unit = unit := by
      rw [isDecimalUnit_iff] at h
      rw [← UInt16.toNat_inj, Shared.toNat_upperUnit, if_neg (by omega)]
    rw [hsmall]

/-- A card number and an account number, each with a digit changed, and the former with two digits
swapped. -/
theorem financial_checksums_broken :
    luhnValid (asciiText "4012888888881881") = true ∧
      luhnValid (asciiText "4012888888881882") = false ∧
      luhnValid (asciiText "4021888888881881") = false ∧
      ibanValid asciiCaseMapping (asciiText "DE89 3704 0044 0532 0130 00") = true ∧
      ibanValid asciiCaseMapping (asciiText "DE89 3704 0044 0532 0130 01") = false := by
  have hcard : luhnValid (asciiText "4012888888881881") = true := by decide +kernel
  have haccount : ibanValid asciiCaseMapping (asciiText "DE89 3704 0044 0532 0130 00") = true := by
    decide +kernel
  obtain ⟨-, -, -, -, -, hchange, hswap, hdigit⟩ := financial_checksums asciiCaseMapping
  refine ⟨hcard, ?_, ?_, haccount, ?_⟩
  · exact hchange (asciiText "401288888888188") [] 49 50 (by decide) (by decide) (by decide) hcard
  · exact hswap (asciiText "40") (asciiText "888888881881") 49 50 (by decide) (by decide)
      (by decide) (by decide) (by decide) hcard
  · exact hdigit (asciiText "DE89 3704 0044 0532 0130 0") [] 48 49 (by decide) (by decide)
      (by decide) haccount

end ReputationKey.Ai
