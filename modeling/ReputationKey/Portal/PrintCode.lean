import Mathlib.Data.List.Forall2
import ReputationKey.Base.BigEndianBits
import ReputationKey.Shared.AsciiUnits

/-!
# Print codes

The short credential written into a printed QR or an NFC tag: a hundred bits as twenty characters,
and what a scanner or a tag hands back, read as one. Follows
`src/src/contexts/portal/domain/print-code.ts`.
-/

namespace ReputationKey.Portal

open ReputationKey.Base
open ReputationKey.Review (Text)
open ReputationKey.Shared (asciiText isDecimalUnit isUpperUnit isLowerUnit isUnitIn upperUnit
  isDecimalUnit_iff isUpperUnit_iff isLowerUnit_iff toNat_upperUnit)

def printCodeLength : ℕ := 20

def bitsPerCharacter : ℕ := 5

def printCodeBits : ℕ := printCodeLength * bitsPerCharacter

/-- The digits and the letters without I, L, O and U. -/
def printCodeAlphabet : Text := asciiText "0123456789ABCDEFGHJKMNPQRSTVWXYZ"

/-- `String.prototype.charAt`: nothing outside the text. -/
def charAt (text : Text) (index : ℕ) : Text := (text[index]?).toList

/-- The message of the error of too few bytes. -/
def printCodeTooShort : String := "A print code needs at least 100 bits"

/-- The first hundred bits of the bytes, five bits to a character. Follows `print-code.ts:25–37`. -/
def printCodeFromBytes (bytes : List UInt8) : Except String Text :=
  let neededBytes := (printCodeBits + 7) / 8
  if bytes.length < neededBytes then .error printCodeTooShort
  else
    let read := (bytes.take neededBytes).foldl (fun bits byte ↦ bits <<< 8 ||| byte.toNat) 0
    let bits := read >>> (neededBytes * 8 - printCodeBits)
    .ok ((List.range printCodeLength).reverse.flatMap fun index ↦
      charAt printCodeAlphabet ((bits >>> (index * bitsPerCharacter)) &&& 0b11111))

/-- The characters a code may be typed with. -/
def isTypedSymbol (unit : UInt16) : Bool := isDecimalUnit unit || isUpperUnit unit || isLowerUnit unit

/-- The characters of the alphabet, as the reader's pattern lists them. -/
def isCanonicalSymbol (unit : UInt16) : Bool :=
  isDecimalUnit unit || isUnitIn 'A' 'H' unit || isUnitIn 'J' 'J' unit || isUnitIn 'K' 'K' unit ||
    isUnitIn 'M' 'M' unit || isUnitIn 'N' 'N' unit || isUnitIn 'P' 'T' unit || isUnitIn 'V' 'Z' unit

/-- The letter O reads as 0, and I and L as 1. -/
def foldLookAlike (unit : UInt16) : UInt16 :=
  if unit.toNat = 79 then 48 else if unit.toNat = 73 ∨ unit.toNat = 76 then 49 else unit

/-- A typed character in capitals, with the look-alikes read as digits. -/
def foldSymbol (unit : UInt16) : UInt16 := foldLookAlike (upperUnit unit)

/-- Whether a text is twenty characters of a class. -/
def isCodeOf (isSymbol : UInt16 → Bool) (text : Text) : Bool :=
  decide (text.length = printCodeLength) && text.all isSymbol

/-- The canonical code for what a scanner or a tag handed back, if it is one. Follows
`print-code.ts:50–54`. -/
def normalizePrintCode (raw : Text) : Option Text :=
  if isCodeOf isTypedSymbol raw then
    let folded := raw.map foldSymbol
    if isCodeOf isCanonicalSymbol folded then some folded else none
  else none

/-! ## What a code stands for -/

/-- The bits of a byte string, the highest bit of each byte first. -/
def byteBits (bytes : List UInt8) : List Bool := bytes.flatMap fun byte ↦ bitsOf 8 byte.toNat

/-- The bits a code is decoded to, five from each character's place in the alphabet. -/
def decodedBits (code : Text) : List Bool :=
  code.flatMap fun unit ↦ bitsOf bitsPerCharacter (printCodeAlphabet.idxOf unit)

/-- Twenty characters of the alphabet. -/
def IsPrintCode (code : Text) : Prop :=
  code.length = printCodeLength ∧ ∀ unit ∈ code, unit ∈ printCodeAlphabet

/-- Capital and small form of one letter. -/
def IsRecased (capital small : UInt16) : Prop :=
  65 ≤ capital.toNat ∧ capital.toNat ≤ 90 ∧ small.toNat = capital.toNat + 32

/-- Two characters are the same up to case and the look-alikes of 0 and 1. -/
def IsAlike (unit other : UInt16) : Prop :=
  unit = other ∨ IsRecased unit other ∨ IsRecased other unit ∨
    (unit ∈ asciiText "0Oo" ∧ other ∈ asciiText "0Oo") ∨
    (unit ∈ asciiText "1IiLl" ∧ other ∈ asciiText "1IiLl")

instance (capital small : UInt16) : Decidable (IsRecased capital small) :=
  inferInstanceAs (Decidable (_ ∧ _ ∧ _))

instance (unit other : UInt16) : Decidable (IsAlike unit other) :=
  inferInstanceAs (Decidable (_ ∨ _ ∨ _ ∨ _ ∨ _))

variable {unit other : UInt16} {text code : Text} {bytes : List UInt8}

/-! ## The alphabet -/

theorem printCodeAlphabet_nodup : printCodeAlphabet.Nodup := by decide

theorem isCanonicalSymbol_of_mem (h : unit ∈ printCodeAlphabet) : isCanonicalSymbol unit = true :=
  List.all_eq_true.1 (by decide : printCodeAlphabet.all isCanonicalSymbol = true) unit h

/-- A canonical character is a capital or a digit. -/
theorem toNat_le_of_isCanonicalSymbol (h : isCanonicalSymbol unit = true) : unit.toNat ≤ 90 := by
  simp only [isCanonicalSymbol, isDecimalUnit, isUnitIn, Bool.or_eq_true, Bool.and_eq_true,
    decide_eq_true_eq] at h
  have hbounds : '9'.toNat = 57 ∧ 'H'.toNat = 72 ∧ 'J'.toNat = 74 ∧ 'K'.toNat = 75 ∧
      'M'.toNat = 77 ∧ 'N'.toNat = 78 ∧ 'T'.toNat = 84 ∧ 'Z'.toNat = 90 := by decide
  omega

theorem mem_of_isCanonicalSymbol (h : isCanonicalSymbol unit = true) : unit ∈ printCodeAlphabet := by
  have hall : (List.range 91).all fun n ↦
      !isCanonicalSymbol (UInt16.ofNat n) || printCodeAlphabet.contains (UInt16.ofNat n) := by decide
  have hlt : unit.toNat < 91 := Nat.lt_succ_of_le (toNat_le_of_isCanonicalSymbol h)
  have hunit := List.all_eq_true.1 hall unit.toNat (List.mem_range.2 hlt)
  rw [UInt16.ofNat_toNat, h] at hunit
  simpa using hunit

theorem isCanonicalSymbol_iff : isCanonicalSymbol unit = true ↔ unit ∈ printCodeAlphabet :=
  ⟨mem_of_isCanonicalSymbol, isCanonicalSymbol_of_mem⟩

/-- Characters of the alphabet are typed as they are read. -/
theorem foldSymbol_of_mem (h : unit ∈ printCodeAlphabet) :
    isTypedSymbol unit = true ∧ foldSymbol unit = unit := by
  have hall : (printCodeAlphabet.all fun u ↦ isTypedSymbol u && foldSymbol u == u) = true := by
    decide
  simpa using List.all_eq_true.1 hall unit h

/-! ## The reader -/

theorem isTypedSymbol_iff : isTypedSymbol unit = true ↔
    (48 ≤ unit.toNat ∧ unit.toNat ≤ 57) ∨ (65 ≤ unit.toNat ∧ unit.toNat ≤ 90) ∨
      (97 ≤ unit.toNat ∧ unit.toNat ≤ 122) := by
  rw [isTypedSymbol, Bool.or_eq_true, Bool.or_eq_true, isDecimalUnit_iff, isUpperUnit_iff,
    isLowerUnit_iff, or_assoc]

theorem toNat_foldLookAlike : (foldLookAlike unit).toNat =
    if unit.toNat = 79 then 48 else if unit.toNat = 73 ∨ unit.toNat = 76 then 49
      else unit.toNat := by
  rw [foldLookAlike]
  split_ifs <;> rfl

/-- Likeness, on the numbers of the characters. -/
theorem isAlike_iff : IsAlike unit other ↔
    (unit.toNat = other.toNat ∨ IsRecased unit other ∨ IsRecased other unit) ∨
    ((unit.toNat = 48 ∨ unit.toNat = 79 ∨ unit.toNat = 111) ∧
      (other.toNat = 48 ∨ other.toNat = 79 ∨ other.toNat = 111)) ∨
    ((unit.toNat = 49 ∨ unit.toNat = 73 ∨ unit.toNat = 105 ∨ unit.toNat = 76 ∨ unit.toNat = 108) ∧
      (other.toNat = 49 ∨ other.toNat = 73 ∨ other.toNat = 105 ∨ other.toNat = 76 ∨
        other.toNat = 108)) := by
  have hzero : asciiText "0Oo" = [48, 79, 111] := rfl
  have hone : asciiText "1IiLl" = [49, 73, 105, 76, 108] := rfl
  simp only [IsAlike, hzero, hone, List.mem_cons, List.not_mem_nil, or_false, ← UInt16.toNat_inj,
    UInt16.reduceToNat, or_assoc]

/-- Alike characters are typed both or neither. -/
theorem IsAlike.isTypedSymbol_eq (h : IsAlike unit other) :
    isTypedSymbol unit = isTypedSymbol other := by
  rw [Bool.eq_iff_iff, isTypedSymbol_iff, isTypedSymbol_iff]
  rw [isAlike_iff, IsRecased, IsRecased] at h
  omega

/-- Characters with one capital differ in case at most. -/
theorem upperUnit_eq_iff : (upperUnit unit).toNat = (upperUnit other).toNat ↔
    unit.toNat = other.toNat ∨ IsRecased unit other ∨ IsRecased other unit := by
  rw [toNat_upperUnit, toNat_upperUnit, IsRecased, IsRecased]
  split_ifs <;> omega

theorem upperUnit_zero_iff : (upperUnit unit).toNat = 48 ∨ (upperUnit unit).toNat = 79 ↔
    unit.toNat = 48 ∨ unit.toNat = 79 ∨ unit.toNat = 111 := by
  rw [toNat_upperUnit]
  split_ifs <;> omega

theorem upperUnit_one_iff :
    (upperUnit unit).toNat = 49 ∨ (upperUnit unit).toNat = 73 ∨ (upperUnit unit).toNat = 76 ↔
      unit.toNat = 49 ∨ unit.toNat = 73 ∨ unit.toNat = 105 ∨ unit.toNat = 76 ∨
        unit.toNat = 108 := by
  rw [toNat_upperUnit]
  split_ifs <;> omega

/-- Capitals read as one character are one, or look like one digit. -/
theorem foldLookAlike_eq_iff : (foldLookAlike unit).toNat = (foldLookAlike other).toNat ↔
    unit.toNat = other.toNat ∨
    ((unit.toNat = 48 ∨ unit.toNat = 79) ∧ (other.toNat = 48 ∨ other.toNat = 79)) ∨
    ((unit.toNat = 49 ∨ unit.toNat = 73 ∨ unit.toNat = 76) ∧
      (other.toNat = 49 ∨ other.toNat = 73 ∨ other.toNat = 76)) := by
  rw [toNat_foldLookAlike, toNat_foldLookAlike]
  split_ifs <;> omega

/-- Characters are read as the same one exactly when they are alike. -/
theorem foldSymbol_eq_iff : foldSymbol unit = foldSymbol other ↔ IsAlike unit other := by
  rw [isAlike_iff, ← UInt16.toNat_inj, foldSymbol, foldSymbol, foldLookAlike_eq_iff,
    upperUnit_eq_iff, upperUnit_zero_iff, upperUnit_zero_iff, upperUnit_one_iff,
    upperUnit_one_iff]

theorem isCodeOf_iff {isSymbol : UInt16 → Bool} : isCodeOf isSymbol text = true ↔
    text.length = printCodeLength ∧ ∀ unit ∈ text, isSymbol unit = true := by
  rw [isCodeOf, Bool.and_eq_true, decide_eq_true_eq, List.all_eq_true]

theorem isCodeOf_canonical_iff : isCodeOf isCanonicalSymbol text = true ↔ IsPrintCode text := by
  rw [isCodeOf_iff]
  simp only [isCanonicalSymbol_iff, IsPrintCode]

/-- What the reader accepts, and what it makes of it. -/
theorem normalizePrintCode_eq_some_iff : normalizePrintCode text = some code ↔
    (∀ unit ∈ text, isTypedSymbol unit = true) ∧ text.map foldSymbol = code ∧ IsPrintCode code := by
  simp only [normalizePrintCode]
  rw [← isCodeOf_canonical_iff]
  split_ifs with htyped hcanonical
  · rw [isCodeOf_iff] at htyped
    constructor
    · rintro ⟨⟩
      exact ⟨htyped.2, rfl, hcanonical⟩
    · rintro ⟨-, rfl, -⟩
      rfl
  · refine ⟨nofun, ?_⟩
    rintro ⟨-, rfl, hcode⟩
    exact absurd hcode hcanonical
  · refine ⟨nofun, ?_⟩
    rintro ⟨hall, rfl, hcode⟩
    rw [isCodeOf_iff, List.length_map] at hcode
    exact absurd (isCodeOf_iff.2 ⟨hcode.1, hall⟩) htyped

theorem normalizePrintCode_of_code (h : IsPrintCode code) : normalizePrintCode code = some code := by
  rw [normalizePrintCode_eq_some_iff]
  refine ⟨fun unit hunit ↦ (foldSymbol_of_mem (h.2 unit hunit)).1, ?_, h⟩
  exact (List.map_congr_left fun unit hunit ↦ (foldSymbol_of_mem (h.2 unit hunit)).2).trans
    (List.map_id code)

/-- Texts fold to the same one exactly when they agree up to case and look-alikes. -/
theorem map_foldSymbol_eq_iff :
    text.map foldSymbol = code.map foldSymbol ↔ List.Forall₂ IsAlike text code := by
  rw [← List.forall₂_eq_eq_eq, List.forall₂_map_left_iff, List.forall₂_map_right_iff]
  simp only [foldSymbol_eq_iff]

/-- Texts that agree up to case and look-alikes are typed both or neither. -/
theorem forall_typed_iff (h : List.Forall₂ IsAlike text code) :
    (∀ unit ∈ text, isTypedSymbol unit = true) ↔ ∀ unit ∈ code, isTypedSymbol unit = true := by
  induction h with
  | nil => rfl
  | cons halike _ ih => rw [List.forall_mem_cons, List.forall_mem_cons, ih, halike.isTypedSymbol_eq]

/-- Texts that agree up to case and look-alikes are read the same way. -/
theorem normalizePrintCode_congr (h : List.Forall₂ IsAlike text code) :
    normalizePrintCode text = normalizePrintCode code := by
  apply Option.ext
  intro found
  rw [normalizePrintCode_eq_some_iff, normalizePrintCode_eq_some_iff, forall_typed_iff h,
    map_foldSymbol_eq_iff.2 h]

/-- Texts that are read as one code agree up to case and look-alikes. -/
theorem alike_of_normalizePrintCode {typed : Text} (h : normalizePrintCode text = some code)
    (otherwise : normalizePrintCode typed = some code) : List.Forall₂ IsAlike text typed := by
  obtain ⟨-, hfold, -⟩ := normalizePrintCode_eq_some_iff.1 h
  obtain ⟨-, hother, -⟩ := normalizePrintCode_eq_some_iff.1 otherwise
  rw [← map_foldSymbol_eq_iff, hfold, hother]

/-! ## The writer -/

theorem charAt_alphabet {index : ℕ} (h : index < 32) :
    ∃ unit ∈ printCodeAlphabet, charAt printCodeAlphabet index = [unit] ∧
      printCodeAlphabet.idxOf unit = index := by
  have hindex : index < printCodeAlphabet.length := h
  refine ⟨printCodeAlphabet[index], List.getElem_mem hindex, ?_,
    printCodeAlphabet_nodup.idxOf_getElem index hindex⟩
  rw [charAt, List.getElem?_eq_getElem hindex]
  rfl

/-- Five bits of a number name a character of the alphabet. -/
theorem symbols_spec (bits : ℕ) (indices : List ℕ) :
    let code := indices.flatMap fun index ↦
      charAt printCodeAlphabet ((bits >>> (index * bitsPerCharacter)) &&& 0b11111)
    code.length = indices.length ∧ (∀ unit ∈ code, unit ∈ printCodeAlphabet) ∧
      decodedBits code = indices.flatMap fun index ↦
        bitsOf bitsPerCharacter ((bits >>> (index * bitsPerCharacter)) &&& 0b11111) := by
  induction indices with
  | nil => exact ⟨rfl, fun unit hunit ↦ absurd hunit List.not_mem_nil, rfl⟩
  | cons index indices ih =>
      obtain ⟨hlength, hall, hbits⟩ := ih
      have hlt : (bits >>> (index * bitsPerCharacter)) &&& 0b11111 < 32 :=
        Nat.lt_succ_of_le Nat.and_le_right
      obtain ⟨unit, hunit, hchar, hplace⟩ := charAt_alphabet hlt
      simp only [List.flatMap_cons, hchar, List.singleton_append, List.length_cons]
      refine ⟨by rw [hlength], List.forall_mem_cons.2 ⟨hunit, hall⟩, ?_⟩
      rw [decodedBits, List.flatMap_cons, hplace, ← decodedBits, hbits]

/-- The bytes read into one number are its bits. -/
theorem bitsOf_bytes : bitsOf (bytes.length * 8)
    (bytes.foldl (fun bits byte ↦ bits <<< 8 ||| byte.toNat) 0) = byteBits bytes := by
  have hread := bitsOf_foldl_digits (fun byte : UInt8 ↦ byte.toNat_lt) bytes 0 0
  rw [Nat.zero_add] at hread
  exact hread

/-- The code of enough bytes is twenty characters of the alphabet, and stands for their first
hundred bits. -/
theorem printCodeFromBytes_spec (enough : 13 ≤ bytes.length) :
    ∃ code, printCodeFromBytes bytes = .ok code ∧ IsPrintCode code ∧
      decodedBits code = (byteBits bytes).take printCodeBits := by
  have hneeded : (printCodeBits + 7) / 8 = 13 := rfl
  simp only [printCodeFromBytes, hneeded]
  rw [if_neg (Nat.not_lt.2 enough)]
  have hlength : (bytes.take 13).length = 13 := by
    rw [List.length_take]
    omega
  have hread : bitsOf (100 + 4) ((bytes.take 13).foldl
      (fun bits byte ↦ bits <<< 8 ||| byte.toNat) 0) = byteBits (bytes.take 13) := by
    rw [← bitsOf_bytes, hlength]
  rw [bitsOf_add] at hread
  obtain ⟨hcount, hall, hbits⟩ := symbols_spec ((bytes.take 13).foldl
    (fun bits byte ↦ bits <<< 8 ||| byte.toNat) 0 >>> 4) (List.range printCodeLength).reverse
  refine ⟨_, rfl, ⟨hcount.trans ?_, hall⟩, hbits.trans ?_⟩
  · rw [List.length_reverse, List.length_range]
  · have hsplit : byteBits bytes = byteBits (bytes.take 13) ++ byteBits (bytes.drop 13) := by
      rw [byteBits, byteBits, byteBits, ← List.flatMap_append, List.take_append_drop]
    rw [hsplit, ← hread, List.append_assoc]
    refine (flatMap_bitsOf_digits bitsPerCharacter _ printCodeLength).trans ?_
    exact (List.take_left' (length_bitsOf 100)).symm

/-- A code is decoded to itself only. -/
theorem eq_of_decodedBits_eq {code other : Text} (length : code.length = other.length)
    (hall : ∀ unit ∈ code, unit ∈ printCodeAlphabet)
    (hother : ∀ unit ∈ other, unit ∈ printCodeAlphabet)
    (h : decodedBits code = decodedBits other) : code = other := by
  induction code generalizing other with
  | nil => exact (List.length_eq_zero_iff.1 length.symm).symm
  | cons unit code ih =>
      cases other with
      | nil => cases length
      | cons unit' other =>
          rw [List.forall_mem_cons] at hall hother
          rw [decodedBits, decodedBits, List.flatMap_cons, List.flatMap_cons] at h
          obtain ⟨hunit, hrest⟩ := List.append_inj h (by rw [length_bitsOf, length_bitsOf])
          have hplace := eq_of_bitsOf_eq (List.idxOf_lt_length_iff.2 hall.1)
            (List.idxOf_lt_length_iff.2 hother.1) hunit
          rw [(List.idxOf_inj hall.1).1 hplace,
            ih (Nat.succ.inj length) hall.2 hother.2 hrest]

theorem printCodeFromBytes_eq_iff {others : List UInt8} (enough : 13 ≤ bytes.length)
    (otherEnough : 13 ≤ others.length) : printCodeFromBytes bytes = printCodeFromBytes others ↔
      (byteBits bytes).take printCodeBits = (byteBits others).take printCodeBits := by
  obtain ⟨code, hcode, hprint, hbits⟩ := printCodeFromBytes_spec enough
  obtain ⟨other, hother, hotherPrint, hotherBits⟩ := printCodeFromBytes_spec otherEnough
  rw [hcode, hother, ← hbits, ← hotherBits]
  constructor
  · rintro ⟨⟩
    rfl
  · intro h
    rw [eq_of_decodedBits_eq (hprint.1.trans hotherPrint.1.symm) hprint.2 hotherPrint.2 h]

/-- Print codes survive printing and reading. The code of at least 13 bytes is twenty characters of
the alphabet that are decoded to the first hundred bits, so byte strings share a code exactly when
these bits agree; the reader gives it back from any text that differs in case and look-alikes only.
Whatever the reader is handed, it returns nothing or a code that it returns again; texts that agree
up to case and look-alikes are read alike, and no others are read as the same code. -/
theorem print_codes_survive :
    (∀ bytes : List UInt8, 13 ≤ bytes.length →
      ∃ code, printCodeFromBytes bytes = .ok code ∧ IsPrintCode code ∧
        decodedBits code = (byteBits bytes).take printCodeBits ∧
        ∀ typed, List.Forall₂ IsAlike typed code → normalizePrintCode typed = some code) ∧
    (∀ bytes others : List UInt8, 13 ≤ bytes.length → 13 ≤ others.length →
      (printCodeFromBytes bytes = printCodeFromBytes others ↔
        (byteBits bytes).take printCodeBits = (byteBits others).take printCodeBits)) ∧
    (∀ raw : Text, normalizePrintCode raw = none ∨
      ∃ code, normalizePrintCode raw = some code ∧ IsPrintCode code ∧
        normalizePrintCode code = some code) ∧
    (∀ raw other : Text, List.Forall₂ IsAlike raw other →
      normalizePrintCode raw = normalizePrintCode other) ∧
    ∀ raw other code : Text, normalizePrintCode raw = some code →
      normalizePrintCode other = some code → List.Forall₂ IsAlike raw other := by
  refine ⟨fun bytes enough ↦ ?_, fun bytes others ↦ printCodeFromBytes_eq_iff, fun raw ↦ ?_,
    fun raw other ↦ normalizePrintCode_congr, fun raw other code ↦ alike_of_normalizePrintCode⟩
  · obtain ⟨code, hcode, hprint, hbits⟩ := printCodeFromBytes_spec enough
    refine ⟨code, hcode, hprint, hbits, fun typed halike ↦ ?_⟩
    rw [normalizePrintCode_congr halike, normalizePrintCode_of_code hprint]
  · cases hread : normalizePrintCode raw with
    | none => exact Or.inl rfl
    | some code =>
        have hprint := (normalizePrintCode_eq_some_iff.1 hread).2.2
        exact Or.inr ⟨code, rfl, hprint, normalizePrintCode_of_code hprint⟩

/-- A code of zeros and ones, typed with the letters that look like them. -/
theorem print_codes_survive_typed :
    printCodeFromBytes (List.replicate 13 0x10) = .ok (asciiText "2081040G2081040G2081") ∧
      normalizePrintCode (asciiText "2o8I040g2O8l040G2081") = some (asciiText "2081040G2081040G2081") := by
  have hprinted : printCodeFromBytes (List.replicate 13 0x10) =
      .ok (asciiText "2081040G2081040G2081") := by decide +kernel
  have halike : List.Forall₂ IsAlike (asciiText "2o8I040g2O8l040G2081")
      (asciiText "2081040G2081040G2081") := by decide +kernel
  obtain ⟨code, hcode, -, -, hread⟩ := print_codes_survive.1 (List.replicate 13 0x10) (by decide)
  rw [hprinted, Except.ok.injEq] at hcode
  subst hcode
  exact ⟨hprinted, hread _ halike⟩

end ReputationKey.Portal
