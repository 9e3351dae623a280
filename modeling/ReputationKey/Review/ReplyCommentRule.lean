import Mathlib.Data.List.TakeWhile
import ReputationKey.Base.Utf16
import ReputationKey.Review.ReplyComment
import ReputationKey.Review.Trimming

/-!
# The reply comment rule counts what is sent

The byte count of `src/src/shared/google-provider-control/reply-comment.ts:34–51` is the length of
the UTF-8 encoding, and its character scan finds the first character Google cannot be sent.
-/

namespace ReputationKey.Review

open Base (isHighUnit isLowUnit utf8Bytes WellFormedUtf16 scalar_induction)

variable {unit next : UInt16} {text before rest : Text} {problem : ReplyCommentProblem}

/-- A unit is joined to the next one as a surrogate pair. -/
def JoinsNext (unit : UInt16) (rest : Text) : Prop :=
  isHighUnit unit = true ∧ ∃ next ∈ rest.head?, isLowUnit next = true

/-- A C0 control other than tab, line feed and carriage return, or DEL. -/
def IsRefused (unit : UInt16) : Prop :=
  unit.toNat < 32 ∧ unit.toNat ≠ 9 ∧ unit.toNat ≠ 10 ∧ unit.toNat ≠ 13 ∨ unit.toNat = 127

/-- The problem of a unit with these units behind it: a surrogate without a partner, or a control
that is refused. -/
def HasProblem (unit : UInt16) (rest : Text) : ReplyCommentProblem → Prop
  | .malformedUnicode =>
      isHighUnit unit = true ∧ ¬JoinsNext unit rest ∨ isLowUnit unit = true
  | .invalidCharacter => IsRefused unit
  | _ => False

/-- Text whose surrogates are paired, without refused controls. -/
def HasNoProblem (text : Text) : Prop := WellFormedUtf16 text ∧ ∀ unit ∈ text, ¬IsRefused unit

theorem isRefusedControl_iff : isRefusedControl unit = true ↔ IsRefused unit := by
  simp only [isRefusedControl, IsRefused, Bool.and_eq_true, Bool.not_eq_true', Bool.or_eq_false_iff,
    Bool.or_eq_true, beq_eq_false_iff_ne, beq_iff_eq, decide_eq_true_eq, ne_eq,
    UInt16.le_iff_toNat_le, ← UInt16.toNat_inj, UInt16.reduceToNat]
  omega

/-- A refused control is no surrogate. -/
theorem not_surrogate_of_refused (h : IsRefused unit) :
    isHighUnit unit = false ∧ isLowUnit unit = false := by
  rw [← Bool.not_eq_true, ← Bool.not_eq_true, Base.isHighUnit_iff, Base.isLowUnit_iff]
  rw [IsRefused] at h
  omega

theorem not_refused_of_high (h : isHighUnit unit = true) : ¬IsRefused unit := by
  intro hrefused
  rw [(not_surrogate_of_refused hrefused).1] at h
  cases h

theorem not_refused_of_low (h : isLowUnit unit = true) : ¬IsRefused unit := by
  intro hrefused
  rw [(not_surrogate_of_refused hrefused).2] at h
  cases h

/-! ## The byte count -/

theorem replyCommentByteLength_pair (high : isHighUnit unit = true) (low : isLowUnit next = true) :
    replyCommentByteLength (unit :: next :: rest) = 4 + replyCommentByteLength rest := by
  have hpair : (isHighSurrogate unit && isLowSurrogate next) = true := by
    rw [Bool.and_eq_true]
    exact ⟨high, low⟩
  rw [Base.isHighUnit_iff] at high
  rw [replyCommentByteLength, if_neg, if_neg, if_pos hpair]
  · simp only [UInt16.lt_iff_toNat_lt, UInt16.reduceToNat]
    omega
  · simp only [UInt16.lt_iff_toNat_lt, UInt16.reduceToNat]
    omega

theorem replyCommentByteLength_unit (apart : ¬JoinsNext unit rest) :
    replyCommentByteLength (unit :: rest) =
      (if unit.toNat < 0x80 then 1 else if unit.toNat < 0x800 then 2 else 3) +
        replyCommentByteLength rest := by
  have hone : (unit < 0x80) = (unit.toNat < 0x80) := by
    simp only [UInt16.lt_iff_toNat_lt, UInt16.reduceToNat]
  have htwo : (unit < 0x800) = (unit.toNat < 0x800) := by
    simp only [UInt16.lt_iff_toNat_lt, UInt16.reduceToNat]
  cases rest with
  | nil =>
      simp only [replyCommentByteLength, hone, htwo]
      split_ifs <;> rfl
  | cons next rest =>
      have hpair : ¬(isHighSurrogate unit && isLowSurrogate next) = true := by
        rw [Bool.and_eq_true]
        rintro ⟨hhigh, hlow⟩
        exact apart ⟨hhigh, next, rfl, hlow⟩
      simp only [replyCommentByteLength, hone, htwo, if_neg hpair]
      split_ifs <;> rfl

/-- The bytes counted are the bytes of the encoding. -/
theorem replyCommentByteLength_eq (text : Text) :
    replyCommentByteLength text = (utf8Bytes text).length := by
  induction text using scalar_induction with
  | nil => rfl
  | pair high low rest hhigh hlow ih =>
      rw [replyCommentByteLength_pair hhigh hlow, ih, utf8Bytes, utf8Bytes,
        Base.scalarValues_cons_pair hhigh hlow, List.flatMap_cons, List.length_append,
        Base.length_pairScalar hhigh hlow]
  | unit unit rest hapart ih =>
      rw [replyCommentByteLength_unit hapart, ih, utf8Bytes, utf8Bytes,
        Base.scalarValues_cons_unit hapart, List.flatMap_cons, List.length_append,
        Base.length_unitScalar]

/-! ## The character scan -/

theorem characterProblem_pair (high : isHighUnit unit = true) (low : isLowUnit next = true) :
    characterProblem (unit :: next :: rest) = characterProblem rest := by
  have hhigh : isHighSurrogate unit = true := high
  have hlow : isLowSurrogate next = true := low
  rw [characterProblem, if_pos hhigh, hlow]
  rfl

/-- A unit without surrogates is passed by. -/
theorem characterProblem_plain (high : isHighUnit unit = false) (low : isLowUnit unit = false) :
    characterProblem (unit :: rest) =
      if isRefusedControl unit then some .invalidCharacter else characterProblem rest := by
  have hhigh : isHighSurrogate unit = false := high
  have hlow : isLowSurrogate unit = false := low
  cases rest with
  | nil => simp only [characterProblem, hhigh, hlow, Bool.or_self, Bool.false_eq_true, if_false]
  | cons next rest => simp only [characterProblem, hhigh, hlow, Bool.false_eq_true, if_false]

/-- A surrogate without a partner stops the scan. -/
theorem characterProblem_lone (h : HasProblem unit rest .malformedUnicode) :
    characterProblem (unit :: rest) = some .malformedUnicode := by
  rcases h with ⟨hhigh, happart⟩ | hlow
  · have hunit : isHighSurrogate unit = true := hhigh
    cases rest with
    | nil => simp only [characterProblem, hunit, Bool.true_or, if_true]
    | cons next rest =>
        have hnext : isLowSurrogate next = false := by
          rw [← Bool.not_eq_true]
          exact fun hlow ↦ happart ⟨hhigh, next, rfl, hlow⟩
        simp only [characterProblem, hunit, hnext, Bool.not_false, if_true]
  · have hunit : isLowSurrogate unit = true := hlow
    have hhigh : isHighSurrogate unit = false := by
      rw [← Bool.not_eq_true]
      intro hhigh
      rw [Base.not_isLowUnit_of_high hhigh] at hlow
      cases hlow
    cases rest with
    | nil => simp only [characterProblem, hunit, Bool.or_true, if_true]
    | cons next rest =>
        simp only [characterProblem, hhigh, hunit, Bool.false_eq_true, if_false, if_true]

/-- A unit has a problem, starts a pair, or is an ordinary character. -/
theorem unit_cases (unit : UInt16) (rest : Text) :
    HasProblem unit rest .malformedUnicode ∨ JoinsNext unit rest ∨
      isHighUnit unit = false ∧ isLowUnit unit = false := by
  by_cases hhigh : isHighUnit unit = true
  · by_cases hjoins : JoinsNext unit rest
    · exact Or.inr (Or.inl hjoins)
    · exact Or.inl (Or.inl ⟨hhigh, hjoins⟩)
  · by_cases hlow : isLowUnit unit = true
    · exact Or.inl (Or.inr hlow)
    · rw [Bool.not_eq_true] at hhigh hlow
      exact Or.inr (Or.inr ⟨hhigh, hlow⟩)

/-- Text without a problem is passed by. -/
theorem characterProblem_append (before : HasNoProblem text) :
    characterProblem (text ++ rest) = characterProblem rest := by
  obtain ⟨hformed, hplain⟩ := before
  induction hformed with
  | nil => rfl
  | @unit unit more hhigh hlow _ ih =>
      have hunit : isRefusedControl unit = false := by
        rw [← Bool.not_eq_true, isRefusedControl_iff]
        exact hplain unit List.mem_cons_self
      rw [List.cons_append, characterProblem_plain hhigh hlow, hunit]
      exact ih fun u hu ↦ hplain u (List.mem_cons_of_mem _ hu)
  | pair hhigh hlow _ ih =>
      rw [List.cons_append, List.cons_append, characterProblem_pair hhigh hlow]
      exact ih fun u hu ↦ hplain u (List.mem_cons_of_mem _ (List.mem_cons_of_mem _ hu))

theorem HasNoProblem.cons_pair (high : isHighUnit unit = true) (low : isLowUnit next = true)
    (h : HasNoProblem rest) : HasNoProblem (unit :: next :: rest) := by
  refine ⟨.pair high low h.1, fun u hu ↦ ?_⟩
  rcases List.mem_cons.1 hu with rfl | hu
  · exact not_refused_of_high high
  · rcases List.mem_cons.1 hu with rfl | hu
    · exact not_refused_of_low low
    · exact h.2 u hu

theorem HasNoProblem.cons_unit (high : isHighUnit unit = false) (low : isLowUnit unit = false)
    (plain : ¬IsRefused unit) (h : HasNoProblem rest) : HasNoProblem (unit :: rest) := by
  refine ⟨.unit high low h.1, fun u hu ↦ ?_⟩
  rcases List.mem_cons.1 hu with rfl | hu
  · exact plain
  · exact h.2 u hu

/-- The scan ends behind a text without problems, or at the first unit that has one. -/
theorem scan_ends (text : Text) :
    characterProblem text = none ∧ HasNoProblem text ∨
      ∃ before unit rest problem, text = before ++ unit :: rest ∧ HasNoProblem before ∧
        HasProblem unit rest problem ∧ characterProblem text = some problem := by
  induction text using scalar_induction with
  | nil => exact Or.inl ⟨rfl, .nil, fun u hu ↦ absurd hu List.not_mem_nil⟩
  | pair high low rest hhigh hlow ih =>
      rw [characterProblem_pair hhigh hlow]
      rcases ih with ⟨hnone, hclean⟩ | ⟨before, unit, more, problem, rfl, hbefore, hunit, hscan⟩
      · exact Or.inl ⟨hnone, hclean.cons_pair hhigh hlow⟩
      · exact Or.inr ⟨high :: low :: before, unit, more, problem, rfl,
          hbefore.cons_pair hhigh hlow, hunit, hscan⟩
  | unit unit rest hapart ih =>
      rcases unit_cases unit rest with hlone | hjoins | ⟨hhigh, hlow⟩
      · exact Or.inr ⟨[], unit, rest, .malformedUnicode, rfl,
          ⟨.nil, fun u hu ↦ absurd hu List.not_mem_nil⟩, hlone, characterProblem_lone hlone⟩
      · exact absurd hjoins hapart
      · rw [characterProblem_plain hhigh hlow]
        by_cases hrefused : IsRefused unit
        · rw [if_pos (isRefusedControl_iff.2 hrefused)]
          exact Or.inr ⟨[], unit, rest, .invalidCharacter, rfl,
            ⟨.nil, fun u hu ↦ absurd hu List.not_mem_nil⟩, hrefused, rfl⟩
        · rw [if_neg (mt isRefusedControl_iff.1 hrefused)]
          rcases ih with ⟨hnone, hclean⟩ | ⟨before, u, more, problem, rfl, hbefore, hu, hscan⟩
          · exact Or.inl ⟨hnone, hclean.cons_unit hhigh hlow hrefused⟩
          · exact Or.inr ⟨unit :: before, u, more, problem, rfl,
              hbefore.cons_unit hhigh hlow hrefused, hu, hscan⟩

/-- A unit with a problem stops the scan with it. -/
theorem characterProblem_of_hasProblem (h : HasProblem unit rest problem) :
    characterProblem (unit :: rest) = some problem := by
  cases problem with
  | empty => exact h.elim
  | tooLong => exact h.elim
  | malformedUnicode => exact characterProblem_lone h
  | invalidCharacter =>
      obtain ⟨hhigh, hlow⟩ := not_surrogate_of_refused h
      rw [characterProblem_plain hhigh hlow, if_pos (isRefusedControl_iff.2 h)]

theorem characterProblem_eq_some_iff : characterProblem text = some problem ↔
    ∃ before unit rest, text = before ++ unit :: rest ∧ HasNoProblem before ∧
      HasProblem unit rest problem := by
  constructor
  · intro h
    rcases scan_ends text with ⟨hnone, _⟩ | ⟨before, unit, rest, found, rfl, hbefore, hunit, hscan⟩
    · rw [hnone] at h
      cases h
    · rw [hscan] at h
      cases h
      exact ⟨before, unit, rest, rfl, hbefore, hunit⟩
  · rintro ⟨before, unit, rest, rfl, hbefore, hunit⟩
    rw [characterProblem_append hbefore, characterProblem_of_hasProblem hunit]

theorem characterProblem_eq_none_iff : characterProblem text = none ↔ HasNoProblem text := by
  constructor
  · intro h
    rcases scan_ends text with ⟨_, hclean⟩ | ⟨_, _, _, _, _, _, _, hscan⟩
    · exact hclean
    · rw [h] at hscan
      cases hscan
  · intro h
    have happend : characterProblem (text ++ []) = none := characterProblem_append h
    rwa [List.append_nil] at happend

/-! ## The rule -/

/-- Text with a character that is not white space. -/
def IsWritten (text : Text) : Prop := ∃ unit ∈ text, isJsWhitespace unit = false

theorem isWritten_iff_trim : IsWritten text ↔ trim text ≠ [] := by
  rw [Ne, trim_eq_nil_iff, IsWritten]
  push Not
  simp only [ne_eq, Bool.not_eq_true]

/-- A character problem wins over the length. -/
theorem replyCommentProblem_of_written (written : IsWritten text) :
    replyCommentProblem text =
      if characterProblem text = none ∧
          googleReplyCommentMaxBytes < replyCommentByteLength text then some .tooLong
      else characterProblem text := by
  rw [replyCommentProblem, if_neg (isWritten_iff_trim.1 written)]
  cases hscan : characterProblem text with
  | none => simp only [true_and]
  | some problem => simp only [reduceCtorEq, false_and, if_false]

theorem replyCommentProblem_eq_none_iff : replyCommentProblem text = none ↔
    IsWritten text ∧ HasNoProblem text ∧ (utf8Bytes text).length ≤ googleReplyCommentMaxBytes := by
  by_cases hwritten : IsWritten text
  · rw [replyCommentProblem_of_written hwritten, ← characterProblem_eq_none_iff,
      ← replyCommentByteLength_eq, ← Nat.not_lt]
    split_ifs with hlong
    · exact ⟨nofun, fun h ↦ absurd hlong.2 h.2.2⟩
    · exact ⟨fun h ↦ ⟨hwritten, h, fun hlt ↦ hlong ⟨h, hlt⟩⟩, fun h ↦ h.2.1⟩
  · have hblank : trim text = [] := by
      by_contra hne
      exact hwritten (isWritten_iff_trim.2 hne)
    rw [replyCommentProblem, if_pos hblank]
    exact ⟨nofun, fun h ↦ absurd h.1 hwritten⟩

/-- In text that is not blank, a character problem is reported whatever the length. -/
theorem replyCommentProblem_eq_some_iff (written : IsWritten text)
    (ofCharacter : problem = .malformedUnicode ∨ problem = .invalidCharacter) :
    replyCommentProblem text = some problem ↔
      ∃ before unit rest, text = before ++ unit :: rest ∧ HasNoProblem before ∧
        HasProblem unit rest problem := by
  rw [← characterProblem_eq_some_iff, replyCommentProblem_of_written written]
  split_ifs with hlong
  · rw [hlong.1]
    refine ⟨fun h ↦ ?_, nofun⟩
    cases h
    rcases ofCharacter with h | h <;> cases h
  · exact Iff.rfl

/-- The rule counts the bytes of the UTF-8 encoding, with U+FFFD for each lone surrogate. It finds
no problem exactly in written, well-formed text without refused controls of at most 4096 bytes; in
written text the first character with a problem decides which is reported, whatever the length; and
the bytes of texts whose junction joins no surrogate pair add up. -/
theorem reply_comment_rule_counts (text : Text) :
    replyCommentByteLength text = (utf8Bytes text).length ∧
    (replyCommentProblem text = none ↔
      IsWritten text ∧ (WellFormedUtf16 text ∧ ∀ unit ∈ text, ¬IsRefused unit) ∧
        (utf8Bytes text).length ≤ googleReplyCommentMaxBytes) ∧
    (IsWritten text → ∀ problem, problem = .malformedUnicode ∨ problem = .invalidCharacter →
      (replyCommentProblem text = some problem ↔
        ∃ before unit rest, text = before ++ unit :: rest ∧ HasNoProblem before ∧
          HasProblem unit rest problem)) ∧
    ∀ more : Text, (∀ last ∈ text.getLast?, ¬JoinsNext last more) →
      replyCommentByteLength (text ++ more) =
        replyCommentByteLength text + replyCommentByteLength more := by
  refine ⟨replyCommentByteLength_eq text, replyCommentProblem_eq_none_iff,
    fun written problem ↦ replyCommentProblem_eq_some_iff written, fun more hapart ↦ ?_⟩
  rw [replyCommentByteLength_eq, replyCommentByteLength_eq, replyCommentByteLength_eq,
    Base.utf8Bytes_append, List.length_append]
  intro last hlast hhigh next hnext
  rw [← Bool.not_eq_true]
  exact fun hlow ↦ hapart last hlast ⟨hhigh, next, hnext, hlow⟩

/-- An unpaired surrogate behind a letter is reported, and counts as three bytes. -/
theorem reply_comment_rule_counts_unpaired :
    replyCommentProblem [0x61, 0xd83d] = some .malformedUnicode ∧
      replyCommentByteLength ([0x61] ++ [0xd83d]) = 1 + 3 := by
  obtain ⟨-, -, hproblem, hsum⟩ := reply_comment_rule_counts [0x61]
  obtain ⟨-, -, hreported, -⟩ := reply_comment_rule_counts [0x61, 0xd83d]
  refine ⟨(hreported ⟨0x61, List.mem_cons_self, by decide⟩ _ (Or.inl rfl)).2
    ⟨[0x61], 0xd83d, [], rfl, ⟨.unit (by decide) (by decide) .nil, ?_⟩, Or.inl ⟨by decide, ?_⟩⟩, ?_⟩
  · intro unit hunit
    rw [List.mem_singleton.1 hunit, IsRefused]
    decide
  · rintro ⟨-, next, hnext, -⟩
    cases hnext
  · refine hsum [0xd83d] fun last hlast hjoins ↦ ?_
    cases hlast
    exact absurd hjoins.1 (by decide)

/-- Vertical tab is white space: alone it is an empty reply, and not a refused character. -/
theorem blank_control_not_reported :
    ¬∀ text : Text, (∃ unit ∈ text, IsRefused unit) →
      replyCommentProblem text = some .malformedUnicode ∨
        replyCommentProblem text = some .invalidCharacter := by
  intro h
  have hreported := h [0x0b] ⟨0x0b, List.mem_cons_self, Or.inl (by decide)⟩
  have hempty : replyCommentProblem [0x0b] = some .empty := by decide
  rw [hempty] at hreported
  rcases hreported with h | h <;> cases h

end ReputationKey.Review
