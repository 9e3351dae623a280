import Mathlib.Data.List.Chain
import ReputationKey.Review.Trimming

/-!
# The comparison form of a review's text

`normalizeOriginalReviewText`: canonical composition, every run of Unicode white space as one space, and
trimmed. Canonical composition is a parameter; what is used of it is that white space neither composes
with what stands beside it nor comes of anything else. Follows
`src/src/contexts/review/domain/material-review-revision.ts:84–101`.
-/

namespace ReputationKey.Review

/-- A code point with the Unicode property `White_Space`. -/
def isWhiteSpaceCode (code : ℕ) : Bool :=
  (9 ≤ code && code ≤ 13) || code == 32 || code == 133 || code == 160 || code == 5760 ||
    (8192 ≤ code && code ≤ 8202) || code == 8232 || code == 8233 || code == 8239 ||
    code == 8287 || code == 12288

/-- A unit with the Unicode property `White_Space`. -/
def isUnicodeWhiteSpace (unit : UInt16) : Bool := isWhiteSpaceCode unit.toNat

/-- `replace(/\p{White_Space}+/gu, ' ')`: one space for each run, where its last unit stands. -/
def collapseWhiteSpace : Text → Text
  | [] => []
  | unit :: rest =>
      if isUnicodeWhiteSpace unit then
        if rest.head?.any isUnicodeWhiteSpace then collapseWhiteSpace rest
        else 32 :: collapseWhiteSpace rest
      else unit :: collapseWhiteSpace rest

/-- `normalizeOriginalReviewText`. -/
def normalizeOriginalReviewText (normalizeNfc : Text → Text) : Option Text → Option Text
  | none => none
  | some text =>
      let normalized := trim (collapseWhiteSpace (normalizeNfc text))
      if normalized.length = 0 then none else some normalized

/-- White space to Unicode or to `String.prototype.trim`: U+FEFF is the one that is not Unicode's. -/
def isBlank (unit : UInt16) : Bool := isUnicodeWhiteSpace unit || unit.toNat == 65279

/-- What canonical composition does at white space. -/
structure ComposesCanonically (normalizeNfc : Text → Text) : Prop where
  idempotent : ∀ text, normalizeNfc (normalizeNfc text) = normalizeNfc text
  nil : normalizeNfc [] = []
  /-- White space composes with nothing beside it. -/
  apart : ∀ before unit after, isBlank unit = true → normalizeNfc (before ++ unit :: after) =
    normalizeNfc before ++ normalizeNfc [unit] ++ normalizeNfc after
  /-- White space is composed to white space of one unit. -/
  white : ∀ unit, isUnicodeWhiteSpace unit = true →
    ∃ composed, normalizeNfc [unit] = [composed] ∧ isUnicodeWhiteSpace composed = true
  space : normalizeNfc [32] = [32]
  byteOrderMark : normalizeNfc [65279] = [65279]
  /-- Nothing else is composed to white space, or to nothing. -/
  other : ∀ text, (∀ unit ∈ text, isBlank unit = false) →
    ∀ unit ∈ normalizeNfc text, isBlank unit = false
  nonempty : ∀ text, text ≠ [] → normalizeNfc text ≠ []

/-! ## White space -/

/-- Next line is the one unit that is white space to Unicode only. -/
theorem isJsWhitespace_eq {unit : UInt16} (h : unit ≠ 133) : isJsWhitespace unit = isBlank unit := by
  have hcode : unit.toNat ≠ 133 := fun heq ↦ h (UInt16.toNat_inj.1 heq)
  rw [Bool.eq_iff_iff]
  simp only [isJsWhitespace, isJsWhitespaceCode, isBlank, isUnicodeWhiteSpace, isWhiteSpaceCode,
    Bool.or_eq_true, Bool.and_eq_true, beq_iff_eq, decide_eq_true_eq]
  omega

theorem isBlank_of_jsWhitespace {unit : UInt16} (h : isJsWhitespace unit = true) :
    isBlank unit = true := by
  rwa [← isJsWhitespace_eq]
  rintro rfl
  revert h
  decide

section Collapse

variable {unit other : UInt16} {text before after : Text}

theorem isBlank_of_white (h : isUnicodeWhiteSpace unit = true) : isBlank unit = true := by
  rw [isBlank, h]
  rfl

theorem collapseWhiteSpace_cons_of_not (h : isUnicodeWhiteSpace unit = false) (text : Text) :
    collapseWhiteSpace (unit :: text) = unit :: collapseWhiteSpace text := by
  rw [collapseWhiteSpace, if_neg (by simp [h])]

/-- White space before white space is dropped. -/
theorem collapseWhiteSpace_cons_cons (h : isUnicodeWhiteSpace unit = true)
    (h' : isUnicodeWhiteSpace other = true) (text : Text) :
    collapseWhiteSpace (unit :: other :: text) = collapseWhiteSpace (other :: text) := by
  rw [collapseWhiteSpace, if_pos h, if_pos]
  exact h'

/-- Text without white space is kept. -/
theorem collapseWhiteSpace_append (h : ∀ unit ∈ before, isUnicodeWhiteSpace unit = false)
    (after : Text) : collapseWhiteSpace (before ++ after) = before ++ collapseWhiteSpace after := by
  induction before with
  | nil => rfl
  | cons unit before ih =>
      rw [List.cons_append, collapseWhiteSpace_cons_of_not (h unit List.mem_cons_self),
        ih fun u mem ↦ h u (List.mem_cons_of_mem _ mem), List.cons_append]

/-- What comes before a unit does not matter to how the text from it on is collapsed. -/
theorem collapseWhiteSpace_congr (hhead : after.head?.any isUnicodeWhiteSpace =
      text.head?.any isUnicodeWhiteSpace)
    (h : collapseWhiteSpace after = collapseWhiteSpace text) (before : Text) :
    collapseWhiteSpace (before ++ after) = collapseWhiteSpace (before ++ text) := by
  induction before with
  | nil => exact h
  | cons unit before ih =>
      have hsame : (before ++ after).head?.any isUnicodeWhiteSpace =
          (before ++ text).head?.any isUnicodeWhiteSpace := by
        cases before with
        | nil => exact hhead
        | cons => rfl
      rw [List.cons_append, List.cons_append, collapseWhiteSpace, collapseWhiteSpace, ih, hsame]

/-- One white unit is collapsed as another. -/
theorem collapseWhiteSpace_white (h : isUnicodeWhiteSpace unit = true)
    (h' : isUnicodeWhiteSpace other = true) (text : Text) :
    collapseWhiteSpace (unit :: text) = collapseWhiteSpace (other :: text) := by
  rw [collapseWhiteSpace, collapseWhiteSpace, if_pos h, if_pos h']

/-- Whatever the white space of a run, it is one space. -/
theorem collapseWhiteSpace_run {run : Text} (hne : run ≠ [])
    (h : ∀ unit ∈ run, isUnicodeWhiteSpace unit = true) (before after : Text) :
    collapseWhiteSpace (before ++ (run ++ after)) = collapseWhiteSpace (before ++ 32 :: after) := by
  induction run with
  | nil => exact absurd rfl hne
  | cons unit run ih =>
      have hunit := h unit List.mem_cons_self
      cases run with
      | nil =>
          apply collapseWhiteSpace_congr
          · exact hunit
          · exact collapseWhiteSpace_white hunit (by decide) after
      | cons next run =>
          have hnext := h next (List.mem_cons_of_mem _ List.mem_cons_self)
          rw [← ih (List.cons_ne_nil _ _) fun u mem ↦ h u (List.mem_cons_of_mem _ mem)]
          apply collapseWhiteSpace_congr
          · exact hunit.trans hnext.symm
          · exact collapseWhiteSpace_cons_cons hunit hnext _

/-- Collapsed white space is a space. -/
theorem eq_space_of_mem_collapse (mem : unit ∈ collapseWhiteSpace text)
    (h : isUnicodeWhiteSpace unit = true) : unit = 32 := by
  induction text with
  | nil => cases mem
  | cons first text ih =>
      rw [collapseWhiteSpace] at mem
      split_ifs at mem with hfirst hnext
      · exact ih mem
      · rcases List.mem_cons.1 mem with rfl | mem
        · rfl
        · exact ih mem
      · rcases List.mem_cons.1 mem with rfl | mem
        · exact absurd h hfirst
        · exact ih mem

/-- Text that is not white space to Unicode is kept. -/
theorem mem_collapse_iff (h : isUnicodeWhiteSpace unit = false) :
    unit ∈ collapseWhiteSpace text ↔ unit ∈ text := by
  induction text with
  | nil => exact Iff.rfl
  | cons first text ih =>
      have hne (hfirst : isUnicodeWhiteSpace first = true) : unit ≠ first := by
        rintro rfl
        rw [h] at hfirst
        cases hfirst
      have hspace : unit ≠ 32 := by
        rintro rfl
        revert h
        decide
      rw [collapseWhiteSpace]
      split_ifs with hfirst hnext
      · rw [ih, List.mem_cons, or_iff_right (hne hfirst)]
      · rw [List.mem_cons, List.mem_cons, ih, or_iff_right (hne hfirst), or_iff_right hspace]
      · rw [List.mem_cons, List.mem_cons, ih]

/-- Nothing but white space is left of white space only. -/
theorem trim_collapse_eq_nil_iff :
    trim (collapseWhiteSpace text) = [] ↔ ∀ unit ∈ text, isBlank unit = true := by
  rw [trim_eq_nil_iff]
  constructor
  · intro h unit mem
    by_cases hwhite : isUnicodeWhiteSpace unit = true
    · exact isBlank_of_white hwhite
    · rw [Bool.not_eq_true] at hwhite
      have hne : unit ≠ 133 := by
        rintro rfl
        revert hwhite
        decide
      rw [← isJsWhitespace_eq hne]
      exact h unit ((mem_collapse_iff hwhite).2 mem)
  · intro h unit mem
    by_cases hwhite : isUnicodeWhiteSpace unit = true
    · rw [eq_space_of_mem_collapse mem hwhite]
      decide
    · rw [Bool.not_eq_true] at hwhite
      have hne : unit ≠ 133 := by
        rintro rfl
        revert hwhite
        decide
      rw [isJsWhitespace_eq hne]
      exact h unit ((mem_collapse_iff hwhite).1 mem)

/-- Text in which every run of white space is one space. -/
structure Collapsed (text : Text) : Prop where
  space : ∀ unit ∈ text, isUnicodeWhiteSpace unit = true → unit = 32
  apart : text.IsChain fun unit next ↦
    isUnicodeWhiteSpace unit = true → isUnicodeWhiteSpace next = false

theorem Collapsed.part {front back : Text} (h : Collapsed (front ++ text ++ back)) :
    Collapsed text where
  space unit mem := h.space unit (by simp [mem])
  apart := (List.isChain_append.1 (List.isChain_append.1 h.apart).1).2.1

/-- Such text is kept. -/
theorem Collapsed.collapse_eq (h : Collapsed text) : collapseWhiteSpace text = text := by
  induction text with
  | nil => rfl
  | cons first text ih =>
      have hrest := ih (@Collapsed.part text [first] [] (by rwa [List.append_nil]))
      rw [collapseWhiteSpace, hrest]
      split_ifs with hfirst hnext
      · cases text with
        | nil => cases hnext
        | cons next text =>
            have happart := (List.isChain_cons_cons.1 h.apart).1 hfirst
            rw [List.head?_cons, Option.any_some, happart] at hnext
            cases hnext
      · rw [h.space first List.mem_cons_self hfirst]
      · rfl

theorem collapsed_collapse (text : Text) : Collapsed (collapseWhiteSpace text) := by
  refine ⟨fun unit mem hunit ↦ eq_space_of_mem_collapse mem hunit, ?_⟩
  induction text with
  | nil => exact .nil
  | cons first text ih =>
      rw [collapseWhiteSpace]
      split_ifs with hfirst hnext
      · exact ih
      · refine List.isChain_cons.2 ⟨fun next hmem _ ↦ ?_, ih⟩
        cases text with
        | nil => cases hmem
        | cons second text =>
            rw [List.head?_cons, Option.any_some, Bool.not_eq_true] at hnext
            rw [collapseWhiteSpace_cons_of_not hnext] at hmem
            cases hmem
            exact hnext
      · exact List.isChain_cons.2 ⟨fun next _ hwhite ↦ absurd hwhite hfirst, ih⟩

/-! ## Ends are trimmed -/

theorem trim_collapse_cons (h : isBlank unit = true) (text : Text) :
    trim (collapseWhiteSpace (unit :: text)) = trim (collapseWhiteSpace text) := by
  rw [collapseWhiteSpace]
  split_ifs with hwhite hnext
  · rfl
  · exact trim_cons_of_space (by decide) _
  · apply trim_cons_of_space
    rwa [isJsWhitespace_eq]
    rintro rfl
    exact hwhite (by decide)

/-- A last unit goes into the run before it, or is put behind. -/
theorem collapse_append_single (unit : UInt16) (text : Text) :
    collapseWhiteSpace (text ++ [unit]) =
      if isUnicodeWhiteSpace unit = true ∧ ∃ last ∈ text.getLast?, isUnicodeWhiteSpace last = true then
        collapseWhiteSpace text
      else collapseWhiteSpace text ++ [if isUnicodeWhiteSpace unit then 32 else unit] := by
  induction text with
  | nil => cases hunit : isUnicodeWhiteSpace unit <;> simp [collapseWhiteSpace, hunit]
  | cons first text ih =>
      cases text with
      | nil =>
          cases hfirst : isUnicodeWhiteSpace first <;> cases hunit : isUnicodeWhiteSpace unit <;>
            simp [collapseWhiteSpace, hfirst, hunit]
      | cons second more =>
          have hlast : (first :: second :: more).getLast? = (second :: more).getLast? :=
            List.getLast?_cons_cons
          have hhead : (second :: more ++ [unit]).head? = (second :: more).head? := rfl
          rw [List.cons_append, collapseWhiteSpace, hhead, ih, hlast, collapseWhiteSpace.eq_def
            (first :: second :: more)]
          simp only
          split_ifs <;> rfl

theorem trim_collapse_append (h : isBlank unit = true) (text : Text) :
    trim (collapseWhiteSpace (text ++ [unit])) = trim (collapseWhiteSpace text) := by
  rw [collapse_append_single]
  split_ifs with hrun hwhite
  · rfl
  · exact trim_append_space (by decide) _
  · apply trim_append_space
    rwa [isJsWhitespace_eq]
    rintro rfl
    exact hwhite (by decide)

end Collapse

/-! ## Canonical composition at white space -/

section Compose

variable {normalizeNfc : Text → Text} {unit : UInt16} {text before after : Text}

/-- A blank unit is composed to one blank unit, white if it is. -/
theorem ComposesCanonically.blank (h : ComposesCanonically normalizeNfc) (hunit : isBlank unit = true) :
    ∃ composed, normalizeNfc [unit] = [composed] ∧ isBlank composed = true := by
  by_cases hwhite : isUnicodeWhiteSpace unit = true
  · obtain ⟨composed, hcomposed, hwhite'⟩ := h.white unit hwhite
    exact ⟨composed, hcomposed, isBlank_of_white hwhite'⟩
  · rw [Bool.not_eq_true] at hwhite
    rw [isBlank, hwhite, Bool.false_or, beq_iff_eq] at hunit
    have hmark : unit = 65279 := UInt16.toNat_inj.1 hunit
    subst hmark
    exact ⟨65279, h.byteOrderMark, by decide⟩

/-- Text up to its first blank unit. -/
theorem blank_split (text : Text) : (∀ unit ∈ text, isBlank unit = false) ∨
    ∃ before unit after, text = before ++ unit :: after ∧ isBlank unit = true ∧
      ∀ unit ∈ before, isBlank unit = false := by
  induction text with
  | nil => exact .inl nofun
  | cons first text ih =>
      cases hfirst : isBlank first with
      | true => exact .inr ⟨[], first, text, rfl, hfirst, nofun⟩
      | false =>
          rcases ih with hall | ⟨before, unit, after, rfl, hunit, hbefore⟩
          · exact .inl (List.forall_mem_cons.2 ⟨hfirst, hall⟩)
          · exact .inr ⟨first :: before, unit, after, rfl, hunit,
              List.forall_mem_cons.2 ⟨hfirst, hbefore⟩⟩

/-- Two texts that are the same are the same up to their first blank unit. -/
theorem blank_split_inj {other behind : Text} {unit' : UInt16}
    (hbefore : ∀ unit ∈ before, isBlank unit = false) (hunit : isBlank unit = true)
    (hother : ∀ unit ∈ other, isBlank unit = false) (hunit' : isBlank unit' = true)
    (h : before ++ unit :: after = other ++ unit' :: behind) :
    before = other ∧ unit = unit' ∧ after = behind := by
  induction before generalizing other with
  | nil =>
      cases other with
      | nil =>
          cases h
          exact ⟨rfl, rfl, rfl⟩
      | cons first other =>
          cases h
          rw [hother unit List.mem_cons_self] at hunit
          cases hunit
  | cons first before ih =>
      cases other with
      | nil =>
          cases h
          rw [hbefore unit' List.mem_cons_self] at hunit'
          cases hunit'
      | cons first' other =>
          rw [List.cons_append, List.cons_append, List.cons.injEq] at h
          obtain ⟨rfl, h⟩ := h
          obtain ⟨rfl, rfl, rfl⟩ := ih (fun u mem ↦ hbefore u (List.mem_cons_of_mem _ mem))
            (fun u mem ↦ hother u (List.mem_cons_of_mem _ mem)) h
          exact ⟨rfl, rfl, rfl⟩

/-- Composed text is composed piece by piece between white space. -/
theorem ComposesCanonically.pieces (h : ComposesCanonically normalizeNfc)
    (hbefore : ∀ unit ∈ before, isBlank unit = false) (hunit : isBlank unit = true)
    (hfixed : normalizeNfc (before ++ unit :: after) = before ++ unit :: after) :
    normalizeNfc before = before ∧ normalizeNfc [unit] = [unit] ∧ normalizeNfc after = after := by
  obtain ⟨composed, hcomposed, hblank⟩ := h.blank hunit
  rw [h.apart before unit after hunit, hcomposed, List.append_assoc, List.singleton_append] at hfixed
  obtain ⟨hb, hu, ha⟩ := blank_split_inj (h.other before hbefore) hblank hbefore hunit hfixed
  rw [hcomposed, hu]
  exact ⟨hb, rfl, ha⟩

/-- Pieces that are composed are composed as a whole. -/
theorem ComposesCanonically.join (h : ComposesCanonically normalizeNfc)
    (hunit : isBlank unit = true) (hbefore : normalizeNfc before = before)
    (hsingle : normalizeNfc [unit] = [unit]) (hafter : normalizeNfc after = after) :
    normalizeNfc (before ++ unit :: after) = before ++ unit :: after := by
  rw [h.apart before unit after hunit, hbefore, hsingle, hafter, List.append_assoc,
    List.singleton_append]

/-- Composed text stays composed when its runs are collapsed. -/
theorem ComposesCanonically.collapse (h : ComposesCanonically normalizeNfc)
    (hfixed : normalizeNfc text = text) :
    normalizeNfc (collapseWhiteSpace text) = collapseWhiteSpace text := by
  induction hlength : text.length using Nat.strong_induction_on generalizing text with
  | _ length ih =>
      have hnotWhite {unit : UInt16} (hunit : isBlank unit = false) :
          isUnicodeWhiteSpace unit = false := by
        rw [isBlank, Bool.or_eq_false_iff] at hunit
        exact hunit.1
      rcases blank_split text with hall | ⟨before, unit, after, rfl, hunit, hbefore⟩
      · have hkept := collapseWhiteSpace_append (fun u mem ↦ hnotWhite (hall u mem)) []
        rw [List.append_nil, collapseWhiteSpace, List.append_nil] at hkept
        rw [hkept, hfixed]
      · obtain ⟨hb, hu, ha⟩ := h.pieces hbefore hunit hfixed
        have hkept := collapseWhiteSpace_append (fun u mem ↦ hnotWhite (hbefore u mem))
        rw [List.length_append, List.length_cons] at hlength
        have hrest := ih after.length (by omega) ha rfl
        rw [hkept]
        by_cases hwhite : isUnicodeWhiteSpace unit = true
        · by_cases hnext : after.head?.any isUnicodeWhiteSpace = true
          · -- the unit goes into the run that follows
            have hdropped : collapseWhiteSpace (unit :: after) = collapseWhiteSpace after := by
              rw [collapseWhiteSpace, if_pos hwhite, if_pos hnext]
            have hshorter : normalizeNfc (before ++ after) = before ++ after := by
              cases after with
              | nil => cases hnext
              | cons next after =>
                  obtain ⟨-, hnextFixed, hafter⟩ := @ComposesCanonically.pieces _ next [] after h
                    nofun (isBlank_of_white hnext) ha
                  exact h.join (isBlank_of_white hnext) hb hnextFixed hafter
            rw [hdropped, ← hkept]
            exact ih (before ++ after).length (by rw [List.length_append]; omega) hshorter rfl
          · have hspace : collapseWhiteSpace (unit :: after) = 32 :: collapseWhiteSpace after := by
              rw [collapseWhiteSpace, if_pos hwhite, if_neg hnext]
            rw [hspace]
            exact h.join (by decide) hb h.space hrest
        · rw [collapseWhiteSpace_cons_of_not (by simpa using hwhite)]
          exact h.join hunit hb hu hrest

/-- Composed text stays composed when blank units are taken off its ends. -/
theorem ComposesCanonically.trimmed (h : ComposesCanonically normalizeNfc) {front back : Text}
    (hfront : ∀ unit ∈ front, isBlank unit = true) (hback : ∀ unit ∈ back, isBlank unit = true)
    (hfixed : normalizeNfc (front ++ text ++ back) = front ++ text ++ back) :
    normalizeNfc text = text := by
  have hbehind {unit : UInt16} {text : Text} (hunit : isBlank unit = true)
      (hfixed : normalizeNfc (text ++ [unit]) = text ++ [unit]) : normalizeNfc text = text := by
    obtain ⟨composed, hcomposed, -⟩ := h.blank hunit
    rw [h.apart text unit [] hunit, h.nil, List.append_nil, hcomposed] at hfixed
    exact (List.append_inj' hfixed rfl).1
  have hpeeled : normalizeNfc (front ++ text) = front ++ text := by
    induction back using List.reverseRecOn with
    | nil => rwa [List.append_nil] at hfixed
    | append_singleton back unit ih =>
        apply ih (fun u mem ↦ hback u (by simp [mem]))
        rw [← List.append_assoc] at hfixed
        exact hbehind (hback unit (by simp)) hfixed
  clear hfixed
  induction front with
  | nil => exact hpeeled
  | cons unit front ih =>
      have hunit := hfront unit List.mem_cons_self
      exact ih (fun u mem ↦ hfront u (List.mem_cons_of_mem _ mem))
        (@ComposesCanonically.pieces _ unit [] (front ++ text) h nofun hunit hpeeled).2.2

/-- Text has a character that is not blank before it is composed when it has one after. -/
theorem ComposesCanonically.all_blank_iff (h : ComposesCanonically normalizeNfc) :
    (∀ unit ∈ normalizeNfc text, isBlank unit = true) ↔ ∀ unit ∈ text, isBlank unit = true := by
  induction hlength : text.length using Nat.strong_induction_on generalizing text with
  | _ length ih =>
      have hkept {text : Text} (hall : ∀ unit ∈ text, isBlank unit = false) :
          (∀ unit ∈ normalizeNfc text, isBlank unit = true) ↔ ∀ unit ∈ text, isBlank unit = true := by
        constructor
        · intro hblank
          by_cases hempty : text = []
          · rw [hempty]
            nofun
          · obtain ⟨unit, hunit⟩ := List.exists_mem_of_ne_nil _ (h.nonempty text hempty)
            have hboth := hblank unit hunit
            rw [h.other text hall unit hunit] at hboth
            cases hboth
        · intro hblank
          have hempty : text = [] := by
            rw [List.eq_nil_iff_forall_not_mem]
            intro unit hunit
            have hboth := hblank unit hunit
            rw [hall unit hunit] at hboth
            cases hboth
          rw [hempty, h.nil]
          nofun
      rcases blank_split text with hall | ⟨before, unit, after, rfl, hunit, hbefore⟩
      · exact hkept hall
      · obtain ⟨composed, hcomposed, hblank⟩ := h.blank hunit
        rw [List.length_append, List.length_cons] at hlength
        have hrest := ih after.length (by omega) rfl
        rw [h.apart before unit after hunit, hcomposed, List.append_assoc, List.singleton_append]
        simp only [List.forall_mem_append, List.forall_mem_cons, hblank, hunit, true_and,
          hkept hbefore, hrest]

/-- Blank units before a text are composed before it. -/
theorem ComposesCanonically.blank_append (h : ComposesCanonically normalizeNfc) {front : Text}
    (hfront : ∀ unit ∈ front, isBlank unit = true) :
    ∃ composed, (∀ unit ∈ composed, isBlank unit = true) ∧
      ∀ text, normalizeNfc (front ++ text) = composed ++ normalizeNfc text := by
  induction front with
  | nil => exact ⟨[], nofun, fun _ ↦ rfl⟩
  | cons unit front ih =>
      have hunit := hfront unit List.mem_cons_self
      obtain ⟨composed, hcomposed, hblank⟩ := h.blank hunit
      obtain ⟨more, hmore, hrest⟩ := ih fun u mem ↦ hfront u (List.mem_cons_of_mem _ mem)
      refine ⟨composed :: more, List.forall_mem_cons.2 ⟨hblank, hmore⟩, fun text ↦ ?_⟩
      have hapart := h.apart [] unit (front ++ text) hunit
      rw [h.nil, hcomposed, List.nil_append, List.nil_append, hrest] at hapart
      exact hapart

/-- And blank units behind it. -/
theorem ComposesCanonically.append_blank (h : ComposesCanonically normalizeNfc) {back : Text}
    (hback : ∀ unit ∈ back, isBlank unit = true) :
    ∃ composed, (∀ unit ∈ composed, isBlank unit = true) ∧
      ∀ text, normalizeNfc (text ++ back) = normalizeNfc text ++ composed := by
  induction back using List.reverseRecOn with
  | nil => exact ⟨[], nofun, fun text ↦ by rw [List.append_nil, List.append_nil]⟩
  | append_singleton back unit ih =>
      have hunit := hback unit (by simp)
      obtain ⟨composed, hcomposed, hblank⟩ := h.blank hunit
      obtain ⟨more, hmore, hrest⟩ := ih fun u mem ↦ hback u (by simp [mem])
      refine ⟨more ++ [composed], ?_, fun text ↦ ?_⟩
      · exact List.forall_mem_append.2 ⟨hmore, List.forall_mem_singleton.2 hblank⟩
      · rw [← List.append_assoc, h.apart _ unit [] hunit, h.nil, hcomposed, hrest, List.append_nil,
          List.append_assoc]

/-- A run of white space is composed to a run of white space, apart from what stands beside it. -/
theorem ComposesCanonically.run (h : ComposesCanonically normalizeNfc) {run : Text} (hne : run ≠ [])
    (hrun : ∀ unit ∈ run, isUnicodeWhiteSpace unit = true) :
    ∃ composed, composed ≠ [] ∧ (∀ unit ∈ composed, isUnicodeWhiteSpace unit = true) ∧
      ∀ before after, normalizeNfc (before ++ (run ++ after)) =
        normalizeNfc before ++ (composed ++ normalizeNfc after) := by
  induction run with
  | nil => exact absurd rfl hne
  | cons unit run ih =>
      have hunit := hrun unit List.mem_cons_self
      obtain ⟨composed, hcomposed, hwhite⟩ := h.white unit hunit
      have hapart (before after : Text) : normalizeNfc (before ++ (unit :: run ++ after)) =
          normalizeNfc before ++ composed :: normalizeNfc (run ++ after) := by
        rw [List.cons_append, h.apart _ unit _ (isBlank_of_white hunit), hcomposed, List.append_assoc,
          List.singleton_append]
      by_cases hlast : run = []
      · subst hlast
        refine ⟨[composed], List.cons_ne_nil _ _, List.forall_mem_singleton.2 hwhite,
          fun before after ↦ ?_⟩
        rw [hapart]
        rfl
      · obtain ⟨more, -, hmore, hrest⟩ := ih hlast fun u mem ↦ hrun u (List.mem_cons_of_mem _ mem)
        refine ⟨composed :: more, List.cons_ne_nil _ _, List.forall_mem_cons.2 ⟨hwhite, hmore⟩,
          fun before after ↦ ?_⟩
        have hinner := hrest [] after
        rw [h.nil, List.nil_append, List.nil_append] at hinner
        rw [hapart, hinner, List.cons_append]

end Compose

/-! ## The comparison form -/

section Normalize

variable {normalizeNfc : Text → Text}

/-- White space at the ends of a text is not seen once its runs are collapsed. -/
theorem trim_collapse_framed {front back : Text} (hfront : ∀ unit ∈ front, isBlank unit = true)
    (hback : ∀ unit ∈ back, isBlank unit = true) (text : Text) :
    trim (collapseWhiteSpace (front ++ text ++ back)) = trim (collapseWhiteSpace text) := by
  have hbehind (text : Text) :
      trim (collapseWhiteSpace (text ++ back)) = trim (collapseWhiteSpace text) := by
    induction back using List.reverseRecOn with
    | nil => rw [List.append_nil]
    | append_singleton back unit ih =>
        rw [← List.append_assoc, trim_collapse_append (hback unit (by simp)),
          ih fun u mem ↦ hback u (by simp [mem])]
  rw [hbehind]
  induction front with
  | nil => rfl
  | cons unit front ih =>
      rw [List.cons_append, trim_collapse_cons (hfront unit List.mem_cons_self),
        ih fun u mem ↦ hfront u (List.mem_cons_of_mem _ mem)]

/-- No text is left of nothing, and of white space only. -/
theorem normalizeOriginalReviewText_eq_none_iff (h : ComposesCanonically normalizeNfc)
    (text : Option Text) : normalizeOriginalReviewText normalizeNfc text = none ↔
      ∀ written ∈ text, ∀ unit ∈ written, isBlank unit = true := by
  cases text with
  | none => exact ⟨fun _ ↦ nofun, fun _ ↦ rfl⟩
  | some text =>
      have hnone : normalizeOriginalReviewText normalizeNfc (some text) = none ↔
          trim (collapseWhiteSpace (normalizeNfc text)) = [] := by
        simp [normalizeOriginalReviewText]
      rw [hnone, trim_collapse_eq_nil_iff, h.all_blank_iff]
      simp

/-- Normalizing twice is normalizing once. -/
theorem normalizeOriginalReviewText_idempotent (h : ComposesCanonically normalizeNfc)
    (text : Option Text) :
    normalizeOriginalReviewText normalizeNfc (normalizeOriginalReviewText normalizeNfc text) =
      normalizeOriginalReviewText normalizeNfc text := by
  cases text with
  | none => rfl
  | some text =>
      obtain ⟨front, back, hsplit, -, hfront, hback, -, -⟩ :=
        trim_split (collapseWhiteSpace (normalizeNfc text))
      have hcomposed : normalizeNfc (trim (collapseWhiteSpace (normalizeNfc text))) =
          trim (collapseWhiteSpace (normalizeNfc text)) := by
        apply h.trimmed (fun unit mem ↦ isBlank_of_jsWhitespace (hfront unit mem))
          (fun unit mem ↦ isBlank_of_jsWhitespace (hback unit mem))
        rw [← hsplit]
        exact h.collapse (h.idempotent text)
      have hcollapsed : collapseWhiteSpace (trim (collapseWhiteSpace (normalizeNfc text))) =
          trim (collapseWhiteSpace (normalizeNfc text)) := by
        have hcollapsed := collapsed_collapse (normalizeNfc text)
        rw [hsplit] at hcollapsed
        exact hcollapsed.part.collapse_eq
      simp only [normalizeOriginalReviewText]
      split_ifs with hempty
      · rfl
      · simp only [hcomposed, hcollapsed, trim_trim, if_neg hempty]

/-- Which white space a run is made of does not matter. -/
theorem normalizeOriginalReviewText_run (h : ComposesCanonically normalizeNfc) {run run' : Text}
    (hne : run ≠ []) (hne' : run' ≠ []) (hrun : ∀ unit ∈ run, isUnicodeWhiteSpace unit = true)
    (hrun' : ∀ unit ∈ run', isUnicodeWhiteSpace unit = true) (before after : Text) :
    normalizeOriginalReviewText normalizeNfc (some (before ++ run ++ after)) =
      normalizeOriginalReviewText normalizeNfc (some (before ++ run' ++ after)) := by
  obtain ⟨composed, hcomposed, hwhite, hsplit⟩ := h.run hne hrun
  obtain ⟨composed', hcomposed', hwhite', hsplit'⟩ := h.run hne' hrun'
  simp only [normalizeOriginalReviewText, List.append_assoc, hsplit, hsplit',
    collapseWhiteSpace_run hcomposed hwhite, collapseWhiteSpace_run hcomposed' hwhite']

/-- White space at the ends does not matter. -/
theorem normalizeOriginalReviewText_framed (h : ComposesCanonically normalizeNfc) {front back : Text}
    (hfront : ∀ unit ∈ front, isBlank unit = true) (hback : ∀ unit ∈ back, isBlank unit = true)
    (text : Text) : normalizeOriginalReviewText normalizeNfc (some (front ++ text ++ back)) =
      normalizeOriginalReviewText normalizeNfc (some text) := by
  obtain ⟨composed, hcomposed, hbefore⟩ := h.blank_append hfront
  obtain ⟨composed', hcomposed', hbehind⟩ := h.append_blank hback
  simp only [normalizeOriginalReviewText, hbehind, hbefore,
    trim_collapse_framed hcomposed hcomposed']

end Normalize

end ReputationKey.Review
