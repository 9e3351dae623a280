import ReputationKey.Portal.PublicationSnapshot

/-!
# What resolving writes and what the reader accepts

A text of a resolved content is either its own language's or an honest copy of the primary's, so
the reader's fallback rules hold of it; the reader's other rules follow from limits on the source.
-/

namespace ReputationKey.Portal

open ReputationKey.Base ReputationKey.Shared

/-! ## Honest copies -/

section HonestCopies

variable {φ : Type}

/-- Every wording is its locale's own or repeats the primary's own. -/
def HonestCopies (primary : GuestLocale) (wordingOf : GuestLocale → Wording φ) : Prop :=
  ∀ locale, (wordingOf locale).fallbackFrom = none ∨
    locale ≠ primary ∧ (wordingOf primary).fallbackFrom = none ∧
      wordingOf locale = ⟨some primary, (wordingOf primary).fingerprint⟩

theorem HonestCopies.primary {primary : GuestLocale} {wordingOf : GuestLocale → Wording φ}
    (honest : HonestCopies primary wordingOf) : (wordingOf primary).fallbackFrom = none := by
  rcases honest primary with hown | ⟨hne, -⟩
  · exact hown
  · exact absurd rfl hne

/-- The reader accepts honest copies. -/
theorem HonestCopies.fallbacksHold [DecidableEq φ] {primary : GuestLocale}
    {wordingOf : GuestLocale → Wording φ} (honest : HonestCopies primary wordingOf)
    {localeSet : List GuestLocale} (mem : primary ∈ localeSet)
    {stored : GuestLocale → Option (Wording φ)}
    (holds : ∀ locale ∈ localeSet, stored locale = some (wordingOf locale)) :
    fallbacksHold localeSet primary stored = true := by
  unfold Portal.fallbacksHold
  rw [Bool.and_eq_true, holds primary mem, List.all_eq_true]
  refine ⟨by rw [Option.any_some, honest.primary]; rfl, fun locale hlocale ↦ ?_⟩
  unfold fallbackHolds
  rw [holds locale hlocale]
  rcases honest locale with hown | ⟨hne, hprimary, hcopy⟩
  · simp only [hown]
  · simp only [hcopy, holds primary mem, hprimary]
    simp [hne.symm, mem]

end HonestCopies

/-! ## Texts -/

variable {source : PortalPublicationSource} {locale : GuestLocale}
  {key : PublicationWording → Option String} {name : PublicationTextKey}

theorem isWritten_iff {value : Option String} :
    isWritten value = true ↔ ∃ text, value = some text ∧ isBlank text = false := by
  cases value with
  | none => simp [isWritten]
  | some text => simp [isWritten]

/-- What a text in a locale is: its own wording, the primary's, or nothing. -/
inductive TextIn (source : PortalPublicationSource) (locale : GuestLocale)
    (key : PublicationWording → Option String) (name : PublicationTextKey) :
    Option PortalSnapshotText × Findings → Prop
  | own (text : String) (written : writtenText source locale key = some text)
      (notBlank : isBlank text = false) : TextIn source locale key name (some (own text), .none)
  | copied (text : String) (different : locale ≠ source.primaryGuestLocale)
      (gap : isWritten (writtenText source locale key) = false)
      (written : writtenText source source.primaryGuestLocale key = some text)
      (notBlank : isBlank text = false) :
      TextIn source locale key name
        (some ⟨text, some source.primaryGuestLocale⟩, .warn locale name)
  | missing (gap : isWritten (writtenText source locale key) = false)
      (primary : isWritten (writtenText source source.primaryGuestLocale key) = false) :
      TextIn source locale key name (none, .none)

/-- What `textIn` answers. -/
theorem textIn_spec (source : PortalPublicationSource) (locale : GuestLocale)
    (key : PublicationWording → Option String) (name : PublicationTextKey) :
    TextIn source locale key name (textIn source locale key name) := by
  unfold textIn
  by_cases hwritten : isWritten (writtenText source locale key) = true
  · rw [if_pos hwritten]
    obtain ⟨text, htext, hblank⟩ := isWritten_iff.1 hwritten
    rw [htext]
    exact .own text htext hblank
  · rw [if_neg hwritten]
    rw [Bool.not_eq_true] at hwritten
    by_cases hnone : locale = source.primaryGuestLocale ∨
        isWritten (writtenText source source.primaryGuestLocale key) = false
    · rw [if_pos hnone]
      refine .missing hwritten ?_
      rcases hnone with heq | hprimary
      · rw [← heq]
        exact hwritten
      · exact hprimary
    · rw [if_neg hnone]
      rw [not_or, Bool.not_eq_false] at hnone
      obtain ⟨text, htext, hblank⟩ := isWritten_iff.1 hnone.2
      rw [htext]
      exact .copied text hnone.1 hwritten htext hblank

/-- A text the primary language has is there in every locale. -/
theorem textIn_of_primary (locale : GuestLocale) (name : PublicationTextKey)
    (written : isWritten (writtenText source source.primaryGuestLocale key) = true) :
    ∃ text, (textIn source locale key name).1 = some text ∧ isBlank text.value = false := by
  have hspec := textIn_spec source locale key name
  generalize textIn source locale key name = answer at hspec ⊢
  cases hspec with
  | own text _ notBlank => exact ⟨_, rfl, notBlank⟩
  | copied text _ _ _ notBlank => exact ⟨_, rfl, notBlank⟩
  | missing _ primary => rw [written] at primary; cases primary

/-- A text of a resolved content is within a limit its source's wordings are within. -/
theorem utf16Length_textIn {limit : Nat}
    (within : ∀ locale text, writtenText source locale key = some text → utf16Length text ≤ limit) :
    utf16Length ((textIn source locale key name).1.getD (own "")).value ≤ limit := by
  have hspec := textIn_spec source locale key name
  generalize textIn source locale key name = answer at hspec ⊢
  cases hspec with
  | own text written => exact within _ _ written
  | copied text _ _ written => exact within _ _ written
  | missing => exact Nat.zero_le _

/-- A text under one key is an honest copy in every locale. -/
theorem textIn_honest (source : PortalPublicationSource)
    (key : PublicationWording → Option String) (name : PublicationTextKey) :
    HonestCopies source.primaryGuestLocale fun locale ↦
      ((textIn source locale key name).1.getD (own "")).wording := by
  intro locale
  beta_reduce
  have hspec := textIn_spec source locale key name
  generalize textIn source locale key name = answer at hspec ⊢
  cases hspec with
  | own => exact Or.inl rfl
  | missing => exact Or.inl rfl
  | copied text different _ written notBlank =>
      refine Or.inr ⟨different, ?_⟩
      have hprimary := textIn_spec source source.primaryGuestLocale key name
      generalize textIn source source.primaryGuestLocale key name = answer at hprimary ⊢
      cases hprimary with
      | own primaryText hwritten =>
          rw [written, Option.some.injEq] at hwritten
          rw [hwritten]
          exact ⟨rfl, rfl⟩
      | copied _ hdifferent => exact absurd rfl hdifferent
      | missing gap =>
          rw [written] at gap
          simp [isWritten, notBlank] at gap

/-! ## The texts of a page -/

/-- Every text of a page is an honest copy in every locale. -/
theorem localizedContentOf_honest (source : PortalPublicationSource) (hasHero : Bool)
    {text : ImmersiveLocalizedContent → PortalSnapshotText} (mem : text ∈ textKeys) :
    HonestCopies source.primaryGuestLocale fun locale ↦
      (text (localizedContentOf source locale hasHero).1).wording := by
  rw [textKeys] at mem
  simp only [List.mem_cons, List.not_mem_nil, or_false] at mem
  rcases mem with rfl | rfl | rfl | rfl
  · exact textIn_honest source (·.title) .title
  · exact textIn_honest source (·.shortDescription) .shortDescription
  · unfold localizedContentOf
    by_cases halt : (hasHero &&
        isWritten (writtenText source source.primaryGuestLocale (·.heroAlt))) = true
    · simp only [if_pos halt]
      exact textIn_honest source (·.heroAlt) .heroAlt
    · simp only [if_neg halt]
      exact fun _ ↦ Or.inl rfl
  · exact fun _ ↦ Or.inl rfl

/-- A default Linktree title is a text within the limit. -/
theorem linktreeDefaultTitle_bounded (locale : GuestLocale) :
    isBlank (linktreeDefaultTitle locale) = false ∧
      utf16Length (linktreeDefaultTitle locale) ≤ immersiveSnapshotLimits.linktreeTitleLength := by
  cases locale <;> decide

/-! ## The texts of a link -/

/-- What a link's wording in a locale is. -/
inductive LinkTextIn (link : PublicationLink) (locale primary : GuestLocale) :
    ImmersiveLinkText × Findings → Prop
  | own (text : PublicationLinkText) (written : link.texts locale = some text)
      (notBlank : isBlank text.label = false) :
      LinkTextIn link locale primary (⟨text.label, text.line, none⟩, .none)
  | copied (text : PublicationLinkText) (different : locale ≠ primary)
      (written : link.texts primary = some text) (notBlank : isBlank text.label = false) :
      LinkTextIn link locale primary
        (⟨text.label, text.line, some primary⟩, .warn locale (.link link.id))
  | missing (primaryGap : labelledText link primary = none) :
      LinkTextIn link locale primary (⟨"", none, none⟩,
        if gapBlocksPublication locale primary = true then
          .block (.primaryTextMissing locale (.link link.id))
        else .none)

theorem labelledText_eq_some {link : PublicationLink} {text : PublicationLinkText}
    (h : labelledText link locale = some text) :
    link.texts locale = some text ∧ isBlank text.label = false := by
  rw [labelledText, Option.filter_eq_some_iff] at h
  exact ⟨h.1, by simpa using h.2⟩

/-- What `linkTextIn` answers. -/
theorem linkTextIn_spec (link : PublicationLink) (locale primary : GuestLocale) :
    LinkTextIn link locale primary (linkTextIn link locale primary) := by
  unfold linkTextIn
  cases hwritten : labelledText link locale with
  | some text =>
      have htext := labelledText_eq_some hwritten
      exact .own text htext.1 htext.2
  | none =>
      by_cases heq : locale = primary
      · rw [if_pos heq]
        exact .missing (by rw [← heq]; exact hwritten)
      · rw [if_neg heq]
        cases hcopied : labelledText link primary with
        | some text =>
            have htext := labelledText_eq_some hcopied
            exact .copied text heq htext.1 htext.2
        | none => exact .missing hcopied

/-- A link's wording is an honest copy in every locale. -/
theorem linkTextIn_honest (link : PublicationLink) (primary : GuestLocale) :
    HonestCopies primary fun locale ↦ (linkTextIn link locale primary).1.wording := by
  intro locale
  beta_reduce
  have hspec := linkTextIn_spec link locale primary
  generalize linkTextIn link locale primary = answer at hspec ⊢
  cases hspec with
  | own => exact Or.inl rfl
  | missing => exact Or.inl rfl
  | copied text different written notBlank =>
      refine Or.inr ⟨different, ?_⟩
      have hprimary := linkTextIn_spec link primary primary
      generalize linkTextIn link primary primary = answer at hprimary ⊢
      cases hprimary with
      | own primaryText hwritten =>
          rw [written, Option.some.injEq] at hwritten
          rw [hwritten]
          exact ⟨rfl, rfl⟩
      | copied _ hdifferent => exact absurd rfl hdifferent
      | missing primaryGap =>
          rw [labelledText, written] at primaryGap
          simp [notBlank] at primaryGap

end ReputationKey.Portal
