import ReputationKey.Portal.LanguageCoverage

/-!
# Language coverage and publishing

Publishing reports exactly the texts its source has not got; coverage lists exactly the texts it does
not find in the rows. The two read the rows alike but for a blank text of the Portal's own over
wording of the Property: coverage takes the Property's wording, publishing takes the blank.
-/

namespace ReputationKey.Portal

open ReputationKey.Base ReputationKey.Shared

/-! ## What publishing reports -/

theorem Findings.warnings_concat (findings : List Findings) :
    (Findings.concat findings).warnings = findings.flatMap (·.warnings) := by
  induction findings with
  | nil => rfl
  | cons first later ih =>
      rw [List.flatMap_cons, ← ih]
      rfl

section Publishing

variable {platform : ResolverPlatform} {source : PortalPublicationSource} {locale : GuestLocale}
  {key : PublicationWording → Option String} {name : PublicationTextKey}

/-- Whether the source has not got a text of a page in a locale. -/
def TextGap (source : PortalPublicationSource) (locale : GuestLocale)
    (key : PublicationWording → Option String) : Prop :=
  isWritten (writtenText source locale key) = false

theorem textIn_blockers : (textIn source locale key name).2.blockers = [] := by
  have hspec := textIn_spec source locale key name
  generalize textIn source locale key name = answer at hspec ⊢
  cases hspec <;> rfl

/-- A copy is noted where the locale has a gap that the primary language has not. -/
theorem mem_textIn_warnings {warning : PublicationWarning} :
    warning ∈ (textIn source locale key name).2.warnings ↔
      warning = ⟨locale, name⟩ ∧ locale ≠ source.primaryGuestLocale ∧ TextGap source locale key ∧
        ¬ TextGap source source.primaryGuestLocale key := by
  have hspec := textIn_spec source locale key name
  generalize textIn source locale key name = answer at hspec ⊢
  cases hspec with
  | own text written notBlank => simp [Findings.none, TextGap, isWritten, written, notBlank]
  | copied text different gap written notBlank =>
      simp [Findings.warn, different, TextGap, isWritten, written, notBlank]
      exact fun _ ↦ gap
  | missing gap primary => simp [Findings.none, TextGap, primary]

/-- A text stays empty where neither the locale nor the primary language has it. -/
theorem isBlank_textIn :
    isBlank ((textIn source locale key name).1.getD (own "")).value = true ↔
      TextGap source locale key ∧
        (locale = source.primaryGuestLocale ∨ TextGap source source.primaryGuestLocale key) := by
  have hspec := textIn_spec source locale key name
  generalize textIn source locale key name = answer at hspec ⊢
  cases hspec with
  | own text written notBlank => simp [own, notBlank, TextGap, isWritten, written]
  | copied text different gap written notBlank =>
      simp [notBlank, different, TextGap, isWritten, written]
  | missing gap primary =>
      simp [own, isBlank, TextGap, gap, primary]

/-- Whether the source has not got a text in a locale. -/
def SourceGap (source : PortalPublicationSource) (locale : GuestLocale) : PublicationTextKey → Prop
  | .title => TextGap source locale (·.title)
  | .shortDescription => TextGap source locale (·.shortDescription)
  | .heroAlt => False
  | .link id => ∃ link ∈ source.links, link.id = id ∧ labelledText link locale = none

/-- A title or a description blocks where the primary language has none. -/
theorem mem_gapFinding {blocker : PublicationBlocker} :
    blocker ∈ (gapFinding source locale (textIn source locale key name).1 name).blockers ↔
      blocker = .primaryTextMissing locale name ∧ locale = source.primaryGuestLocale ∧
        TextGap source locale key := by
  have hspec := textIn_spec source locale key name
  generalize textIn source locale key name = answer at hspec ⊢
  cases hspec with
  | own text written notBlank =>
      simp [gapFinding, Findings.none, TextGap, isWritten, written, notBlank]
  | copied text different gap written notBlank => simp [gapFinding, Findings.none, different]
  | missing gap primary =>
      by_cases hprimary : locale = source.primaryGuestLocale
      · simp [gapFinding, gapBlocksPublication, Findings.block, hprimary, TextGap, primary]
      · simp [gapFinding, gapBlocksPublication, Findings.none, hprimary]

/-- What blocks of one locale's texts. -/
theorem mem_localizedContentOf_blockers {hasHero : Bool} {blocker : PublicationBlocker} :
    blocker ∈ (localizedContentOf source locale hasHero).2.blockers ↔
      locale = source.primaryGuestLocale ∧
        (blocker = .primaryTextMissing locale .title ∧ TextGap source locale (·.title) ∨
          blocker = .primaryTextMissing locale .shortDescription ∧
            TextGap source locale (·.shortDescription)) := by
  have hheroAlt : (if (hasHero && isWritten (writtenText source source.primaryGuestLocale (·.heroAlt))) =
      true then textIn source locale (·.heroAlt) .heroAlt else (none, .none)).2.blockers = [] := by
    split_ifs
    · exact textIn_blockers
    · rfl
  simp only [localizedContentOf, Findings.append, List.mem_append, textIn_blockers, hheroAlt,
    List.not_mem_nil, false_or, mem_gapFinding]
  tauto

/-- What is noted of one locale's title and description. -/
theorem mem_localizedContentOf_warnings {hasHero : Bool} {locale' : GuestLocale}
    (hname : name ≠ .heroAlt) :
    (⟨locale', name⟩ : PublicationWarning) ∈ (localizedContentOf source locale hasHero).2.warnings ↔
      locale' = locale ∧ locale ≠ source.primaryGuestLocale ∧
        (name = .title ∧ TextGap source locale (·.title) ∧
            ¬ TextGap source source.primaryGuestLocale (·.title) ∨
          name = .shortDescription ∧ TextGap source locale (·.shortDescription) ∧
            ¬ TextGap source source.primaryGuestLocale (·.shortDescription)) := by
  have hgap (text : Option PortalSnapshotText) (name : PublicationTextKey) :
      (gapFinding source locale text name).warnings = [] := by
    unfold gapFinding
    split_ifs <;> rfl
  have hheroAlt : (⟨locale', name⟩ : PublicationWarning) ∉ (if (hasHero &&
      isWritten (writtenText source source.primaryGuestLocale (·.heroAlt))) =
      true then textIn source locale (·.heroAlt) .heroAlt else (none, .none)).2.warnings := by
    split_ifs
    · rw [mem_textIn_warnings]
      rintro ⟨heq, -⟩
      exact hname (PublicationWarning.mk.inj heq).2
    · exact List.not_mem_nil
  simp only [localizedContentOf, Findings.append, List.mem_append, hgap, hheroAlt,
    List.not_mem_nil, or_false, mem_textIn_warnings, PublicationWarning.mk.injEq]
  tauto

/-- What blocks of one link in one locale. -/
theorem mem_linkTextIn_blockers {link : PublicationLink} {primary : GuestLocale}
    {blocker : PublicationBlocker} :
    blocker ∈ (linkTextIn link locale primary).2.blockers ↔
      blocker = .primaryTextMissing locale (.link link.id) ∧ locale = primary ∧
        labelledText link locale = none := by
  unfold linkTextIn
  cases hown : labelledText link locale with
  | some text => simp [Findings.none]
  | none =>
      by_cases hprimary : locale = primary
      · simp [hprimary, gapBlocksPublication, Findings.block]
      · cases hcopied : labelledText link primary with
        | some text => simp [hprimary, Findings.warn]
        | none => simp [hprimary, gapBlocksPublication, Findings.none]

/-- What is noted of one link in one locale. -/
theorem mem_linkTextIn_warnings {link : PublicationLink} {primary : GuestLocale}
    {warning : PublicationWarning} :
    warning ∈ (linkTextIn link locale primary).2.warnings ↔
      warning = ⟨locale, .link link.id⟩ ∧ locale ≠ primary ∧ labelledText link locale = none ∧
        labelledText link primary ≠ none := by
  unfold linkTextIn
  cases hown : labelledText link locale with
  | some text => simp [Findings.none]
  | none =>
      by_cases hprimary : locale = primary
      · simp [hprimary, gapBlocksPublication, Findings.block]
      · cases hcopied : labelledText link primary with
        | some text => simp [hprimary, Findings.warn]
        | none => simp [hprimary, gapBlocksPublication, Findings.none]

/-- A label stays empty where neither the locale nor the primary language has it. -/
theorem isBlank_linkTextIn {link : PublicationLink} {primary : GuestLocale} :
    isBlank (linkTextIn link locale primary).1.label = true ↔
      labelledText link locale = none ∧ (locale = primary ∨ labelledText link primary = none) := by
  unfold linkTextIn
  cases hown : labelledText link locale with
  | some text => simp [(labelledText_eq_some hown).2]
  | none =>
      by_cases hprimary : locale = primary
      · simp [hprimary, isBlank]
      · cases hcopied : labelledText link primary with
        | some text => simp [hprimary, (labelledText_eq_some hcopied).2]
        | none => simp [hprimary, isBlank]

/-- The texts missing in the primary language are the blockers of the texts and of the links. -/
theorem primaryTextMissing_mem :
    .primaryTextMissing locale name ∈ (resolvePortalPublication platform source).findings.blockers ↔
      locale = source.primaryGuestLocale ∧ locale ∈ source.localeSet ∧
        SourceGap source locale name := by
  have hpacks : .primaryTextMissing locale name ∉ (languagePacksOf source.localeSet).2.blockers := by
    rw [languagePacksOf, Findings.blockers_concat]
    intro mem
    obtain ⟨findings, hfindings, mem⟩ := List.mem_flatMap.1 mem
    obtain ⟨locale, -, rfl⟩ := List.mem_map.1 hfindings
    split at mem
    · simp [Findings.block] at mem
    · simp [Findings.none] at mem
  have hzone : .primaryTextMissing locale name ∉ (if isValidTimeZone platform.toReaderPlatform
      (source.timeZone.getD "") = true then Findings.none else .block .timeZoneInvalid).blockers := by
    split_ifs <;> simp [Findings.none, Findings.block]
  simp only [resolvePortalPublication, Findings.append, List.mem_append, hpacks, hzone, false_or,
    or_false, Findings.blockers_concat, List.flatMap_map, List.mem_flatMap, linksOf,
    mem_localizedContentOf_blockers, mem_linkTextIn_blockers, PublicationBlocker.primaryTextMissing.injEq]
  constructor
  · rintro (⟨_, hmem, hprimary, ⟨⟨rfl, rfl⟩, hgap⟩ | ⟨⟨rfl, rfl⟩, hgap⟩⟩ |
      ⟨link, hlink, _, hmem, ⟨rfl, rfl⟩, hprimary, hgap⟩)
    · exact ⟨hprimary, hmem, hgap⟩
    · exact ⟨hprimary, hmem, hgap⟩
    · exact ⟨hprimary, hmem, link, hlink, rfl, hgap⟩
  · rintro ⟨hprimary, hmem, hgap⟩
    cases name with
    | title => exact Or.inl ⟨locale, hmem, hprimary, Or.inl ⟨⟨rfl, rfl⟩, hgap⟩⟩
    | shortDescription => exact Or.inl ⟨locale, hmem, hprimary, Or.inr ⟨⟨rfl, rfl⟩, hgap⟩⟩
    | heroAlt => exact hgap.elim
    | link id =>
        obtain ⟨link, hlink, rfl, hgap⟩ := hgap
        exact Or.inr ⟨link, hlink, locale, hmem, ⟨rfl, rfl⟩, hprimary, hgap⟩

/-- The copies noted are of the gaps that the primary language has not. -/
theorem warning_mem (hname : name ≠ .heroAlt) :
    (⟨locale, name⟩ : PublicationWarning) ∈
        (resolvePortalPublication platform source).findings.warnings ↔
      locale ≠ source.primaryGuestLocale ∧ locale ∈ source.localeSet ∧
        match name with
        | .title => TextGap source locale (·.title) ∧
            ¬ TextGap source source.primaryGuestLocale (·.title)
        | .shortDescription => TextGap source locale (·.shortDescription) ∧
            ¬ TextGap source source.primaryGuestLocale (·.shortDescription)
        | .heroAlt => False
        | .link id => ∃ link ∈ source.links, link.id = id ∧ labelledText link locale = none ∧
            labelledText link source.primaryGuestLocale ≠ none := by
  have hpacks : (⟨locale, name⟩ : PublicationWarning) ∉
      (languagePacksOf source.localeSet).2.warnings := by
    rw [languagePacksOf, Findings.warnings_concat]
    intro mem
    obtain ⟨findings, hfindings, mem⟩ := List.mem_flatMap.1 mem
    obtain ⟨locale, -, rfl⟩ := List.mem_map.1 hfindings
    split at mem <;> cases mem
  have hzone : (⟨locale, name⟩ : PublicationWarning) ∉ (if isValidTimeZone platform.toReaderPlatform
      (source.timeZone.getD "") = true then Findings.none else .block .timeZoneInvalid).warnings := by
    split_ifs <;> exact List.not_mem_nil
  simp only [resolvePortalPublication, Findings.append, List.mem_append, hpacks, hzone, false_or,
    or_false, Findings.warnings_concat, List.flatMap_map, List.mem_flatMap, linksOf,
    mem_localizedContentOf_warnings hname, mem_linkTextIn_warnings, PublicationWarning.mk.injEq]
  constructor
  · rintro (⟨_, hmem, rfl, hne, ⟨rfl, hgap⟩ | ⟨rfl, hgap⟩⟩ |
      ⟨link, hlink, _, hmem, ⟨rfl, rfl⟩, hne, hgap⟩)
    · exact ⟨hne, hmem, hgap⟩
    · exact ⟨hne, hmem, hgap⟩
    · exact ⟨hne, hmem, link, hlink, rfl, hgap⟩
  · rintro ⟨hne, hmem, hgap⟩
    cases name with
    | title => exact Or.inl ⟨locale, hmem, rfl, hne, Or.inl ⟨rfl, hgap⟩⟩
    | shortDescription => exact Or.inl ⟨locale, hmem, rfl, hne, Or.inr ⟨rfl, hgap⟩⟩
    | heroAlt => exact hgap.elim
    | link id =>
        obtain ⟨link, hlink, rfl, hgap⟩ := hgap
        exact Or.inr ⟨link, hlink, locale, hmem, ⟨rfl, rfl⟩, hne, hgap⟩

/-- The texts left empty are the gaps that the primary language has too. -/
theorem unfilledGap_iff (ne : locale ≠ source.primaryGuestLocale) :
    UnfilledGap (resolvePortalPublication platform source).content locale name ↔
      locale ∈ source.localeSet ∧
        match name with
        | .title => TextGap source locale (·.title) ∧
            TextGap source source.primaryGuestLocale (·.title)
        | .shortDescription => TextGap source locale (·.shortDescription) ∧
            TextGap source source.primaryGuestLocale (·.shortDescription)
        | .heroAlt => False
        | .link id => ∃ link ∈ source.links, link.id = id ∧ labelledText link locale = none ∧
            labelledText link source.primaryGuestLocale = none := by
  have hcontents : (resolvePortalPublication platform source).content.localizedContent locale =
      if locale ∈ source.localeSet then some (localizedContentOf source locale
        (brandProfileOf platform source).hero.isSome).1 else none := by
    simp only [resolvePortalPublication, List.map_map, Function.comp_def]
    exact KeyedRecord.ofEntries_map _ _ _
  cases name with
  | title =>
      simp only [UnfilledGap, hcontents]
      by_cases hmem : locale ∈ source.localeSet
      · simp [hmem, localizedContentOf, isBlank_textIn, ne]
      · simp [hmem]
  | shortDescription =>
      simp only [UnfilledGap, hcontents]
      by_cases hmem : locale ∈ source.localeSet
      · simp [hmem, localizedContentOf, isBlank_textIn, ne]
      · simp [hmem]
  | heroAlt => simp [UnfilledGap]
  | link id =>
      have htexts (link : PublicationLink) : (linkOf source link).texts locale =
          if locale ∈ source.localeSet then
            some (linkTextIn link locale source.primaryGuestLocale).1 else none :=
        KeyedRecord.ofEntries_map _ _ _
      simp only [UnfilledGap, resolvePortalPublication, linksOf, List.mem_map]
      by_cases hmem : locale ∈ source.localeSet
      · constructor
        · rintro ⟨_, ⟨link, hlink, rfl⟩, hid, text, htext, hblank⟩
          rw [htexts, if_pos hmem, Option.some.injEq] at htext
          rw [← htext, isBlank_linkTextIn] at hblank
          exact ⟨hmem, link, hlink, hid, hblank.1, hblank.2.resolve_left ne⟩
        · rintro ⟨-, link, hlink, hid, hgap⟩
          refine ⟨linkOf source link, ⟨link, hlink, rfl⟩, hid, _, (htexts link).trans (if_pos hmem), ?_⟩
          rw [isBlank_linkTextIn]
          exact ⟨hgap.1, Or.inr hgap.2⟩
      · simp [htexts, hmem]

/-- Resolving reports exactly the texts its source has not got. -/
theorem reportsGap_iff (hname : name ≠ .heroAlt) :
    ReportsGap (resolvePortalPublication platform source) source.primaryGuestLocale locale name ↔
      locale ∈ source.localeSet ∧ SourceGap source locale name := by
  unfold ReportsGap
  by_cases hprimary : locale = source.primaryGuestLocale
  · rw [if_pos hprimary, primaryTextMissing_mem]
    exact and_iff_right hprimary
  · rw [if_neg hprimary, warning_mem hname, unfilledGap_iff hprimary]
    cases name with
    | title | shortDescription =>
        simp only [SourceGap]
        tauto
    | heroAlt => exact absurd rfl hname
    | link id =>
        simp only [SourceGap]
        constructor
        · rintro (⟨-, hmem, link, hlink, hid, hgap, -⟩ | ⟨hmem, link, hlink, hid, hgap, -⟩)
          · exact ⟨hmem, link, hlink, hid, hgap⟩
          · exact ⟨hmem, link, hlink, hid, hgap⟩
        · rintro ⟨hmem, link, hlink, hid, hgap⟩
          by_cases hcopied : labelledText link source.primaryGuestLocale = none
          · exact Or.inr ⟨hmem, link, hlink, hid, hgap, hcopied⟩
          · exact Or.inl ⟨hprimary, hmem, link, hlink, hid, hgap, hcopied⟩

end Publishing

/-! ## What coverage lists -/

section Coverage

variable {input : PortalLanguageCoverageInput} {locale : GuestLocale} {name : PublicationTextKey}

/-- Whether coverage finds a title or a description in a language. -/
def foundIn (input : PortalLanguageCoverageInput) (locale : GuestLocale)
    (ofOverride : PortalLocalizedOverride → Option String) (ofContent : PropertyContentRow → String) :
    Bool :=
  let content := input.propertyContent.find? fun item ↦ item.locale == locale
  let override := input.overrides.find? fun item ↦ item.locale == locale
  (content.any fun row ↦ hasPropertyWording row.title row.shortDescription) &&
    anyWritten [override.bind ofOverride, content.map ofContent]

/-- Whether coverage does not find a text in a language. -/
def InputGap (input : PortalLanguageCoverageInput) (locale : GuestLocale) : PublicationTextKey → Prop
  | .title => foundIn input locale (·.title) (·.title) = false
  | .shortDescription => foundIn input locale (·.shortDescription) (·.shortDescription) = false
  | .heroAlt => False
  | .link id => ∃ link ∈ input.links, link.1 = id ∧ ∀ text ∈ input.linkTexts,
      text.linkId = id → text.locale = locale → isBlank text.label = true

theorem mem_missingWording {kind : PortalTextKind} {key : String} {written blocks : Bool}
    {missing : MissingPortalText} :
    missing ∈ missingWording kind key written blocks ↔
      written = false ∧ missing = ⟨key, kind, none, none, blocks⟩ := by
  cases written <;> simp [missingWording]

/-- The entries of a language are of the texts not found in it. -/
theorem mem_missingTexts :
    (∃ missing ∈ (missingTexts input locale).2, missing.textKey = name) ↔
      InputGap input locale name := by
  have hlabel (link : String × String) : (input.linkTexts.any fun text ↦
      text.linkId == link.1 && text.locale == locale && !isBlank text.label) = true ↔
      ¬ ∀ text ∈ input.linkTexts, text.linkId = link.1 → text.locale = locale →
        isBlank text.label = true := by
    simp [List.any_eq_true, and_assoc]
  simp only [missingTexts, List.mem_append, mem_missingWording, List.mem_filterMap]
  constructor
  · rintro ⟨missing, (⟨hgap, rfl⟩ | ⟨hgap, rfl⟩) | ⟨link, hlink, hmissing⟩, rfl⟩
    · exact hgap
    · exact hgap
    · split_ifs at hmissing with hwritten
      cases hmissing
      rw [hlabel, not_not] at hwritten
      exact ⟨link, hlink, rfl, hwritten⟩
  · intro hgap
    cases name with
    | title => exact ⟨_, Or.inl (Or.inl ⟨hgap, rfl⟩), rfl⟩
    | shortDescription => exact ⟨_, Or.inl (Or.inr ⟨hgap, rfl⟩), rfl⟩
    | heroAlt => exact hgap.elim
    | link id =>
        obtain ⟨link, hlink, rfl, hblank⟩ := hgap
        refine ⟨_, Or.inr ⟨link, hlink, if_neg ?_⟩, rfl⟩
        rw [hlabel, not_not]
        exact hblank

/-- Coverage lists exactly the texts it does not find. -/
theorem listed_iff :
    Listed (computePortalLanguageCoverage input) locale name ↔
      locale ∈ offeredLocales input.primaryLocale input.additionalLocales ∧
        InputGap input locale name := by
  rw [← mem_missingTexts]
  constructor
  · rintro ⟨row, hrow, rfl, hmissing⟩
    obtain ⟨locale, hlocale, rfl⟩ := List.mem_map.1 hrow
    exact ⟨hlocale, hmissing⟩
  · rintro ⟨hlocale, hmissing⟩
    exact ⟨coverageRow input locale, List.mem_map_of_mem hlocale, rfl, hmissing⟩

/-- An entry blocks publishing exactly in the primary language. -/
theorem blocksPublish_of_mem {missing : MissingPortalText}
    (mem : missing ∈ (missingTexts input locale).2) :
    missing.blocksPublish = gapBlocksPublication locale input.primaryLocale := by
  simp only [missingTexts, List.mem_append, mem_missingWording, List.mem_filterMap] at mem
  rcases mem with (⟨-, rfl⟩ | ⟨-, rfl⟩) | ⟨link, -, hmissing⟩
  · rfl
  · rfl
  · split_ifs at hmissing
    cases hmissing
    rfl

/-- No entry blocks publishing exactly when the primary language misses nothing. -/
theorem noneBlocks_iff :
    (∀ row ∈ (computePortalLanguageCoverage input).languages, ∀ missing ∈ row.missing,
        missing.blocksPublish = false) ↔
      ∀ name, ¬ Listed (computePortalLanguageCoverage input) input.primaryLocale name := by
  constructor
  · rintro h name ⟨row, hrow, hlocale, missing, hmissing, -⟩
    have hfalse := h row hrow missing hmissing
    obtain ⟨locale, -, rfl⟩ := List.mem_map.1 hrow
    rw [blocksPublish_of_mem hmissing, gapBlocksPublication,
      show locale = input.primaryLocale from hlocale, beq_self_eq_true] at hfalse
    cases hfalse
  · intro h row hrow missing hmissing
    obtain ⟨locale, hlocale, rfl⟩ := List.mem_map.1 hrow
    rw [blocksPublish_of_mem hmissing, gapBlocksPublication, beq_eq_false_iff_ne]
    rintro rfl
    exact h missing.textKey ⟨_, hrow, rfl, missing, hmissing, rfl⟩

end Coverage

/-! ## The two readings of a title and a description -/

/-- Publishing and coverage read a text alike unless a blank of the Portal's own stands over wording
of the Property. -/
theorem readings_agree_iff {content : Option PropertyContentRow} {own : Option String}
    {text : PropertyContentRow → String}
    (wording : ∀ row, isBlank (text row) = false →
      hasPropertyWording row.title row.shortDescription = true) :
    isWritten ((content.filter fun row ↦ hasPropertyWording row.title row.shortDescription).map
        fun row ↦ own.getD (text row)) =
      ((content.any fun row ↦ hasPropertyWording row.title row.shortDescription) &&
        anyWritten [own, content.map text]) ↔
      ¬ ∃ row, content = some row ∧ ∃ blank, own = some blank ∧ isBlank blank = true ∧
        isBlank (text row) = false := by
  cases content with
  | none => simp [isWritten, anyWritten]
  | some row =>
      by_cases hwording : hasPropertyWording row.title row.shortDescription = true
      · cases own with
        | none => simp [Option.filter, hwording, isWritten, anyWritten]
        | some own =>
            cases hown : isBlank own <;> cases htext : isBlank (text row) <;>
              simp [Option.filter, hwording, isWritten, anyWritten, hown, htext]
      · have htext : isBlank (text row) = true := by
          by_contra hnot
          rw [Bool.not_eq_true] at hnot
          exact hwording (wording row hnot)
        simp [Option.filter, hwording, isWritten, htext]

/-! ## The rows as the reader gives them -/

section Rows

variable {rows : PortalWorkingRows} {locale : GuestLocale}

/-- Laying the photo's descriptions over the content rows leaves the wording found in a language. -/
theorem wording_withPortalHeroAlt (contents : List PortalHeroAltContent)
    (override : Option PortalLookOverride) (code : String) :
    ((indexBy (·.locale) (withPortalHeroAlt contents override) code).filter fun row ↦
        hasPropertyWording row.title row.shortDescription).map (fun row ↦
          (row.title, row.shortDescription)) =
      ((indexBy (·.locale) contents code).filter fun row ↦
        hasPropertyWording row.title row.shortDescription).map fun row ↦
          (row.title, row.shortDescription) := by
  unfold withPortalHeroAlt
  cases override.elim PortalLookPhoto.inherit (·.photo) with
  | inherit => rfl
  | none =>
      simp only
      rw [@indexBy_map String PortalHeroAltContent _ (·.locale) PortalHeroAltContent (·.locale) _
        (fun row ↦ by split_ifs <;> rfl)]
      cases indexBy (·.locale) contents code with
      | none => rfl
      | some row =>
          by_cases halt : row.heroAltText = none <;>
            cases hwording : hasPropertyWording row.title row.shortDescription <;>
            simp [Option.filter, halt, hwording]
  | own photo =>
      simp only
      rw [indexBy_append, @indexBy_map String PortalHeroAltContent _ (·.locale) PortalHeroAltContent
        (·.locale) (fun row ↦ { row with
          heroAltText := (parseGuestLocale row.locale).bind photo.altTexts }) (fun _ ↦ rfl)]
      cases haltOnly : indexBy (·.locale) ((altTextMembers photo.altTexts).filterMap fun member ↦
          if member.1.code ∉ contents.map (·.locale) ∧ isBlank member.2 = false then
            some (⟨member.1.code, "", "", some member.2⟩ : PortalHeroAltContent)
          else none) code with
      | none =>
          rw [Option.none_or]
          cases indexBy (·.locale) contents code with
          | none => rfl
          | some row =>
              cases hwording : hasPropertyWording row.title row.shortDescription <;>
                simp [Option.filter, hwording]
      | some row =>
          obtain ⟨hmem, hcode⟩ := mem_of_indexBy haltOnly
          obtain ⟨member, -, hrow⟩ := List.mem_filterMap.1 hmem
          split_ifs at hrow with habsent
          cases hrow
          rw [indexBy_eq_none (hcode ▸ habsent.1)]
          simp [Option.filter, hasPropertyWording, isBlank]

/-- The content row of a language, as the reader finds it. -/
theorem content_altContent (rows : PortalWorkingRows) (locale : GuestLocale) :
    indexBy (·.locale) (rows.contents.map (·.altContent)) locale.code =
      (rows.contents.find? fun item ↦ item.locale == locale).map (·.altContent) := by
  have hcodes : (rows.contents.map fun row ↦ row.locale.code).Nodup := by
    have hnodup := rows.oneContent.map fun _ _ h ↦ GuestLocale.eq_of_code_eq h
    rwa [List.map_map] at hnodup
  rw [@indexBy_map String PortalHeroAltContent _ (·.locale) PropertyContentRow (·.locale.code) _
    (fun _ ↦ rfl), indexBy_eq_find? hcodes]
  congr 2
  funext item
  rw [Bool.eq_iff_iff, beq_iff_eq, beq_iff_eq]
  exact ⟨GuestLocale.eq_of_code_eq, fun h ↦ by rw [h]⟩

/-- A text of the source in an offered language: the Portal's own over the Property's wording. -/
theorem writtenText_rows
    (mem : locale ∈ offeredLocales rows.portal.primaryGuestLocale rows.portal.additionalGuestLocales) :
    let content := rows.contents.find? fun item ↦ item.locale == locale
    let override := rows.overrides.find? fun item ↦ item.locale == locale
    let wording := content.filter fun row ↦ hasPropertyWording row.title row.shortDescription
    writtenText (readPortalWorkingCopy rows) locale (·.title) =
        wording.map (fun row ↦ (override.bind (·.title)).getD row.title) ∧
      writtenText (readPortalWorkingCopy rows) locale (·.shortDescription) =
        wording.map fun row ↦ (override.bind (·.shortDescription)).getD row.shortDescription := by
  intro content override wording
  have hentry := KeyedRecord.ofEntries_map_of_mem
    (fun locale ↦
      let content := indexBy (·.locale) (withPortalHeroAlt (rows.contents.map (·.altContent))
        (if rows.brand = none then none else rows.lookOverride)) locale.code
      let override := indexBy (·.locale) rows.overrides locale
      let wording := content.filter fun row ↦ hasPropertyWording row.title row.shortDescription
      ({ title := wording.map fun row ↦ (override.bind (·.title)).getD row.title
         shortDescription :=
           wording.map fun row ↦ (override.bind (·.shortDescription)).getD row.shortDescription
         heroAlt := content.bind (·.heroAltText)
         linktreeTitle := override.bind (·.linktreeTitle) } : PublicationWording)) mem
  have hwording := wording_withPortalHeroAlt (rows.contents.map (·.altContent))
    (if rows.brand = none then none else rows.lookOverride) locale.code
  rw [content_altContent, Option.filter_map, Option.map_map] at hwording
  have hoverride : indexBy (·.locale) rows.overrides locale = override :=
    indexBy_eq_find? rows.oneOverride locale
  have htext (own : Option PortalLocalizedOverride → Option String) (text : String × String → String) :
      ((indexBy (·.locale) (withPortalHeroAlt (rows.contents.map (·.altContent))
        (if rows.brand = none then none else rows.lookOverride)) locale.code).filter fun row ↦
          hasPropertyWording row.title row.shortDescription).map (fun row ↦
            (own override).getD (text (row.title, row.shortDescription))) =
        wording.map fun row ↦ (own override).getD (text (row.title, row.shortDescription)) := by
    have hmapped := congrArg (Option.map fun texts ↦ (own override).getD (text texts)) hwording
    rw [Option.map_map, Option.map_map] at hmapped
    exact hmapped
  have hsource : (readPortalWorkingCopy rows).wording locale = _ := hentry
  simp only [writtenText, hsource, Option.bind_some, hoverride]
  exact ⟨htext (fun own ↦ own.bind (·.title)) Prod.fst,
    htext (fun own ↦ own.bind (·.shortDescription)) Prod.snd⟩

/-- The texts of a link are of that link, in different languages. -/
theorem textsOfLink_spec {texts : List StoredPortalLinkText}
    (nodup : (texts.map fun text ↦ (text.linkId, text.locale)).Nodup) (primary : GuestLocale)
    (id label : String) :
    (∀ text ∈ textsOfLink texts primary id label, text.linkId = id) ∧
      ((textsOfLink texts primary id label).map (·.locale)).Nodup := by
  have hown : (((texts.filter fun text ↦ text.linkId == id).map fun text ↦
      (⟨text, .text⟩ : ResolvedPortalLinkText)).map (·.locale)).Nodup := by
    have hsublist : (texts.filter fun text ↦ text.linkId == id).Sublist texts := List.filter_sublist
    have hfiltered := nodup.sublist (hsublist.map fun text ↦ (text.linkId, text.locale))
    rw [List.map_map]
    apply List.Nodup.of_map (fun locale ↦ (id, locale))
    rw [List.map_map]
    have hpairs : ((texts.filter fun text ↦ text.linkId == id).map fun text ↦
        (text.linkId, text.locale)) =
        (texts.filter fun text ↦ text.linkId == id).map fun text ↦ (id, text.locale) := by
      apply List.map_congr_left
      intro text mem
      have hid := beq_iff_eq.1 (List.mem_filter.1 mem).2
      rw [hid]
    rw [hpairs] at hfiltered
    exact hfiltered
  have hperm := List.perm_insertionSort (fun a b : ResolvedPortalLinkText ↦
    localeRank primary a.locale ≤ localeRank primary b.locale)
  constructor
  · intro text mem
    rw [textsOfLink, (hperm _).mem_iff, List.mem_append] at mem
    rcases mem with mem | mem
    · obtain ⟨stored, hstored, rfl⟩ := List.mem_map.1 mem
      exact beq_iff_eq.1 (List.mem_filter.1 hstored).2
    · split_ifs at mem
      · cases mem
      · cases List.mem_singleton.1 mem
        rfl
  · rw [textsOfLink, ((hperm _).map _).nodup_iff]
    split_ifs with hprimary
    · rw [List.append_nil]
      exact hown
    · rw [List.map_append]
      apply hown.append (List.nodup_singleton _)
      apply List.disjoint_singleton.2
      intro mem
      apply hprimary
      obtain ⟨text, htext, hlocale⟩ := List.mem_map.1 mem
      exact List.any_eq_true.2 ⟨text, htext, beq_iff_eq.2 hlocale⟩

/-- Among texts in different languages a link has no label in one exactly when its text there, if
any, is blank. -/
theorem labelled_eq_none_iff {texts : List ResolvedPortalLinkText}
    (nodup : (texts.map (·.locale)).Nodup) {link : PublicationLink}
    (hlink : link.texts = .ofEntries (texts.map fun text ↦ (text.locale, text.wording))) :
    labelledText link locale = none ↔
      ∀ text ∈ texts, text.locale = locale → isBlank text.label = true := by
  rw [labelledText, hlink]
  by_cases hmem : locale ∈ texts.map (·.locale)
  · obtain ⟨text, htext, rfl⟩ := List.mem_map.1 hmem
    have hnodup : ((texts.map fun text ↦ (text.locale, text.wording)).map Prod.fst).Nodup := by
      rwa [List.map_map]
    rw [KeyedRecord.ofEntries, KeyedRecord.foldl_set_of_mem hnodup _
      (List.mem_map.2 ⟨text, htext, rfl⟩)]
    simp only [Option.filter_eq_none_iff, Option.some.injEq, forall_eq', Bool.not_eq_true',
      Bool.not_eq_false]
    constructor
    · intro hblank other hother hlocale
      rw [List.inj_on_of_nodup_map nodup hother htext hlocale]
      exact hblank
    · intro h
      exact h text htext rfl
  · rw [KeyedRecord.ofEntries, KeyedRecord.foldl_set_of_not_mem]
    · simp only [KeyedRecord.empty, Option.filter_none, true_iff]
      rintro text htext rfl
      exact absurd (List.mem_map_of_mem htext) hmem
    · rwa [List.map_map]

/-- The reader and coverage miss the same link labels. -/
theorem linkGap_iff (approved : LinksApproved rows) {id : String} :
    SourceGap (readPortalWorkingCopy rows) locale (.link id) ↔
      InputGap (coverageInput rows) locale (.link id) := by
  have hentries : rows.links.filterMap approvedLink =
      rows.links.map fun link ↦ (link, link.destinationUri.getD "") := by
    rw [← List.filterMap_eq_map]
    apply List.filterMap_congr
    intro link mem
    obtain ⟨hstate, url, hurl, hne⟩ := approved link mem
    simp [approvedLink, hstate, hurl, hne]
  have hlinks : (readPortalWorkingCopy rows).links = rows.links.map fun link ↦
      publicationLink rows.media (coverageInput rows).linkTexts
        (link, link.destinationUri.getD "") := by
    simp only [readPortalWorkingCopy, readLinks, hentries, List.map_map, coverageInput]
    rfl
  have hids : ((rows.links.map fun link ↦ (link.id, link.label)).map Prod.fst).Nodup := by
    rw [List.map_map]
    exact rows.oneLink
  have hgap (link : PortalLinkRow) (mem : link ∈ rows.links) :
      labelledText (publicationLink rows.media (coverageInput rows).linkTexts
          (link, link.destinationUri.getD "")) locale = none ↔
        ∀ text ∈ (coverageInput rows).linkTexts, text.linkId = link.id → text.locale = locale →
          isBlank text.label = true := by
    have hfilter : (coverageInput rows).linkTexts.filter (fun text ↦ text.linkId == link.id) =
        textsOfLink rows.linkTexts rows.portal.primaryGuestLocale link.id link.label :=
      filter_flatMap_of_nodup hids (fun entry _ ↦ (textsOfLink_spec rows.oneText _ _ _).1)
        (List.mem_map.2 ⟨link, mem, rfl⟩)
    rw [labelled_eq_none_iff (hfilter ▸ (textsOfLink_spec rows.oneText _ _ _).2) rfl]
    simp only [List.mem_filter, beq_iff_eq, and_imp]
  simp only [SourceGap, InputGap, hlinks]
  constructor
  · rintro ⟨link, hlink, hid, hnone⟩
    obtain ⟨row, hrow, rfl⟩ := List.mem_map.1 hlink
    exact ⟨(row.id, row.label), List.mem_map.2 ⟨row, hrow, rfl⟩, hid, hid ▸ (hgap row hrow).1 hnone⟩
  · rintro ⟨link, hlink, rfl, hblank⟩
    obtain ⟨row, hrow, rfl⟩ := List.mem_map.1 hlink
    exact ⟨_, List.mem_map.2 ⟨row, hrow, rfl⟩, rfl, (hgap row hrow).2 hblank⟩

/-- Whether a blank text of the Portal's own stands over wording of the Property in a language. -/
def BlankOver (rows : PortalWorkingRows) (locale : GuestLocale)
    (ofOverride : PortalLocalizedOverride → Option String) (ofContent : PropertyContentRow → String) :
    Prop :=
  ∃ row, (rows.contents.find? fun item ↦ item.locale == locale) = some row ∧
    ∃ blank, (rows.overrides.find? fun item ↦ item.locale == locale).bind ofOverride = some blank ∧
      isBlank blank = true ∧ isBlank (ofContent row) = false

theorem blankOverride_iff :
    BlankOverride rows ↔
      ∃ locale ∈ offeredLocales rows.portal.primaryGuestLocale rows.portal.additionalGuestLocales,
        BlankOver rows locale (·.title) (·.title) ∨
          BlankOver rows locale (·.shortDescription) (·.shortDescription) := by
  have hcontent (locale : GuestLocale) (row : PropertyContentRow) :
      (rows.contents.find? fun item ↦ item.locale == locale) = some row ↔
        row ∈ rows.contents ∧ row.locale = locale := by
    rw [← indexBy_eq_find? rows.oneContent]
    exact indexBy_eq_some_iff rows.oneContent
  have hoverride (locale : GuestLocale) (row : PortalLocalizedOverride) :
      (rows.overrides.find? fun item ↦ item.locale == locale) = some row ↔
        row ∈ rows.overrides ∧ row.locale = locale := by
    rw [← indexBy_eq_find? rows.oneOverride]
    exact indexBy_eq_some_iff rows.oneOverride
  simp only [BlankOverride, BlankOver, hcontent, Option.bind_eq_some_iff, hoverride]
  constructor
  · rintro ⟨locale, hmem, row, hrow, hlocale, override, hoverride, hlocale',
      ⟨blank, hblank⟩ | ⟨blank, hblank⟩⟩
    · exact ⟨locale, hmem, Or.inl ⟨row, ⟨hrow, hlocale⟩, blank,
        ⟨override, ⟨hoverride, hlocale'⟩, hblank.1⟩, hblank.2⟩⟩
    · exact ⟨locale, hmem, Or.inr ⟨row, ⟨hrow, hlocale⟩, blank,
        ⟨override, ⟨hoverride, hlocale'⟩, hblank.1⟩, hblank.2⟩⟩
  · rintro ⟨locale, hmem,
      ⟨row, ⟨hrow, hlocale⟩, blank, ⟨override, ⟨hoverride, hlocale'⟩, hown⟩, hblank⟩ |
      ⟨row, ⟨hrow, hlocale⟩, blank, ⟨override, ⟨hoverride, hlocale'⟩, hown⟩, hblank⟩⟩
    · exact ⟨locale, hmem, row, hrow, hlocale, override, hoverride, hlocale',
        Or.inl ⟨blank, hown, hblank⟩⟩
    · exact ⟨locale, hmem, row, hrow, hlocale, override, hoverride, hlocale',
        Or.inr ⟨blank, hown, hblank⟩⟩

/-- The reader and coverage miss the same title and description, but for a blank over wording. -/
theorem textGap_iff
    (mem : locale ∈ offeredLocales rows.portal.primaryGuestLocale rows.portal.additionalGuestLocales) :
    ((InputGap (coverageInput rows) locale .title ↔
        SourceGap (readPortalWorkingCopy rows) locale .title) ↔
      ¬ BlankOver rows locale (·.title) (·.title)) ∧
    ((InputGap (coverageInput rows) locale .shortDescription ↔
        SourceGap (readPortalWorkingCopy rows) locale .shortDescription) ↔
      ¬ BlankOver rows locale (·.shortDescription) (·.shortDescription)) := by
  have hfalse (a b : Bool) : (a = false ↔ b = false) ↔ b = a := by
    cases a <;> cases b <;> decide
  obtain ⟨htitle, hdescription⟩ := @writtenText_rows rows locale mem
  constructor
  · rw [InputGap, SourceGap, TextGap, hfalse, htitle]
    apply readings_agree_iff
    intro row hrow
    simp [hasPropertyWording, hrow]
  · rw [InputGap, SourceGap, TextGap, hfalse, hdescription]
    apply readings_agree_iff
    intro row hrow
    simp [hasPropertyWording, hrow]

end Rows

/-! ## Agreement -/

/-- Coverage says of a Portal what publishing does exactly when no blank text of the Portal's own
stands over wording of the Property in a language it offers. -/
theorem coverage_agrees_iff (platform : ResolverPlatform) {rows : PortalWorkingRows}
    (approved : LinksApproved rows) : CoverageAgrees platform rows ↔ ¬ BlankOverride rows := by
  have hreports (locale : GuestLocale) (name : PublicationTextKey) (hname : name ≠ .heroAlt) :
      ReportsGap (resolvePortalPublication platform (readPortalWorkingCopy rows))
        rows.portal.primaryGuestLocale locale name ↔
      locale ∈ offeredLocales rows.portal.primaryGuestLocale rows.portal.additionalGuestLocales ∧
        SourceGap (readPortalWorkingCopy rows) locale name := reportsGap_iff hname
  have hlisted (locale : GuestLocale) (name : PublicationTextKey) :
      Listed (computePortalLanguageCoverage (coverageInput rows)) locale name ↔
      locale ∈ offeredLocales rows.portal.primaryGuestLocale rows.portal.additionalGuestLocales ∧
        InputGap (coverageInput rows) locale name := listed_iff
  constructor
  · rintro ⟨agree, -⟩ hblank
    obtain ⟨locale, hmem, htitle | hdescription⟩ := blankOverride_iff.1 hblank
    · apply (textGap_iff hmem).1.1 _ htitle
      have hname : PublicationTextKey.title ≠ .heroAlt := nofun
      have htext := agree locale .title hname
      rwa [hlisted, hreports _ _ hname, and_congr_right_iff, forall_prop_of_true hmem] at htext
    · apply (textGap_iff hmem).2.1 _ hdescription
      have hname : PublicationTextKey.shortDescription ≠ .heroAlt := nofun
      have htext := agree locale .shortDescription hname
      rwa [hlisted, hreports _ _ hname, and_congr_right_iff, forall_prop_of_true hmem] at htext
  · intro hblank
    rw [blankOverride_iff] at hblank
    have hgaps (locale : GuestLocale) (name : PublicationTextKey)
        (hmem : locale ∈ offeredLocales rows.portal.primaryGuestLocale
          rows.portal.additionalGuestLocales) :
        InputGap (coverageInput rows) locale name ↔
          SourceGap (readPortalWorkingCopy rows) locale name := by
      cases name with
      | title => exact (textGap_iff hmem).1.2 fun h ↦ hblank ⟨locale, hmem, Or.inl h⟩
      | shortDescription => exact (textGap_iff hmem).2.2 fun h ↦ hblank ⟨locale, hmem, Or.inr h⟩
      | heroAlt => exact Iff.rfl
      | link id => exact (linkGap_iff approved).symm
    constructor
    · intro locale name hname
      rw [hlisted, hreports _ _ hname]
      exact and_congr_right (hgaps locale name)
    · rw [noneBlocks_iff]
      constructor
      · intro h locale name hblocker
        obtain ⟨hprimary, hmem, hgap⟩ := primaryTextMissing_mem.1 hblocker
        have hlocale : locale = rows.portal.primaryGuestLocale := hprimary
        subst hlocale
        exact h name ((hlisted _ _).2 ⟨hmem, (hgaps _ _ hmem).2 hgap⟩)
      · intro h name hentry
        obtain ⟨hmem, hgap⟩ := (hlisted _ _).1 hentry
        exact h _ name (primaryTextMissing_mem.2 ⟨rfl, hmem, (hgaps _ _ hmem).1 hgap⟩)

/-- A runtime that knows every time zone and draws every field in one colour. -/
def plainPlatform : ResolverPlatform where
  knowsTimeZone := fun _ ↦ true
  urlProtocol := fun _ ↦ some "https:"
  deriveFieldColour := fun _ ↦ some "#15110D"

/-- A Portal in English with one link and a title of its own over the Property's wording. -/
def titledRows (title : String) : PortalWorkingRows where
  portal := ⟨"portal", "organization", "property", "Avela", none, "avela", .finite 3, false, true, .en,
    []⟩
  timeZone := some "Europe/Sofia"
  contents := [⟨.en, "Avela Resort", "By the sea", none⟩]
  overrides := [⟨.en, some title, none, none⟩]
  links := [⟨"menu", "Menu", none, none, some "https://avela.example/menu", some "approved"⟩]
  linkTexts := [⟨"menu", .en, "Our menu", none, none⟩]
  brand := none
  lookOverride := none
  media := fun _ ↦ none
  oneContent := List.nodup_singleton _
  oneOverride := List.nodup_singleton _
  oneLink := List.nodup_singleton _
  oneText := List.nodup_singleton _

theorem titledRows_approved (title : String) : LinksApproved (titledRows title) := by
  intro link mem
  cases List.mem_singleton.1 mem
  exact ⟨rfl, _, rfl, by decide⟩

/-- The law at a Portal with a written title of its own. -/
theorem coverage_agrees_iff_titled : CoverageAgrees plainPlatform (titledRows "Avela Bay") := by
  rw [coverage_agrees_iff plainPlatform (titledRows_approved "Avela Bay")]
  rintro ⟨locale, -, content, -, -, override, hoverride, -, ⟨text, htext, hblank, -⟩ | ⟨text, htext, -⟩⟩
  · cases List.mem_singleton.1 hoverride
    cases htext
    revert hblank
    decide
  · cases List.mem_singleton.1 hoverride
    cases htext

/-- A blank title of the Portal's own blocks publishing, and coverage lists nothing. -/
theorem blank_title_not_listed : LinksApproved (titledRows "   ") ∧
    ¬ CoverageAgrees plainPlatform (titledRows "   ") := by
  refine ⟨titledRows_approved "   ", fun ⟨agree, _⟩ ↦ ?_⟩
  have hname : PublicationTextKey.title ≠ .heroAlt := nofun
  have htitle := agree .en .title hname
  rw [listed_iff] at htitle
  have hgap : ReportsGap (resolvePortalPublication plainPlatform
      (readPortalWorkingCopy (titledRows "   "))) .en .en .title :=
    (reportsGap_iff hname).2 ⟨List.mem_singleton_self _, by
      rw [SourceGap, TextGap]
      decide⟩
  have hfound := (htitle.2 hgap).2
  revert hfound
  rw [InputGap]
  decide

end ReputationKey.Portal
