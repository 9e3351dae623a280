import ReputationKey.Portal.ResolvedContent

/-!
# What the reader never refuses

A source that blocks nothing and keeps the reader's limits resolves to a configuration the reader
finds complete.
-/

namespace ReputationKey.Portal

open ReputationKey.Base ReputationKey.Shared

/-! ## Limits on a source -/

/-- One language's texts are within the reader's limits. -/
structure PublicationWording.InsideReaderLimits (wording : PublicationWording) : Prop where
  title : ∀ text, wording.title = some text →
    utf16Length text ≤ immersiveSnapshotLimits.titleLength
  shortDescription : ∀ text, wording.shortDescription = some text →
    utf16Length text ≤ immersiveSnapshotLimits.shortDescriptionLength
  heroAlt : ∀ text, wording.heroAlt = some text →
    utf16Length text ≤ immersiveSnapshotLimits.heroAltLength
  linktreeTitle : ∀ text, wording.linktreeTitle = some text →
    utf16Length text ≤ immersiveSnapshotLimits.linktreeTitleLength

/-- A link's identifiers, address and icon are well formed. -/
structure PublicationLink.WellFormed (platform : ReaderPlatform) (link : PublicationLink) :
    Prop where
  id : isBoundedId link.id = true
  url : isLinkUrl platform link.url = true
  iconKey : link.iconKey.all matchesIconKey = true
  imageAssetId : link.imageAssetId.all isBoundedId = true

/-- A link's label and line are within the reader's limits, and the line is not blank. -/
structure PublicationLinkText.InsideReaderLimits (text : PublicationLinkText) : Prop where
  label : utf16Length text.label ≤ immersiveSnapshotLimits.linkLabelLength
  line : ∀ line, text.line = some line →
    isBlank line = false ∧ utf16Length line ≤ immersiveSnapshotLimits.linkLineLength

/-- The names, colours and images of a look are within the reader's limits. -/
structure PublicationLook.InsideReaderLimits (look : PublicationLook) : Prop where
  displayName : isBoundedName look.displayName immersiveSnapshotLimits.displayNameLength = true
  wordmark : (look.wordmark.all fun wordmark ↦
    isBoundedName wordmark immersiveSnapshotLimits.wordmarkLength) = true
  accentColour : matchesHexColour look.accentColour = true
  backgroundColour : look.backgroundMode = .manual → matchesHexColour look.backgroundColour = true
  logo : (look.logo.all fun logo ↦ isBoundedId logo.assetId && isValidMedia logo) = true
  hero : (look.hero.all fun hero ↦ isBoundedId hero.assetId &&
    isValidMedia hero.toImmersiveMediaReference && isUnitInterval hero.focalX &&
    isUnitInterval hero.focalY) = true

/-- The locale set, the links, the texts, the names, the colours and the images of a source are as
the reader wants them. A Property without a look shows the Portal's own name. -/
structure PortalPublicationSource.InsideReaderLimits (platform : ReaderPlatform)
    (source : PortalPublicationSource) : Prop where
  localesUnique : source.localeSet.Nodup
  primaryFirst : source.localeSet.head? = some source.primaryGuestLocale
  linksUnique : (source.links.map (·.id)).Nodup
  links : ∀ link ∈ source.links, link.WellFormed platform
  linkTexts : ∀ link ∈ source.links, ∀ locale text, link.texts locale = some text →
    text.InsideReaderLimits
  wordings : ∀ locale wording, source.wording locale = some wording → wording.InsideReaderLimits
  look : ∀ look, source.look = some look → look.InsideReaderLimits
  name : source.look = none →
    isBoundedName source.portal.name immersiveSnapshotLimits.displayNameLength = true

/-- What the reader asks besides: not too many links, and a look version it can store. -/
structure PortalPublicationSource.Countable (source : PortalPublicationSource) : Prop where
  links : source.links.length ≤ immersiveSnapshotLimits.maxLinks
  lookVersion : ∀ look, source.look = some look →
    look.lookVersion.isSafeInteger = true ∧ look.lookVersion.isAtLeast 1 = true

/-! ## What no blocker says -/

theorem Findings.blockers_concat (findings : List Findings) :
    (Findings.concat findings).blockers = findings.flatMap (·.blockers) := by
  induction findings with
  | nil => rfl
  | cons first later ih =>
      rw [List.flatMap_cons, ← ih]
      rfl

/-- A loop that found no blocker found none in any turn. -/
theorem Findings.blockers_of_concat {findings : List Findings}
    (h : (Findings.concat findings).blockers = []) {finding : Findings} (mem : finding ∈ findings) :
    finding.blockers = [] := by
  rw [blockers_concat, List.flatMap_eq_nil_iff] at h
  exact h finding mem

variable {platform : ResolverPlatform} {source : PortalPublicationSource}

/-- The parts of a source's findings. -/
theorem findings_of_no_blockers
    (unblocked : (resolvePortalPublication platform source).findings.blockers = []) :
    (∀ locale ∈ source.localeSet, (localizedContentOf source locale
        (brandProfileOf platform source).hero.isSome).2.blockers = []) ∧
      (∀ link ∈ source.links, ∀ locale ∈ source.localeSet,
        (linkTextIn link locale source.primaryGuestLocale).2.blockers = []) ∧
      isValidTimeZone platform.toReaderPlatform (source.timeZone.getD "") = true := by
  obtain ⟨hrest, hzone⟩ := List.append_eq_nil_iff.1 unblocked
  obtain ⟨hrest, hlinks⟩ := List.append_eq_nil_iff.1 hrest
  obtain ⟨-, hcontents⟩ := List.append_eq_nil_iff.1 hrest
  refine ⟨fun locale hlocale ↦ ?_, fun link hlink locale hlocale ↦ ?_, ?_⟩
  · apply Findings.blockers_of_concat hcontents
    rw [List.map_map]
    exact List.mem_map.2 ⟨locale, hlocale, rfl⟩
  · have hloop := Findings.blockers_of_concat hlinks (List.mem_map.2 ⟨link, hlink, rfl⟩)
    exact Findings.blockers_of_concat hloop (List.mem_map.2 ⟨locale, hlocale, rfl⟩)
  · by_contra hzoneInvalid
    rw [if_neg hzoneInvalid] at hzone
    cases hzone

theorem gapFinding_primary {text : Option PortalSnapshotText} {key : PublicationTextKey}
    (h : (gapFinding source source.primaryGuestLocale text key).blockers = []) : text ≠ none := by
  intro hnone
  unfold gapFinding at h
  rw [if_pos ⟨beq_self_eq_true _, hnone⟩] at h
  cases h

theorem isWritten_of_textIn {key : PublicationWording → Option String} {name : PublicationTextKey}
    (h : (textIn source source.primaryGuestLocale key name).1 ≠ none) :
    isWritten (writtenText source source.primaryGuestLocale key) = true := by
  have hspec := textIn_spec source source.primaryGuestLocale key name
  generalize textIn source source.primaryGuestLocale key name = answer at hspec h
  cases hspec with
  | own text written notBlank => exact isWritten_iff.2 ⟨text, written, notBlank⟩
  | copied _ different => exact absurd rfl different
  | missing => exact absurd rfl h

/-- A source without blockers has its title and its description in the primary language. -/
theorem primaryTexts_written
    (unblocked : (resolvePortalPublication platform source).findings.blockers = [])
    (mem : source.primaryGuestLocale ∈ source.localeSet) :
    isWritten (writtenText source source.primaryGuestLocale (·.title)) = true ∧
      isWritten (writtenText source source.primaryGuestLocale (·.shortDescription)) = true := by
  have hcontent := (findings_of_no_blockers unblocked).1 _ mem
  obtain ⟨-, hgaps⟩ := List.append_eq_nil_iff.1 hcontent
  obtain ⟨htitle, hdescription⟩ := List.append_eq_nil_iff.1 hgaps
  exact ⟨isWritten_of_textIn (gapFinding_primary htitle),
    isWritten_of_textIn (gapFinding_primary hdescription)⟩

/-- A link of a source without blockers has a label in every locale. -/
theorem linkTextIn_labelled
    (unblocked : (resolvePortalPublication platform source).findings.blockers = [])
    (mem : source.primaryGuestLocale ∈ source.localeSet) {link : PublicationLink}
    (hlink : link ∈ source.links) (locale : GuestLocale) :
    ∃ text sourceLocale, link.texts sourceLocale = some text ∧ isBlank text.label = false ∧
      ∃ fallbackFrom, (linkTextIn link locale source.primaryGuestLocale).1 =
        ⟨text.label, text.line, fallbackFrom⟩ := by
  have hprimary := (findings_of_no_blockers unblocked).2.1 link hlink _ mem
  have hspec := linkTextIn_spec link source.primaryGuestLocale source.primaryGuestLocale
  have hlabelled : labelledText link source.primaryGuestLocale ≠ none := by
    intro hnone
    generalize linkTextIn link source.primaryGuestLocale source.primaryGuestLocale = answer
      at hspec hprimary
    cases hspec with
    | own text written notBlank =>
        rw [labelledText, written] at hnone
        simp [notBlank] at hnone
    | copied _ different => exact absurd rfl different
    | missing =>
        have hblocks := beq_self_eq_true source.primaryGuestLocale
        rw [gapBlocksPublication, if_pos hblocks] at hprimary
        cases hprimary
  have hspec := linkTextIn_spec link locale source.primaryGuestLocale
  generalize linkTextIn link locale source.primaryGuestLocale = answer at hspec ⊢
  cases hspec with
  | own text written notBlank => exact ⟨text, locale, written, notBlank, none, rfl⟩
  | copied text _ written notBlank => exact ⟨text, _, written, notBlank, _, rfl⟩
  | missing primaryGap => exact absurd primaryGap hlabelled

/-! ## The reader's questions -/

/-- A record written for a duplicate-free locale set has exactly its members as keys. -/
theorem sameMembers_of_holds {α : Type} {localeSet : List GuestLocale} (nodup : localeSet.Nodup)
    {record : KeyedRecord GuestLocale α}
    (holds : ∀ locale, (record locale).isSome = true ↔ locale ∈ localeSet) :
    sameMembers (localeKeys record) localeSet = true := by
  unfold sameMembers
  rw [Bool.and_eq_true, decide_eq_true_eq, List.all_eq_true]
  refine ⟨KeyedRecord.length_keys (fun locale _ ↦ mem_guestLocales locale) guestLocales_nodup nodup
    holds, fun locale hlocale ↦ ?_⟩
  rw [List.contains_iff_mem, localeKeys, KeyedRecord.keys, List.mem_filter]
  exact ⟨mem_guestLocales locale, (holds locale).2 hlocale⟩

theorem isSome_ofEntries_map {α : Type} (f : GuestLocale → α) (localeSet : List GuestLocale)
    (locale : GuestLocale) :
    (KeyedRecord.ofEntries (localeSet.map fun l ↦ (l, f l)) locale).isSome = true ↔
      locale ∈ localeSet := by
  rw [KeyedRecord.ofEntries_map]
  by_cases mem : locale ∈ localeSet
  · simp [mem]
  · simp [mem]

/-- Every locale of the set gets its generation 2 pack. -/
theorem languagePacksOf_eq (localeSet : List GuestLocale) :
    (languagePacksOf localeSet).1 = .ofEntries (localeSet.map fun locale ↦
      (locale, (currentGuestLanguagePack locale 2).getD "")) := by
  have hentries : (localeSet.filterMap fun locale ↦
      (currentGuestLanguagePack locale 2).map fun pack ↦ (locale, pack)) =
      localeSet.map fun locale ↦ (locale, (currentGuestLanguagePack locale 2).getD "") := by
    rw [← List.filterMap_eq_map]
    apply List.filterMap_congr
    intro locale _
    obtain ⟨pack, hpack, -⟩ := currentGuestLanguagePack_two locale
    rw [Function.comp_apply, hpack]
    rfl
  rw [languagePacksOf, hentries]

/-- A derived field is a colour, and so is the one that stands in for it. -/
theorem matchesHexColour_derived
    (derives : ∀ accent field, platform.deriveFieldColour accent = some field →
      matchesHexColour field = true) (accent : String) :
    matchesHexColour ((platform.deriveFieldColour accent).getD defaultPortalField) = true := by
  cases hfield : platform.deriveFieldColour accent with
  | none => decide
  | some field => exact derives accent field hfield

section Accepted

variable {reader : ReaderPlatform} {destination : VerifiedPublicationDestination}
  {retrievedAt : Int} (inside : source.InsideReaderLimits reader)

include inside

theorem PortalPublicationSource.InsideReaderLimits.primary_mem :
    source.primaryGuestLocale ∈ source.localeSet :=
  List.mem_of_mem_head? inside.primaryFirst

theorem hasValidLocaleSet_of_inside :
    hasValidLocaleSet (publicationConfiguration source
      (resolvePortalPublication platform source).content destination retrievedAt) = true := by
  change (decide (1 ≤ source.localeSet.length) && decide source.localeSet.Nodup &&
    source.localeSet.all (fun locale ↦ guestLocales.contains locale) &&
    source.localeSet.head? == some source.primaryGuestLocale) = true
  have hlength : 1 ≤ source.localeSet.length := List.length_pos_of_mem inside.primary_mem
  have hcatalogue : (source.localeSet.all fun locale ↦ guestLocales.contains locale) = true := by
    rw [List.all_eq_true]
    intro locale _
    exact List.contains_iff_mem.2 (mem_guestLocales locale)
  rw [decide_eq_true hlength, decide_eq_true inside.localesUnique, hcatalogue,
    inside.primaryFirst]
  exact beq_self_eq_true _

theorem hasGenerationTwoPacks_of_inside :
    hasGenerationTwoPacks (publicationConfiguration source
      (resolvePortalPublication platform source).content destination retrievedAt) = true := by
  change (sameMembers (localeKeys (languagePacksOf source.localeSet).1) source.localeSet &&
    source.localeSet.all (fun locale ↦ ((languagePacksOf source.localeSet).1 locale).any
      fun version ↦ isSupportedGuestLanguagePack locale version 2) &&
    some (((languagePacksOf source.localeSet).1 source.primaryGuestLocale).getD "") ==
      (languagePacksOf source.localeSet).1 source.primaryGuestLocale) = true
  rw [languagePacksOf_eq]
  have hpacks := sameMembers_of_holds inside.localesUnique
    (isSome_ofEntries_map (fun locale ↦ (currentGuestLanguagePack locale 2).getD "")
      source.localeSet)
  have hsupported : (source.localeSet.all fun locale ↦
      (KeyedRecord.ofEntries (source.localeSet.map fun locale ↦
        (locale, (currentGuestLanguagePack locale 2).getD "")) locale).any
        fun version ↦ isSupportedGuestLanguagePack locale version 2) = true := by
    rw [List.all_eq_true]
    intro locale hlocale
    obtain ⟨pack, hpack, hsupported⟩ := currentGuestLanguagePack_two locale
    rw [KeyedRecord.ofEntries_map_of_mem _ hlocale, hpack]
    exact hsupported
  rw [hpacks, hsupported, KeyedRecord.ofEntries_map_of_mem _ inside.primary_mem]
  exact beq_self_eq_true _

/-- The wordings of a source are within the limit of a key. -/
theorem utf16Length_writtenText {key : PublicationWording → Option String} {limit : Nat}
    (within : ∀ wording : PublicationWording, wording.InsideReaderLimits →
      ∀ text, key wording = some text → utf16Length text ≤ limit)
    (locale : GuestLocale) (text : String) (h : writtenText source locale key = some text) :
    utf16Length text ≤ limit := by
  obtain ⟨wording, hwording, htext⟩ := Option.bind_eq_some_iff.1 h
  exact within wording (inside.wordings locale wording hwording) text htext

/-- A Linktree title is the locale's own, within the limit, and never blank. -/
theorem linktreeTitle_of_inside (locale : GuestLocale) (hasHero : Bool) :
    isBlank (localizedContentOf source locale hasHero).1.linktreeTitle.value = false ∧
      utf16Length (localizedContentOf source locale hasHero).1.linktreeTitle.value ≤
        immersiveSnapshotLimits.linktreeTitleLength := by
  unfold localizedContentOf own
  by_cases hwritten : isWritten (writtenText source locale (·.linktreeTitle)) = true
  · simp only [if_pos hwritten]
    obtain ⟨text, htext, hblank⟩ := isWritten_iff.1 hwritten
    rw [htext]
    exact ⟨hblank, utf16Length_writtenText inside (fun _ h ↦ h.linktreeTitle) locale text htext⟩
  · simp only [if_neg hwritten]
    exact linktreeDefaultTitle_bounded locale

/-- The texts of a locale are complete when the primary language has its own. -/
theorem isCompleteLocaleContent_of_inside
    (unblocked : (resolvePortalPublication platform source).findings.blockers = [])
    (locale : GuestLocale) (hasHero needsLinktreeTitle : Bool) :
    isCompleteLocaleContent (localizedContentOf source locale hasHero).1 needsLinktreeTitle =
      true := by
  obtain ⟨htitle, hdescription⟩ := primaryTexts_written unblocked inside.primary_mem
  have htitleText : isBlank (localizedContentOf source locale hasHero).1.title.value = false := by
    obtain ⟨text, htext, hblank⟩ := textIn_of_primary locale .title htitle
    change isBlank ((textIn source locale (·.title) .title).1.getD (own "")).value = false
    rw [htext]
    exact hblank
  have hdescriptionText :
      isBlank (localizedContentOf source locale hasHero).1.shortDescription.value = false := by
    obtain ⟨text, htext, hblank⟩ := textIn_of_primary locale .shortDescription hdescription
    change isBlank ((textIn source locale (·.shortDescription) .shortDescription).1.getD
      (own "")).value = false
    rw [htext]
    exact hblank
  have htitleLength : utf16Length (localizedContentOf source locale hasHero).1.title.value ≤
      immersiveSnapshotLimits.titleLength :=
    utf16Length_textIn (utf16Length_writtenText inside fun _ h ↦ h.title)
  have hdescriptionLength :
      utf16Length (localizedContentOf source locale hasHero).1.shortDescription.value ≤
        immersiveSnapshotLimits.shortDescriptionLength :=
    utf16Length_textIn (utf16Length_writtenText inside fun _ h ↦ h.shortDescription)
  have haltLength : utf16Length (localizedContentOf source locale hasHero).1.heroAlt.value ≤
      immersiveSnapshotLimits.heroAltLength := by
    unfold localizedContentOf
    by_cases halt : (hasHero &&
        isWritten (writtenText source source.primaryGuestLocale (·.heroAlt))) = true
    · simp only [if_pos halt]
      exact utf16Length_textIn (utf16Length_writtenText inside fun _ h ↦ h.heroAlt)
    · simp only [if_neg halt]
      exact Nat.zero_le _
  have hlinktree := linktreeTitle_of_inside inside locale hasHero
  unfold isCompleteLocaleContent isBoundedText
  simp only [htitleText, hdescriptionText, hlinktree.1, Bool.not_false, Bool.or_true, Bool.and_true, decide_eq_true htitleLength, decide_eq_true hdescriptionLength,
    decide_eq_true haltLength, decide_eq_true hlinktree.2]

/-- Every locale has its texts, and the copies are honest. -/
theorem hasCompleteContent_of_inside
    (unblocked : (resolvePortalPublication platform source).findings.blockers = []) :
    hasCompleteContent (publicationConfiguration source
      (resolvePortalPublication platform source).content destination retrievedAt) = true := by
  have hstored : (publicationConfiguration source (resolvePortalPublication platform source).content
      destination retrievedAt).localizedContent = .ofEntries (source.localeSet.map fun locale ↦
        (locale, (localizedContentOf source locale
          (brandProfileOf platform source).hero.isSome).1)) := by
    change KeyedRecord.ofEntries ((source.localeSet.map fun locale ↦
      (locale, localizedContentOf source locale (brandProfileOf platform source).hero.isSome)).map
        fun entry ↦ (entry.1, entry.2.1)) = _
    rw [List.map_map]
    rfl
  unfold hasCompleteContent
  rw [hstored]
  simp only [Bool.and_eq_true, List.all_eq_true]
  refine ⟨⟨sameMembers_of_holds inside.localesUnique (isSome_ofEntries_map _ source.localeSet),
    fun locale hlocale ↦ ?_⟩, fun text htext ↦ ?_⟩
  · have hmem : locale ∈ source.localeSet := hlocale
    rw [KeyedRecord.ofEntries_map_of_mem _ hmem]
    exact isCompleteLocaleContent_of_inside inside unblocked locale _ _
  · refine (localizedContentOf_honest source (brandProfileOf platform source).hero.isSome
      htext).fallbacksHold inside.primary_mem fun locale hlocale ↦ ?_
    rw [KeyedRecord.ofEntries_map_of_mem _ hlocale]
    rfl

/-- The links are distinct and complete, and their copies are honest. -/
theorem hasCompleteLinks_of_inside
    (unblocked : (resolvePortalPublication platform source).findings.blockers = [])
    (few : source.links.length ≤ immersiveSnapshotLimits.maxLinks) :
    hasCompleteLinks reader (publicationConfiguration source
      (resolvePortalPublication platform source).content destination retrievedAt) = true := by
  change (decide ((source.links.map (linkOf source)).length ≤ immersiveSnapshotLimits.maxLinks) &&
    decide ((source.links.map (linkOf source)).map (·.id)).Nodup &&
    (source.links.map (linkOf source)).all fun link ↦ isCompleteLink reader link source.localeSet &&
      fallbacksHold source.localeSet source.primaryGuestLocale fun locale ↦
        (link.texts locale).map ImmersiveLinkText.wording) = true
  have hids : (source.links.map (linkOf source)).map (·.id) = source.links.map (·.id) := by
    rw [List.map_map]
    rfl
  rw [List.length_map, hids, decide_eq_true few, decide_eq_true inside.linksUnique]
  simp only [Bool.true_and, List.all_eq_true, List.mem_map, forall_exists_index, and_imp,
    forall_apply_eq_imp_iff₂, Bool.and_eq_true]
  intro link hlink
  constructor
  · have hformed := inside.links link hlink
    have hmembers := sameMembers_of_holds inside.localesUnique (isSome_ofEntries_map
      (fun locale ↦ (linkTextIn link locale source.primaryGuestLocale).1) source.localeSet)
    have htexts : (source.localeSet.all fun locale ↦
        ((linkOf source link).texts locale).any isCompleteLinkText) = true := by
      rw [List.all_eq_true]
      intro locale hlocale
      change Option.any isCompleteLinkText (KeyedRecord.ofEntries _ locale) = true
      rw [KeyedRecord.ofEntries_map_of_mem _ hlocale, Option.any_some]
      obtain ⟨text, sourceLocale, htext, hblank, fallbackFrom, hresolved⟩ :=
        linkTextIn_labelled unblocked inside.primary_mem hlink locale
      have hlimits := inside.linkTexts link hlink sourceLocale text htext
      rw [hresolved, isCompleteLinkText, hblank, decide_eq_true hlimits.label]
      cases hline : text.line with
      | none => rfl
      | some line =>
          have hlimit := hlimits.line line hline
          simp [hlimit.1, hlimit.2]
    change (isBoundedId link.id && isLinkUrl reader link.url && link.iconKey.all matchesIconKey &&
      link.imageAssetId.all isBoundedId &&
      sameMembers (localeKeys (linkOf source link).texts) source.localeSet && _) = true
    rw [hformed.id, hformed.url, hformed.iconKey, hformed.imageAssetId, htexts]
    exact Bool.and_eq_true_iff.2 ⟨hmembers, rfl⟩
  · refine (linkTextIn_honest link source.primaryGuestLocale).fallbacksHold inside.primary_mem
      fun locale hlocale ↦ ?_
    change (KeyedRecord.ofEntries _ locale).map _ = _
    rw [KeyedRecord.ofEntries_map_of_mem _ hlocale]
    rfl

/-- The look is complete. -/
theorem isCompleteBrand_of_inside
    (derives : ∀ accent field, platform.deriveFieldColour accent = some field →
      matchesHexColour field = true) (countable : source.Countable) :
    isCompleteBrand (brandProfileOf platform source) = true := by
  unfold brandProfileOf
  cases hlook : source.look with
  | none =>
      have hname := inside.name hlook
      have hfield := matchesHexColour_derived derives defaultPortalAccent
      have haccent : matchesHexColour defaultPortalAccent = true := by decide
      have hversion : (JsNumber.finite 1).isSafeInteger = true := by decide
      have hpositive : (JsNumber.finite 1).isAtLeast 1 = true := by decide
      simp only [isCompleteBrand, hname, hfield, haccent, hversion, hpositive, Option.all_none,
        Bool.and_self]
  | some look =>
      have hinside := inside.look look hlook
      obtain ⟨hversion, hpositive⟩ := countable.lookVersion look hlook
      have hfield : matchesHexColour (fieldColourOf platform look.backgroundMode
          look.backgroundColour look.accentColour) = true := by
        unfold fieldColourOf
        cases hmode : look.backgroundMode with
        | manual => exact hinside.backgroundColour hmode
        | auto => exact matchesHexColour_derived derives look.accentColour
      simp only [isCompleteBrand, hinside.displayName, hinside.wordmark, hinside.logo,
        hinside.hero, hinside.accentColour, hfield, hversion, hpositive, Bool.and_self]

end Accepted

/-- A source that blocks nothing and keeps the limits resolves to a complete configuration. -/
theorem isComplete_of_inside {destination : VerifiedPublicationDestination} {retrievedAt : Int}
    (inside : source.InsideReaderLimits platform.toReaderPlatform)
    (derives : ∀ accent field, platform.deriveFieldColour accent = some field →
      matchesHexColour field = true) (countable : source.Countable)
    (unblocked : (resolvePortalPublication platform source).findings.blockers = []) :
    isCompleteImmersiveConfiguration platform.toReaderPlatform (publicationConfiguration source
      (resolvePortalPublication platform source).content destination retrievedAt) = true := by
  unfold isCompleteImmersiveConfiguration
  rw [hasValidLocaleSet_of_inside inside, hasGenerationTwoPacks_of_inside inside,
    hasCompleteContent_of_inside inside unblocked,
    hasCompleteLinks_of_inside inside unblocked countable.links]
  change (isCompleteBrand (brandProfileOf platform source) &&
    isValidTimeZone platform.toReaderPlatform (source.timeZone.getD "")) = true
  rw [isCompleteBrand_of_inside inside derives countable,
    (findings_of_no_blockers unblocked).2.2]
  rfl

end ReputationKey.Portal
