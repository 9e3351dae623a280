import ReputationKey.Portal.PageEdit

/-!
# Keys of the page-edit ledger read back

Every key that is written for a part of the page is read as that part, two changes of one kind never
share a key, and a key is read as a part of the page only when it is the one written for it.
-/

namespace ReputationKey.Portal

open Base Shared
open ReputationKey.Review (Text)

/-! ## The changes that are recorded -/

/-- A change of one part of the page. -/
inductive PageEdit
  | category (categoryId : PageId) (change : CategoryChange)
  | categoriesReordered
  | link (linkId : PageId) (change : LinkChange)
  | linksReordered (categoryId : PageId)
  | linkText (linkId : PageId) (locale : GuestLocale)
  | linkSectionTitle (locale : GuestLocale)
  | linkSectionSwitch
  | setting (field : PortalSettingField)
  | portalLook (facet : PortalLookFacet)
  | displayName
  | look (facet : LookFacet)
  | welcomeText (locale : GuestLocale)
  | photoAlt (locale : GuestLocale)
  | portalText (locale : GuestLocale)
  | destination (destinationId : PageId)

namespace PageEdit

def kind : PageEdit → PageEditKind
  | category .. | categoriesReordered | link .. | linksReordered _ | linkText .. | linkSectionTitle _
  | linkSectionSwitch => .portalLinks
  | setting _ | portalLook _ => .portalConfiguration
  | displayName | look _ => .propertyBrandProfile
  | welcomeText _ | photoAlt _ => .propertyBrandContent
  | portalText _ => .portalLocalizedOverride
  | destination _ => .approvedDestination

/-- The key that is written. -/
def key : PageEdit → Text
  | category categoryId change => PortalPageEditKey.category categoryId.text change
  | categoriesReordered => PortalPageEditKey.categoriesReordered
  | link linkId change => PortalPageEditKey.link linkId.text change
  | linksReordered categoryId => PortalPageEditKey.linksReordered categoryId.text
  | linkText linkId locale => PortalPageEditKey.linkText linkId.text locale
  | linkSectionTitle locale => PortalPageEditKey.linktreeTitle locale
  | linkSectionSwitch => PortalPageEditKey.linktreeEnabled
  | setting field => PortalPageEditKey.setting field
  | portalLook facet => PortalPageEditKey.portalLook facet
  | displayName => asciiText "all"
  | look facet => PortalPageEditKey.look facet.code
  | welcomeText locale => localeText locale
  | photoAlt locale => photoAltPageEditKey locale
  | portalText locale => localeText locale
  | destination destinationId => destinationId.text

/-- The part of the page that is changed. A photo's description is part of the photo, whatever its
language. -/
def subject : PageEdit → PageEditSubject
  | category categoryId change => .category categoryId.text change
  | categoriesReordered => .categoriesReordered
  | link linkId change => .link linkId.text change
  | linksReordered categoryId => .linksReordered categoryId.text
  | linkText linkId locale => .linkText linkId.text locale
  | linkSectionTitle locale => .linkSectionTitle locale
  | linkSectionSwitch => .linkSectionSwitch
  | setting field => .pageSettings (some field)
  | portalLook facet => .portalLook (some facet)
  | displayName => .displayName
  | look facet => .look (some facet)
  | welcomeText locale => .welcomeText (some locale)
  | photoAlt _ => .look (some .photo)
  | portalText locale => .portalText (some locale)
  | destination destinationId => .destination (some destinationId.text)

end PageEdit

/-- A subject that says exactly which part of the page it is. -/
def PageEditSubject.isSpecific : PageEditSubject → Bool
  | pageSettings field => field.isSome
  | look facet => facet.isSome
  | portalLook facet => facet.isSome
  | welcomeText locale | portalText locale => locale.isSome
  | destination destinationId => destinationId.isSome
  | links | profile => false
  | _ => true

/-! ## What the patterns match -/

theorem length_of_uuid {text : Text} {taken : List Text} (h : uuidPattern.Matches text taken) :
    text.length = 36 ∧ taken = [] := by
  simp only [uuidPattern, Pattern.matches_sequence_repeated, Pattern.matches_sequence_word,
    Pattern.matches_sequence_nil] at h
  obtain ⟨first, _, rfl, ⟨_, _, -⟩, _, rfl, second, _, rfl, ⟨_, _, -⟩, _, rfl, third, _, rfl, ⟨_, _, -⟩, _,
    rfl, fourth, _, rfl, ⟨_, _, -⟩, _, rfl, fifth, _, rfl, ⟨_, _, -⟩, rfl, rfl⟩ := h
  have dash : (asciiText "-").length = 1 := rfl
  simp only [List.length_append, dash, List.append_nil, and_true]
  omega

theorem matches_uuid {text : Text} {taken : List Text} :
    uuidPattern.Matches text taken ↔ isPageId text = true ∧ taken = [] := by
  rw [isPageId, Pattern.isSome_exec_iff]
  constructor
  · intro h
    exact ⟨⟨taken, h⟩, (length_of_uuid h).2⟩
  · rintro ⟨⟨taken, h⟩, rfl⟩
    exact (length_of_uuid h).2 ▸ h

theorem PageId.length_text (id : PageId) : id.text.length = 36 :=
  (length_of_uuid (matches_uuid.2 ⟨id.uuid, rfl⟩)).1

/-- What a key with a UUID in it takes: the UUID first. -/
theorem matches_id_sequence {front key : Text} {patterns : List (Pattern UInt16)} {taken : List Text} :
    (Pattern.sequence (.word front :: .group uuidPattern :: patterns)).Matches key taken ↔
      ∃ (id : PageId) (back : Text) (takenNext : List Text), key = front ++ id.text ++ back ∧
        taken = id.text :: takenNext ∧ (Pattern.sequence patterns).Matches back takenNext := by
  simp only [Pattern.matches_sequence_word, Pattern.matches_sequence_group, matches_uuid]
  constructor
  · rintro ⟨_, rfl, id, back, _, takenNext, rfl, rfl, ⟨uuid, rfl⟩, matched⟩
    exact ⟨⟨id, uuid⟩, back, takenNext, by simp, rfl, matched⟩
  · rintro ⟨id, back, takenNext, rfl, rfl, matched⟩
    exact ⟨_, by simp, id.text, back, [], takenNext, rfl, rfl, ⟨id.uuid, rfl⟩, matched⟩

theorem matches_linkTextKey {key : Text} {taken : List Text} :
    linkTextKey.Matches key taken ↔ ∃ (id : PageId) (code : Text),
      key = asciiText "link:" ++ id.text ++ (asciiText ":text:" ++ code) ∧ taken = [id.text, code] ∧
        2 ≤ code.length ∧ code.length ≤ 3 ∧ ∀ unit ∈ code, isLowerUnit unit = true := by
  rw [linkTextKey, matches_id_sequence]
  simp only [localePattern, Pattern.matches_sequence_word, Pattern.matches_sequence_group,
    Pattern.matches_repeated, Pattern.matches_sequence_nil]
  constructor
  · rintro ⟨id, _, _, rfl, rfl, _, rfl, code, _, _, _, rfl, rfl, ⟨run, rfl⟩, rfl, rfl⟩
    exact ⟨id, code, by simp, rfl, run⟩
  · rintro ⟨id, code, rfl, rfl, run⟩
    exact ⟨id, _, _, rfl, rfl, code, rfl, code, [], [], [], by simp, rfl, ⟨run, rfl⟩, rfl, rfl⟩

theorem matches_linktreeTitleKey {key : Text} {taken : List Text} :
    linktreeTitleKey.Matches key taken ↔ ∃ code : Text,
      key = asciiText "linktree:title:" ++ code ∧ taken = [code] ∧
        2 ≤ code.length ∧ code.length ≤ 3 ∧ ∀ unit ∈ code, isLowerUnit unit = true := by
  simp only [linktreeTitleKey, localePattern, Pattern.matches_sequence_word,
    Pattern.matches_sequence_group, Pattern.matches_repeated, Pattern.matches_sequence_nil]
  constructor
  · rintro ⟨_, rfl, code, _, _, _, rfl, rfl, ⟨run, rfl⟩, rfl, rfl⟩
    exact ⟨code, by simp, rfl, run⟩
  · rintro ⟨code, rfl, rfl, run⟩
    exact ⟨code, rfl, code, [], [], [], by simp, rfl, ⟨run, rfl⟩, rfl, rfl⟩

/-- A key of a UUID and one of the words after a colon. -/
theorem matches_changeKey {front key : Text} {words : List Text} {taken : List Text} :
    (Pattern.sequence [.word front, .group uuidPattern, .word (asciiText ":"),
      .group (.oneOf words)]).Matches key taken ↔ ∃ (id : PageId) (change : Text),
        key = front ++ id.text ++ (asciiText ":" ++ change) ∧ taken = [id.text, change] ∧
          change ∈ words := by
  rw [matches_id_sequence]
  simp only [Pattern.matches_sequence_word, Pattern.matches_sequence_group, Pattern.matches_oneOf,
    Pattern.matches_sequence_nil]
  constructor
  · rintro ⟨id, _, _, rfl, rfl, _, rfl, change, _, _, _, rfl, rfl, ⟨member, rfl⟩, rfl, rfl⟩
    exact ⟨id, change, by simp, rfl, member⟩
  · rintro ⟨id, change, rfl, rfl, member⟩
    exact ⟨id, _, _, rfl, rfl, change, rfl, change, [], [], [], by simp, rfl, ⟨member, rfl⟩, rfl, rfl⟩

theorem matches_linksReorderedKey {key : Text} {taken : List Text} :
    linksReorderedKey.Matches key taken ↔ ∃ id : PageId,
      key = asciiText "links:" ++ id.text ++ asciiText ":reordered" ∧ taken = [id.text] := by
  rw [linksReorderedKey, matches_id_sequence]
  simp only [Pattern.matches_sequence_word, Pattern.matches_sequence_nil]
  constructor
  · rintro ⟨id, _, _, rfl, rfl, _, rfl, rfl, rfl⟩
    exact ⟨id, by simp, rfl⟩
  · rintro ⟨id, rfl, rfl⟩
    exact ⟨id, _, _, rfl, rfl, [], by simp, rfl, rfl⟩

/-! ## Lookups -/

/-- A locale is found by its code. -/
theorem localeOrNull_eq_some_iff {text : Text} {locale : GuestLocale} :
    localeOrNull (some text) = some locale ↔ text = localeText locale := by
  simp only [localeOrNull, Option.bind_some]
  constructor
  · intro h
    simpa using List.find?_some h
  · rintro rfl
    cases locale <;> decide

theorem find_linkChange (change : LinkChange) :
    (linkChanges.find? fun candidate ↦ decide (change.text = candidate.text)) = some change := by
  cases change <;> decide

theorem find_categoryChange (change : CategoryChange) :
    (categoryChanges.find? fun candidate ↦ decide (change.text = candidate.text)) = some change := by
  cases change <;> decide

/-! ## What is read was written -/

/-- A key of the links is read as the part it was written for, or as the links at large. -/
theorem describeLinksEdit_sound (key : Text) :
    describeLinksEdit key = .links ∨ ∃ edit : PageEdit, edit.kind = .portalLinks ∧ edit.key = key ∧
      edit.subject = describeLinksEdit key := by
  by_cases enabled : key = PortalPageEditKey.linktreeEnabled
  · exact Or.inr ⟨.linkSectionSwitch, rfl, enabled.symm, by rw [describeLinksEdit, if_pos enabled]; rfl⟩
  by_cases reordered : key = PortalPageEditKey.categoriesReordered
  · exact Or.inr ⟨.categoriesReordered, rfl, reordered.symm,
      by rw [describeLinksEdit, if_neg enabled, if_pos reordered]; rfl⟩
  simp only [describeLinksEdit, if_neg enabled, if_neg reordered]
  split
  · next linkId locale foundId foundLocale =>
    cases found : linkTextKey.exec key with
    | none => simp [found, captured] at foundId
    | some taken =>
        obtain ⟨id, code, written, rfl, -⟩ := matches_linkTextKey.1 (Pattern.matches_of_exec found)
        rw [found] at foundId foundLocale
        obtain rfl : id.text = linkId := Option.some.inj foundId
        obtain rfl : code = localeText locale := localeOrNull_eq_some_iff.1 foundLocale
        refine Or.inr ⟨.linkText id locale, rfl, ?_, rfl⟩
        rw [written]
        simp [PageEdit.key, PortalPageEditKey.linkText]
  split
  · next locale foundLocale =>
    cases found : linktreeTitleKey.exec key with
    | none => simp [found, captured, localeOrNull] at foundLocale
    | some taken =>
        obtain ⟨code, written, rfl, -⟩ := matches_linktreeTitleKey.1 (Pattern.matches_of_exec found)
        rw [found] at foundLocale
        obtain rfl : code = localeText locale := localeOrNull_eq_some_iff.1 foundLocale
        exact Or.inr ⟨.linkSectionTitle locale, rfl, written.symm, rfl⟩
  split
  · next linkId change foundId foundChange =>
    cases found : linkKey.exec key with
    | none => simp [found, captured] at foundId
    | some taken =>
        obtain ⟨id, word, written, rfl, -⟩ := matches_changeKey.1 (Pattern.matches_of_exec found)
        rw [found] at foundId foundChange
        obtain rfl : id.text = linkId := Option.some.inj foundId
        obtain rfl : word = change.text := by simpa using List.find?_some foundChange
        refine Or.inr ⟨.link id change, rfl, ?_, rfl⟩
        rw [written]
        simp [PageEdit.key, PortalPageEditKey.link]
  split
  · next categoryId change foundId foundChange =>
    cases found : categoryKey.exec key with
    | none => simp [found, captured] at foundId
    | some taken =>
        obtain ⟨id, word, written, rfl, -⟩ := matches_changeKey.1 (Pattern.matches_of_exec found)
        rw [found] at foundId foundChange
        obtain rfl : id.text = categoryId := Option.some.inj foundId
        obtain rfl : word = change.text := by simpa using List.find?_some foundChange
        refine Or.inr ⟨.category id change, rfl, ?_, rfl⟩
        rw [written]
        simp [PageEdit.key, PortalPageEditKey.category]
  split
  · next categoryId foundId =>
    cases found : linksReorderedKey.exec key with
    | none => simp [found, captured] at foundId
    | some taken =>
        obtain ⟨id, written, rfl⟩ := matches_linksReorderedKey.1 (Pattern.matches_of_exec found)
        rw [found] at foundId
        obtain rfl : id.text = categoryId := Option.some.inj foundId
        exact Or.inr ⟨.linksReordered id, rfl, written.symm, rfl⟩
  · exact Or.inl rfl

/-- A key of the settings. -/
theorem describeSettingsEdit_sound {key : Text} (h : (describeSettingsEdit key).isSpecific = true) :
    ∃ edit : PageEdit, edit.kind = .portalConfiguration ∧ edit.key = key ∧
      edit.subject = describeSettingsEdit key := by
  simp only [describeSettingsEdit] at h ⊢
  split at h
  · next look =>
    rw [if_pos look]
    obtain ⟨facet, found⟩ := Option.isSome_iff_exists.1 h
    have written : key = PortalPageEditKey.portalLook facet := by simpa using List.find?_some found
    exact ⟨.portalLook facet, rfl, written.symm, by rw [found]; rfl⟩
  · next look =>
    rw [if_neg look]
    obtain ⟨field, found⟩ := Option.isSome_iff_exists.1 h
    have written : key = PortalPageEditKey.setting field := by simpa using List.find?_some found
    exact ⟨.setting field, rfl, written.symm, by rw [found]; rfl⟩

/-- A key of the Property's look. -/
theorem describeProfileEdit_sound {key : Text} (h : (describeProfileEdit key).isSpecific = true) :
    ∃ edit : PageEdit, edit.kind = .propertyBrandProfile ∧ edit.key = key ∧
      edit.subject = describeProfileEdit key := by
  by_cases all : key = asciiText "all"
  · exact ⟨.displayName, rfl, all.symm, by rw [describeProfileEdit, if_pos all]; rfl⟩
  simp only [describeProfileEdit, if_neg all] at h ⊢
  split at h
  · contradiction
  · next look =>
    rw [if_neg look]
    obtain ⟨facet, found⟩ := Option.isSome_iff_exists.1 h
    have written : key = PortalPageEditKey.look facet.code := by simpa using List.find?_some found
    exact ⟨.look facet, rfl, written.symm, by rw [found]; rfl⟩

/-- A key is read as a specific part of the page only when it is the one written for it, a photo's
description apart. -/
theorem describePageEdit_sound {kind : PageEditKind} {key : Text}
    (specific : (describePageEdit kind key).isSpecific = true)
    (noPhoto : kind = .propertyBrandContent → describePageEdit kind key ≠ .look (some .photo)) :
    ∃ edit : PageEdit, edit.kind = kind ∧ edit.key = key ∧ edit.subject = describePageEdit kind key := by
  cases kind with
  | portalConfiguration => exact describeSettingsEdit_sound specific
  | portalLinks =>
      rcases describeLinksEdit_sound key with general | found
      · rw [describePageEdit, general] at specific
        contradiction
      · exact found
  | propertyBrandProfile => exact describeProfileEdit_sound specific
  | propertyBrandContent =>
      simp only [describePageEdit, describeContentEdit] at specific noPhoto ⊢
      split at specific
      · next photo => simp [photo] at noPhoto
      · next photo =>
        rw [if_neg photo]
        obtain ⟨locale, found⟩ := Option.isSome_iff_exists.1 specific
        exact ⟨.welcomeText locale, rfl, (localeOrNull_eq_some_iff.1 found).symm, by rw [found]; rfl⟩
  | portalLocalizedOverride =>
      obtain ⟨locale, found⟩ := Option.isSome_iff_exists.1 specific
      exact ⟨.portalText locale, rfl, (localeOrNull_eq_some_iff.1 found).symm,
        by rw [describePageEdit, found]; rfl⟩
  | approvedDestination =>
      simp only [describePageEdit] at specific ⊢
      split at specific
      · next uuid => exact ⟨.destination ⟨key, uuid⟩, rfl, rfl, by rw [if_pos uuid]; rfl⟩
      · contradiction

/-! ## What is written is read -/

/-- How the keys of the links begin. -/
inductive LinkFront
  | category
  | categories
  | link
  | links
  | title
  | enabled
  deriving DecidableEq

def LinkFront.text : LinkFront → Text
  | category => asciiText "category:"
  | categories => asciiText "categories:reordered"
  | link => asciiText "link:"
  | links => asciiText "links:"
  | title => asciiText "linktree:title:"
  | enabled => asciiText "linktree:enabled"

/-- No beginning of a key goes on as another one. -/
theorem LinkFront.apart {front other : LinkFront}
    (h : front.text.take (min front.text.length other.text.length) =
      other.text.take (min front.text.length other.text.length)) : front = other := by
  cases front <;> cases other <;> first | rfl | exact absurd h (by decide)

theorem eq_of_front {front other : LinkFront} {back more : Text}
    (h : front.text ++ back = other.text ++ more) : front = other ∧ back = more := by
  have shared := congrArg (List.take (min front.text.length other.text.length)) h
  rw [List.take_append_of_le_length (Nat.min_le_left ..),
    List.take_append_of_le_length (Nat.min_le_right ..)] at shared
  obtain rfl := LinkFront.apart shared
  exact ⟨rfl, List.append_cancel_left h⟩

/-- Texts after two identifiers are told apart behind them. -/
theorem eq_of_id {id other : PageId} {rest more : Text} (h : id.text ++ rest = other.text ++ more) :
    id = other ∧ rest = more := by
  obtain ⟨same, rest⟩ := List.append_inj h (by rw [id.length_text, other.length_text])
  cases id
  cases other
  exact ⟨by congr, rest⟩

theorem LinkChange.text_injective {change other : LinkChange} (h : change.text = other.text) :
    change = other := by
  have found := find_linkChange change
  rw [h, find_linkChange] at found
  exact (Option.some.inj found).symm

theorem CategoryChange.text_injective {change other : CategoryChange} (h : change.text = other.text) :
    change = other := by
  have found := find_categoryChange change
  rw [h, find_categoryChange] at found
  exact (Option.some.inj found).symm

theorem localeText_injective {locale other : GuestLocale} (h : localeText locale = localeText other) :
    locale = other :=
  Option.some.inj ((localeOrNull_eq_some_iff.2 rfl).symm.trans (localeOrNull_eq_some_iff.2 h))

/-- Where a key of the links begins, and how it goes on. -/
def PageEdit.linkParts : PageEdit → LinkFront × Text
  | category categoryId change => (.category, categoryId.text ++ (asciiText ":" ++ change.text))
  | categoriesReordered => (.categories, [])
  | link linkId change => (.link, linkId.text ++ (asciiText ":" ++ change.text))
  | linksReordered categoryId => (.links, categoryId.text ++ asciiText ":reordered")
  | linkText linkId locale => (.link, linkId.text ++ (asciiText ":text:" ++ localeText locale))
  | linkSectionTitle locale => (.title, localeText locale)
  | linkSectionSwitch => (.enabled, [])
  | edit => (.enabled, edit.key)

theorem key_eq_linkParts {edit : PageEdit} (h : edit.kind = .portalLinks) :
    edit.key = edit.linkParts.1.text ++ edit.linkParts.2 := by
  cases edit with
  | category => simp [PageEdit.key, PageEdit.linkParts, PortalPageEditKey.category, LinkFront.text]
  | categoriesReordered => rfl
  | link => simp [PageEdit.key, PageEdit.linkParts, PortalPageEditKey.link, LinkFront.text]
  | linksReordered =>
      simp [PageEdit.key, PageEdit.linkParts, PortalPageEditKey.linksReordered, LinkFront.text]
  | linkText => simp [PageEdit.key, PageEdit.linkParts, PortalPageEditKey.linkText, LinkFront.text]
  | linkSectionTitle => rfl
  | linkSectionSwitch => rfl
  | _ => nomatch h

/-- The wording of a link is no change of the link as such. -/
theorem change_ne_text (change : LinkChange) (locale : GuestLocale) :
    asciiText ":" ++ change.text ≠ asciiText ":text:" ++ localeText locale := by
  cases change <;> cases locale <;> decide

/-- Two changes of the links never share a key. -/
theorem eq_of_link_key {edit other : PageEdit} (links : edit.kind = .portalLinks)
    (linksToo : other.kind = .portalLinks) (h : edit.key = other.key) : edit = other := by
  rw [key_eq_linkParts links, key_eq_linkParts linksToo] at h
  obtain ⟨front, back⟩ := eq_of_front h
  cases edit with
  | category categoryId change =>
      cases other with
      | category otherId otherChange =>
          obtain ⟨rfl, word⟩ := eq_of_id back
          rw [CategoryChange.text_injective (List.append_cancel_left word)]
      | _ => cases front
  | categoriesReordered =>
      cases other with
      | categoriesReordered => rfl
      | _ => cases front
  | link linkId change =>
      cases other with
      | link otherId otherChange =>
          obtain ⟨rfl, word⟩ := eq_of_id back
          rw [LinkChange.text_injective (List.append_cancel_left word)]
      | linkText otherId locale => exact absurd (eq_of_id back).2 (change_ne_text change locale)
      | _ => cases front
  | linksReordered categoryId =>
      cases other with
      | linksReordered otherId => rw [(eq_of_id back).1]
      | _ => cases front
  | linkText linkId locale =>
      cases other with
      | linkText otherId otherLocale =>
          obtain ⟨rfl, word⟩ := eq_of_id back
          rw [localeText_injective (List.append_cancel_left word)]
      | link otherId change => exact absurd (eq_of_id back).2.symm (change_ne_text change locale)
      | _ => cases front
  | linkSectionTitle locale =>
      cases other with
      | linkSectionTitle otherLocale => rw [localeText_injective back]
      | _ => cases front
  | linkSectionSwitch =>
      cases other with
      | linkSectionSwitch => rfl
      | _ => first | (cases linksToo; done) | cases front
  | _ => nomatch links

/-- What no pattern took when a key is read as the links at large. -/
theorem unmatched_of_links {key : Text} (h : describeLinksEdit key = .links) :
    (∀ linkId locale, captured (linkTextKey.exec key) 1 = some linkId →
      localeOrNull (captured (linkTextKey.exec key) 2) = some locale → False) ∧
    (∀ locale, localeOrNull (captured (linktreeTitleKey.exec key) 1) = some locale → False) ∧
    (∀ linkId change, captured (linkKey.exec key) 1 = some linkId →
      ((captured (linkKey.exec key) 2).bind fun change ↦
        linkChanges.find? fun candidate ↦ decide (change = candidate.text)) = some change → False) ∧
    (∀ categoryId change, captured (categoryKey.exec key) 1 = some categoryId →
      ((captured (categoryKey.exec key) 2).bind fun change ↦
        categoryChanges.find? fun candidate ↦ decide (change = candidate.text)) = some change → False) ∧
    ∀ categoryId, captured (linksReorderedKey.exec key) 1 = some categoryId → False := by
  simp only [describeLinksEdit] at h
  split at h
  · contradiction
  split at h
  · contradiction
  split at h
  · contradiction
  next noText =>
  split at h
  · contradiction
  next noTitle =>
  split at h
  · contradiction
  next noLink =>
  split at h
  · contradiction
  next noCategory =>
  split at h
  · contradiction
  next noOrder =>
  exact ⟨noText, fun locale found ↦ by simp [found] at noTitle, noLink, noCategory,
    fun categoryId found ↦ by simp [found] at noOrder⟩

/-- What is taken of a key that is an identifier between two texts. -/
theorem back_eq_of_id {front : Text} {id other : PageId} {back more : Text}
    (h : front ++ id.text ++ back = front ++ other.text ++ more) : id = other ∧ back = more := by
  rw [List.append_assoc, List.append_assoc] at h
  exact eq_of_id (List.append_cancel_left h)

/-- A key of the links is not read as the links at large. -/
theorem describeLinksEdit_ne_links {edit : PageEdit} (links : edit.kind = .portalLinks) :
    describeLinksEdit edit.key ≠ .links := by
  intro general
  obtain ⟨noText, noTitle, noLink, noCategory, noOrder⟩ := unmatched_of_links general
  cases edit with
  | categoriesReordered => exact absurd general (by decide)
  | linkSectionSwitch => exact absurd general (by decide)
  | linkSectionTitle locale => cases locale <;> exact absurd general (by decide +kernel)
  | linkText linkId locale =>
      have lower : 2 ≤ (localeText locale).length ∧ (localeText locale).length ≤ 3 ∧
          ∀ unit ∈ localeText locale, isLowerUnit unit = true := by
        cases locale <;> exact ⟨by decide, by decide, List.all_eq_true.1 (by decide)⟩
      have written : (PageEdit.linkText linkId locale).key =
          asciiText "link:" ++ linkId.text ++ (asciiText ":text:" ++ localeText locale) := by
        simp [PageEdit.key, PortalPageEditKey.linkText]
      obtain ⟨taken, found⟩ := Option.isSome_iff_exists.1 (Pattern.isSome_exec_iff.2
        ⟨_, matches_linkTextKey.2 ⟨linkId, localeText locale, written, rfl, lower⟩⟩)
      obtain ⟨id, code, read, rfl, -⟩ := matches_linkTextKey.1 (Pattern.matches_of_exec found)
      obtain ⟨-, back⟩ := back_eq_of_id (written.symm.trans read)
      obtain rfl : localeText locale = code := List.append_cancel_left back
      rw [found] at noText
      exact noText _ locale rfl (localeOrNull_eq_some_iff.2 rfl)
  | link linkId change =>
      have written : (PageEdit.link linkId change).key =
          asciiText "link:" ++ linkId.text ++ (asciiText ":" ++ change.text) := by
        simp [PageEdit.key, PortalPageEditKey.link]
      have listed : change.text ∈ linkChanges.map (·.text) :=
        List.mem_map_of_mem (List.mem_of_find?_eq_some (find_linkChange change))
      obtain ⟨taken, found⟩ := Option.isSome_iff_exists.1 (Pattern.isSome_exec_iff.2
        ⟨_, matches_changeKey.2 ⟨linkId, change.text, written, rfl, listed⟩⟩)
      obtain ⟨id, word, read, rfl, -⟩ := matches_changeKey.1 (Pattern.matches_of_exec found)
      obtain ⟨-, back⟩ := back_eq_of_id (written.symm.trans read)
      obtain rfl : change.text = word := List.append_cancel_left back
      rw [linkKey, found] at noLink
      exact noLink _ change rfl (find_linkChange change)
  | category categoryId change =>
      have written : (PageEdit.category categoryId change).key =
          asciiText "category:" ++ categoryId.text ++ (asciiText ":" ++ change.text) := by
        simp [PageEdit.key, PortalPageEditKey.category]
      have listed : change.text ∈ categoryChanges.map (·.text) :=
        List.mem_map_of_mem (List.mem_of_find?_eq_some (find_categoryChange change))
      obtain ⟨taken, found⟩ := Option.isSome_iff_exists.1 (Pattern.isSome_exec_iff.2
        ⟨_, matches_changeKey.2 ⟨categoryId, change.text, written, rfl, listed⟩⟩)
      obtain ⟨id, word, read, rfl, -⟩ := matches_changeKey.1 (Pattern.matches_of_exec found)
      obtain ⟨-, back⟩ := back_eq_of_id (written.symm.trans read)
      obtain rfl : change.text = word := List.append_cancel_left back
      rw [categoryKey, found] at noCategory
      exact noCategory _ change rfl (find_categoryChange change)
  | linksReordered categoryId =>
      obtain ⟨taken, found⟩ := Option.isSome_iff_exists.1 (Pattern.isSome_exec_iff.2
        ⟨_, matches_linksReorderedKey.2 ⟨categoryId, rfl, rfl⟩⟩)
      obtain ⟨id, -, rfl⟩ := matches_linksReorderedKey.1 (Pattern.matches_of_exec found)
      have taken : captured (linksReorderedKey.exec (PageEdit.linksReordered categoryId).key) 1 =
          some id.text := by
        rw [PageEdit.key, PortalPageEditKey.linksReordered, found]
        rfl
      exact noOrder _ taken
  | _ => nomatch links

/-- Every key is read as the part it was written for. -/
theorem describePageEdit_key (edit : PageEdit) : describePageEdit edit.kind edit.key = edit.subject := by
  by_cases links : edit.kind = .portalLinks
  · rw [links]
    rcases describeLinksEdit_sound edit.key with general | ⟨other, linksToo, same, subject⟩
    · exact absurd general (describeLinksEdit_ne_links links)
    · rw [describePageEdit, ← subject, eq_of_link_key linksToo links same]
  · cases edit with
    | setting field => cases field <;> decide
    | portalLook facet => cases facet <;> decide
    | displayName => decide
    | look facet => cases facet <;> decide
    | welcomeText locale => cases locale <;> decide
    | photoAlt locale => cases locale <;> decide
    | portalText locale => cases locale <;> decide
    | destination destinationId =>
        simp [PageEdit.kind, PageEdit.key, PageEdit.subject, describePageEdit, destinationId.uuid]
    | _ => exact absurd rfl links

/-- Two different changes of one kind never share a key. -/
theorem eq_of_key {edit other : PageEdit} (kind : edit.kind = other.kind) (h : edit.key = other.key) :
    edit = other := by
  by_cases links : edit.kind = .portalLinks
  · exact eq_of_link_key links (kind ▸ links) h
  have subject : edit.subject = other.subject := by
    rw [← describePageEdit_key, ← describePageEdit_key, kind, h]
  cases edit with
  | setting field =>
      cases other with
      | setting otherField => simpa [PageEdit.subject] using subject
      | _ => cases subject
  | portalLook facet =>
      cases other with
      | portalLook otherFacet => simpa [PageEdit.subject] using subject
      | _ => cases subject
  | displayName =>
      cases other with
      | displayName => rfl
      | _ => cases subject
  | look facet =>
      cases other with
      | look otherFacet => simpa [PageEdit.subject] using subject
      | _ => first | (cases kind; done) | cases subject
  | welcomeText locale =>
      cases other with
      | welcomeText otherLocale => simpa [PageEdit.subject] using subject
      | _ => cases subject
  | photoAlt locale =>
      cases other with
      | photoAlt otherLocale => rw [localeText_injective (List.append_cancel_left h)]
      | _ => first | (cases kind; done) | cases subject
  | portalText locale =>
      cases other with
      | portalText otherLocale => simpa [PageEdit.subject] using subject
      | _ => cases subject
  | destination destinationId =>
      cases other with
      | destination otherId => rw [(eq_of_id (congrArg (· ++ []) h)).1]
      | _ => cases subject
  | _ => exact absurd rfl links

/-- The key written for a change of the page is read as exactly that part, two different changes of
one kind have different keys, and whatever text is read as a specific part of the page is the key
written for it, a photo's description apart, whose language is not read. -/
theorem page_edit_keys_read_back :
    (∀ edit : PageEdit, describePageEdit edit.kind edit.key = edit.subject) ∧
    (∀ edit other : PageEdit, edit.kind = other.kind → edit.key = other.key → edit = other) ∧
    ∀ (kind : PageEditKind) (key : Text), (describePageEdit kind key).isSpecific = true →
      (kind = .propertyBrandContent → describePageEdit kind key ≠ .look (some .photo)) →
        ∃ edit : PageEdit, edit.kind = kind ∧ edit.key = key ∧
          edit.subject = describePageEdit kind key :=
  ⟨describePageEdit_key, fun _ _ ↦ eq_of_key, fun _ _ ↦ describePageEdit_sound⟩

end ReputationKey.Portal
