import ReputationKey.Portal.PublicationContent
import Mathlib.Data.List.Perm.Subperm

/-!
# A version comparison misses nothing

Every difference between two complete views shows up in one of the comparers, and comparing the other
way round gives the opposite changes, named from the other version.
-/

namespace ReputationKey.Portal

open ReputationKey.Base ReputationKey.Shared

/-! ## Complete views -/

/-- What a complete configuration's view is like: each language of the page has its texts, and only
those. -/
structure CompleteView (view : PublicationContentView) : Prop where
  schemaVersion : view.schemaVersion = immersiveHubSchemaVersion
  surface : view.surface = .immersive
  locales : view.locales.Nodup
  primaryLocale : view.primaryLocale ∈ view.locales
  linkIds : (view.links.map (·.id)).Nodup
  linkLabel : ∀ link ∈ view.links,
    (link.texts view.primaryLocale).map (·.label) = some link.label
  linkPhoto : ∀ link ∈ view.links, link.hasPhoto = link.photoId.isSome
  linkTexts : ∀ link ∈ view.links, ∀ locale, (link.texts locale).isSome = true ↔ locale ∈ view.locales
  linktreeEnabled : view.linktreeEnabled.isSome = true
  wording : ∀ locale, (view.wording locale).isSome = true ↔ locale ∈ view.locales
  description : ∀ locale wording, view.wording locale = some wording → wording.description = none
  photoDescriptions : ∀ locale, (view.photoDescriptions locale).isSome = true ↔ locale ∈ view.locales
  linktreeTitles : ∀ locale, (view.linktreeTitles locale).isSome = true ↔ locale ∈ view.locales
  previewTexts : ∀ locale, (view.previewTexts locale).isSome = true ↔ locale ∈ view.locales
  heroPhotos : view.heroPhotos = KeyedRecord.empty
  headings : view.headings = []

/-- The keys of a record that are the members of a set of locales. -/
theorem isSome_iff_of_sameMembers {α : Type} {record : KeyedRecord GuestLocale α}
    {localeSet : List GuestLocale} (nodup : localeSet.Nodup)
    (same : sameMembers (localeKeys record) localeSet = true) (locale : GuestLocale) :
    (record locale).isSome = true ↔ locale ∈ localeSet := by
  rw [sameMembers, Bool.and_eq_true, decide_eq_true_eq, List.all_eq_true] at same
  obtain ⟨hlength, hall⟩ := same
  have hsub : localeSet ⊆ localeKeys record := fun l hl ↦ List.contains_iff_mem.1 (hall l hl)
  have hperm := (nodup.subperm hsub).perm_of_length_le hlength.le
  rw [hperm.mem_iff, localeKeys, KeyedRecord.keys, List.mem_filter]
  exact ⟨fun h ↦ ⟨mem_guestLocales locale, h⟩, fun h ↦ h.2⟩

variable {platform : ReaderPlatform} (numberText : JsNumber → String)

/-- The view of a complete configuration is complete. -/
theorem completeView_of_complete {configuration : ImmersiveConfiguration}
    (complete : isCompleteImmersiveConfiguration platform configuration = true) :
    CompleteView (immersiveView numberText configuration) := by
  simp only [isCompleteImmersiveConfiguration, Bool.and_eq_true] at complete
  obtain ⟨⟨⟨⟨⟨hlocales, -⟩, hcontent⟩, hlinks⟩, -⟩, -⟩ := complete
  simp only [hasValidLocaleSet, Bool.and_eq_true, decide_eq_true_eq, beq_iff_eq] at hlocales
  obtain ⟨⟨⟨-, hnodup⟩, -⟩, hhead⟩ := hlocales
  simp only [hasCompleteContent, Bool.and_eq_true] at hcontent
  have htexts := isSome_iff_of_sameMembers hnodup hcontent.1.1
  simp only [hasCompleteLinks, Bool.and_eq_true, decide_eq_true_eq, List.all_eq_true] at hlinks
  obtain ⟨⟨-, hids⟩, heach⟩ := hlinks
  have hprimary : configuration.guestLocale ∈ configuration.localeSet := List.mem_of_head? hhead
  have hlinkTexts : ∀ link ∈ configuration.links, ∀ locale,
      (link.texts locale).isSome = true ↔ locale ∈ configuration.localeSet := by
    intro link mem
    have hlink := (heach link mem).1
    simp only [isCompleteLink, Bool.and_eq_true] at hlink
    exact isSome_iff_of_sameMembers hnodup hlink.1.2
  have hviewTexts (f : ImmersiveLocalizedContent → String) (locale : GuestLocale) :
      ((configuration.localizedContent locale).map f).isSome = true ↔
        locale ∈ configuration.localeSet := by
    rw [Option.isSome_map]
    exact htexts locale
  constructor
  case schemaVersion | surface | linktreeEnabled | heroPhotos | headings => rfl
  case locales => exact hnodup
  case primaryLocale => exact hprimary
  case linkIds =>
    change ((configuration.links.map (immersiveLinkView configuration.guestLocale)).map (·.id)).Nodup
    rwa [List.map_map]
  case linkLabel =>
    intro link mem
    obtain ⟨stored, hstored, rfl⟩ := List.mem_map.1 mem
    obtain ⟨text, htext⟩ :=
      Option.isSome_iff_exists.1 ((hlinkTexts stored hstored configuration.guestLocale).2 hprimary)
    simp [immersiveLinkView, immersiveView, htext]
  case linkPhoto =>
    intro link mem
    obtain ⟨stored, -, rfl⟩ := List.mem_map.1 mem
    rfl
  case linkTexts =>
    intro link mem locale
    obtain ⟨stored, hstored, rfl⟩ := List.mem_map.1 mem
    simp only [immersiveLinkView, immersiveView, Option.isSome_map]
    exact hlinkTexts stored hstored locale
  case wording =>
    intro locale
    simp only [immersiveView, Option.isSome_map]
    exact htexts locale
  case description =>
    intro locale wording h
    obtain ⟨content, -, rfl⟩ := Option.map_eq_some_iff.1 h
    rfl
  case photoDescriptions => exact hviewTexts _
  case linktreeTitles => exact hviewTexts _
  case previewTexts => exact hviewTexts _

/-! ## The same content -/

/-- Two views show guests the same, up to the order of the additional languages. -/
structure SameContent (a b : PublicationContentView) : Prop where
  schemaVersion : a.schemaVersion = b.schemaVersion
  surface : a.surface = b.surface
  primaryLocale : a.primaryLocale = b.primaryLocale
  locales : a.locales.Perm b.locales
  links : a.links = b.links
  linktreeEnabled : a.linktreeEnabled = b.linktreeEnabled
  wording : a.wording = b.wording
  photoDescriptions : a.photoDescriptions = b.photoDescriptions
  linktreeTitles : a.linktreeTitles = b.linktreeTitles
  previewTexts : a.previewTexts = b.previewTexts
  heroPhotos : a.heroPhotos = b.heroPhotos
  headings : a.headings = b.headings
  look : a.look = b.look
  feedbackThreshold : a.feedbackThreshold.strictEq b.feedbackThreshold = true
  skipPrivateRating : a.skipPrivateRating = b.skipPrivateRating
  reviewAddress : a.reviewAddress = b.reviewAddress

variable {a b : PublicationContentView}

theorem ite_singleton_eq_nil {α : Type} {c : Prop} [Decidable c] {x : α} :
    (if c then [x] else []) = [] ↔ ¬ c := by
  split_ifs with h <;> simp [h]

/-- The languages are the same set. -/
theorem changedLocales_eq_nil_iff {before after : List GuestLocale} (hbefore : before.Nodup)
    (hafter : after.Nodup) : changedLocales before after = [] ↔ before.Perm after := by
  rw [changedLocales, List.append_eq_nil_iff, List.map_eq_nil_iff, List.map_eq_nil_iff,
    List.filter_eq_nil_iff, List.filter_eq_nil_iff, List.perm_ext_iff_of_nodup hbefore hafter]
  simp only [Bool.not_eq_true', Bool.not_eq_false, List.contains_iff_mem]
  constructor
  · rintro ⟨hadded, hremoved⟩ locale
    exact ⟨hremoved locale, hadded locale⟩
  · intro h
    exact ⟨fun locale ↦ (h locale).2, fun locale ↦ (h locale).1⟩

/-- What is reported of a link in one language. -/
theorem keptText_eq_nil_iff {label : String} {locale primaryLocale : GuestLocale}
    {was now : Option PublicationLinkTextView} (held : was.isSome = true) (held' : now.isSome = true)
    (primary : locale = primaryLocale → was.map (·.label) = now.map (·.label)) :
    (match was, now with
      | some wasText, some nowText =>
          if (wasText.label ≠ nowText.label ∧ locale ≠ primaryLocale) ∨ wasText.line ≠ nowText.line then
            [PublicationContentChange.linkReworded label locale]
          else []
      | _, _ => []) = [] ↔ was = now := by
  obtain ⟨wasText, rfl⟩ := Option.isSome_iff_exists.1 held
  obtain ⟨nowText, rfl⟩ := Option.isSome_iff_exists.1 held'
  rw [Option.some_inj]
  simp only [ite_singleton_eq_nil, not_or, not_and, not_not]
  constructor
  · rintro ⟨hlabel, hline⟩
    have hsame : wasText.label = nowText.label := by
      by_contra hdiffer
      exact hdiffer (Option.some.inj (primary (hlabel hdiffer)))
    exact PublicationLinkTextView.ext hsame hline
  · rintro rfl
    exact ⟨fun h ↦ absurd rfl h, rfl⟩

/-- A kept link shows no change exactly when it is the same in every language. -/
theorem keptLinkChanges_eq_nil_iff {label : String} {earlier link : PublicationLinkView}
    {locales : List GuestLocale} {primaryLocale : GuestLocale}
    (texts : ∀ locale, (earlier.texts locale).isSome = true ↔ locale ∈ locales)
    (texts' : ∀ locale, (link.texts locale).isSome = true ↔ locale ∈ locales)
    (primary : (earlier.texts primaryLocale).map (·.label) = some earlier.label)
    (primary' : (link.texts primaryLocale).map (·.label) = some link.label)
    (photo : earlier.hasPhoto = earlier.photoId.isSome) (photo' : link.hasPhoto = link.photoId.isSome)
    (id : earlier.id = link.id) :
    keptLinkChanges label locales primaryLocale earlier link = [] ↔ earlier = link := by
  simp only [keptLinkChanges, List.append_eq_nil_iff, ite_singleton_eq_nil, not_not,
    List.flatMap_eq_nil_iff]
  constructor
  · rintro ⟨⟨⟨⟨hlabel, haddress⟩, hphoto⟩, hicon⟩, heach⟩
    have htexts : earlier.texts = link.texts := by
      funext locale
      by_cases hlocale : locale ∈ locales
      · apply (keptText_eq_nil_iff ((texts locale).2 hlocale) ((texts' locale).2 hlocale) _).1
          (heach locale hlocale)
        rintro rfl
        rw [primary, primary', hlabel]
      · have hnone := Option.not_isSome_iff_eq_none.1 (mt (texts locale).1 hlocale)
        rw [hnone, Option.not_isSome_iff_eq_none.1 (mt (texts' locale).1 hlocale)]
    have hhas : earlier.hasPhoto = link.hasPhoto := by rw [photo, photo', hphoto]
    exact PublicationLinkView.ext id hlabel haddress hhas hphoto hicon htexts
  · rintro rfl
    refine ⟨⟨⟨⟨rfl, rfl⟩, rfl⟩, rfl⟩, ?_⟩
    intro locale hlocale
    exact (keptText_eq_nil_iff ((texts locale).2 hlocale) ((texts locale).2 hlocale) fun _ ↦ rfl).2 rfl

/-- The ids of links that are all kept are told from one another by their join. -/
theorem sharedIds_eq {view : PublicationContentView} {other : KeyedRecord String PublicationLinkView}
    (all : ∀ link ∈ view.links, (other link.id).isSome = true) :
    sharedIds view other = [','].intercalate (view.links.map fun link ↦ link.id.toList) := by
  rw [sharedIds, List.filter_eq_self.2 all]

/-- No id of a link has a comma. -/
def CommaFreeIds (view : PublicationContentView) : Prop := ∀ link ∈ view.links, ',' ∉ link.id.toList

/-- Links show no change exactly when they are the same in the same order. -/
theorem changedLinks_eq_nil_iff (ha : CompleteView a) (hb : CompleteView b) (freeA : CommaFreeIds a)
    (freeB : CommaFreeIds b) (primary : a.primaryLocale = b.primaryLocale)
    (locales : a.locales.Perm b.locales) :
    changedLinks (keptSeenFromLater b) a b = [] ↔ a.links = b.links := by
  have hkept : ∀ earlier ∈ a.links, ∀ link ∈ b.links, earlier.id = link.id →
      (keptSeenFromLater b earlier link = [] ↔ earlier = link) := by
    intro earlier hearlier link hlink hid
    apply keptLinkChanges_eq_nil_iff _ (hb.linkTexts link hlink) _ (hb.linkLabel link hlink)
      (ha.linkPhoto earlier hearlier) (hb.linkPhoto link hlink) hid
    · intro locale
      rw [ha.linkTexts earlier hearlier, locales.mem_iff]
    · rw [← primary]
      exact ha.linkLabel earlier hearlier
  simp only [changedLinks, List.append_eq_nil_iff, List.map_eq_nil_iff, List.filter_eq_nil_iff,
    ite_singleton_eq_nil, not_not, flatMap_indexBy, List.flatMap_eq_nil_iff, Bool.not_eq_true,
    Option.isNone_eq_false_iff]
  constructor
  · rintro ⟨⟨⟨hadded, hremoved⟩, hpairs⟩, horder⟩
    rw [sharedIds_eq hremoved, sharedIds_eq hadded] at horder
    have hempty : a.links.map (fun link ↦ link.id.toList) = [] ↔
        b.links.map (fun link ↦ link.id.toList) = [] := by
      rw [List.map_eq_nil_iff, List.map_eq_nil_iff]
      constructor
      · intro hnil
        rw [List.eq_nil_iff_forall_not_mem]
        intro link mem
        have hmem := (indexBy_isSome_iff ha.linkIds).1 (hadded link mem)
        rw [hnil] at hmem
        cases hmem
      · intro hnil
        rw [List.eq_nil_iff_forall_not_mem]
        intro link mem
        have hmem := (indexBy_isSome_iff hb.linkIds).1 (hremoved link mem)
        rw [hnil] at hmem
        cases hmem
    have hids := eq_of_intercalate_eq (List.forall_mem_map.2 freeA) (List.forall_mem_map.2 freeB)
      hempty horder
    have hsame : a.links.map (·.id) = b.links.map (·.id) := by
      apply List.map_injective_iff.2 (fun _ _ ↦ String.toList_inj.1)
      rw [List.map_map, List.map_map]
      exact hids
    apply eq_of_map_key_eq hsame
    intro earlier hearlier link hlink hid
    apply (hkept earlier hearlier link hlink hid).1
    exact hpairs (earlier, link) ((mem_sharedPairs ha.linkIds).2 ⟨hearlier, hlink, hid⟩)
  · intro hlinks
    have hall : ∀ link ∈ a.links, (indexBy (·.id) a.links link.id).isSome = true := by
      intro link mem
      rw [indexBy_of_mem ha.linkIds mem]
      rfl
    refine ⟨⟨⟨?_, ?_⟩, ?_⟩, ?_⟩
    · rw [← hlinks]
      exact hall
    · rw [← hlinks]
      exact hall
    · rintro ⟨earlier, link⟩ mem
      obtain ⟨hearlier, hlink, hid⟩ := (mem_sharedPairs ha.linkIds).1 mem
      rw [hkept earlier hearlier link hlink hid]
      apply List.inj_on_of_nodup_map ha.linkIds hearlier _ hid
      rwa [hlinks]
    · rw [sharedIds, sharedIds, ← hlinks]

/-- Records of the same languages are equal when no language of theirs shows a difference. -/
theorem record_eq_iff {α : Type} {was now : KeyedRecord GuestLocale α} {locales : List GuestLocale}
    (held : ∀ locale, (was locale).isSome = true ↔ locale ∈ locales)
    (held' : ∀ locale, (now locale).isSome = true ↔ locale ∈ locales) :
    (∀ locale ∈ locales, ¬ ((was locale).isSome = true ∧ (now locale).isSome = true ∧
      was locale ≠ now locale)) ↔ was = now := by
  constructor
  · intro h
    funext locale
    by_cases hlocale : locale ∈ locales
    · by_contra hdiffer
      exact h locale hlocale ⟨(held locale).2 hlocale, (held' locale).2 hlocale, hdiffer⟩
    · have hnone := Option.not_isSome_iff_eq_none.1 (mt (held locale).1 hlocale)
      rw [hnone, Option.not_isSome_iff_eq_none.1 (mt (held' locale).1 hlocale)]
  · rintro rfl locale _ ⟨-, -, hdiffer⟩
    exact hdiffer rfl

/-- The wording of complete views is told by its titles. -/
theorem wording_eq_iff (ha : CompleteView a) (hb : CompleteView b) :
    ((fun locale ↦ (a.wording locale).map (·.title)) = fun locale ↦ (b.wording locale).map (·.title)) ↔
      a.wording = b.wording := by
  constructor
  · intro h
    funext locale
    have htitle := congrFun h locale
    cases hwas : a.wording locale with
    | none =>
        rw [hwas, Option.map_none, eq_comm, Option.map_eq_none_iff] at htitle
        exact htitle.symm
    | some was =>
        rw [hwas, Option.map_some, eq_comm, Option.map_eq_some_iff] at htitle
        obtain ⟨now, hnow, hsame⟩ := htitle
        have hdescription : was.description = now.description := by
          rw [ha.description locale was hwas, hb.description locale now hnow]
        rw [hnow, PublicationWordingView.ext hsame hdescription.symm]
  · intro h
    rw [h]

/-- The wording shows no change exactly when it is the same in every language. -/
theorem changedWording_eq_nil_iff (ha : CompleteView a) (hb : CompleteView b)
    (locales : a.locales.Perm b.locales) :
    changedWording a b = [] ↔ a.wording = b.wording ∧ a.previewTexts = b.previewTexts ∧
      a.photoDescriptions = b.photoDescriptions ∧ a.linktreeTitles = b.linktreeTitles := by
  have hcommon : (b.locales.filter fun locale ↦ a.locales.contains locale) = b.locales := by
    apply List.filter_eq_self.2
    intro locale mem
    exact List.contains_iff_mem.2 (locales.mem_iff.2 mem)
  have htitles (view : PublicationContentView) (hview : CompleteView view) (locale : GuestLocale) :
      ((view.wording locale).map (·.title)).isSome = true ↔ locale ∈ view.locales := by
    rw [Option.isSome_map]
    exact hview.wording locale
  have hdescription (locale : GuestLocale) : (a.wording locale).bind (·.description) = none := by
    rw [Option.bind_eq_none_iff]
    exact ha.description locale
  rw [← wording_eq_iff ha hb, ← record_eq_iff (fun l ↦ (htitles a ha l).trans locales.mem_iff) (htitles b hb),
    ← record_eq_iff (fun l ↦ (ha.previewTexts l).trans locales.mem_iff) hb.previewTexts,
    ← record_eq_iff (fun l ↦ (ha.photoDescriptions l).trans locales.mem_iff) hb.photoDescriptions,
    ← record_eq_iff (fun l ↦ (ha.linktreeTitles l).trans locales.mem_iff) hb.linktreeTitles]
  rw [changedWording, hcommon]
  simp only [wordingFields, List.flatMap_eq_nil_iff, List.forall_mem_cons, ite_singleton_eq_nil,
    hdescription, Option.isSome_none, Bool.false_eq_true, false_and, not_false_eq_true, true_and,
    List.not_mem_nil, false_implies, implies_true, and_true]
  constructor
  · intro h
    exact ⟨fun l hl ↦ (h l hl).1, fun l hl ↦ (h l hl).2.1, fun l hl ↦ (h l hl).2.2.1,
      fun l hl ↦ (h l hl).2.2.2⟩
  · rintro ⟨htitle, hpreview, hphoto, hsection⟩ l hl
    exact ⟨htitle l hl, hpreview l hl, hphoto l hl, hsection l hl⟩

/-- The look shows no change exactly when it is the same. -/
theorem changedLook_eq_nil_iff (surface : a.surface = b.surface)
    (schemaVersion : a.schemaVersion = b.schemaVersion) : changedLook a b = [] ↔ a.look = b.look := by
  rw [changedLook, if_neg (not_not.2 surface), if_neg (not_not.2 schemaVersion)]
  dsimp only
  rw [ite_eq_left_iff, List.length_eq_zero_iff]
  constructor
  · intro h
    have hfacets : lookFacets.filter (facetChanged a.look b.look) = [] := by
      by_contra hsome
      cases h hsome
    have hsame (facet : PublicationLookFacet) (mem : facet ∈ lookFacets) :
        facetChanged a.look b.look facet = false :=
      Bool.not_eq_true _ ▸ List.filter_eq_nil_iff.1 hfacets facet mem
    have hcolours := hsame .colours (by decide)
    have hname := hsame .name (by decide)
    have hwordmark := hsame .wordmark (by decide)
    have hlogo := hsame .logo (by decide)
    have hphoto := hsame .photo (by decide)
    have hfocus := hsame .photoFocus (by decide)
    simp only [facetChanged, PublicationLookView.facet, reduceCtorEq, if_false, if_true, bne_eq_false_iff_eq,
      Option.some_inj, Bool.and_eq_false_iff, beq_eq_false_iff_ne] at *
    have hcrop := hfocus.resolve_left fun hdiffer ↦ hdiffer hphoto
    exact PublicationLookView.ext hname hcolours hwordmark hlogo hphoto hcrop
  · intro h hsome
    refine absurd ?_ hsome
    rw [List.filter_eq_nil_iff, h]
    intro facet _
    rw [facetChanged]
    split_ifs <;> simp

/-- A comparison of complete views is empty exactly when they show the same. -/
theorem diffViews_eq_nil_iff (ha : CompleteView a) (hb : CompleteView b) (freeA : CommaFreeIds a)
    (freeB : CommaFreeIds b) : diffViews (keptSeenFromLater b) a b = [] ↔ SameContent a b := by
  have hsurface : a.surface = b.surface := by rw [ha.surface, hb.surface]
  have hschema : a.schemaVersion = b.schemaVersion := by rw [ha.schemaVersion, hb.schemaVersion]
  have hheadings : changedHeadings a b = [] := by rw [changedHeadings, hb.headings]; rfl
  have hphotos : changedHeroPhotos a b = [] := by
    rw [changedHeroPhotos, ha.heroPhotos, hb.heroPhotos, List.flatMap_eq_nil_iff]
    intro locale _
    rfl
  obtain ⟨switch, hswitch⟩ := Option.isSome_iff_exists.1 ha.linktreeEnabled
  obtain ⟨switch', hswitch'⟩ := Option.isSome_iff_exists.1 hb.linktreeEnabled
  simp only [diffViews, List.append_eq_nil_iff, ite_singleton_eq_nil, not_not, hheadings, hphotos,
    and_true, changedLocales_eq_nil_iff ha.locales hb.locales,
    changedLook_eq_nil_iff hsurface hschema, Bool.not_eq_false, hswitch, hswitch', Option.getD_some]
  constructor
  · rintro ⟨⟨⟨⟨⟨⟨⟨⟨hprimary, hlocales⟩, hlinks⟩, henabled⟩, hwording⟩, hlook⟩, hskip⟩, hthreshold⟩,
      haddress⟩
    rw [changedLinks_eq_nil_iff ha hb freeA freeB hprimary hlocales] at hlinks
    obtain ⟨htitles, hpreviews, hdescriptions, hsections⟩ :=
      (changedWording_eq_nil_iff ha hb hlocales).1 hwording
    exact ⟨hschema, hsurface, hprimary, hlocales, hlinks, by rw [hswitch, hswitch', henabled], htitles,
      hdescriptions, hsections, hpreviews, by rw [ha.heroPhotos, hb.heroPhotos],
      by rw [ha.headings, hb.headings], hlook, hthreshold, hskip, haddress⟩
  · intro h
    have henabled := h.linktreeEnabled
    rw [hswitch, hswitch', Option.some_inj] at henabled
    refine ⟨⟨⟨⟨⟨⟨⟨⟨h.primaryLocale, h.locales⟩, ?_⟩, henabled⟩, ?_⟩, h.look⟩, h.skipPrivateRating⟩,
      h.feedbackThreshold⟩, h.reviewAddress⟩
    · exact (changedLinks_eq_nil_iff ha hb freeA freeB h.primaryLocale h.locales).2 h.links
    · exact (changedWording_eq_nil_iff ha hb h.locales).2
        ⟨h.wording, h.previewTexts, h.photoDescriptions, h.linktreeTitles⟩

/-! ## The opposite changes -/

/-- A change seen the other way round: added and removed, before and after, on and off change places. -/
def PublicationContentChange.opposite : PublicationContentChange → PublicationContentChange
  | .languageAdded locale => .languageRemoved locale
  | .languageRemoved locale => .languageAdded locale
  | .primaryLanguageChanged was now => .primaryLanguageChanged now was
  | .linkAdded label hasPhoto => .linkRemoved label hasPhoto
  | .linkRemoved label hasPhoto => .linkAdded label hasPhoto
  | .linkRenamed was now => .linkRenamed now was
  | .linkPhotoChanged label .added => .linkPhotoChanged label .removed
  | .linkPhotoChanged label .removed => .linkPhotoChanged label .added
  | .headingRenamed was now => .headingRenamed now was
  | .linktreeSwitched enabled => .linktreeSwitched !enabled
  | .designChanged .legacy => .designChanged .immersive
  | .designChanged .immersive => .designChanged .legacy
  | .feedbackThresholdChanged was now => .feedbackThresholdChanged now was
  | .skipPrivateRatingChanged enabled => .skipPrivateRatingChanged !enabled
  | change => change

open PublicationContentChange

/-- A link that both versions have, named as the earlier one names it. -/
def keptSeenFromEarlier (prior : PublicationContentView) (earlier link : PublicationLinkView) :
    List PublicationContentChange :=
  keptLinkChanges earlier.label prior.locales prior.primaryLocale earlier link

theorem map_opposite_ite {c d : Prop} [Decidable c] [Decidable d] {x y : PublicationContentChange}
    (same : c ↔ d) (h : c → x.opposite = y) :
    (if c then [x] else []).map opposite = if d then [y] else [] := by
  by_cases hc : c
  · rw [if_pos hc, if_pos (same.1 hc), List.map_singleton, h hc]
  · rw [if_neg hc, if_neg (mt same.2 hc), List.map_nil]

/-- The photo of a link changed the other way round. -/
theorem opposite_photoChange {label : String} {was now : Option String} (h : was ≠ now) :
    (linkPhotoChanged label (photoChange was now)).opposite = linkPhotoChanged label (photoChange now was) := by
  cases was with
  | none =>
      cases now with
      | none => exact absurd rfl h
      | some now => rfl
  | some was => cases now <;> rfl

/-- What is reported of a kept link, the other way round. -/
theorem keptLinkChanges_opposite {label : String} {earlier link : PublicationLinkView}
    {locales : List GuestLocale} {primaryLocale : GuestLocale} :
    (keptLinkChanges label locales primaryLocale earlier link).map opposite =
      keptLinkChanges label locales primaryLocale link earlier := by
  rw [keptLinkChanges, keptLinkChanges, List.map_append, List.map_append, List.map_append, List.map_append,
    map_opposite_ite ne_comm fun _ ↦ rfl, map_opposite_ite ne_comm fun _ ↦ rfl,
    map_opposite_ite ne_comm opposite_photoChange, map_opposite_ite ne_comm fun _ ↦ rfl,
    List.map_flatMap]
  congr 1
  apply List.flatMap_congr
  intro locale _
  cases earlier.texts locale with
  | none => cases link.texts locale <;> rfl
  | some was =>
      cases link.texts locale with
      | none => rfl
      | some now =>
          apply map_opposite_ite _ fun _ ↦ rfl
          rw [ne_comm, @ne_comm _ was.line]

theorem changedLocales_opposite (before after : List GuestLocale) :
    (changedLocales after before).Perm ((changedLocales before after).map opposite) := by
  rw [changedLocales, changedLocales, List.map_append, List.map_map, List.map_map]
  exact List.perm_append_comm

theorem changedLinks_opposite (ha : CompleteView a) (hb : CompleteView b) :
    (changedLinks (keptSeenFromLater a) b a).Perm
      ((changedLinks (keptSeenFromEarlier a) a b).map opposite) := by
  simp only [changedLinks, flatMap_indexBy, List.map_append, List.map_map, List.map_flatMap]
  apply List.Perm.append
  · apply List.Perm.append
    · exact List.perm_append_comm
    · have hpairs := sharedPairs_swap_perm ha.linkIds hb.linkIds
      have hswapped : (sharedPairs (·.id) a.links b.links).flatMap (fun p ↦
          (keptSeenFromEarlier a p.1 p.2).map opposite) =
          ((sharedPairs (·.id) a.links b.links).map Prod.swap).flatMap fun p ↦
            keptSeenFromLater a p.1 p.2 := by
        rw [List.flatMap_map]
        apply List.flatMap_congr
        intro p _
        exact keptLinkChanges_opposite
      rw [hswapped]
      exact (hpairs.flatMap_right _).symm
  · rw [map_opposite_ite ne_comm fun _ ↦ rfl]
    exact .refl _

theorem changedWording_opposite (ha : CompleteView a) (hb : CompleteView b) :
    (changedWording b a).Perm ((changedWording a b).map opposite) := by
  have hcommon : (a.locales.filter fun locale ↦ b.locales.contains locale).Perm
      (b.locales.filter fun locale ↦ a.locales.contains locale) := by
    rw [List.perm_ext_iff_of_nodup (ha.locales.filter _) (hb.locales.filter _)]
    intro locale
    rw [List.mem_filter, List.mem_filter, List.contains_iff_mem, List.contains_iff_mem, and_comm]
  have hfield (locale : GuestLocale) (field : PublicationWordingField) (was now : Option String) :
      (if was.isSome = true ∧ now.isSome = true ∧ was ≠ now then [wordingChanged field locale]
        else []).map opposite =
      if now.isSome = true ∧ was.isSome = true ∧ now ≠ was then [wordingChanged field locale]
        else [] := by
    apply map_opposite_ite _ fun _ ↦ rfl
    rw [and_left_comm, ne_comm]
  rw [changedWording, changedWording, List.map_flatMap]
  refine (List.Perm.of_eq ?_).trans (hcommon.symm.flatMap_right _).symm
  apply List.flatMap_congr
  intro locale _
  simp only [wordingFields, List.flatMap_cons, List.flatMap_nil, List.map_append, hfield, List.map_nil]

/-- Complete views are of one schema, so their looks are compared facet by facet. -/
theorem changedLook_of_complete (ha : CompleteView a) (hb : CompleteView b) :
    changedLook a b = if (lookFacets.filter (facetChanged a.look b.look)).length = 0 then []
      else [lookChanged (lookFacets.filter (facetChanged a.look b.look))] := by
  have hsurface : a.surface = b.surface := by rw [ha.surface, hb.surface]
  have hschema : a.schemaVersion = b.schemaVersion := by rw [ha.schemaVersion, hb.schemaVersion]
  rw [changedLook, if_neg (not_not.2 hsurface), if_neg (not_not.2 hschema)]

theorem changedLook_opposite (ha : CompleteView a) (hb : CompleteView b) :
    changedLook b a = (changedLook a b).map opposite := by
  have hfacet : facetChanged b.look a.look = facetChanged a.look b.look := by
    funext facet
    rw [facetChanged, facetChanged]
    split_ifs
    · rw [BEq.comm, bne_comm]
    · rw [bne_comm]
  rw [changedLook_of_complete hb ha, changedLook_of_complete ha hb, hfacet]
  split_ifs <;> rfl

theorem strictEq_comm (x y : JsNumber) : x.strictEq y = y.strictEq x := by
  rw [Bool.eq_iff_iff, JsNumber.strictEq, JsNumber.strictEq]
  simp only [Bool.and_eq_true, bne_iff_ne, beq_iff_eq]
  constructor
  · rintro ⟨hx, rfl⟩
    exact ⟨hx, rfl⟩
  · rintro ⟨hy, rfl⟩
    exact ⟨hy, rfl⟩

/-- Comparing the other way round gives the opposite changes, named from the other version. -/
theorem diffViews_opposite (ha : CompleteView a) (hb : CompleteView b) :
    (diffViews (keptSeenFromLater a) b a).Perm
      ((diffViews (keptSeenFromEarlier a) a b).map opposite) := by
  have hheadings (v w : PublicationContentView) (hw : CompleteView w) : changedHeadings v w = [] := by
    rw [changedHeadings, hw.headings]
    rfl
  have hphotos (v w : PublicationContentView) (hv : CompleteView v) : changedHeroPhotos v w = [] := by
    rw [changedHeroPhotos, hv.heroPhotos, List.flatMap_eq_nil_iff]
    intro locale _
    rfl
  have hswitch (change : Bool → PublicationContentChange) (was now : Bool)
      (h : (change now).opposite = change !now) :
      (if was ≠ now then [change now] else []).map opposite =
        if now ≠ was then [change was] else [] := by
    apply map_opposite_ite ne_comm
    intro hdiffer
    rw [h, Bool.eq_not.2 hdiffer]
  simp only [diffViews, hheadings b a ha, hheadings a b hb, hphotos b a hb, hphotos a b ha,
    List.map_append, List.append_nil]
  rw [map_opposite_ite ne_comm fun _ ↦ rfl, hswitch linktreeSwitched _ _ rfl,
    hswitch skipPrivateRatingChanged _ _ rfl, map_opposite_ite (by rw [strictEq_comm]) fun _ ↦ rfl,
    map_opposite_ite ne_comm fun _ ↦ rfl, changedLook_opposite ha hb]
  have hlocales := changedLocales_opposite a.locales b.locales
  have hlinks := changedLinks_opposite ha hb
  have hwording := changedWording_opposite ha hb
  exact ((((((((hlocales.append_left _).append hlinks).append_right _).append hwording).append_right _)
    ).append_right _).append_right _).append_right _

/-! ## Links that keep their name -/

/-- A comparison depends on what is reported of the kept links only. -/
theorem diffViews_perm_of_kept
    {kept kept' : PublicationLinkView → PublicationLinkView → List PublicationContentChange}
    (ha : CompleteView a)
    (each : ∀ earlier ∈ a.links, ∀ link ∈ b.links, earlier.id = link.id →
      (kept earlier link).Perm (kept' earlier link)) :
    (diffViews kept a b).Perm (diffViews kept' a b) := by
  have hlinks : (changedLinks kept a b).Perm (changedLinks kept' a b) := by
    simp only [changedLinks, flatMap_indexBy]
    refine (List.Perm.append_left _ ?_).append_right _
    apply List.Perm.flatMap_left
    rintro ⟨earlier, link⟩ mem
    obtain ⟨hearlier, hlink, hid⟩ := (mem_sharedPairs ha.linkIds).1 mem
    exact each earlier hearlier link hlink hid
  exact (((((((((hlinks.append_left _).append_right _).append_right _).append_right _).append_right _)
    ).append_right _).append_right _).append_right _).append_right _

/-- What is listed for the elements of two lists is the same if nothing is listed for those that only
one of them has. -/
theorem flatMap_perm_of_nil {α β : Type} {f : α → List β} {l l' : List α} (nodup : l.Nodup)
    (nodup' : l'.Nodup) (h : ∀ x, f x ≠ [] → (x ∈ l ↔ x ∈ l')) : (l.flatMap f).Perm (l'.flatMap f) := by
  have hdrop (m : List α) : m.flatMap f = (m.filter fun x ↦ !(f x).isEmpty).flatMap f := by
    induction m with
    | nil => rfl
    | cons x m ih =>
        rw [List.flatMap_cons, ih, List.filter_cons]
        cases hx : f x with
        | nil => rfl
        | cons y ys => simp [hx]
  rw [hdrop l, hdrop l']
  apply List.Perm.flatMap_right
  rw [List.perm_ext_iff_of_nodup (nodup.filter _) (nodup'.filter _)]
  intro x
  rw [List.mem_filter, List.mem_filter, Bool.not_eq_true', List.isEmpty_eq_false_iff]
  constructor
  · rintro ⟨hx, hne⟩
    exact ⟨(h x hne).1 hx, hne⟩
  · rintro ⟨hx, hne⟩
    exact ⟨(h x hne).2 hx, hne⟩

/-- In one primary language a link that keeps its name is reported alike from either version. -/
theorem keptSeenFromEarlier_perm (ha : CompleteView a) (hb : CompleteView b)
    (primary : a.primaryLocale = b.primaryLocale) {earlier link : PublicationLinkView}
    (hearlier : earlier ∈ a.links) (hlink : link ∈ b.links) (label : earlier.label = link.label) :
    (keptSeenFromEarlier a earlier link).Perm (keptSeenFromLater b earlier link) := by
  rw [keptSeenFromEarlier, keptSeenFromLater, label, primary, keptLinkChanges, keptLinkChanges]
  apply List.Perm.append_left
  apply flatMap_perm_of_nil ha.locales hb.locales
  intro locale hne
  rw [← ha.linkTexts earlier hearlier, ← hb.linkTexts link hlink]
  cases hwas : earlier.texts locale with
  | none => rw [hwas] at hne; exact absurd rfl hne
  | some was =>
      cases hnow : link.texts locale with
      | none => rw [hwas, hnow] at hne; exact absurd rfl hne
      | some now => exact Iff.rfl

/-! ## Version comparison -/

/-- A comparison of complete configurations misses nothing. The other way round it gives the opposite
changes, each kept link named as the other version names it: literally so where none is renamed and the
primary language stays. -/
theorem version_comparison_complete {before after : ImmersiveConfiguration}
    (hbefore : isCompleteImmersiveConfiguration platform before = true)
    (hafter : isCompleteImmersiveConfiguration platform after = true)
    (freeBefore : ∀ link ∈ before.links, ',' ∉ link.id.toList)
    (freeAfter : ∀ link ∈ after.links, ',' ∉ link.id.toList) :
    let a := immersiveView numberText before
    let b := immersiveView numberText after
    (diffPublicationContent numberText (some before) after = [] ↔ SameContent a b) ∧
    (diffPublicationContent numberText (some after) before).Perm
      ((diffViews (keptSeenFromEarlier a) a b).map opposite) ∧
    (a.primaryLocale = b.primaryLocale →
      (∀ earlier ∈ a.links, ∀ link ∈ b.links, earlier.id = link.id → earlier.label = link.label) →
      (diffPublicationContent numberText (some after) before).Perm
        ((diffPublicationContent numberText (some before) after).map opposite)) := by
  intro a b
  have ha : CompleteView a := completeView_of_complete numberText hbefore
  have hb : CompleteView b := completeView_of_complete numberText hafter
  have hopposite := diffViews_opposite ha hb
  refine ⟨?_, hopposite, ?_⟩
  · exact diffViews_eq_nil_iff ha hb (List.forall_mem_map.2 freeBefore) (List.forall_mem_map.2 freeAfter)
  · intro primary labels
    apply hopposite.trans
    apply List.Perm.map
    apply diffViews_perm_of_kept ha
    intro earlier hearlier link hlink hid
    exact keptSeenFromEarlier_perm ha hb primary hearlier hlink (labels earlier hearlier link hlink hid)

section Sample

/-- A runtime that knows every time zone and finds every address secure. -/
def permissivePlatform : ReaderPlatform where
  knowsTimeZone := fun _ ↦ true
  urlProtocol := fun _ ↦ some "https:"

/-- A page of one link in English. -/
def pageWithLink (label url : String) : ImmersiveConfiguration where
  portal := ⟨"portal", "hotel"⟩
  guestLocale := .en
  languagePackVersion := "guest-ui-en-v2"
  localeSet := [.en]
  languagePackVersions := fun locale ↦ if locale = .en then some "guest-ui-en-v2" else none
  localizedContent := fun locale ↦
    if locale = .en then some ⟨⟨"Hotel", none⟩, ⟨"By the sea", none⟩, ⟨"", none⟩, ⟨"Links", none⟩⟩
    else none
  linktreeEnabled := true
  links := [⟨"link", url, none, none, fun locale ↦
    if locale = .en then some ⟨label, none, none⟩ else none⟩]
  brandProfile := ⟨"Hotel", none, none, none, "#EAD6A8", "#15110D", .finite 1⟩
  timeZone := "Europe/Sofia"
  aiDraftTextKeys := none
  reviewGateway := ⟨.finite 3, none, "https://g.page/r/review"⟩
  googleReviewBinding := ⟨0, .finite 0, .finite 1⟩

theorem version_comparison_complete_moved :
    diffPublicationContent (fun _ ↦ "0") (some (pageWithLink "Menu" "https://a"))
        (pageWithLink "Menu" "https://a") = [] ∧
      (diffPublicationContent (fun _ ↦ "0") (some (pageWithLink "Menu" "https://b"))
        (pageWithLink "Menu" "https://a")).Perm
      ((diffPublicationContent (fun _ ↦ "0") (some (pageWithLink "Menu" "https://a"))
        (pageWithLink "Menu" "https://b")).map opposite) := by
  have hcomplete : isCompleteImmersiveConfiguration permissivePlatform
      (pageWithLink "Menu" "https://a") = true := by decide +kernel
  have hmoved : isCompleteImmersiveConfiguration permissivePlatform
      (pageWithLink "Menu" "https://b") = true := by decide +kernel
  have hfree (label url : String) : ∀ link ∈ (pageWithLink label url).links, ',' ∉ link.id.toList := by
    intro link mem
    rw [List.mem_singleton.1 mem]
    change ',' ∉ "link".toList
    decide
  have hsame := (version_comparison_complete (fun _ ↦ "0") hcomplete hcomplete (hfree _ _) (hfree _ _)).1
  have hback := (version_comparison_complete (fun _ ↦ "0") hcomplete hmoved (hfree _ _) (hfree _ _)).2.2
  constructor
  · exact hsame.2 ⟨rfl, rfl, rfl, .refl _, rfl, rfl, rfl, rfl, rfl, rfl, rfl, rfl, rfl, by decide, rfl, rfl⟩
  · apply hback rfl
    intro earlier hearlier link hlink _
    rw [List.mem_singleton.1 hearlier, List.mem_singleton.1 hlink]
    rfl

/-- A link that gets a new name and a new address is reported under its new name either way. -/
theorem changes_not_swapped :
    isCompleteImmersiveConfiguration permissivePlatform (pageWithLink "Menu" "https://a") = true ∧
    isCompleteImmersiveConfiguration permissivePlatform (pageWithLink "Card" "https://b") = true ∧
    ¬ (diffPublicationContent (fun _ ↦ "0") (some (pageWithLink "Card" "https://b"))
        (pageWithLink "Menu" "https://a")).Perm
      ((diffPublicationContent (fun _ ↦ "0") (some (pageWithLink "Menu" "https://a"))
        (pageWithLink "Card" "https://b")).map opposite) := by
  refine ⟨by decide +kernel, by decide +kernel, ?_⟩
  intro hperm
  have hmem := hperm.mem_iff (a := linkAddressChanged "Menu")
  revert hmem
  decide +kernel

end Sample

end ReputationKey.Portal
