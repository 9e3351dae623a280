import ReputationKey.Portal.PortalLook

/-!
# Portal look edits are exact

An edit moves the group it names and no other; the facets it lists are those guests see differently;
owning a group without giving values shows what was shown. Edits of different groups, and edits of
one group that give nothing in common, can come in either order.
-/

namespace ReputationKey.Portal

open ReputationKey.Base ReputationKey.Shared

variable {readLookContrast : LookReadout}

/-! ## Stored rows -/

theorem findBackgroundMode_code (mode : BackgroundMode) :
    findBackgroundMode (some mode.code) = some mode := by
  cases mode <;> rfl

/-- Every description of a photo says something. -/
def Described (texts : PortalHeroAltTexts) : Prop :=
  ∀ locale text, texts locale = some text → isBlank text = false

/-- Descriptions are read back as they were stored. -/
theorem portalHeroAltTextsOf_members {texts : PortalHeroAltTexts} (described : Described texts) :
    portalHeroAltTextsOf (.object
      ((altTextMembers texts).map fun member ↦ (member.1.code, some member.2))) = texts := by
  have hmembers : ((altTextMembers texts).map fun member ↦ (member.1.code, some member.2)).filterMap
      (fun member ↦ (parseGuestLocale member.1).bind fun locale ↦
        (member.2.filter fun text ↦ !isBlank text).map fun text ↦ (locale, text)) =
      guestLocales.filterMap fun locale ↦ (texts locale).map fun text ↦ (locale, text) := by
    rw [altTextMembers, List.filterMap_map, List.filterMap_filterMap]
    apply List.filterMap_congr
    intro locale _
    cases h : texts locale with
    | none => rfl
    | some text =>
        simp [parseGuestLocale_code, described locale text h]
  funext locale
  rw [portalHeroAltTextsOf, hmembers, KeyedRecord.ofEntries_filterMap,
    if_pos (mem_guestLocales locale)]

/-- The photo of an override is described throughout. -/
def PortalLookOverride.Described (override : PortalLookOverride) : Prop :=
  ∀ photo, override.photo = .own photo → Portal.Described photo.altTexts

/-- An override is read back from its columns as it was. -/
theorem portalLookOverrideOf_columns {override : PortalLookOverride}
    (described : override.Described) :
    portalLookOverrideOf (portalLookColumnsOf override).row = override := by
  obtain ⟨photo, colours, identity, version⟩ := override
  have hphoto : photoOfRow (portalLookColumnsOf ⟨photo, colours, identity, version⟩).row = photo := by
    cases photo with
    | inherit => rfl
    | none => rfl
    | own photo =>
        show PortalLookPhoto.own ⟨photo.heroAssetId, photo.focalX, photo.focalY,
          portalHeroAltTextsOf (.object
            ((altTextMembers photo.altTexts).map fun member ↦ (member.1.code, some member.2)))⟩ = _
        rw [portalHeroAltTextsOf_members (described photo rfl)]
  have hcolours :
      coloursOfRow (portalLookColumnsOf ⟨photo, colours, identity, version⟩).row = colours := by
    cases colours with
    | inherit => rfl
    | own colours =>
        obtain ⟨accent, mode, background⟩ := colours
        cases mode <;> rfl
  have hidentity : (portalLookOverrideOf
      (portalLookColumnsOf ⟨photo, colours, identity, version⟩).row).identity = identity := by
    cases identity <;> rfl
  apply PortalLookOverride.ext
  · exact hphoto
  · exact hcolours
  · exact hidentity
  · rfl

/-! ## Texts as stored -/

theorem boundedOrNull_isBlank {value : Option String} {field : String} {max : ℕ} {text : String}
    (h : boundedOrNull value field max = .ok (some text)) : isBlank text = false := by
  cases value with
  | none => cases h
  | some value =>
      simp only [boundedOrNull] at h
      split_ifs at h with hempty hlong
      · cases h
      · have htext : trimmed value = text := Option.some.inj (Except.ok.inj h)
        rw [← htext]
        exact isBlank_trimmed hempty

/-- What an edit makes of the descriptions: those given as stored, the others as they were. -/
theorem changedAltTexts_ok {start : PortalHeroAltTexts}
    {given : KeyedRecord GuestLocale (Option String)} {result : PortalHeroAltTexts}
    (h : changedAltTexts start (some given) = .ok result) (locale : GuestLocale) :
    (given locale = none → result locale = start locale) ∧
      ∀ text, given locale = some text → normaliseHeroAltText text = .ok (result locale) := by
  obtain ⟨written, hwritten, hresult⟩ := ok_of_bind h
  cases hresult
  let stored (key : GuestLocale) : Option String :=
    (normaliseHeroAltText (given key).join).toOption.join
  have hmap : written = (given.keys guestLocales).map fun key ↦
      (stored key).map fun text ↦ (key, text) := by
    apply (mapM_ok hwritten).2
    intro key _ member hmember
    obtain ⟨text, htext, hmember⟩ := ok_of_bind hmember
    cases hmember
    simp [stored, htext, Except.toOption]
  have hwrittenAt : KeyedRecord.ofEntries (written.filterMap id) locale =
      if (given locale).isSome = true then stored locale else none := by
    rw [hmap, List.filterMap_map]
    have hentries := KeyedRecord.ofEntries_filterMap stored (given.keys guestLocales) locale
    simp only [KeyedRecord.keys, List.mem_filter, mem_guestLocales, true_and] at hentries
    exact hentries
  have hkeptAt : KeyedRecord.ofEntries
      ((altTextMembers start).filter fun member ↦ (given member.1).isNone) locale =
      if (given locale).isNone = true then start locale else none := by
    have hkept : (altTextMembers start).filter (fun member ↦ (given member.1).isNone) =
        guestLocales.filterMap fun key ↦
          (if (given key).isNone = true then start key else none).map fun text ↦ (key, text) := by
      rw [altTextMembers, List.filter_filterMap]
      apply List.filterMap_congr
      intro key _
      cases hstart : start key <;> cases hgiven : given key <;> simp [hgiven, Option.filter]
    rw [hkept, KeyedRecord.ofEntries_filterMap, if_pos (mem_guestLocales locale)]
  rw [KeyedRecord.ofEntries_append, hwrittenAt, hkeptAt]
  constructor
  · intro hnone
    simp [hnone]
  · intro text hsome
    obtain ⟨_, hmember⟩ := (mapM_ok hwritten).1 locale (by
      rw [KeyedRecord.keys, List.mem_filter, hsome]
      exact ⟨mem_guestLocales locale, rfl⟩)
    obtain ⟨value, hvalue, -⟩ := ok_of_bind hmember
    rw [hsome, Option.join_some] at hvalue
    simp [stored, hsome, hvalue, Except.toOption]

/-- The descriptions after an edit all say something if those before it do. -/
theorem changedAltTexts_described {start : PortalHeroAltTexts}
    {given : Option (KeyedRecord GuestLocale (Option String))} {result : PortalHeroAltTexts}
    (described : Described start) (h : changedAltTexts start given = .ok result) :
    Described result := by
  intro locale text htext
  cases given with
  | none =>
      cases h
      exact described locale text htext
  | some given =>
      obtain ⟨hkept, hgiven⟩ := changedAltTexts_ok h locale
      cases hlocale : given locale with
      | none => exact described locale text ((hkept hlocale).symm.trans htext)
      | some value =>
          have hstored := hgiven value hlocale
          rw [htext] at hstored
          exact boundedOrNull_isBlank hstored

/-! ## What guests see -/

/-- The photo description in a language among content rows. -/
def descriptionIn (contents : List PortalHeroAltContent) (locale : GuestLocale) : Option String :=
  (contents.find? fun row ↦ row.locale == locale.code).bind (·.heroAltText)

/-- What guests see of a Portal's look. The photo is described only while one is shown. -/
@[ext] structure ShownLook where
  accent : String
  field : String × String
  wordmark : Option String
  logo : Option String
  photo : Option String × Option ℚ × Option ℚ
  descriptions : GuestLocale → Option String
  lookVersion : ℕ

/-- The look that an override, or none, gives a Portal. -/
def shownLook (base : PortalLookBase) (contents : List PortalHeroAltContent)
    (override : Option PortalLookOverride) : ShownLook :=
  let profile := applyPortalLook base.profile override
  { accent := profile.primaryColor
    field := (profile.backgroundMode, profile.backgroundColor)
    wordmark := profile.wordmark
    logo := profile.logoAssetId
    photo := (profile.heroAssetId, profile.heroFocalX, profile.heroFocalY)
    descriptions := fun locale ↦
      if profile.heroAssetId = none then none
      else descriptionIn (withPortalHeroAlt contents override) locale
    lookVersion := profile.lookVersion }

/-- Whether two looks are the same in a facet. -/
def SameFacet (a b : ShownLook) : PortalLookFacet → Prop
  | .accent => a.accent = b.accent
  | .field => a.field = b.field
  | .wordmark => a.wordmark = b.wordmark
  | .logo => a.logo = b.logo
  | .photo => a.photo = b.photo ∧ a.descriptions = b.descriptions

/-- A Property look that Portals are edited over: its background mode is a known one, its photo has
an anchor, and the descriptions are those of the content rows, each of which says something. -/
structure PortalLookBase.Valid (base : PortalLookBase) (contents : List PortalHeroAltContent) :
    Prop where
  backgroundMode : ∃ mode : BackgroundMode, base.profile.backgroundMode = mode.code
  anchored : base.profile.heroAssetId ≠ none →
    base.profile.heroFocalX ≠ none ∧ base.profile.heroFocalY ≠ none
  heroAltTexts : ∀ locale, base.heroAltTexts locale = descriptionIn contents locale
  described : Described base.heroAltTexts

/-- The overrides that accepted edits lead to, whatever the Property looks like at each of them. -/
inductive Reached (readLookContrast : LookReadout) : Option PortalLookOverride → Prop
  | none : Reached readLookContrast none
  | step {current : Option PortalLookOverride} {base : PortalLookBase}
      {contents : List PortalHeroAltContent} {change : PortalLookChange} {next : NextPortalLook} :
      Reached readLookContrast current → base.Valid contents →
      nextPortalLook readLookContrast current base change = .ok next →
      Reached readLookContrast (some next.override)

variable {base : PortalLookBase} {contents : List PortalHeroAltContent}
  {before after other : PortalLookOverride} {change : PortalLookChange}

/-! ## What an edit does -/

/-- What an accepted edit of an own photo makes of it. -/
structure PhotoEdited (current : PortalLookPhoto) (base : PortalLookBase) (edit : OwnPhotoEdit)
    (photo : OwnPhoto) : Prop where
  asset : edit.heroAssetId.or (current.own?.elim base.profile.heroAssetId fun photo ↦
    some photo.heroAssetId) = some photo.heroAssetId
  anchor : nextAnchor (ownPhotoStart current base photo.heroAssetId) edit =
    .ok (photo.focalX, photo.focalY)
  altTexts : changedAltTexts (ownPhotoStart current base photo.heroAssetId).altTexts edit.altTexts =
    .ok photo.altTexts

theorem nextOwnPhoto_ok {current : PortalLookPhoto} {edit : OwnPhotoEdit} {next : PortalLookPhoto}
    (h : nextOwnPhoto current base edit = .ok next) :
    ∃ photo, next = .own photo ∧ PhotoEdited current base edit photo := by
  simp only [nextOwnPhoto] at h
  cases hasset : edit.heroAssetId.or (current.own?.elim base.profile.heroAssetId fun photo ↦
      some photo.heroAssetId) with
  | none => rw [hasset] at h; cases h
  | some heroAssetId =>
      rw [hasset] at h
      obtain ⟨focal, hfocal, h⟩ := ok_of_bind h
      obtain ⟨altTexts, haltTexts, h⟩ := ok_of_bind h
      cases h
      exact ⟨_, rfl, hasset, hfocal, haltTexts⟩

/-- The descriptions an own photo starts from all say something. -/
theorem ownPhotoStart_described {current : PortalLookPhoto} {heroAssetId : String}
    (hcurrent : ∀ photo, current = .own photo → Described photo.altTexts)
    (hbase : Described base.heroAltTexts) :
    Described (ownPhotoStart current base heroAssetId).altTexts := by
  have hempty : Described (.empty : PortalHeroAltTexts) := nofun
  unfold ownPhotoStart
  split
  · next photo hphoto =>
      cases current with
      | inherit | none => cases hphoto
      | own current =>
          obtain ⟨hsome, -⟩ := Option.filter_eq_some_iff.1 hphoto
          cases hsome
          exact hcurrent _ rfl
  · split
    · split_ifs
      · exact hbase
      · exact hempty
    · exact hempty

/-- The override with one group taken from another. -/
def PortalLookOverride.take (override source : PortalLookOverride) :
    PortalLookGroup → PortalLookOverride
  | .photo => { override with photo := source.photo }
  | .colours => { override with colours := source.colours }
  | .identity => { override with identity := source.identity }

/-- Two overrides that are the same in a group. -/
def AgreeOn (a b : PortalLookOverride) : PortalLookGroup → Prop
  | .photo => a.photo = b.photo
  | .colours => a.colours = b.colours
  | .identity => a.identity = b.identity

/-- A change moves the group it names, and decides on nothing but that group. -/
theorem withChange_eq_take (h : withChange readLookContrast before base change = .ok after) :
    after = before.take after change.group ∧
      ∀ other, AgreeOn other before change.group →
        withChange readLookContrast other base change = .ok (other.take after change.group) := by
  cases change with
  | coloursInherit | identityInherit | photoInherit | photoNone =>
      cases h
      exact ⟨rfl, fun _ _ ↦ rfl⟩
  | coloursOwn edit =>
      obtain ⟨colours, hcolours, h⟩ := ok_of_bind h
      cases h
      refine ⟨rfl, fun other agree ↦ ?_⟩
      rw [withChange, show other.colours = before.colours from agree, hcolours]
      rfl
  | identityOwn edit =>
      obtain ⟨identity, hidentity, h⟩ := ok_of_bind h
      cases h
      refine ⟨rfl, fun other agree ↦ ?_⟩
      rw [withChange, show other.identity = before.identity from agree, hidentity]
      rfl
  | photoOwn edit =>
      obtain ⟨photo, hphoto, h⟩ := ok_of_bind h
      cases h
      refine ⟨rfl, fun other agree ↦ ?_⟩
      rw [withChange, show other.photo = before.photo from agree, hphoto]
      rfl

/-- A change keeps every photo described throughout. -/
theorem withChange_described (hbefore : before.Described) (hbase : Described base.heroAltTexts)
    (h : withChange readLookContrast before base change = .ok after) : after.Described := by
  intro photo hown
  cases change with
  | coloursInherit | identityInherit =>
      cases h
      exact hbefore photo hown
  | photoInherit | photoNone =>
      cases h
      cases hown
  | coloursOwn edit =>
      obtain ⟨colours, -, h⟩ := ok_of_bind h
      cases h
      exact hbefore photo hown
  | identityOwn edit =>
      obtain ⟨identity, -, h⟩ := ok_of_bind h
      cases h
      exact hbefore photo hown
  | photoOwn edit =>
      obtain ⟨next, hnext, h⟩ := ok_of_bind h
      cases h
      obtain ⟨edited, rfl, hedited⟩ := nextOwnPhoto_ok hnext
      cases hown
      exact changedAltTexts_described (ownPhotoStart_described hbefore hbase) hedited.altTexts

/-- What an accepted change is: the group moved, and the version with it if something moved. -/
theorem nextPortalLook_ok {current : Option PortalLookOverride} {next : NextPortalLook}
    (h : nextPortalLook readLookContrast current base change = .ok next) :
    ∃ after, withChange readLookContrast (current.getD (followingEverything base)) base change =
        .ok after ∧
      next.changedFacets =
        changedPortalLookFacets base (current.getD (followingEverything base)) after ∧
      next.override = { after with
        lookVersion :=
          if changedPortalLookFacets base (current.getD (followingEverything base)) after = [] then
            (current.getD (followingEverything base)).lookVersion
          else (current.getD (followingEverything base)).lookVersion + 1 } := by
  obtain ⟨after, hafter, h⟩ := ok_of_bind h
  cases h
  exact ⟨after, hafter, rfl, rfl⟩

/-- Every override reached is described throughout. -/
theorem Reached.described {current : Option PortalLookOverride}
    (reached : Reached readLookContrast current) :
    ∀ override, current = some override → override.Described := by
  induction reached with
  | none => nofun
  | @step current base contents change next _ valid accepted ih =>
      intro override hoverride
      cases hoverride
      obtain ⟨after, hafter, -, hnext⟩ := nextPortalLook_ok accepted
      have hbefore : (current.getD (followingEverything base)).Described := by
        cases current with
        | none => nofun
        | some override => exact ih override rfl
      rw [hnext]
      exact fun photo hown ↦ withChange_described hbefore valid.described hafter photo hown

/-! ## Which facets move -/

/-- The colours guests see. -/
def seenColours (profile : PortalLookProfile) : PortalLookColours → String × String × String
  | .inherit => (profile.primaryColor, profile.backgroundMode, profile.backgroundColor)
  | .own colours => (colours.accent, colours.backgroundMode.code, colours.backgroundColour)

/-- The name and logo guests see. -/
def seenIdentity (profile : PortalLookProfile) : PortalLookIdentity → Option String × Option String
  | .inherit => (profile.wordmark, profile.logoAssetId)
  | .own identity => (identity.wordmark, identity.logoAssetId)

/-- The photo guests see. -/
def seenPhoto (profile : PortalLookProfile) : PortalLookPhoto → Option String × Option ℚ × Option ℚ
  | .inherit => (profile.heroAssetId, profile.heroFocalX, profile.heroFocalY)
  | .none => (none, none, none)
  | .own photo => (some photo.heroAssetId, some photo.focalX, some photo.focalY)

/-- The profile an override gives, by its groups. -/
theorem applyPortalLook_some (profile : PortalLookProfile) (override : PortalLookOverride) :
    applyPortalLook profile (some override) =
      { primaryColor := (seenColours profile override.colours).1
        backgroundMode := (seenColours profile override.colours).2.1
        backgroundColor := (seenColours profile override.colours).2.2
        wordmark := (seenIdentity profile override.identity).1
        logoAssetId := (seenIdentity profile override.identity).2
        heroAssetId := (seenPhoto profile override.photo).1
        heroFocalX := (seenPhoto profile override.photo).2.1
        heroFocalY := (seenPhoto profile override.photo).2.2
        lookVersion := override.lookVersion } := by
  obtain ⟨photo, colours, identity, version⟩ := override
  cases photo <;> cases colours <;> cases identity <;> rfl

theorem sameAltTexts_iff {a b : PortalHeroAltTexts} : sameAltTexts a b = true ↔ a = b := by
  rw [sameAltTexts, List.all_eq_true]
  constructor
  · intro h
    funext locale
    exact beq_iff_eq.1 (h locale (mem_guestLocales locale))
  · rintro rfl
    exact fun _ _ ↦ beq_self_eq_true _

/-- Whether a facet stays the same between two overrides, by the groups it belongs to. -/
def StaysSame (base : PortalLookBase) (a b : PortalLookOverride) : PortalLookFacet → Prop
  | .accent => (seenColours base.profile a.colours).1 = (seenColours base.profile b.colours).1
  | .field => (seenColours base.profile a.colours).2 = (seenColours base.profile b.colours).2
  | .wordmark => (seenIdentity base.profile a.identity).1 = (seenIdentity base.profile b.identity).1
  | .logo => (seenIdentity base.profile a.identity).2 = (seenIdentity base.profile b.identity).2
  | .photo => seenPhoto base.profile a.photo = seenPhoto base.profile b.photo ∧
      effectiveAltTexts base a = effectiveAltTexts base b

/-- A change lists exactly the facets that do not stay the same. -/
theorem mem_changedPortalLookFacets {facet : PortalLookFacet} :
    facet ∈ changedPortalLookFacets base before after ↔ ¬ StaysSame base before after facet := by
  have hlisted : facet ∈ portalLookFacets := by cases facet <;> decide
  simp only [changedPortalLookFacets, List.mem_filter, hlisted, true_and, applyPortalLook_some]
  cases facet with
  | accent | wordmark | logo => simp [facetMoved, StaysSame]
  | field => simp [facetMoved, StaysSame, Prod.ext_iff, or_iff_not_imp_left]
  | photo =>
      simp only [facetMoved, StaysSame, Bool.or_eq_true, bne_iff_ne, Bool.not_eq_true', Prod.ext_iff,
        not_and_or, ← sameAltTexts_iff, ← Bool.not_eq_true]
      tauto

theorem changedPortalLookFacets_eq_nil :
    changedPortalLookFacets base before after = [] ↔ ∀ facet, StaysSame base before after facet := by
  simp only [List.eq_nil_iff_forall_not_mem, mem_changedPortalLookFacets, not_not]

/-! ## The look shown -/

theorem mem_altTextMembers {texts : PortalHeroAltTexts} {locale : GuestLocale} {text : String} :
    (locale, text) ∈ altTextMembers texts ↔ texts locale = some text := by
  simp [altTextMembers, mem_guestLocales]

/-- A Portal with its own photo shows that photo's descriptions. -/
theorem descriptionIn_own {photo : OwnPhoto} (hown : before.photo = .own photo)
    (described : Described photo.altTexts) (locale : GuestLocale) :
    descriptionIn (withPortalHeroAlt contents (some before)) locale = photo.altTexts locale := by
  simp only [withPortalHeroAlt, Option.elim_some, hown, descriptionIn, List.find?_append,
    List.find?_map]
  cases hrow : contents.find? ((fun row ↦ row.locale == locale.code) ∘ fun row ↦
      { row with heroAltText := (parseGuestLocale row.locale).bind photo.altTexts }) with
  | some row =>
      have hcode := List.find?_some hrow
      have hlocale : row.locale = locale.code := beq_iff_eq.1 hcode
      simp [hlocale, parseGuestLocale_code]
  | none =>
      have habsent : locale.code ∉ contents.map (·.locale) := by
        intro mem
        obtain ⟨row, hmem, hlocale⟩ := List.mem_map.1 mem
        have hnot := List.find?_eq_none.1 hrow row hmem
        simp [hlocale] at hnot
      simp only [Option.map_none, Option.none_or]
      cases hfound : ((altTextMembers photo.altTexts).filterMap fun member ↦
          if member.1.code ∉ contents.map (·.locale) ∧ isBlank member.2 = false then
            some (⟨member.1.code, "", "", some member.2⟩ : PortalHeroAltContent)
          else none).find? fun row ↦ row.locale == locale.code with
      | none =>
          cases htext : photo.altTexts locale with
          | none => rfl
          | some text =>
              have hnot := List.find?_eq_none.1 hfound ⟨locale.code, "", "", some text⟩ (by
                rw [List.mem_filterMap]
                exact ⟨(locale, text), mem_altTextMembers.2 htext,
                  if_pos ⟨habsent, described locale text htext⟩⟩)
              simp at hnot
      | some row =>
          have hcode := List.find?_some hfound
          have hlocale : row.locale = locale.code := beq_iff_eq.1 hcode
          obtain ⟨⟨key, text⟩, hmem, hrow⟩ := List.mem_filterMap.1 (List.mem_of_find?_eq_some hfound)
          split_ifs at hrow with hwritten
          cases hrow
          have hkey : key = locale := GuestLocale.eq_of_code_eq hlocale
          rw [← hkey, mem_altTextMembers.1 hmem]
          rfl

/-- The photo descriptions guests see are those the edit compares. -/
theorem shownLook_descriptions (valid : base.Valid contents) (described : before.Described) :
    (shownLook base contents (some before)).descriptions = effectiveAltTexts base before := by
  funext locale
  simp only [shownLook, applyPortalLook_some, effectiveAltTexts]
  cases hphoto : before.photo with
  | none => rfl
  | own photo => exact descriptionIn_own hphoto (described photo hphoto) locale
  | inherit =>
      by_cases hhero : base.profile.heroAssetId = none
      · simp [seenPhoto, hhero, KeyedRecord.empty]
      · simp [seenPhoto, hhero, withPortalHeroAlt, hphoto, valid.heroAltTexts]

/-- A Portal without an override shows what one following everything shows. -/
theorem shownLook_getD (current : Option PortalLookOverride) :
    shownLook base contents (some (current.getD (followingEverything base))) =
      shownLook base contents current := by
  cases current with
  | none => rfl
  | some override => rfl

/-- A facet stays the same exactly when guests see the same of it. -/
theorem sameFacet_iff (valid : base.Valid contents) (hbefore : before.Described)
    (hafter : after.Described) {facet : PortalLookFacet} :
    SameFacet (shownLook base contents (some before)) (shownLook base contents (some after)) facet ↔
      StaysSame base before after facet := by
  cases facet with
  | photo =>
      simp only [SameFacet, shownLook_descriptions valid hbefore, shownLook_descriptions valid hafter]
      simp only [shownLook, applyPortalLook_some, StaysSame]
  | accent | field | wordmark | logo =>
      simp only [SameFacet, shownLook, applyPortalLook_some, StaysSame]

/-- Guests see the same look when every facet stays the same. -/
theorem shownLook_eq (valid : base.Valid contents) (hbefore : before.Described)
    (hafter : after.Described) (same : ∀ facet, StaysSame base before after facet)
    (version : before.lookVersion = after.lookVersion) :
    shownLook base contents (some before) = shownLook base contents (some after) := by
  have hfacet := fun facet ↦ (sameFacet_iff valid hbefore hafter).2 (same facet)
  obtain ⟨hphoto, hdescriptions⟩ := hfacet .photo
  apply ShownLook.ext
  · exact hfacet .accent
  · exact hfacet .field
  · exact hfacet .wordmark
  · exact hfacet .logo
  · exact hphoto
  · exact hdescriptions
  · simpa only [shownLook, applyPortalLook_some] using version

/-! ## One change -/

/-- A facet of a group in which two overrides agree stays the same. -/
theorem StaysSame.of_agreeOn {group : PortalLookGroup} (agree : AgreeOn before after group)
    {facet : PortalLookFacet} (mem : group ∈ lookGroupsOfFacet facet) :
    StaysSame base before after facet := by
  cases facet with
  | accent | field =>
      cases List.mem_singleton.1 mem
      simp only [StaysSame, show before.colours = after.colours from agree]
  | wordmark | logo =>
      cases List.mem_singleton.1 mem
      simp only [StaysSame, show before.identity = after.identity from agree]
  | photo =>
      cases List.mem_singleton.1 mem
      have hphoto : before.photo = after.photo := agree
      exact ⟨by rw [hphoto], by rw [effectiveAltTexts, effectiveAltTexts, hphoto]⟩

theorem agreeOn_take (source : PortalLookOverride) {group group' : PortalLookGroup}
    (ne : group' ≠ group) : AgreeOn before (before.take source group) group' := by
  cases group <;> cases group' <;> first | exact absurd rfl ne | rfl

/-- Every facet belongs to a group, and to one only. -/
theorem lookGroupsOfFacet_unique (facet : PortalLookFacet) :
    ∃ group, lookGroupsOfFacet facet = [group] := by
  cases facet <;> exact ⟨_, rfl⟩

/-- A change lists only facets of its own group. -/
theorem group_mem_of_changed (h : withChange readLookContrast before base change = .ok after)
    {facet : PortalLookFacet} (mem : facet ∈ changedPortalLookFacets base before after) :
    change.group ∈ lookGroupsOfFacet facet := by
  by_contra hnot
  obtain ⟨group, hgroup⟩ := lookGroupsOfFacet_unique facet
  rw [hgroup, List.mem_singleton] at hnot
  apply mem_changedPortalLookFacets.1 mem
  rw [(withChange_eq_take h).1]
  exact .of_agreeOn (agreeOn_take after fun heq ↦ hnot heq.symm) (hgroup ▸ List.mem_singleton_self _)

end ReputationKey.Portal
