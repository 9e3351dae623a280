import ReputationKey.Portal.PortalLook
import ReputationKey.Base.KeyedList
import Mathlib.Data.List.Sort

/-!
# The working copy a publication is made from

The rows of one Portal and the source they resolve to: the Property's wording in each language with
the Portal's own in its place, the approved links with their wording, the look with the Portal's own
groups laid over it. Follows `src/src/contexts/portal/infrastructure/portal-working-copy.reader.ts`,
`src/src/contexts/portal/domain/portal-linktree.ts` and
`src/src/contexts/portal/domain/property-wording.ts`.
-/

namespace ReputationKey.Portal

open ReputationKey.Base ReputationKey.Shared

/-! ## Rows -/

/-- A Property's wording in one language. -/
structure PropertyContentRow where
  locale : GuestLocale
  title : String
  shortDescription : String
  heroAltText : Option String
  deriving DecidableEq, Repr

/-- The row as the photo's descriptions are laid over it. -/
def PropertyContentRow.altContent (row : PropertyContentRow) : PortalHeroAltContent :=
  ⟨row.locale.code, row.title, row.shortDescription, row.heroAltText⟩

/-- A Portal's own wording in one language; `none` follows the Property. -/
structure PortalLocalizedOverride where
  locale : GuestLocale
  title : Option String
  shortDescription : Option String
  linktreeTitle : Option String
  deriving DecidableEq, Repr

/-- A link with its legacy label and the destination it is joined with. -/
structure PortalLinkRow where
  id : String
  label : String
  iconKey : Option String
  imageAssetId : Option String
  destinationUri : Option String
  destinationApprovalState : Option String
  deriving DecidableEq, Repr

/-- A stored text of a link. -/
structure StoredPortalLinkText where
  linkId : String
  locale : GuestLocale
  label : String
  line : Option String
  provenance : Option String
  deriving DecidableEq, Repr

/-- The Brand Profile of a Property. -/
structure PortalBrandRow extends PortalLookProfile where
  displayName : String
  deriving DecidableEq, Repr

/-- An image that may be served and what it was uploaded for. -/
structure ServableMedia extends PublicationMedia where
  purpose : String
  deriving DecidableEq, Repr

/-- The Portal row a working copy is of. -/
structure PortalRow where
  id : String
  organizationId : String
  propertyId : String
  name : String
  publicName : Option String
  slug : String
  privateFeedbackThreshold : JsNumber
  skipPrivateRating : Bool
  linktreeEnabled : Bool
  primaryGuestLocale : GuestLocale
  additionalGuestLocales : List GuestLocale
  deriving DecidableEq, Repr

/-- The stored rows of a Portal's working copy. Each table holds at most one row for a language, and
a link is stored under an id of its own. -/
structure PortalWorkingRows where
  portal : PortalRow
  timeZone : Option String
  contents : List PropertyContentRow
  overrides : List PortalLocalizedOverride
  links : List PortalLinkRow
  linkTexts : List StoredPortalLinkText
  brand : Option PortalBrandRow
  lookOverride : Option PortalLookOverride
  media : String → Option ServableMedia
  oneContent : (contents.map (·.locale)).Nodup
  oneOverride : (overrides.map (·.locale)).Nodup
  oneLink : (links.map (·.id)).Nodup
  oneText : (linkTexts.map fun text ↦ (text.linkId, text.locale)).Nodup

/-! ## Wording -/

/-- Whether a language's Property content row carries wording. -/
def hasPropertyWording (title shortDescription : String) : Bool :=
  !isBlank title || !isBlank shortDescription

/-- The languages a Portal offers, the primary one first. -/
def offeredLocales (primary : GuestLocale) (additional : List GuestLocale) : List GuestLocale :=
  (primary :: additional).eraseDups

/-- What each offered language was given, as written: a text nobody wrote is `none`. -/
def resolveWording (localeSet : List GuestLocale) (contents : List PortalHeroAltContent)
    (overrides : List PortalLocalizedOverride) : KeyedRecord GuestLocale PublicationWording :=
  .ofEntries (localeSet.map fun locale ↦
    let content := indexBy (·.locale) contents locale.code
    let override := indexBy (·.locale) overrides locale
    -- A row holding just the photograph's description is not wording.
    let wording := content.filter fun row ↦ hasPropertyWording row.title row.shortDescription
    (locale,
      { title := wording.map fun row ↦ (override.bind (·.title)).getD row.title
        shortDescription :=
          wording.map fun row ↦ (override.bind (·.shortDescription)).getD row.shortDescription
        heroAlt := content.bind (·.heroAltText)
        linktreeTitle := override.bind (·.linktreeTitle) }))

/-! ## Links -/

/-- Where a resolved link text comes from. -/
inductive LinkTextSource
  | text
  | legacyLabel
  deriving DecidableEq, Repr

/-- A text of a link after the legacy fallback. -/
structure ResolvedPortalLinkText extends StoredPortalLinkText where
  source : LinkTextSource
  deriving DecidableEq, Repr

/-- The place of a locale among a link's texts, the primary one first. -/
def localeRank (primary locale : GuestLocale) : ℤ :=
  if locale = primary then -1 else guestLocales.idxOf locale

/-- The texts of one link. -/
def textsOfLink (texts : List StoredPortalLinkText) (primary : GuestLocale) (id label : String) :
    List ResolvedPortalLinkText :=
  let own := (texts.filter fun text ↦ text.linkId == id).map fun text ↦
    (⟨text, .text⟩ : ResolvedPortalLinkText)
  let fallback : List ResolvedPortalLinkText :=
    if (own.any fun text ↦ text.locale == primary) = true then []
    else [⟨⟨id, primary, label, none, none⟩, .legacyLabel⟩]
  (own ++ fallback).insertionSort fun a b ↦ localeRank primary a.locale ≤ localeRank primary b.locale

/-- Every text of every link, in link order then language order. -/
def resolveLinkTexts (links : List (String × String)) (texts : List StoredPortalLinkText)
    (primary : GuestLocale) : List ResolvedPortalLinkText :=
  links.flatMap fun link ↦ textsOfLink texts primary link.1 link.2

/-- A link with its address, if that is an approved Property destination. -/
def approvedLink (link : PortalLinkRow) : Option (PortalLinkRow × String) :=
  match link.destinationUri with
  | some url =>
      if link.destinationApprovalState = some "approved" ∧ url ≠ "" then some (link, url) else none
  | none => none

/-- The wording of a link text. -/
def ResolvedPortalLinkText.wording (text : ResolvedPortalLinkText) : PublicationLinkText :=
  ⟨text.label, text.line, text.provenance == some "ai_draft"⟩

/-- An approved link with its wording per language. -/
def publicationLink (media : String → Option ServableMedia) (texts : List ResolvedPortalLinkText)
    (entry : PortalLinkRow × String) : PublicationLink where
  id := entry.1.id
  url := entry.2
  iconKey := entry.1.iconKey
  imageAssetId := entry.1.imageAssetId.filter fun id ↦ id ≠ "" && (media id).isSome
  texts := .ofEntries ((texts.filter fun text ↦ text.linkId == entry.1.id).map fun text ↦
    (text.locale, text.wording))

/-- The links a guest can open, each with its wording per language. -/
def readLinks (links : List PortalLinkRow) (linkTexts : List StoredPortalLinkText)
    (media : String → Option ServableMedia) (primary : GuestLocale) : List PublicationLink :=
  let approved := links.filterMap approvedLink
  let texts := resolveLinkTexts (approved.map fun entry ↦ (entry.1.id, entry.1.label)) linkTexts primary
  approved.map (publicationLink media texts)

/-! ## The look -/

/-- The image a slot of the look may show: servable, and uploaded for that slot. -/
def mediaForSlot (media : String → Option ServableMedia) (purpose : String) (assetId : Option String) :
    Option PublicationMedia :=
  ((assetId.bind media).filter fun asset ↦ asset.purpose == purpose).map
    (·.toImmersiveMediaReference)

/-- The look of the working copy. -/
def readLook (brand : Option PortalBrandRow) (media : String → Option ServableMedia) :
    Option PublicationLook :=
  brand.map fun row ↦
    { displayName := row.displayName
      wordmark := row.wordmark
      accentColour := row.primaryColor
      backgroundColour := row.backgroundColor
      backgroundMode := if row.backgroundMode = "manual" then .manual else .auto
      lookVersion := .finite row.lookVersion
      logo := mediaForSlot media "logo" row.logoAssetId
      hero :=
        match mediaForSlot media "hero" row.heroAssetId, row.heroFocalX, row.heroFocalY with
        | some hero, some focalX, some focalY => some ⟨hero, .finite focalX, .finite focalY⟩
        | _, _, _ => none }

/-! ## The source -/

/-- The working copy of one Portal. The Portal's own look is laid over the Property's rows first; a
Property with no Brand Profile has no look to lay it over. -/
def readPortalWorkingCopy (rows : PortalWorkingRows) : PortalPublicationSource :=
  let lookOverride := if rows.brand = none then none else rows.lookOverride
  let brand := rows.brand.map fun row ↦
    { row with toPortalLookProfile := applyPortalLook row.toPortalLookProfile lookOverride }
  let contents := withPortalHeroAlt (rows.contents.map (·.altContent)) lookOverride
  let primary := rows.portal.primaryGuestLocale
  let localeSet := offeredLocales primary rows.portal.additionalGuestLocales
  { organizationId := rows.portal.organizationId
    propertyId := rows.portal.propertyId
    portal := ⟨rows.portal.id, rows.portal.publicName.getD rows.portal.name, rows.portal.slug⟩
    privateFeedbackThreshold := rows.portal.privateFeedbackThreshold
    skipPrivateRating := rows.portal.skipPrivateRating
    primaryGuestLocale := primary
    localeSet := localeSet
    linktreeEnabled := rows.portal.linktreeEnabled
    timeZone := rows.timeZone
    look := readLook brand rows.media
    wording := resolveWording localeSet contents rows.overrides
    links := readLinks rows.links rows.linkTexts rows.media primary }

end ReputationKey.Portal
