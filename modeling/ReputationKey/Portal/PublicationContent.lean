import ReputationKey.Base.KeyedList
import ReputationKey.Portal.ImmersiveSnapshot

/-!
# What differs between two publications

A configuration is read into a neutral view of what it shows guests, and two views are compared part
by part. Views of the first two schemas have the same shape; only the third is read here. Follows
`src/src/contexts/portal/domain/portal-publication-content.ts`.
-/

namespace ReputationKey.Portal

open ReputationKey.Base ReputationKey.Shared

/-! ## Content views -/

/-- The label of a link in one language and the line under it. -/
@[ext]
structure PublicationLinkTextView where
  label : String
  line : Option String
  deriving DecidableEq, Repr

@[ext]
structure PublicationLinkView where
  id : String
  label : String
  address : String
  hasPhoto : Bool
  photoId : Option String
  iconKey : Option String
  texts : KeyedRecord GuestLocale PublicationLinkTextView

/-- The page's title and, on the legacy page, the description under it. -/
@[ext]
structure PublicationWordingView where
  title : String
  description : Option String
  deriving DecidableEq, Repr

inductive PublicationSurface
  | legacy
  | immersive
  deriving DecidableEq, Repr

structure PublicationHeadingView where
  id : String
  title : String
  deriving DecidableEq, Repr

@[ext]
structure PublicationLookView where
  name : Option String
  colours : String
  wordmark : Option String
  logo : Option String
  photo : Option String
  photoFocus : Option String
  deriving DecidableEq, Repr

/-- What a configuration shows guests. -/
structure PublicationContentView where
  schemaVersion : Nat
  surface : PublicationSurface
  primaryLocale : GuestLocale
  locales : List GuestLocale
  links : List PublicationLinkView
  linktreeEnabled : Option Bool
  wording : KeyedRecord GuestLocale PublicationWordingView
  photoDescriptions : KeyedRecord GuestLocale String
  linktreeTitles : KeyedRecord GuestLocale String
  previewTexts : KeyedRecord GuestLocale String
  heroPhotos : KeyedRecord GuestLocale (Option String)
  headings : List PublicationHeadingView
  look : PublicationLookView
  feedbackThreshold : JsNumber
  skipPrivateRating : Bool
  reviewAddress : String

-- How a number is written in a text.
variable (numberText : JsNumber → String)

/-- A link with its label in the primary language. -/
def immersiveLinkView (guestLocale : GuestLocale) (link : ImmersiveLink) : PublicationLinkView where
  id := link.id
  label := ((link.texts guestLocale).map (·.label)).getD ""
  address := link.url
  hasPhoto := link.imageAssetId.isSome
  photoId := link.imageAssetId
  iconKey := link.iconKey
  texts := fun locale ↦ (link.texts locale).map fun text ↦ ⟨text.label, text.line⟩

def immersiveLookView (brandProfile : ImmersiveBrandProfile) : PublicationLookView where
  name := some brandProfile.displayName
  colours := brandProfile.accentColour ++ "/" ++ brandProfile.fieldColour
  wordmark := brandProfile.wordmark
  logo := brandProfile.logo.map (·.assetId)
  photo := brandProfile.hero.map (·.assetId)
  photoFocus := brandProfile.hero.map fun hero ↦
    numberText hero.focalX ++ "," ++ numberText hero.focalY

def immersiveView (configuration : ImmersiveConfiguration) : PublicationContentView where
  schemaVersion := immersiveHubSchemaVersion
  surface := .immersive
  primaryLocale := configuration.guestLocale
  locales := configuration.localeSet
  links := configuration.links.map (immersiveLinkView configuration.guestLocale)
  linktreeEnabled := some configuration.linktreeEnabled
  wording := fun locale ↦
    (configuration.localizedContent locale).map fun content ↦ ⟨content.title.value, none⟩
  previewTexts := fun locale ↦
    (configuration.localizedContent locale).map (·.shortDescription.value)
  heroPhotos := KeyedRecord.empty
  headings := []
  photoDescriptions := fun locale ↦ (configuration.localizedContent locale).map (·.heroAlt.value)
  linktreeTitles := fun locale ↦
    (configuration.localizedContent locale).map (·.linktreeTitle.value)
  look := immersiveLookView numberText configuration.brandProfile
  feedbackThreshold := configuration.reviewGateway.privateFeedbackThreshold
  skipPrivateRating := configuration.reviewGateway.skipPrivateRating == some true
  reviewAddress := configuration.reviewGateway.googleReviewUri

/-! ## Changes -/

inductive PublicationLookFacet
  | colours
  | name
  | wordmark
  | logo
  | photo
  | photoFocus
  deriving DecidableEq, Repr

inductive PublicationWordingField
  | title
  | description
  | linkPreview
  | photoDescription
  | linktreeTitle
  deriving DecidableEq, Repr

inductive PublicationTilePhotoChange
  | added
  | removed
  | replaced
  deriving DecidableEq, Repr

/-- One difference between two configurations, seen from the later one. -/
inductive PublicationContentChange
  | languageAdded (locale : GuestLocale)
  | languageRemoved (locale : GuestLocale)
  | primaryLanguageChanged (was now : GuestLocale)
  | linkAdded (label : String) (hasPhoto : Bool)
  | linkRemoved (label : String) (hasPhoto : Bool)
  | linkRenamed (was now : String)
  | linkAddressChanged (label : String)
  | linkPhotoChanged (label : String) (how : PublicationTilePhotoChange)
  | linkIconChanged (label : String)
  | linkReworded (label : String) (locale : GuestLocale)
  | linksReordered
  | headingRenamed (was now : String)
  | heroPhotoChanged (locale : GuestLocale)
  | linktreeSwitched (enabled : Bool)
  | wordingChanged (field : PublicationWordingField) (locale : GuestLocale)
  | lookChanged (facets : List PublicationLookFacet)
  | designChanged (surface : PublicationSurface)
  | feedbackThresholdChanged (was now : JsNumber)
  | skipPrivateRatingChanged (enabled : Bool)
  | reviewAddressChanged
  deriving DecidableEq, Repr

open PublicationContentChange

def changedLocales (before after : List GuestLocale) : List PublicationContentChange :=
  (after.filter fun locale ↦ !before.contains locale).map languageAdded ++
    (before.filter fun locale ↦ !after.contains locale).map languageRemoved

/-- How the photo of a link changed. -/
def photoChange (was now : Option String) : PublicationTilePhotoChange :=
  if was.isNone then .added else if now.isNone then .removed else .replaced

/-- What is reported of a link that both versions have, under a label, as one of the versions has its
languages: a new label in the primary language is already reported as a rename. -/
def keptLinkChanges (label : String) (locales : List GuestLocale) (primaryLocale : GuestLocale)
    (earlier link : PublicationLinkView) : List PublicationContentChange :=
  (if earlier.label ≠ link.label then [linkRenamed earlier.label link.label] else []) ++
  (if earlier.address ≠ link.address then [linkAddressChanged label] else []) ++
  (if earlier.photoId ≠ link.photoId then
    [linkPhotoChanged label (photoChange earlier.photoId link.photoId)] else []) ++
  (if earlier.iconKey ≠ link.iconKey then [linkIconChanged label] else []) ++
  locales.flatMap fun locale ↦
    match earlier.texts locale, link.texts locale with
    | some wasText, some nowText =>
        if (wasText.label ≠ nowText.label ∧ locale ≠ primaryLocale) ∨ wasText.line ≠ nowText.line then
          [linkReworded label locale]
        else []
    | _, _ => []

/-- The ids of the links that the other version has too, joined by commas. -/
def sharedIds (view : PublicationContentView) (other : KeyedRecord String PublicationLinkView) :
    List Char :=
  [','].intercalate
    ((view.links.filter fun link ↦ (other link.id).isSome).map fun link ↦ link.id.toList)

/-- The links compared, by what is reported of each that both versions have. -/
def changedLinks (kept : PublicationLinkView → PublicationLinkView → List PublicationContentChange)
    (before after : PublicationContentView) : List PublicationContentChange :=
  let was := indexBy (·.id) before.links
  let now := indexBy (·.id) after.links
  (after.links.filter fun link ↦ (was link.id).isNone).map
      (fun link ↦ linkAdded link.label link.hasPhoto) ++
    (before.links.filter fun link ↦ (now link.id).isNone).map
      (fun link ↦ linkRemoved link.label link.hasPhoto) ++
    (after.links.flatMap fun link ↦ (was link.id).elim [] fun earlier ↦ kept earlier link) ++
    (if sharedIds before now ≠ sharedIds after was then [linksReordered] else [])

/-- What each field of the wording in a language was and is. -/
def wordingFields (before after : PublicationContentView) (locale : GuestLocale) :
    List (PublicationWordingField × Option String × Option String) :=
  [(.title, (before.wording locale).map (·.title), (after.wording locale).map (·.title)),
    (.description, (before.wording locale).bind (·.description),
      (after.wording locale).bind (·.description)),
    (.linkPreview, before.previewTexts locale, after.previewTexts locale),
    (.photoDescription, before.photoDescriptions locale, after.photoDescriptions locale),
    (.linktreeTitle, before.linktreeTitles locale, after.linktreeTitles locale)]

def changedWording (before after : PublicationContentView) : List PublicationContentChange :=
  (after.locales.filter fun locale ↦ before.locales.contains locale).flatMap fun locale ↦
    (wordingFields before after locale).flatMap fun (field, was, now) ↦
      if was.isSome ∧ now.isSome ∧ was ≠ now then [wordingChanged field locale] else []

def changedHeadings (before after : PublicationContentView) : List PublicationContentChange :=
  let was := indexBy (·.id) before.headings
  after.headings.flatMap fun heading ↦
    (was heading.id).elim [] fun earlier ↦
      if earlier.title ≠ heading.title then [headingRenamed earlier.title heading.title] else []

def changedHeroPhotos (before after : PublicationContentView) : List PublicationContentChange :=
  after.locales.flatMap fun locale ↦
    match before.heroPhotos locale, after.heroPhotos locale with
    | some was, some now => if was ≠ now then [heroPhotoChanged locale] else []
    | _, _ => []

def lookFacets : List PublicationLookFacet :=
  [.colours, .name, .wordmark, .logo, .photo, .photoFocus]

/-- What a look says of a facet. -/
def PublicationLookView.facet (look : PublicationLookView) : PublicationLookFacet → Option String
  | .colours => some look.colours
  | .name => look.name
  | .wordmark => look.wordmark
  | .logo => look.logo
  | .photo => look.photo
  | .photoFocus => look.photoFocus

/-- Whether a facet of the look changed. The crop only matters for the same photo. -/
def facetChanged (before after : PublicationLookView) (facet : PublicationLookFacet) : Bool :=
  if facet = .photoFocus then before.photo == after.photo && before.photoFocus != after.photoFocus
  else before.facet facet != after.facet facet

def changedLook (before after : PublicationContentView) : List PublicationContentChange :=
  if before.surface ≠ after.surface then [designChanged after.surface]
  else if before.schemaVersion ≠ after.schemaVersion then []
  else
    let facets := lookFacets.filter (facetChanged before.look after.look)
    if facets.length = 0 then [] else [lookChanged facets]

/-- The parts of two views compared. -/
def diffViews (kept : PublicationLinkView → PublicationLinkView → List PublicationContentChange)
    (prior next : PublicationContentView) : List PublicationContentChange :=
  (if prior.primaryLocale ≠ next.primaryLocale then
    [primaryLanguageChanged prior.primaryLocale next.primaryLocale] else []) ++
  changedLocales prior.locales next.locales ++
  changedLinks kept prior next ++
  (if prior.linktreeEnabled.getD true ≠ next.linktreeEnabled.getD true then
    [linktreeSwitched (next.linktreeEnabled.getD true)] else []) ++
  changedWording prior next ++
  changedHeadings prior next ++
  changedHeroPhotos prior next ++
  changedLook prior next ++
  (if prior.skipPrivateRating ≠ next.skipPrivateRating then
    [skipPrivateRatingChanged next.skipPrivateRating] else []) ++
  (if prior.feedbackThreshold.strictEq next.feedbackThreshold = false then
    [feedbackThresholdChanged prior.feedbackThreshold next.feedbackThreshold] else []) ++
  (if prior.reviewAddress ≠ next.reviewAddress then [reviewAddressChanged] else [])

/-- A link that both versions have is named as the later one names it. -/
def keptSeenFromLater (next : PublicationContentView) (earlier link : PublicationLinkView) :
    List PublicationContentChange :=
  keptLinkChanges link.label next.locales next.primaryLocale earlier link

/-- What differs between two configurations, as the guest page would show it. -/
def diffPublicationContent (before : Option ImmersiveConfiguration) (after : ImmersiveConfiguration) :
    List PublicationContentChange :=
  let next := immersiveView numberText after
  match before with
  | none =>
      changedLocales [] next.locales ++ next.links.map fun link ↦ linkAdded link.label link.hasPhoto
  | some before => diffViews (keptSeenFromLater next) (immersiveView numberText before) next

end ReputationKey.Portal
