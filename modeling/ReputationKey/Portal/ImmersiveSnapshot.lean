import ReputationKey.Base.JsNumber
import ReputationKey.Base.KeyedRecord
import ReputationKey.Shared.GuestLocale
import ReputationKey.Shared.PortalContactAddress

/-!
# Immersive publication configurations

The content of a schema version 3 snapshot and what the reader asks of it before it serves it.
Texts are strings of Unicode scalar values. Follows
`src/src/contexts/portal/domain/portal-publication-snapshot.ts` and
`src/src/contexts/portal/domain/portal-immersive-snapshot.ts`.
-/

namespace ReputationKey.Portal

open ReputationKey.Base ReputationKey.Shared

/-! ## The configuration -/

/-- The first snapshot schema rendered by the Immersive Hub guest page. -/
def immersiveHubSchemaVersion : Nat := 3

/-- The language-pack generation a snapshot schema version may carry. -/
def languagePackGenerationOf (schemaVersion : Nat) : Nat :=
  if immersiveHubSchemaVersion ≤ schemaVersion then 2 else 1

/-- A piece of guest-facing text and the locale it was copied from, if any. -/
structure PortalSnapshotText where
  value : String
  fallbackFrom : Option GuestLocale
  deriving DecidableEq, Repr

/-- The text of a page in one locale. -/
structure ImmersiveLocalizedContent where
  title : PortalSnapshotText
  shortDescription : PortalSnapshotText
  heroAlt : PortalSnapshotText
  linktreeTitle : PortalSnapshotText
  deriving DecidableEq, Repr

/-- One locale's wording of a link, written or copied as a unit. -/
structure ImmersiveLinkText where
  label : String
  line : Option String
  fallbackFrom : Option GuestLocale
  deriving DecidableEq, Repr

/-- A link tile. -/
structure ImmersiveLink where
  id : String
  url : String
  iconKey : Option String
  imageAssetId : Option String
  texts : KeyedRecord GuestLocale ImmersiveLinkText

/-- A stored image with its size. -/
structure ImmersiveMediaReference where
  assetId : String
  width : JsNumber
  height : JsNumber
  deriving DecidableEq, Repr

/-- A hero photo with its focal point. -/
structure ImmersiveHeroReference extends ImmersiveMediaReference where
  focalX : JsNumber
  focalY : JsNumber
  deriving DecidableEq, Repr

/-- The look of a page. -/
structure ImmersiveBrandProfile where
  displayName : String
  wordmark : Option String
  logo : Option ImmersiveMediaReference
  hero : Option ImmersiveHeroReference
  accentColour : String
  fieldColour : String
  lookVersion : JsNumber
  deriving DecidableEq, Repr

/-- The Portal a configuration is of. -/
structure PortalReference where
  id : String
  slug : String
  deriving DecidableEq, Repr

/-- The part of a configuration that comes from the working copy. -/
structure ImmersivePublicationContent where
  portal : PortalReference
  guestLocale : GuestLocale
  languagePackVersion : String
  localeSet : List GuestLocale
  languagePackVersions : KeyedRecord GuestLocale String
  localizedContent : KeyedRecord GuestLocale ImmersiveLocalizedContent
  linktreeEnabled : Bool
  links : List ImmersiveLink
  brandProfile : ImmersiveBrandProfile
  timeZone : String
  aiDraftTextKeys : Option (List String)

/-- The private-feedback gate and the Google destination behind it. -/
structure ReviewGateway where
  privateFeedbackThreshold : JsNumber
  skipPrivateRating : Option Bool
  googleReviewUri : String
  deriving DecidableEq, Repr

/-- The verified Google destination a configuration is bound to. The ISO text of the retrieval is
kept as the instant it writes. -/
structure GoogleReviewBinding where
  retrievedAt : Int
  sourceEpoch : JsNumber
  profileVersion : JsNumber
  deriving DecidableEq, Repr

/-- A schema version 3 configuration. -/
structure ImmersiveConfiguration extends ImmersivePublicationContent where
  reviewGateway : ReviewGateway
  googleReviewBinding : GoogleReviewBinding

/-! ## What the platform knows -/

/-- What the reader asks the platform: whether `Intl` knows a time zone, and the protocol of a text
the URL parser accepts. -/
structure ReaderPlatform where
  knowsTimeZone : String → Bool
  urlProtocol : String → Option String

/-! ## The reader -/

/-- The limits of the reader. -/
structure SnapshotLimits where
  titleLength : Nat
  shortDescriptionLength : Nat
  heroAltLength : Nat
  linktreeTitleLength : Nat
  linkLabelLength : Nat
  linkLineLength : Nat
  displayNameLength : Nat
  wordmarkLength : Nat
  maxLinks : Nat
  maxMediaPixels : Nat
  idLength : Nat

/-- The limits of schema version 3. -/
def immersiveSnapshotLimits : SnapshotLimits where
  titleLength := 120
  shortDescriptionLength := 500
  heroAltLength := 300
  linktreeTitleLength := 120
  linkLabelLength := 120
  linkLineLength := 300
  displayNameLength := 120
  wordmarkLength := 24
  maxLinks := 50
  maxMediaPixels := 16384
  idLength := 64

/-- A lower-case ASCII letter or a digit. -/
def isLowerOrDigit (c : Char) : Bool := c.isLower || c.isDigit

/-- `^[a-z0-9][a-z0-9-]{0,39}$`. -/
def matchesIconKey (key : String) : Bool :=
  match key.toList with
  | [] => false
  | first :: rest =>
      isLowerOrDigit first && rest.all (fun c ↦ isLowerOrDigit c || c == '-') &&
        decide (rest.length ≤ 39)

/-- A hexadecimal digit in either case. -/
def isHexDigit (c : Char) : Bool :=
  c.isDigit || (decide ('a' ≤ c) && decide (c ≤ 'f')) || (decide ('A' ≤ c) && decide (c ≤ 'F'))

/-- `^#[0-9a-f]{6}$` in either case. -/
def matchesHexColour (colour : String) : Bool :=
  match colour.toList with
  | '#' :: digits => decide (digits.length = 6) && digits.all isHexDigit
  | _ => false

/-- An identifier that is present and no longer than the limit. -/
def isBoundedId (value : String) : Bool :=
  decide (0 < utf16Length value) && decide (utf16Length value ≤ immersiveSnapshotLimits.idLength)

/-- `^[A-Z][A-Za-z_]+$`. -/
def matchesZoneArea (area : List Char) : Bool :=
  match area with
  | [] => false
  | first :: rest => first.isUpper && !rest.isEmpty && rest.all fun c ↦ c.isAlpha || c == '_'

/-- `^[A-Za-z0-9_+-]+$`. -/
def matchesZonePlace (place : List Char) : Bool :=
  !place.isEmpty && place.all fun c ↦ c.isAlphanum || c == '_' || c == '+' || c == '-'

/-- The canonical shape of an IANA zone name. -/
def hasIanaShape (timeZone : String) : Bool :=
  if timeZone = "UTC" then true
  else
    match timeZone.toList.splitOn '/' with
    | [] => false
    | area :: places => matchesZoneArea area && !places.isEmpty && places.all matchesZonePlace

/-- An IANA zone name the runtime knows. -/
def isValidTimeZone (platform : ReaderPlatform) (timeZone : String) : Bool :=
  hasIanaShape timeZone && platform.knowsTimeZone timeZone

/-- A website address. -/
def isHttpsUrl (platform : ReaderPlatform) (value : String) : Bool :=
  platform.urlProtocol value == some "https:"

/-- A website, or a phone number or email address in its stored form. -/
def isLinkUrl (platform : ReaderPlatform) (value : String) : Bool :=
  isHttpsUrl platform value || isPortalContactUri value

/-- The keys of a record are the members of a list, counted with their repetitions. -/
def sameMembers (keys localeSet : List GuestLocale) : Bool :=
  decide (keys.length = localeSet.length) && localeSet.all fun locale ↦ keys.contains locale

/-- The keys of a record of locales. -/
def localeKeys {α : Type} (record : KeyedRecord GuestLocale α) : List GuestLocale :=
  record.keys guestLocales

/-- One locale's wording of something, reduced to what the fallback rules compare. -/
structure Wording (φ : Type) where
  fallbackFrom : Option GuestLocale
  fingerprint : φ

section Fallbacks

variable {φ : Type} [DecidableEq φ]

/-- Whether one locale's wording is its own, or a copy of another locale's own wording. -/
def fallbackHolds (localeSet : List GuestLocale) (wordingOf : GuestLocale → Option (Wording φ))
    (locale : GuestLocale) : Bool :=
  match wordingOf locale with
  | none => false
  | some own =>
      match own.fallbackFrom with
      | none => true
      | some sourceLocale =>
          sourceLocale != locale && localeSet.contains sourceLocale &&
            match wordingOf sourceLocale with
            | none => false
            | some source =>
                source.fallbackFrom.isNone && source.fingerprint == own.fingerprint

/-- A fallback is a copy, and the primary locale is always written. -/
def fallbacksHold (localeSet : List GuestLocale) (primary : GuestLocale)
    (wordingOf : GuestLocale → Option (Wording φ)) : Bool :=
  ((wordingOf primary).any fun wording ↦ wording.fallbackFrom.isNone) &&
    localeSet.all (fallbackHolds localeSet wordingOf)

end Fallbacks

/-- The locale set is a duplicate-free list of catalogue locales, the primary first. -/
def hasValidLocaleSet (configuration : ImmersiveConfiguration) : Bool :=
  decide (1 ≤ configuration.localeSet.length) && decide configuration.localeSet.Nodup &&
    configuration.localeSet.all (fun locale ↦ guestLocales.contains locale) &&
    configuration.localeSet.head? == some configuration.guestLocale

/-- Every locale of the set, and only those, carries a generation 2 pack of its own language. -/
def hasGenerationTwoPacks (configuration : ImmersiveConfiguration) : Bool :=
  sameMembers (localeKeys configuration.languagePackVersions) configuration.localeSet &&
    configuration.localeSet.all (fun locale ↦
      (configuration.languagePackVersions locale).any fun version ↦
        isSupportedGuestLanguagePack locale version
          (languagePackGenerationOf immersiveHubSchemaVersion)) &&
    some configuration.languagePackVersion ==
      configuration.languagePackVersions configuration.guestLocale

/-- A text no longer than a limit. -/
def isBoundedText (text : PortalSnapshotText) (maxLength : Nat) : Bool :=
  decide (utf16Length text.value ≤ maxLength)

/-- The texts of one locale are present where they must be and within the limits. -/
def isCompleteLocaleContent (content : ImmersiveLocalizedContent) (needsLinktreeTitle : Bool) :
    Bool :=
  let limits := immersiveSnapshotLimits
  !isBlank content.title.value && isBoundedText content.title limits.titleLength &&
    !isBlank content.shortDescription.value &&
    isBoundedText content.shortDescription limits.shortDescriptionLength &&
    isBoundedText content.heroAlt limits.heroAltLength &&
    isBoundedText content.linktreeTitle limits.linktreeTitleLength &&
    (!needsLinktreeTitle || !isBlank content.linktreeTitle.value)

/-- The texts of a page the fallback rules compare. -/
def textKeys : List (ImmersiveLocalizedContent → PortalSnapshotText) :=
  [(·.title), (·.shortDescription), (·.heroAlt), (·.linktreeTitle)]

/-- What the fallback rules compare of one text. -/
def PortalSnapshotText.wording (text : PortalSnapshotText) : Wording String :=
  ⟨text.fallbackFrom, text.value⟩

/-- Every locale of the set has its text, and the fallbacks are honest copies. -/
def hasCompleteContent (configuration : ImmersiveConfiguration) : Bool :=
  let needsLinktreeTitle := configuration.linktreeEnabled && !configuration.links.isEmpty
  sameMembers (localeKeys configuration.localizedContent) configuration.localeSet &&
    configuration.localeSet.all (fun locale ↦ (configuration.localizedContent locale).any
      fun content ↦ isCompleteLocaleContent content needsLinktreeTitle) &&
    textKeys.all fun key ↦ fallbacksHold configuration.localeSet configuration.guestLocale
      fun locale ↦ (configuration.localizedContent locale).map fun content ↦ (key content).wording

/-- One locale's wording of a link is present and within the limits. -/
def isCompleteLinkText (text : ImmersiveLinkText) : Bool :=
  !isBlank text.label && decide (utf16Length text.label ≤ immersiveSnapshotLimits.linkLabelLength) &&
    text.line.all fun line ↦
      !isBlank line && decide (utf16Length line ≤ immersiveSnapshotLimits.linkLineLength)

/-- A link is well formed and has its wording in every locale. -/
def isCompleteLink (platform : ReaderPlatform) (link : ImmersiveLink)
    (localeSet : List GuestLocale) : Bool :=
  isBoundedId link.id && isLinkUrl platform link.url && link.iconKey.all matchesIconKey &&
    link.imageAssetId.all isBoundedId && sameMembers (localeKeys link.texts) localeSet &&
    localeSet.all fun locale ↦ (link.texts locale).any isCompleteLinkText

/-- What the fallback rules compare of a link: its label and its line, which the JSON text of the
pair tells apart exactly when they differ. -/
def ImmersiveLinkText.wording (text : ImmersiveLinkText) : Wording (String × Option String) :=
  ⟨text.fallbackFrom, (text.label, text.line)⟩

/-- The links are few enough, distinct and complete, and their fallbacks are honest copies. -/
def hasCompleteLinks (platform : ReaderPlatform) (configuration : ImmersiveConfiguration) : Bool :=
  decide (configuration.links.length ≤ immersiveSnapshotLimits.maxLinks) &&
    decide (configuration.links.map (·.id)).Nodup &&
    configuration.links.all fun link ↦
      isCompleteLink platform link configuration.localeSet &&
        fallbacksHold configuration.localeSet configuration.guestLocale fun locale ↦
          (link.texts locale).map ImmersiveLinkText.wording

/-- An image of a positive whole size within the limit. -/
def isValidMedia (media : ImmersiveMediaReference) : Bool :=
  media.width.isInteger && media.height.isInteger &&
    media.width.isWithin 1 immersiveSnapshotLimits.maxMediaPixels &&
    media.height.isWithin 1 immersiveSnapshotLimits.maxMediaPixels

/-- A finite number from zero to one. -/
def isUnitInterval (value : JsNumber) : Bool := value.isFinite && value.isWithin 0 1

/-- A name that is present and within the limit. -/
def isBoundedName (name : String) (maxLength : Nat) : Bool :=
  !isBlank name && decide (utf16Length name ≤ maxLength)

/-- The look is complete and well formed. -/
def isCompleteBrand (brand : ImmersiveBrandProfile) : Bool :=
  let limits := immersiveSnapshotLimits
  isBoundedName brand.displayName limits.displayNameLength &&
    brand.wordmark.all (fun wordmark ↦ isBoundedName wordmark limits.wordmarkLength) &&
    brand.logo.all (fun logo ↦ isBoundedId logo.assetId && isValidMedia logo) &&
    brand.hero.all (fun hero ↦ isBoundedId hero.assetId &&
      isValidMedia hero.toImmersiveMediaReference && isUnitInterval hero.focalX &&
      isUnitInterval hero.focalY) &&
    matchesHexColour brand.accentColour && matchesHexColour brand.fieldColour &&
    brand.lookVersion.isSafeInteger && brand.lookVersion.isAtLeast 1

/-- Whether a configuration is complete. Its gateway's `skipPrivateRating` is absent or a truth
value, as its type says. -/
def isCompleteImmersiveConfiguration (platform : ReaderPlatform)
    (configuration : ImmersiveConfiguration) : Bool :=
  hasValidLocaleSet configuration && hasGenerationTwoPacks configuration &&
    hasCompleteContent configuration && hasCompleteLinks platform configuration &&
    isCompleteBrand configuration.brandProfile &&
    isValidTimeZone platform configuration.timeZone

end ReputationKey.Portal
