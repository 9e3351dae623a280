import ReputationKey.Portal.ImmersiveSnapshot

/-!
# What Publish reads and what it makes of it

A publication source is a Portal's working copy. Resolving it fills each gap of another language
with the primary language's text, tagged, and says what stops a publication. Findings are returned
in the order in which the source pushes them. Follows
`src/src/contexts/portal/domain/portal-publication-source.ts`.
-/

namespace ReputationKey.Portal

open ReputationKey.Base ReputationKey.Shared

/-! ## The source -/

/-- How the look chooses the field. -/
inductive BackgroundMode
  | auto
  | manual
  deriving DecidableEq, Repr

/-- A stored image the page may use. -/
abbrev PublicationMedia := ImmersiveMediaReference

/-- A stored hero photo the page may use. -/
abbrev PublicationHero := ImmersiveHeroReference

/-- The look of a Property. -/
structure PublicationLook where
  displayName : String
  wordmark : Option String
  accentColour : String
  backgroundColour : String
  backgroundMode : BackgroundMode
  lookVersion : JsNumber
  logo : Option PublicationMedia
  hero : Option PublicationHero
  deriving DecidableEq, Repr

/-- What was written in one language; `none` is a text nobody wrote. -/
structure PublicationWording where
  title : Option String
  shortDescription : Option String
  heroAlt : Option String
  linktreeTitle : Option String
  deriving DecidableEq, Repr

/-- One language's text of a link, and whether it began as an AI draft. -/
structure PublicationLinkText where
  label : String
  line : Option String
  aiDraft : Bool
  deriving DecidableEq, Repr

/-- An approved link. -/
structure PublicationLink where
  id : String
  url : String
  iconKey : Option String
  imageAssetId : Option String
  texts : KeyedRecord GuestLocale PublicationLinkText

/-- The Portal a source is of. -/
structure PublicationPortal where
  id : String
  name : String
  slug : String
  deriving DecidableEq, Repr

/-- A Portal's working copy. -/
structure PortalPublicationSource where
  organizationId : String
  propertyId : String
  portal : PublicationPortal
  privateFeedbackThreshold : JsNumber
  skipPrivateRating : Bool
  primaryGuestLocale : GuestLocale
  localeSet : List GuestLocale
  linktreeEnabled : Bool
  timeZone : Option String
  look : Option PublicationLook
  wording : KeyedRecord GuestLocale PublicationWording
  links : List PublicationLink

/-! ## Findings -/

/-- The text a publication reads for a key that blocks or warns. -/
inductive PublicationTextKey
  | title
  | shortDescription
  | heroAlt
  | link (id : String)
  deriving DecidableEq, Repr

/-- What stops a publication. -/
inductive PublicationBlocker
  | primaryTextMissing (locale : GuestLocale) (key : PublicationTextKey)
  | languagePackMissing (locale : GuestLocale)
  | timeZoneInvalid
  deriving DecidableEq, Repr

/-- What only deserves a note: a text copied from the primary language. -/
structure PublicationWarning where
  locale : GuestLocale
  key : PublicationTextKey
  deriving DecidableEq, Repr

/-- What resolving a source found. -/
structure Findings where
  blockers : List PublicationBlocker
  warnings : List PublicationWarning
  deriving DecidableEq, Repr

namespace Findings

/-- Nothing found. -/
def none : Findings := ⟨[], []⟩

/-- One blocker. -/
def block (blocker : PublicationBlocker) : Findings := ⟨[blocker], []⟩

/-- One warning. -/
def warn (locale : GuestLocale) (key : PublicationTextKey) : Findings := ⟨[], [⟨locale, key⟩]⟩

/-- What was found first and what was found after it. -/
def append (first later : Findings) : Findings :=
  ⟨first.blockers ++ later.blockers, first.warnings ++ later.warnings⟩

/-- What was found in each turn of a loop. -/
def concat : List Findings → Findings
  | [] => none
  | first :: later => first.append (concat later)

end Findings

/-! ## Resolving -/

/-- The accent of a Property that has no look yet. -/
def defaultPortalAccent : String := "#EAD6A8"

/-- Used only if the derived field cannot be computed. -/
def defaultPortalField : String := "#15110D"

/-- What resolving asks the platform besides the reader's questions: the dark field that belongs to
an accent, whose arithmetic is in floating point. -/
structure ResolverPlatform extends ReaderPlatform where
  deriveFieldColour : String → Option String

/-- The page's dark field. -/
def fieldColourOf (platform : ResolverPlatform) (backgroundMode : BackgroundMode)
    (backgroundColour accentColour : String) : String :=
  match backgroundMode with
  | .manual => backgroundColour
  | .auto => (platform.deriveFieldColour accentColour).getD defaultPortalField

/-- Whether somebody wrote a text. -/
def isWritten (value : Option String) : Bool := value.any fun text ↦ !isBlank text

/-- A text of its own language. -/
def own (value : String) : PortalSnapshotText := ⟨value, none⟩

/-- Whether a text missing in a locale stops a publication. -/
def gapBlocksPublication (locale primary : GuestLocale) : Bool := locale == primary

/-- The wording of a locale under a key. -/
def writtenText (source : PortalPublicationSource) (locale : GuestLocale)
    (key : PublicationWording → Option String) : Option String :=
  (source.wording locale).bind key

/-- A text in a locale: its own wording when written, else the primary language's copied in and
tagged. -/
def textIn (source : PortalPublicationSource) (locale : GuestLocale)
    (key : PublicationWording → Option String) (name : PublicationTextKey) :
    Option PortalSnapshotText × Findings :=
  let primary := source.primaryGuestLocale
  let written := writtenText source locale key
  if isWritten written = true then (written.map own, .none)
  else
    let primaryText := writtenText source primary key
    if locale = primary ∨ isWritten primaryText = false then (none, .none)
    else (primaryText.map fun text ↦ ⟨text, some primary⟩, .warn locale name)

/-- The wording of a Linktree title nobody wrote. -/
def linktreeDefaultTitle : GuestLocale → String
  | .en => "Useful links"
  | .es => "Enlaces útiles"
  | .it => "Link utili"
  | .fr => "Liens utiles"
  | .de => "Nützliche Links"
  | .bg => "Полезни връзки"

/-- The gap of a text in a locale, if it stops the publication. -/
def gapFinding (source : PortalPublicationSource) (locale : GuestLocale)
    (text : Option PortalSnapshotText) (key : PublicationTextKey) : Findings :=
  if gapBlocksPublication locale source.primaryGuestLocale = true ∧ text = none then
    .block (.primaryTextMissing locale key)
  else .none

/-- The texts of one locale. A photo description is there only when the primary language has one
for a photo. -/
def localizedContentOf (source : PortalPublicationSource) (locale : GuestLocale) (hasHero : Bool) :
    ImmersiveLocalizedContent × Findings :=
  let primary := source.primaryGuestLocale
  let title := textIn source locale (·.title) .title
  let shortDescription := textIn source locale (·.shortDescription) .shortDescription
  let primaryHasAlt := hasHero && isWritten (writtenText source primary (·.heroAlt))
  let heroAlt :=
    if primaryHasAlt = true then textIn source locale (·.heroAlt) .heroAlt else (none, .none)
  let customTitle := writtenText source locale (·.linktreeTitle)
  ({ title := title.1.getD (own "")
     shortDescription := shortDescription.1.getD (own "")
     heroAlt := heroAlt.1.getD (own "")
     linktreeTitle := own (if isWritten customTitle = true then customTitle.getD ""
       else linktreeDefaultTitle locale) },
    ((title.2.append shortDescription.2).append heroAlt.2).append
      ((gapFinding source locale title.1 .title).append
        (gapFinding source locale shortDescription.1 .shortDescription)))

/-- The text of a link in a locale, if it has a label. -/
def labelledText (link : PublicationLink) (locale : GuestLocale) : Option PublicationLinkText :=
  (link.texts locale).filter fun text ↦ !isBlank text.label

/-- One locale's wording of a link, written or copied from the primary as a unit. -/
def linkTextIn (link : PublicationLink) (locale primary : GuestLocale) :
    ImmersiveLinkText × Findings :=
  match labelledText link locale with
  | some written => (⟨written.label, written.line, none⟩, .none)
  | none =>
      match (if locale = primary then none else labelledText link primary) with
      | some copied =>
          (⟨copied.label, copied.line, some primary⟩, .warn locale (.link link.id))
      | none =>
          (⟨"", none, none⟩,
            if gapBlocksPublication locale primary = true then
              .block (.primaryTextMissing locale (.link link.id))
            else .none)

/-- A link with its wording in every locale of the set. -/
def linkOf (source : PortalPublicationSource) (link : PublicationLink) : ImmersiveLink where
  id := link.id
  url := link.url
  iconKey := link.iconKey
  imageAssetId := link.imageAssetId
  texts := .ofEntries (source.localeSet.map fun locale ↦
    (locale, (linkTextIn link locale source.primaryGuestLocale).1))

/-- The links of a publication. -/
def linksOf (source : PortalPublicationSource) : List ImmersiveLink × Findings :=
  (source.links.map (linkOf source),
    .concat (source.links.map fun link ↦ .concat (source.localeSet.map fun locale ↦
      (linkTextIn link locale source.primaryGuestLocale).2)))

/-- The look a page is drawn in. -/
def brandProfileOf (platform : ResolverPlatform) (source : PortalPublicationSource) :
    ImmersiveBrandProfile :=
  match source.look with
  | none =>
      { displayName := source.portal.name
        wordmark := none
        logo := none
        hero := none
        accentColour := defaultPortalAccent
        fieldColour := (platform.deriveFieldColour defaultPortalAccent).getD defaultPortalField
        lookVersion := .finite 1 }
  | some look =>
      { displayName := look.displayName
        wordmark := look.wordmark
        logo := look.logo
        hero := look.hero
        accentColour := look.accentColour
        fieldColour :=
          fieldColourOf platform look.backgroundMode look.backgroundColour look.accentColour
        lookVersion := look.lookVersion }

/-- The generation 2 packs of a locale set; a locale without one has no key and blocks. -/
def languagePacksOf (localeSet : List GuestLocale) : KeyedRecord GuestLocale String × Findings :=
  (.ofEntries (localeSet.filterMap fun locale ↦
      (currentGuestLanguagePack locale 2).map fun pack ↦ (locale, pack)),
    .concat (localeSet.map fun locale ↦
      match currentGuestLanguagePack locale 2 with
      | none => .block (.languagePackMissing locale)
      | some _ => .none))

/-- The link texts that began as AI drafts, in link then language order. -/
def aiDraftKeysOf (source : PortalPublicationSource) : List String :=
  source.links.flatMap fun link ↦ source.localeSet.flatMap fun locale ↦
    if ((link.texts locale).any fun text ↦ text.aiDraft) = true then
      ["link:" ++ link.id ++ ":text:" ++ locale.code]
    else []

/-- What publishing a source would write, and what stands in the way. -/
structure PortalPublicationResolution where
  findings : Findings
  content : ImmersivePublicationContent

/-- Resolve a source. -/
def resolvePortalPublication (platform : ResolverPlatform) (source : PortalPublicationSource) :
    PortalPublicationResolution :=
  let primary := source.primaryGuestLocale
  let brandProfile := brandProfileOf platform source
  let packs := languagePacksOf source.localeSet
  let contents := source.localeSet.map fun locale ↦
    (locale, localizedContentOf source locale brandProfile.hero.isSome)
  let links := linksOf source
  let timeZone := source.timeZone.getD ""
  let zoneFindings : Findings :=
    if isValidTimeZone platform.toReaderPlatform timeZone = true then .none
    else .block .timeZoneInvalid
  let aiDraftTextKeys := aiDraftKeysOf source
  { findings :=
      ((packs.2.append (.concat (contents.map (·.2.2)))).append links.2).append zoneFindings
    content :=
      { portal := ⟨source.portal.id, source.portal.slug⟩
        guestLocale := primary
        languagePackVersion := (packs.1 primary).getD ""
        localeSet := source.localeSet
        languagePackVersions := packs.1
        localizedContent := .ofEntries (contents.map fun entry ↦ (entry.1, entry.2.1))
        linktreeEnabled := source.linktreeEnabled
        links := links.1
        brandProfile := brandProfile
        timeZone := timeZone
        aiDraftTextKeys := if aiDraftTextKeys = [] then none else some aiDraftTextKeys } }

end ReputationKey.Portal
