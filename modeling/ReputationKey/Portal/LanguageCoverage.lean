import ReputationKey.Portal.WorkingCopy
import ReputationKey.Portal.ReaderAcceptance

/-!
# Language coverage

For each language a Portal offers, which wording is written and which is missing: its title, its
description and one label per link. A gap in the primary language is said to stop a publication.
Follows `src/src/contexts/portal/domain/portal-language-coverage.ts`.
-/

namespace ReputationKey.Portal

open ReputationKey.Base ReputationKey.Shared

/-! ## Coverage -/

/-- The kinds of text a language needs. -/
inductive PortalTextKind
  | title
  | description
  | linkLabel
  deriving DecidableEq, Repr

/-- A text a language has not got. -/
structure MissingPortalText where
  key : String
  kind : PortalTextKind
  linkId : Option String
  linkLabel : Option String
  blocksPublish : Bool
  deriving DecidableEq, Repr

/-- The coverage of one language. -/
structure PortalLanguageCoverageRow where
  locale : GuestLocale
  isFallback : Bool
  total : ℕ
  present : ℕ
  missing : List MissingPortalText
  deriving DecidableEq, Repr

/-- The coverage of a Portal. -/
structure PortalLanguageCoverage where
  portalId : String
  fallbackLocale : GuestLocale
  languages : List PortalLanguageCoverageRow
  missingTotal : ℕ
  deriving DecidableEq, Repr

/-- What coverage is computed from. -/
structure PortalLanguageCoverageInput where
  portalId : String
  primaryLocale : GuestLocale
  additionalLocales : List GuestLocale
  propertyContent : List PropertyContentRow
  overrides : List PortalLocalizedOverride
  links : List (String × String)
  linkTexts : List ResolvedPortalLinkText

/-- Whether somebody wrote any of some texts. -/
def anyWritten (candidates : List (Option String)) : Bool := candidates.any isWritten

/-- The name of a link in the primary language. -/
def linkNameIn (input : PortalLanguageCoverageInput) (link : String × String) : String :=
  let text := input.linkTexts.find? fun candidate ↦
    candidate.linkId == link.1 && candidate.locale == input.primaryLocale
  ((text.map (·.label)).filter fun label ↦ !isBlank label).getD link.2

/-- A title or a description a language has not got. -/
def missingWording (kind : PortalTextKind) (key : String) (written blocksPublish : Bool) :
    List MissingPortalText :=
  if written = true then [] else [⟨key, kind, none, none, blocksPublish⟩]

/-- The texts a language needs and those it has not got. -/
def missingTexts (input : PortalLanguageCoverageInput) (locale : GuestLocale) :
    ℕ × List MissingPortalText :=
  let content := input.propertyContent.find? fun item ↦ item.locale == locale
  let override := input.overrides.find? fun item ↦ item.locale == locale
  -- No Property wording for the language: nothing is written, whatever the overrides say.
  let hasWording := content.any fun row ↦ hasPropertyWording row.title row.shortDescription
  let blocksPublish := gapBlocksPublication locale input.primaryLocale
  let title := hasWording && anyWritten [override.bind (·.title), content.map (·.title)]
  let description := hasWording &&
    anyWritten [override.bind (·.shortDescription), content.map (·.shortDescription)]
  let labels := input.links.filterMap fun link ↦
    let written := input.linkTexts.any fun text ↦
      text.linkId == link.1 && text.locale == locale && !isBlank text.label
    if written = true then none
    else some (⟨"link:" ++ link.1, .linkLabel, some link.1, some (linkNameIn input link),
      blocksPublish⟩ : MissingPortalText)
  (2 + input.links.length,
    (missingWording .title "title" title blocksPublish ++
      missingWording .description "description" description blocksPublish) ++ labels)

/-- The coverage of one language. -/
def coverageRow (input : PortalLanguageCoverageInput) (locale : GuestLocale) :
    PortalLanguageCoverageRow :=
  let texts := missingTexts input locale
  { locale := locale
    isFallback := locale == input.primaryLocale
    total := texts.1
    present := texts.1 - texts.2.length
    missing := texts.2 }

/-- The coverage of a Portal, its primary language first. -/
def computePortalLanguageCoverage (input : PortalLanguageCoverageInput) : PortalLanguageCoverage :=
  let languages := (offeredLocales input.primaryLocale input.additionalLocales).map (coverageRow input)
  { portalId := input.portalId
    fallbackLocale := input.primaryLocale
    languages := languages
    missingTotal := (languages.map (·.missing.length)).sum }

/-- What coverage is given for the rows of a working copy. -/
def coverageInput (rows : PortalWorkingRows) : PortalLanguageCoverageInput :=
  let links := rows.links.map fun link ↦ (link.id, link.label)
  { portalId := rows.portal.id
    primaryLocale := rows.portal.primaryGuestLocale
    additionalLocales := rows.portal.additionalGuestLocales
    propertyContent := rows.contents
    overrides := rows.overrides
    links := links
    linkTexts := resolveLinkTexts links rows.linkTexts rows.portal.primaryGuestLocale }

/-! ## What coverage lists and what publishing reports -/

/-- The text a missing entry is about, as publishing names it. -/
def MissingPortalText.textKey (missing : MissingPortalText) : PublicationTextKey :=
  match missing.kind with
  | .title => .title
  | .description => .shortDescription
  | .linkLabel => .link (missing.linkId.getD "")

/-- Whether coverage lists a text as missing in a language. -/
def Listed (coverage : PortalLanguageCoverage) (locale : GuestLocale) (key : PublicationTextKey) :
    Prop :=
  ∃ row ∈ coverage.languages, row.locale = locale ∧ ∃ missing ∈ row.missing, missing.textKey = key

/-- Whether a text of a resolved publication was left empty in a language. -/
def UnfilledGap (content : ImmersivePublicationContent) (locale : GuestLocale) :
    PublicationTextKey → Prop
  | .title => ∃ texts, content.localizedContent locale = some texts ∧
      isBlank texts.title.value = true
  | .shortDescription => ∃ texts, content.localizedContent locale = some texts ∧
      isBlank texts.shortDescription.value = true
  | .heroAlt => False
  | .link id => ∃ link ∈ content.links, link.id = id ∧ ∃ text, link.texts locale = some text ∧
      isBlank text.label = true

/-- Whether resolving reports a gap of a text: in the primary language a blocker, in another one a
copy from the primary or an empty text. -/
def ReportsGap (resolution : PortalPublicationResolution) (primary locale : GuestLocale)
    (key : PublicationTextKey) : Prop :=
  if locale = primary then .primaryTextMissing locale key ∈ resolution.findings.blockers
  else ⟨locale, key⟩ ∈ resolution.findings.warnings ∨ UnfilledGap resolution.content locale key

/-- Whether coverage says of a Portal what publishing does. -/
def CoverageAgrees (platform : ResolverPlatform) (rows : PortalWorkingRows) : Prop :=
  let coverage := computePortalLanguageCoverage (coverageInput rows)
  let resolution := resolvePortalPublication platform (readPortalWorkingCopy rows)
  (∀ locale key, key ≠ .heroAlt →
    (Listed coverage locale key ↔
      ReportsGap resolution rows.portal.primaryGuestLocale locale key)) ∧
    ((∀ row ∈ coverage.languages, ∀ missing ∈ row.missing, missing.blocksPublish = false) ↔
      ∀ locale key, .primaryTextMissing locale key ∉ resolution.findings.blockers)

/-- Whether an offered language has Property wording behind a blank text of the Portal's own. -/
def BlankOverride (rows : PortalWorkingRows) : Prop :=
  ∃ locale ∈ offeredLocales rows.portal.primaryGuestLocale rows.portal.additionalGuestLocales,
    ∃ content ∈ rows.contents, content.locale = locale ∧
      ∃ override ∈ rows.overrides, override.locale = locale ∧
        ((∃ text, override.title = some text ∧ isBlank text = true ∧
          isBlank content.title = false) ∨
        ∃ text, override.shortDescription = some text ∧ isBlank text = true ∧
          isBlank content.shortDescription = false)

/-- Whether every link leads to an approved destination. -/
def LinksApproved (rows : PortalWorkingRows) : Prop :=
  ∀ link ∈ rows.links, link.destinationApprovalState = some "approved" ∧
    ∃ url, link.destinationUri = some url ∧ url ≠ ""

end ReputationKey.Portal
