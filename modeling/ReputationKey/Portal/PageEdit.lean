import ReputationKey.Base.AnchoredPattern
import ReputationKey.Portal.PortalLook
import ReputationKey.Shared.AsciiUnits
import ReputationKey.Shared.GuestLocale

/-!
# Keys of the page-edit ledger

A row of the ledger holds the kind of a change and a key that says which part of the page it changed
and what was done to it. Keys are written by one function for each part and read back into the part
they name. Follows `src/src/contexts/portal/domain/portal-page-edit.ts`.
-/

namespace ReputationKey.Portal

open Base Shared
open ReputationKey.Review (Text)

/-! ## Kinds, parts and identifiers -/

/-- `PORTAL_PAGE_EDIT_KINDS`. -/
inductive PageEditKind
  | portalConfiguration
  | portalLinks
  | propertyBrandProfile
  | propertyBrandContent
  | portalLocalizedOverride
  | approvedDestination
  deriving DecidableEq, Repr

/-- The working-copy settings a page-settings edit can name. -/
inductive PortalSettingField
  | name
  | slug
  | description
  | heroImage
  | theme
  | feedbackThreshold
  | skipPrivateRating
  | primaryLanguage
  | additionalLanguages
  deriving DecidableEq, Repr

def portalSettingFields : List PortalSettingField :=
  [.name, .slug, .description, .heroImage, .theme, .feedbackThreshold, .skipPrivateRating,
    .primaryLanguage, .additionalLanguages]

def PortalSettingField.text : PortalSettingField → Text
  | .name => asciiText "name"
  | .slug => asciiText "slug"
  | .description => asciiText "description"
  | .heroImage => asciiText "hero_image"
  | .theme => asciiText "theme"
  | .feedbackThreshold => asciiText "feedback_threshold"
  | .skipPrivateRating => asciiText "skip_private_rating"
  | .primaryLanguage => asciiText "primary_language"
  | .additionalLanguages => asciiText "additional_languages"

def PortalLookFacet.text : PortalLookFacet → Text
  | .accent => asciiText "accent"
  | .field => asciiText "field"
  | .wordmark => asciiText "wordmark"
  | .logo => asciiText "logo"
  | .photo => asciiText "photo"

/-- The parts of a Property's look. -/
inductive LookFacet
  | accent
  | field
  | text
  | wordmark
  | logo
  | photo
  | images
  deriving DecidableEq, Repr

def propertyLookFacets : List LookFacet := [.accent, .field, .text, .wordmark, .logo, .photo, .images]

/-- The name of a part of a Property's look. -/
def LookFacet.code : LookFacet → Text
  | .accent => asciiText "accent"
  | .field => asciiText "field"
  | .text => asciiText "text"
  | .wordmark => asciiText "wordmark"
  | .logo => asciiText "logo"
  | .photo => asciiText "photo"
  | .images => asciiText "images"

/-- What was done to a category. -/
inductive CategoryChange
  | created
  | renamed
  | deleted
  deriving DecidableEq, Repr

def categoryChanges : List CategoryChange := [.created, .renamed, .deleted]

def CategoryChange.text : CategoryChange → Text
  | .created => asciiText "created"
  | .renamed => asciiText "renamed"
  | .deleted => asciiText "deleted"

/-- What was done to a link. -/
inductive LinkChange
  | created
  | updated
  | deleted
  deriving DecidableEq, Repr

def linkChanges : List LinkChange := [.created, .updated, .deleted]

def LinkChange.text : LinkChange → Text
  | .created => asciiText "created"
  | .updated => asciiText "updated"
  | .deleted => asciiText "deleted"

/-- The code of a guest locale in a key. -/
def localeText (locale : GuestLocale) : Text := asciiText locale.code

/-- A hexadecimal digit of either case. -/
def isHexUnit (unit : UInt16) : Bool :=
  isDecimalUnit unit || isUnitIn 'a' 'f' unit || isUnitIn 'A' 'F' unit

/-- The pattern `UUID`. -/
def uuidPattern : Pattern UInt16 :=
  .sequence [.repeated isHexUnit 8 8, .word (asciiText "-"), .repeated isHexUnit 4 4,
    .word (asciiText "-"), .repeated isHexUnit 4 4, .word (asciiText "-"),
    .repeated isHexUnit 4 4, .word (asciiText "-"), .repeated isHexUnit 12 12]

/-- `ID_KEY.test`. -/
def isPageId (text : Text) : Bool := (uuidPattern.exec text).isSome

/-- A UUID. -/
structure PageId where
  text : Text
  uuid : isPageId text = true
  deriving DecidableEq

/-! ## Writing keys -/

namespace PortalPageEditKey

def category (categoryId : Text) (change : CategoryChange) : Text :=
  asciiText "category:" ++ categoryId ++ asciiText ":" ++ change.text

def categoryCreated (categoryId : Text) : Text := category categoryId .created

def categoryRenamed (categoryId : Text) : Text := category categoryId .renamed

def categoryDeleted (categoryId : Text) : Text := category categoryId .deleted

def categoriesReordered : Text := asciiText "categories:reordered"

def link (linkId : Text) (change : LinkChange) : Text :=
  asciiText "link:" ++ linkId ++ asciiText ":" ++ change.text

def linkCreated (linkId : Text) : Text := link linkId .created

def linkUpdated (linkId : Text) : Text := link linkId .updated

def linkDeleted (linkId : Text) : Text := link linkId .deleted

def linksReordered (categoryId : Text) : Text :=
  asciiText "links:" ++ categoryId ++ asciiText ":reordered"

def linkText (linkId : Text) (locale : GuestLocale) : Text :=
  asciiText "link:" ++ linkId ++ asciiText ":text:" ++ localeText locale

def linktreeTitle (locale : GuestLocale) : Text := asciiText "linktree:title:" ++ localeText locale

def linktreeEnabled : Text := asciiText "linktree:enabled"

def setting (field : PortalSettingField) : Text := asciiText "settings:" ++ field.text

/-- `lookPendingKey` of a facet's name. -/
def look (facet : Text) : Text := asciiText "look:" ++ facet

def portalLook (facet : PortalLookFacet) : Text := look facet.text

end PortalPageEditKey

/-- `PHOTO_ALT_KEY_PREFIX`. -/
def photoAltKey : Text := asciiText "photo_alt:"

def photoAltPageEditKey (locale : GuestLocale) : Text := photoAltKey ++ localeText locale

/-! ## Reading keys back -/

/-- What part of the page a row names. -/
inductive PageEditSubject
  | pageSettings (field : Option PortalSettingField)
  | links
  | category (categoryId : Text) (change : CategoryChange)
  | categoriesReordered
  | link (linkId : Text) (change : LinkChange)
  | linksReordered (categoryId : Text)
  | linkText (linkId : Text) (locale : GuestLocale)
  | linkSectionSwitch
  | linkSectionTitle (locale : GuestLocale)
  | displayName
  | look (facet : Option LookFacet)
  | portalLook (facet : Option PortalLookFacet)
  | profile
  | welcomeText (locale : Option GuestLocale)
  | portalText (locale : Option GuestLocale)
  | destination (destinationId : Option Text)
  deriving DecidableEq, Repr

/-- A run of two or three small letters, kept. -/
def localePattern : Pattern UInt16 := .group (.repeated isLowerUnit 2 3)

def linkTextKey : Pattern UInt16 :=
  .sequence [.word (asciiText "link:"), .group uuidPattern, .word (asciiText ":text:"), localePattern]

def linkKey : Pattern UInt16 :=
  .sequence [.word (asciiText "link:"), .group uuidPattern, .word (asciiText ":"),
    .group (.oneOf (linkChanges.map (·.text)))]

def categoryKey : Pattern UInt16 :=
  .sequence [.word (asciiText "category:"), .group uuidPattern, .word (asciiText ":"),
    .group (.oneOf (categoryChanges.map (·.text)))]

def linksReorderedKey : Pattern UInt16 :=
  .sequence [.word (asciiText "links:"), .group uuidPattern, .word (asciiText ":reordered")]

def linktreeTitleKey : Pattern UInt16 :=
  .sequence [.word (asciiText "linktree:title:"), localePattern]

def localeOrNull (value : Option Text) : Option GuestLocale :=
  value.bind fun text ↦ guestLocales.find? fun locale ↦ decide (text = localeText locale)

/-- What the groups of a match took, by their number. -/
def captured (found : Option (List Text)) (number : ℕ) : Option Text := found.bind (·[number - 1]?)

def describeLinksEdit (key : Text) : PageEditSubject :=
  if key = PortalPageEditKey.linktreeEnabled then .linkSectionSwitch
  else if key = PortalPageEditKey.categoriesReordered then .categoriesReordered
  else
    let text := linkTextKey.exec key
    match captured text 1, localeOrNull (captured text 2) with
    | some linkId, some locale => .linkText linkId locale
    | _, _ =>
      match localeOrNull (captured (linktreeTitleKey.exec key) 1) with
      | some locale => .linkSectionTitle locale
      | none =>
        let link := linkKey.exec key
        match captured link 1, (captured link 2).bind fun change ↦
            linkChanges.find? fun candidate ↦ decide (change = candidate.text) with
        | some linkId, some change => .link linkId change
        | _, _ =>
          let category := categoryKey.exec key
          match captured category 1, (captured category 2).bind fun change ↦
              categoryChanges.find? fun candidate ↦ decide (change = candidate.text) with
          | some categoryId, some change => .category categoryId change
          | _, _ =>
            match captured (linksReorderedKey.exec key) 1 with
            | some categoryId => .linksReordered categoryId
            | none => .links

/-- Whether a key starts with a text. -/
def startsWith (key front : Text) : Bool := decide (key.take front.length = front)

def describeSettingsEdit (key : Text) : PageEditSubject :=
  if startsWith key (asciiText "look:") then
    .portalLook (portalLookFacets.find? fun candidate ↦
      decide (key = PortalPageEditKey.portalLook candidate))
  else
    .pageSettings (portalSettingFields.find? fun candidate ↦
      decide (key = PortalPageEditKey.setting candidate))

/-- A Property photo's description is part of the look; any other key is welcome text. -/
def describeContentEdit (key : Text) : PageEditSubject :=
  if startsWith key photoAltKey then .look (some .photo) else .welcomeText (localeOrNull (some key))

def describeProfileEdit (key : Text) : PageEditSubject :=
  if key = asciiText "all" then .displayName
  else if startsWith key (asciiText "look:") = false then .profile
  else .look (propertyLookFacets.find? fun candidate ↦ decide (key = PortalPageEditKey.look candidate.code))

/-- What part of the page a row of the ledger names. -/
def describePageEdit (kind : PageEditKind) (key : Text) : PageEditSubject :=
  match kind with
  | .portalConfiguration => describeSettingsEdit key
  | .portalLinks => describeLinksEdit key
  | .propertyBrandProfile => describeProfileEdit key
  | .propertyBrandContent => describeContentEdit key
  | .portalLocalizedOverride => .portalText (localeOrNull (some key))
  | .approvedDestination => .destination (if isPageId key then some key else none)

end ReputationKey.Portal
