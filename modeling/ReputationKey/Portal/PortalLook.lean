import ReputationKey.Portal.PublicationSource
import ReputationKey.Base.Refusal

/-!
# A Portal's own look

A Portal follows its Property's look until it owns one of three groups: the photo, the colours, the
name and logo. The override is laid over the Property's rows where a working copy is read, and an
edit decides the next override from what guests would see before and after it. Follows
`src/src/contexts/portal/domain/portal-look.ts` and the limits of
`src/src/contexts/portal/domain/property-look.ts`.
-/

namespace ReputationKey.Portal

open ReputationKey.Base ReputationKey.Shared

/-! ## The override -/

/-- A group of the look that a Portal follows or owns. -/
inductive PortalLookGroup
  | photo
  | colours
  | identity
  deriving DecidableEq, Repr

/-- A part of the look a change can name. -/
inductive PortalLookFacet
  | accent
  | field
  | wordmark
  | logo
  | photo
  deriving DecidableEq, Repr

/-- The facets in the order they are listed. -/
def portalLookFacets : List PortalLookFacet := [.accent, .field, .wordmark, .logo, .photo]

/-- The groups a facet of a Portal's look belongs to. -/
def lookGroupsOfFacet : PortalLookFacet → List PortalLookGroup
  | .accent | .field => [.colours]
  | .wordmark | .logo => [.identity]
  | .photo => [.photo]

/-- A photo's description per guest language; a language left out has none. -/
abbrev PortalHeroAltTexts := KeyedRecord GuestLocale String

/-- A photo of the Portal's own, where pages crop around and its descriptions. -/
@[ext] structure OwnPhoto where
  heroAssetId : String
  focalX : ℚ
  focalY : ℚ
  altTexts : PortalHeroAltTexts

/-- The photo of a Portal: the Property's, none at all or its own. -/
inductive PortalLookPhoto
  | inherit
  | none
  | own (photo : OwnPhoto)

/-- Colours of the Portal's own. The background is kept in automatic mode too. -/
@[ext] structure OwnColours where
  accent : String
  backgroundMode : BackgroundMode
  backgroundColour : String
  deriving DecidableEq, Repr

/-- The colours of a Portal. -/
inductive PortalLookColours
  | inherit
  | own (colours : OwnColours)
  deriving DecidableEq, Repr

/-- A name and logo of the Portal's own; `none` shows the public display name, and no logo. -/
@[ext] structure OwnIdentity where
  wordmark : Option String
  logoAssetId : Option String
  deriving DecidableEq, Repr

/-- The name and logo of a Portal. -/
inductive PortalLookIdentity
  | inherit
  | own (identity : OwnIdentity)
  deriving DecidableEq, Repr

/-- A Portal's override of the Property look and the Portal's effective look version. -/
@[ext] structure PortalLookOverride where
  photo : PortalLookPhoto
  colours : PortalLookColours
  identity : PortalLookIdentity
  lookVersion : ℕ

/-! ## The stored row -/

/-- A stored value of any shape, as far as the reader of photo descriptions looks: an object whose
members are texts or something else, or no object. -/
inductive StoredAltTexts
  | object (members : List (String × Option String))
  | other
  deriving DecidableEq, Repr

/-- The look columns of a row, as a reader gets them. -/
structure PortalLookOverrideRow where
  photoMode : String
  heroAssetId : Option String
  heroFocalX : Option ℚ
  heroFocalY : Option ℚ
  heroAltTexts : StoredAltTexts
  coloursMode : String
  primaryColor : Option String
  backgroundMode : Option String
  backgroundColor : Option String
  identityMode : String
  wordmark : Option String
  logoAssetId : Option String
  lookVersion : ℕ
  deriving DecidableEq, Repr

/-- The modes of a photo. -/
inductive PortalLookPhotoMode
  | inherit
  | own
  | none
  deriving DecidableEq, Repr

/-- The modes of the colours and of the name and logo. -/
inductive PortalLookGroupMode
  | inherit
  | own
  deriving DecidableEq, Repr

/-- The look columns as a writer stores them. -/
structure PortalLookOverrideColumns where
  photoMode : PortalLookPhotoMode
  heroAssetId : Option String
  heroFocalX : Option ℚ
  heroFocalY : Option ℚ
  heroAltTexts : PortalHeroAltTexts
  coloursMode : PortalLookGroupMode
  primaryColor : Option String
  backgroundMode : Option BackgroundMode
  backgroundColor : Option String
  identityMode : PortalLookGroupMode
  wordmark : Option String
  logoAssetId : Option String
  lookVersion : ℕ

/-- The stored word of a photo mode. -/
def PortalLookPhotoMode.code : PortalLookPhotoMode → String
  | .inherit => "inherit"
  | .own => "own"
  | .none => "none"

/-- The stored word of a group mode. -/
def PortalLookGroupMode.code : PortalLookGroupMode → String
  | .inherit => "inherit"
  | .own => "own"

/-- The stored word of a background mode. -/
def BackgroundMode.code : BackgroundMode → String
  | .auto => "auto"
  | .manual => "manual"

/-- The background modes. -/
def backgroundModes : List BackgroundMode := [.auto, .manual]

/-- The background mode a stored word names. -/
def findBackgroundMode (stored : Option String) : Option BackgroundMode :=
  backgroundModes.find? fun candidate ↦ some candidate.code == stored

/-- The members of an object of descriptions, in the order of the catalogue. -/
def altTextMembers (texts : PortalHeroAltTexts) : List (GuestLocale × String) :=
  guestLocales.filterMap fun locale ↦ (texts locale).map fun text ↦ (locale, text)

/-- The columns of a stored row as a reader gets them back. -/
def PortalLookOverrideColumns.row (columns : PortalLookOverrideColumns) : PortalLookOverrideRow where
  photoMode := columns.photoMode.code
  heroAssetId := columns.heroAssetId
  heroFocalX := columns.heroFocalX
  heroFocalY := columns.heroFocalY
  heroAltTexts := .object
    ((altTextMembers columns.heroAltTexts).map fun member ↦ (member.1.code, some member.2))
  coloursMode := columns.coloursMode.code
  primaryColor := columns.primaryColor
  backgroundMode := columns.backgroundMode.map (·.code)
  backgroundColor := columns.backgroundColor
  identityMode := columns.identityMode.code
  wordmark := columns.wordmark
  logoAssetId := columns.logoAssetId
  lookVersion := columns.lookVersion

/-- The descriptions a stored object holds: a language the catalogue lacks, and a blank text, are
left out. -/
def portalHeroAltTextsOf : StoredAltTexts → PortalHeroAltTexts
  | .other => .empty
  | .object members => .ofEntries (members.filterMap fun member ↦
      (parseGuestLocale member.1).bind fun locale ↦
        (member.2.filter fun text ↦ !isBlank text).map fun text ↦ (locale, text))

/-- The photo a row holds. -/
def photoOfRow (row : PortalLookOverrideRow) : PortalLookPhoto :=
  if row.photoMode = "none" then .none
  else if row.photoMode = "own" then
    match row.heroAssetId, row.heroFocalX, row.heroFocalY with
    | some heroAssetId, some focalX, some focalY =>
        .own ⟨heroAssetId, focalX, focalY, portalHeroAltTextsOf row.heroAltTexts⟩
    | _, _, _ => .inherit
  else .inherit

/-- The colours a row holds. -/
def coloursOfRow (row : PortalLookOverrideRow) : PortalLookColours :=
  if row.coloursMode = "own" then
    match row.primaryColor, findBackgroundMode row.backgroundMode, row.backgroundColor with
    | some accent, some mode, some backgroundColour => .own ⟨accent, mode, backgroundColour⟩
    | _, _, _ => .inherit
  else .inherit

/-- A stored row as the override it holds. What this code does not know reads as following the
Property. -/
def portalLookOverrideOf (row : PortalLookOverrideRow) : PortalLookOverride where
  photo := photoOfRow row
  colours := coloursOfRow row
  identity :=
    if row.identityMode = "own" then .own ⟨row.wordmark, row.logoAssetId⟩ else .inherit
  lookVersion := row.lookVersion

namespace PortalLookPhoto

/-- The mode of a photo. -/
def mode : PortalLookPhoto → PortalLookPhotoMode
  | .inherit => .inherit
  | .none => .none
  | .own _ => .own

/-- The photo of the Portal's own. -/
def own? : PortalLookPhoto → Option OwnPhoto
  | .own photo => some photo
  | .inherit | .none => Option.none

end PortalLookPhoto

namespace PortalLookColours

/-- The mode of the colours. -/
def mode : PortalLookColours → PortalLookGroupMode
  | .inherit => .inherit
  | .own _ => .own

/-- The colours of the Portal's own. -/
def own? : PortalLookColours → Option OwnColours
  | .inherit => none
  | .own colours => some colours

end PortalLookColours

namespace PortalLookIdentity

/-- The mode of the name and logo. -/
def mode : PortalLookIdentity → PortalLookGroupMode
  | .inherit => .inherit
  | .own _ => .own

/-- The name and logo of the Portal's own. -/
def own? : PortalLookIdentity → Option OwnIdentity
  | .inherit => none
  | .own identity => some identity

end PortalLookIdentity

/-- The override as its row stores it: a group that follows the Property holds no values. -/
def portalLookColumnsOf (override : PortalLookOverride) : PortalLookOverrideColumns where
  photoMode := override.photo.mode
  heroAssetId := override.photo.own?.map (·.heroAssetId)
  heroFocalX := override.photo.own?.map (·.focalX)
  heroFocalY := override.photo.own?.map (·.focalY)
  heroAltTexts := override.photo.own?.elim .empty (·.altTexts)
  coloursMode := override.colours.mode
  primaryColor := override.colours.own?.map (·.accent)
  backgroundMode := override.colours.own?.map (·.backgroundMode)
  backgroundColor := override.colours.own?.map (·.backgroundColour)
  identityMode := override.identity.mode
  wordmark := override.identity.own?.bind (·.wordmark)
  logoAssetId := override.identity.own?.bind (·.logoAssetId)
  lookVersion := override.lookVersion

/-! ## Laying the override over the Property -/

/-- The look-bearing fields of a Brand Profile. -/
@[ext] structure PortalLookProfile where
  primaryColor : String
  backgroundColor : String
  backgroundMode : String
  wordmark : Option String
  logoAssetId : Option String
  heroAssetId : Option String
  heroFocalX : Option ℚ
  heroFocalY : Option ℚ
  lookVersion : ℕ
  deriving DecidableEq, Repr

/-- One language's Property content row, as far as the photo's description goes. -/
structure PortalHeroAltContent where
  locale : String
  title : String
  shortDescription : String
  heroAltText : Option String
  deriving DecidableEq, Repr

/-- The profile with the Portal's own groups laid over it. -/
def applyPortalLook (profile : PortalLookProfile) :
    Option PortalLookOverride → PortalLookProfile
  | none => profile
  | some override =>
      let colours : PortalLookProfile := match override.colours with
        | .inherit => profile
        | .own colours => { profile with
            primaryColor := colours.accent
            backgroundMode := colours.backgroundMode.code
            backgroundColor := colours.backgroundColour }
      let identity : PortalLookProfile := match override.identity with
        | .inherit => colours
        | .own identity => { colours with
            wordmark := identity.wordmark
            logoAssetId := identity.logoAssetId }
      let photo : PortalLookProfile := match override.photo with
        | .inherit => identity
        | .none => { identity with heroAssetId := none, heroFocalX := none, heroFocalY := none }
        | .own photo => { identity with
            heroAssetId := some photo.heroAssetId
            heroFocalX := some photo.focalX
            heroFocalY := some photo.focalY }
      { photo with lookVersion := override.lookVersion }

/-- The Property's content rows with the photo descriptions the Portal shows. -/
def withPortalHeroAlt (contents : List PortalHeroAltContent) (override : Option PortalLookOverride) :
    List PortalHeroAltContent :=
  match override.elim PortalLookPhoto.inherit (·.photo) with
  | .inherit => contents
  | .none => contents.map fun row ↦
      if row.heroAltText = none then row else { row with heroAltText := none }
  | .own photo =>
      let altOf (locale : String) : Option String := (parseGuestLocale locale).bind photo.altTexts
      let written := contents.map (·.locale)
      let altOnly := (altTextMembers photo.altTexts).filterMap fun member ↦
        if member.1.code ∉ written ∧ isBlank member.2 = false then
          some (⟨member.1.code, "", "", some member.2⟩ : PortalHeroAltContent)
        else none
      (contents.map fun row ↦ { row with heroAltText := altOf row.locale }) ++ altOnly

/-! ## Edits -/

/-- What a Portal sees of the Property look before it has an override of its own. -/
structure PortalLookBase where
  profile : PortalLookProfile
  heroAltTexts : PortalHeroAltTexts

/-- Values given for own colours; one left out keeps what is there. -/
structure OwnColoursEdit where
  accent : Option String
  backgroundMode : Option BackgroundMode
  backgroundColour : Option String
  deriving DecidableEq, Repr

/-- Values given for an own name and logo; an inner `none` asks for none. -/
structure OwnIdentityEdit where
  wordmark : Option (Option String)
  logoAssetId : Option (Option String)
  deriving DecidableEq, Repr

/-- Values given for an own photo. A description given as `none` is removed. -/
structure OwnPhotoEdit where
  heroAssetId : Option String
  focalX : Option JsNumber
  focalY : Option JsNumber
  altTexts : Option (KeyedRecord GuestLocale (Option String))

/-- One group's next state. -/
inductive PortalLookChange
  | coloursInherit
  | coloursOwn (edit : OwnColoursEdit)
  | identityInherit
  | identityOwn (edit : OwnIdentityEdit)
  | photoInherit
  | photoNone
  | photoOwn (edit : OwnPhotoEdit)

/-- The group a change is of. -/
def PortalLookChange.group : PortalLookChange → PortalLookGroup
  | .coloursInherit | .coloursOwn _ => .colours
  | .identityInherit | .identityOwn _ => .identity
  | .photoInherit | .photoNone | .photoOwn _ => .photo

/-- The codes of a refused edit. -/
inductive PortalLookErrorCode
  | invalidTheme
  | invalidDescription
  deriving DecidableEq, Repr

/-- A refused edit. -/
structure PortalLookError where
  code : PortalLookErrorCode
  message : String
  deriving DecidableEq, Repr

/-- The longest wordmark. -/
def wordmarkMaxLength : ℕ := 24

/-- The longest photo description. -/
def heroAltTextMaxLength : ℕ := 160

/-- A text as stored: trimmed, within a limit, empty meaning none. -/
def boundedOrNull (value : Option String) (field : String) (max : ℕ) :
    Except PortalLookError (Option String) :=
  match value with
  | none => .ok none
  | some value =>
      let text := trimmed value
      if utf16Length text = 0 then .ok none
      else if max < utf16Length text then
        .error ⟨.invalidDescription,
          field ++ " must be at most " ++ toString max ++ " characters"⟩
      else .ok (some text)

/-- The wordmark as stored. -/
def normaliseWordmark (value : Option String) : Except PortalLookError (Option String) :=
  boundedOrNull value "Wordmark" wordmarkMaxLength

/-- A photo description as stored. -/
def normaliseHeroAltText (value : Option String) : Except PortalLookError (Option String) :=
  boundedOrNull value "Hero alt text" heroAltTextMaxLength

/-- A coordinate inside the photo. -/
def insidePhoto : JsNumber → Option ℚ
  | .finite value => if 0 ≤ value ∧ value ≤ 1 then some value else none
  | .nan | .negInfinity | .infinity => none

/-- Where a photo is anchored. -/
def normaliseFocalPoint (x y : JsNumber) : Except PortalLookError (ℚ × ℚ) :=
  match insidePhoto x, insidePhoto y with
  | some x, some y => .ok (x, y)
  | _, _ => .error ⟨.invalidTheme, "Put the focal point inside the photo"⟩

/-- Whether page text can be read on the field of a colour pair, if the pair is one of colours. The
arithmetic behind the answer is in floating point. -/
abbrev LookReadout := OwnColours → Option Bool

/-- The Property's colours as an own group. -/
def propertyColours (profile : PortalLookProfile) : OwnColours where
  accent := profile.primaryColor
  backgroundMode := (findBackgroundMode (some profile.backgroundMode)).getD .auto
  backgroundColour := profile.backgroundColor

/-- Own colours after an edit. The pair is judged after the values left out are filled in. -/
def nextOwnColours (readLookContrast : LookReadout) (current : PortalLookColours)
    (base : PortalLookBase) (edit : OwnColoursEdit) : Except PortalLookError PortalLookColours :=
  let start := current.own?.getD (propertyColours base.profile)
  let next : OwnColours :=
    ⟨edit.accent.getD start.accent, edit.backgroundMode.getD start.backgroundMode,
      edit.backgroundColour.getD start.backgroundColour⟩
  if edit.accent ≠ none ∨ edit.backgroundMode ≠ none ∨ edit.backgroundColour ≠ none then
    match readLookContrast next with
    | none => .error ⟨.invalidTheme, "Choose valid colours"⟩
    | some false => .error ⟨.invalidTheme, "Page text cannot be read on this background"⟩
    | some true => .ok (.own next)
  else .ok (.own next)

/-- An own name and logo after an edit. -/
def nextOwnIdentity (current : PortalLookIdentity) (base : PortalLookBase) (edit : OwnIdentityEdit) :
    Except PortalLookError PortalLookIdentity := do
  let start := current.own?.getD ⟨base.profile.wordmark, base.profile.logoAssetId⟩
  let wordmark ← edit.wordmark.elim (.ok start.wordmark) normaliseWordmark
  .ok (.own ⟨wordmark, edit.logoAssetId.getD start.logoAssetId⟩)

/-- The anchor and descriptions an own photo starts from before an edit is applied. -/
def ownPhotoStart (current : PortalLookPhoto) (base : PortalLookBase) (heroAssetId : String) :
    OwnPhoto :=
  match current.own?.filter fun photo ↦ photo.heroAssetId = heroAssetId with
  | some photo => photo
  | none =>
      match current.own?, base.profile.heroFocalX, base.profile.heroFocalY with
      | none, some focalX, some focalY =>
          -- The Property's photo becomes the Portal's: its anchor and descriptions come along.
          if base.profile.heroAssetId = some heroAssetId then
            ⟨heroAssetId, focalX, focalY, base.heroAltTexts⟩
          else ⟨heroAssetId, 1 / 2, 1 / 2, .empty⟩
      | _, _, _ => ⟨heroAssetId, 1 / 2, 1 / 2, .empty⟩

/-- The descriptions after an edit: those not given are kept. -/
def changedAltTexts (start : PortalHeroAltTexts)
    (given : Option (KeyedRecord GuestLocale (Option String))) :
    Except PortalLookError PortalHeroAltTexts :=
  match given with
  | none => .ok start
  | some given => do
      let kept := (altTextMembers start).filter fun member ↦ (given member.1).isNone
      let written ← (given.keys guestLocales).mapM fun locale ↦ do
        let stored ← normaliseHeroAltText (given locale).join
        .ok (stored.map fun text ↦ (locale, text))
      .ok (.ofEntries (kept ++ written.filterMap id))

/-- The anchor after an edit. A missing half is the middle; both left out keep the anchor. -/
def nextAnchor (start : OwnPhoto) (edit : OwnPhotoEdit) : Except PortalLookError (ℚ × ℚ) :=
  if edit.focalX ≠ none ∨ edit.focalY ≠ none then
    normaliseFocalPoint (edit.focalX.getD (.finite (1 / 2))) (edit.focalY.getD (.finite (1 / 2)))
  else .ok (start.focalX, start.focalY)

/-- An own photo after an edit. -/
def nextOwnPhoto (current : PortalLookPhoto) (base : PortalLookBase) (edit : OwnPhotoEdit) :
    Except PortalLookError PortalLookPhoto :=
  let heroAssetId := edit.heroAssetId.or
    (current.own?.elim base.profile.heroAssetId fun photo ↦ some photo.heroAssetId)
  match heroAssetId with
  | none => .error ⟨.invalidTheme, "Choose a photo for this portal"⟩
  | some heroAssetId => do
      let start := ownPhotoStart current base heroAssetId
      let focal ← nextAnchor start edit
      let altTexts ← changedAltTexts start.altTexts edit.altTexts
      .ok (.own ⟨heroAssetId, focal.1, focal.2, altTexts⟩)

/-- Every group following the Property, at the Property's version: a Portal with no row. -/
def followingEverything (base : PortalLookBase) : PortalLookOverride :=
  ⟨.inherit, .inherit, .inherit, base.profile.lookVersion⟩

/-- The override with the group of a change moved. -/
def withChange (readLookContrast : LookReadout) (current : PortalLookOverride)
    (base : PortalLookBase) : PortalLookChange → Except PortalLookError PortalLookOverride
  | .coloursInherit => .ok { current with colours := .inherit }
  | .coloursOwn edit => do
      let colours ← nextOwnColours readLookContrast current.colours base edit
      .ok { current with colours := colours }
  | .identityInherit => .ok { current with identity := .inherit }
  | .identityOwn edit => do
      let identity ← nextOwnIdentity current.identity base edit
      .ok { current with identity := identity }
  | .photoInherit => .ok { current with photo := .inherit }
  | .photoNone => .ok { current with photo := .none }
  | .photoOwn edit => do
      let photo ← nextOwnPhoto current.photo base edit
      .ok { current with photo := photo }

/-- The photo descriptions a Portal shows under an override: none while it shows no photo. -/
def effectiveAltTexts (base : PortalLookBase) (override : PortalLookOverride) : PortalHeroAltTexts :=
  match override.photo with
  | .own photo => photo.altTexts
  | .none => .empty
  | .inherit => if base.profile.heroAssetId = none then .empty else base.heroAltTexts

/-- Whether two photos are described alike. -/
def sameAltTexts (a b : PortalHeroAltTexts) : Bool :=
  guestLocales.all fun locale ↦ a locale == b locale

/-- Whether a facet of what guests see moves from one look to another. -/
def facetMoved (base : PortalLookBase) (before after : PortalLookOverride)
    (was is : PortalLookProfile) : PortalLookFacet → Bool
  | .accent => was.primaryColor != is.primaryColor
  | .field => was.backgroundMode != is.backgroundMode || was.backgroundColor != is.backgroundColor
  | .wordmark => was.wordmark != is.wordmark
  | .logo => was.logoAssetId != is.logoAssetId
  | .photo => was.heroAssetId != is.heroAssetId || was.heroFocalX != is.heroFocalX ||
      was.heroFocalY != is.heroFocalY ||
      !sameAltTexts (effectiveAltTexts base before) (effectiveAltTexts base after)

/-- Which facets of what guests see differ between two overrides of the same Property look. -/
def changedPortalLookFacets (base : PortalLookBase) (before after : PortalLookOverride) :
    List PortalLookFacet :=
  let was := applyPortalLook base.profile (some before)
  let is := applyPortalLook base.profile (some after)
  portalLookFacets.filter (facetMoved base before after was is)

/-- An accepted edit: the next override and what guests would see differently. -/
structure NextPortalLook where
  override : PortalLookOverride
  changedFacets : List PortalLookFacet

/-- The override after a change. Its version moves when something visible does. -/
def nextPortalLook (readLookContrast : LookReadout) (current : Option PortalLookOverride)
    (base : PortalLookBase) (change : PortalLookChange) : Except PortalLookError NextPortalLook := do
  let before := current.getD (followingEverything base)
  let after ← withChange readLookContrast before base change
  let changedFacets := changedPortalLookFacets base before after
  .ok ⟨{ after with
      lookVersion := if changedFacets = [] then before.lookVersion else before.lookVersion + 1 },
    changedFacets⟩

end ReputationKey.Portal
