import ReputationKey.Portal.PortalLookEdits

/-!
# The order of Portal look edits

Owning a group copies what is shown, so going to and fro shows the same. An edit decides on its own
group alone and what moves in it is told from that group alone, so edits of different groups can come
in either order; so can edits of one group that give no value in common.
-/

namespace ReputationKey.Portal

open ReputationKey.Base ReputationKey.Shared

variable {readLookContrast : LookReadout} {base : PortalLookBase}
  {contents : List PortalHeroAltContent} {before after : PortalLookOverride}
  {change : PortalLookChange}

/-! ## Owning a group without giving values -/

/-- The change that makes a group the Portal's own and gives no values. -/
def ownWithoutValues : PortalLookGroup → PortalLookChange
  | .photo => .photoOwn ⟨none, none, none, none⟩
  | .colours => .coloursOwn ⟨none, none, none⟩
  | .identity => .identityOwn ⟨none, none⟩

/-- The change that lets a group follow the Property. -/
def followProperty : PortalLookGroup → PortalLookChange
  | .photo => .photoInherit
  | .colours => .coloursInherit
  | .identity => .identityInherit

/-- Whether an override follows the Property in a group. -/
def Follows (override : PortalLookOverride) : PortalLookGroup → Prop
  | .photo => override.photo = .inherit
  | .colours => override.colours = .inherit
  | .identity => override.identity = .inherit

/-- The Property's colours, owned, are the colours it shows. -/
theorem seenColours_propertyColours (valid : base.Valid contents) :
    seenColours base.profile (.own (propertyColours base.profile)) =
      seenColours base.profile .inherit := by
  obtain ⟨mode, hmode⟩ := valid.backgroundMode
  simp only [seenColours, propertyColours, hmode, findBackgroundMode_code, Option.getD_some]

/-- The Property's photo, owned, is the photo it shows. -/
theorem photoEdited_of_follows (valid : base.Valid contents) {photo : OwnPhoto}
    (h : PhotoEdited .inherit base ⟨none, none, none, none⟩ photo) :
    seenPhoto base.profile (.own photo) = seenPhoto base.profile .inherit ∧
      photo.altTexts = base.heroAltTexts := by
  have hasset : base.profile.heroAssetId = some photo.heroAssetId := h.asset
  obtain ⟨hfocalX, hfocalY⟩ := valid.anchored (by rw [hasset]; exact Option.some_ne_none _)
  obtain ⟨focalX, hfocalX⟩ := Option.ne_none_iff_exists'.1 hfocalX
  obtain ⟨focalY, hfocalY⟩ := Option.ne_none_iff_exists'.1 hfocalY
  have hstart : ownPhotoStart .inherit base photo.heroAssetId =
      ⟨photo.heroAssetId, focalX, focalY, base.heroAltTexts⟩ := by
    simp [ownPhotoStart, PortalLookPhoto.own?, hfocalX, hfocalY, hasset]
  have hanchor := h.anchor
  have haltTexts := h.altTexts
  rw [hstart] at hanchor haltTexts
  have hfocal : (focalX, focalY) = (photo.focalX, photo.focalY) := Except.ok.inj hanchor
  obtain ⟨hx, hy⟩ := Prod.mk.inj hfocal
  constructor
  · simp only [seenPhoto, hasset, hfocalX, hfocalY, hx, hy]
  · exact (Except.ok.inj haltTexts).symm

/-- Owning a group without giving values moves no facet. -/
theorem staysSame_ownWithoutValues (valid : base.Valid contents) {group : PortalLookGroup}
    (follows : Follows before group)
    (h : withChange readLookContrast before base (ownWithoutValues group) = .ok after)
    (facet : PortalLookFacet) : StaysSame base before after facet := by
  cases group with
  | colours =>
      have hcolours : before.colours = .inherit := follows
      obtain ⟨colours, hown, h⟩ := ok_of_bind h
      rw [hcolours] at hown
      cases hown
      cases h
      cases facet with
      | accent | field => simp only [StaysSame, hcolours]; rw [← seenColours_propertyColours valid]; rfl
      | wordmark | logo => rfl
      | photo => exact ⟨rfl, rfl⟩
  | identity =>
      have hidentity : before.identity = .inherit := follows
      obtain ⟨identity, hown, h⟩ := ok_of_bind h
      rw [hidentity] at hown
      cases hown
      cases h
      cases facet with
      | wordmark | logo => simp only [StaysSame, hidentity]; rfl
      | accent | field => rfl
      | photo => exact ⟨rfl, rfl⟩
  | photo =>
      have hphoto : before.photo = .inherit := follows
      obtain ⟨next, hown, h⟩ := ok_of_bind h
      rw [hphoto] at hown
      obtain ⟨photo, rfl, hedited⟩ := nextOwnPhoto_ok hown
      have hasset : base.profile.heroAssetId = some photo.heroAssetId := hedited.asset
      obtain ⟨hseen, haltTexts⟩ := photoEdited_of_follows valid hedited
      cases h
      cases facet with
      | accent | field | wordmark | logo => rfl
      | photo =>
          refine ⟨?_, ?_⟩
          · rw [hphoto]
            exact hseen.symm
          · simp only [effectiveAltTexts, hphoto, hasset, haltTexts]
            rfl

/-- Going back to what was there moves no facet if getting away from it moved none. -/
theorem StaysSame.back {a b c : PortalLookOverride} {facet : PortalLookFacet}
    (h : StaysSame base a b facet) (agree : ∀ group, AgreeOn a c group) :
    StaysSame base b c facet := by
  have hphoto : a.photo = c.photo := agree .photo
  have hcolours : a.colours = c.colours := agree .colours
  have hidentity : a.identity = c.identity := agree .identity
  cases facet with
  | accent | field =>
      simp only [StaysSame, ← hcolours]
      exact h.symm
  | wordmark | logo =>
      simp only [StaysSame, ← hidentity]
      exact h.symm
  | photo =>
      simp only [StaysSame, effectiveAltTexts, ← hphoto]
      exact ⟨h.1.symm, h.2.symm⟩

/-- Following the Property again in the one group that was owned leads back. -/
theorem agreeOn_followProperty {o : PortalLookOverride} {group : PortalLookGroup}
    (follows : Follows o group) (others : ∀ group', group' ≠ group → AgreeOn o before group')
    (h : withChange readLookContrast before base (followProperty group) = .ok after)
    (group' : PortalLookGroup) : AgreeOn o after group' := by
  by_cases heq : group' = group
  · subst heq
    cases group' <;> cases h <;> exact follows
  · have hother := others group' heq
    cases group <;> cases h <;> cases group' <;> first | exact absurd rfl heq | exact hother

/-! ## Different groups -/

/-- Whether a group's move changes anything is told from the group alone. -/
theorem changed_take_congr {a b source : PortalLookOverride} {group : PortalLookGroup}
    (agree : AgreeOn a b group) :
    changedPortalLookFacets base a (a.take source group) = [] ↔
      changedPortalLookFacets base b (b.take source group) = [] := by
  rw [changedPortalLookFacets_eq_nil, changedPortalLookFacets_eq_nil]
  apply forall_congr'
  intro facet
  cases group with
  | photo =>
      have hphoto : a.photo = b.photo := agree
      cases facet <;> simp [StaysSame, PortalLookOverride.take, effectiveAltTexts, hphoto]
  | colours =>
      have hcolours : a.colours = b.colours := agree
      cases facet <;> simp [StaysSame, PortalLookOverride.take, effectiveAltTexts, hcolours]
  | identity =>
      have hidentity : a.identity = b.identity := agree
      cases facet <;> simp [StaysSame, PortalLookOverride.take, effectiveAltTexts, hidentity]

/-- The override after a change whose outcome is known. -/
def moved (base : PortalLookBase) (before after : PortalLookOverride) : PortalLookOverride :=
  { after with
    lookVersion := if changedPortalLookFacets base before after = [] then before.lookVersion
      else before.lookVersion + 1 }

theorem nextPortalLook_override {current : Option PortalLookOverride} {next : NextPortalLook}
    (h : nextPortalLook readLookContrast current base change = .ok next) :
    ∃ after, withChange readLookContrast (current.getD (followingEverything base)) base change =
        .ok after ∧ next.override = moved base (current.getD (followingEverything base)) after := by
  obtain ⟨after, hafter, -, hnext⟩ := nextPortalLook_ok h
  exact ⟨after, hafter, hnext⟩

theorem nextPortalLook_of_withChange {current : Option PortalLookOverride}
    (h : withChange readLookContrast (current.getD (followingEverything base)) base change =
      .ok after) :
    ∃ next, nextPortalLook readLookContrast current base change = .ok next ∧
      next.override = moved base (current.getD (followingEverything base)) after := by
  refine ⟨⟨moved base (current.getD (followingEverything base)) after,
    changedPortalLookFacets base (current.getD (followingEverything base)) after⟩, ?_, rfl⟩
  rw [nextPortalLook]
  simp only [h]
  rfl

theorem agreeOn_moved (source : PortalLookOverride) {group group' : PortalLookGroup}
    (ne : group' ≠ group) : AgreeOn before (moved base before (before.take source group)) group' := by
  cases group <;> cases group' <;> first | exact absurd rfl ne | rfl

theorem AgreeOn.symm {a b : PortalLookOverride} {group : PortalLookGroup} (h : AgreeOn a b group) :
    AgreeOn b a group := by
  cases group <;> exact Eq.symm h

theorem moved_lookVersion (before after : PortalLookOverride) :
    (moved base before after).lookVersion =
      before.lookVersion + if changedPortalLookFacets base before after = [] then 0 else 1 := by
  simp only [moved]
  split_ifs <;> rfl

/-- Moves of different groups end in the same override in either order. -/
theorem moved_comm {source source' : PortalLookOverride} {group group' : PortalLookGroup}
    (ne : group' ≠ group) :
    moved base (moved base before (before.take source group))
        ((moved base before (before.take source group)).take source' group') =
      moved base (moved base before (before.take source' group'))
        ((moved base before (before.take source' group')).take source group) := by
  have hlater : changedPortalLookFacets base (moved base before (before.take source group))
      ((moved base before (before.take source group)).take source' group') = [] ↔
      changedPortalLookFacets base before (before.take source' group') = [] :=
    changed_take_congr (agreeOn_moved source ne).symm
  have hearlier : changedPortalLookFacets base (moved base before (before.take source' group'))
      ((moved base before (before.take source' group')).take source group) = [] ↔
      changedPortalLookFacets base before (before.take source group) = [] :=
    changed_take_congr (agreeOn_moved source' ne.symm).symm
  apply PortalLookOverride.ext
  · cases group <;> cases group' <;> first | exact absurd rfl ne | rfl
  · cases group <;> cases group' <;> first | exact absurd rfl ne | rfl
  · cases group <;> cases group' <;> first | exact absurd rfl ne | rfl
  · simp only [moved_lookVersion, hlater, hearlier]
    omega

/-- Accepted changes of different groups are accepted in the other order, with the same outcome. -/
theorem nextPortalLook_comm {current : Option PortalLookOverride} {change' : PortalLookChange}
    {first second : NextPortalLook} (ne : change'.group ≠ change.group)
    (h : nextPortalLook readLookContrast current base change = .ok first)
    (h' : nextPortalLook readLookContrast (some first.override) base change' = .ok second) :
    ∃ first' second', nextPortalLook readLookContrast current base change' = .ok first' ∧
      nextPortalLook readLookContrast (some first'.override) base change = .ok second' ∧
      second'.override = second.override := by
  obtain ⟨after, hafter, hfirst⟩ := nextPortalLook_override h
  obtain ⟨later, hlater, hsecond⟩ := nextPortalLook_override h'
  obtain ⟨htake, hsource⟩ := withChange_eq_take hafter
  obtain ⟨htake', hsource'⟩ := withChange_eq_take hlater
  rw [Option.getD_some] at hsource' htake' hsecond
  have hagree := @agreeOn_moved base (current.getD (followingEverything base)) after _ _ ne
  rw [← htake, ← hfirst] at hagree
  obtain ⟨first', hfirst', hoverride'⟩ := nextPortalLook_of_withChange (hsource' _ hagree)
  have hagree' := @agreeOn_moved base (current.getD (followingEverything base)) later _ _ ne.symm
  rw [← hoverride'] at hagree'
  obtain ⟨second', hsecond', hlast⟩ := @nextPortalLook_of_withChange _ _ _ _
    (some first'.override) (hsource _ hagree'.symm)
  refine ⟨first', second', hfirst', hsecond', ?_⟩
  rw [Option.getD_some] at hlast
  rw [hlast, hoverride', hsecond.trans (congrArg (moved base first.override) htake'),
    hfirst.trans (congrArg (moved base _) htake)]
  exact (moved_comm ne).symm

/-! ## One group, no value in common -/

/-- Two updates that touch different parts. -/
structure Apart {α : Type} (f g : α → α) : Prop where
  comm : ∀ x, f (g x) = g (f x)
  left : ∀ x, f (g x) = g x ↔ f x = x
  right : ∀ x, g (f x) = f x ↔ g x = x

/-- Two updates of a group's own values that touch different parts end in the same override in either
order, for a group whose values are put in place by `set` and start from `start`. -/
theorem moved_own_comm {α : Type} {set : PortalLookOverride → α → PortalLookOverride}
    {start : PortalLookOverride → α} {f g : α → α} (apart : Apart f g)
    (hstart : ∀ o x, start (moved base o (set o x)) = x)
    (hagain : ∀ o x y, set (moved base o (set o x)) y =
      { set o y with lookVersion := (moved base o (set o x)).lookVersion })
    (hsame : ∀ o x, changedPortalLookFacets base o (set o x) = [] ↔ x = start o)
    (o : PortalLookOverride) :
    moved base (moved base o (set o (f (start o))))
        (set (moved base o (set o (f (start o)))) (g (f (start o)))) =
      moved base (moved base o (set o (g (start o))))
        (set (moved base o (set o (g (start o)))) (f (g (start o)))) := by
  have hgroups (x x' y : α) : set (moved base o (set o x)) y =
      { set (moved base o (set o x')) y with
        lookVersion := (moved base o (set o x)).lookVersion } := by
    rw [hagain, hagain]
  have hfirst := hgroups (f (start o)) (g (start o)) (g (f (start o)))
  rw [PortalLookOverride.ext_iff, ← apart.comm] at hfirst
  apply PortalLookOverride.ext
  · rw [← apart.comm]
    exact hfirst.1
  · rw [← apart.comm]
    exact hfirst.2.1
  · rw [← apart.comm]
    exact hfirst.2.2.1
  · have hg : changedPortalLookFacets base (moved base o (set o (f (start o))))
        (set (moved base o (set o (f (start o)))) (g (f (start o)))) = [] ↔
        changedPortalLookFacets base o (set o (g (start o))) = [] := by
      rw [hsame, hstart, apart.right, hsame]
    have hf : changedPortalLookFacets base (moved base o (set o (g (start o))))
        (set (moved base o (set o (g (start o)))) (f (g (start o)))) = [] ↔
        changedPortalLookFacets base o (set o (f (start o))) = [] := by
      rw [hsame, hstart, apart.left, hsame]
    simp only [moved_lookVersion, hg, hf]
    omega

/-- The colours an edit makes of others. -/
def OwnColoursEdit.applied (edit : OwnColoursEdit) (start : OwnColours) : OwnColours :=
  ⟨edit.accent.getD start.accent, edit.backgroundMode.getD start.backgroundMode,
    edit.backgroundColour.getD start.backgroundColour⟩

/-- The name and logo an edit makes of others. -/
def OwnIdentityEdit.applied (edit : OwnIdentityEdit) (start : OwnIdentity) : OwnIdentity :=
  ⟨edit.wordmark.getD start.wordmark, edit.logoAssetId.getD start.logoAssetId⟩

/-- An edit of the name and logo with its wordmark as stored. -/
def OwnIdentityEdit.stored (edit : OwnIdentityEdit) : Except PortalLookError OwnIdentityEdit := do
  let wordmark ← edit.wordmark.elim (.ok none) fun given ↦ (normaliseWordmark given).map some
  .ok ⟨wordmark, edit.logoAssetId⟩

/-- Two edits that make a group the Portal's own and give no value in common. Photo edits are of the
photo that is there. -/
inductive DisjointEdits : PortalLookChange → PortalLookChange → Prop
  | colours {a b : OwnColoursEdit} (accent : a.accent = none ∨ b.accent = none)
      (mode : a.backgroundMode = none ∨ b.backgroundMode = none)
      (background : a.backgroundColour = none ∨ b.backgroundColour = none) :
      DisjointEdits (.coloursOwn a) (.coloursOwn b)
  | identity {a b : OwnIdentityEdit} (wordmark : a.wordmark = none ∨ b.wordmark = none)
      (logo : a.logoAssetId = none ∨ b.logoAssetId = none) :
      DisjointEdits (.identityOwn a) (.identityOwn b)
  | photo {a b : OwnPhotoEdit} (same : a.heroAssetId = none ∧ b.heroAssetId = none)
      (anchor : a.focalX = none ∧ a.focalY = none ∨ b.focalX = none ∧ b.focalY = none)
      (altTexts : ∀ locale, (a.altTexts.bind fun given ↦ given locale) = none ∨
        (b.altTexts.bind fun given ↦ given locale) = none) :
      DisjointEdits (.photoOwn a) (.photoOwn b)

theorem OwnColoursEdit.apart {a b : OwnColoursEdit} (accent : a.accent = none ∨ b.accent = none)
    (mode : a.backgroundMode = none ∨ b.backgroundMode = none)
    (background : a.backgroundColour = none ∨ b.backgroundColour = none) :
    Apart a.applied b.applied := by
  obtain ⟨a₁, a₂, a₃⟩ := a
  obtain ⟨b₁, b₂, b₃⟩ := b
  simp only at accent mode background
  constructor <;> intro x <;> rcases accent with rfl | rfl <;> rcases mode with rfl | rfl <;>
    rcases background with rfl | rfl <;> simp [applied, OwnColours.ext_iff]

theorem OwnIdentityEdit.apart {a b : OwnIdentityEdit} (wordmark : a.wordmark = none ∨ b.wordmark = none)
    (logo : a.logoAssetId = none ∨ b.logoAssetId = none) : Apart a.applied b.applied := by
  obtain ⟨a₁, a₂⟩ := a
  obtain ⟨b₁, b₂⟩ := b
  simp only at wordmark logo
  constructor <;> intro x <;> rcases wordmark with rfl | rfl <;> rcases logo with rfl | rfl <;>
    simp [applied, OwnIdentity.ext_iff]

theorem nextOwnColours_ok {current next : PortalLookColours} {edit : OwnColoursEdit}
    (h : nextOwnColours readLookContrast current base edit = .ok next) :
    next = .own (edit.applied (current.own?.getD (propertyColours base.profile))) := by
  simp only [nextOwnColours] at h
  split_ifs at h
  · split at h <;> cases h
    rfl
  · cases h
    rfl

theorem nextOwnIdentity_ok {current next : PortalLookIdentity} {edit : OwnIdentityEdit}
    (h : nextOwnIdentity current base edit = .ok next) :
    ∃ stored, edit.stored = .ok stored ∧ next = .own (stored.applied
      (current.own?.getD ⟨base.profile.wordmark, base.profile.logoAssetId⟩)) := by
  obtain ⟨wordmark, hwordmark, h⟩ := ok_of_bind h
  cases h
  cases hgiven : edit.wordmark with
  | none =>
      rw [hgiven] at hwordmark
      cases hwordmark
      refine ⟨⟨none, edit.logoAssetId⟩, ?_, rfl⟩
      rw [OwnIdentityEdit.stored, hgiven]
      rfl
  | some given =>
      rw [hgiven, Option.elim_some] at hwordmark
      refine ⟨⟨some wordmark, edit.logoAssetId⟩, ?_, rfl⟩
      rw [OwnIdentityEdit.stored, hgiven, Option.elim_some, hwordmark]
      rfl

theorem OwnIdentityEdit.stored_ok {edit stored : OwnIdentityEdit} (h : edit.stored = .ok stored) :
    (edit.wordmark = none → stored.wordmark = none) ∧ stored.logoAssetId = edit.logoAssetId := by
  obtain ⟨wordmark, hwordmark, h⟩ := ok_of_bind h
  cases h
  refine ⟨fun hnone ↦ ?_, rfl⟩
  rw [hnone] at hwordmark
  exact (Except.ok.inj hwordmark).symm

/-- Own colours move nothing exactly when they are the colours there. -/
theorem changed_coloursOwn (valid : base.Valid contents) (o : PortalLookOverride)
    (colours : OwnColours) :
    changedPortalLookFacets base o { o with colours := .own colours } = [] ↔
      colours = o.colours.own?.getD (propertyColours base.profile) := by
  have hseen : seenColours base.profile o.colours =
      seenColours base.profile (.own (o.colours.own?.getD (propertyColours base.profile))) := by
    cases o.colours with
    | inherit => exact (seenColours_propertyColours valid).symm
    | own colours => rfl
  rw [changedPortalLookFacets_eq_nil]
  constructor
  · intro h
    have haccent := h .accent
    have hfield := h .field
    simp only [StaysSame, hseen] at haccent hfield
    simp only [seenColours, Prod.mk.injEq] at haccent hfield
    have hmode := findBackgroundMode_code colours.backgroundMode
    rw [← hfield.1, findBackgroundMode_code] at hmode
    exact OwnColours.ext haccent.symm (Option.some.inj hmode).symm hfield.2.symm
  · rintro rfl facet
    cases facet with
    | accent | field => simp only [StaysSame, hseen]
    | wordmark | logo => rfl
    | photo => exact ⟨rfl, rfl⟩

/-- An own name and logo move nothing exactly when they are the ones there. -/
theorem changed_identityOwn (o : PortalLookOverride) (identity : OwnIdentity) :
    changedPortalLookFacets base o { o with identity := .own identity } = [] ↔
      identity = o.identity.own?.getD ⟨base.profile.wordmark, base.profile.logoAssetId⟩ := by
  have hseen : seenIdentity base.profile o.identity = seenIdentity base.profile
      (.own (o.identity.own?.getD ⟨base.profile.wordmark, base.profile.logoAssetId⟩)) := by
    cases o.identity <;> rfl
  rw [changedPortalLookFacets_eq_nil]
  constructor
  · intro h
    have hwordmark := h .wordmark
    have hlogo := h .logo
    simp only [StaysSame, hseen] at hwordmark hlogo
    simp only [seenIdentity] at hwordmark hlogo
    exact OwnIdentity.ext hwordmark.symm hlogo.symm
  · rintro rfl facet
    cases facet with
    | wordmark | logo => simp only [StaysSame, hseen]
    | accent | field => rfl
    | photo => exact ⟨rfl, rfl⟩

theorem coloursOwn_override {current : Option PortalLookOverride} {edit : OwnColoursEdit}
    {next : NextPortalLook}
    (h : nextPortalLook readLookContrast current base (.coloursOwn edit) = .ok next) :
    next.override = moved base (current.getD (followingEverything base))
      { current.getD (followingEverything base) with
        colours := .own (edit.applied ((current.getD (followingEverything base)).colours.own?.getD
          (propertyColours base.profile))) } := by
  obtain ⟨after, hafter, hnext⟩ := nextPortalLook_override h
  obtain ⟨colours, hcolours, hafter⟩ := ok_of_bind hafter
  cases hafter
  rw [hnext, nextOwnColours_ok hcolours]

theorem identityOwn_override {current : Option PortalLookOverride} {edit : OwnIdentityEdit}
    {next : NextPortalLook}
    (h : nextPortalLook readLookContrast current base (.identityOwn edit) = .ok next) :
    ∃ stored, edit.stored = .ok stored ∧
      next.override = moved base (current.getD (followingEverything base))
        { current.getD (followingEverything base) with
          identity := .own (stored.applied ((current.getD
            (followingEverything base)).identity.own?.getD
              ⟨base.profile.wordmark, base.profile.logoAssetId⟩)) } := by
  obtain ⟨after, hafter, hnext⟩ := nextPortalLook_override h
  obtain ⟨identity, hidentity, hafter⟩ := ok_of_bind hafter
  cases hafter
  obtain ⟨stored, hstored, hidentity⟩ := nextOwnIdentity_ok hidentity
  exact ⟨stored, hstored, by rw [hnext, hidentity]⟩

theorem photoOwn_override {current : Option PortalLookOverride} {edit : OwnPhotoEdit}
    {next : NextPortalLook}
    (h : nextPortalLook readLookContrast current base (.photoOwn edit) = .ok next) :
    ∃ photo, PhotoEdited (current.getD (followingEverything base)).photo base edit photo ∧
      next.override = { current.getD (followingEverything base) with
        photo := .own photo
        lookVersion := next.override.lookVersion } := by
  obtain ⟨after, hafter, hnext⟩ := nextPortalLook_override h
  obtain ⟨photo, hphoto, hafter⟩ := ok_of_bind hafter
  cases hafter
  obtain ⟨photo, rfl, hedited⟩ := nextOwnPhoto_ok hphoto
  exact ⟨photo, hedited, by rw [hnext]; rfl⟩

/-! ### Photo edits -/

section PhotoEdits

variable {current : PortalLookPhoto} {a b : OwnPhotoEdit} {p p' q q' : OwnPhoto}

/-- An edit that names no photo keeps the one that is there. -/
theorem PhotoEdited.asset_own (h : PhotoEdited (.own p) base b q) (same : b.heroAssetId = none) :
    q.heroAssetId = p.heroAssetId ∧ ownPhotoStart (.own p) base q.heroAssetId = p := by
  have hasset := h.asset
  rw [same, Option.none_or] at hasset
  have hkept : p.heroAssetId = q.heroAssetId := Option.some.inj hasset
  exact ⟨hkept.symm, by simp [ownPhotoStart, PortalLookPhoto.own?, Option.filter, hkept]⟩

/-- What an edit makes of the anchor depends on the anchor there. -/
theorem nextAnchor_congr (hx : p.focalX = q.focalX) (hy : p.focalY = q.focalY) :
    nextAnchor p b = nextAnchor q b := by
  rw [nextAnchor, nextAnchor, hx, hy]

theorem nextAnchor_of_none (ha : a.focalX = none ∧ a.focalY = none)
    (h : nextAnchor p a = .ok (q.focalX, q.focalY)) : q.focalX = p.focalX ∧ q.focalY = p.focalY := by
  rw [nextAnchor, if_neg (by simp [ha.1, ha.2])] at h
  obtain ⟨hx, hy⟩ := Prod.mk.inj (Except.ok.inj h)
  exact ⟨hx.symm, hy.symm⟩

/-- An edit without an anchor can come before or after one with it. -/
theorem anchor_comm {start : OwnPhoto} (ha : a.focalX = none ∧ a.focalY = none)
    (hp : nextAnchor start a = .ok (p.focalX, p.focalY))
    (hp' : nextAnchor p b = .ok (p'.focalX, p'.focalY))
    (hq : nextAnchor start b = .ok (q.focalX, q.focalY))
    (hq' : nextAnchor q a = .ok (q'.focalX, q'.focalY)) :
    p'.focalX = q'.focalX ∧ p'.focalY = q'.focalY := by
  obtain ⟨hpx, hpy⟩ := nextAnchor_of_none ha hp
  obtain ⟨hqx, hqy⟩ := nextAnchor_of_none ha hq'
  rw [nextAnchor_congr hpx hpy, hq] at hp'
  obtain ⟨hx, hy⟩ := Prod.mk.inj (Except.ok.inj hp')
  exact ⟨hx.symm.trans hqx.symm, hy.symm.trans hqy.symm⟩

/-- What an edit makes of the description in a language. -/
theorem changedAltTexts_at {start result : PortalHeroAltTexts}
    {given : Option (KeyedRecord GuestLocale (Option String))}
    (h : changedAltTexts start given = .ok result) (locale : GuestLocale) :
    ((given.bind fun texts ↦ texts locale) = none → result locale = start locale) ∧
      ∀ text, (given.bind fun texts ↦ texts locale) = some text →
        normaliseHeroAltText text = .ok (result locale) := by
  cases given with
  | none =>
      cases h
      exact ⟨fun _ ↦ rfl, nofun⟩
  | some given => exact changedAltTexts_ok h locale

/-- An edit without a description in a language can come before or after one with it. -/
theorem altText_comm {start p p' q q' : PortalHeroAltTexts}
    {a b : Option (KeyedRecord GuestLocale (Option String))} {locale : GuestLocale}
    (ha : (a.bind fun texts ↦ texts locale) = none)
    (hp : changedAltTexts start a = .ok p) (hp' : changedAltTexts p b = .ok p')
    (hq : changedAltTexts start b = .ok q) (hq' : changedAltTexts q a = .ok q') :
    p' locale = q' locale := by
  have hpa := (changedAltTexts_at hp locale).1 ha
  have hqa := (changedAltTexts_at hq' locale).1 ha
  cases hb : b.bind fun texts ↦ texts locale with
  | none =>
      rw [(changedAltTexts_at hp' locale).1 hb, hpa, hqa, (changedAltTexts_at hq locale).1 hb]
  | some text =>
      have hlater := (changedAltTexts_at hp' locale).2 text hb
      rw [(changedAltTexts_at hq locale).2 text hb] at hlater
      rw [hqa]
      exact (Except.ok.inj hlater).symm

/-- Photo edits that give nothing in common end in the same photo in either order. -/
theorem photoEdited_comm (same : a.heroAssetId = none ∧ b.heroAssetId = none)
    (anchor : a.focalX = none ∧ a.focalY = none ∨ b.focalX = none ∧ b.focalY = none)
    (altTexts : ∀ locale, (a.altTexts.bind fun given ↦ given locale) = none ∨
      (b.altTexts.bind fun given ↦ given locale) = none)
    (hp : PhotoEdited current base a p) (hp' : PhotoEdited (.own p) base b p')
    (hq : PhotoEdited current base b q) (hq' : PhotoEdited (.own q) base a q') : p' = q' := by
  obtain ⟨hpasset, hpstart⟩ := hp'.asset_own same.2
  obtain ⟨hqasset, hqstart⟩ := hq'.asset_own same.1
  have hfirst : p.heroAssetId = q.heroAssetId := by
    have hpq := hp.asset
    rw [same.1, ← same.2, hq.asset] at hpq
    exact (Option.some.inj hpq).symm
  have hpa := hp.anchor
  have hpt := hp.altTexts
  have hpa' := hp'.anchor
  have hpt' := hp'.altTexts
  have hqa' := hq'.anchor
  have hqt' := hq'.altTexts
  rw [hpstart] at hpa' hpt'
  rw [hqstart] at hqa' hqt'
  rw [hfirst] at hpa hpt
  have hanchor : p'.focalX = q'.focalX ∧ p'.focalY = q'.focalY := by
    rcases anchor with hnone | hnone
    · exact anchor_comm hnone hpa hpa' hq.anchor hqa'
    · obtain ⟨hx, hy⟩ := anchor_comm hnone hq.anchor hqa' hpa hpa'
      exact ⟨hx.symm, hy.symm⟩
  apply OwnPhoto.ext
  · rw [hpasset, hqasset, hfirst]
  · exact hanchor.1
  · exact hanchor.2
  · funext locale
    rcases altTexts locale with hnone | hnone
    · exact altText_comm hnone hpt hpt' hq.altTexts hqt'
    · exact (altText_comm hnone hq.altTexts hqt' hpt hpt').symm

end PhotoEdits

/-- Accepted edits of one group that give nothing in common end in the same look in either order; of
the colours and of the name and logo, in the same version too. -/
theorem disjointEdits_comm (valid : base.Valid contents) {current : Option PortalLookOverride}
    {change' : PortalLookChange} {first second first' second' : NextPortalLook}
    (disjoint : DisjointEdits change change')
    (h : nextPortalLook readLookContrast current base change = .ok first)
    (h' : nextPortalLook readLookContrast (some first.override) base change' = .ok second)
    (g : nextPortalLook readLookContrast current base change' = .ok first')
    (g' : nextPortalLook readLookContrast (some first'.override) base change = .ok second') :
    second'.override = { second.override with lookVersion := second'.override.lookVersion } ∧
      (change.group ≠ .photo → second'.override = second.override) := by
  cases disjoint with
  | @colours a b accent mode background =>
      have hsame : second'.override = second.override := by
        rw [coloursOwn_override h', coloursOwn_override g', Option.getD_some, Option.getD_some,
          coloursOwn_override h, coloursOwn_override g]
        exact (moved_own_comm (OwnColoursEdit.apart accent mode background) (fun _ _ ↦ rfl)
          (fun _ _ _ ↦ rfl) (changed_coloursOwn valid) (current.getD (followingEverything base))).symm
      exact ⟨by rw [hsame], fun _ ↦ hsame⟩
  | @identity a b wordmark logo =>
      obtain ⟨a', ha, hfirst⟩ := identityOwn_override h
      obtain ⟨b', hb, hsecond⟩ := identityOwn_override h'
      obtain ⟨b'', hb', hfirst'⟩ := identityOwn_override g
      obtain ⟨a'', ha', hsecond'⟩ := identityOwn_override g'
      cases Except.ok.inj (ha.symm.trans ha')
      cases Except.ok.inj (hb.symm.trans hb')
      obtain ⟨hwordmark, hlogo⟩ := OwnIdentityEdit.stored_ok ha
      obtain ⟨hwordmark', hlogo'⟩ := OwnIdentityEdit.stored_ok hb
      have hapart : Apart a'.applied b'.applied := by
        apply OwnIdentityEdit.apart
        · exact wordmark.imp hwordmark hwordmark'
        · rw [hlogo, hlogo']
          exact logo
      have hsame : second'.override = second.override := by
        rw [hsecond, hsecond', Option.getD_some, Option.getD_some, hfirst, hfirst']
        exact (moved_own_comm hapart (fun _ _ ↦ rfl) (fun _ _ _ ↦ rfl) changed_identityOwn
          (current.getD (followingEverything base))).symm
      exact ⟨by rw [hsame], fun _ ↦ hsame⟩
  | photo same anchor altTexts =>
      obtain ⟨p, hp, hfirst⟩ := photoOwn_override h
      obtain ⟨p', hp', hsecond⟩ := photoOwn_override h'
      obtain ⟨q, hq, hfirst'⟩ := photoOwn_override g
      obtain ⟨q', hq', hsecond'⟩ := photoOwn_override g'
      rw [Option.getD_some] at hp' hq' hsecond hsecond'
      rw [hfirst] at hp' hsecond
      rw [hfirst'] at hq' hsecond'
      have hsame := photoEdited_comm same anchor altTexts hp hp' hq hq'
      refine ⟨?_, fun hne ↦ absurd rfl hne⟩
      rw [hsecond', hsecond, hsame]

/-! ## Exactness -/

/-- Edits of a Portal's look are exact: the stored columns hold the override; a change moves its own
group and lists what guests see differently; owning a group, and following again, show the same; and
changes of different groups, and edits that give nothing in common, can come in either order. -/
theorem portal_look_edits_exact (valid : base.Valid contents) {current : Option PortalLookOverride}
    (reached : Reached readLookContrast current) :
    (∀ override, current = some override →
      portalLookOverrideOf (portalLookColumnsOf override).row = override) ∧
    (∀ change next, nextPortalLook readLookContrast current base change = .ok next →
      (∀ group, group ≠ change.group →
        AgreeOn next.override (current.getD (followingEverything base)) group) ∧
      (∀ facet ∈ next.changedFacets, change.group ∈ lookGroupsOfFacet facet) ∧
      (∀ facet, facet ∈ next.changedFacets ↔
        ¬ SameFacet (shownLook base contents current)
          (shownLook base contents (some next.override)) facet) ∧
      next.override.lookVersion = (shownLook base contents current).lookVersion +
        if next.changedFacets = [] then 0 else 1) ∧
    (∀ group next, Follows (current.getD (followingEverything base)) group →
      nextPortalLook readLookContrast current base (ownWithoutValues group) = .ok next →
      shownLook base contents (some next.override) = shownLook base contents current ∧
        ∀ back, nextPortalLook readLookContrast (some next.override) base (followProperty group) =
            .ok back →
          shownLook base contents (some back.override) = shownLook base contents current) ∧
    (∀ change change' first second, change'.group ≠ change.group →
      nextPortalLook readLookContrast current base change = .ok first →
      nextPortalLook readLookContrast (some first.override) base change' = .ok second →
      ∃ first' second', nextPortalLook readLookContrast current base change' = .ok first' ∧
        nextPortalLook readLookContrast (some first'.override) base change = .ok second' ∧
        second'.override = second.override) ∧
    (∀ change change' first second first' second', DisjointEdits change change' →
      nextPortalLook readLookContrast current base change = .ok first →
      nextPortalLook readLookContrast (some first.override) base change' = .ok second →
      nextPortalLook readLookContrast current base change' = .ok first' →
      nextPortalLook readLookContrast (some first'.override) base change = .ok second' →
      second'.override = { second.override with lookVersion := second'.override.lookVersion } ∧
        (change.group ≠ .photo → second'.override = second.override)) := by
  have hcurrent : (current.getD (followingEverything base)).Described := by
    cases hcurrent : current with
    | none => nofun
    | some override => exact reached.described override hcurrent
  refine ⟨fun override h ↦ portalLookOverrideOf_columns (reached.described override h),
    fun change next h ↦ ?_, fun group next follows h ↦ ?_,
    fun _ _ _ _ ne h h' ↦ nextPortalLook_comm ne h h',
    fun _ _ _ _ _ _ disjoint h h' g g' ↦ disjointEdits_comm valid disjoint h h' g g'⟩
  · obtain ⟨after, hafter, hfacets, hnext⟩ := nextPortalLook_ok h
    have hdescribed : next.override.Described := by
      rw [hnext]
      exact fun photo hown ↦ withChange_described hcurrent valid.described hafter photo hown
    refine ⟨fun group ne ↦ ?_, fun facet mem ↦ ?_, fun facet ↦ ?_, ?_⟩
    · rw [hnext, (withChange_eq_take hafter).1]
      exact (agreeOn_moved after ne).symm
    · rw [hfacets] at mem
      exact group_mem_of_changed hafter mem
    · rw [← shownLook_getD current, sameFacet_iff valid hcurrent hdescribed, hfacets,
        mem_changedPortalLookFacets, hnext]
      rfl
    · rw [← shownLook_getD current, hfacets, hnext]
      exact moved_lookVersion (current.getD (followingEverything base)) after
  · obtain ⟨after, hafter, hnext⟩ := nextPortalLook_override h
    have hsame := staysSame_ownWithoutValues valid follows hafter
    have hdescribed : next.override.Described := by
      rw [hnext]
      exact fun photo hown ↦ withChange_described hcurrent valid.described hafter photo hown
    have hversion : (current.getD (followingEverything base)).lookVersion =
        next.override.lookVersion := by
      rw [hnext, moved_lookVersion, if_pos (changedPortalLookFacets_eq_nil.2 hsame), Nat.add_zero]
    have hnextSame (facet : PortalLookFacet) :
        StaysSame base (current.getD (followingEverything base)) next.override facet := by
      rw [hnext]
      exact hsame facet
    have hshown : shownLook base contents (some next.override) = shownLook base contents current := by
      rw [← shownLook_getD current]
      exact (shownLook_eq valid hcurrent hdescribed hnextSame hversion).symm
    have hothers (group' : PortalLookGroup) (ne : group' ≠ group) :
        AgreeOn (current.getD (followingEverything base)) next.override group' := by
      have hgroup : (ownWithoutValues group).group = group := by cases group <;> rfl
      rw [hnext, (withChange_eq_take hafter).1, hgroup]
      exact agreeOn_moved after ne
    refine ⟨hshown, fun back hback ↦ ?_⟩
    obtain ⟨after', hafter', hback⟩ := nextPortalLook_override hback
    rw [Option.getD_some] at hafter' hback
    have hdescribed' : back.override.Described := by
      rw [hback]
      exact fun photo hown ↦ withChange_described hdescribed valid.described hafter' photo hown
    have hbackSame (facet : PortalLookFacet) : StaysSame base next.override after' facet :=
      (hnextSame facet).back (agreeOn_followProperty follows hothers hafter')
    rw [← hshown]
    apply (shownLook_eq valid hdescribed hdescribed' ?_ ?_).symm
    · rw [hback]
      exact hbackSame
    · rw [hback, moved_lookVersion, if_pos (changedPortalLookFacets_eq_nil.2 hbackSame), Nat.add_zero]

/-- A Property with a described photo. -/
def bayLook : PortalLookBase where
  profile := ⟨"#EAD6A8", "#15110D", "auto", none, none, some "bay", some 0, some 1, 3⟩
  heroAltTexts := descriptionIn [⟨"en", "Avela Resort", "By the sea", some "The bay"⟩]

theorem bayLook_valid :
    bayLook.Valid [⟨"en", "Avela Resort", "By the sea", some "The bay"⟩] where
  backgroundMode := ⟨.auto, rfl⟩
  anchored _ := ⟨Option.some_ne_none 0, Option.some_ne_none 1⟩
  heroAltTexts _ := rfl
  described := by
    intro locale text h
    cases locale <;> cases h
    decide

/-- The law at a Portal that takes its Property's photo and follows the Property again. -/
theorem portal_look_edits_exact_bay : ∃ own back,
    nextPortalLook (fun _ ↦ some true) none bayLook (.photoOwn ⟨none, none, none, none⟩) = .ok own ∧
      nextPortalLook (fun _ ↦ some true) (some own.override) bayLook .photoInherit = .ok back ∧
      shownLook bayLook [⟨"en", "Avela Resort", "By the sea", some "The bay"⟩] (some back.override) =
        shownLook bayLook [⟨"en", "Avela Resort", "By the sea", some "The bay"⟩] none := by
  obtain ⟨own, hown, -⟩ := @nextPortalLook_of_withChange (fun _ ↦ some true) bayLook
    ⟨.own ⟨"bay", 0, 1, bayLook.heroAltTexts⟩, .inherit, .inherit, 3⟩
    (.photoOwn ⟨none, none, none, none⟩) none rfl
  obtain ⟨back, hback, -⟩ := @nextPortalLook_of_withChange (fun _ ↦ some true) bayLook _
    .photoInherit (some own.override) rfl
  obtain ⟨-, hback'⟩ := (portal_look_edits_exact bayLook_valid .none).2.2.1 .photo own rfl hown
  exact ⟨own, back, hown, hback, hback' back hback⟩

end ReputationKey.Portal
