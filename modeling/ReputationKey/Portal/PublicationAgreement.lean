import Mathlib.Data.Countable.Basic
import Mathlib.Data.Rat.Encodable
import Mathlib.Logic.Encodable.Pi
import Mathlib.Tactic.DeriveCountable
import ReputationKey.Base.Refusal
import ReputationKey.Portal.ReaderAcceptance

/-!
# Publish, the reader and the working-copy comparison agree

What publishing returns the reader accepts, the comparison finds unchanged, and says the same as
building a source again in the same envelope.
-/

namespace ReputationKey.Portal

open ReputationKey.Base ReputationKey.Shared

variable {platform : PublicationPlatform} {input : PublicationEnvelope}
  {source other : PortalPublicationSource} {snapshot : PortalPublicationSnapshot}

/-! ## Envelopes -/

/-- What an accepted envelope states. -/
structure ValidEnvelope (input : PublicationEnvelope) (source : PortalPublicationSource) :
    Prop where
  scope : hasConsistentPublicationScope input source = true
  version : isPublicationVersion input.version = true
  threshold : isFeedbackThreshold source.privateFeedbackThreshold = true
  destination : isCompleteVerifiedDestination input.destination = true
  createdAt : input.createdAt.isSome = true

theorem assertPublicationEnvelope_iff :
    assertPublicationEnvelope input source = .ok () ↔ ValidEnvelope input source := by
  unfold assertPublicationEnvelope
  constructor
  · intro h
    obtain ⟨hscope, h⟩ := ok_of_guard h
    obtain ⟨hversion, h⟩ := ok_of_guard h
    obtain ⟨hthreshold, h⟩ := ok_of_guard h
    obtain ⟨hrest, -⟩ := ok_of_guard h
    rw [not_or, Bool.not_eq_false] at hrest
    rw [Bool.not_eq_false] at hscope hversion hthreshold
    exact ⟨hscope, hversion, hthreshold, hrest.1, Option.ne_none_iff_isSome.1 hrest.2⟩
  · intro valid
    have hcreated : input.createdAt ≠ none := Option.ne_none_iff_isSome.2 valid.createdAt
    simp only [valid.scope, valid.version, valid.threshold, valid.destination, hcreated,
      Bool.true_eq_false, or_self, if_false]

/-- The parts of a consistent scope. -/
theorem hasConsistentPublicationScope_iff : hasConsistentPublicationScope input source = true ↔
    (0 < utf16Length input.id ∧ 0 < utf16Length input.portalId ∧
      0 < utf16Length input.organizationId ∧ 0 < utf16Length input.propertyId ∧
      0 < utf16Length input.createdBy) ∧ source.portal.id = input.portalId ∧
      source.organizationId = input.organizationId ∧ source.propertyId = input.propertyId := by
  simp [hasConsistentPublicationScope, and_assoc]

theorem ValidEnvelope.retrievedAt (valid : ValidEnvelope input source) :
    ∃ retrievedAt, input.destination.retrievedAt = some retrievedAt := by
  have h := valid.destination
  unfold isCompleteVerifiedDestination at h
  simp only [Bool.and_eq_true] at h
  exact Option.isSome_iff_exists.1 h.1.1.1.1.2

/-- An envelope valid for a source is valid for one with the same scope and threshold. -/
theorem ValidEnvelope.congr (valid : ValidEnvelope input source)
    (portal : other.portal.id = source.portal.id)
    (organization : other.organizationId = source.organizationId)
    (property : other.propertyId = source.propertyId)
    (threshold : other.privateFeedbackThreshold = source.privateFeedbackThreshold) :
    ValidEnvelope input other where
  scope := by
    unfold hasConsistentPublicationScope
    rw [portal, organization, property]
    exact valid.scope
  version := valid.version
  threshold := threshold ▸ valid.threshold
  destination := valid.destination
  createdAt := valid.createdAt

/-! ## What building returns -/

/-- The configuration publishing a source in an envelope would store. -/
def configurationOf (platform : PublicationPlatform) (input : PublicationEnvelope)
    (source : PortalPublicationSource) (retrievedAt : Int) : ImmersiveConfiguration :=
  publicationConfiguration source (resolvePortalPublication platform.toResolverPlatform source).content
    input.destination retrievedAt

/-- What an accepted publication is made of. -/
structure Published (platform : PublicationPlatform) (input : PublicationEnvelope)
    (source : PortalPublicationSource) (retrievedAt : Int) (text : String) : Prop where
  valid : ValidEnvelope input source
  unblocked :
    (resolvePortalPublication platform.toResolverPlatform source).findings.blockers = []
  retrieved : input.destination.retrievedAt = some retrievedAt
  canonical : platform.canonicalizeRfc8785
    (.configuration (configurationOf platform input source retrievedAt)) = some text
  complete : isCompleteImmersiveConfiguration platform.toReaderPlatform
    (configurationOf platform input source retrievedAt) = true

theorem strictEq_self_of_isSafeInteger {number : JsNumber} (h : number.isSafeInteger = true) :
    number.strictEq number = true := by
  cases number with
  | nan => cases h
  | negInfinity | infinity | finite => exact beq_self_eq_true _

/-- The row of a valid envelope agrees with the configuration it stores. -/
theorem ValidEnvelope.hasConsistentSnapshotBinding (valid : ValidEnvelope input source)
    {retrievedAt : Int} (retrieved : input.destination.retrievedAt = some retrievedAt)
    (digest : String) :
    Portal.hasConsistentSnapshotBinding
      (input.snapshot digest (configurationOf platform input source retrievedAt)) = .ok true := by
  obtain ⟨⟨hid, hportalId, horganization, hproperty, hcreatedBy⟩, hportal, -⟩ :=
    hasConsistentPublicationScope_iff.1 valid.scope
  have hscope : hasConsistentSnapshotScope
      (input.snapshot digest (configurationOf platform input source retrievedAt)) = true := by
    change (decide (0 < utf16Length input.id) && decide (0 < utf16Length input.portalId) &&
      decide (0 < utf16Length input.organizationId) &&
      decide (0 < utf16Length input.propertyId) && decide (0 < utf16Length input.createdBy) &&
      isPublicationVersion input.version && source.portal.id == input.portalId &&
      isFeedbackThreshold source.privateFeedbackThreshold &&
      input.destination.uri == input.destination.uri) = true
    rw [decide_eq_true hid, decide_eq_true hportalId, decide_eq_true horganization,
      decide_eq_true hproperty, decide_eq_true hcreatedBy, valid.version, hportal,
      valid.threshold, beq_self_eq_true, beq_self_eq_true]
    rfl
  have hdestination := valid.destination
  unfold isCompleteVerifiedDestination at hdestination
  simp only [Bool.and_eq_true] at hdestination
  unfold Portal.hasConsistentSnapshotBinding
  rw [if_neg (by rw [hscope]; exact Bool.noConfusion)]
  change (toISOString input.destination.retrievedAt).map (fun instant ↦
    decide (retrievedAt = instant) &&
      input.destination.sourceEpoch.strictEq input.destination.sourceEpoch &&
      input.destination.profileVersion.strictEq input.destination.profileVersion &&
      input.createdAt.isSome) = .ok true
  rw [retrieved, strictEq_self_of_isSafeInteger hdestination.1.1.1.2,
    strictEq_self_of_isSafeInteger hdestination.1.2, valid.createdAt]
  simp [toISOString, Except.map]

/-- Verifying the row of a valid envelope asks for completeness and compares the digest. -/
theorem ValidEnvelope.verify (valid : ValidEnvelope input source)
    {retrievedAt : Int} (retrieved : input.destination.retrievedAt = some retrievedAt)
    (digest : String) :
    verifyPortalPublicationSnapshot platform
        (input.snapshot digest (configurationOf platform input source retrievedAt)) =
      if isCompleteImmersiveConfiguration platform.toReaderPlatform
          (configurationOf platform input source retrievedAt) = false then .ok false
      else (digestPortalPublicationConfiguration platform
        (configurationOf platform input source retrievedAt)).map fun stored ↦ stored == digest := by
  unfold verifyPortalPublicationSnapshot
  rw [valid.hasConsistentSnapshotBinding retrieved]
  rfl

theorem digest_eq_ok {configuration : ImmersiveConfiguration} {digest : String} :
    digestPortalPublicationConfiguration platform configuration = .ok digest ↔
      ∃ text, platform.canonicalizeRfc8785 (.configuration configuration) = some text ∧
        platform.sha256 text = digest := by
  unfold digestPortalPublicationConfiguration canonicalText
  cases platform.canonicalizeRfc8785 (.configuration configuration) with
  | none => simp [Except.map]
  | some text => simp [Except.map]

/-- What is published is accepted when it is read back. -/
theorem Published.verify {retrievedAt : Int} {text : String}
    (published : Published platform input source retrievedAt text) :
    verifyPortalPublicationSnapshot platform (input.snapshot (platform.sha256 text)
      (configurationOf platform input source retrievedAt)) = .ok true := by
  have hdigest := digest_eq_ok.2 ⟨text, published.canonical, rfl⟩
  rw [published.valid.verify published.retrieved, if_neg (by rw [published.complete]; decide),
    hdigest]
  exact congrArg Except.ok (beq_self_eq_true _)

/-- What building returns, and when. -/
theorem buildPortalPublicationSnapshot_eq_ok :
    buildPortalPublicationSnapshot platform input source = .ok snapshot ↔
      ∃ retrievedAt text, Published platform input source retrievedAt text ∧
        snapshot = input.snapshot (platform.sha256 text)
          (configurationOf platform input source retrievedAt) := by
  constructor
  · intro h
    unfold buildPortalPublicationSnapshot at h
    obtain ⟨⟨⟩, hvalid, h⟩ := ok_of_bind h
    have valid := assertPublicationEnvelope_iff.1 hvalid
    cases hblockers :
        (resolvePortalPublication platform.toResolverPlatform source).findings.blockers with
    | cons first rest =>
        simp only [hblockers] at h
        cases h
    | nil =>
        simp only [hblockers] at h
        obtain ⟨retrievedAt, hretrieved, h⟩ := ok_of_bind h
        obtain ⟨digest, hdigest, h⟩ := ok_of_bind h
        obtain ⟨verdict, hverdict, h⟩ := ok_of_bind h
        have hdate : input.destination.retrievedAt = some retrievedAt := by
          cases hsome : input.destination.retrievedAt with
          | none => rw [hsome] at hretrieved; cases hretrieved
          | some instant => rw [hsome] at hretrieved; cases hretrieved; rfl
        obtain ⟨text, htext, rfl⟩ := digest_eq_ok.1 hdigest
        change verifyPortalPublicationSnapshot platform (input.snapshot (platform.sha256 text)
          (configurationOf platform input source retrievedAt)) = .ok verdict at hverdict
        cases verdict with
        | false => cases h
        | true =>
            refine ⟨retrievedAt, text, ⟨valid, hblockers, hdate, htext, ?_⟩,
              (Except.ok.inj h).symm⟩
            rw [valid.verify hdate] at hverdict
            by_contra hincomplete
            rw [if_pos (Bool.not_eq_true _ ▸ hincomplete)] at hverdict
            cases hverdict
  · rintro ⟨retrievedAt, text, published, rfl⟩
    unfold buildPortalPublicationSnapshot
    rw [assertPublicationEnvelope_iff.2 published.valid]
    have hdigest := digest_eq_ok.2 ⟨text, published.canonical, rfl⟩
    have hverify := published.verify
    unfold configurationOf at hdigest hverify
    simp only [bind, Except.bind, published.unblocked, published.retrieved, toISOString, hdigest,
      hverify, if_true]
    rfl

/-! ## Copies -/

/-- Every text of a configuration that is tagged as a copy repeats the primary language's own. -/
structure FallbacksRepeatPrimary (configuration : ImmersiveConfiguration) : Prop where
  texts : ∀ text ∈ textKeys, ∀ locale content sourceLocale,
    configuration.localizedContent locale = some content →
    (text content).fallbackFrom = some sourceLocale →
    sourceLocale = configuration.guestLocale ∧
      ∃ primary, configuration.localizedContent configuration.guestLocale = some primary ∧
        text primary = own (text content).value
  links : ∀ link ∈ configuration.links, ∀ locale text sourceLocale,
    link.texts locale = some text → text.fallbackFrom = some sourceLocale →
    sourceLocale = configuration.guestLocale ∧
      link.texts configuration.guestLocale = some ⟨text.label, text.line, none⟩

theorem HonestCopies.of_tagged {φ : Type} {primary locale sourceLocale : GuestLocale}
    {wordingOf : GuestLocale → Wording φ} (honest : HonestCopies primary wordingOf)
    (tagged : (wordingOf locale).fallbackFrom = some sourceLocale) :
    sourceLocale = primary ∧ (wordingOf primary).fallbackFrom = none ∧
      (wordingOf locale).fingerprint = (wordingOf primary).fingerprint := by
  rcases honest locale with hown | ⟨-, hprimary, hcopy⟩
  · rw [hown] at tagged
    cases tagged
  · rw [hcopy] at tagged ⊢
    exact ⟨(Option.some.inj tagged).symm, hprimary, rfl⟩

theorem configurationOf_localizedContent (platform : PublicationPlatform)
    (input : PublicationEnvelope) (source : PortalPublicationSource) (retrievedAt : Int) :
    (configurationOf platform input source retrievedAt).localizedContent =
      .ofEntries (source.localeSet.map fun locale ↦ (locale, (localizedContentOf source locale
        (brandProfileOf platform.toResolverPlatform source).hero.isSome).1)) := by
  change KeyedRecord.ofEntries ((source.localeSet.map fun locale ↦ (locale,
    localizedContentOf source locale
      (brandProfileOf platform.toResolverPlatform source).hero.isSome)).map
    fun entry ↦ (entry.1, entry.2.1)) = _
  rw [List.map_map]
  rfl

/-- What is published keeps the primary language among its locales. -/
theorem Published.primary_mem {retrievedAt : Int} {text : String}
    (published : Published platform input source retrievedAt text) :
    source.primaryGuestLocale ∈ source.localeSet := by
  have hcomplete := published.complete
  unfold isCompleteImmersiveConfiguration hasValidLocaleSet at hcomplete
  simp only [Bool.and_eq_true] at hcomplete
  exact List.mem_of_mem_head? (beq_iff_eq.1 hcomplete.1.1.1.1.1.2)

theorem Published.fallbacksRepeatPrimary {retrievedAt : Int} {text : String}
    (published : Published platform input source retrievedAt text) :
    FallbacksRepeatPrimary (configurationOf platform input source retrievedAt) where
  texts := by
    intro text htext locale content sourceLocale hcontent htagged
    rw [configurationOf_localizedContent] at hcontent ⊢
    obtain ⟨-, rfl⟩ := KeyedRecord.mem_of_ofEntries_map hcontent
    have honest := localizedContentOf_honest source
      (brandProfileOf platform.toResolverPlatform source).hero.isSome htext
    obtain ⟨hprimary, hown, hsame⟩ := honest.of_tagged htagged
    refine ⟨hprimary, _, KeyedRecord.ofEntries_map_of_mem _ published.primary_mem, ?_⟩
    exact congr (congrArg PortalSnapshotText.mk hsame.symm) hown
  links := by
    intro link hlink locale text sourceLocale htext htagged
    obtain ⟨written, -, rfl⟩ := List.mem_map.1 hlink
    obtain ⟨-, rfl⟩ := KeyedRecord.mem_of_ofEntries_map htext
    have honest := linkTextIn_honest written source.primaryGuestLocale
    obtain ⟨hprimary, hown, hsame⟩ := honest.of_tagged htagged
    refine ⟨hprimary, ?_⟩
    change KeyedRecord.ofEntries _ source.primaryGuestLocale = _
    rw [KeyedRecord.ofEntries_map_of_mem _ published.primary_mem]
    have hlabel : _ = _ := congrArg Prod.fst hsame
    have hline : _ = _ := congrArg Prod.snd hsame
    exact congrArg some (congr (congr (congrArg ImmersiveLinkText.mk hlabel.symm) hline.symm) hown)

/-! ## Comparing -/

/-- What a publication stored says what its source says. -/
theorem ValidEnvelope.publishedContent (valid : ValidEnvelope input source)
    (platform : PublicationPlatform) (retrievedAt : Int) (digest : String) :
    Portal.publishedContent
        (input.snapshot digest (configurationOf platform input source retrievedAt)) =
      comparableWorkingContent platform source := by
  obtain ⟨-, -, horganization, hproperty⟩ := hasConsistentPublicationScope_iff.1 valid.scope
  unfold Portal.publishedContent comparableWorkingContent
  congr 1
  · exact horganization.symm
  · exact hproperty.symm
  · change ((if source.skipPrivateRating = true then some true else none) == some true) = _
    cases source.skipPrivateRating <;> rfl

/-- The working copy of a publication has a canonical form. -/
theorem Published.comparable (lawful : platform.Lawful) {retrievedAt : Int} {text : String}
    (published : Published platform input source retrievedAt text) :
    ∃ working, platform.canonicalizeRfc8785
      (.content (comparableWorkingContent platform source)) = some working := by
  have hfinite := (lawful.canonical_defined _).1 ⟨text, published.canonical⟩
  refine (lawful.canonical_defined _).2 fun number hnumber ↦ hfinite number ?_
  rw [CanonicalValue.numbers, List.mem_cons] at hnumber
  rw [CanonicalValue.numbers, List.mem_append]
  rcases hnumber with rfl | hbrand
  · exact Or.inl (List.mem_cons_self ..)
  · exact Or.inr hbrand

/-- The comparison of two working copies that can be published. -/
theorem workingCopyMatchesSnapshot_iff (lawful : platform.Lawful) {retrievedAt : Int}
    {text : String} (published : Published platform input source retrievedAt text)
    {envelope : PublicationEnvelope} {otherRetrievedAt : Int} {otherText : String}
    (publishable : Published platform envelope other otherRetrievedAt otherText) (digest : String) :
    ∃ answer, workingCopyMatchesSnapshot platform other
        (input.snapshot digest (configurationOf platform input source retrievedAt)) = .ok answer ∧
      (answer = true ↔
        comparableWorkingContent platform other = comparableWorkingContent platform source) := by
  obtain ⟨working, hworking⟩ := publishable.comparable lawful
  obtain ⟨stored, hstored⟩ := published.comparable lawful
  refine ⟨working == stored, ?_, ?_⟩
  · unfold workingCopyMatchesSnapshot canonicalText
    rw [published.valid.publishedContent, hworking, hstored]
    rfl
  · rw [beq_iff_eq]
    constructor
    · intro hsame
      rw [hsame] at hworking
      exact CanonicalValue.content.inj (lawful.canonical_injective _ _ _ hworking hstored)
    · intro hsame
      rw [hsame, hstored] at hworking
      exact (Option.some.inj hworking).symm

/-- Two working copies say the same exactly when the second builds the same configuration. -/
theorem comparable_eq_iff {retrievedAt : Int} {text : String}
    (published : Published platform input source retrievedAt text)
    (unblocked : (resolvePortalPublication platform.toResolverPlatform other).findings.blockers = []) :
    comparableWorkingContent platform other = comparableWorkingContent platform source ↔
      ∃ again, buildPortalPublicationSnapshot platform input other = .ok again ∧
        again.configuration = configurationOf platform input source retrievedAt := by
  constructor
  · intro hsame
    injection hsame with horganization hproperty hthreshold hskip hcontent
    have hportal : other.portal.id = source.portal.id :=
      congrArg (fun content : ImmersivePublicationContent ↦ content.portal.id) hcontent
    have hconfiguration : configurationOf platform input other retrievedAt =
        configurationOf platform input source retrievedAt := by
      unfold configurationOf publicationConfiguration
      rw [hcontent, hthreshold, hskip]
    refine ⟨input.snapshot (platform.sha256 text) (configurationOf platform input other retrievedAt),
      buildPortalPublicationSnapshot_eq_ok.2 ⟨retrievedAt, text, ?_, rfl⟩, hconfiguration⟩
    exact ⟨published.valid.congr hportal horganization hproperty hthreshold, unblocked,
      published.retrieved, by rw [hconfiguration]; exact published.canonical,
      by rw [hconfiguration]; exact published.complete⟩
  · rintro ⟨again, hagain, hconfiguration⟩
    obtain ⟨againAt, againText, hpublished, rfl⟩ := buildPortalPublicationSnapshot_eq_ok.1 hagain
    have hagainAt : againAt = retrievedAt :=
      Option.some.inj (hpublished.retrieved.symm.trans published.retrieved)
    rw [hagainAt] at hconfiguration
    have hsame := congrArg (fun configuration ↦
      Portal.publishedContent (input.snapshot "" configuration)) hconfiguration
    have hother := hpublished.valid.publishedContent platform retrievedAt ""
    have hsource := published.valid.publishedContent platform retrievedAt ""
    exact hother.symm.trans (hsame.trans hsource)

/-! ## Never refused -/

/-- The numbers of a complete look are finite. -/
theorem isFinite_of_isCompleteBrand {brand : ImmersiveBrandProfile}
    (complete : isCompleteBrand brand = true) :
    ∀ number ∈ brand.numbers, number.isFinite = true := by
  unfold isCompleteBrand at complete
  simp only [Bool.and_eq_true] at complete
  obtain ⟨⟨⟨⟨⟨⟨⟨-, -⟩, hlogo⟩, hhero⟩, -⟩, -⟩, hversion⟩, -⟩ := complete
  have hmedia : ∀ media : ImmersiveMediaReference, isValidMedia media = true →
      media.width.isFinite = true ∧ media.height.isFinite = true := by
    intro media hvalid
    unfold isValidMedia at hvalid
    simp only [Bool.and_eq_true] at hvalid
    exact ⟨JsNumber.isFinite_of_isInteger hvalid.1.1.1, JsNumber.isFinite_of_isInteger hvalid.1.1.2⟩
  intro number hnumber
  rw [ImmersiveBrandProfile.numbers, List.mem_append, List.mem_append, List.mem_singleton] at hnumber
  rcases hnumber with (hinLogo | hinHero) | rfl
  · cases hsome : brand.logo with
    | none => rw [hsome] at hinLogo; cases hinLogo
    | some logo =>
        rw [hsome] at hinLogo hlogo
        have hvalid := hmedia logo (Bool.and_eq_true_iff.1 hlogo).2
        simp only [Option.elim_some, ImmersiveMediaReference.numbers, List.mem_cons,
          List.not_mem_nil, or_false] at hinLogo
        rcases hinLogo with rfl | rfl
        · exact hvalid.1
        · exact hvalid.2
  · cases hsome : brand.hero with
    | none => rw [hsome] at hinHero; cases hinHero
    | some hero =>
        rw [hsome] at hinHero hhero
        rw [Option.all_some] at hhero
        simp only [Bool.and_eq_true, isUnitInterval] at hhero
        have hvalid := hmedia _ hhero.1.1.2
        simp only [Option.elim_some, ImmersiveMediaReference.numbers, List.cons_append,
          List.nil_append, List.mem_cons, List.not_mem_nil, or_false] at hinHero
        rcases hinHero with rfl | rfl | rfl | rfl
        · exact hvalid.1
        · exact hvalid.2
        · exact hhero.1.2.1
        · exact hhero.2.1
  · exact JsNumber.isFinite_of_isInteger (Bool.and_eq_true_iff.1 hversion).1

/-- A valid envelope and a source inside the limits are never refused. -/
theorem build_of_inside (lawful : platform.Lawful) (valid : ValidEnvelope input source)
    (unblocked :
      (resolvePortalPublication platform.toResolverPlatform source).findings.blockers = [])
    (inside : source.InsideReaderLimits platform.toReaderPlatform) (countable : source.Countable) :
    ∃ snapshot, buildPortalPublicationSnapshot platform input source = .ok snapshot := by
  obtain ⟨retrievedAt, hretrieved⟩ := valid.retrievedAt
  have hcomplete : isCompleteImmersiveConfiguration platform.toReaderPlatform
      (configurationOf platform input source retrievedAt) = true :=
    isComplete_of_inside inside lawful.field_hex countable unblocked
  have hbrand := isCompleteBrand_of_inside inside lawful.field_hex countable
  have hthreshold := valid.threshold
  have hdestination := valid.destination
  unfold isFeedbackThreshold at hthreshold
  unfold isCompleteVerifiedDestination at hdestination
  simp only [Bool.and_eq_true, JsNumber.isSafeInteger] at hthreshold hdestination
  have hcanonical : ∃ text, platform.canonicalizeRfc8785
      (.configuration (configurationOf platform input source retrievedAt)) = some text := by
    refine (lawful.canonical_defined _).2 fun number hnumber ↦ ?_
    rw [CanonicalValue.numbers, List.mem_append] at hnumber
    rcases hnumber with hgateway | hlook
    · simp only [List.mem_cons, List.not_mem_nil, or_false] at hgateway
      rcases hgateway with rfl | rfl | rfl
      · exact JsNumber.isFinite_of_isInteger hthreshold.1
      · exact JsNumber.isFinite_of_isInteger hdestination.1.1.1.2.1
      · exact JsNumber.isFinite_of_isInteger hdestination.1.2.1
    · exact isFinite_of_isCompleteBrand hbrand number hlook
  obtain ⟨text, htext⟩ := hcanonical
  exact ⟨_, buildPortalPublicationSnapshot_eq_ok.2
    ⟨retrievedAt, text, ⟨valid, unblocked, hretrieved, htext, hcomplete⟩, rfl⟩⟩

/-! ## The agreement -/

/-- What publishing returns the reader accepts and the comparison finds unchanged, with every copy
repeating the primary language's own text; another source that can be published matches it exactly
when it builds the same configuration; and a source inside the reader's limits is never refused. -/
theorem publish_reader_comparison_agree (platform : PublicationPlatform)
    (lawful : platform.Lawful) :
    (∀ input source snapshot,
      buildPortalPublicationSnapshot platform input source = .ok snapshot →
      verifyPortalPublicationSnapshot platform snapshot = .ok true ∧
      workingCopyMatchesSnapshot platform source snapshot = .ok true ∧
      FallbacksRepeatPrimary snapshot.configuration ∧
      ∀ envelope other published,
        buildPortalPublicationSnapshot platform envelope other = .ok published →
        ∃ answer, workingCopyMatchesSnapshot platform other snapshot = .ok answer ∧
          (answer = true ↔ ∃ again, buildPortalPublicationSnapshot platform input other = .ok again ∧
            again.configuration = snapshot.configuration)) ∧
    ∀ input source, assertPublicationEnvelope input source = .ok () →
      (resolvePortalPublication platform.toResolverPlatform source).findings.blockers = [] →
      source.InsideReaderLimits platform.toReaderPlatform → source.Countable →
      ∃ snapshot, buildPortalPublicationSnapshot platform input source = .ok snapshot := by
  constructor
  · intro input source snapshot hbuild
    obtain ⟨retrievedAt, text, hpublished, rfl⟩ := buildPortalPublicationSnapshot_eq_ok.1 hbuild
    refine ⟨hpublished.verify, ?_, hpublished.fallbacksRepeatPrimary, ?_⟩
    · obtain ⟨answer, hanswer, hiff⟩ :=
        workingCopyMatchesSnapshot_iff lawful hpublished hpublished (platform.sha256 text)
      rw [hanswer, hiff.2 rfl]
    · intro envelope other published hother
      obtain ⟨otherAt, otherText, hpublishable, -⟩ :=
        buildPortalPublicationSnapshot_eq_ok.1 hother
      obtain ⟨answer, hanswer, hiff⟩ :=
        workingCopyMatchesSnapshot_iff lawful hpublished hpublishable (platform.sha256 text)
      exact ⟨answer, hanswer, hiff.trans (comparable_eq_iff hpublished hpublishable.unblocked)⟩
  · intro input source hvalid hunblocked hinside hcountable
    exact build_of_inside lawful (assertPublicationEnvelope_iff.1 hvalid) hunblocked hinside
      hcountable

/-! ### A platform -/

instance instCountableChar : Countable Char := Function.Injective.countable fun _ _ h ↦ Char.toNat_inj.1 h

instance instCountableString : Countable String :=
  Function.Injective.countable (f := String.toList) fun _ _ h ↦ String.toList_inj.1 h

instance : Finite GuestLocale :=
  Finite.of_injective (fun locale ↦ (⟨locale.ctorIdx, by cases locale <;> decide⟩ : Fin 6))
    (by intro a b h; cases a <;> cases b <;> simp_all [GuestLocale.ctorIdx])

deriving instance Countable for JsNumber
deriving instance Countable for GuestLocale
deriving instance Countable for PortalSnapshotText
deriving instance Countable for ImmersiveLocalizedContent
deriving instance Countable for ImmersiveLinkText
deriving instance Countable for ImmersiveLink
deriving instance Countable for ImmersiveMediaReference
deriving instance Countable for ImmersiveHeroReference
deriving instance Countable for ImmersiveBrandProfile
deriving instance Countable for PortalReference
deriving instance Countable for ImmersivePublicationContent
deriving instance Countable for ReviewGateway
deriving instance Countable for GoogleReviewBinding
deriving instance Countable for ImmersiveConfiguration
deriving instance Countable for ComparableContent
deriving instance Countable for CanonicalValue

/-- A numbering of the values with a canonical form. -/
theorem exists_numbering : ∃ number : CanonicalValue → Nat, Function.Injective number :=
  exists_injective_nat CanonicalValue

/-- A platform that writes a value's number for its canonical text, knows the zones of this
example, and draws every field in one colour. -/
noncomputable def samplePlatform : PublicationPlatform where
  knowsTimeZone := fun timeZone ↦ timeZone == "Europe/Sofia"
  urlProtocol := fun value ↦ if "https://".toList.isPrefixOf value.toList then some "https:" else none
  deriveFieldColour := fun accent ↦ if matchesHexColour accent then some "#15110D" else none
  canonicalizeRfc8785 := fun value ↦
    if value.numbers.all JsNumber.isFinite then
      some (String.ofList (List.replicate (exists_numbering.choose value) '1'))
    else none
  sha256 := id

theorem samplePlatform_lawful : samplePlatform.Lawful where
  canonical_defined := by
    intro value
    change (∃ text, (if value.numbers.all JsNumber.isFinite = true then some _ else none) =
      some text) ↔ _
    by_cases hfinite : value.numbers.all JsNumber.isFinite = true
    · rw [if_pos hfinite]
      exact ⟨fun _ ↦ List.all_eq_true.1 hfinite, fun _ ↦ ⟨_, rfl⟩⟩
    · rw [if_neg hfinite]
      exact ⟨(fun ⟨_, h⟩ ↦ by cases h), fun h ↦ absurd (List.all_eq_true.2 h) hfinite⟩
  canonical_injective := by
    intro a b text ha hb
    change (if a.numbers.all JsNumber.isFinite = true then some _ else none) = some text at ha
    change (if b.numbers.all JsNumber.isFinite = true then some _ else none) = some text at hb
    obtain ⟨-, ha⟩ := Option.ite_none_right_eq_some.1 ha
    obtain ⟨-, hb⟩ := Option.ite_none_right_eq_some.1 hb
    have htexts := congrArg (fun text ↦ text.toList.length)
      ((Option.some.inj ha).trans (Option.some.inj hb).symm)
    simp only [String.toList_ofList, List.length_replicate] at htexts
    exact exists_numbering.choose_spec htexts
  field_hex := by
    intro accent field h
    change (if matchesHexColour accent = true then some "#15110D" else none) = some field at h
    obtain ⟨-, h⟩ := Option.ite_none_right_eq_some.1 h
    rw [← Option.some.inj h]
    decide

/-- A verified destination and an envelope for the Portal of this example. -/
def sampleEnvelope : PublicationEnvelope where
  id := "snapshot"
  portalId := "portal"
  organizationId := "org"
  propertyId := "property"
  version := .finite 1
  destination := ⟨"https://g.page/r/review", some 0, .finite 0, .finite 1⟩
  createdBy := "manager"
  createdAt := some 0

/-- A link with an English text only. -/
def sampleLink (id : String) : PublicationLink where
  id := id
  url := "https://example.com"
  iconKey := none
  imageAssetId := none
  texts
    | .en => some ⟨"Menu", none, false⟩
    | _ => none

/-- A working copy in English and Bulgarian whose Bulgarian texts are not written. -/
def sampleSource (ids : List String) (look : Option PublicationLook) :
    PortalPublicationSource where
  organizationId := "org"
  propertyId := "property"
  portal := ⟨"portal", "Hotel", "hotel"⟩
  privateFeedbackThreshold := .finite 3
  skipPrivateRating := false
  primaryGuestLocale := .en
  localeSet := [.en, .bg]
  linktreeEnabled := true
  timeZone := some "Europe/Sofia"
  look := look
  wording
    | .en => some ⟨some "Hotel", some "By the sea", none, none⟩
    | _ => none
  links := ids.map sampleLink

/-- A look with a version of its own. -/
def sampleLook (lookVersion : JsNumber) : PublicationLook :=
  ⟨"Hotel", none, "#EAD6A8", "#15110D", .auto, lookVersion, none, none⟩

theorem sampleSource_inside {ids : List String} (unique : ids.Nodup)
    (bounded : ∀ id ∈ ids, isBoundedId id = true) {look : Option PublicationLook}
    (inside : ∀ l, look = some l → l.InsideReaderLimits) :
    (sampleSource ids look).InsideReaderLimits samplePlatform.toReaderPlatform where
  localesUnique := by
    change [GuestLocale.en, .bg].Nodup
    decide
  primaryFirst := rfl
  linksUnique := by
    have hids : (ids.map sampleLink).map (·.id) = ids := by
      rw [List.map_map]
      exact List.map_id ids
    change ((ids.map sampleLink).map (·.id)).Nodup
    rw [hids]
    exact unique
  links := by
    intro link hlink
    obtain ⟨id, hid, rfl⟩ := List.mem_map.1 hlink
    have hurl : isLinkUrl samplePlatform.toReaderPlatform "https://example.com" = true := by
      decide +kernel
    exact ⟨bounded id hid, hurl, rfl, rfl⟩
  linkTexts := by
    intro link hlink locale text htext
    obtain ⟨id, -, rfl⟩ := List.mem_map.1 hlink
    cases locale with
    | en =>
        cases htext
        exact ⟨by decide, fun _ h ↦ by cases h⟩
    | es | it | fr | de | bg => cases htext
  wordings := by
    intro locale wording hwording
    cases locale with
    | en =>
        cases hwording
        exact ⟨(fun _ h ↦ by cases h; decide), (fun _ h ↦ by cases h; decide),
          (fun _ h ↦ by cases h), fun _ h ↦ by cases h⟩
    | es | it | fr | de | bg => cases hwording
  look := inside
  name := by
    intro _
    change isBoundedName "Hotel" 120 = true
    decide

theorem sampleLook_inside (lookVersion : JsNumber) :
    (sampleLook lookVersion).InsideReaderLimits := by
  have hname : isBoundedName "Hotel" 120 = true := by decide
  have haccent : matchesHexColour "#EAD6A8" = true := by decide
  exact ⟨hname, rfl, haccent, (fun h ↦ by cases h), rfl, rfl⟩

theorem sampleEnvelope_valid (ids : List String) (look : Option PublicationLook) :
    assertPublicationEnvelope sampleEnvelope (sampleSource ids look) = .ok () := by
  have hscope : hasConsistentPublicationScope sampleEnvelope (sampleSource [] none) = true := by
    decide
  have hthreshold : isFeedbackThreshold (.finite 3) = true := by decide
  exact assertPublicationEnvelope_iff.2 ⟨hscope, by decide +kernel, hthreshold, by decide +kernel,
    rfl⟩

/-- A working copy with a gap in Bulgarian is published, read back and compared. -/
theorem publish_reader_comparison_agree_published :
    ∃ snapshot, buildPortalPublicationSnapshot samplePlatform sampleEnvelope
        (sampleSource ["menu"] none) = .ok snapshot ∧
      verifyPortalPublicationSnapshot samplePlatform snapshot = .ok true ∧
      workingCopyMatchesSnapshot samplePlatform (sampleSource ["menu"] none) snapshot = .ok true ∧
      FallbacksRepeatPrimary snapshot.configuration := by
  have hagree := publish_reader_comparison_agree samplePlatform samplePlatform_lawful
  obtain ⟨snapshot, hbuild⟩ := hagree.2 sampleEnvelope (sampleSource ["menu"] none)
    (sampleEnvelope_valid _ _) (by decide +kernel) (sampleSource_inside (by decide) (by decide) fun _ h ↦ by cases h)
    ⟨by decide, fun _ h ↦ by cases h⟩
  obtain ⟨hverify, hmatches, hfallbacks, -⟩ := hagree.1 _ _ snapshot hbuild
  exact ⟨snapshot, hbuild, hverify, hmatches, hfallbacks⟩

/-- The links of a Portal with more links than the reader serves. -/
def crowdedIds : List String := (List.range 51).map toString

/-- Links and texts inside every limit the reader has on each are not enough: a Portal with 51
links, or one whose look was never versioned, is refused. -/
theorem inside_limits_but_refused :
    (assertPublicationEnvelope sampleEnvelope (sampleSource crowdedIds none) = .ok () ∧
      (resolvePortalPublication samplePlatform.toResolverPlatform
        (sampleSource crowdedIds none)).findings.blockers = [] ∧
      (sampleSource crowdedIds none).InsideReaderLimits samplePlatform.toReaderPlatform ∧
      ¬ ∃ snapshot, buildPortalPublicationSnapshot samplePlatform sampleEnvelope
        (sampleSource crowdedIds none) = .ok snapshot) ∧
    let unversioned := sampleSource ["menu"] (some (sampleLook (.finite 0)))
    assertPublicationEnvelope sampleEnvelope unversioned = .ok () ∧
      (resolvePortalPublication samplePlatform.toResolverPlatform unversioned).findings.blockers =
        [] ∧
      unversioned.InsideReaderLimits samplePlatform.toReaderPlatform ∧
      ¬ ∃ snapshot, buildPortalPublicationSnapshot samplePlatform sampleEnvelope unversioned =
        .ok snapshot := by
  refine ⟨⟨sampleEnvelope_valid _ _, by decide +kernel, sampleSource_inside (by decide +kernel)
    (by decide +kernel) (fun _ h ↦ by cases h), ?_⟩, sampleEnvelope_valid _ _, by decide +kernel,
    sampleSource_inside (by decide) (by decide) (fun _ h ↦ by cases h; exact sampleLook_inside _), ?_⟩
  · rintro ⟨snapshot, hbuild⟩
    obtain ⟨retrievedAt, text, published, -⟩ := buildPortalPublicationSnapshot_eq_ok.1 hbuild
    have hcomplete := published.complete
    unfold isCompleteImmersiveConfiguration hasCompleteLinks at hcomplete
    simp only [Bool.and_eq_true, decide_eq_true_eq] at hcomplete
    have hfew : ((crowdedIds.map sampleLink).map
        (linkOf (sampleSource crowdedIds none))).length ≤ immersiveSnapshotLimits.maxLinks :=
      hcomplete.1.1.2.1.1
    rw [List.length_map, List.length_map] at hfew
    exact absurd hfew (by decide)
  · rintro ⟨snapshot, hbuild⟩
    obtain ⟨retrievedAt, text, published, -⟩ := buildPortalPublicationSnapshot_eq_ok.1 hbuild
    have hcomplete := published.complete
    unfold isCompleteImmersiveConfiguration isCompleteBrand at hcomplete
    simp only [Bool.and_eq_true] at hcomplete
    have hpositive : (JsNumber.finite 0).isAtLeast 1 = true := hcomplete.1.2.2
    exact absurd hpositive (by decide)

end ReputationKey.Portal
