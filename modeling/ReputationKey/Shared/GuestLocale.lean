/-!
# The guest-locale catalogue

The languages a guest can read a Portal in and the language packs registered for each. Follows
`src/src/shared/domain/guest-locale.ts`.
-/

namespace ReputationKey.Shared

/-- A locale the guest surface can render. -/
inductive GuestLocale
  | en
  | es
  | it
  | fr
  | de
  | bg
  deriving DecidableEq, Repr

/-- Every locale, in display order. -/
def guestLocales : List GuestLocale := [.en, .es, .it, .fr, .de, .bg]

namespace GuestLocale

/-- The code a locale is stored under. -/
def code : GuestLocale → String
  | .en => "en"
  | .es => "es"
  | .it => "it"
  | .fr => "fr"
  | .de => "de"
  | .bg => "bg"

/-- The English name of a locale. -/
def englishName : GuestLocale → String
  | .en => "English"
  | .es => "Spanish"
  | .it => "Italian"
  | .fr => "French"
  | .de => "German"
  | .bg => "Bulgarian"

end GuestLocale

/-- A registered language pack and the snapshot generation that may carry it. -/
structure GuestLanguagePack where
  id : String
  generation : Nat
  deriving DecidableEq, Repr

/-- The generation 1 pack of a locale. -/
def frozenGuestLanguagePack : GuestLocale → Option String
  | .en => some "guest-ui-en-v1"
  | .bg => some "guest-ui-bg-v1"
  | .es | .it | .fr | .de => none

/-- The packs ever supported for a locale, oldest first. -/
def supportedGuestLanguagePacks : GuestLocale → List GuestLanguagePack
  | .en => [⟨"guest-ui-en-v1", 1⟩, ⟨"guest-ui-en-v2", 2⟩]
  | .bg => [⟨"guest-ui-bg-v1", 1⟩, ⟨"guest-ui-bg-v2", 2⟩]
  | .es => [⟨"guest-ui-es-v2", 2⟩]
  | .it => [⟨"guest-ui-it-v2", 2⟩]
  | .fr => [⟨"guest-ui-fr-v2", 2⟩]
  | .de => [⟨"guest-ui-de-v2", 2⟩]

/-- Whether a version is a pack of the locale that snapshots of the generation may carry. -/
def isSupportedGuestLanguagePack (locale : GuestLocale) (version : String) (generation : Nat) :
    Bool :=
  (supportedGuestLanguagePacks locale).any fun pack ↦
    pack.id == version && pack.generation == generation

/-- The newest pack of a locale in a generation. -/
def currentGuestLanguagePack (locale : GuestLocale) (generation : Nat) : Option String :=
  if generation = 1 then frozenGuestLanguagePack locale
  else
    (((supportedGuestLanguagePacks locale).filter fun pack ↦
      pack.generation == generation).getLast?).map (·.id)

/-- The locale a stored value names. -/
def parseGuestLocale (value : String) : Option GuestLocale :=
  guestLocales.find? fun locale ↦ locale.code == value

theorem mem_guestLocales (locale : GuestLocale) : locale ∈ guestLocales := by
  cases locale <;> decide

theorem guestLocales_nodup : guestLocales.Nodup := by decide

theorem parseGuestLocale_code (locale : GuestLocale) : parseGuestLocale locale.code = some locale := by
  cases locale <;> rfl

theorem parseGuestLocale_eq_some {value : String} {locale : GuestLocale} :
    parseGuestLocale value = some locale ↔ value = locale.code := by
  constructor
  · intro h
    rw [parseGuestLocale] at h
    have hcode := List.find?_some h
    exact (beq_iff_eq.1 hcode).symm
  · rintro rfl
    exact parseGuestLocale_code locale
theorem GuestLocale.eq_of_code_eq {a b : GuestLocale} (h : a.code = b.code) : a = b := by
  rw [← parseGuestLocale_eq_some, parseGuestLocale_code] at h
  exact (Option.some.inj h)

/-- Every locale has a generation 2 pack, and it is a supported one. -/
theorem currentGuestLanguagePack_two (locale : GuestLocale) :
    ∃ pack, currentGuestLanguagePack locale 2 = some pack ∧
      isSupportedGuestLanguagePack locale pack 2 = true := by
  cases locale <;> exact ⟨_, rfl, by decide⟩

end ReputationKey.Shared
