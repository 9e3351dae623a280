import ReputationKey.Shared.JsString

/-!
# Phone numbers and email addresses of a Portal link

What a manager types is read as a phone number or an email address and reaches one stored form; an
address is followed only when reading it again gives the same text. Follows
`src/src/shared/domain/portal-contact-address.ts`.
-/

namespace ReputationKey.Shared

open ReputationKey.Review (isJsWhitespaceCode)

/-- What a contact address reaches. -/
inductive PortalContactKind
  | phone
  | email
  deriving DecidableEq, Repr

/-- A contact address: its stored form and the form the editor shows. -/
structure PortalContactAddress where
  kind : PortalContactKind
  uri : String
  address : String
  deriving DecidableEq, Repr

/-- The scheme of a stored phone number. -/
def phoneScheme : String := "tel:"

/-- The scheme of a stored email address. -/
def emailScheme : String := "mailto:"

/-- What people write between groups of digits. -/
def isPhoneSeparator (c : Char) : Bool :=
  c == ' ' || c == '\u00a0' || c == '\u202f' || c == '(' || c == ')' || c == '.' || c == '-' ||
    (decide ('\u2010' ≤ c) && decide (c ≤ '\u2015')) || c == '\u2212'

/-- A text without the white space around it. -/
def trimCharacters (text : List Char) : List Char :=
  (((text.dropWhile fun c ↦ isJsWhitespaceCode c.toNat).reverse).dropWhile
    fun c ↦ isJsWhitespaceCode c.toNat).reverse

/-- What follows a scheme, in either letter case. Only ASCII letters fold into a scheme. -/
def withoutScheme (value : List Char) (scheme : String) : Option (List Char) :=
  if (value.take scheme.length).map Char.toLower = scheme.toList then
    some (value.drop scheme.length)
  else none

/-- A leading plus sign, removed. -/
def withoutPlus (value : List Char) : List Char :=
  if value.head? = some '+' then value.tail else value

/-- Digits with separators, after an optional plus sign. -/
def isPhoneShaped (value : List Char) : Bool :=
  !(withoutPlus value).isEmpty && (withoutPlus value).all fun c ↦ c.isDigit || isPhoneSeparator c

/-- What a typed text says it is. -/
def kindOf (value : List Char) : Option PortalContactKind :=
  if (withoutScheme value phoneScheme).isSome then some .phone
  else if (withoutScheme value emailScheme).isSome then some .email
  else if value.contains '@' && !value.contains ':' && !value.contains '/' then some .email
  else if isPhoneShaped value && value.any Char.isDigit then some .phone
  else none

/-- A phone number of 7 to 15 digits. -/
def readPhone (value : List Char) : Option PortalContactAddress :=
  let body := ((withoutScheme value phoneScheme).getD value).filter fun c ↦ !isPhoneSeparator c
  let digits := withoutPlus body
  if digits.all Char.isDigit && decide (7 ≤ digits.length) && decide (digits.length ≤ 15) then
    some ⟨.phone, phoneScheme ++ String.ofList body, String.ofList body⟩
  else none

/-- No dot starts or ends a text or follows another dot. -/
def isDotSeparated (value : List Char) : Bool :=
  value.head? != some '.' && value.getLast? != some '.' &&
    (value.zip value.tail).all fun pair ↦ pair != ('.', '.')

/-- The characters allowed before the at sign. -/
def isLocalCharacter (c : Char) : Bool :=
  c.isAlphanum || c == '_' || c == '\'' || c == '+' || c == '.' || c == '-'

/-- The part of an address before the at sign. -/
def isLocalPart (localPart : List Char) : Bool :=
  decide (utf16Length (String.ofList localPart) ≤ 64) && !localPart.isEmpty &&
    localPart.all isLocalCharacter && isDotSeparated localPart

/-- The characters of a domain label. -/
def isDomainCharacter (c : Char) : Bool := c.isLower || c.isDigit || c == '-'

/-- One label of a domain. -/
def isDomainLabel (label : List Char) : Bool :=
  label.all isDomainCharacter && decide (1 ≤ label.length) && decide (label.length ≤ 63) &&
    label.head? != some '-' && label.getLast? != some '-'

/-- The last label of a domain. -/
def isTopLevelDomain (label : List Char) : Bool :=
  (label.all Char.isLower && decide (2 ≤ label.length) && decide (label.length ≤ 63)) ||
    ("xn--".toList.isPrefixOf label && (label.drop 4).all isDomainCharacter &&
      decide (1 ≤ (label.drop 4).length) && decide ((label.drop 4).length ≤ 59))

/-- A domain of at least two labels. -/
def isDomain (domain : List Char) : Bool :=
  let labels := domain.splitOn '.'
  decide (utf16Length (String.ofList domain) ≤ 253) && decide (2 ≤ labels.length) &&
    labels.all isDomainLabel && isTopLevelDomain (labels.getLast?.getD [])

/-- A letter of a domain in lower case. The Kelvin sign is the one letter outside ASCII whose lower
case is an ASCII letter; every other one stays outside. -/
def lowerDomainLetter (c : Char) : Char := if c = '\u212a' then 'k' else c.toLower

/-- An email address, its domain in lower case. -/
def readEmail (value : List Char) : Option PortalContactAddress :=
  match ((withoutScheme value emailScheme).getD value).splitOn '@' with
  | [localPart, rawDomain] =>
      let domain := rawDomain.map lowerDomainLetter
      let address := String.ofList (localPart ++ '@' :: domain)
      if decide (utf16Length address ≤ 254) && isLocalPart localPart && isDomain domain then
        some ⟨.email, emailScheme ++ address, address⟩
      else none
  | _ => none

/-- Read what a manager typed: nothing of the kind, the kind it was meant to be, or the address. -/
def parsePortalContactInput (input : String) :
    Option (Except PortalContactKind PortalContactAddress) :=
  let value := trimCharacters input.toList
  (kindOf value).map fun kind ↦
    match (match kind with
      | .phone => readPhone value
      | .email => readEmail value) with
    | some contact => .ok contact
    | none => .error kind

/-- The contact a stored address names, only when it is exactly the stored form. -/
def portalContactOf (uri : String) : Option PortalContactAddress :=
  match parsePortalContactInput uri with
  | some (.ok contact) => if contact.uri = uri then some contact else none
  | _ => none

/-- Whether an address is a phone number or an email address in its stored form. -/
def isPortalContactUri (uri : String) : Bool := (portalContactOf uri).isSome

/-- A typed number with its separators is not the stored form; without them it is. -/
example : isPortalContactUri "tel:+1 (555) 123-4567" = false ∧
    isPortalContactUri "tel:+15551234567" = true := by decide

/-! ## Reading a stored form again -/

/-- A visible ASCII character. -/
def IsVisible (c : Char) : Prop := 33 ≤ c.toNat ∧ c.toNat ≤ 126

instance (c : Char) : Decidable (IsVisible c) := inferInstanceAs (Decidable (_ ∧ _))

theorem isVisible_of_all {text : List Char} (h : (text.all fun c ↦ decide (IsVisible c)) = true) :
    ∀ c ∈ text, IsVisible c :=
  fun c mem ↦ of_decide_eq_true (List.all_eq_true.1 h c mem)

theorem isJsWhitespaceCode_of_visible {c : Char} (h : IsVisible c) :
    isJsWhitespaceCode c.toNat = false := by
  obtain ⟨hlow, hhigh⟩ := h
  simp only [isJsWhitespaceCode, Bool.or_eq_false_iff, Bool.and_eq_false_iff, decide_eq_false_iff_not,
    beq_eq_false_iff_ne]
  omega

/-- Visible characters are not trimmed. -/
theorem dropWhile_of_visible {text : List Char} (h : ∀ c ∈ text, IsVisible c) :
    (text.dropWhile fun c ↦ isJsWhitespaceCode c.toNat) = text := by
  cases text with
  | nil => rfl
  | cons c rest =>
      apply List.dropWhile_cons_of_neg
      rw [isJsWhitespaceCode_of_visible (h c List.mem_cons_self)]
      exact Bool.false_ne_true

theorem trimCharacters_of_visible {text : List Char} (h : ∀ c ∈ text, IsVisible c) :
    trimCharacters text = text := by
  rw [trimCharacters, dropWhile_of_visible h,
    dropWhile_of_visible fun c mem ↦ h c (List.mem_reverse.1 mem), List.reverse_reverse]

theorem trimmed_of_visible {text : String} (h : ∀ c ∈ text.toList, IsVisible c) :
    trimmed text = text := by
  have htrim := trimCharacters_of_visible h
  rw [trimCharacters] at htrim
  rw [trimmed, htrim, String.ofList_toList]

theorem isVisible_of_isDigit {c : Char} (h : c.isDigit = true) : IsVisible c := by
  simp only [Char.isDigit, Bool.and_eq_true, decide_eq_true_eq, UInt32.le_iff_toNat_le] at h
  have hlow : '0'.val.toNat = 48 := rfl
  have hhigh : '9'.val.toNat = 57 := rfl
  unfold IsVisible Char.toNat
  omega

theorem bounds_of_isLower {c : Char} (h : c.isLower = true) : 97 ≤ c.toNat ∧ c.toNat ≤ 122 := by
  have hletter : (decide ('a'.val ≤ c.val) && decide (c.val ≤ 'z'.val)) = true := h
  rw [Bool.and_eq_true, decide_eq_true_eq, decide_eq_true_eq, UInt32.le_iff_toNat_le,
    UInt32.le_iff_toNat_le] at hletter
  exact hletter

theorem bounds_of_isUpper {c : Char} (h : c.isUpper = true) : 65 ≤ c.toNat ∧ c.toNat ≤ 90 := by
  have hletter : 'A'.val ≤ c.val ∧ c.val ≤ 'Z'.val := of_decide_eq_true h
  rw [UInt32.le_iff_toNat_le, UInt32.le_iff_toNat_le] at hletter
  exact hletter

theorem isVisible_of_isLower {c : Char} (h : c.isLower = true) : IsVisible c := by
  have hletter := bounds_of_isLower h
  unfold IsVisible
  omega

theorem isVisible_of_isUpper {c : Char} (h : c.isUpper = true) : IsVisible c := by
  have hletter := bounds_of_isUpper h
  unfold IsVisible
  omega

theorem isVisible_of_isLocalCharacter {c : Char} (h : isLocalCharacter c = true) :
    IsVisible c ∧ c ≠ '@' := by
  simp only [isLocalCharacter, Bool.or_eq_true, beq_iff_eq] at h
  have halnum : c.isAlphanum = true ↔ (c.isUpper = true ∨ c.isLower = true) ∨ c.isDigit = true := by
    rw [← Bool.or_eq_true, ← Bool.or_eq_true]
    rfl
  rw [halnum] at h
  rcases h with ((((((h | h) | h) | rfl) | rfl) | rfl) | rfl) | rfl
  · refine ⟨isVisible_of_isUpper h, ?_⟩
    rintro rfl
    exact absurd h (by decide)
  · refine ⟨isVisible_of_isLower h, ?_⟩
    rintro rfl
    exact absurd h (by decide)
  · refine ⟨isVisible_of_isDigit h, ?_⟩
    rintro rfl
    exact absurd h (by decide)
  all_goals exact ⟨⟨by decide, by decide⟩, by decide⟩

/-- What follows a scheme in lower case is found again. -/
theorem withoutScheme_append {scheme : String} (rest : List Char)
    (lower : scheme.toList.map Char.toLower = scheme.toList) :
    withoutScheme (scheme.toList ++ rest) scheme = some rest := by
  rw [withoutScheme, ← String.length_toList, List.take_left, List.drop_left, if_pos lower]

/-- A number is digits, after an optional plus sign. -/
theorem isDigit_or_plus {body : List Char} (h : (withoutPlus body).all Char.isDigit = true) {c : Char}
    (mem : c ∈ body) : c.isDigit = true ∨ c = '+' := by
  rw [List.all_eq_true] at h
  cases body with
  | nil => cases mem
  | cons head rest =>
      by_cases hplus : head = '+'
      · subst hplus
        rcases List.mem_cons.1 mem with rfl | mem
        · exact Or.inr rfl
        · exact Or.inl (h c (by simpa [withoutPlus] using mem))
      · have hsame : withoutPlus (head :: rest) = head :: rest := if_neg (by simpa using hplus)
        rw [hsame] at h
        exact Or.inl (h c mem)

/-- A phone number is read again from its stored form. -/
theorem parsePortalContactInput_phone {value : List Char} {contact : PortalContactAddress}
    (h : readPhone value = some contact) :
    parsePortalContactInput contact.uri = some (.ok contact) := by
  unfold readPhone at h
  simp only at h
  generalize hbody : ((withoutScheme value phoneScheme).getD value).filter
    (fun c ↦ !isPhoneSeparator c) = body at h
  split_ifs at h with hdigits
  cases h
  have hvisible : ∀ c ∈ phoneScheme.toList ++ body, IsVisible c := by
    intro c mem
    rcases List.mem_append.1 mem with hscheme | mem
    · exact isVisible_of_all (by decide) c hscheme
    · simp only [Bool.and_eq_true] at hdigits
      rcases isDigit_or_plus hdigits.1.1 mem with hdigit | rfl
      · exact isVisible_of_isDigit hdigit
      · exact ⟨by decide, by decide⟩
  have hscheme : withoutScheme (phoneScheme.toList ++ body) phoneScheme = some body :=
    withoutScheme_append body (by decide)
  have hfilter : body.filter (fun c ↦ !isPhoneSeparator c) = body := by
    rw [← hbody, List.filter_filter]
    simp only [Bool.and_self]
  have hread : readPhone (phoneScheme.toList ++ body) =
      some ⟨.phone, phoneScheme ++ String.ofList body, String.ofList body⟩ := by
    simp only [readPhone, hscheme, Option.getD_some, hfilter]
    exact if_pos hdigits
  have hkind : kindOf (phoneScheme.toList ++ body) = some .phone := by
    rw [kindOf, hscheme]
    rfl
  simp only [parsePortalContactInput, String.toList_append, String.toList_ofList,
    trimCharacters_of_visible hvisible, hkind, Option.map_some, hread]

/-- A character of joined parts is a separator or in one of the parts. -/
theorem mem_intercalate {parts : List (List Char)} {separator c : Char}
    (mem : c ∈ [separator].intercalate parts) : c = separator ∨ ∃ part ∈ parts, c ∈ part := by
  induction parts with
  | nil => cases mem
  | cons part rest ih =>
      cases rest with
      | nil =>
          rw [List.intercalate_singleton] at mem
          exact Or.inr ⟨part, List.mem_cons_self, mem⟩
      | cons next rest =>
          rw [List.intercalate_cons_cons, List.mem_append, List.mem_append, List.mem_singleton] at mem
          rcases mem with (h | h) | h
          · exact Or.inr ⟨part, List.mem_cons_self, h⟩
          · exact Or.inl h
          · rcases ih h with h | ⟨other, hother, hc⟩
            · exact Or.inl h
            · exact Or.inr ⟨other, List.mem_cons_of_mem _ hother, hc⟩

/-- A character of a domain is visible and in lower case. -/
theorem isDomainCharacter_plain {c : Char} (h : isDomainCharacter c = true) :
    IsVisible c ∧ c ≠ '@' ∧ lowerDomainLetter c = c := by
  have hsame (hlow : 97 ≤ c.toNat ∨ c.toNat ≤ 57) (hvisible : c.toNat ≤ 126) :
      lowerDomainLetter c = c := by
    have hkelvin : c ≠ '\u212a' := by
      rintro rfl
      exact absurd hvisible (by decide)
    rw [lowerDomainLetter, if_neg hkelvin]
    refine dif_neg ?_
    have hA : 'A'.val.toNat = 65 := rfl
    have hZ : 'Z'.val.toNat = 90 := rfl
    simp only [ge_iff_le, UInt32.le_iff_toNat_le]
    unfold Char.toNat at hlow
    omega
  simp only [isDomainCharacter, Bool.or_eq_true, beq_iff_eq] at h
  rcases h with (h | h) | rfl
  · have hvisible := isVisible_of_isLower h
    have hletter := bounds_of_isLower h
    refine ⟨hvisible, ?_, hsame (Or.inl hletter.1) hvisible.2⟩
    rintro rfl
    exact absurd h (by decide)
  · have hvisible := isVisible_of_isDigit h
    simp only [Char.isDigit, Bool.and_eq_true, decide_eq_true_eq, UInt32.le_iff_toNat_le, ge_iff_le] at h
    refine ⟨hvisible, ?_, hsame (Or.inr h.2) hvisible.2⟩
    rintro rfl
    exact absurd h.2 (by decide)
  · exact ⟨⟨by decide, by decide⟩, by decide, by decide⟩

/-- A domain is visible and in lower case. -/
theorem domain_plain {domain : List Char} (h : isDomain domain = true) {c : Char} (mem : c ∈ domain) :
    IsVisible c ∧ c ≠ '@' ∧ lowerDomainLetter c = c := by
  have hjoin : ['.'].intercalate (domain.splitOn '.') = domain := List.intercalate_splitOn '.'
  rw [← hjoin] at mem
  rcases mem_intercalate mem with rfl | ⟨label, hlabel, hc⟩
  · exact ⟨⟨by decide, by decide⟩, by decide, by decide⟩
  · simp only [isDomain, Bool.and_eq_true, List.all_eq_true] at h
    have hlabels := h.1.2 label hlabel
    simp only [isDomainLabel, Bool.and_eq_true, List.all_eq_true] at hlabels
    exact isDomainCharacter_plain (hlabels.1.1.1.1 c hc)

/-- An email address is read again from its stored form. -/
theorem parsePortalContactInput_email {value : List Char} {contact : PortalContactAddress}
    (h : readEmail value = some contact) :
    parsePortalContactInput contact.uri = some (.ok contact) := by
  unfold readEmail at h
  split at h
  · next localPart rawDomain _ =>
      simp only at h
      generalize hdomain : rawDomain.map lowerDomainLetter = domain at h
      split_ifs at h with hvalid
      cases h
      simp only [Bool.and_eq_true] at hvalid
      obtain ⟨⟨hlength, hlocal⟩, hdom⟩ := hvalid
      have hlocalChars : ∀ c ∈ localPart, IsVisible c ∧ c ≠ '@' := by
        simp only [isLocalPart, Bool.and_eq_true, List.all_eq_true] at hlocal
        exact fun c mem ↦ isVisible_of_isLocalCharacter (hlocal.1.2 c mem)
      have hvisible : ∀ c ∈ emailScheme.toList ++ (localPart ++ '@' :: domain), IsVisible c := by
        intro c mem
        rw [List.mem_append, List.mem_append, List.mem_cons] at mem
        rcases mem with hscheme | hc | rfl | hc
        · exact isVisible_of_all (by decide) c hscheme
        · exact (hlocalChars c hc).1
        · exact ⟨by decide, by decide⟩
        · exact (domain_plain hdom hc).1
      have hscheme : withoutScheme (emailScheme.toList ++ (localPart ++ '@' :: domain)) emailScheme =
          some (localPart ++ '@' :: domain) := withoutScheme_append _ (by decide)
      have hsplit : (localPart ++ '@' :: domain).splitOn '@' = [localPart, domain] := by
        rw [List.splitOn_append_cons_self_of_not_mem fun mem ↦ (hlocalChars _ mem).2 rfl,
          List.splitOn_eq_singleton fun mem ↦ (domain_plain hdom mem).2.1 rfl]
      have hlower : domain.map lowerDomainLetter = domain := by
        conv_rhs => rw [← List.map_id domain]
        exact List.map_congr_left fun c mem ↦ (domain_plain hdom mem).2.2
      have hread : readEmail (emailScheme.toList ++ (localPart ++ '@' :: domain)) =
          some ⟨.email, emailScheme ++ String.ofList (localPart ++ '@' :: domain),
            String.ofList (localPart ++ '@' :: domain)⟩ := by
        simp only [readEmail, hscheme, Option.getD_some, hsplit, hlower, hlength, hlocal, hdom]
        rfl
      have hkind : kindOf (emailScheme.toList ++ (localPart ++ '@' :: domain)) = some .email := by
        have hphone : withoutScheme (emailScheme.toList ++ (localPart ++ '@' :: domain)) phoneScheme =
            none := by
          have hfour : phoneScheme.length = 4 := rfl
          rw [withoutScheme, hfour, if_neg]
          simp [emailScheme, phoneScheme]
        rw [kindOf, hphone, hscheme]
        rfl
      simp only [parsePortalContactInput, String.toList_append, String.toList_ofList,
        trimCharacters_of_visible hvisible, hkind, Option.map_some, hread]
  · cases h

/-- What was read is read again from its stored form. -/
theorem parsePortalContactInput_uri {input : String} {contact : PortalContactAddress}
    (h : parsePortalContactInput input = some (.ok contact)) :
    parsePortalContactInput contact.uri = some (.ok contact) := by
  unfold parsePortalContactInput at h
  simp only at h
  cases hkind : kindOf (trimCharacters input.toList) with
  | none =>
      rw [hkind] at h
      cases h
  | some kind =>
      rw [hkind, Option.map_some, Option.some.injEq] at h
      split at h
      · next found hfound =>
          cases h
          cases kind with
          | phone => exact parsePortalContactInput_phone hfound
          | email => exact parsePortalContactInput_email hfound
      · cases h

/-- What was read is stored as the address of a contact. -/
theorem isPortalContactUri_uri {input : String} {contact : PortalContactAddress}
    (h : parsePortalContactInput input = some (.ok contact)) : isPortalContactUri contact.uri = true := by
  rw [isPortalContactUri, portalContactOf, parsePortalContactInput_uri h]
  simp

end ReputationKey.Shared
