import ReputationKey.Portal.SafeLink
import ReputationKey.Shared.PortalContactAddress

/-!
# Destinations a manager may store

A manager-supplied address is admitted as a website or, before that, as a phone number or an email
address. What the URL standard does, parsing and the hostname setter, is a parameter. Follows
`src/src/contexts/portal/domain/approved-destination.ts`.
-/

namespace ReputationKey.Portal

open ReputationKey.Base ReputationKey.Shared

/-! ## Source decisions -/

/-- What a destination was admitted as. -/
inductive PortalApprovedDestinationSource
  | recognized
  | custom
  | provider
  | contact
  deriving DecidableEq, Repr

/-- An address that cannot be stored, with what the manager is told. -/
structure InvalidUrl where
  message : String
  deriving DecidableEq, Repr

structure ValidatedPortalDestination where
  normalizedUri : String
  hostname : String
  sourceType : PortalApprovedDestinationSource
  deriving DecidableEq, Repr

/-- The URL standard: how a text is parsed, and which host the hostname setter reads from a text. -/
structure UrlStandard where
  parse : String → Option WebUrl
  parseHost : List Char → Option Host

/-- The URL after its hostname was set; a text that is no host leaves it. -/
def UrlStandard.setHostname (urls : UrlStandard) (url : WebUrl) (hostname : List Char) : WebUrl :=
  { url with host := (urls.parseHost hostname).getD url.host }

def recognizedHosts : List String :=
  ["booking.com", "expedia.com", "facebook.com", "instagram.com", "linkedin.com", "tripadvisor.com",
    "x.com", "youtube.com"]

def isRecognizedHostname (hostname : List Char) : Bool :=
  recognizedHosts.any fun candidate ↦
    hostname == candidate.toList || ('.' :: candidate.toList).isSuffixOf hostname

/-- Whether a host is a literal address. -/
def isLiteralIpHostname (hostname : List Char) : Bool :=
  (['['].isPrefixOf hostname && [']'].isSuffixOf hostname) ||
    (let octets := hostname.splitOn '.'
     octets.length == 4 && octets.all fun octet ↦
       octet.length != 0 && decide (octet.length ≤ 3) && octet.all Char.isDigit &&
         decide (Nat.ofDigitChars 10 octet 0 ≤ 255))

def isForbiddenHostname (hostname : List Char) : Bool :=
  hostname == "localhost".toList || ".localhost".toList.isSuffixOf hostname ||
    ".local".toList.isSuffixOf hostname || ".internal".toList.isSuffixOf hostname ||
    isLiteralIpHostname hostname

/-- The host of a parsed URL in lower case, without one trailing dot. Parsed hosts are ASCII. -/
def destinationHostname (parsed : WebUrl) : List Char :=
  withoutTrailing '.' (parsed.hostname.map Char.toLower)

/-- Whether a parsed URL is refused as a website. -/
def isRefusedWebsite (parsed : WebUrl) : Bool :=
  parsed.protocol != "https:" || parsed.username != "" || parsed.password != "" ||
    (parsed.port != "" && parsed.port != "443") || parsed.hash != "" ||
    (destinationHostname parsed).length == 0 || decide (253 < (destinationHostname parsed).length) ||
    isForbiddenHostname (destinationHostname parsed)

/-- A parsed URL as it is stored: its host is set anew, its port is dropped. -/
def storedWebsite (urls : UrlStandard) (parsed : WebUrl) : WebUrl :=
  { urls.setHostname parsed (destinationHostname parsed) with port := "" }

/-- Synchronous admission for manager-supplied secondary destinations. -/
def validatePortalDestinationUri (urls : UrlStandard) (uri : String) :
    Except InvalidUrl ValidatedPortalDestination :=
  match urls.parse (trimmed uri) with
  | none => .error ⟨"Destination must be a valid HTTPS address"⟩
  | some parsed =>
      if isRefusedWebsite parsed then
        .error ⟨"Destination must be a public HTTPS address without credentials or a fragment"⟩
      else
        .ok ⟨(storedWebsite urls parsed).href, String.ofList (destinationHostname parsed),
          if isRecognizedHostname (destinationHostname parsed) then .recognized else .custom⟩

/-- What a manager is told when the address of a tile cannot be read. -/
def portalLinkAddressRefusals : PortalContactKind → String
  | .phone =>
      "Enter a phone number of 7 to 15 digits. It may start with + and use spaces, dashes, dots or brackets."
  | .email => "Enter one email address, such as front@hotel.com, with nothing after it."

/-- The `contact` source names exactly a stored phone number or email address. -/
def isConsistentDestinationKind (destination : ValidatedPortalDestination) : Bool :=
  (destination.sourceType == .contact) == isPortalContactUri destination.normalizedUri

/-- Admission for a Linktree tile's address: a contact in its stored form, or else a website. -/
def validatePortalLinkDestination (urls : UrlStandard) (input : String) :
    Except InvalidUrl ValidatedPortalDestination :=
  match parsePortalContactInput input with
  | none => validatePortalDestinationUri urls input
  | some (.error kind) => .error ⟨portalLinkAddressRefusals kind⟩
  | some (.ok contact) => .ok ⟨contact.uri, contact.address, .contact⟩

/-! ## What stored destinations promise -/

/-- What the URL standard promises of HTTPS addresses. -/
structure UrlStandard.Lawful (urls : UrlStandard) : Prop where
  /-- An HTTPS address has a network host. -/
  https_host {text : String} {url : WebUrl} (parsed : urls.parse text = some url)
    (https : url.protocol = "https:") :
    (∃ name, url.host = .domain name) ∨ (∃ address, url.host = .ipv4 address) ∨
      ∃ address, url.host = .ipv6 address
  /-- Parsing percent-encodes what is not visible. -/
  https_visible {text : String} {url : WebUrl} (parsed : urls.parse text = some url)
    (https : url.protocol = "https:") :
    ∀ c ∈ url.pathname.toList ++ (url.query.getD "").toList ++ (url.fragment.getD "").toList, IsVisible c
  /-- A domain is read as itself. -/
  parseHost_domain {text : String} {url : WebUrl} {name : DomainName}
    (parsed : urls.parse text = some url) (https : url.protocol = "https:")
    (host : url.host = .domain name) : urls.parseHost name.text = some (.domain name)
  /-- A domain is read as itself without its trailing dot too. -/
  parseHost_trailing_dot {text : String} {url : WebUrl} {name : DomainName} {rest : List Char}
    (parsed : urls.parse text = some url) (https : url.protocol = "https:")
    (host : url.host = .domain name) (dotted : name.text = rest ++ ['.']) (ne : rest ≠ [])
    (once : rest.getLast? ≠ some '.') :
    ∃ shorter, shorter.text = rest ∧ urls.parseHost rest = some (.domain shorter)
  /-- A URL whose host was set and whose port was dropped is parsed back from its text. -/
  parse_href {text : String} {url : WebUrl} (parsed : urls.parse text = some url)
    (https : url.protocol = "https:") (hostname : List Char) :
    urls.parse { urls.setHostname url hostname with port := "" }.href =
      some { urls.setHostname url hostname with port := "" }

/-- Whether a host is a literal address. -/
def IsLiteralAddress : Host → Prop
  | .ipv4 _ | .ipv6 _ => True
  | _ => False

/-- What a stored website promises: guests may open it, it is admitted again as it is, and it is an
address of the returned host without credentials, fragment or port. -/
def OpensForGuests (urls : UrlStandard) (stored : ValidatedPortalDestination) : Prop :=
  isPublicHttpsDestination urls.parse stored.normalizedUri = true ∧
    validatePortalDestinationUri urls stored.normalizedUri = .ok stored ∧
    ∃ parsed, urls.parse stored.normalizedUri = some parsed ∧
      parsed.hostname = stored.hostname.toList ∧ ¬ IsLiteralAddress parsed.host ∧
      parsed.username = "" ∧ parsed.password = "" ∧ parsed.hash = "" ∧ parsed.port = ""

/-- Stored destinations satisfy the guest boundary, whatever was entered. -/
def StoredWithinGuestBoundary (urls : UrlStandard) (input : String) : Prop :=
  (∀ stored, validatePortalDestinationUri urls input = .ok stored → OpensForGuests urls stored) ∧
    ∀ stored, validatePortalLinkDestination urls input = .ok stored →
      isConsistentDestinationKind stored = true ∧
        validatePortalLinkDestination urls stored.normalizedUri = .ok stored

/-- Whether an entered website has a public name for guests: once its trailing dot is gone it has no
other, and the guest boundary takes it for no private target. -/
def NamesPublicHost (urls : UrlStandard) (input : String) : Prop :=
  ∀ parsed, urls.parse (trimmed input) = some parsed → isRefusedWebsite parsed = false →
    (destinationHostname parsed).getLast? ≠ some '.' ∧
      isPrivateDestinationHost (destinationHostname parsed) = false

/-! ## Admitted websites -/

/-- A website is admitted exactly if its parsed URL is not refused. -/
theorem validatePortalDestinationUri_eq_ok {urls : UrlStandard} {uri : String}
    {stored : ValidatedPortalDestination} :
    validatePortalDestinationUri urls uri = .ok stored ↔
      ∃ parsed, urls.parse (trimmed uri) = some parsed ∧ isRefusedWebsite parsed = false ∧
        stored = ⟨(storedWebsite urls parsed).href, String.ofList (destinationHostname parsed),
          if isRecognizedHostname (destinationHostname parsed) then .recognized else .custom⟩ := by
  unfold validatePortalDestinationUri
  cases urls.parse (trimmed uri) with
  | none => simp
  | some parsed =>
      by_cases hrefused : isRefusedWebsite parsed = true
      · simp [hrefused]
      · simp only [if_neg hrefused]
        constructor
        · intro h
          cases h
          exact ⟨parsed, rfl, by simpa using hrefused, rfl⟩
        · rintro ⟨other, hother, -, rfl⟩
          cases hother
          rfl

/-- What an admitted website is. -/
theorem isRefusedWebsite_eq_false {parsed : WebUrl} (h : isRefusedWebsite parsed = false) :
    parsed.protocol = "https:" ∧ parsed.username = "" ∧ parsed.password = "" ∧ parsed.hash = "" ∧
      destinationHostname parsed ≠ [] ∧ (destinationHostname parsed).length ≤ 253 ∧
      isForbiddenHostname (destinationHostname parsed) = false := by
  simp only [isRefusedWebsite, Bool.or_eq_false_iff, bne_eq_false_iff_eq] at h
  obtain ⟨⟨⟨⟨⟨⟨⟨hprotocol, husername⟩, hpassword⟩, -⟩, hhash⟩, hempty⟩, hlength⟩, hforbidden⟩ := h
  refine ⟨hprotocol, husername, hpassword, hhash, ?_, ?_, hforbidden⟩
  · intro hnil
    rw [hnil] at hempty
    cases hempty
  · exact not_lt.1 (of_decide_eq_false hlength)

/-- A website of another port, with the same host, is refused no less. -/
theorem isRefusedWebsite_congr {parsed other : WebUrl} (h : isRefusedWebsite parsed = false)
    (protocol : other.protocol = parsed.protocol) (username : other.username = parsed.username)
    (password : other.password = parsed.password) (hash : other.hash = parsed.hash)
    (port : other.port = "") (host : destinationHostname other = destinationHostname parsed) :
    isRefusedWebsite other = false := by
  unfold isRefusedWebsite at h ⊢
  rw [protocol, username, password, hash, port, host]
  simp only [Bool.or_eq_false_iff] at h ⊢
  exact ⟨⟨⟨⟨⟨h.1.1.1.1.1, rfl⟩, h.1.1.1.2⟩, h.1.1.2⟩, h.1.2⟩, h.2⟩

/-- A literal address is forbidden. -/
theorem isForbidden_of_literal {host : Host} (h : IsLiteralAddress host) :
    isForbiddenHostname (withoutTrailing '.' (host.text.map Char.toLower)) = true := by
  rw [isForbiddenHostname, Bool.or_eq_true]
  right
  cases host with
  | ipv4 address =>
      have hoctet (octet : Fin 256) : (Nat.toDigits 10 octet.val).length ≠ 0 ∧
          (Nat.toDigits 10 octet.val).length ≤ 3 ∧ octet.val ≤ 255 :=
        ⟨(Ipv4.length_toDigits octet).1.ne', (Ipv4.length_toDigits octet).2, by omega⟩
      have hdigits (octet : Fin 256) : (Nat.toDigits 10 octet.val).all Char.isDigit = true :=
        List.all_eq_true.2 fun c mem ↦ Ipv4.isDigit_of_mem mem
      rw [Host.text, map_toLower_ipv4, withoutTrailing_dot_ipv4, isLiteralIpHostname,
        Ipv4.splitOn_text, Bool.or_eq_true]
      right
      simp [Ipv4.octets, hoctet, hdigits, Nat.ofDigitChars_ten_toDigits]
  | ipv6 address =>
      have hlast : (Host.ipv6 address).text.getLast? ≠ some '.' := by
        rw [Host.text, List.getLast?_concat]
        decide
      rw [map_toLower_ipv6, withoutTrailing, if_neg hlast, isLiteralIpHostname, Host.text]
      simp
  | domain name => exact h.elim
  | other text => exact h.elim

section Admitted

variable {urls : UrlStandard} {text : String} {parsed : WebUrl}

/-- An admitted website's host is a domain. -/
theorem domain_of_admitted (lawful : urls.Lawful) (hparse : urls.parse text = some parsed)
    (h : isRefusedWebsite parsed = false) :
    ∃ name, parsed.host = .domain name ∧ destinationHostname parsed = withoutTrailing '.' name.text := by
  obtain ⟨hprotocol, -, -, -, -, -, hforbidden⟩ := isRefusedWebsite_eq_false h
  have hliteral : ¬ IsLiteralAddress parsed.host := by
    intro hliteral
    rw [destinationHostname, WebUrl.hostname, isForbidden_of_literal hliteral] at hforbidden
    cases hforbidden
  rcases lawful.https_host hparse hprotocol with ⟨name, hhost⟩ | ⟨address, hhost⟩ | ⟨address, hhost⟩
  · refine ⟨name, hhost, ?_⟩
    rw [destinationHostname, WebUrl.hostname, hhost, Host.text,
      map_toLower_of_mem fun c mem ↦ name.toLower_of_mem mem]
  · rw [hhost] at hliteral
    exact absurd trivial hliteral
  · rw [hhost] at hliteral
    exact absurd trivial hliteral

/-- A host without another trailing dot is stored as it was checked. -/
theorem host_of_stored (lawful : urls.Lawful) (hparse : urls.parse text = some parsed)
    (h : isRefusedWebsite parsed = false)
    (once : (destinationHostname parsed).getLast? ≠ some '.') :
    ∃ name : DomainName, name.text = destinationHostname parsed ∧
      (storedWebsite urls parsed).host = .domain name := by
  obtain ⟨name, hhost, hname⟩ := domain_of_admitted lawful hparse h
  obtain ⟨hprotocol, -, -, -, hne, -⟩ := isRefusedWebsite_eq_false h
  rw [hname] at once hne ⊢
  by_cases hdot : name.text.getLast? = some '.'
  · obtain ⟨rest, hrest⟩ := List.getLast?_eq_some_iff.1 hdot
    have hdropped : withoutTrailing '.' name.text = rest := by
      rw [withoutTrailing, if_pos hdot, hrest, List.dropLast_concat]
    rw [hdropped] at once hne
    obtain ⟨shorter, hshorter, hread⟩ := lawful.parseHost_trailing_dot hparse hprotocol hhost hrest hne
      once
    refine ⟨shorter, hshorter.trans hdropped.symm, ?_⟩
    rw [storedWebsite, UrlStandard.setHostname, hname, hdropped, hread]
    rfl
  · have hsame : withoutTrailing '.' name.text = name.text := if_neg hdot
    refine ⟨name, hsame.symm, ?_⟩
    rw [storedWebsite, UrlStandard.setHostname, hname, hsame,
      lawful.parseHost_domain hparse hprotocol hhost]
    rfl

/-- The stored form of an admitted website differs from it in its host and its port alone. -/
theorem stored_fields (urls : UrlStandard) (parsed : WebUrl) : (storedWebsite urls parsed).protocol = parsed.protocol ∧
    (storedWebsite urls parsed).username = parsed.username ∧
    (storedWebsite urls parsed).password = parsed.password ∧
    (storedWebsite urls parsed).hash = parsed.hash ∧ (storedWebsite urls parsed).port = "" :=
  ⟨rfl, rfl, rfl, rfl, rfl⟩

/-- A host is written in visible characters. -/
theorem isVisible_of_mem_host {host : Host} (network : ∀ text, host ≠ .other text) {c : Char}
    (mem : c ∈ host.text) : IsVisible c := by
  have hhex {c : Char} (h : IsHex c) : IsVisible c := by
    have hall : ∀ value < 16, 33 ≤ (Nat.digitChar value).toNat ∧ (Nat.digitChar value).toNat ≤ 126 := by
      decide
    obtain ⟨value, hvalue, rfl⟩ := h
    exact hall value hvalue
  cases host with
  | domain name =>
      have hplain := name.plain c mem
      simp only [isHostCharacter, Bool.and_eq_true, decide_eq_true_eq] at hplain
      exact ⟨hplain.1.1.1, hplain.1.1.2⟩
  | ipv4 address =>
      rcases address.digit_or_dot mem with h | rfl
      · exact isVisible_of_isDigit h
      · exact ⟨by decide, by decide⟩
  | ipv6 address =>
      simp only [Host.text, List.mem_cons, List.mem_append, List.not_mem_nil, or_false] at mem
      rcases mem with (rfl | h) | rfl
      · exact ⟨by decide, by decide⟩
      · rcases address.isHex_or_colon h with h | rfl
        · exact hhex h
        · exact ⟨by decide, by decide⟩
      · exact ⟨by decide, by decide⟩
  | other text => exact absurd rfl (network text)

/-- A stored website starts with its scheme. -/
theorem href_of_stored (h : isRefusedWebsite parsed = false) :
    (storedWebsite urls parsed).href.toList = "https://".toList ++
      ((storedWebsite urls parsed).host.text ++ (parsed.pathname.toList ++
        ((parsed.query.elim "" ("?" ++ ·)).toList ++ (parsed.fragment.elim "" ("#" ++ ·)).toList))) := by
  obtain ⟨hprotocol, husername, hpassword, -⟩ := isRefusedWebsite_eq_false h
  simp [WebUrl.href, WebUrl.hostname, storedWebsite, UrlStandard.setHostname, hprotocol, husername,
    hpassword]

/-- A stored website is written in visible characters. -/
theorem isVisible_of_mem_stored (lawful : urls.Lawful) (hparse : urls.parse text = some parsed)
    (h : isRefusedWebsite parsed = false)
    (network : ∀ text, (storedWebsite urls parsed).host ≠ .other text) :
    ∀ c ∈ (storedWebsite urls parsed).href.toList, IsVisible c := by
  have hvisible := lawful.https_visible hparse (isRefusedWebsite_eq_false h).1
  intro c mem
  rw [href_of_stored h] at mem
  simp only [List.mem_append] at mem hvisible
  rcases mem with hscheme | hhost | hpath | hquery | hfragment
  · exact isVisible_of_all (by decide) c hscheme
  · exact isVisible_of_mem_host network hhost
  · exact hvisible c (Or.inl (Or.inl hpath))
  · cases hq : parsed.query with
    | none => simp [hq] at hquery
    | some query =>
        simp only [hq, Option.elim_some, String.toList_append, List.mem_append] at hquery
        rcases hquery with hmark | hquery
        · cases List.mem_singleton.1 hmark
          exact ⟨by decide, by decide⟩
        · exact hvisible c (Or.inl (Or.inr (by simpa [hq] using hquery)))
  · cases hf : parsed.fragment with
    | none => simp [hf] at hfragment
    | some fragment =>
        simp only [hf, Option.elim_some, String.toList_append, List.mem_append] at hfragment
        rcases hfragment with hmark | hfragment
        · cases List.mem_singleton.1 hmark
          exact ⟨by decide, by decide⟩
        · exact hvisible c (Or.inr (by simpa [hf] using hfragment))

end Admitted

/-! ## Stored destinations -/

section Stored

variable {urls : UrlStandard} {text : String} {parsed : WebUrl}

/-- A text that starts as an HTTPS address is no contact. -/
theorem parsePortalContactInput_https {uri : String} {rest : List Char}
    (huri : uri.toList = "https://".toList ++ rest) (visible : ∀ c ∈ uri.toList, IsVisible c) :
    parsePortalContactInput uri = none := by
  have hkind : kindOf uri.toList = none := by
    have hphone : withoutScheme uri.toList phoneScheme = none := by
      have hlength : phoneScheme.length = 4 := rfl
      rw [withoutScheme, hlength, huri, if_neg]
      simp [phoneScheme]
    have hemail : withoutScheme uri.toList emailScheme = none := by
      have hlength : emailScheme.length = 7 := rfl
      rw [withoutScheme, hlength, huri, if_neg]
      simp [emailScheme]
    have hshape : isPhoneShaped uri.toList = false := by
      rw [huri]
      simp [isPhoneShaped, withoutPlus, isPhoneSeparator]
    rw [kindOf, hphone, hemail, hshape, huri]
    simp
  simp only [parsePortalContactInput, trimCharacters_of_visible visible, hkind, Option.map_none]

/-- A stored website is visible text. -/
theorem visible_stored (lawful : urls.Lawful) (hparse : urls.parse text = some parsed)
    (h : isRefusedWebsite parsed = false) :
    ∀ c ∈ (storedWebsite urls parsed).href.toList, IsVisible c := by
  have hhttps := (isRefusedWebsite_eq_false h).1
  have hreparse := lawful.parse_href hparse hhttps (destinationHostname parsed)
  apply isVisible_of_mem_stored lawful hparse h
  intro other hother
  rcases lawful.https_host hreparse hhttps with ⟨name, hhost⟩ | ⟨address, hhost⟩ | ⟨address, hhost⟩
  · exact Host.noConfusion (hhost.symm.trans hother)
  · exact Host.noConfusion (hhost.symm.trans hother)
  · exact Host.noConfusion (hhost.symm.trans hother)

/-- A website whose checked host has no other trailing dot is stored as it is admitted again. -/
theorem validate_stored (lawful : urls.Lawful) (hparse : urls.parse text = some parsed)
    (h : isRefusedWebsite parsed = false)
    (once : (destinationHostname parsed).getLast? ≠ some '.') :
    urls.parse (storedWebsite urls parsed).href = some (storedWebsite urls parsed) ∧
      isRefusedWebsite (storedWebsite urls parsed) = false ∧
      destinationHostname (storedWebsite urls parsed) = destinationHostname parsed ∧
      storedWebsite urls (storedWebsite urls parsed) = storedWebsite urls parsed := by
  obtain ⟨name, hname, hhost⟩ := host_of_stored lawful hparse h once
  obtain ⟨hprotocol, husername, hpassword, hhash, hport⟩ := stored_fields urls parsed
  have hhttps := (isRefusedWebsite_eq_false h).1
  have hsame : destinationHostname (storedWebsite urls parsed) = destinationHostname parsed := by
    rw [destinationHostname, WebUrl.hostname, hhost, Host.text,
      map_toLower_of_mem fun c mem ↦ name.toLower_of_mem mem, hname, withoutTrailing, if_neg once]
  have hreparse := lawful.parse_href hparse hhttps (destinationHostname parsed)
  have hread : urls.parseHost (destinationHostname parsed) = some (.domain name) := by
    rw [← hname]
    exact lawful.parseHost_domain hreparse hhttps hhost
  refine ⟨hreparse, ?_, hsame, ?_⟩
  · exact isRefusedWebsite_congr h hprotocol husername hpassword hhash hport hsame
  · rw [storedWebsite, hsame, UrlStandard.setHostname, hread]
    rw [storedWebsite, UrlStandard.setHostname, hread]
    rfl

/-- A stored website is no contact. -/
theorem parsePortalContactInput_stored (lawful : urls.Lawful) (hparse : urls.parse text = some parsed)
    (h : isRefusedWebsite parsed = false) :
    parsePortalContactInput (storedWebsite urls parsed).href = none :=
  parsePortalContactInput_https (href_of_stored h) (visible_stored lawful hparse h)

/-- A website with a public name keeps every promise. -/
theorem opensForGuests_of_public (lawful : urls.Lawful) (hparse : urls.parse text = some parsed)
    (h : isRefusedWebsite parsed = false)
    (once : (destinationHostname parsed).getLast? ≠ some '.')
    (isPublic : isPrivateDestinationHost (destinationHostname parsed) = false) :
    OpensForGuests urls ⟨(storedWebsite urls parsed).href, String.ofList (destinationHostname parsed),
      if isRecognizedHostname (destinationHostname parsed) then .recognized else .custom⟩ := by
  obtain ⟨hprotocol, husername, hpassword, hhash, hne, -⟩ := isRefusedWebsite_eq_false h
  obtain ⟨hreparse, hadmitted, hsame, hstored⟩ := validate_stored lawful hparse h once
  obtain ⟨name, hname, hhost⟩ := host_of_stored lawful hparse h once
  have hvisible := visible_stored lawful hparse h
  have hhostname : (storedWebsite urls parsed).hostname = destinationHostname parsed := by
    rw [WebUrl.hostname, hhost, Host.text, hname]
  refine ⟨?_, ?_, storedWebsite urls parsed, hreparse, ?_, ?_, husername, hpassword, hhash, rfl⟩
  · rw [isPublic_iff hreparse, hhostname]
    refine ⟨⟨?_, hprotocol, husername, hpassword⟩, hne, isPublic⟩
    rw [hasControlCharacter, List.any_eq_false]
    intro c mem
    obtain ⟨hlow, hhigh⟩ := hvisible c mem
    simp only [Bool.or_eq_true, decide_eq_true_eq, beq_iff_eq]
    omega
  · rw [validatePortalDestinationUri_eq_ok, trimmed_of_visible (visible_stored lawful hparse h)]
    refine ⟨storedWebsite urls parsed, hreparse, hadmitted, ?_⟩
    rw [hsame, hstored]
  · rw [hhostname, String.toList_ofList]
  · rw [hhost]
    exact id

/-- A website that keeps its promises has a public name. -/
theorem public_of_opensForGuests (lawful : urls.Lawful) (hparse : urls.parse text = some parsed)
    (h : isRefusedWebsite parsed = false)
    (opens : OpensForGuests urls ⟨(storedWebsite urls parsed).href,
      String.ofList (destinationHostname parsed),
      if isRecognizedHostname (destinationHostname parsed) then .recognized else .custom⟩) :
    (destinationHostname parsed).getLast? ≠ some '.' ∧
      isPrivateDestinationHost (destinationHostname parsed) = false := by
  obtain ⟨hopen, hagain, other, hother, hhost, -⟩ := opens
  have hhttps := (isRefusedWebsite_eq_false h).1
  have hreparse : urls.parse (storedWebsite urls parsed).href = some (storedWebsite urls parsed) :=
    lawful.parse_href hparse hhttps (destinationHostname parsed)
  cases hreparse.symm.trans hother
  rw [String.toList_ofList] at hhost
  obtain ⟨-, -, hpublic⟩ := (isPublic_iff hreparse).1 hopen
  rw [hhost] at hpublic
  refine ⟨?_, hpublic⟩
  intro hdot
  -- Admitted again, the stored address loses another dot.
  obtain ⟨reread, hreread, -, heq⟩ := validatePortalDestinationUri_eq_ok.1 hagain
  rw [trimmed_of_visible (visible_stored lawful hparse h)] at hreread
  cases hreparse.symm.trans hreread
  obtain ⟨name, -, hname⟩ := domain_of_admitted lawful hparse h
  have hlower : ∀ c ∈ destinationHostname parsed, c.toLower = c := by
    intro c mem
    rw [hname] at mem
    exact name.toLower_of_mem (withoutTrailing_subset mem)
  have hsame : destinationHostname (storedWebsite urls parsed) =
      (destinationHostname parsed).dropLast := by
    rw [destinationHostname, hhost, map_toLower_of_mem hlower, withoutTrailing, if_pos hdot]
  have hhostname := String.ofList_injective (congrArg ValidatedPortalDestination.hostname heq)
  rw [hsame] at hhostname
  have hlength := congrArg List.length hhostname
  have hpositive : 0 < (destinationHostname parsed).length :=
    List.length_pos_iff.2 (isRefusedWebsite_eq_false h).2.2.2.2.1
  rw [List.length_dropLast] at hlength
  omega

end Stored

/-- Stored destinations satisfy the guest boundary at every input but the admitted websites whose host
ends in another dot or is private to the guest boundary. -/
theorem storedWithinGuestBoundary_iff (urls : UrlStandard) (lawful : urls.Lawful) (input : String) :
    StoredWithinGuestBoundary urls input ↔ NamesPublicHost urls input := by
  constructor
  · rintro ⟨hwebsite, -⟩ parsed hparse hadmitted
    apply public_of_opensForGuests lawful hparse hadmitted
    exact hwebsite _ (validatePortalDestinationUri_eq_ok.2 ⟨parsed, hparse, hadmitted, rfl⟩)
  · intro hnames
    have hwebsite : ∀ stored, validatePortalDestinationUri urls input = .ok stored →
        OpensForGuests urls stored := by
      intro stored hstored
      obtain ⟨parsed, hparse, hadmitted, rfl⟩ := validatePortalDestinationUri_eq_ok.1 hstored
      obtain ⟨honce, hpublic⟩ := hnames parsed hparse hadmitted
      exact opensForGuests_of_public lawful hparse hadmitted honce hpublic
    refine ⟨hwebsite, ?_⟩
    intro stored hstored
    unfold validatePortalLinkDestination at hstored
    split at hstored
    · obtain ⟨-, hagain, -⟩ := hwebsite stored hstored
      obtain ⟨parsed, hparse, hadmitted, rfl⟩ := validatePortalDestinationUri_eq_ok.1 hstored
      have hcontact := parsePortalContactInput_stored lawful hparse hadmitted
      constructor
      · rw [isConsistentDestinationKind, isPortalContactUri, portalContactOf, hcontact]
        by_cases hrecognized : isRecognizedHostname (destinationHostname parsed) = true
        · rw [if_pos hrecognized]
          rfl
        · rw [if_neg hrecognized]
          rfl
      · rw [validatePortalLinkDestination, hcontact]
        exact hagain
    · cases hstored
    · next contact hcontact =>
        cases hstored
        rw [isConsistentDestinationKind, isPortalContactUri_uri hcontact, validatePortalLinkDestination,
          parsePortalContactInput_uri hcontact]
        exact ⟨rfl, rfl⟩

/-! ## A parser for a few addresses -/

/-- A domain in lower case without a delimiter. -/
def bookingDomain : DomainName where
  text := "booking.com".toList
  plain := List.all_eq_true.1 (by decide)

/-- A name of four numbers and two trailing dots is a domain, not an IPv4 address. -/
def doubleDottedDomain : DomainName where
  text := "10.0.0.1..".toList
  plain := List.all_eq_true.1 (by decide)

/-- The address of a website's front page. -/
def frontPage (host : Host) : WebUrl where
  protocol := "https:"
  username := ""
  password := ""
  host := host
  port := ""
  pathname := "/"
  query := none
  fragment := none

/-- The texts of the hosts below, one of them after a dot was dropped, with what they are read as. -/
def sampleHosts : List (String × Host) :=
  [("booking.com", .domain bookingDomain), ("10.0.0.1..", .domain doubleDottedDomain),
    ("10.0.0.1.", .ipv4 ⟨10, 0, 0, 1⟩), ("10.0.0.1", .ipv4 ⟨10, 0, 0, 1⟩)]

/-- The URL standard at these hosts' front pages. -/
def sampleUrls : UrlStandard where
  parse text := (sampleHosts.find? fun entry ↦ (frontPage entry.2).href == text).map (frontPage ·.2)
  parseHost text := (sampleHosts.find? fun entry ↦ entry.1.toList == text).map (·.2)

theorem mem_sampleHosts_of_parse {text : String} {url : WebUrl} (h : sampleUrls.parse text = some url) :
    ∃ entry ∈ sampleHosts, url = frontPage entry.2 := by
  obtain ⟨entry, hfind, rfl⟩ := Option.map_eq_some_iff.1 h
  exact ⟨entry, List.mem_of_find?_eq_some hfind, rfl⟩

theorem mem_sampleHosts_of_parseHost {text : List Char} {host : Host}
    (h : sampleUrls.parseHost text = some host) : ∃ entry ∈ sampleHosts, host = entry.2 := by
  obtain ⟨entry, hfind, rfl⟩ := Option.map_eq_some_iff.1 h
  exact ⟨entry, List.mem_of_find?_eq_some hfind, rfl⟩

/-- Every front page is parsed from its text. -/
theorem parse_frontPage : ∀ entry ∈ sampleHosts,
    sampleUrls.parse (frontPage entry.2).href = some (frontPage entry.2) := by
  decide

theorem sampleUrls_lawful : sampleUrls.Lawful where
  https_host h _ := by
    obtain ⟨entry, mem, rfl⟩ := mem_sampleHosts_of_parse h
    simp only [sampleHosts, List.mem_cons, List.not_mem_nil, or_false] at mem
    rcases mem with rfl | rfl | rfl | rfl
    · exact Or.inl ⟨bookingDomain, rfl⟩
    · exact Or.inl ⟨doubleDottedDomain, rfl⟩
    · exact Or.inr (Or.inl ⟨_, rfl⟩)
    · exact Or.inr (Or.inl ⟨_, rfl⟩)
  https_visible h _ := by
    obtain ⟨entry, -, rfl⟩ := mem_sampleHosts_of_parse h
    intro c mem
    cases List.mem_singleton.1 (show c ∈ ['/'] from by simpa [frontPage] using mem)
    exact ⟨by decide, by decide⟩
  parseHost_domain h _ host := by
    obtain ⟨entry, mem, rfl⟩ := mem_sampleHosts_of_parse h
    simp only [sampleHosts, List.mem_cons, List.not_mem_nil, or_false] at mem
    rcases mem with rfl | rfl | rfl | rfl
    · cases host
      decide
    · cases host
      decide
    · cases host
    · cases host
  parseHost_trailing_dot h _ host dotted ne once := by
    obtain ⟨entry, mem, rfl⟩ := mem_sampleHosts_of_parse h
    simp only [sampleHosts, List.mem_cons, List.not_mem_nil, or_false] at mem
    rcases mem with rfl | rfl | rfl | rfl
    · cases host
      have hlast := congrArg List.getLast? dotted
      rw [List.getLast?_concat] at hlast
      exact absurd hlast (by decide)
    · cases host
      have hfront := congrArg List.dropLast dotted
      rw [List.dropLast_concat] at hfront
      rw [← hfront] at once
      exact absurd (by decide) once
    · cases host
    · cases host
  parse_href h _ hostname := by
    obtain ⟨entry, mem, rfl⟩ := mem_sampleHosts_of_parse h
    cases hread : sampleUrls.parseHost hostname with
    | none =>
        rw [UrlStandard.setHostname, hread]
        exact parse_frontPage entry mem
    | some host =>
        obtain ⟨other, hother, rfl⟩ := mem_sampleHosts_of_parseHost hread
        rw [UrlStandard.setHostname, hread]
        exact parse_frontPage other hother

/-- A website is stored with a name guests may open. -/
theorem storedWithinGuestBoundary_booking :
    StoredWithinGuestBoundary sampleUrls "https://booking.com/" := by
  refine (storedWithinGuestBoundary_iff sampleUrls sampleUrls_lawful _).2 ?_
  intro parsed hparse _
  have hread : sampleUrls.parse (trimmed "https://booking.com/") =
      some (frontPage (.domain bookingDomain)) := by decide
  cases hread.symm.trans hparse
  decide

/-- Two trailing dots carry a private address past the check. -/
theorem literal_address_stored : ¬ StoredWithinGuestBoundary sampleUrls "https://10.0.0.1../" := by
  have hstored : validatePortalDestinationUri sampleUrls "https://10.0.0.1../" =
      .ok ⟨"https://10.0.0.1/", "10.0.0.1.", .custom⟩ := by decide
  rintro ⟨hwebsite, -⟩
  obtain ⟨hopen, -⟩ := hwebsite _ hstored
  exact absurd hopen (by decide)

end ReputationKey.Portal
