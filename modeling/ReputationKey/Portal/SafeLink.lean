import ReputationKey.Base.WebAddress
import ReputationKey.Base.Refusal

/-!
# Links a guest may open

A link is followed only over HTTPS, without credentials and never to a private target. The decision is
made by patterns over the host as the URL parser writes it; the parser is a parameter. Follows
`src/src/contexts/portal/domain/safe-link.ts`.
-/

namespace ReputationKey.Portal

open ReputationKey.Base

/-! ## Source decisions -/

/-- Why a link is refused. -/
inductive LinkValidationError
  | invalid_scheme (url : String)
  | not_https (url : String)
  | has_credentials (url : String)
  | has_control_chars (url : String)
  | not_in_allowlist (url : String) (host : List Char)
  | is_private_ip (url : String) (host : List Char)
  | has_open_redirect_pattern (url : String)
  deriving DecidableEq, Repr

/-- A host that external links may reach, and below which path. -/
structure LinkAllowlistEntry where
  host : String
  pathPrefix : Option String
  deriving DecidableEq, Repr

/-- Suffixes reserved for local-only or non-routable names. -/
def localOnlyHostSuffixes : List String :=
  [".localhost", ".local", ".internal", ".lan", ".home", ".home.arpa", ".invalid", ".test", ".example",
    ".onion"]

/-- A text without a leading character. -/
def withoutLeading (c : Char) (text : List Char) : List Char :=
  if text.head? = some c then text.tail else text

/-- A text without a trailing character. -/
def withoutTrailing (c : Char) (text : List Char) : List Char :=
  if text.getLast? = some c then text.dropLast else text

/-- A host in lower case, without brackets and one trailing dot. Parsed hosts are ASCII. -/
def normalizeDestinationHost (hostname : List Char) : List Char :=
  withoutTrailing '.' (withoutTrailing ']' (withoutLeading '[' (hostname.map Char.toLower)))

/-- Whether a host is a local-only name. -/
def isLocalOnlyHostName (host : List Char) : Bool :=
  host == "localhost".toList || localOnlyHostSuffixes.any fun suffix ↦ suffix.toList.isSuffixOf host

/-- One to three digits. -/
def isOctetText (digits : List Char) : Bool :=
  decide (1 ≤ digits.length) && decide (digits.length ≤ 3) && digits.all Char.isDigit

/-- The leading two numbers of a host of four short numbers. -/
def ipv4Host (host : List Char) : Option (ℕ × ℕ) :=
  match host.splitOn '.' with
  | [first, second, third, fourth] =>
      if [first, second, third, fourth].all isOctetText then
        some (Nat.ofDigitChars 10 first 0, Nat.ofDigitChars 10 second 0)
      else none
  | _ => none

/-- `first`/`second` are the leading two octets of an IPv4 literal. -/
def isPrivateIpv4Address (first second : ℕ) : Bool :=
  first == 0 || first == 10 || first == 127 || (first == 169 && second == 254) ||
    (first == 172 && decide (16 ≤ second) && decide (second ≤ 31)) ||
    (first == 192 && second == 168) || decide (224 ≤ first)

/-- How a mapped private IPv4 address starts when its octets are written in decimal. -/
def ipv4MappedPrivatePrefixes : List String :=
  (["0.", "10.", "127.", "169.254.", "192.168."] ++
    (List.range' 16 16).map fun second ↦ "172." ++ toString second ++ ".").map ("::ffff:" ++ ·)

/-- Whether an IPv6 literal, written without its brackets, is private. -/
def isPrivateIpv6Address (host : List Char) : Bool :=
  host == "::".toList || host == "::1".toList ||
    ["fc", "fd"].any (fun start ↦ start.toList.isPrefixOf host) ||
    ["fe8", "fe9", "fea", "feb"].any (fun start ↦ start.toList.isPrefixOf host) ||
    "ff".toList.isPrefixOf host ||
    ipv4MappedPrivatePrefixes.any fun start ↦ start.toList.isPrefixOf host

/-- Whether a host is a private target. -/
def isPrivateDestinationHost (hostname : List Char) : Bool :=
  let host := normalizeDestinationHost hostname
  isLocalOnlyHostName host ||
    match ipv4Host host with
    | some (first, second) => isPrivateIpv4Address first second
    -- Not an IPv6 literal: a dotless name can only resolve via a local search domain.
    | none => if !host.contains ':' then !host.contains '.' else isPrivateIpv6Address host

/-- Whether a text has a C0 control character or a delete. -/
def hasControlCharacter (url : String) : Bool :=
  url.toList.any fun c ↦ decide (c.toNat ≤ 0x1f) || c.toNat == 0x7f

/-- General link-tree boundary: arbitrary public HTTPS is allowed, local targets are not. -/
def isPublicHttpsDestination (parse : String → Option WebUrl) (url : String) : Bool :=
  !hasControlCharacter url &&
    match parse url with
    | none => false
    | some parsed => parsed.protocol == "https:" && parsed.username == "" && parsed.password == "" &&
        parsed.hostname != [] && !isPrivateDestinationHost parsed.hostname

/-- Where a text has a scheme's separator. -/
def schemeSeparators (text : List Char) : List ℕ :=
  (List.range text.length).filter fun i ↦ "://".toList.isPrefixOf (text.drop i)

/-- Whether an entry of the allowlist admits a parsed URL. -/
def LinkAllowlistEntry.admits (entry : LinkAllowlistEntry) (parsed : WebUrl) : Bool :=
  entry.host.toList == parsed.hostname &&
    match entry.pathPrefix with
    | none => true
    | some pathPrefix => pathPrefix == "" ||
        let start := withoutTrailing '/' pathPrefix.toList
        parsed.pathname.toList == start || (start ++ ['/']).isPrefixOf parsed.pathname.toList

/-- Whether a link is one of the allowed providers' addresses. -/
def validateExternalLink (parse : String → Option WebUrl) (url : String)
    (allowlist : List LinkAllowlistEntry) : Except LinkValidationError WebUrl :=
  if hasControlCharacter url then .error (.has_control_chars url)
  else match parse url with
    | none => .error (.invalid_scheme url)
    | some parsed =>
        if parsed.protocol != "https:" then .error (.not_https url)
        else if parsed.username != "" || parsed.password != "" then .error (.has_credentials url)
        else if isPrivateDestinationHost parsed.hostname then
          .error (.is_private_ip url parsed.hostname)
        else if (schemeSeparators url.toList).head? != (schemeSeparators url.toList).getLast? then
          .error (.has_open_redirect_pattern url)
        else if !allowlist.any fun entry ↦ entry.admits parsed then
          .error (.not_in_allowlist url parsed.hostname)
        else .ok parsed

/-! ## Private targets -/

/-- Private IPv4 blocks: 0/8, 10/8, 127/8, 169.254/16, 172.16/12, 192.168/16 and 224/3. -/
def privateIpv4Blocks : List (ℕ × ℕ) :=
  [(0, 8), (10 * 2 ^ 24, 8), (127 * 2 ^ 24, 8), ((169 * 2 ^ 8 + 254) * 2 ^ 16, 16),
    ((172 * 2 ^ 8 + 16) * 2 ^ 16, 12), ((192 * 2 ^ 8 + 168) * 2 ^ 16, 16), (224 * 2 ^ 24, 3)]

/-- Private IPv6 blocks: unspecified, loopback, unique local, link local and multicast. -/
def privateIpv6Blocks : List (ℕ × ℕ) :=
  [(0, 128), (1, 128), (0xfc00 * 2 ^ 112, 7), (0xfe80 * 2 ^ 112, 10), (0xff00 * 2 ^ 112, 8)]

/-- Whether an IPv4 address, as a number, is in a private block. -/
def PrivateIpv4 (value : ℕ) : Prop := ∃ block ∈ privateIpv4Blocks, InBlock 32 block.1 block.2 value

/-- Whether an IPv6 address, as a number, holds an IPv4 address of a private block. -/
def MappedPrivateIpv4 (value : ℕ) : Prop :=
  InBlock 128 (0xffff * 2 ^ 32) 96 value ∧ PrivateIpv4 (value % 2 ^ 32)

/-- Whether an IPv6 address, as a number, is in a private block. -/
def PrivateIpv6 (value : ℕ) : Prop := ∃ block ∈ privateIpv6Blocks, InBlock 128 block.1 block.2 value

/-- Whether a name reaches the local network only, one trailing dot aside. -/
def LocalOnlyName (name : List Char) : Prop :=
  withoutTrailing '.' name = "localhost".toList ∨
    (∃ suffix ∈ localOnlyHostSuffixes, suffix.toList <:+ withoutTrailing '.' name) ∨
    '.' ∉ withoutTrailing '.' name

/-- The hosts no public link may have. -/
def PrivateHost : Host → Prop
  | .domain name => LocalOnlyName name.text
  | .ipv4 address => PrivateIpv4 address.value
  | .ipv6 address => PrivateIpv6 address.value ∨ MappedPrivateIpv4 address.value
  | .other _ => False

/-- The literal addresses every public link may have: IPv4 outside the private blocks, IPv6 in 2000::/3. -/
def PublicLiteral : Host → Prop
  | .ipv4 address => ¬ PrivateIpv4 address.value
  | .ipv6 address => InBlock 128 (0x2000 * 2 ^ 112) 3 address.value
  | _ => False

/-- Whether a URL is an HTTPS address without credentials or control characters. -/
def PlainHttps (url : String) (parsed : WebUrl) : Prop :=
  hasControlCharacter url = false ∧ parsed.protocol = "https:" ∧ parsed.username = "" ∧
    parsed.password = ""

/-- Links reach no private target, and every public literal address is a link. -/
def PrivateTargetsRefused (parse : String → Option WebUrl) (url : String) : Prop :=
  (∀ parsed, parse url = some parsed → (isPublicHttpsDestination parse url = true ∨
    ∃ allowlist accepted, validateExternalLink parse url allowlist = .ok accepted) →
      ¬ PrivateHost parsed.host) ∧
  ∀ parsed, parse url = some parsed → PlainHttps url parsed → PublicLiteral parsed.host →
    isPublicHttpsDestination parse url = true

/-- Whether a URL is a plain HTTPS address whose IPv6 literal holds a private IPv4 address. -/
def ReachesMappedPrivate (parse : String → Option WebUrl) (url : String) : Prop :=
  ∃ parsed address, parse url = some parsed ∧ PlainHttps url parsed ∧ parsed.host = .ipv6 address ∧
    MappedPrivateIpv4 address.value

/-! ## Names -/

theorem map_toLower_of_mem {text : List Char} (h : ∀ c ∈ text, c.toLower = c) :
    text.map Char.toLower = text := by
  conv_rhs => rw [← List.map_id text]
  apply List.map_congr_left
  intro c mem
  exact h c mem

theorem withoutLeading_of_notMem {c : Char} {text : List Char} (h : c ∉ text) :
    withoutLeading c text = text :=
  if_neg fun hhead ↦ h (List.mem_of_head? hhead)

theorem withoutTrailing_of_notMem {c : Char} {text : List Char} (h : c ∉ text) :
    withoutTrailing c text = text :=
  if_neg fun hlast ↦ h (List.mem_of_getLast? hlast)

theorem withoutTrailing_subset {c d : Char} {text : List Char} (mem : d ∈ withoutTrailing c text) :
    d ∈ text := by
  unfold withoutTrailing at mem
  split_ifs at mem
  · exact List.dropLast_subset _ mem
  · exact mem

/-- A name loses nothing but one trailing dot. -/
theorem normalizeDestinationHost_domain (name : DomainName) :
    normalizeDestinationHost name.text = withoutTrailing '.' name.text := by
  rw [normalizeDestinationHost, map_toLower_of_mem fun c mem ↦ name.toLower_of_mem mem,
    withoutLeading_of_notMem name.bracket_notMem.1, withoutTrailing_of_notMem name.bracket_notMem.2]

/-- A local-only name is a private target. -/
theorem isPrivate_of_localOnlyName {name : DomainName} (h : LocalOnlyName name.text) :
    isPrivateDestinationHost name.text = true := by
  simp only [isPrivateDestinationHost, normalizeDestinationHost_domain]
  rcases h with h | ⟨suffix, mem, h⟩ | hdot
  · have hlocal : isLocalOnlyHostName (withoutTrailing '.' name.text) = true := by
      rw [h]
      rfl
    rw [hlocal, Bool.true_or]
  · have hlocal : isLocalOnlyHostName (withoutTrailing '.' name.text) = true := by
      rw [isLocalOnlyHostName, Bool.or_eq_true]
      right
      exact List.any_eq_true.2 ⟨suffix, mem, by simpa using h⟩
    rw [hlocal, Bool.true_or]
  · have hcolon : ':' ∉ withoutTrailing '.' name.text := fun mem ↦
      name.colon_notMem (withoutTrailing_subset mem)
    rw [ipv4Host, List.splitOn_eq_singleton hdot]
    simp [hdot, hcolon]

/-! ## IPv4 literals -/

section Ipv4Literals

variable (address : Ipv4)

theorem toLower_of_isDigit {c : Char} (h : c.isDigit = true) : c.toLower = c := by
  simp only [Char.isDigit, Bool.and_eq_true, decide_eq_true_eq, UInt32.le_iff_toNat_le] at h
  refine dif_neg ?_
  simp only [ge_iff_le, UInt32.le_iff_toNat_le, not_and]
  have hnine : '9'.val.toNat < 'A'.val.toNat := by decide
  omega

/-- An IPv4 literal has no letters. -/
theorem map_toLower_ipv4 : address.text.map Char.toLower = address.text := by
  apply map_toLower_of_mem
  intro c mem
  rcases address.digit_or_dot mem with h | rfl
  · exact toLower_of_isDigit h
  · decide

/-- An IPv4 literal ends in a digit. -/
theorem withoutTrailing_dot_ipv4 : withoutTrailing '.' address.text = address.text := by
  obtain ⟨front, c, htext, hdigit⟩ := address.exists_concat
  apply if_neg
  rw [htext, List.getLast?_concat]
  rintro ⟨⟩
  exact absurd hdigit (by decide)

/-- An IPv4 literal is read as it is written. -/
theorem normalizeDestinationHost_ipv4 : normalizeDestinationHost address.text = address.text := by
  have hbracket : ∀ c ∈ address.text, c ≠ '[' ∧ c ≠ ']' := by
    intro c mem
    rcases address.digit_or_dot mem with h | rfl
    · constructor <;> rintro rfl <;> exact absurd h (by decide)
    · decide
  rw [normalizeDestinationHost, map_toLower_ipv4,
    withoutLeading_of_notMem fun mem ↦ (hbracket _ mem).1 rfl,
    withoutTrailing_of_notMem fun mem ↦ (hbracket _ mem).2 rfl, withoutTrailing_dot_ipv4]

/-- The pattern reads an IPv4 literal's leading octets. -/
theorem ipv4Host_text : ipv4Host address.text = some (address.first.val, address.second.val) := by
  have hoctet (octet : Fin 256) : isOctetText (Nat.toDigits 10 octet.val) = true := by
    have hlength := Ipv4.length_toDigits octet
    simp only [isOctetText, Bool.and_eq_true, decide_eq_true_eq, List.all_eq_true]
    exact ⟨⟨hlength.1, hlength.2⟩, fun c mem ↦ Ipv4.isDigit_of_mem mem⟩
  rw [ipv4Host, Ipv4.splitOn_text]
  simp [Ipv4.octets, hoctet, Nat.ofDigitChars_ten_toDigits]

/-- Every local-only name has a letter. -/
theorem isLocalOnlyHostName_ipv4 : isLocalOnlyHostName address.text = false := by
  have hletter : (("localhost" :: localOnlyHostSuffixes).all fun suffix ↦
      suffix.toList.any fun c ↦ !c.isDigit && c != '.') = true := by decide
  rw [← Bool.not_eq_true, isLocalOnlyHostName, Bool.or_eq_true, List.any_eq_true, beq_iff_eq]
  have hno : ∀ suffix ∈ "localhost" :: localOnlyHostSuffixes, ¬ suffix.toList <:+ address.text := by
    intro suffix mem hsuffix
    obtain ⟨c, hc, hplain⟩ := List.any_eq_true.1 (List.all_eq_true.1 hletter suffix mem)
    rw [Bool.and_eq_true, Bool.not_eq_true', bne_iff_ne] at hplain
    rcases address.digit_or_dot (hsuffix.subset hc) with h | h
    · rw [hplain.1] at h
      cases h
    · exact hplain.2 h
  rintro (h | ⟨suffix, mem, h⟩)
  · exact hno "localhost" List.mem_cons_self (h ▸ List.suffix_refl _)
  · exact hno suffix (List.mem_cons_of_mem _ mem) (List.isSuffixOf_iff_suffix.1 h)

/-- The private blocks, by the bits their addresses start with. -/
theorem privateIpv4_iff {value : ℕ} : PrivateIpv4 value ↔ value / 2 ^ 24 = 0 ∨ value / 2 ^ 24 = 10 ∨
    value / 2 ^ 24 = 127 ∨ value / 2 ^ 16 = 169 * 2 ^ 8 + 254 ∨ value / 2 ^ 20 = 172 * 2 ^ 4 + 1 ∨
    value / 2 ^ 16 = 192 * 2 ^ 8 + 168 ∨ value / 2 ^ 29 = 7 := by
  simp [PrivateIpv4, privateIpv4Blocks, InBlock]

/-- The octet comparisons are the private blocks. -/
theorem isPrivateIpv4Address_iff :
    isPrivateIpv4Address address.first.val address.second.val = true ↔ PrivateIpv4 address.value := by
  have hfirst := address.first.isLt
  have hsecond := address.second.isLt
  have hthird := address.third.isLt
  have hfourth := address.fourth.isLt
  have h24 : address.value / 2 ^ 24 = address.first.val := by simp only [Ipv4.value]; omega
  have h16 : address.value / 2 ^ 16 = address.first.val * 256 + address.second.val := by
    simp only [Ipv4.value]
    omega
  have h20 : address.value / 2 ^ 20 = address.first.val * 16 + address.second.val / 16 := by
    simp only [Ipv4.value]
    omega
  have h29 : address.value / 2 ^ 29 = address.first.val / 32 := by simp only [Ipv4.value]; omega
  rw [privateIpv4_iff, h24, h16, h20, h29]
  simp only [isPrivateIpv4Address, Bool.or_eq_true, Bool.and_eq_true, beq_iff_eq, decide_eq_true_eq]
  clear h24 h16 h20 h29
  omega

/-- An IPv4 literal is a private target exactly if it is in a private block. -/
theorem isPrivate_ipv4_iff :
    isPrivateDestinationHost (Host.ipv4 address).text = true ↔ PrivateIpv4 address.value := by
  rw [← isPrivateIpv4Address_iff]
  simp only [isPrivateDestinationHost, Host.text, normalizeDestinationHost_ipv4,
    isLocalOnlyHostName_ipv4, ipv4Host_text, Bool.false_or]

end Ipv4Literals

/-! ## IPv6 literals -/

section Ipv6Literals

variable (address : Ipv6)

theorem IsHex.plain {c : Char} (h : IsHex c) : c.toLower = c ∧ c ≠ '.' ∧ c ≠ ']' := by
  have hall : ∀ value < 16, (Nat.digitChar value).toLower = Nat.digitChar value ∧
      Nat.digitChar value ≠ '.' ∧ Nat.digitChar value ≠ ']' := by decide
  obtain ⟨value, hvalue, rfl⟩ := h
  exact hall value hvalue

theorem plain_of_mem_ipv6 {c : Char} (mem : c ∈ address.text) : c.toLower = c ∧ c ≠ '.' ∧ c ≠ ']' := by
  rcases address.isHex_or_colon mem with h | rfl
  · exact IsHex.plain h
  · decide

theorem dot_notMem_ipv6 : '.' ∉ address.text := fun mem ↦ (plain_of_mem_ipv6 address mem).2.1 rfl

/-- An IPv6 literal has no upper-case letters. -/
theorem map_toLower_ipv6 :
    (Host.ipv6 address).text.map Char.toLower = (Host.ipv6 address).text := by
  apply map_toLower_of_mem
  intro c mem
  simp only [Host.text, List.mem_cons, List.mem_append, List.not_mem_nil, or_false] at mem
  rcases mem with (rfl | h) | rfl
  · decide
  · exact (plain_of_mem_ipv6 address h).1
  · decide

/-- An IPv6 literal is read without its brackets. -/
theorem normalizeDestinationHost_ipv6 :
    normalizeDestinationHost (Host.ipv6 address).text = address.text := by
  have hleading : withoutLeading '[' (Host.ipv6 address).text = address.text ++ [']'] := if_pos rfl
  have htrailing : withoutTrailing ']' (address.text ++ [']']) = address.text := by
    rw [withoutTrailing, if_pos List.getLast?_concat, List.dropLast_concat]
  rw [normalizeDestinationHost, map_toLower_ipv6, hleading, htrailing]
  exact withoutTrailing_of_notMem (dot_notMem_ipv6 address)

/-- Every text with a dot is no part of an IPv6 literal. -/
theorem not_infix_ipv6 {text : List Char} (h : '.' ∈ text) : ¬ text <:+: address.text :=
  fun hpart ↦ dot_notMem_ipv6 address (hpart.subset h)

/-- An IPv6 literal is no local-only name. -/
theorem isLocalOnlyHostName_ipv6 : isLocalOnlyHostName address.text = false := by
  have hdot : ∀ suffix ∈ localOnlyHostSuffixes, '.' ∈ suffix.toList := by decide
  rw [← Bool.not_eq_true, isLocalOnlyHostName, Bool.or_eq_true, List.any_eq_true, beq_iff_eq]
  rintro (h | ⟨suffix, mem, h⟩)
  · have hcolon := address.colon_mem
    rw [h] at hcolon
    exact absurd hcolon (by decide)
  · exact not_infix_ipv6 address (hdot suffix mem) (List.isSuffixOf_iff_suffix.1 h).isInfix

/-- An IPv6 literal is decided by the IPv6 patterns. -/
theorem isPrivateDestinationHost_ipv6 :
    isPrivateDestinationHost (Host.ipv6 address).text = isPrivateIpv6Address address.text := by
  simp only [isPrivateDestinationHost, normalizeDestinationHost_ipv6, isLocalOnlyHostName_ipv6,
    Bool.false_or]
  rw [ipv4Host, List.splitOn_eq_singleton (dot_notMem_ipv6 address)]
  simp [address.colon_mem]

/-- The pattern of mapped addresses has a dot: it matches no IPv6 literal. -/
theorem mappedPrefix_ipv6 :
    (ipv4MappedPrivatePrefixes.any fun start ↦ start.toList.isPrefixOf address.text) = false := by
  have hdot : ∀ start ∈ ipv4MappedPrivatePrefixes, '.' ∈ start.toList := by decide
  rw [← Bool.not_eq_true, List.any_eq_true]
  rintro ⟨start, mem, h⟩
  exact not_infix_ipv6 address (hdot start mem) (List.isPrefixOf_iff_prefix.1 h).isInfix

/-- The private blocks, by the bits their addresses start with. -/
theorem privateIpv6_iff {value : ℕ} : PrivateIpv6 value ↔ value = 0 ∨ value = 1 ∨
    value / 2 ^ (128 - 7) = 126 ∨ value / 2 ^ (128 - 10) = 1018 ∨ value / 2 ^ (128 - 8) = 255 := by
  simp [PrivateIpv6, privateIpv6Blocks, InBlock]

/-- An IPv6 literal starts with the four digits of a first group that has as many. -/
theorem text_of_first {first : Fin 65536} {rest : List (Fin 65536)}
    (hgroups : address.groups = first :: rest) (le : 4096 ≤ first.val) :
    ∃ tail, address.text = hexDigit (first.val / 4096) :: hexDigit (first.val / 256 % 16) ::
      hexDigit (first.val / 16 % 16) :: hexDigit (first.val % 16) :: tail := by
  have hne : first ≠ 0 := by
    rintro rfl
    exact absurd le (by decide)
  obtain ⟨tail, htext⟩ := address.text_of_first_ne_zero hgroups hne
  rw [hexGroup_of_le le] at htext
  exact ⟨tail, htext⟩

/-- An IPv6 literal of a private block matches a pattern. -/
theorem isPrivate_of_privateIpv6 (h : PrivateIpv6 address.value) :
    isPrivateIpv6Address address.text = true := by
  obtain ⟨first, b, c, d, e, f, g, l, hgroups⟩ := address.exists_groups
  have hlt := first.isLt
  rcases privateIpv6_iff.1 h with hzero | hone | hlocal | hlink | hmulticast
  · rw [address.text_of_value_zero hzero]
    decide
  · rw [address.text_of_value_one hone]
    decide
  · rw [address.value_div hgroups (by decide)] at hlocal
    obtain ⟨tail, htext⟩ := text_of_first address hgroups (by omega)
    have hlead : first.val / 4096 = 15 := by omega
    have hnext : first.val / 256 % 16 = 12 ∨ first.val / 256 % 16 = 13 := by omega
    rw [htext, hlead]
    rcases hnext with hnext | hnext <;> simp [isPrivateIpv6Address, hnext, hexDigit, Nat.digitChar]
  · rw [address.value_div hgroups (by decide)] at hlink
    obtain ⟨tail, htext⟩ := text_of_first address hgroups (by omega)
    have hlead : first.val / 4096 = 15 := by omega
    have hnext : first.val / 256 % 16 = 14 := by omega
    have hthird : first.val / 16 % 16 = 8 ∨ first.val / 16 % 16 = 9 ∨ first.val / 16 % 16 = 10 ∨
        first.val / 16 % 16 = 11 := by omega
    rw [htext, hlead, hnext]
    rcases hthird with hthird | hthird | hthird | hthird <;>
      simp [isPrivateIpv6Address, hthird, hexDigit, Nat.digitChar]
  · rw [address.value_div hgroups (by decide)] at hmulticast
    obtain ⟨tail, htext⟩ := text_of_first address hgroups (by omega)
    have hlead : first.val / 4096 = 15 := by omega
    have hnext : first.val / 256 % 16 = 15 := by omega
    rw [htext, hlead, hnext]
    simp [isPrivateIpv6Address, hexDigit, Nat.digitChar]

/-- An IPv6 literal of 2000::/3 matches no pattern. -/
theorem not_isPrivate_of_global (h : InBlock 128 (0x2000 * 2 ^ 112) 3 address.value) :
    isPrivateIpv6Address address.text = false := by
  obtain ⟨first, b, c, d, e, f, g, l, hgroups⟩ := address.exists_groups
  rw [InBlock, address.value_div hgroups (by decide)] at h
  obtain ⟨tail, htext⟩ := text_of_first address hgroups (by omega)
  have hlead : hexDigit (first.val / 4096) = '2' ∨ hexDigit (first.val / 4096) = '3' := by
    have hvalue : first.val / 4096 = 2 ∨ first.val / 4096 = 3 := by omega
    rcases hvalue with hvalue | hvalue <;> rw [hvalue]
    · exact Or.inl rfl
    · exact Or.inr rfl
  rw [isPrivateIpv6Address, mappedPrefix_ipv6, htext]
  rcases hlead with hlead | hlead <;> simp [hlead, List.isPrefixOf_cons_cons]

/-- A mapped IPv4 address is written in hexadecimal: it matches no pattern. -/
theorem not_isPrivate_of_mapped (h : InBlock 128 (0xffff * 2 ^ 32) 96 address.value) :
    isPrivateIpv6Address address.text = false := by
  obtain ⟨high, low, hgroups, -⟩ := address.groups_of_mapped h
  rw [isPrivateIpv6Address, mappedPrefix_ipv6, address.text_mapped hgroups]
  simp [List.isPrefixOf_cons_cons]

end Ipv6Literals

/-! ## What is accepted -/

section Accepted

variable {parse : String → Option WebUrl} {url : String} {parsed : WebUrl}

/-- What a public link is: a plain HTTPS address with a host that is no private target. -/
theorem isPublic_iff (hparse : parse url = some parsed) : isPublicHttpsDestination parse url = true ↔
    PlainHttps url parsed ∧ parsed.hostname ≠ [] ∧ isPrivateDestinationHost parsed.hostname = false := by
  simp only [isPublicHttpsDestination, hparse, PlainHttps, Bool.and_eq_true, Bool.not_eq_true',
    beq_iff_eq, bne_iff_ne]
  tauto

/-- A text without a host is a private target. -/
theorem isPrivate_nil : isPrivateDestinationHost [] = true := by decide

/-- Every allowed provider's address is a public link. -/
theorem isPublic_of_external {allowlist : List LinkAllowlistEntry} {accepted : WebUrl}
    (h : validateExternalLink parse url allowlist = .ok accepted) :
    isPublicHttpsDestination parse url = true := by
  unfold validateExternalLink at h
  obtain ⟨hcontrol, h⟩ := ok_of_guard h
  split at h
  · cases h
  · next parsed hparse =>
      obtain ⟨hprotocol, h⟩ := ok_of_guard h
      obtain ⟨hcredentials, h⟩ := ok_of_guard h
      obtain ⟨hpublic, -⟩ := ok_of_guard h
      simp only [Bool.or_eq_true, bne_iff_ne, not_or, not_not] at hprotocol hcredentials
      rw [isPublic_iff hparse]
      refine ⟨⟨by simpa using hcontrol, hprotocol, hcredentials.1, hcredentials.2⟩, ?_,
        by simpa using hpublic⟩
      intro hnil
      rw [hnil] at hpublic
      exact hpublic isPrivate_nil

/-- A private host is refused, unless it is an IPv4 address inside an IPv6 one. -/
theorem isPrivate_of_privateHost {host : Host} (h : PrivateHost host)
    (plain : ∀ address, host = .ipv6 address → ¬ MappedPrivateIpv4 address.value) :
    isPrivateDestinationHost host.text = true := by
  cases host with
  | domain name => exact isPrivate_of_localOnlyName h
  | ipv4 address => exact (isPrivate_ipv4_iff address).2 h
  | ipv6 address =>
      rw [isPrivateDestinationHost_ipv6]
      rcases h with h | h
      · exact isPrivate_of_privateIpv6 address h
      · exact absurd h (plain address rfl)
  | other text => exact h.elim

/-- A public literal address is no private target and is not empty. -/
theorem public_of_publicLiteral {host : Host} (h : PublicLiteral host) :
    host.text ≠ [] ∧ isPrivateDestinationHost host.text = false := by
  have hpublic : isPrivateDestinationHost host.text = false := by
    cases host with
    | domain name => exact h.elim
    | ipv4 address => exact Bool.eq_false_iff.2 (mt (isPrivate_ipv4_iff address).1 h)
    | ipv6 address =>
        rw [isPrivateDestinationHost_ipv6]
        exact not_isPrivate_of_global address h
    | other text => exact h.elim
  refine ⟨?_, hpublic⟩
  intro hnil
  rw [hnil, isPrivate_nil] at hpublic
  cases hpublic

/-- A plain HTTPS address whose IPv6 literal holds an IPv4 address is a public link. -/
theorem isPublic_of_mapped {address : Ipv6} (hparse : parse url = some parsed)
    (plain : PlainHttps url parsed) (hhost : parsed.host = .ipv6 address)
    (h : InBlock 128 (0xffff * 2 ^ 32) 96 address.value) :
    isPublicHttpsDestination parse url = true := by
  rw [isPublic_iff hparse, WebUrl.hostname, hhost, isPrivateDestinationHost_ipv6]
  exact ⟨plain, List.cons_ne_nil _ _, not_isPrivate_of_mapped address h⟩

end Accepted

/-- Private targets are refused as links and public literal addresses accepted, at every URL but the
plain HTTPS addresses whose IPv6 literal holds a private IPv4 address. -/
theorem privateTargetsRefused_iff (parse : String → Option WebUrl) (url : String) :
    PrivateTargetsRefused parse url ↔ ¬ ReachesMappedPrivate parse url := by
  constructor
  · rintro ⟨hrefused, -⟩ ⟨parsed, address, hparse, hplain, hhost, hmapped⟩
    apply hrefused parsed hparse (Or.inl (isPublic_of_mapped hparse hplain hhost hmapped.1))
    rw [hhost]
    exact Or.inr hmapped
  · intro hreach
    constructor
    · intro parsed hparse haccepted hprivate
      have hpublic : isPublicHttpsDestination parse url = true := by
        rcases haccepted with h | ⟨allowlist, accepted, h⟩
        · exact h
        · exact isPublic_of_external h
      obtain ⟨hplain, -, hhost⟩ := (isPublic_iff hparse).1 hpublic
      rw [WebUrl.hostname, isPrivate_of_privateHost hprivate] at hhost
      · cases hhost
      · intro address haddress hmapped
        exact hreach ⟨parsed, address, hparse, hplain, haddress, hmapped⟩
    · intro parsed hparse hplain hliteral
      exact (isPublic_iff hparse).2 ⟨hplain, public_of_publicLiteral hliteral⟩

/-- The parsed form of `https://[::ffff:127.0.0.1]/`. -/
def mappedLoopbackUrl : WebUrl where
  protocol := "https:"
  username := ""
  password := ""
  host := .ipv6 .mappedLoopback
  port := ""
  pathname := "/"
  query := none
  fragment := none

/-- The parser at one URL. -/
def mappedLoopbackParse (url : String) : Option WebUrl :=
  if url = "https://[::ffff:127.0.0.1]/" then some mappedLoopbackUrl else none

/-- The host is written in hexadecimal. -/
example : mappedLoopbackUrl.hostname = "[::ffff:7f00:1]".toList := by decide

/-- The loopback address inside an IPv6 literal is a public link. -/
theorem mapped_loopback_accepted :
    ¬ PrivateTargetsRefused mappedLoopbackParse "https://[::ffff:127.0.0.1]/" := by
  rintro ⟨hrefused, -⟩
  apply hrefused mappedLoopbackUrl (if_pos rfl)
  · left
    decide
  · right
    rw [MappedPrivateIpv4, privateIpv4_iff, InBlock]
    decide

end ReputationKey.Portal
