import Mathlib.Algebra.Group.Nat.Hom
import Mathlib.Data.Fin.Basic
import Mathlib.Tactic.Common

/-!
# Web addresses

A parsed URL, the hosts it may have and how it writes them: an IPv4 address as four decimal octets, an
IPv6 address as hexadecimal groups inside brackets with its first longest run of zero groups left out.
-/

namespace ReputationKey.Base

/-- An IPv4 address. -/
structure Ipv4 where
  first : Fin 256
  second : Fin 256
  third : Fin 256
  fourth : Fin 256
  deriving DecidableEq, Repr

/-- An IPv6 address: eight groups of sixteen bits. -/
structure Ipv6 where
  groups : List (Fin 65536)
  eight : groups.length = 8
  deriving DecidableEq, Repr

/-- A character of a domain: visible ASCII, no upper-case letter, none that delimits a part of a URL. -/
def isHostCharacter (c : Char) : Bool :=
  '!'.toNat ≤ c.toNat && c.toNat ≤ '~'.toNat && !c.isUpper && !"#%/:<>?@[\\]^|".toList.contains c

/-- A domain as URL parsing leaves it. -/
structure DomainName where
  text : List Char
  plain : ∀ c ∈ text, isHostCharacter c = true
  deriving DecidableEq, Repr

/-- A host: a name, an address, or what a URL without a network host has in its place. -/
inductive Host
  | domain (name : DomainName)
  | ipv4 (address : Ipv4)
  | ipv6 (address : Ipv6)
  | other (text : String)
  deriving DecidableEq, Repr

/-! ## How hosts are written -/

/-- A hexadecimal digit. -/
def hexDigit (value : ℕ) : Char := Nat.digitChar value

/-- A group in hexadecimal without leading zeros. -/
def hexGroup (group : Fin 65536) : List Char :=
  let digits := [group.val / 4096, group.val / 256 % 16, group.val / 16 % 16].dropWhile (· == 0)
  (digits ++ [group.val % 16]).map hexDigit

/-- How many zero groups a list starts with. -/
def zeroRun (groups : List (Fin 65536)) : ℕ := (groups.takeWhile (· == 0)).length

/-- The longer of a run and the run that starts at an index; the earlier one if they are equal. -/
def longerRun (groups : List (Fin 65536)) (best : ℕ × ℕ) (start : ℕ) : ℕ × ℕ :=
  if best.2 < zeroRun (groups.drop start) then (start, zeroRun (groups.drop start)) else best

/-- The first longest run of at least two zero groups: where it starts and how long it is. -/
def compressedRun (groups : List (Fin 65536)) : Option (ℕ × ℕ) :=
  let best := (List.range groups.length).foldl (longerRun groups) (0, 1)
  if 1 < best.2 then some best else none

/-- Groups with a colon between each two. -/
def joinGroups (groups : List (Fin 65536)) : List Char := [':'].intercalate (groups.map hexGroup)

namespace Ipv6

/-- An address as a URL writes it, without its brackets. -/
def text (address : Ipv6) : List Char :=
  match compressedRun address.groups with
  | none => joinGroups address.groups
  | some (start, length) => joinGroups (address.groups.take start) ++ [':', ':'] ++
      joinGroups (address.groups.drop (start + length))

end Ipv6

namespace Ipv4

/-- The octets of an address. -/
def octets (address : Ipv4) : List (Fin 256) :=
  [address.first, address.second, address.third, address.fourth]

/-- An address as a URL writes it. -/
def text (address : Ipv4) : List Char :=
  ['.'].intercalate (address.octets.map fun octet ↦ Nat.toDigits 10 octet.val)

end Ipv4

/-- A host as a URL writes it. -/
def Host.text : Host → List Char
  | .domain name => name.text
  | .ipv4 address => address.text
  | .ipv6 address => '[' :: address.text ++ [']']
  | .other text => text.toList

/-- A parsed URL. A query or a fragment may be there and empty. -/
structure WebUrl where
  protocol : String
  username : String
  password : String
  host : Host
  port : String
  pathname : String
  query : Option String
  fragment : Option String
  deriving DecidableEq, Repr

namespace WebUrl

/-- The host as the URL writes it. -/
def hostname (url : WebUrl) : List Char := url.host.text

/-- The fragment with its number sign; nothing if it is absent or empty. -/
def hash (url : WebUrl) : String :=
  match url.fragment with
  | none => ""
  | some fragment => if fragment = "" then "" else "#" ++ fragment

/-- A URL with a network host as it is written. -/
def href (url : WebUrl) : String :=
  let credentials := if url.username = "" ∧ url.password = "" then "" else
    url.username ++ (if url.password = "" then "" else ":" ++ url.password) ++ "@"
  url.protocol ++ "//" ++ credentials ++ String.ofList url.hostname ++
    (if url.port = "" then "" else ":" ++ url.port) ++ url.pathname ++
    (url.query.elim "" ("?" ++ ·)) ++ url.fragment.elim "" ("#" ++ ·)

end WebUrl

/-! ## Blocks of addresses -/

/-- Whether a number of some bits starts with the same bits as another. -/
def InBlock (bits : ℕ) (network : ℕ) (prefixLength : ℕ) (value : ℕ) : Prop :=
  value / 2 ^ (bits - prefixLength) = network / 2 ^ (bits - prefixLength)

/-- An IPv4 address as a number. -/
def Ipv4.value (address : Ipv4) : ℕ :=
  ((address.first.val * 256 + address.second.val) * 256 + address.third.val) * 256 +
    address.fourth.val

/-- An IPv6 address as a number. -/
def Ipv6.value (address : Ipv6) : ℕ :=
  address.groups.foldl (fun value group ↦ value * 65536 + group.val) 0

/-! ## Domains -/

namespace DomainName

variable {name : DomainName} {c : Char}

theorem colon_notMem (name : DomainName) : ':' ∉ name.text :=
  fun mem ↦ absurd (name.plain _ mem) (by decide)

theorem bracket_notMem (name : DomainName) : '[' ∉ name.text ∧ ']' ∉ name.text :=
  ⟨fun mem ↦ absurd (name.plain _ mem) (by decide), fun mem ↦ absurd (name.plain _ mem) (by decide)⟩

/-- A domain is in lower case. -/
theorem toLower_of_mem (mem : c ∈ name.text) : c.toLower = c := by
  have hplain := name.plain c mem
  simp only [isHostCharacter, Bool.and_eq_true, Bool.not_eq_true'] at hplain
  have hupper : ¬('A'.val ≤ c.val ∧ c.val ≤ 'Z'.val) := of_decide_eq_false hplain.1.2
  exact dif_neg hupper

end DomainName

/-! ## IPv4 addresses -/

namespace Ipv4

variable (address : Ipv4)

theorem isDigit_of_mem {octet : Fin 256} {c : Char} (mem : c ∈ Nat.toDigits 10 octet.val) :
    c.isDigit = true :=
  Nat.isDigit_of_mem_toDigits (by decide) (by decide) mem

/-- An octet is written in one to three digits. -/
theorem length_toDigits (octet : Fin 256) :
    0 < (Nat.toDigits 10 octet.val).length ∧ (Nat.toDigits 10 octet.val).length ≤ 3 := by
  constructor
  · exact Nat.length_toDigits_pos
  · rw [Nat.length_toDigits_le_iff (by decide) (by decide)]
    have := octet.isLt
    omega

/-- An address is its octets with dots between them. -/
theorem text_eq : address.text = Nat.toDigits 10 address.first.val ++ '.' ::
    (Nat.toDigits 10 address.second.val ++ '.' ::
      (Nat.toDigits 10 address.third.val ++ '.' :: Nat.toDigits 10 address.fourth.val)) := by
  simp [text, octets, List.intercalate_cons_cons, List.intercalate_singleton]

/-- An address is written in digits and dots. -/
theorem digit_or_dot {c : Char} (mem : c ∈ address.text) : c.isDigit = true ∨ c = '.' := by
  rw [text_eq] at mem
  simp only [List.mem_append, List.mem_cons] at mem
  rcases mem with h | rfl | h | rfl | h | rfl | h
  · exact Or.inl (isDigit_of_mem h)
  · exact Or.inr rfl
  · exact Or.inl (isDigit_of_mem h)
  · exact Or.inr rfl
  · exact Or.inl (isDigit_of_mem h)
  · exact Or.inr rfl
  · exact Or.inl (isDigit_of_mem h)

/-- An address ends in a digit. -/
theorem exists_concat : ∃ front c, address.text = front ++ [c] ∧ c.isDigit = true := by
  have hne : Nat.toDigits 10 address.fourth.val ≠ [] :=
    List.ne_nil_of_length_pos (length_toDigits address.fourth).1
  refine ⟨Nat.toDigits 10 address.first.val ++ '.' :: (Nat.toDigits 10 address.second.val ++ '.' ::
    (Nat.toDigits 10 address.third.val ++ '.' :: (Nat.toDigits 10 address.fourth.val).dropLast)),
    (Nat.toDigits 10 address.fourth.val).getLast hne, ?_, isDigit_of_mem (List.getLast_mem hne)⟩
  rw [text_eq]
  simp only [List.append_assoc, List.cons_append, List.dropLast_concat_getLast hne]

/-- An address falls apart into its octets at its dots. -/
theorem splitOn_text :
    address.text.splitOn '.' = address.octets.map fun octet ↦ Nat.toDigits 10 octet.val := by
  apply List.splitOn_intercalate
  · intro digits mem hdot
    obtain ⟨octet, -, rfl⟩ := List.mem_map.1 mem
    exact absurd (isDigit_of_mem hdot) (by decide)
  · simp [octets]

end Ipv4

/-! ## IPv6 addresses -/

/-- A character of a hexadecimal group. -/
def IsHex (c : Char) : Prop := ∃ value < 16, c = Nat.digitChar value

theorem isHex_of_mem_hexGroup {group : Fin 65536} {c : Char} (mem : c ∈ hexGroup group) : IsHex c := by
  obtain ⟨value, hvalue, rfl⟩ := List.mem_map.1 mem
  refine ⟨value, ?_, rfl⟩
  have hlt := group.isLt
  rcases List.mem_append.1 hvalue with h | h
  · have hdigits := (List.dropWhile_sublist _).subset h
    simp only [List.mem_cons, List.not_mem_nil, or_false] at hdigits
    omega
  · cases List.mem_singleton.1 h
    omega

theorem joinGroups_cons (group : Fin 65536) (rest : List (Fin 65536)) :
    joinGroups (group :: rest) = hexGroup group ++ rest.flatMap fun g ↦ ':' :: hexGroup g := by
  induction rest generalizing group with
  | nil => simp [joinGroups, List.intercalate_singleton]
  | cons next rest ih =>
      rw [joinGroups, List.map_cons, List.map_cons, List.intercalate_cons_cons,
        List.flatMap_cons, ← List.map_cons, ← joinGroups, ih]
      simp

/-- Joined groups are hexadecimal characters and colons. -/
theorem isHex_or_colon_of_mem_joinGroups {groups : List (Fin 65536)} {c : Char}
    (mem : c ∈ joinGroups groups) : IsHex c ∨ c = ':' := by
  cases groups with
  | nil => cases mem
  | cons group rest =>
      rw [joinGroups_cons, List.mem_append, List.mem_flatMap] at mem
      rcases mem with h | ⟨g, -, h⟩
      · exact Or.inl (isHex_of_mem_hexGroup h)
      · rcases List.mem_cons.1 h with rfl | h
        · exact Or.inr rfl
        · exact Or.inl (isHex_of_mem_hexGroup h)

/-- A run kept is a run of zeros. -/
theorem foldl_longerRun {groups : List (Fin 65536)} (starts : List ℕ) {best : ℕ × ℕ}
    (h : 1 < best.2 → zeroRun (groups.drop best.1) = best.2)
    (long : 1 < (starts.foldl (longerRun groups) best).2) :
    zeroRun (groups.drop (starts.foldl (longerRun groups) best).1) =
      (starts.foldl (longerRun groups) best).2 := by
  induction starts generalizing best with
  | nil => exact h long
  | cons start starts ih =>
      apply ih _ long
      intro _
      unfold longerRun at *
      split_ifs with hlonger
      · rfl
      · rename_i hlong
        rw [if_neg hlonger] at hlong
        exact h hlong

theorem compressedRun_eq_some {groups : List (Fin 65536)} {start length : ℕ}
    (h : compressedRun groups = some (start, length)) :
    1 < length ∧ zeroRun (groups.drop start) = length := by
  simp only [compressedRun] at h
  split_ifs at h with hlong
  have hrun := foldl_longerRun (List.range groups.length) (fun h ↦ absurd h (by decide)) hlong
  rw [Option.some.injEq] at h
  rw [h] at hlong hrun
  exact ⟨hlong, hrun⟩

/-- A group of four digits. -/
theorem hexGroup_of_le {group : Fin 65536} (le : 4096 ≤ group.val) :
    hexGroup group = [hexDigit (group.val / 4096), hexDigit (group.val / 256 % 16),
      hexDigit (group.val / 16 % 16), hexDigit (group.val % 16)] := by
  have hne : ¬ group.val / 4096 = 0 := by omega
  rw [hexGroup, List.dropWhile_cons_of_neg (by simpa using hne)]
  rfl

namespace Ipv6

variable (address : Ipv6)

/-- An address has eight groups. -/
theorem exists_groups : ∃ a b c d e f g h, address.groups = [a, b, c, d, e, f, g, h] := by
  obtain ⟨groups, eight⟩ := address
  match groups, eight with
  | [a, b, c, d, e, f, g, h], _ => exact ⟨a, b, c, d, e, f, g, h, rfl⟩


/-- The first bits of an address are those of its first group. -/
theorem value_div {first : Fin 65536} {rest : List (Fin 65536)} (hgroups : address.groups = first :: rest)
    {prefixLength : ℕ} (le : prefixLength ≤ 16) :
    address.value / 2 ^ (128 - prefixLength) = first.val / 2 ^ (16 - prefixLength) := by
  obtain ⟨a, b, c, d, e, f, g, h, hall⟩ := address.exists_groups
  have hfirst : a = first := (List.cons.inj (hall.symm.trans hgroups)).1
  have hvalue : address.value / 2 ^ 112 = first.val := by
    subst hfirst
    simp only [value, hall, List.foldl_cons, List.foldl_nil]
    omega
  have hsplit : 128 - prefixLength = 112 + (16 - prefixLength) := by omega
  rw [hsplit, Nat.pow_add, ← Nat.div_div_eq_div_mul, hvalue]

/-- An address of the block that holds the IPv4 addresses has five zero groups and one of all ones. -/
theorem groups_of_mapped (h : address.value / 2 ^ 32 = 0xffff) :
    ∃ high low : Fin 65536, address.groups = [0, 0, 0, 0, 0, 65535, high, low] ∧
      address.value % 2 ^ 32 = high.val * 65536 + low.val := by
  obtain ⟨a, b, c, d, e, f, g, l, hall⟩ := address.exists_groups
  simp only [value, hall, List.foldl_cons, List.foldl_nil] at h ⊢
  have hbounds := And.intro a.isLt (And.intro b.isLt (And.intro c.isLt (And.intro d.isLt
    (And.intro e.isLt (And.intro f.isLt (And.intro g.isLt l.isLt))))))
  have ha : a.val = 0 := by omega
  have hb : b.val = 0 := by omega
  have hc : c.val = 0 := by omega
  have hd : d.val = 0 := by omega
  have he : e.val = 0 := by omega
  have hf : f.val = 65535 := by omega
  refine ⟨g, l, ?_, by omega⟩
  simp [Fin.ext_iff, ha, hb, hc, hd, he, hf]

/-- The address whose bits are all zero is written as two colons. -/
theorem text_of_value_zero (h : address.value = 0) : address.text = [':', ':'] := by
  obtain ⟨a, b, c, d, e, f, g, l, hall⟩ := address.exists_groups
  have hzero : address.groups = [0, 0, 0, 0, 0, 0, 0, 0] := by
    simp only [value, hall, List.foldl_cons, List.foldl_nil] at h
    simp only [hall, List.cons.injEq, Fin.ext_iff, Fin.val_zero, and_true]
    omega
  rw [text, hzero]
  decide

/-- The address one is written as two colons and its digit. -/
theorem text_of_value_one (h : address.value = 1) : address.text = [':', ':', '1'] := by
  obtain ⟨a, b, c, d, e, f, g, l, hall⟩ := address.exists_groups
  have hone : address.groups = [0, 0, 0, 0, 0, 0, 0, 1] := by
    simp only [value, hall, List.foldl_cons, List.foldl_nil] at h
    simp only [hall, List.cons.injEq, Fin.ext_iff, Fin.val_zero, Fin.val_one, and_true]
    omega
  rw [text, hone]
  decide

/-- An address is written in hexadecimal characters and colons. -/
theorem isHex_or_colon {c : Char} (mem : c ∈ address.text) : IsHex c ∨ c = ':' := by
  unfold text at mem
  split at mem
  · exact isHex_or_colon_of_mem_joinGroups mem
  · rcases List.mem_append.1 mem with h | h
    · rcases List.mem_append.1 h with h | h
      · exact isHex_or_colon_of_mem_joinGroups h
      · right
        simpa using h
    · exact isHex_or_colon_of_mem_joinGroups h

/-- An address is written with a colon. -/
theorem colon_mem : ':' ∈ address.text := by
  unfold text
  split
  · obtain ⟨groups, eight⟩ := address
    match groups, eight with
    | first :: second :: rest, _ =>
        rw [joinGroups_cons, List.flatMap_cons]
        simp
  · simp

/-- An address whose first group is not zero starts with that group. -/
theorem text_of_first_ne_zero {first : Fin 65536} {rest : List (Fin 65536)}
    (hgroups : address.groups = first :: rest) (ne : first ≠ 0) :
    ∃ tail, address.text = hexGroup first ++ tail := by
  unfold text
  split
  · rw [hgroups, joinGroups_cons]
    exact ⟨_, rfl⟩
  · next start length hrun =>
      obtain ⟨hlong, hzeros⟩ := compressedRun_eq_some hrun
      cases start with
      | zero =>
          rw [hgroups, List.drop_zero, zeroRun, List.takeWhile_cons_of_neg (by simpa using ne)] at hzeros
          rw [← hzeros] at hlong
          exact absurd hlong (by decide)
      | succ start =>
          rw [hgroups, List.take_succ_cons, joinGroups_cons, List.append_assoc, List.append_assoc]
          exact ⟨_, rfl⟩

/-- The address that holds an IPv4 address in its last two groups. -/
def mapped (high low : Fin 65536) : Ipv6 := ⟨[0, 0, 0, 0, 0, 0xffff, high, low], rfl⟩

/-- The mapped address of 127.0.0.1. -/
def mappedLoopback : Ipv6 := mapped 0x7f00 1

/-- An address that holds an IPv4 address is written with its last two groups in hexadecimal. -/
theorem text_mapped {high low : Fin 65536} (hgroups : address.groups = [0, 0, 0, 0, 0, 65535, high, low]) :
    address.text = "::ffff:".toList ++ hexGroup high ++ ':' :: hexGroup low := by
  have hrun : compressedRun address.groups = some (0, 5) := by
    rw [hgroups]
    by_cases hhigh : high = 0 <;> by_cases hlow : low = 0 <;>
      simp [compressedRun, List.range, List.range.loop, longerRun, zeroRun, hhigh, hlow]
  unfold text
  rw [hrun, hgroups]
  have hfirst : joinGroups [] = [] := rfl
  have hffff : hexGroup 65535 = ['f', 'f', 'f', 'f'] := by decide
  simp only [List.take_zero, List.drop_succ_cons, List.drop_zero, joinGroups_cons, hfirst, hffff,
    List.flatMap_cons, List.flatMap_nil, List.append_nil, List.nil_append]
  rfl

end Ipv6

end ReputationKey.Base
