import Mathlib.Data.List.Lex
import Mathlib.Data.List.Sort
import Mathlib.Order.Basic

/-!
# JSON values

JSON values as trees whose objects list their members, and what it means for two of them to be the
same up to the order of their keys: the normal form, which sorts the members of every object by the
code units of their keys, decides it. Numbers are left open.
-/

namespace ReputationKey.Base

universe u

/-- A JSON value. Texts are lists of UTF-16 code units. -/
inductive Json (ν : Type u)
  | null
  | boolean (b : Bool)
  | number (x : ν)
  | string (text : List UInt16)
  | array (elements : List (Json ν))
  | object (members : List (List UInt16 × Json ν))

namespace Json

variable {ν : Type u}

/-- A member of an object is smaller than the object's members. -/
theorem sizeOf_member_lt {members : List (List UInt16 × Json ν)} {member : List UInt16 × Json ν}
    (mem : member ∈ members) : sizeOf member.2 < 1 + sizeOf members := by
  have hmember := List.sizeOf_lt_of_mem mem
  cases member
  simp only [Prod.mk.sizeOf_spec] at hmember
  simp only
  omega

/-- The keys of an object's members. -/
def keysOf {α : Type u} (members : List (List UInt16 × α)) : List (List UInt16) := members.map Prod.fst

/-- Every object's keys are distinct. -/
inductive WellKeyed : Json ν → Prop
  | null : WellKeyed .null
  | boolean (b : Bool) : WellKeyed (.boolean b)
  | number (x : ν) : WellKeyed (.number x)
  | string (text : List UInt16) : WellKeyed (.string text)
  | array {elements : List (Json ν)} : (∀ x ∈ elements, WellKeyed x) → WellKeyed (.array elements)
  | object {members : List (List UInt16 × Json ν)} : (keysOf members).Nodup →
      (∀ m ∈ members, WellKeyed m.2) → WellKeyed (.object members)

/-- The same value up to the order in which objects list their keys. -/
inductive Same : Json ν → Json ν → Prop
  | refl (a : Json ν) : Same a a
  | symm {a b : Json ν} : Same a b → Same b a
  | trans {a b c : Json ν} : Same a b → Same b c → Same a c
  | permute {members members' : List (List UInt16 × Json ν)} : (keysOf members).Nodup →
      members.Perm members' → Same (.object members) (.object members')
  | element {before after : List (Json ν)} {a b : Json ν} : Same a b →
      Same (.array (before ++ a :: after)) (.array (before ++ b :: after))
  | member {before after : List (List UInt16 × Json ν)} {key : List UInt16} {a b : Json ν} : Same a b →
      Same (.object (before ++ (key, a) :: after)) (.object (before ++ (key, b) :: after))

/-! ## Sorting by key -/

/-- Texts in the order of their code units. -/
def textLe (a b : List UInt16) : Prop := a.map UInt16.toNat ≤ b.map UInt16.toNat

instance : DecidableRel textLe := fun a b ↦
  inferInstanceAs (Decidable (a.map UInt16.toNat ≤ b.map UInt16.toNat))

theorem textLe_total (a b : List UInt16) : textLe a b ∨ textLe b a := le_total _ _

theorem textLe_trans {a b c : List UInt16} (h : textLe a b) (h' : textLe b c) : textLe a c := le_trans h h'

theorem textLe_antisymm {a b : List UInt16} (h : textLe a b) (h' : textLe b a) : a = b :=
  List.map_injective_iff.2 (fun _ _ ↦ UInt16.toNat_inj.1) (le_antisymm h h')

variable {α : Type u}

/-- Members in the order of their keys. -/
def byKey (members : List (List UInt16 × α)) : List (List UInt16 × α) :=
  members.insertionSort fun m n ↦ textLe m.1 n.1

theorem byKey_perm (members : List (List UInt16 × α)) : (byKey members).Perm members :=
  List.perm_insertionSort _ _

theorem byKey_sorted (members : List (List UInt16 × α)) :
    (byKey members).Pairwise fun m n ↦ textLe m.1 n.1 := by
  have : Std.Total fun m n : List UInt16 × α ↦ textLe m.1 n.1 := ⟨fun m n ↦ textLe_total m.1 n.1⟩
  have : IsTrans (List UInt16 × α) fun m n ↦ textLe m.1 n.1 := ⟨fun _ _ _ ↦ textLe_trans⟩
  exact List.pairwise_insertionSort _ _

/-- Members with distinct keys have one order by key. -/
theorem byKey_eq_of_perm {members members' : List (List UInt16 × α)} (nodup : (keysOf members).Nodup)
    (h : members.Perm members') : byKey members = byKey members' := by
  have hperm := ((byKey_perm members).trans h).trans (byKey_perm members').symm
  apply hperm.eq_of_pairwise _ (byKey_sorted members) (byKey_sorted members')
  intro m n hm hn hle hge
  exact List.inj_on_of_nodup_map nodup ((byKey_perm members).mem_iff.1 hm)
    (h.mem_iff.2 ((byKey_perm members').mem_iff.1 hn)) (textLe_antisymm hle hge)

/-- Members in the order of their keys stay so. -/
theorem byKey_eq_self {members : List (List UInt16 × α)}
    (sorted : members.Pairwise fun m n ↦ textLe m.1 n.1) : byKey members = members :=
  sorted.insertionSort_eq

theorem keysOf_byKey_nodup {members : List (List UInt16 × α)} (nodup : (keysOf members).Nodup) :
    (keysOf (byKey members)).Nodup := by
  rw [keysOf] at *
  rwa [((byKey_perm members).map Prod.fst).nodup_iff]

/-! ## The normal form -/

/-- A value with the members of every object in the order of their keys. -/
def normal : Json ν → Json ν
  | .array elements => .array (elements.map fun x ↦ x.normal)
  | .object members => .object (byKey (members.map fun m ↦ (m.1, m.2.normal)))
  | value => value
termination_by value => sizeOf value
decreasing_by
  · decreasing_trivial
  · have := sizeOf_member_lt ‹_›
    simp only [object.sizeOf_spec]
    omega

/-- The keys of members whose values change. -/
theorem keysOf_map {β : Type u} (f : List UInt16 × α → β) (members : List (List UInt16 × α)) :
    keysOf (members.map fun m ↦ (m.1, f m)) = keysOf members := by
  rw [keysOf, keysOf, List.map_map]
  rfl

theorem WellKeyed.normal {value : Json ν} (h : value.WellKeyed) : value.normal.WellKeyed := by
  induction h with
  | null => rw [Json.normal.eq_def]; exact .null
  | boolean b => rw [Json.normal.eq_def]; exact .boolean b
  | number x => rw [Json.normal.eq_def]; exact .number x
  | string text => rw [Json.normal.eq_def]; exact .string text
  | array _ ih =>
      rw [Json.normal]
      apply WellKeyed.array
      intro x mem
      obtain ⟨y, hy, rfl⟩ := List.mem_map.1 mem
      exact ih y hy
  | @object members nodup _ ih =>
      rw [Json.normal]
      apply WellKeyed.object
      · apply keysOf_byKey_nodup
        rwa [keysOf_map fun m : List UInt16 × Json ν ↦ m.2.normal]
      · intro m mem
        obtain ⟨m', hm', rfl⟩ := List.mem_map.1 ((byKey_perm _).mem_iff.1 mem)
        exact ih m' hm'

/-- Values that are the same have one normal form. -/
theorem Same.normal_eq {a b : Json ν} (h : Same a b) : a.normal = b.normal := by
  induction h with
  | refl a => rfl
  | symm _ ih => exact ih.symm
  | trans _ _ ih ih' => exact ih.trans ih'
  | @permute members members' nodup hperm =>
      rw [Json.normal, Json.normal]
      congr 1
      apply byKey_eq_of_perm
      · rwa [keysOf_map fun m : List UInt16 × Json ν ↦ m.2.normal]
      · exact hperm.map _
  | element _ ih =>
      rw [Json.normal, Json.normal]
      simp only [List.map_append, List.map_cons, ih]
  | member _ ih =>
      rw [Json.normal, Json.normal]
      simp only [List.map_append, List.map_cons, ih]

/-- Elements that are the same one by one. -/
theorem Same.elements {f : Json ν → Json ν} (before after : List (Json ν))
    (h : ∀ x ∈ after, Same x (f x)) :
    Same (.array (before ++ after)) (.array (before ++ after.map f)) := by
  induction after generalizing before with
  | nil => exact .refl _
  | cons x after ih =>
      have hfirst := @Same.element ν before after x (f x) (h x List.mem_cons_self)
      have hrest := ih (before ++ [f x]) fun y mem ↦ h y (List.mem_cons_of_mem _ mem)
      rw [List.append_assoc, List.append_assoc] at hrest
      exact hfirst.trans hrest

/-- Members whose values are the same one by one. -/
theorem Same.members {f : Json ν → Json ν} (before after : List (List UInt16 × Json ν))
    (h : ∀ m ∈ after, Same m.2 (f m.2)) :
    Same (.object (before ++ after)) (.object (before ++ after.map fun m ↦ (m.1, f m.2))) := by
  induction after generalizing before with
  | nil => exact .refl _
  | cons m after ih =>
      have hfirst := @Same.member ν before after m.1 m.2 (f m.2) (h m List.mem_cons_self)
      have hrest := ih (before ++ [(m.1, f m.2)]) fun y mem ↦ h y (List.mem_cons_of_mem _ mem)
      rw [List.append_assoc, List.append_assoc] at hrest
      exact hfirst.trans hrest

/-- A value is the same as its normal form. -/
theorem WellKeyed.same_normal {value : Json ν} (h : value.WellKeyed) : Same value value.normal := by
  induction h with
  | null => rw [Json.normal.eq_def]; exact .refl _
  | boolean b => rw [Json.normal.eq_def]; exact .refl _
  | number x => rw [Json.normal.eq_def]; exact .refl _
  | string text => rw [Json.normal.eq_def]; exact .refl _
  | array _ ih =>
      rw [Json.normal]
      exact Same.elements [] _ ih
  | @object members nodup _ ih =>
      rw [Json.normal]
      have hvalues := Same.members [] members ih
      have hsorted : Same (.object (members.map fun m ↦ (m.1, m.2.normal)))
          (.object (byKey (members.map fun m ↦ (m.1, m.2.normal)))) := by
        apply Same.permute _ (byKey_perm _).symm
        rwa [keysOf_map fun m : List UInt16 × Json ν ↦ m.2.normal]
      exact hvalues.trans hsorted

/-- Values are the same exactly when their normal forms are equal. -/
theorem same_iff {a b : Json ν} (ha : a.WellKeyed) (hb : b.WellKeyed) :
    Same a b ↔ a.normal = b.normal := by
  constructor
  · exact Same.normal_eq
  · intro h
    have hnormal := ha.same_normal
    rw [h] at hnormal
    exact hnormal.trans hb.same_normal.symm

end Json

end ReputationKey.Base
