import ReputationKey.Base.Refusal
import ReputationKey.Shared.JsonUnfolding
import Mathlib.Data.Fintype.Card

/-!
# Canonical JSON is faithful

The serializer accepts exactly the values that unfold to a tree of Unicode scalar texts, and writes
the tree's normal form; so two accepted values have one canonical text exactly when they are the same
up to the order of their keys, and the text parses to the value.
-/

namespace ReputationKey.Shared

open Base Base.Json Review

variable {ν : Type} {size : ℕ} {numbers : JsonNumbers ν} {heap : Heap ν size}

/-! ## What the serializer writes -/

/-- A serializer writes normal forms of what a reading reads. -/
def WritesNormal (numbers : JsonNumbers ν) (serialize : JsValue ν size → Except CanonicalRefusal Text)
    (read : JsValue ν size → Option (Json ν)) : Prop :=
  ∀ value text, serialize value = .ok text →
    ∃ x, read value = some x ∧ ScalarTexts x ∧ text = x.normal.print numbers

variable {serialize : JsValue ν size → Except CanonicalRefusal Text}
  {read : JsValue ν size → Option (Json ν)}

theorem serializeElements_ok (each : WritesNormal numbers serialize read)
    {slots : List (Option (Descriptor ν size))} {texts : List Text}
    (h : serializeElements serialize slots = .ok texts) :
    ∃ elements, List.Forall₂ (SlotIs read) slots elements ∧ (∀ x ∈ elements, ScalarTexts x) ∧
      texts = elements.map fun x ↦ x.normal.print numbers := by
  induction slots generalizing texts with
  | nil =>
      cases h
      exact ⟨[], .nil, by simp, rfl⟩
  | cons slot slots ih =>
      rw [serializeElements] at h
      cases hsafe : safeValue slot with
      | none =>
          rw [hsafe] at h
          cases h
      | some value =>
          rw [hsafe] at h
          obtain ⟨member, hmember, h⟩ := ok_of_bind h
          obtain ⟨members, hmembers, h⟩ := ok_of_bind h
          obtain ⟨x, hx, hscalar, rfl⟩ := each value member hmember
          obtain ⟨elements, heach, hscalars, rfl⟩ := ih hmembers
          refine ⟨x :: elements, .cons ⟨value, hsafe, hx⟩ heach, ?_, (Except.ok.inj h).symm⟩
          exact List.forall_mem_cons.2 ⟨hscalar, hscalars⟩

theorem isScalarText_of_assert {text : Text} {u : Unit} (h : assertUnicodeScalarString text = .ok u) :
    isScalarText text = true := by
  rw [assertUnicodeScalarString] at h
  split_ifs at h with hscalar
  exact hscalar

/-- The text of a member, its value in normal form. -/
def memberText (numbers : JsonNumbers ν) (m : Text × Json ν) : Text :=
  quote m.1 ++ 58 :: m.2.normal.print numbers

theorem serializeProperties_ok (each : WritesNormal numbers serialize read)
    {properties : List (Text × Descriptor ν size)} {texts : List Text}
    (h : serializeProperties serialize properties = .ok texts) :
    ∃ members, List.Forall₂ (MemberIs read) properties members ∧
      (∀ m ∈ members, isScalarText m.1 = true) ∧ (∀ m ∈ members, ScalarTexts m.2) ∧
      texts = members.map (memberText numbers) := by
  induction properties generalizing texts with
  | nil =>
      cases h
      exact ⟨[], .nil, by simp, by simp, rfl⟩
  | cons property properties ih =>
      obtain ⟨key, descriptor⟩ := property
      rw [serializeProperties] at h
      obtain ⟨_, hkey, h⟩ := ok_of_bind h
      have hscalarKey := isScalarText_of_assert hkey
      cases hsafe : safeValue (some descriptor) with
      | none =>
          rw [hsafe] at h
          cases h
      | some value =>
          rw [hsafe] at h
          obtain ⟨member, hmember, h⟩ := ok_of_bind h
          obtain ⟨more, hmore, h⟩ := ok_of_bind h
          obtain ⟨x, hx, hscalar, rfl⟩ := each value member hmember
          obtain ⟨members, heach, hkeys, hscalars, rfl⟩ := ih hmore
          refine ⟨(key, x) :: members, .cons ⟨rfl, value, hsafe, hx⟩ heach, ?_, ?_,
            (Except.ok.inj h).symm⟩
          · exact List.forall_mem_cons.2 ⟨hscalarKey, hkeys⟩
          · exact List.forall_mem_cons.2 ⟨hscalar, hscalars⟩

/-- Slots with values have no hole among them. -/
theorem filter_isSome_of_each {slots : List (Option (Descriptor ν size))} {elements : List (Json ν)}
    (each : List.Forall₂ (SlotIs read) slots elements) : slots.filter Option.isSome = slots := by
  apply List.filter_eq_self.2
  intro slot mem
  obtain ⟨x, -, v, hsafe, -⟩ := exists_of_mem_left each mem
  cases slot with
  | none => cases hsafe
  | some descriptor => rfl

/-- A dense array has no other properties. -/
theorem properties_eq_nil {value : HeapObject ν size} {slots : List (Option (Descriptor ν size))}
    {elements : List (Json ν)} (each : List.Forall₂ (SlotIs read) slots elements)
    (dense : (slots.filter Option.isSome).length + value.properties.length + 1 = slots.length + 1) :
    value.properties = [] := by
  rw [filter_isSome_of_each each] at dense
  exact List.length_eq_zero_iff.1 (by omega)

theorem print_normal_array (elements : List (Json ν)) :
    (Json.array elements).normal.print numbers =
      91 :: ([44].intercalate (elements.map fun x ↦ x.normal.print numbers) ++ [93]) := by
  rw [Json.normal, print, List.map_map]
  rfl

/-- The members of an object in the order of their keys make its canonical text. -/
theorem print_normal_object {members sorted : List (Text × Json ν)} (nodup : (keysOf members).Nodup)
    (perm : members.Perm sorted) (order : sorted.Pairwise fun m n ↦ textLe m.1 n.1) :
    (Json.object members).normal.print numbers =
      123 :: ([44].intercalate (sorted.map (memberText numbers)) ++ [125]) := by
  have hsorted : byKey (members.map fun m ↦ (m.1, m.2.normal)) =
      sorted.map fun m ↦ (m.1, m.2.normal) := by
    have hnodup : (keysOf (members.map fun m ↦ (m.1, m.2.normal))).Nodup := by
      rwa [keysOf_map fun m : Text × Json ν ↦ m.2.normal]
    rw [byKey_eq_of_perm hnodup (perm.map _)]
    apply byKey_eq_self
    rw [List.pairwise_map]
    exact order
  rw [Json.normal, hsorted, print, List.map_map]
  rfl

/-- A serializer below one object writes what the object unfolds to. -/
theorem serializeObject_ok {depth : ℕ} {ref : Fin size} {text : Text}
    (each : WritesNormal numbers serialize (jsonOf numbers heap depth))
    (h : (match (heap ref).elements with
      | some elements => serializeCanonicalArray serialize (heap ref) elements
      | none => serializeCanonicalObject serialize (heap ref)) = .ok text) :
    ∃ x, jsonOf numbers heap (depth + 1) (.object ref) = some x ∧ ScalarTexts x ∧
      text = x.normal.print numbers := by
  cases helements : (heap ref).elements with
  | some slots =>
      rw [helements] at h
      obtain ⟨hprototype, h⟩ := ok_of_guard h
      obtain ⟨hsymbols, h⟩ := ok_of_guard h
      obtain ⟨hdense, h⟩ := ok_of_guard h
      obtain ⟨texts, htexts, h⟩ := ok_of_bind h
      obtain ⟨elements, heach, hscalars, rfl⟩ := serializeElements_ok each htexts
      have hempty := properties_eq_nil heach (not_not.1 hdense)
      refine ⟨.array elements, ?_, .array hscalars, ?_⟩
      · rw [jsonOf_object]
        exact ⟨by simpa using hprototype, by simpa using hsymbols,
          Or.inl ⟨slots, elements, helements, hempty, heach, rfl⟩⟩
      · rw [print_normal_array]
        exact (Except.ok.inj h).symm
  | none =>
      rw [helements] at h
      obtain ⟨hprototype, h⟩ := ok_of_guard h
      obtain ⟨hsymbols, h⟩ := ok_of_guard h
      obtain ⟨texts, htexts, h⟩ := ok_of_bind h
      obtain ⟨sorted, heach, hkeys, hscalars, rfl⟩ := serializeProperties_ok each htexts
      -- the members in the order the object lists them
      obtain ⟨members, hlisted, hperm⟩ := List.perm_comp_forall₂ (byKey_perm _).symm heach
      have hnodup : (keysOf members).Nodup := by
        rw [keysOf_of_memberIs hlisted]
        exact (heap ref).distinct
      have horder : sorted.Pairwise fun m n ↦ textLe m.1 n.1 := by
        have hkeysSorted := byKey_sorted (heap ref).properties
        rw [← List.pairwise_map (f := Prod.fst) (R := textLe)] at hkeysSorted
        rw [← List.pairwise_map (f := Prod.fst) (R := textLe)]
        rwa [show sorted.map Prod.fst = (byKey (heap ref).properties).map Prod.fst from
          keysOf_of_memberIs heach]
      refine ⟨.object members, ?_, ?_, ?_⟩
      · rw [jsonOf_object]
        exact ⟨by simpa using hprototype, by simpa using hsymbols,
          Or.inr ⟨members, helements, hlisted, rfl⟩⟩
      · exact .object (fun m mem ↦ hkeys m (hperm.mem_iff.1 mem))
          fun m mem ↦ hscalars m (hperm.mem_iff.1 mem)
      · rw [print_normal_object hnodup hperm horder]
        exact (Except.ok.inj h).symm

/-- A value without parts is written as it is. -/
theorem serializeLeaf_ok {left : ℕ} {seen : List (Fin size)} {value : JsValue ν size} {text : Text}
    (leaf : ∀ ref, value ≠ .object ref) (h : serializeCanonical numbers heap left seen value = .ok text) :
    ∃ x, jsonOf numbers heap left value = some x ∧ ScalarTexts x ∧ text = x.normal.print numbers := by
  cases value with
  | undefined => cases left <;> cases h
  | null =>
      refine ⟨.null, by cases left <;> rfl, .null, ?_⟩
      rw [Json.normal.eq_def, print]
      cases left <;> exact (Except.ok.inj h).symm
  | boolean b =>
      refine ⟨.boolean b, by cases left <;> rfl, .boolean b, ?_⟩
      cases b <;> rw [Json.normal.eq_def, print] <;> cases left <;> exact (Except.ok.inj h).symm
  | notFinite => cases left <;> cases h
  | negativeZero =>
      refine ⟨.number numbers.zero, by cases left <;> rfl, .number _, ?_⟩
      rw [Json.normal.eq_def, print]
      cases left <;> exact (Except.ok.inj h).symm
  | number x =>
      refine ⟨.number x, by cases left <;> rfl, .number x, ?_⟩
      rw [Json.normal.eq_def, print]
      cases left <;> exact (Except.ok.inj h).symm
  | string content =>
      have hmap : (assertUnicodeScalarString content).map (fun _ ↦ quote content) = .ok text := by
        cases left <;> exact h
      cases hassert : assertUnicodeScalarString content with
      | error refusal =>
          rw [hassert] at hmap
          cases hmap
      | ok u =>
          rw [hassert] at hmap
          refine ⟨.string content, by cases left <;> rfl, .string (isScalarText_of_assert hassert), ?_⟩
          rw [Json.normal.eq_def, print]
          exact (Except.ok.inj hmap).symm
  | notJson => cases left <;> cases h
  | object ref => exact absurd rfl (leaf ref)

/-- An accepted value unfolds to a tree of scalar texts, and its text is the tree's normal form. -/
theorem serializeCanonical_ok (left : ℕ) (seen : List (Fin size)) :
    WritesNormal numbers (serializeCanonical numbers heap left seen) (jsonOf numbers heap left) := by
  induction left generalizing seen with
  | zero =>
      intro value text h
      cases value with
      | object ref => cases h
      | _ => exact serializeLeaf_ok (by simp) h
  | succ left ih =>
      intro value text h
      cases value with
      | object ref =>
          rw [serializeCanonical] at h
          obtain ⟨-, h⟩ := ok_of_guard h
          exact serializeObject_ok (ih (ref :: seen)) h
      | _ => exact serializeLeaf_ok (by simp) h

/-! ## What is refused -/

/-- A value with a defect anywhere is refused. -/
theorem refused_of_defective {value part : JsValue ν size} (occurs : Occurs heap value part)
    (defective : Defective heap part) :
    ∃ refusal, canonicalizeRfc8785 numbers heap value = .error refusal := by
  cases hresult : canonicalizeRfc8785 numbers heap value with
  | error refusal => exact ⟨refusal, rfl⟩
  | ok text =>
      obtain ⟨json, hjson, hscalar, -⟩ := serializeCanonical_ok size [] value text hresult
      obtain ⟨less, x, -, hx, hscalar'⟩ := jsonOf_occurs hjson hscalar occurs
      exact absurd defective (not_defective hx hscalar')

/-! ## The order of the keys -/

/-- The same objects, their keys listed in any order. -/
def Reordered (heap heap' : Heap ν size) : Prop :=
  ∀ ref, (heap ref).elements = (heap' ref).elements ∧
    (heap ref).expectedPrototype = (heap' ref).expectedPrototype ∧
    (heap ref).hasSymbols = (heap' ref).hasSymbols ∧ (heap ref).properties.Perm (heap' ref).properties

theorem serializeCanonical_reordered {heap' : Heap ν size} (h : Reordered heap heap') (left : ℕ)
    (seen : List (Fin size)) (value : JsValue ν size) :
    serializeCanonical numbers heap left seen value = serializeCanonical numbers heap' left seen value := by
  induction left generalizing seen value with
  | zero =>
      cases value with
      | boolean b => cases b <;> rfl
      | _ => rfl
  | succ left ih =>
      cases value with
      | boolean b => cases b <;> rfl
      | object ref =>
          obtain ⟨helements, hprototype, hsymbols, hperm⟩ := h ref
          have hbelow : serializeCanonical numbers heap left (ref :: seen) =
              serializeCanonical numbers heap' left (ref :: seen) := funext (ih (ref :: seen))
          have hsorted := byKey_eq_of_perm (heap ref).distinct hperm
          simp only [serializeCanonical, serializeCanonicalArray, serializeCanonicalObject, hbelow,
            helements, hprototype, hsymbols, hsorted, hperm.length_eq]
      | _ => rfl

/-! ## What is accepted -/

theorem serializeElements_of {slots : List (Option (Descriptor ν size))} {elements : List (Json ν)}
    (heach : List.Forall₂ (SlotIs read) slots elements)
    (accepts : ∀ slot ∈ slots, ∀ value, safeValue slot = some value →
      ∃ text, serialize value = .ok text) :
    ∃ texts, serializeElements serialize slots = .ok texts := by
  induction heach with
  | nil => exact ⟨[], rfl⟩
  | cons hfirst _ ih =>
      obtain ⟨value, hsafe, -⟩ := hfirst
      obtain ⟨text, htext⟩ := accepts _ List.mem_cons_self value hsafe
      obtain ⟨texts, htexts⟩ := ih fun slot mem ↦ accepts slot (List.mem_cons_of_mem _ mem)
      refine ⟨text :: texts, ?_⟩
      rw [serializeElements, hsafe]
      simp only [htext, htexts]
      rfl

theorem serializeProperties_of {properties : List (Text × Descriptor ν size)}
    (accepts : ∀ property ∈ properties, isScalarText property.1 = true ∧
      ∃ value text, safeValue (some property.2) = some value ∧ serialize value = .ok text) :
    ∃ texts, serializeProperties serialize properties = .ok texts := by
  induction properties with
  | nil => exact ⟨[], rfl⟩
  | cons property properties ih =>
      obtain ⟨hkey, value, text, hsafe, htext⟩ := accepts property List.mem_cons_self
      obtain ⟨texts, htexts⟩ := ih fun property mem ↦ accepts property (List.mem_cons_of_mem _ mem)
      refine ⟨(quote property.1 ++ 58 :: text) :: texts, ?_⟩
      rw [serializeProperties, assertUnicodeScalarString, if_pos hkey, hsafe]
      simp only [htext, htexts]
      rfl

/-- A safe slot's value is a part of its array. -/
theorem PartOf.of_slot {ref : Fin size} {slots : List (Option (Descriptor ν size))}
    {slot : Option (Descriptor ν size)} {value : JsValue ν size} (hslots : (heap ref).elements = some slots)
    (mem : slot ∈ slots) (hsafe : safeValue slot = some value) : PartOf heap (.object ref) value := by
  rcases slot with - | ⟨enumerable, held⟩
  · cases hsafe
  · cases enumerable <;> rcases held with - | held
    · cases hsafe
    · cases hsafe
    · cases hsafe
    · cases held <;> cases hsafe <;> exact .slot hslots mem

/-- A safe property's value is a part of its object. -/
theorem PartOf.of_property {ref : Fin size} {property : Text × Descriptor ν size}
    {value : JsValue ν size} (mem : property ∈ (heap ref).properties)
    (hsafe : safeValue (some property.2) = some value) : PartOf heap (.object ref) value := by
  obtain ⟨key, enumerable, held⟩ := property
  cases enumerable <;> rcases held with - | held
  · cases hsafe
  · cases hsafe
  · cases hsafe
  · cases held <;> cases hsafe <;> exact .property mem

/-- A leaf that stands for a scalar text is accepted. -/
theorem serializeCanonical_leaf {depth left : ℕ} {seen : List (Fin size)} {value : JsValue ν size}
    {json : Json ν} (leaf : ∀ ref, value ≠ .object ref) (h : jsonOf numbers heap depth value = some json)
    (scalar : ScalarTexts json) : ∃ text, serializeCanonical numbers heap left seen value = .ok text := by
  cases value with
  | object ref => exact absurd rfl (leaf ref)
  | undefined | notFinite | notJson => cases depth <;> cases h
  | string content =>
      refine ⟨quote content, ?_⟩
      have hscalar : isScalarText content = true := by
        cases depth <;> cases h <;> cases scalar with | string hscalar => exact hscalar
      have hassert : assertUnicodeScalarString content = .ok () := if_pos hscalar
      cases left <;> rw [serializeCanonical, hassert] <;> rfl
  | boolean b => cases b <;> cases left <;> exact ⟨_, rfl⟩
  | null | negativeZero | number x => cases left <;> exact ⟨_, rfl⟩

/-- What stands for a tree of scalar texts is accepted below any objects that do not occur in it. -/
theorem serializeCanonical_of {depth left : ℕ} {seen : List (Fin size)} {value : JsValue ν size}
    {json : Json ν} (h : jsonOf numbers heap depth value = some json) (scalar : ScalarTexts json)
    (nodup : seen.Nodup) (enough : left + seen.length = size)
    (fresh : ∀ ref ∈ seen, ¬ Occurs heap value (.object ref)) :
    ∃ text, serializeCanonical numbers heap left seen value = .ok text := by
  induction depth generalizing left seen value json with
  | zero =>
      cases value with
      | object ref => cases h
      | _ => exact serializeCanonical_leaf (by simp) h scalar
  | succ depth ih =>
      cases value with
      | object ref =>
          have hfresh : ref ∉ seen := fun mem ↦ fresh ref mem .refl
          have hlength := List.Nodup.length_le_card (List.nodup_cons.2 ⟨hfresh, nodup⟩)
          rw [List.length_cons, Fintype.card_fin] at hlength
          obtain ⟨left, rfl⟩ := Nat.exists_eq_add_of_le' (show 1 ≤ left by omega)
          rw [serializeCanonical, if_neg hfresh]
          -- a part meets neither the object it is a part of nor what was entered before
          have hpart {part : JsValue ν size} (hpart : PartOf heap (.object ref) part) :
              ∃ text, serializeCanonical numbers heap left (ref :: seen) part = .ok text := by
            obtain ⟨less, x, hless, hx, hscalar⟩ := jsonOf_part h scalar hpart
            rw [Nat.add_right_cancel_iff] at hless
            subst hless
            apply ih hx hscalar (List.nodup_cons.2 ⟨hfresh, nodup⟩)
            · rw [List.length_cons]
              omega
            · intro entered mem occurs
              rcases List.mem_cons.1 mem with rfl | hseen
              · exact not_cycle h scalar hpart occurs
              · exact fresh entered hseen (.head hpart occurs)
          obtain ⟨hprototype, hsymbols, ⟨slots, elements, hslots, hempty, heach, rfl⟩ |
            ⟨members, hnone, heach, rfl⟩⟩ := jsonOf_object.1 h
          · obtain ⟨texts, htexts⟩ := serializeElements_of heach fun slot mem v hsafe ↦
              hpart (.of_slot hslots mem hsafe)
            refine ⟨91 :: ([44].intercalate texts ++ [93]), ?_⟩
            have hdense : slots.filter Option.isSome = slots := filter_isSome_of_each heach
            simp only [hslots, serializeCanonicalArray, hprototype, hsymbols, hempty, hdense]
            simp [htexts]
          · have heachSafe : ∀ property ∈ byKey (heap ref).properties, isScalarText property.1 = true ∧
                ∃ v text, safeValue (some property.2) = some v ∧
                  serializeCanonical numbers heap left (ref :: seen) v = .ok text := by
              intro property mem
              have hlisted := (byKey_perm _).mem_iff.1 mem
              obtain ⟨m, hm, hkey, v, hsafe, -⟩ := exists_of_mem_left heach hlisted
              obtain ⟨text, htext⟩ := hpart (.of_property hlisted hsafe)
              cases scalar with
              | object hkeys _ =>
                  have hscalarKey := hkeys m hm
                  rw [hkey] at hscalarKey
                  exact ⟨hscalarKey, v, text, hsafe, htext⟩
            obtain ⟨texts, htexts⟩ := serializeProperties_of heachSafe
            refine ⟨123 :: ([44].intercalate texts ++ [125]), ?_⟩
            simp only [hnone, serializeCanonicalObject, hprototype, hsymbols, htexts]
            rfl
      | _ => exact serializeCanonical_leaf (by simp) h scalar

/-- A value is accepted exactly when it stands for a tree of scalar texts. -/
theorem accepted_iff {value : JsValue ν size} :
    (∃ text, canonicalizeRfc8785 numbers heap value = .ok text) ↔
      ∃ json, StandsFor numbers heap value json ∧ ScalarTexts json := by
  constructor
  · rintro ⟨text, h⟩
    obtain ⟨json, hjson, hscalar, -⟩ := serializeCanonical_ok size [] value text h
    exact ⟨json, ⟨size, hjson⟩, hscalar⟩
  · rintro ⟨json, ⟨depth, hjson⟩, hscalar⟩
    exact serializeCanonical_of hjson hscalar List.nodup_nil rfl (by simp)

/-- An accepted value stands for a tree of distinct keys, and its text is the tree's normal form. -/
theorem canonicalize_ok {value : JsValue ν size} {text : Text}
    (h : canonicalizeRfc8785 numbers heap value = .ok text) :
    ∃ json, StandsFor numbers heap value json ∧ json.WellKeyed ∧ text = json.normal.print numbers := by
  obtain ⟨json, hjson, -, htext⟩ := serializeCanonical_ok size [] value text h
  exact ⟨json, ⟨size, hjson⟩, jsonOf_wellKeyed hjson, htext⟩

/-! ## A faithful encoding -/

/-- Canonical JSON is faithful. -/
theorem canonical_json_faithful (back : NumbersReadBack numbers) :
    (∀ value, (∃ text, canonicalizeRfc8785 numbers heap value = .ok text) ↔
      ∃ json, StandsFor numbers heap value json ∧ ScalarTexts json) ∧
    (∀ value text, canonicalizeRfc8785 numbers heap value = .ok text →
      ∃ json parsed, StandsFor numbers heap value json ∧
        (∀ json', StandsFor numbers heap value json' → json' = json) ∧
        parse numbers text = some parsed ∧ Same parsed json) ∧
    (∀ (size' : ℕ) (heap' : Heap ν size') value value' text text' json json',
      canonicalizeRfc8785 numbers heap value = .ok text →
      canonicalizeRfc8785 numbers heap' value' = .ok text' → StandsFor numbers heap value json →
      StandsFor numbers heap' value' json' → (text = text' ↔ Same json json')) ∧
    (∀ heap', Reordered heap heap' → ∀ value,
      canonicalizeRfc8785 numbers heap value = canonicalizeRfc8785 numbers heap' value) ∧
    canonicalizeRfc8785 numbers heap .negativeZero =
      canonicalizeRfc8785 numbers heap (.number numbers.zero) ∧
    ∀ value part, Occurs heap value part → Defective heap part →
      ∃ refusal, canonicalizeRfc8785 numbers heap value = .error refusal := by
  refine ⟨fun value ↦ accepted_iff, ?_, ?_, ?_, by cases size <;> rfl, ?_⟩
  · intro value text h
    obtain ⟨json, hjson, hkeyed, rfl⟩ := canonicalize_ok h
    refine ⟨json, json.normal, hjson, fun json' h' ↦ h'.unique hjson, ?_, hkeyed.same_normal.symm⟩
    exact parse_print back hkeyed.normal
  · intro size' heap' value value' text text' json json' h h' hjson hjson'
    obtain ⟨tree, htree, hkeyed, rfl⟩ := canonicalize_ok h
    obtain ⟨tree', htree', hkeyed', rfl⟩ := canonicalize_ok h'
    rw [hjson.unique htree, hjson'.unique htree', same_iff hkeyed hkeyed']
    constructor
    · intro htext
      have hparsed := parse_print back hkeyed.normal
      rw [htext, parse_print back hkeyed'.normal] at hparsed
      exact (Option.some.inj hparsed).symm
    · intro hnormal
      rw [hnormal]
  · intro heap' hreordered value
    exact serializeCanonical_reordered hreordered size [] value
  · intro value part occurs defective
    exact refused_of_defective occurs defective

/-- Numbers of one digit. -/
def oneDigit : JsonNumbers (Fin 10) where
  zero := 0
  stringify x := [48 + UInt16.ofNat x]
  read
    | [unit] => some (Fin.ofNat 10 (unit.toNat - 48))
    | _ => none

/-- Two members that share an array, listed in one order or in the other. -/
def sharingProperties (swapped : Bool) : List (Text × Descriptor (Fin 10) 2) :=
  let shared : Descriptor (Fin 10) 2 := ⟨true, some (.object 1)⟩
  if swapped then [([97], shared), ([98], shared)] else [([98], shared), ([97], shared)]

theorem sharingProperties_nodup (swapped : Bool) : (keysOf (sharingProperties swapped)).Nodup := by
  cases swapped <;> decide

def sharingHeap (swapped : Bool) : Heap (Fin 10) 2
  | 0 => ⟨none, true, false, sharingProperties swapped, sharingProperties_nodup swapped⟩
  | 1 => ⟨some [some ⟨true, some (.number 7)⟩], true, false, [], List.nodup_nil⟩

theorem canonical_json_faithful_sharing :
    canonicalizeRfc8785 oneDigit (sharingHeap false) (.object 0) =
        .ok (asciiText "\x7b\"a\":[7],\"b\":[7]\x7d") ∧
      canonicalizeRfc8785 oneDigit (sharingHeap false) (.object 0) =
        canonicalizeRfc8785 oneDigit (sharingHeap true) (.object 0) := by
  have hunits : ∀ x : Fin 10, (oneDigit.stringify x).all isNumberUnit = true := by decide
  have hback : NumbersReadBack oneDigit :=
    ⟨by decide, fun x ↦ List.all_eq_true.1 (hunits x), by decide⟩
  have hreordered : Reordered (sharingHeap false) (sharingHeap true) := by
    rintro ⟨_ | _ | ref, href⟩
    · exact ⟨rfl, rfl, rfl, List.Perm.swap _ _ _⟩
    · exact ⟨rfl, rfl, rfl, List.Perm.refl _⟩
    · omega
  obtain ⟨-, -, -, horder, -⟩ := @canonical_json_faithful _ _ _ (sharingHeap false) hback
  exact ⟨by decide, horder _ hreordered _⟩

end ReputationKey.Shared
