import ReputationKey.Shared.CanonicalJson
import Mathlib.Data.List.Perm.Basic
import Mathlib.Logic.Relation

/-!
# The JSON value of a heap value

A value of the heap stands for the JSON tree that it unfolds to, if it unfolds to one. What occurs in
such a value unfolds too, so none of it is a hole or undefined, and nothing in it is a part of its own
parts.
-/

namespace ReputationKey.Shared

open Base Base.Json Review

variable {ν : Type} {size : ℕ}

/-! ## Lists related one by one -/

section Lists

variable {α β : Type} {R : α → β → Prop} {l : List α} {l' : List β}

theorem exists_of_mem_right (h : List.Forall₂ R l l') {b : β} (mem : b ∈ l') : ∃ a ∈ l, R a b := by
  induction h with
  | nil => cases mem
  | cons hfirst _ ih =>
      rcases List.mem_cons.1 mem with rfl | hrest
      · exact ⟨_, List.mem_cons_self, hfirst⟩
      · obtain ⟨a, ha, hab⟩ := ih hrest
        exact ⟨a, List.mem_cons_of_mem _ ha, hab⟩

theorem exists_of_mem_left (h : List.Forall₂ R l l') {a : α} (mem : a ∈ l) : ∃ b ∈ l', R a b := by
  obtain ⟨b, hb, hba⟩ := exists_of_mem_right h.flip mem
  exact ⟨b, hb, hba⟩

end Lists

/-! ## The JSON value of a heap value -/

section Unfolding

variable (numbers : JsonNumbers ν) (heap : Heap ν size)

/-- The JSON values of an array's slots. -/
def jsonElements (read : JsValue ν size → Option (Json ν)) :
    List (Option (Descriptor ν size)) → Option (List (Json ν))
  | [] => some []
  | slot :: slots => do
      let x ← (safeValue slot).bind read
      let elements ← jsonElements read slots
      return x :: elements

/-- The members of an object's properties. -/
def jsonMembers (read : JsValue ν size → Option (Json ν)) :
    List (Text × Descriptor ν size) → Option (List (Text × Json ν))
  | [] => some []
  | (key, descriptor) :: properties => do
      let x ← (safeValue (some descriptor)).bind read
      let members ← jsonMembers read properties
      return (key, x) :: members

/-- The JSON value that a value unfolds to within some depth: its arrays are dense and its objects
plain, and it has no cycle, or no depth would do. -/
def jsonOf : ℕ → JsValue ν size → Option (Json ν)
  | _, .null => some .null
  | _, .boolean b => some (.boolean b)
  | _, .number x => some (.number x)
  | _, .negativeZero => some (.number numbers.zero)
  | _, .string text => some (.string text)
  | _, .undefined | _, .notFinite | _, .notJson => none
  | 0, .object _ => none
  | depth + 1, .object ref =>
      if !(heap ref).expectedPrototype ∨ (heap ref).hasSymbols then none
      else
        match (heap ref).elements with
        | some slots =>
            if (heap ref).properties = [] then (jsonElements (jsonOf depth) slots).map .array
            else none
        | none => (jsonMembers (jsonOf depth) (heap ref).properties).map .object

/-- The JSON value that a value stands for. -/
def StandsFor (value : JsValue ν size) (json : Json ν) : Prop :=
  ∃ depth, jsonOf numbers heap depth value = some json

end Unfolding

/-- Every text of a value is of Unicode scalar values. -/
inductive ScalarTexts : Json ν → Prop
  | null : ScalarTexts .null
  | boolean (b : Bool) : ScalarTexts (.boolean b)
  | number (x : ν) : ScalarTexts (.number x)
  | string {text : Text} : isScalarText text = true → ScalarTexts (.string text)
  | array {elements : List (Json ν)} : (∀ x ∈ elements, ScalarTexts x) → ScalarTexts (.array elements)
  | object {members : List (Text × Json ν)} :
      (∀ m ∈ members, isScalarText m.1 = true) → (∀ m ∈ members, ScalarTexts m.2) →
      ScalarTexts (.object members)

/-- What a slot's JSON value is, by a reading of values. -/
def SlotIs (read : JsValue ν size → Option (Json ν)) (slot : Option (Descriptor ν size)) (x : Json ν) :
    Prop :=
  ∃ value, safeValue slot = some value ∧ read value = some x

theorem jsonElements_eq_some_iff {read : JsValue ν size → Option (Json ν)}
    {slots : List (Option (Descriptor ν size))} {elements : List (Json ν)} :
    jsonElements read slots = some elements ↔ List.Forall₂ (SlotIs read) slots elements := by
  induction slots generalizing elements with
  | nil =>
      rw [jsonElements, Option.some_inj, List.forall₂_nil_left_iff]
      exact eq_comm
  | cons slot slots ih =>
      simp only [jsonElements, Option.bind_eq_bind, Option.bind_eq_some_iff, List.forall₂_cons_left_iff,
        ← ih, SlotIs, pure, Option.some_inj]
      constructor
      · rintro ⟨x, hx, more, hmore, rfl⟩
        exact ⟨x, more, hx, hmore, rfl⟩
      · rintro ⟨x, more, hx, hmore, rfl⟩
        exact ⟨x, hx, more, hmore, rfl⟩

/-- What a property's member is. -/
def MemberIs (read : JsValue ν size → Option (Json ν)) (property : Text × Descriptor ν size)
    (member : Text × Json ν) : Prop :=
  member.1 = property.1 ∧ SlotIs read (some property.2) member.2

theorem jsonMembers_eq_some_iff {read : JsValue ν size → Option (Json ν)}
    {properties : List (Text × Descriptor ν size)} {members : List (Text × Json ν)} :
    jsonMembers read properties = some members ↔ List.Forall₂ (MemberIs read) properties members := by
  induction properties generalizing members with
  | nil =>
      rw [jsonMembers, Option.some_inj, List.forall₂_nil_left_iff]
      exact eq_comm
  | cons property properties ih =>
      simp only [jsonMembers, Option.bind_eq_bind, Option.bind_eq_some_iff, List.forall₂_cons_left_iff,
        ← ih, MemberIs, SlotIs, pure, Option.some_inj]
      constructor
      · rintro ⟨x, hx, more, hmore, rfl⟩
        exact ⟨(property.1, x), more, ⟨rfl, hx⟩, hmore, rfl⟩
      · rintro ⟨⟨key, x⟩, more, ⟨rfl, hx⟩, hmore, rfl⟩
        exact ⟨x, hx, more, hmore, rfl⟩

variable {numbers : JsonNumbers ν} {heap : Heap ν size}

/-- What an object unfolds to. -/
theorem jsonOf_object {depth : ℕ} {ref : Fin size} {json : Json ν} :
    jsonOf numbers heap (depth + 1) (.object ref) = some json ↔
      (heap ref).expectedPrototype = true ∧ (heap ref).hasSymbols = false ∧
      ((∃ slots elements, (heap ref).elements = some slots ∧ (heap ref).properties = [] ∧
          List.Forall₂ (SlotIs (jsonOf numbers heap depth)) slots elements ∧ json = .array elements) ∨
        ∃ members, (heap ref).elements = none ∧
          List.Forall₂ (MemberIs (jsonOf numbers heap depth)) (heap ref).properties members ∧
          json = .object members) := by
  rw [jsonOf]
  cases hprototype : (heap ref).expectedPrototype with
  | false => simp
  | true =>
      cases hsymbols : (heap ref).hasSymbols with
      | true => simp
      | false =>
          cases helements : (heap ref).elements with
          | some slots =>
              by_cases hempty : (heap ref).properties = []
              · simp [hempty, ← jsonElements_eq_some_iff, @eq_comm _ json]
              · simp [hempty]
          | none => simp [← jsonMembers_eq_some_iff, @eq_comm _ json]

/-- A deeper unfolding gives the same value. -/
theorem jsonOf_le {depth depth' : ℕ} (le : depth ≤ depth') {value : JsValue ν size} {json : Json ν}
    (h : jsonOf numbers heap depth value = some json) :
    jsonOf numbers heap depth' value = some json := by
  induction depth generalizing depth' value json with
  | zero =>
      cases value with
      | object ref => cases h
      | _ => cases depth' <;> exact h
  | succ depth ih =>
      obtain ⟨depth', rfl⟩ := Nat.exists_eq_add_of_le' (show 1 ≤ depth' by omega)
      have hslot (slot : Option (Descriptor ν size)) (x : Json ν) :
          SlotIs (jsonOf numbers heap depth) slot x → SlotIs (jsonOf numbers heap depth') slot x := by
        rintro ⟨value, hsafe, hvalue⟩
        exact ⟨value, hsafe, ih (by omega) hvalue⟩
      cases value with
      | object ref =>
          rw [jsonOf_object] at h ⊢
          obtain ⟨hprototype, hsymbols, h⟩ := h
          refine ⟨hprototype, hsymbols, ?_⟩
          rcases h with ⟨slots, elements, hslots, hempty, heach, rfl⟩ | ⟨members, hnone, heach, rfl⟩
          · exact Or.inl ⟨slots, elements, hslots, hempty, heach.imp hslot, rfl⟩
          · exact Or.inr ⟨members, hnone, heach.imp fun p m hm ↦ ⟨hm.1, hslot _ _ hm.2⟩, rfl⟩
      | _ => exact h

/-- A value stands for one JSON value. -/
theorem StandsFor.unique {value : JsValue ν size} {json json' : Json ν}
    (h : StandsFor numbers heap value json) (h' : StandsFor numbers heap value json') :
    json = json' := by
  obtain ⟨depth, hdepth⟩ := h
  obtain ⟨depth', hdepth'⟩ := h'
  have hmax := jsonOf_le (le_max_left depth depth') hdepth
  rw [jsonOf_le (le_max_right depth depth') hdepth'] at hmax
  exact (Option.some.inj hmax).symm

/-- The members of an object of distinct keys have distinct keys. -/
theorem keysOf_of_memberIs {read : JsValue ν size → Option (Json ν)}
    {properties : List (Text × Descriptor ν size)} {members : List (Text × Json ν)}
    (h : List.Forall₂ (MemberIs read) properties members) : keysOf members = keysOf properties := by
  induction h with
  | nil => rfl
  | cons hfirst _ ih =>
      rw [keysOf, List.map_cons, ← keysOf, ih, hfirst.1]
      rfl

/-- What a value stands for has distinct keys. -/
theorem jsonOf_wellKeyed {depth : ℕ} {value : JsValue ν size} {json : Json ν}
    (h : jsonOf numbers heap depth value = some json) : json.WellKeyed := by
  induction depth generalizing value json with
  | zero =>
      cases value with
      | object ref => cases h
      | _ => cases h <;> constructor
  | succ depth ih =>
      cases value with
      | object ref =>
          obtain ⟨-, -, ⟨slots, elements, -, -, heach, rfl⟩ | ⟨members, -, heach, rfl⟩⟩ :=
            jsonOf_object.1 h
          · apply WellKeyed.array
            intro x mem
            obtain ⟨slot, -, value, -, hvalue⟩ := exists_of_mem_right heach mem
            exact ih hvalue
          · apply WellKeyed.object
            · rw [keysOf_of_memberIs heach]
              exact (heap ref).distinct
            · intro m mem
              obtain ⟨property, -, -, value, -, hvalue⟩ := exists_of_mem_right heach mem
              exact ih hvalue
      | _ => cases h <;> constructor

variable {read : JsValue ν size → Option (Json ν)}

/-! ## What occurs in a value -/

/-- A value that another has as a slot or a property. -/
inductive PartOf (heap : Heap ν size) : JsValue ν size → JsValue ν size → Prop
  | slot {ref : Fin size} {slots : List (Option (Descriptor ν size))} {enumerable : Bool}
      {value : JsValue ν size} : (heap ref).elements = some slots →
      some ⟨enumerable, some value⟩ ∈ slots → PartOf heap (.object ref) value
  | property {ref : Fin size} {key : Text} {enumerable : Bool} {value : JsValue ν size} :
      (key, ⟨enumerable, some value⟩) ∈ (heap ref).properties → PartOf heap (.object ref) value

/-- A value that stands anywhere in another. -/
def Occurs (heap : Heap ν size) : JsValue ν size → JsValue ν size → Prop :=
  Relation.ReflTransGen (PartOf heap)

/-- What no canonical form allows: a lone surrogate in a string or a key, a hole, an undefined member
and a cycle. -/
inductive Defective (heap : Heap ν size) : JsValue ν size → Prop
  | loneSurrogate {text : Text} : isScalarText text = false → Defective heap (.string text)
  | loneSurrogateKey {ref : Fin size} {key : Text} {descriptor : Descriptor ν size} :
      (key, descriptor) ∈ (heap ref).properties → isScalarText key = false →
      Defective heap (.object ref)
  | hole {ref : Fin size} {slots : List (Option (Descriptor ν size))} :
      (heap ref).elements = some slots → none ∈ slots → Defective heap (.object ref)
  | undefined : Defective heap .undefined
  | cycle {whole part : JsValue ν size} : PartOf heap whole part → Occurs heap part whole →
      Defective heap whole

/-- A safe property of a known value has that value. -/
theorem SlotIs.value {enumerable : Bool} {value : JsValue ν size} {x : Json ν}
    (h : SlotIs read (some ⟨enumerable, some value⟩) x) : read value = some x := by
  obtain ⟨v, hsafe, hv⟩ := h
  cases enumerable with
  | false => cases hsafe
  | true =>
      cases value <;> cases hsafe <;> exact hv

/-- What a value unfolds to unfolds its parts less deep, and their texts are scalar if its own are. -/
theorem jsonOf_part {depth : ℕ} {whole part : JsValue ν size} {json : Json ν}
    (h : jsonOf numbers heap depth whole = some json) (scalar : ScalarTexts json)
    (hpart : PartOf heap whole part) :
    ∃ less x, depth = less + 1 ∧ jsonOf numbers heap less part = some x ∧ ScalarTexts x := by
  cases depth with
  | zero => cases hpart <;> cases h
  | succ less =>
      refine ⟨less, ?_⟩
      cases hpart with
      | slot hslots mem =>
          obtain ⟨-, -, ⟨slots, elements, hslots', -, heach, rfl⟩ | ⟨members, hnone, -⟩⟩ :=
            jsonOf_object.1 h
          · rw [hslots, Option.some_inj] at hslots'
            subst hslots'
            obtain ⟨x, hx, hslot⟩ := exists_of_mem_left heach mem
            cases scalar with
            | array hscalars => exact ⟨x, rfl, hslot.value, hscalars x hx⟩
          · rw [hslots] at hnone
            cases hnone
      | property mem =>
          obtain ⟨-, -, ⟨slots, elements, -, hempty, -⟩ | ⟨members, -, heach, rfl⟩⟩ :=
            jsonOf_object.1 h
          · rw [hempty] at mem
            cases mem
          · obtain ⟨m, hm, -, hslot⟩ := exists_of_mem_left heach mem
            cases scalar with
            | object hkeys hscalars => exact ⟨m.2, rfl, hslot.value, hscalars m hm⟩

/-- So does everything that occurs in it. -/
theorem jsonOf_occurs {depth : ℕ} {whole part : JsValue ν size} {json : Json ν}
    (h : jsonOf numbers heap depth whole = some json) (scalar : ScalarTexts json)
    (occurs : Occurs heap whole part) :
    ∃ less x, less ≤ depth ∧ jsonOf numbers heap less part = some x ∧ ScalarTexts x := by
  induction occurs with
  | refl => exact ⟨depth, json, le_rfl, h, scalar⟩
  | tail _ hpart ih =>
      obtain ⟨less, x, hle, hx, hscalar⟩ := ih
      obtain ⟨less', y, rfl, hy, hscalar'⟩ := jsonOf_part hx hscalar hpart
      exact ⟨less', y, by omega, hy, hscalar'⟩

/-- A value that unfolds is no part of its own parts: it would unfold in ever smaller depths. -/
theorem not_cycle {depth : ℕ} {whole part : JsValue ν size} {json : Json ν}
    (h : jsonOf numbers heap depth whole = some json) (scalar : ScalarTexts json)
    (hpart : PartOf heap whole part) : ¬ Occurs heap part whole := by
  induction depth using Nat.strong_induction_on generalizing json with
  | _ depth ih =>
      intro occurs
      obtain ⟨less, x, rfl, hx, hscalar⟩ := jsonOf_part h scalar hpart
      obtain ⟨less', y, hle, hy, hscalar'⟩ := jsonOf_occurs hx hscalar occurs
      exact ih less' (by omega) hy hscalar' occurs

theorem not_defective {depth : ℕ} {value : JsValue ν size} {json : Json ν}
    (h : jsonOf numbers heap depth value = some json) (scalar : ScalarTexts json) :
    ¬ Defective heap value := by
  intro defective
  cases defective with
  | loneSurrogate hlone =>
      cases depth <;> cases h <;> cases scalar with
        | string hscalar =>
            rw [hlone] at hscalar
            cases hscalar
  | loneSurrogateKey mem hlone =>
      cases depth with
      | zero => cases h
      | succ depth =>
          obtain ⟨-, -, ⟨slots, elements, -, hempty, -⟩ | ⟨members, -, heach, rfl⟩⟩ :=
            jsonOf_object.1 h
          · rw [hempty] at mem
            cases mem
          · obtain ⟨m, hm, hkey, -⟩ := exists_of_mem_left heach mem
            cases scalar with
            | object hkeys _ =>
                have hscalar := hkeys m hm
                rw [hkey, hlone] at hscalar
                cases hscalar
  | hole hslots mem =>
      cases depth with
      | zero => cases h
      | succ depth =>
          obtain ⟨-, -, ⟨slots, elements, hslots', -, heach, rfl⟩ | ⟨members, hnone, -⟩⟩ :=
            jsonOf_object.1 h
          · rw [hslots, Option.some_inj] at hslots'
            subst hslots'
            obtain ⟨x, -, v, hsafe, -⟩ := exists_of_mem_left heach mem
            cases hsafe
          · rw [hslots] at hnone
            cases hnone
  | undefined => cases depth <;> cases h
  | cycle hpart occurs => exact not_cycle h scalar hpart occurs

end ReputationKey.Shared
