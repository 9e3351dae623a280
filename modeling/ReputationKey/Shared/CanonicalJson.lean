import ReputationKey.Base.JsonText
import ReputationKey.Review.ReplyComment
import ReputationKey.Shared.JsString

/-!
# Canonical JSON

The strict RFC 8785 serializer. A value may be any JavaScript value: its arrays and objects live in a
heap, where they may share parts or form cycles, and are looked at through their own property
descriptors. Follows `src/src/shared/canonical-json.ts`.
-/

namespace ReputationKey.Shared

open Base Base.Json Review

/-! ## JavaScript values -/

/-- A JavaScript value, with the objects of a heap of so many; a bigint, a symbol and a function are
alike here. -/
inductive JsValue (ν : Type) (size : ℕ)
  | undefined
  | null
  | boolean (b : Bool)
  | notFinite
  | negativeZero
  | number (x : ν)
  | string (text : Text)
  | notJson
  | object (ref : Fin size)
  deriving DecidableEq

/-- An own property: its value, none being an accessor. -/
structure Descriptor (ν : Type) (size : ℕ) where
  enumerable : Bool
  value : Option (JsValue ν size)
  deriving DecidableEq

/-- An array, or an object of another kind. The elements of an array are its slots, none being a
hole; the other own properties of a string key are listed, each key once. -/
structure HeapObject (ν : Type) (size : ℕ) where
  elements : Option (List (Option (Descriptor ν size)))
  expectedPrototype : Bool
  hasSymbols : Bool
  properties : List (Text × Descriptor ν size)
  distinct : (keysOf properties).Nodup

/-- The objects that a value may refer to. -/
abbrev Heap (ν : Type) (size : ℕ) := Fin size → HeapObject ν size

/-! ## The serializer -/

/-- Why a value has no canonical form. -/
inductive CanonicalRefusal
  | loneSurrogate
  | arrayPrototype
  | arraySymbols
  | arrayNotDense
  | unsafeMember
  | objectPrototype
  | objectSymbols
  | unsafeProperty (key : Text)
  | inputNotJson
  | cycle
  deriving DecidableEq, Repr

/-- The message of the error thrown. -/
def CanonicalRefusal.message : CanonicalRefusal → Text
  | .loneSurrogate => asciiText "RFC 8785 strings must contain only Unicode scalar values"
  | .arrayPrototype => asciiText "RFC 8785 arrays must have the exact Array prototype"
  | .arraySymbols => asciiText "RFC 8785 arrays cannot contain symbol properties"
  | .arrayNotDense => asciiText "RFC 8785 arrays must be dense and unextended"
  | .unsafeMember => asciiText "RFC 8785 arrays contain an unsafe member"
  | .objectPrototype => asciiText "RFC 8785 objects must be plain objects"
  | .objectSymbols => asciiText "RFC 8785 objects cannot contain symbol properties"
  | .unsafeProperty key => asciiText "RFC 8785 object contains an unsafe property: \"" ++ key ++ [34]
  | .inputNotJson => asciiText "RFC 8785 input is not JSON"
  | .cycle => asciiText "RFC 8785 input contains a cycle"

/-- Whether every surrogate of a text stands in a pair. -/
def isScalarText : Text → Bool
  | [] => true
  | [unit] => !isHighSurrogate unit && !isLowSurrogate unit
  | unit :: next :: rest =>
      if isHighSurrogate unit then isLowSurrogate next && isScalarText rest
      else !isLowSurrogate unit && isScalarText (next :: rest)

def assertUnicodeScalarString (value : Text) : Except CanonicalRefusal Unit :=
  if isScalarText value then .ok () else .error .loneSurrogate

variable {ν : Type} {size : ℕ}

/-- The value of a safe property: enumerable, no accessor, and defined. -/
def safeValue : Option (Descriptor ν size) → Option (JsValue ν size)
  | some ⟨true, some .undefined⟩ => none
  | some ⟨true, some value⟩ => some value
  | _ => none

variable (numbers : JsonNumbers ν) (heap : Heap ν size)

/-- The texts of an array's elements, by a serializer of its members. -/
def serializeElements (serialize : JsValue ν size → Except CanonicalRefusal Text) :
    List (Option (Descriptor ν size)) → Except CanonicalRefusal (List Text)
  | [] => .ok []
  | slot :: slots =>
      match safeValue slot with
      | none => .error .unsafeMember
      | some value => do
          let member ← serialize value
          let members ← serializeElements serialize slots
          return member :: members

/-- The texts of an object's members, by a serializer of their values. -/
def serializeProperties (serialize : JsValue ν size → Except CanonicalRefusal Text) :
    List (Text × Descriptor ν size) → Except CanonicalRefusal (List Text)
  | [] => .ok []
  | (key, descriptor) :: properties => do
      assertUnicodeScalarString key
      match safeValue (some descriptor) with
      | none => .error (.unsafeProperty key)
      | some value => do
          let member ← serialize value
          let members ← serializeProperties serialize properties
          return (quote key ++ 58 :: member) :: members

/-- An array: dense when its own keys, its length among them, are one more than its length. -/
def serializeCanonicalArray (serialize : JsValue ν size → Except CanonicalRefusal Text)
    (value : HeapObject ν size) (elements : List (Option (Descriptor ν size))) :
    Except CanonicalRefusal Text := do
  if !value.expectedPrototype then .error .arrayPrototype
  else if value.hasSymbols then .error .arraySymbols
  else if (elements.filter Option.isSome).length + value.properties.length + 1 ≠ elements.length + 1 then
    .error .arrayNotDense
  else
    let members ← serializeElements serialize elements
    return 91 :: ([44].intercalate members ++ [93])

def serializeCanonicalObject (serialize : JsValue ν size → Except CanonicalRefusal Text)
    (value : HeapObject ν size) : Except CanonicalRefusal Text := do
  if !value.expectedPrototype then .error .objectPrototype
  else if value.hasSymbols then .error .objectSymbols
  else
    let members ← serializeProperties serialize (byKey value.properties)
    return 123 :: ([44].intercalate members ++ [125])

/-- A value below some objects already entered. When `left` others are left, each object is entered
at most once on the way down; with none left every object has been. -/
def serializeCanonical : (left : ℕ) → (seen : List (Fin size)) → JsValue ν size →
    Except CanonicalRefusal Text
  | _, _, .null => .ok [110, 117, 108, 108]
  | _, _, .boolean true => .ok [116, 114, 117, 101]
  | _, _, .boolean false => .ok [102, 97, 108, 115, 101]
  | _, _, .number x => .ok (numbers.stringify x)
  | _, _, .negativeZero => .ok (numbers.stringify numbers.zero)
  | _, _, .string text => (assertUnicodeScalarString text).map fun _ ↦ quote text
  | _, _, .undefined | _, _, .notFinite | _, _, .notJson => .error .inputNotJson
  | 0, _, .object _ => .error .cycle
  | left + 1, seen, .object ref =>
      if ref ∈ seen then .error .cycle
      else
        let serialize := serializeCanonical left (ref :: seen)
        match (heap ref).elements with
        | some elements => serializeCanonicalArray serialize (heap ref) elements
        | none => serializeCanonicalObject serialize (heap ref)

def canonicalizeRfc8785 (value : JsValue ν size) : Except CanonicalRefusal Text :=
  serializeCanonical numbers heap size [] value

end ReputationKey.Shared
