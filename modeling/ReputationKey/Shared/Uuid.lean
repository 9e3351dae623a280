import Mathlib.Data.Nat.Notation

/-!
# UUID texts

The pattern the contexts test identities with.
-/

namespace ReputationKey.Shared

/-- A text of hexadecimal digits in lower case, of a length. -/
def isHex (length : ℕ) (text : List Char) : Bool :=
  decide (text.length = length) &&
    text.all fun c ↦ c.isDigit || (decide ('a' ≤ c) && decide (c ≤ 'f'))

/-- The identity test: a UUID of a version from 1 to 8 in lower case. -/
def isUuid (text : String) : Bool :=
  match text.toList.splitOn '-' with
  | [first, second, third, fourth, fifth] =>
      isHex 8 first && isHex 4 second && isHex 4 third && isHex 4 fourth && isHex 12 fifth &&
        (third.head?.any fun c ↦ decide ('1' ≤ c) && decide (c ≤ '8')) &&
        fourth.head?.any fun c ↦ ['8', '9', 'a', 'b'].contains c
  | _ => false

/-- The identity test that takes letters of either case. -/
def isUuidAnyCase (text : String) : Bool := isUuid text.toLower

end ReputationKey.Shared
