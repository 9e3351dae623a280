import Mathlib.Data.List.Chain
import Mathlib.Data.List.Infix

/-!
# Runs in a list

An element may say that its run goes on with the next one. A run is given by its first and its last
element, and the elements between them can be left out.
-/

namespace ReputationKey.Base

universe u

variable {α : Type u} (goesOn : α → Bool)

section Runs

variable {goesOn : α → Bool} {a : α} {l : List α}

end Runs

end ReputationKey.Base
