import Mathlib.Data.List.Basic

/-!
# Facts that replace or take back earlier facts

A stream of facts, each with an identity and possibly the identity of the fact it supersedes. A
fact is live while no fact of the stream supersedes it.
-/

namespace ReputationKey.Base

universe u v

variable {φ : Type u} {ι : Type v} [DecidableEq ι] (idOf : φ → ι) (supersedes : φ → Option ι)

/-- The facts no fact of the stream supersedes. -/
def liveFacts (facts : List φ) : List φ :=
  facts.filter fun f ↦ facts.all fun g ↦ decide (supersedes g ≠ some (idOf f))

variable {idOf supersedes}

/-- A new fact is live and ends the one it supersedes. -/
theorem liveFacts_cons {f : φ} {facts : List φ}
    (fresh : ∀ g ∈ facts, supersedes g ≠ some (idOf f)) (notSelf : supersedes f ≠ some (idOf f)) :
    liveFacts idOf supersedes (f :: facts) =
      f :: (liveFacts idOf supersedes facts).filter fun g ↦
        decide (supersedes f ≠ some (idOf g)) := by
  unfold liveFacts
  rw [List.filter_cons, if_pos]
  · rw [List.filter_filter]
    simp only [List.all_cons]
  · simp only [List.all_cons, Bool.and_eq_true, decide_eq_true_eq, List.all_eq_true]
    exact ⟨notSelf, fresh⟩

/-- A live fact is in the stream. -/
theorem mem_of_mem_liveFacts {f : φ} {facts : List φ} (h : f ∈ liveFacts idOf supersedes facts) :
    f ∈ facts :=
  List.mem_of_mem_filter h

end ReputationKey.Base
