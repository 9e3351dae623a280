import ReputationKey.Base.ListRuns
import Mathlib.Data.List.Sort
import Mathlib.Order.Nat

/-!
# Live runs of a Portal

When a Portal has been live, from its publication activations. A republish closes an activation as
replaced and opens the next one at the same instant, so the run goes on. Instants are whole
milliseconds. Follows `src/src/contexts/portal/domain/portal-live-run.ts`.
-/

namespace ReputationKey.Portal

open ReputationKey.Base

/-! ## Source decisions -/

structure LiveRun where
  start : ℤ
  stop : Option ℤ
  deriving DecidableEq, Repr

/-- A run closed at its own start was never live. -/
def neverLive (run : LiveRun) : Bool := run.stop.any fun stop ↦ decide (stop ≤ run.start)

section Spec

variable {ordered : List LiveRunActivation} {a : LiveRunActivation}

end Spec

end ReputationKey.Portal
