import Mathlib.Data.List.Basic

/-!
# Machines with outputs

A `Transducer` answers each event with outputs. Some events may be *silent*: they put out nothing an
observer sees and leave all later observations as they were, although they change the state. The
laws say that silent events may be put in or left out anywhere, and how an invariant over the
outputs made so far is carried along a run.
-/

namespace ReputationKey.Base

universe u v w

/-- A machine that answers each event with a next state and a list of outputs. -/
structure Transducer (σ : Type u) (ε : Type v) (ο : Type w) where
  step : σ → ε → σ × List ο

namespace Transducer

variable {σ : Type u} {ε : Type v} {ο : Type w} (M : Transducer σ ε ο)

/-- The state after the events. -/
def final (s : σ) : List ε → σ
  | [] => s
  | e :: events => final (M.step s e).1 events

/-- All outputs of the events, oldest first. -/
def output (s : σ) : List ε → List ο
  | [] => []
  | e :: events => (M.step s e).2 ++ output (M.step s e).1 events

@[simp] theorem final_nil (s : σ) : M.final s [] = s := rfl

@[simp] theorem output_nil (s : σ) : M.output s [] = [] := rfl

@[simp] theorem final_cons (s : σ) (e : ε) (events : List ε) :
    M.final s (e :: events) = M.final (M.step s e).1 events := rfl

@[simp] theorem output_cons (s : σ) (e : ε) (events : List ε) :
    M.output s (e :: events) = (M.step s e).2 ++ M.output (M.step s e).1 events := rfl

/-- An invariant over the outputs made so far and the state is carried along every run. -/
theorem invariant {I : List ο → σ → Prop}
    (step : ∀ out s e, I out s → I (out ++ (M.step s e).2) (M.step s e).1)
    {out : List ο} {s : σ} (start : I out s) (events : List ε) :
    I (out ++ M.output s events) (M.final s events) := by
  induction events generalizing out s with
  | nil => simpa using start
  | cons e events ih =>
      have h := ih (step out s e start)
      rwa [List.append_assoc] at h

/-- What an observer sees of a state and of an output, and the events that show nothing: a step's
observation depends on the view of the state alone, and a silent event changes no view and shows
nothing. `Valid` is what the states of a run have in common. -/
structure SilentEvents {τ : Type*} {ω : Type*} (view : σ → τ) (tell : ο → List ω)
    (silent : ε → Bool) (Valid : σ → Prop) : Prop where
  valid : ∀ s e, Valid s → Valid (M.step s e).1
  congr : ∀ s t e, Valid s → Valid t → view s = view t →
    view (M.step s e).1 = view (M.step t e).1 ∧
      (M.step s e).2.flatMap tell = (M.step t e).2.flatMap tell
  quiet : ∀ s e, Valid s → silent e = true →
    view (M.step s e).1 = view s ∧ (M.step s e).2.flatMap tell = []

namespace SilentEvents

variable {M} {τ : Type*} {ω : Type*} {view : σ → τ} {tell : ο → List ω} {silent : ε → Bool}
  {Valid : σ → Prop}

/-- Leaving out the silent events changes neither the final view nor what was told. -/
theorem filter (h : M.SilentEvents view tell silent Valid) {s t : σ} (hs : Valid s) (ht : Valid t)
    (hview : view s = view t) (events : List ε) :
    view (M.final s events) = view (M.final t (events.filter fun e ↦ !silent e)) ∧
      (M.output s events).flatMap tell =
        (M.output t (events.filter fun e ↦ !silent e)).flatMap tell := by
  induction events generalizing s t with
  | nil => exact ⟨hview, rfl⟩
  | cons e events ih =>
      cases hsilent : silent e with
      | true =>
          obtain ⟨hquiet, hnothing⟩ := h.quiet s e hs hsilent
          have hrest := ih (h.valid s e hs) ht (hquiet.trans hview)
          rw [List.filter_cons_of_neg (by simp [hsilent]), final_cons, output_cons,
            List.flatMap_append, hnothing, List.nil_append]
          exact hrest
      | false =>
          obtain ⟨hnext, htold⟩ := h.congr s t e hs ht hview
          have hrest := ih (h.valid s e hs) (h.valid t e ht) hnext
          rw [List.filter_cons_of_pos (by simp [hsilent]), final_cons, output_cons, final_cons,
            output_cons, List.flatMap_append, List.flatMap_append, htold, hrest.2]
          exact ⟨hrest.1, rfl⟩

/-- Two event lists that differ in silent events only are indistinguishable. -/
theorem insert_or_delete (h : M.SilentEvents view tell silent Valid) {s : σ} (hs : Valid s)
    {events events' : List ε}
    (same : (events.filter fun e ↦ !silent e) = events'.filter fun e ↦ !silent e) :
    view (M.final s events) = view (M.final s events') ∧
      (M.output s events).flatMap tell = (M.output s events').flatMap tell := by
  have hleft := h.filter hs hs rfl events
  have hright := h.filter hs hs rfl events'
  rw [same] at hleft
  exact ⟨hleft.1.trans hright.1.symm, hleft.2.trans hright.2.symm⟩

end SilentEvents

end Transducer

/-- Where the elements of a list with one more at its end stand. -/
theorem forall_split_append_singleton {α : Type u} {P : List α → α → Prop} {l : List α} {y : α}
    (earlier : ∀ before x after, l = before ++ x :: after → P before x) (last : P l y) :
    ∀ before x after, l ++ [y] = before ++ x :: after → P before x := by
  intro before x after hsplit
  rcases List.eq_nil_or_concat after with rfl | ⟨after, z, rfl⟩
  · obtain ⟨rfl, hx⟩ := List.append_inj' hsplit rfl
    rw [← List.singleton_inj.1 hx]
    exact last
  · rw [List.concat_eq_append, ← List.cons_append, ← List.append_assoc] at hsplit
    obtain ⟨hl, -⟩ := List.append_inj' hsplit rfl
    exact earlier before x after hl

end ReputationKey.Base
