/-!
# Commands that may be refused

A command is a chain of guards, each of which refuses with its own error, before it does something.
The laws peel the guards off a command that was accepted.
-/

namespace ReputationKey.Base

universe u v w

variable {ε : Type u} {ε' : Type v} {α : Type w}

/-- An accepted command passed its first guard. -/
theorem ok_of_guard {c : Prop} [Decidable c] {error : ε} {rest : Except ε α} {a : α}
    (h : (if c then .error error else rest) = .ok a) : ¬ c ∧ rest = .ok a := by
  by_cases hc : c
  · rw [if_pos hc] at h
    cases h
  · rw [if_neg hc] at h
    exact ⟨hc, h⟩

/-- Renaming errors does not accept more. -/
theorem ok_of_mapError {f : ε → ε'} {x : Except ε α} {a : α} (h : x.mapError f = .ok a) :
    x = .ok a := by
  cases x with
  | error e => cases h
  | ok b => exact congrArg Except.ok (Except.ok.inj h)

/-- A step after a step that may be refused goes ahead only from an accepted one. -/
theorem ok_of_bind {β : Type w} {x : Except ε β} {next : β → Except ε α} {a : α}
    (h : (x >>= next) = .ok a) : ∃ b, x = .ok b ∧ next b = .ok a := by
  cases x with
  | error e => cases h
  | ok b => exact ⟨b, rfl, h⟩

/-- A step after an accepted step is that step. -/
theorem bind_of_ok {β : Type w} {x : Except ε β} {next : β → Except ε α} {b : β} (h : x = .ok b) :
    (x >>= next) = next b := by
  rw [h]
  rfl

/-- An accepted walk along a list accepted every step. -/
theorem mapM_ok {β : Type w} {f : α → Except ε β} {xs : List α} {ys : List β}
    (h : xs.mapM f = .ok ys) :
    (∀ x ∈ xs, ∃ y, f x = .ok y) ∧
      ∀ g : α → β, (∀ x ∈ xs, ∀ y, f x = .ok y → g x = y) → ys = xs.map g := by
  induction xs generalizing ys with
  | nil =>
      cases h
      exact ⟨nofun, fun _ _ ↦ rfl⟩
  | cons x xs ih =>
      rw [List.mapM_cons] at h
      obtain ⟨y, hy, h⟩ := ok_of_bind h
      obtain ⟨ys', hys, h⟩ := ok_of_bind h
      cases h
      obtain ⟨hall, hmap⟩ := ih hys
      constructor
      · intro z mem
        rcases List.mem_cons.1 mem with rfl | mem
        · exact ⟨y, hy⟩
        · exact hall z mem
      · intro g hg
        rw [List.map_cons, hg x List.mem_cons_self y hy,
          hmap g fun z mem ↦ hg z (List.mem_cons_of_mem _ mem)]

end ReputationKey.Base
