import Mathlib.Data.List.Basic

/-!
# Encodings that tell where they end

An encoding is *self-delimiting* when no encoding of a value goes on as the encoding of another: what
is encoded one after the other is read back without marks in between. Texts that end at a mark that they
do not hold, texts behind their length, and alternatives with different heads are of this kind.
-/

namespace ReputationKey.Base

universe u v w

variable {α : Type u} {β : Type v} {γ : Type w}

/-- No encoding of a value goes on as the encoding of another. -/
def SelfDelimiting (encode : α → List β) : Prop :=
  ∀ ⦃a b x y⦄, encode a ++ x = encode b ++ y → a = b ∧ x = y

/-- Lists that end at a mark that neither holds are told from what follows. -/
theorem append_mark_inj {mark : β} {x y s t : List β} (hx : mark ∉ x) (hy : mark ∉ y)
    (h : x ++ mark :: s = y ++ mark :: t) : x = y ∧ s = t := by
  induction x generalizing y with
  | nil =>
      cases y with
      | nil =>
          cases h
          exact ⟨rfl, rfl⟩
      | cons b y =>
          cases h
          exact absurd List.mem_cons_self hy
  | cons a x ih =>
      cases y with
      | nil =>
          cases h
          exact absurd List.mem_cons_self hx
      | cons b y =>
          rw [List.cons_append, List.cons_append, List.cons.injEq] at h
          obtain ⟨rfl, h⟩ := h
          obtain ⟨rfl, rfl⟩ := ih (fun mem ↦ hx (List.mem_cons_of_mem _ mem))
            (fun mem ↦ hy (List.mem_cons_of_mem _ mem)) h
          exact ⟨rfl, rfl⟩

namespace SelfDelimiting

variable {encode : α → List β} {encode' : γ → List β}

theorem injective (h : SelfDelimiting encode) : Function.Injective encode := by
  intro a b hab
  have hnil : encode a ++ [] = encode b ++ [] := by rw [hab]
  exact (h hnil).1

/-- The same head before every code. -/
theorem behind (head : List β) (h : SelfDelimiting encode) :
    SelfDelimiting fun a ↦ head ++ encode a := by
  intro a b x y hxy
  rw [List.append_assoc, List.append_assoc] at hxy
  exact h (List.append_cancel_left hxy)

/-- A code up to a mark that it does not hold. -/
theorem marked {mark : β} (hinj : Function.Injective encode) (hmark : ∀ a, mark ∉ encode a) :
    SelfDelimiting fun a ↦ encode a ++ [mark] := by
  intro a b x y hxy
  rw [List.append_assoc, List.append_assoc] at hxy
  obtain ⟨hab, hrest⟩ := append_mark_inj (hmark a) (hmark b) hxy
  exact ⟨hinj hab, hrest⟩

/-- A code that tells its length may be anything of that length. -/
theorem counted {count : ℕ → List β} (h : SelfDelimiting count) :
    SelfDelimiting fun text : List β ↦ count text.length ++ text := by
  intro a b x y hxy
  rw [List.append_assoc, List.append_assoc] at hxy
  obtain ⟨hlength, hrest⟩ := h hxy
  exact List.append_inj hrest hlength

/-- A word for nothing, or else a code that starts differently. -/
theorem optional {first other : β} {word : List β} (hne : first ≠ other)
    (h : SelfDelimiting encode) :
    SelfDelimiting fun a : Option α ↦ a.elim (first :: word) fun a ↦ other :: encode a := by
  intro a b x y hxy
  cases a with
  | none =>
      cases b with
      | none => exact ⟨rfl, List.append_cancel_left hxy⟩
      | some b => exact absurd (List.cons.inj hxy).1 hne
  | some a =>
      cases b with
      | none => exact absurd (List.cons.inj hxy).1.symm hne
      | some b =>
          obtain ⟨hab, hrest⟩ := h (List.cons.inj hxy).2
          exact ⟨congrArg some hab, hrest⟩

/-- Codes of values one after the other. -/
theorem flatMap_injective (h : SelfDelimiting encode) (hne : ∀ a, encode a ≠ []) :
    Function.Injective fun values : List α ↦ values.flatMap encode := by
  intro values others hvalues
  simp only at hvalues
  induction values generalizing others with
  | nil =>
      cases others with
      | nil => rfl
      | cons b others =>
          rw [List.flatMap_nil, List.flatMap_cons] at hvalues
          exact absurd (List.append_eq_nil_iff.1 hvalues.symm).1 (hne b)
  | cons a values ih =>
      cases others with
      | nil =>
          rw [List.flatMap_nil, List.flatMap_cons] at hvalues
          exact absurd (List.append_eq_nil_iff.1 hvalues).1 (hne a)
      | cons b others =>
          rw [List.flatMap_cons, List.flatMap_cons] at hvalues
          obtain ⟨hab, hrest⟩ := h hvalues
          rw [hab, ih hrest]

end SelfDelimiting

end ReputationKey.Base
