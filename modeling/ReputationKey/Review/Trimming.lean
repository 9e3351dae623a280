import Mathlib.Data.List.Induction
import Mathlib.Data.List.TakeWhile
import ReputationKey.Review.Rows

/-!
# Trimmed texts

Laws of `String.prototype.trim`: what it takes off, when nothing is left, and what it does not see.
-/

namespace ReputationKey.Review

variable {text : Text} {unit : UInt16}

/-- Nothing is left of white space only. -/
theorem trim_eq_nil_iff : trim text = [] ↔ ∀ unit ∈ text, isJsWhitespace unit = true := by
  rw [trim, List.reverse_eq_nil_iff, List.dropWhile_eq_nil_iff]
  simp only [List.mem_reverse]
  constructor
  · intro h
    by_contra hvisible
    push Not at hvisible
    obtain ⟨unit, hunit, hspace⟩ := hvisible
    have hne : text.dropWhile isJsWhitespace ≠ [] := by
      rw [Ne, List.dropWhile_eq_nil_iff]
      exact fun hall ↦ hspace (hall unit hunit)
    have hhead := List.head_dropWhile_not isJsWhitespace hne
    rw [h _ (List.head_mem hne)] at hhead
    cases hhead
  · exact fun h unit hunit ↦ h unit ((List.dropWhile_sublist _).subset hunit)

/-- Trimming takes white space off both ends, up to characters that are none. -/
theorem trim_split (raw : Text) : ∃ front back, raw = front ++ trim raw ++ back ∧
    (raw.dropWhile isJsWhitespace).length + front.length = raw.length ∧
    (∀ unit ∈ front, isJsWhitespace unit = true) ∧
    (∀ unit ∈ back, isJsWhitespace unit = true) ∧
    (∀ unit ∈ (trim raw).head?, isJsWhitespace unit = false) ∧
    ∀ unit ∈ (trim raw).getLast?, isJsWhitespace unit = false := by
  have hfront : raw.takeWhile isJsWhitespace ++ raw.dropWhile isJsWhitespace = raw :=
    List.takeWhile_append_dropWhile
  have hback : trim raw ++
      ((raw.dropWhile isJsWhitespace).reverse.takeWhile isJsWhitespace).reverse =
        raw.dropWhile isJsWhitespace := by
    rw [trim, ← List.reverse_append, List.takeWhile_append_dropWhile, List.reverse_reverse]
  refine ⟨raw.takeWhile isJsWhitespace,
    ((raw.dropWhile isJsWhitespace).reverse.takeWhile isJsWhitespace).reverse, ?_, ?_, ?_, ?_, ?_, ?_⟩
  · rw [List.append_assoc, hback, hfront]
  · have hlength := congrArg List.length hfront
    rw [List.length_append] at hlength
    omega
  · exact fun unit hunit ↦ List.mem_takeWhile_imp hunit
  · intro unit hunit
    exact List.mem_takeWhile_imp (List.mem_reverse.1 hunit)
  · intro unit hunit
    have hhead : (raw.dropWhile isJsWhitespace).head? = some unit := by
      rw [← hback, List.head?_append, hunit]
      rfl
    have hnot := List.head?_dropWhile_not isJsWhitespace raw
    rw [hhead] at hnot
    exact hnot
  · intro unit hunit
    rw [trim, List.getLast?_reverse] at hunit
    have hnot := List.head?_dropWhile_not isJsWhitespace (raw.dropWhile isJsWhitespace).reverse
    rw [hunit] at hnot
    exact hnot

/-- White space before a text is not seen. -/
theorem trim_cons_of_space (h : isJsWhitespace unit = true) (text : Text) :
    trim (unit :: text) = trim text := by
  rw [trim, trim, List.dropWhile_cons_of_pos h]

/-- White space behind a text is not seen. -/
theorem trim_append_space (h : isJsWhitespace unit = true) (text : Text) :
    trim (text ++ [unit]) = trim text := by
  have hback (front : Text) : (front ++ [unit]).reverse.dropWhile isJsWhitespace =
      front.reverse.dropWhile isJsWhitespace := by
    rw [List.reverse_append, List.reverse_singleton, List.singleton_append,
      List.dropWhile_cons_of_pos h]
  rw [trim, trim, List.dropWhile_append]
  split_ifs with hempty
  · rw [List.isEmpty_iff] at hempty
    rw [hempty, List.dropWhile_cons_of_pos h]
    rfl
  · rw [hback]

/-- A trimmed text is trimmed. -/
theorem trim_trim (text : Text) : trim (trim text) = trim text := by
  obtain ⟨front, back, htext, -, hfront, hback, -, -⟩ := trim_split text
  have hbehind (text : Text) : trim (text ++ back) = trim text := by
    clear htext
    induction back using List.reverseRecOn generalizing text with
    | nil => rw [List.append_nil]
    | append_singleton back unit ih =>
        rw [← List.append_assoc, trim_append_space (hback unit (by simp)),
          ih (fun u mem ↦ hback u (by simp [mem]))]
  have hbefore (text : Text) : trim (front ++ text) = trim text := by
    clear htext
    induction front with
    | nil => rfl
    | cons unit front ih =>
        rw [List.cons_append, trim_cons_of_space (hfront unit List.mem_cons_self),
          ih fun u mem ↦ hfront u (List.mem_cons_of_mem _ mem)]
  conv_rhs => rw [htext, hbehind, hbefore]

end ReputationKey.Review
