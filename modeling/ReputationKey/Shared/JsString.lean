import ReputationKey.Review.Rows

/-!
# Texts of Unicode scalar values

What the shared code asks of a stored text: what trimming leaves, and its length as JavaScript counts
it.
-/

namespace ReputationKey.Shared

open ReputationKey.Review (Text isJsWhitespaceCode)

/-- Whether `String.prototype.trim` leaves nothing of a text. -/
def isBlank (text : String) : Bool := text.toList.all fun c ↦ isJsWhitespaceCode c.toNat

/-- The length of a text in UTF-16 code units. -/
def utf16Length (text : String) : Nat :=
  (text.toList.map fun c ↦ if c.toNat < 65536 then 1 else 2).sum

/-- The UTF-16 code units of a text of ASCII characters. -/
def asciiText (text : String) : Text := text.toList.map fun c ↦ UInt16.ofNat c.toNat

/-- A text without the white space at its ends, as `String.prototype.trim` leaves it. -/
def trimmed (text : String) : String :=
  let isSpace (c : Char) := isJsWhitespaceCode c.toNat
  .ofList ((text.toList.dropWhile isSpace).reverse.dropWhile isSpace).reverse

/-- What trimming leaves, if anything, is not blank. -/
theorem isBlank_trimmed {text : String} (h : utf16Length (trimmed text) ≠ 0) :
    isBlank (trimmed text) = false := by
  rw [← Bool.not_eq_true]
  intro hblank
  apply h
  simp only [isBlank, trimmed, String.toList_ofList, List.all_reverse, List.all_eq_true] at hblank
  simp only [utf16Length, trimmed, String.toList_ofList]
  cases hrest : ((text.toList.dropWhile fun c ↦ isJsWhitespaceCode c.toNat).reverse.dropWhile
      fun c ↦ isJsWhitespaceCode c.toNat) with
  | nil => rfl
  | cons c rest =>
      have hnot := List.head?_dropWhile_not (fun c : Char ↦ isJsWhitespaceCode c.toNat)
        (text.toList.dropWhile fun c ↦ isJsWhitespaceCode c.toNat).reverse
      rw [hrest] at hnot hblank
      simp [hblank c List.mem_cons_self] at hnot

end ReputationKey.Shared
