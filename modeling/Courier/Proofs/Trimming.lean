import Courier.Text.Blank
import Mathlib.Data.List.DropRight

/-!
Trimming. Blanks around a text do not show once it is trimmed (`Text.trim_between`), and a text without any is trimmed
already (`Text.trim_of_solid`).
-/
namespace Courier.Text

/-- A text without blanks at its ends is the same with blanks put there. -/
theorem trimBlanks_between {left right : List Char} (leading : left.all isBlank = true)
    (trailing : right.all isBlank = true) (text : List Char) :
    trimBlanks (left ++ text ++ right) = trimBlanks text := by
  have after : ((text ++ right).dropWhile isBlank).rdropWhile isBlank =
      (text.dropWhile isBlank).rdropWhile isBlank := by
    have ends : (right.reverse).all isBlank = true := by rw [List.all_reverse]; exact trailing
    rw [List.dropWhile_append]
    split
    · next none =>
      rw [List.isEmpty_iff.mp none, List.dropWhile_eq_nil_iff.mpr (List.all_eq_true.mp trailing)]
    · rw [List.rdropWhile, List.reverse_append,
        List.dropWhile_append_of_pos (List.all_eq_true.mp ends)]
      rfl
  calc trimBlanks (left ++ text ++ right)
      = ((text ++ right).dropWhile isBlank).rdropWhile isBlank := by
        rw [List.append_assoc, trimBlanks, List.dropWhile_append_of_pos (List.all_eq_true.mp leading)]
        rfl
    _ = trimBlanks text := after

/-- Is the text made of blanks? -/
def isAllBlank (text : String) : Bool := text.toList.all isBlank

theorem trim_between {before after : String} (leading : isAllBlank before = true) (trailing : isAllBlank after = true)
    (text : String) : trim (before ++ text ++ after) = trim text := by
  rw [trim, trim, String.toList_append, String.toList_append, trimBlanks_between leading trailing]

/-- Visible ASCII characters are no blanks. -/
theorem not_isBlank_of_visible {c : Char} (low : 0x21 ≤ c.toNat) (high : c.toNat ≤ 0x7e) : isBlank c = false := by
  simp [isBlank, blankRanges]
  omega

theorem trimBlanks_of_solid {text : List Char} (solid : ∀ c ∈ text, isBlank c = false) : trimBlanks text = text := by
  have stays : ∀ text : List Char, (∀ c ∈ text, isBlank c = false) → text.dropWhile isBlank = text := by
    intro text solid
    cases text with
    | nil => rfl
    | cons c rest => rw [List.dropWhile_cons_of_neg (by simp [solid c List.mem_cons_self])]
  rw [trimBlanks, stays text solid, stays text.reverse fun c among => solid c (List.mem_reverse.mp among),
    List.reverse_reverse]

theorem trim_of_solid {text : String} (solid : ∀ c ∈ text.toList, isBlank c = false) : trim text = text := by
  rw [trim, trimBlanks_of_solid solid, String.ofList_toList]

end Courier.Text
