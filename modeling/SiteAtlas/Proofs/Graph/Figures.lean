import Mathlib.Data.Nat.Digits.Defs
import SiteAtlas.Graph.Dot

/-! # The characters of numbers and colours

The attributes of a drawing that no text of the graph goes into are made of letters and digits of
ASCII, signs, points and number signs, so that none of the marks that texts are escaped for comes
from one.
-/

namespace SiteAtlas

/-- Whether a character may stand in a number or in a colour. -/
def isFigure (c : Char) : Bool := c.isAlphanum || c == '-' || c == '.' || c == '#'

variable {places n : Nat} {x : Float} {c : Char}

theorem isFigure_of_isDigit (digit : c.isDigit = true) : isFigure c = true := by
  simp [isFigure, Char.isAlphanum, digit]

namespace Decimal

theorem isDigit_of_mem_digits (member : c ∈ (digits n).toList) : c.isDigit = true := by
  rw [digits, String.toList_ofList] at member
  exact Nat.isDigit_of_mem_toDigits (by decide) (by decide) member

theorem isFigure_of_mem_positional (member : c ∈ (positional places n).toList) :
    isFigure c = true := by
  rw [positional] at member
  split at member
  · exact isFigure_of_isDigit (isDigit_of_mem_digits member)
  · simp only [String.toList_append, String.toList_ofList, List.mem_append] at member
    obtain (whole | point) | fraction := member
    · exact isFigure_of_isDigit (isDigit_of_mem_digits whole)
    · obtain rfl : c = '.' := by simpa using point
      decide
    · obtain padding | digit := List.mem_append.mp fraction
      · obtain rfl := List.eq_of_mem_replicate padding
        decide
      · exact isFigure_of_isDigit (Nat.isDigit_of_mem_toDigits (by decide) (by decide) digit)

/-- Also for an infinity and for a non-number, which are written as words. -/
theorem isFigure_of_mem_fixed (member : c ∈ (fixed places x).toList) : isFigure c = true := by
  have words : ∀ word ∈ ["nan", "-inf", "inf", "-", ""], word.toList.all isFigure = true := by
    decide
  have word {word : String} (known : word ∈ ["nan", "-inf", "inf", "-", ""])
      (member : c ∈ word.toList) : isFigure c = true :=
    List.all_eq_true.mp (words word known) c member
  rw [fixed] at member
  split at member
  · split at member
    · exact word (by decide) member
    · split at member
      · exact word (by decide) member
      · exact word (by decide) member
  · rw [String.toList_append] at member
    obtain sign | figures := List.mem_append.mp member
    · split at sign
      · exact word (by decide) sign
      · exact word (by decide) sign
    · exact isFigure_of_mem_positional figures

end Decimal

namespace Graph

theorem isFigure_of_mem_onePlace {n : Number} (member : c ∈ (onePlace n).toList) :
    isFigure c = true :=
  Decimal.isFigure_of_mem_fixed member

theorem isFigure_of_mem_nodeFill {kind : String} (member : c ∈ (nodeFill kind).toList) :
    isFigure c = true := by
  have figures : (nodeFill kind).toList.all isFigure = true := by
    unfold nodeFill
    split <;> decide
  exact List.all_eq_true.mp figures c member

theorem isFigure_of_mem_edgeColor {style : String} (member : c ∈ (edgeColor style).toList) :
    isFigure c = true := by
  have figures : (edgeColor style).toList.all isFigure = true := by
    unfold edgeColor
    split <;> decide
  exact List.all_eq_true.mp figures c member

end Graph

end SiteAtlas
