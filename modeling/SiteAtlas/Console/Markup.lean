/-! # Marks of styles

A text may hold names of styles in square brackets. On a terminal without styles they are not
shown. A name starts with a small letter, `#`, `/` or `@`; brackets around anything else stand for
themselves, and so do brackets behind an odd number of backslashes.
-/

namespace SiteAtlas.Console

/-- Whether the name of a style can start with a character. -/
def startsStyle (c : Char) : Bool := c.isLower || c = '#' || c = '/' || c = '@'

/-- What stands before the closing bracket of a style, the opening one having been read, and what
follows it. -/
def style? (text : List Char) : Option (List Char × List Char) :=
  let name := text.takeWhile fun c => c ≠ ']' && c ≠ '['
  match name, text.dropWhile fun c => c ≠ ']' && c ≠ '[' with
  | first :: _, ']' :: rest => if startsStyle first then some (name, rest) else none
  | _, _ => none

/-- What follows the closing bracket of a style is shorter than what follows the opening one. -/
theorem length_lt_of_style?_eq_some {text name rest : List Char}
    (found : style? text = some (name, rest)) : rest.length < text.length := by
  unfold style? at found
  simp only at found
  split at found
  · rename_i after
    split at found
    · cases found
      have bound := (List.dropWhile_sublist (l := text) fun c => c ≠ ']' && c ≠ '[').length_le
      rw [after] at bound
      exact bound
    · cases found
  · cases found

/-- A text without the styles in it; `slashes` backslashes stand before it. -/
def withoutStyles (slashes : Nat) (text : List Char) : List Char :=
  match text with
  | [] => List.replicate slashes '\\'
  | '\\' :: rest => withoutStyles (slashes + 1) rest
  | '[' :: rest =>
    match _found : style? rest with
    | some (name, tail) =>
      List.replicate (slashes / 2) '\\'
        ++ (if slashes % 2 = 1 then '[' :: name ++ [']'] else []) ++ withoutStyles 0 tail
    | none => List.replicate (slashes - 1) '\\' ++ '[' :: withoutStyles 0 rest
  | c :: rest => List.replicate slashes '\\' ++ c :: withoutStyles 0 rest
termination_by text.length
decreasing_by
  all_goals simp only [List.length_cons]
  · omega
  · have := length_lt_of_style?_eq_some _found
    omega
  · omega
  · omega

/-- A text as it is shown without styles. -/
def plainText (text : String) : String := String.ofList (withoutStyles 0 text.toList)

end SiteAtlas.Console
