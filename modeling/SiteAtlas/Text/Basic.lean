import SiteAtlas.Text.Class

/-! # Pieces of text

Cutting, trimming and searching lists of characters, and the line breaks of Unicode.
-/

namespace SiteAtlas.Text

/-- A text without the blanks in front. -/
def trimLeft (text : List Char) : List Char := text.dropWhile isBlank

/-- A text without the blanks at its end. -/
def trimRight (text : List Char) : List Char := (text.reverse.dropWhile isBlank).reverse

/-- A text without the blanks at both ends. -/
def trim (text : List Char) : List Char := trimRight (trimLeft text)

/-- What follows `start` in a text that begins with it. -/
def after? : (start text : List Char) → Option (List Char)
  | [], text => some text
  | _ :: _, [] => none
  | s :: start, c :: text => if s = c then after? start text else none

/-- What follows the first place where `read` succeeds, and what it read there. -/
def findMap? {β : Type} (read : List Char → Option β) : List Char → Option β
  | [] => read []
  | c :: rest =>
    match read (c :: rest) with
    | some found => some found
    | none => findMap? read rest

/-- Whether `piece` stands somewhere in a text. -/
def contains (piece : List Char) (text : List Char) : Bool :=
  match text with
  | [] => piece.isEmpty
  | c :: rest => (after? piece (c :: rest)).isSome || contains piece rest

/-- Whether a text ends with `piece`. -/
def endsWith (piece text : List Char) : Bool := (after? piece.reverse text.reverse).isSome

/-- A text without the given character at both ends. -/
def stripChar (mark : Char) (text : List Char) : List Char :=
  ((text.dropWhile (· == mark)).reverse.dropWhile (· == mark)).reverse

/-- Whether a character ends a line. A carriage return followed by a line feed ends one line. -/
def isLineBreak (c : Char) : Bool :=
  let n := c.toNat
  (10 ≤ n && n ≤ 13) || (28 ≤ n && n ≤ 30) || n = 0x85 || n = 0x2028 || n = 0x2029

/-- The lines of a text, of which `line` was already read, last character first. -/
def linesFrom (line : List Char) : List Char → List (List Char)
  | [] => if line.isEmpty then [] else [line.reverse]
  | '\r' :: '\n' :: rest => line.reverse :: linesFrom [] rest
  | c :: rest =>
    if isLineBreak c then line.reverse :: linesFrom [] rest else linesFrom (c :: line) rest

/-- The lines of a text, without their ends; a break at the very end opens no further line. -/
def lines (text : List Char) : List (List Char) := linesFrom [] text

end SiteAtlas.Text
