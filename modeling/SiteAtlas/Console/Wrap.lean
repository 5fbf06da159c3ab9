import SiteAtlas.Text.Basic
import SiteAtlas.Text.Width

/-! # Lines of a terminal

Breaking a text into lines of a width. Lines break before words; blanks stay behind the word that
they follow as far as there is room. A word that is longer than a line is broken or cut.
-/

namespace SiteAtlas.Console

open Text (cells charCells fitTo)

/-- What is done with a word that is longer than a line. -/
inductive LongWord where
  /-- It goes on in the next line. -/
  | broken
  /-- It ends with an ellipsis. -/
  | cut
  deriving DecidableEq

/-- Where a line stands in its room. -/
inductive Alignment where
  /-- At the left, the right end being open. -/
  | ragged
  | left
  | center
  | right
  deriving DecidableEq

/-! ## Words -/

/-- Where in a word a character stands. -/
inductive WordPart where
  | before
  | within
  | behind

/-- The words of a text, each with the blanks behind it and the first one also with those before
it. `word` is what was read of a word, last first. -/
def wordsFrom (word : List Char) (part : WordPart) : List Char → List (List Char)
  | [] =>
    match part with
    | .before => []
    | _ => [word.reverse]
  | c :: rest =>
    if Text.isBlank c then
      match part with
      | .before => wordsFrom (c :: word) .before rest
      | _ => wordsFrom (c :: word) .behind rest
    else
      match part with
      | .behind => word.reverse :: wordsFrom [c] .within rest
      | _ => wordsFrom (c :: word) .within rest

/-- The words of a text. -/
def words (text : List Char) : List (List Char) := wordsFrom [] .before text

/-- A word in pieces that fit into a line; `piece`, last first, is what was read of one. -/
def pieces (width : Nat) (piece : List Char) (used : Nat) : List Char → List (List Char)
  | [] => [piece.reverse]
  | c :: rest =>
    if used + charCells c ≤ width then pieces width (c :: piece) (used + charCells c) rest
    else piece.reverse :: pieces width [c] (charCells c) rest

/-! ## Lines -/

/-- Lines that are being filled. -/
structure Filling where
  /-- The finished lines, last first. -/
  done : List (List Char) := []
  /-- The line that is being filled. -/
  line : List Char := []
  /-- How many cells of it are used. -/
  used : Nat := 0

namespace Filling

/-- All lines. -/
def lines (f : Filling) : List (List Char) := (f.line :: f.done).reverse

/-- Put a piece of text on a line of its own. -/
def startLine (f : Filling) (piece : List Char) : Filling :=
  let done := if f.done.isEmpty && f.line.isEmpty then [] else f.line :: f.done
  { done := done, line := piece, used := cells piece }

/-- Put the next word. -/
def add (long : LongWord) (width : Nat) (f : Filling) (word : List Char) : Filling :=
  let visible := cells (Text.trimRight word)
  if f.used + visible ≤ width then
    { f with line := f.line ++ word, used := f.used + cells word }
  else if long = .broken ∧ width < visible then (pieces width [] 0 word).foldl startLine f
  else f.startLine word

end Filling

/-- A text broken into lines. -/
def breakLines (long : LongWord) (width : Nat) (text : List Char) : List (List Char) :=
  match words text with
  | [] => [text]
  | words => (words.foldl (Filling.add long width) {}).lines

/-- A line without those of its last blanks that do not fit. -/
def dropExcess (width : Nat) (line : List Char) : List Char :=
  let blanks := (line.reverse.takeWhile Text.isBlank).length
  line.take (line.length - min blanks (line.length - width))

/-- A line that fits. -/
def crop (long : LongWord) (width : Nat) (line : List Char) : List Char :=
  if cells line ≤ width then line
  else
    match long with
    | .broken => fitTo width line
    | .cut => fitTo (width - 1) line ++ ['…']

/-- Some blanks. -/
def blanks (count : Nat) : List Char := List.replicate count ' '

/-- A line in its room. -/
def place (align : Alignment) (long : LongWord) (width : Nat) (line : List Char) : List Char :=
  match align with
  | .ragged => crop long width line
  | .left =>
    let line := crop long width line
    line ++ blanks (width - cells line)
  | .center =>
    let line := crop long width (Text.trimRight line)
    let left := (width - cells line) / 2
    blanks left ++ line ++ blanks (width - cells line - left)
  | .right =>
    let line := crop long width (Text.trimRight line)
    blanks (width - cells line) ++ line

/-! ## Texts -/

/-- How far tabs are apart. -/
def tabStop : Nat := 8

/-- A line with blanks for its tabs; `column` cells stand before it. -/
def expandTabs (column : Nat) : List Char → List Char
  | [] => []
  | c :: rest =>
    if c = '\t' then
      let width := tabStop - column % tabStop
      blanks width ++ expandTabs (column + width) rest
    else c :: expandTabs (column + charCells c) rest

/-- Whether a character moves the cursor back or up, or rings. -/
def isControl (c : Char) : Bool := [7, 8, 11, 12, 13].contains c.toNat

/-- The lines of a text that stand for themselves, without control characters. -/
def sourceLines (text : String) : List (List Char) :=
  ((text.toList.filter fun c => !isControl c).splitOn '\n').map (expandTabs 0)

/-- The lines of a text in a room of some cells; there are none where there is no room. -/
def wrap (width : Nat) (align : Alignment) (long : LongWord) (text : String) : List String :=
  if width = 0 then []
  else
    ((sourceLines text).flatMap fun line =>
      (breakLines long width line).map fun l => place align long width (dropExcess width l)).map
        String.ofList

/-- The cells that the longest line of a text takes. -/
def longestLine (text : String) : Nat :=
  ((Text.lines (text.toList.filter fun c => !isControl c)).map cells).foldl max 0

/-- The width of a terminal. -/
def terminalWidth : Nat := 80

/-- The lines of a message. -/
def message (text : String) : List String := wrap terminalWidth .ragged .broken text

end SiteAtlas.Console
