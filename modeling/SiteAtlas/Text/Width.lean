import SiteAtlas.Text.Class
import SiteAtlas.Text.WidthTable

/-! # Cells of a terminal

How many cells of a line a text takes. Most characters take one, marks none, and East Asian
characters two. A pictogram takes two when it is followed by the mark for its coloured form, and
what is joined to a character takes no room of its own.
-/

namespace SiteAtlas.Text

/-- The cells that a character takes on its own. -/
def charCells (c : Char) : Nat :=
  let n := c.toNat
  if 32 ≤ n && n < 127 then 1
  else if inRanges zeroWidthRanges n then 0
  else if inRanges wideRanges n then 2
  else 1

/-- Joins the next character to the one before. -/
def joiner : Char := Char.ofNat 0x200D

/-- Asks for the coloured form of the pictogram before. -/
def colourMark : Char := Char.ofNat 0xFE0F

/-- The cells of a text behind the visible character `last?`. -/
def cellsAfter (last? : Option Char) : List Char → Nat
  | [] => 0
  | c :: rest =>
    if c = joiner then
      match rest with
      | [] => 0
      | _ :: rest => cellsAfter last? rest
    else if c = colourMark then
      (if last?.any fun l => inRanges pictogramRanges l.toNat then 1 else 0) + cellsAfter none rest
    else
      let own := charCells c
      own + cellsAfter (if own = 0 then last? else some c) rest

/-- The cells of a text. -/
def cells (text : List Char) : Nat := cellsAfter none text

/-- The longest start of a text that fits into some cells, and how many of them it leaves. -/
def fit : (room : Nat) → List Char → List Char × Nat
  | room, [] => ([], room)
  | room, c :: rest =>
    if charCells c ≤ room then
      let (kept, left) := fit (room - charCells c) rest
      (c :: kept, left)
    else ([], room)

/-- A text cut or filled up with blanks to a number of cells. -/
def fitTo (room : Nat) (text : List Char) : List Char :=
  let (kept, left) := fit room text
  kept ++ List.replicate left ' '

end SiteAtlas.Text
