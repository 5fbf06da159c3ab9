import SiteAtlas.Console.Wrap
import SiteAtlas.Decimal.Binary64

/-! # Tables on a terminal

A table is as wide as its texts unless that is too wide for the terminal; then its widest columns
are made narrower, all of them to the same width. Words that are too long for their column are cut.
-/

namespace SiteAtlas.Console

/-- A column of a table. -/
structure Column where
  /-- What stands above it. -/
  header : String
  /-- Where its texts stand. -/
  align : Alignment := .left

/-- A table. -/
structure Table where
  /-- What stands above the table. -/
  title : Option String := none
  /-- The columns. -/
  columns : List Column
  /-- The texts of each row, one for each column. -/
  rows : List (List String)

/-! ## Widths -/

/-- Take cells away from the marked widths in equal shares, of each at most `limit`. A share is
rounded, a half to the even neighbour, and later shares make up for it. -/
def takeAway (limit : Nat) : (excess shares : Nat) → List (Nat × Bool) → List Nat
  | _, _, [] => []
  | excess, shares, (width, marked) :: rest =>
    if marked then
      let share := min limit (Binary64.roundHalfEven excess shares)
      (width - share) :: takeAway limit (excess - share) (shares - 1) rest
    else width :: takeAway limit excess shares rest

/-- Make the widest columns narrower by some cells, but not narrower than the next one. -/
def narrowWidest (excess : Nat) (widths : List Nat) : List Nat :=
  let widest := widths.foldl max 0
  let next := (widths.filter (· != widest)).foldl max 0
  takeAway (min excess (widest - next)) excess (widths.count widest)
    (widths.map fun width => (width, width == widest))

/-- Make columns narrower until they fit; every step takes away at least one cell. -/
def narrow (room : Nat) : (steps : Nat) → List Nat → List Nat
  | 0, widths => widths
  | steps + 1, widths =>
    if total widths ≤ room then widths
    else narrow room steps (narrowWidest (total widths - room) widths)

/-- The width that texts ask for, with a blank on both sides. -/
def naturalWidth (texts : List String) : Nat := (texts.map longestLine).foldl max 0 + 2

/-- The texts of the columns, headers first. -/
def Table.texts (t : Table) : List (List String) :=
  t.columns.mapIdx fun i column => column.header :: t.rows.map fun row => row.getD i ""

/-- The widths of the columns in a room. -/
def Table.widths (t : Table) (room : Nat) : List Nat :=
  let room := room - (t.columns.length + 1)
  let natural := t.texts.map fun texts => max 1 (min room (naturalWidth texts))
  narrow room (total natural - room) natural

/-! ## Drawing -/

/-- A rule across a table. -/
def rule (first line crossing last : String) (widths : List Nat) : String :=
  first ++ crossing.intercalate (widths.map fun width => "".pushn line.front width) ++ last

/-- Lines of blanks. -/
def blankLines (width count : Nat) : List String :=
  List.replicate count (String.ofList (blanks width))

/-- The lines of a text in a column. -/
def cellLines (width : Nat) (column : Column) (text : String) : List String :=
  (wrap (width - 2) column.align .cut text).map fun line => " " ++ line ++ " "

/-- The lines of a row. In a header lower lines are filled first. -/
def Table.rowLines (t : Table) (widths : List Nat) (isHeader : Bool) (bar : String)
    (texts : List String) : List String :=
  let columns := (List.zip widths t.columns).zip texts |>.map fun ((width, column), text) =>
    (width, cellLines width column text)
  let height := (columns.map fun c => c.2.length).foldl max 1
  let filled := columns.map fun (width, lines) =>
    let missing := blankLines width (height - lines.length)
    if isHeader then missing ++ lines else lines ++ missing
  (List.range height).map fun i =>
    bar ++ bar.intercalate (filled.map fun lines => lines.getD i "") ++ bar

/-- The lines of a table in a room. -/
def Table.linesIn (t : Table) (room : Nat) : List String :=
  let widths := t.widths room
  let title := match t.title with
    | some title => wrap (total widths + widths.length + 1) .center .broken title
    | none => []
  title
    ++ [rule "┏" "━" "┳" "┓" widths]
    ++ t.rowLines widths true "┃" (t.columns.map (·.header))
    ++ [rule "┡" "━" "╇" "┩" widths]
    ++ t.rows.flatMap (t.rowLines widths false "│")
    ++ [rule "└" "─" "┴" "┘" widths]

/-- The lines of a table. -/
def Table.lines (t : Table) : List String := t.linesIn terminalWidth

end SiteAtlas.Console
