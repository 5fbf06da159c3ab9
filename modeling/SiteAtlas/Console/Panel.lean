import SiteAtlas.Console.Wrap

/-! # Framed texts

A text in a frame with a title in its upper line. The frame is as wide as the text or the title
asks for.
-/

namespace SiteAtlas.Console

/-- A text in a frame. -/
structure Panel where
  /-- What stands in the upper line of the frame. -/
  title : String
  /-- The text. -/
  text : String

/-- Some strokes of a frame. -/
def strokes (count : Nat) : String := "".pushn '─' count

/-- The title with blanks around it, on one line. -/
def Panel.heading (p : Panel) : List Char :=
  let line := p.title.toList.map fun c => if c = '\n' then ' ' else c
  ' ' :: expandTabs 0 line ++ [' ']

/-- The lines of a panel in a room. -/
def Panel.linesIn (p : Panel) (room : Nat) : List String :=
  let heading := p.heading
  let width := min (room - 2) (max (longestLine p.text + 2) (Text.cells heading + 2))
  let heading := crop .broken (width - 2) heading
  let excess := width - 2 - Text.cells heading
  let left := excess / 2
  ["╭─" ++ strokes left ++ String.ofList heading ++ strokes (excess - left) ++ "─╮"]
    ++ (wrap (width - 2) .left .broken p.text).map (fun line => "│ " ++ line ++ " │")
    ++ ["╰" ++ strokes width ++ "╯"]

/-- The lines of a panel. -/
def Panel.lines (p : Panel) : List String := p.linesIn terminalWidth

end SiteAtlas.Console
