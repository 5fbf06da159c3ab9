import SiteAtlas.Graph.Focus
import SiteAtlas.Decimal.Fixed

/-! # Graphs as DOT text

Every id and label stands in quotes with backslashes and quotes escaped, so that none can end its
text early. Boxes are pinned at their centres, in points, with the vertical axis upward.
-/

namespace SiteAtlas.Graph

/-- The colour of an arrow of a style. -/
def edgeColor (style : String) : String :=
  match style with
  | "app-router" => "#2563eb"
  | "structural" => "#9ca3af"
  | "dependency-local" => "#16a34a"
  | "dependency-external" => "#ea580c"
  | "relation" => "#7c3aed"
  | "enum-reference" => "#db2777"
  | _ => "#6b7280"

/-- The colour of a box of a kind. -/
def nodeFill (kind : String) : String :=
  match kind with
  | "folder" => "#eff6ff"
  | "file" => "#f9fafb"
  | "dependency" => "#f0fdf4"
  | "model" => "#f5f3ff"
  | "enum" => "#fdf2f8"
  | _ => "#ffffff"

/-- A character inside a quoted text. -/
def escapeDotChar (c : Char) : List Char :=
  if c = '\\' then ['\\', '\\'] else if c = '"' then ['\\', '"'] else [c]

/-- A text as it stands inside quotes. -/
def escapeDot (text : String) : String := String.ofList (text.toList.flatMap escapeDotChar)

/-- A coordinate with one place. -/
def onePlace (n : Number) : String := Decimal.fixed 1 n.toFloat

/-- The line of a box. -/
def dotNode (n : Node Number) : String :=
  let x := n.x + Scalar.half n.width
  let y := -(n.y + Scalar.half n.height)
  "  \"" ++ escapeDot n.id ++ "\" [label=\"" ++ escapeDot n.kind ++ "\\n" ++ escapeDot n.label
    ++ "\", pos=\"" ++ onePlace x ++ "," ++ onePlace y ++ "!\", fillcolor=\"" ++ nodeFill n.kind
    ++ "\"];"

/-- The line of an arrow. -/
def dotEdge (e : Edge) : String :=
  "  \"" ++ escapeDot e.source ++ "\" -> \"" ++ escapeDot e.target ++ "\" [label=\""
    ++ escapeDot e.label ++ "\", color=\"" ++ edgeColor e.style ++ "\", class=\"" ++ e.style
    ++ "\"];"

/-- The DOT text of the part of a graph around a focus. -/
def toDot (g : Graph Number) (focus : String) : String :=
  let part := g.focused focus
  "\n".intercalate (["digraph NextGraph \x7b", "  rankdir=LR;",
      "  node [shape=box, style=filled, fontname=Helvetica];"]
    ++ part.nodes.map dotNode ++ part.edges.map dotEdge ++ ["\x7d"])

end SiteAtlas.Graph
