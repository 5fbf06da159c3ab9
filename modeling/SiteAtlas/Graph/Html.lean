import SiteAtlas.Graph.Dot
import SiteAtlas.Json.Printer

/-! # Graphs as pages

A standalone page that draws a graph at its places and carries its document. Labels and the title
are escaped as text and as attribute values, the document as text only.
-/

namespace SiteAtlas.Graph

/-- A character as HTML text, or as an attribute value if quotes are escaped too. -/
def escapeHtmlChar (quotes : Bool) (c : Char) : List Char :=
  if c = '&' then "&amp;".toList
  else if c = '<' then "&lt;".toList
  else if c = '>' then "&gt;".toList
  else if quotes && c == '"' then "&quot;".toList
  else if quotes && c.toNat == 39 then "&#x27;".toList
  else [c]

/-- A text as HTML text, or as an attribute value if quotes are escaped too. -/
def escapeHtml (quotes : Bool) (text : String) : String :=
  String.ofList (text.toList.flatMap (escapeHtmlChar quotes))

/-- The drawing of an arrow between two boxes. -/
def svgLine (e : Edge) (source target : Node Number) : String :=
  "<line x1=\"" ++ onePlace (source.x + source.width) ++ "\" y1=\""
    ++ onePlace (source.y + Scalar.half source.height) ++ "\" x2=\"" ++ onePlace target.x
    ++ "\" y2=\"" ++ onePlace (target.y + Scalar.half target.height) ++ "\" stroke=\""
    ++ edgeColor e.style ++ "\" stroke-width=\"1.5\"><title>" ++ escapeHtml true e.label
    ++ "</title></line>"

/-- The drawing of a box. -/
def svgBox (n : Node Number) : String :=
  "<g class=\"" ++ n.kind ++ "\"><rect x=\"" ++ onePlace n.x ++ "\" y=\"" ++ onePlace n.y
    ++ "\" width=\"" ++ onePlace n.width ++ "\" height=\"" ++ onePlace n.height
    ++ "\" rx=\"6\" fill=\"" ++ nodeFill n.kind ++ "\" stroke=\"#374151\"/><text x=\""
    ++ onePlace (n.x + 8) ++ "\" y=\"" ++ onePlace (n.y + 20) ++ "\">" ++ escapeHtml true n.label
    ++ "</text></g>"

/-- The last of the boxes with an id. -/
def nodeById? (nodes : List (Node Number)) (id : String) : Option (Node Number) :=
  nodes.reverse.find? fun n => n.id == id

/-- The drawings of all arrows between boxes that are there, and of all boxes. -/
def svgShapes (g : Graph Number) : List String :=
  g.edges.filterMap (fun e =>
    match nodeById? g.nodes e.source, nodeById? g.nodes e.target with
    | some source, some target => some (svgLine e source target)
    | _, _ => none) ++ g.nodes.map svgBox

/-- The smallest of some values, the first of equal ones. -/
def least (first : Number) (rest : List Number) : Number := rest.foldl Scalar.smaller first

/-- The largest of some values, the first of equal ones. -/
def greatest (first : Number) (rest : List Number) : Number := rest.foldl Scalar.larger first

/-- The corners of the drawing: left, top, right and bottom, forty away from the outermost box. -/
def frame (nodes : List (Node Number)) : Number × Number × Number × Number :=
  match nodes with
  | [] => (0, 0, 400, 200)
  | n :: rest =>
    (least n.x (rest.map (·.x)) - 40, least n.y (rest.map (·.y)) - 40,
      greatest (n.x + n.width) (rest.map fun n => n.x + n.width) + 40,
      greatest (n.y + n.height) (rest.map fun n => n.y + n.height) + 40)

/-- The page of the part of a graph around a focus. -/
def toHtml (g : Graph Number) (title focus : String) : String :=
  let part := g.focused focus
  let (left, top, right, bottom) := frame part.nodes
  let heading := escapeHtml true title
  "\n".intercalate [
    "<!doctype html>",
    "<html>",
    "<head>",
    "  <meta charset=\"utf-8\" />",
    "  <title>" ++ heading ++ "</title>",
    "  <style>",
    "    body \x7b font-family: ui-monospace, SFMono-Regular, Menlo, monospace; margin: 20px; \x7d",
    "    svg \x7b border: 1px solid #ddd; border-radius: 8px; \x7d",
    "    text \x7b font-size: 13px; \x7d",
    "  </style>",
    "</head>",
    "<body>",
    "  <h1>" ++ heading ++ "</h1>",
    "  <svg xmlns=\"http://www.w3.org/2000/svg\" width=\"" ++ Decimal.fixed 0 (right - left).toFloat
      ++ "\" height=\"" ++ Decimal.fixed 0 (bottom - top).toFloat ++ "\"",
    "       viewBox=\"" ++ onePlace left ++ " " ++ onePlace top ++ " " ++ onePlace (right - left)
      ++ " " ++ onePlace (bottom - top) ++ "\">",
    "    " ++ "".intercalate (svgShapes part),
    "  </svg>",
    "  <script id=\"graph-data\" type=\"application/json\">"
      ++ escapeHtml false (Json.render part.payload) ++ "</script>",
    "</body>",
    "</html>",
    ""]

end SiteAtlas.Graph
