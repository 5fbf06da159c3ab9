import SiteAtlas.Value.Basic

/-! # Placed graphs

Boxes with a label and data, and the arrows between them. Coordinates are of any type, so that a
layout can also be followed exactly.
-/

namespace SiteAtlas

/-- A box of a graph. -/
structure Node (α : Type) where
  /-- The name by which edges refer to it. -/
  id : String
  /-- What it stands for, such as `folder` or `model`. -/
  kind : String
  /-- Its left edge. -/
  x : α
  /-- Its top edge. -/
  y : α
  /-- Its width. -/
  width : α
  /-- Its height. -/
  height : α
  /-- Everything else that is known about it. -/
  data : Fields := []

/-- An arrow of a graph. -/
structure Edge where
  /-- Its own name. -/
  id : String
  /-- The box it starts from. -/
  source : String
  /-- The box it leads to. -/
  target : String
  /-- How it is drawn. -/
  style : String := "structural"
  /-- What is written on it. -/
  label : String := ""
  /-- Everything else that is known about it. -/
  data : Fields := []

/-- A graph, with statistics where it has any. -/
structure Graph (α : Type) where
  /-- The boxes, in order. -/
  nodes : List (Node α) := []
  /-- The arrows, in order. -/
  edges : List Edge := []
  /-- Statistics about what the graph shows. -/
  stats : Option Fields := none

/-- The document of a box. -/
def Node.payload (n : Node Number) : Value :=
  .table [("id", .text n.id), ("kind", .text n.kind),
    ("position", .table [("x", .number n.x), ("y", .number n.y)]),
    ("width", .number n.width), ("height", .number n.height), ("data", .table n.data)]

/-- The document of an arrow. -/
def Edge.payload (e : Edge) : Value :=
  .table [("id", .text e.id), ("source", .text e.source), ("target", .text e.target),
    ("style", .text e.style), ("label", .text e.label), ("data", .table e.data)]

/-- The document of a graph. -/
def Graph.payload (g : Graph Number) : Value :=
  .table ([("nodes", .list (g.nodes.map Node.payload)), ("edges", .list (g.edges.map Edge.payload))]
    ++ match g.stats with
      | some stats => [("stats", .table stats)]
      | none => [])

end SiteAtlas
