import SiteAtlas.Graph.Basic
import SiteAtlas.Value.Literal
import SiteAtlas.Text.Basic

/-! # Looking at a part of a graph

A focus is a text. The boxes whose id or label holds it stay, with all arrows at them and the boxes
at the other ends; a focus that no box holds narrows nothing.
-/

namespace SiteAtlas

/-- What is written on a box: its label, its name, or else its id. -/
def Node.label {α : Type} (n : Node α) : String :=
  let given (key : String) : Option Value := (n.data.get? key).filter Value.isGiven
  match given "label", given "name" with
  | some label, _ => label.display
  | none, some name => name.display
  | none, none => n.id

/-- Whether a focus holds for a box. -/
def Node.matchesFocus {α : Type} (focus : String) (n : Node α) : Bool :=
  Text.contains focus.toList n.id.toList || Text.contains focus.toList n.label.toList

namespace Graph

/-- The ids of the boxes that a focus holds for. -/
def focusIds {α : Type} (focus : String) (g : Graph α) : List String :=
  (g.nodes.filter (Node.matchesFocus focus)).map (·.id)

/-- Whether an arrow touches one of the boxes with these ids. -/
def touches (ids : List String) (e : Edge) : Bool := ids.contains e.source || ids.contains e.target

/-- The part of a graph around a focus. -/
def focused {α : Type} (focus : String) (g : Graph α) : Graph α :=
  let ids := if focus.isEmpty then [] else g.focusIds focus
  if ids.isEmpty then g
  else
    let edges := g.edges.filter (touches ids)
    let keep := ids ++ edges.flatMap fun e => [e.source, e.target]
    { g with nodes := g.nodes.filter fun n => keep.contains n.id, edges := edges }

end Graph

end SiteAtlas
