import SiteAtlas.Console.Wrap

/-! # Outlines

Labels inside labels, drawn with lines that lead from each label to those inside it. Each level
takes four cells of the room.
-/

namespace SiteAtlas.Console

/-- A label and what is inside it. -/
inductive Outline where
  | item (label : String) (inner : List Outline)

namespace Outline

/-- The lines of a label: the first behind one mark, all others behind another. -/
def markLines (first others : String) : List String → List String
  | [] => []
  | line :: rest => (first ++ line) :: rest.map fun line => others ++ line

mutual

/-- The lines of an item behind what leads to its level; `isLast` says that none follows on it. -/
def linesAt (room : Nat) (lead : String) (isLast : Bool) : Outline → List String
  | .item label inner =>
    let next := lead ++ if isLast then "    " else "│   "
    markLines (lead ++ if isLast then "└── " else "├── ") next
        (wrap (room - 4) .ragged .broken label)
      ++ innerLines (room - 4) next inner

/-- The lines of all items of a level. -/
def innerLines (room : Nat) (lead : String) : List Outline → List String
  | [] => []
  | first :: rest => linesAt room lead rest.isEmpty first ++ innerLines room lead rest

end

/-- The lines of an outline in a room. -/
def linesIn (room : Nat) : Outline → List String
  | .item label inner => wrap room .ragged .broken label ++ innerLines room "" inner

/-- The lines of an outline. -/
def lines (o : Outline) : List String := o.linesIn terminalWidth

end Outline

end SiteAtlas.Console
