import SiteAtlas.Layout.Dependencies
import SiteAtlas.Layout.Tree
import SiteAtlas.Project.Analysis

/-! # The layout of a project

The tree layout of a walked project, and next to it the dependencies of the scripts that it shows.
-/

namespace SiteAtlas

/-- The file that a box stands for, if it stands for a script. -/
def Node.script? {α : Type} (n : Node α) : Option Path :=
  if n.kind = "file" then
    match n.data.get? "filePath" with
    | some (.text path) =>
      let path := Path.ofString path
      if path.isScript then some path else none
    | _ => none
  else none

/-- The dependencies of the scripts among some boxes, by the ids of the boxes. Where boxes share an
id, the last one counts. -/
def Resolver.shownDependencies {α : Type} (r : Resolver) (nodes : List (Node α)) :
    Except PathError (FileMap DependencyResult) :=
  nodes.foldlM (fun shown n =>
    match n.script? with
    | some path => (r.analyze path).map (shown.put n.id)
    | none => .ok shown) .empty

/-- A placed graph with the dependencies of its scripts. -/
def Resolver.addDependencies {α : Type} [Scalar α] (r : Resolver) (s : TreeSpacing α)
    (g : Graph α) : Except PathError (Graph α) :=
  (r.shownDependencies g.nodes).map fun shown =>
    let extra := TreeLayout.layoutResults s g.nodes shown
    { nodes := g.nodes ++ extra.nodes, edges := g.edges ++ extra.edges }

/-- The layout of a project, the given folders being expanded. -/
def Project.layout {α : Type} [Scalar α] (p : Project) (s : TreeSpacing α)
    (expanded : StructureNode → List String) (dependencies : Bool) : Except PathError (Graph α) :=
  let tree := p.tree
  let g := TreeLayout.layout s (expanded tree) tree
  if dependencies then p.resolver.addDependencies s g else .ok g

end SiteAtlas
