import SiteAtlas.Layout.Tree
import SiteAtlas.Imports.Analysis
import SiteAtlas.Imports.FileMap

/-! # Placing dependencies

The dependencies of a placed file stand in a column to its right, around its height. Files are
taken in the order of their ids, so that the result does not depend on the order in which they were
analysed.
-/

namespace SiteAtlas.TreeLayout

variable {α : Type} [Scalar α]

/-- What a dependency's box knows. -/
def dependencyData (d : Dependency) : Fields :=
  [("name", .text d.source), ("type", .text "dependency"), ("state", .text d.state.label),
    ("isLocal", .bool d.target.isLocal), ("exists", flagPayload d.target.exists?),
    ("resolvedPath", .text d.target.resolvedPath),
    ("packageName", .optional d.target.packageName), ("importType", .text d.form.label),
    ("specifiers", .list (d.specifiers.map fun (s, id) => s.payload id)),
    ("dependencyId", .text d.stableId), ("nodeId", .text d.nodeId)]

/-- Place the dependencies of a file one below the other, from `top` on. -/
def placeDependencies (s : TreeSpacing α) (fileId : String) (left : α) :
    (top : α) → List Dependency → Graph α → Graph α
  | _, [], g => g
  | top, d :: rest, g =>
    let id := NodeId.dependency fileId d.nodeId
    let middle := top + Scalar.half s.dependencySpacing
    let style := if d.target.isLocal then "dependency-local" else "dependency-external"
    let placed := addBox s g
      { id := id, kind := "dependency", x := left
        y := middle - Scalar.half s.dependencyHeight, width := s.dependencyWidth
        height := s.dependencyHeight, data := dependencyData d }
      (some (edge fileId id style d.source))
    placeDependencies s fileId left (top + s.dependencySpacing) rest placed

/-- Place the dependencies of one file, if it is among the placed boxes. -/
def placeResult (s : TreeSpacing α) (base : List (Node α)) (g : Graph α)
    (result : String × List Dependency) : Graph α :=
  match base.reverse.find? fun n => n.id == result.1 with
  | none => g
  | some file =>
    let count := ((result.2.length : Nat) : α)
    placeDependencies s result.1 (file.x + s.dependencyDistance)
      (file.y - Scalar.half (count * s.dependencySpacing)) result.2 g

/-- The boxes and arrows of the dependencies of files, given by the ids of their boxes. -/
def layoutDependencies (s : TreeSpacing α) (base : List (Node α))
    (results : List (String × List Dependency)) : Graph α :=
  let sorted := results.mergeSort fun a b => a.1 ≤ b.1
  let g := sorted.foldl (placeResult s base) { nodes := base, edges := [] }
  { nodes := g.nodes.drop base.length, edges := g.edges }

/-- The boxes and arrows of the dependencies that analyses found, those on files of the project
first. -/
def layoutResults (s : TreeSpacing α) (base : List (Node α)) (results : FileMap DependencyResult) :
    Graph α :=
  layoutDependencies s base (results.mapEntries fun _ result => result.all).entries

end SiteAtlas.TreeLayout
