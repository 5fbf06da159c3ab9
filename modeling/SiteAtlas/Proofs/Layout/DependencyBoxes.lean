import SiteAtlas.Layout.Dependencies
import SiteAtlas.Proofs.Imports.FileMap

/-! # The boxes of dependencies

Placing the dependencies of analysed files draws one box and one arrow for each of them: file by
file in the order of the ids of their boxes, and for each file in the order of its result. Results
under ids that no box has are passed over. Where a box ends up depends on all boxes placed before
it, but the order of the ids leaves nothing open, so the layout is the same in whichever order the
results came in.
-/

namespace SiteAtlas.TreeLayout

variable {α : Type}

/-! ## The box of an id -/

/-- The box that an id stands for: the last one that has it. -/
def boxOf? (base : List (Node α)) (id : String) : Option (Node α) :=
  base.reverse.find? fun n => n.id == id

section Boxes

variable {base : List (Node α)} {id : String} {n : Node α}

theorem boxOf?_eq_none_iff : boxOf? base id = none ↔ id ∉ base.map Node.id := by
  simp [boxOf?, List.find?_eq_none]

theorem mem_of_boxOf? (found : boxOf? base id = some n) : n ∈ base ∧ n.id = id :=
  ⟨List.mem_reverse.mp (List.mem_of_find?_eq_some found), by simpa using List.find?_some found⟩

end Boxes

/-! ## Drawing rows -/

/-- The dependencies of files, each with the id of the box of its file. -/
def rows (files : List (String × List Dependency)) : List (String × Dependency) :=
  files.flatMap fun file => file.2.map (Prod.mk file.1)

variable [Scalar α] {s : TreeSpacing α} {base : List (Node α)}

/-- A box and an arrow show a dependency of the file whose box has the given id: the arrow leads
from the file to the box, and the box stands at the place found for it, from the file's column of
dependencies on. -/
structure Depicts (s : TreeSpacing α) (base : List (Node α)) (row : String × Dependency)
    (n : Node α) (e : Edge) : Prop where
  id : n.id = NodeId.dependency row.1 row.2.nodeId
  kind : n.kind = "dependency"
  width : n.width = s.dependencyWidth
  height : n.height = s.dependencyHeight
  data : n.data = dependencyData row.2
  arrow : e = edge row.1 n.id
    (if row.2.target.isLocal then "dependency-local" else "dependency-external") row.2.source
  place : ∃ file existing top, boxOf? base row.1 = some file ∧
    (n.x, n.y) = Placement.find s s.dependencyWidth s.dependencyHeight existing
      (file.x + s.dependencyDistance, top)

/-- Boxes and arrows show rows, one of each for every row and in their order. -/
inductive Drawn (s : TreeSpacing α) (base : List (Node α)) :
    List (String × Dependency) → List (Node α) → List Edge → Prop
  | nil : Drawn s base [] [] []
  | cons {row : String × Dependency} {n : Node α} {e : Edge} {rows : List (String × Dependency)}
      {nodes : List (Node α)} {edges : List Edge} (first : Depicts s base row n e)
      (rest : Drawn s base rows nodes edges) : Drawn s base (row :: rows) (n :: nodes) (e :: edges)

theorem Drawn.append {rows rows' : List (String × Dependency)} {nodes nodes' : List (Node α)}
    {edges edges' : List Edge} (front : Drawn s base rows nodes edges)
    (back : Drawn s base rows' nodes' edges') :
    Drawn s base (rows ++ rows') (nodes ++ nodes') (edges ++ edges') := by
  induction front with
  | nil => exact back
  | cons first _ ih => exact .cons first ih

/-- Every box that is drawn shows one of the rows. -/
theorem Drawn.exists_depicts {rows : List (String × Dependency)} {nodes : List (Node α)}
    {edges : List Edge} (drawn : Drawn s base rows nodes edges) {n : Node α} (member : n ∈ nodes) :
    ∃ row ∈ rows, ∃ e, Depicts s base row n e := by
  induction drawn with
  | nil => cases member
  | cons first _ ih =>
    rcases List.mem_cons.mp member with rfl | member
    · exact ⟨_, List.mem_cons_self, _, first⟩
    · obtain ⟨row, isRow, depicts⟩ := ih member
      exact ⟨row, List.mem_cons_of_mem _ isRow, depicts⟩

/-- The second graph is the first one with the boxes and arrows of some rows behind its own. -/
def Draws (s : TreeSpacing α) (base : List (Node α)) (rows : List (String × Dependency))
    (g g' : Graph α) : Prop :=
  ∃ nodes edges, g'.nodes = g.nodes ++ nodes ∧ g'.edges = g.edges ++ edges ∧
    Drawn s base rows nodes edges

theorem Draws.refl (g : Graph α) : Draws s base [] g g :=
  ⟨[], [], (List.append_nil _).symm, (List.append_nil _).symm, .nil⟩

theorem Draws.trans {rows rows' : List (String × Dependency)} {g g' g'' : Graph α}
    (first : Draws s base rows g g') (second : Draws s base rows' g' g'') :
    Draws s base (rows ++ rows') g g'' := by
  obtain ⟨nodes, edges, isNodes, isEdges, drawn⟩ := first
  obtain ⟨nodes', edges', isNodes', isEdges', drawn'⟩ := second
  refine ⟨nodes ++ nodes', edges ++ edges', ?_, ?_, drawn.append drawn'⟩
  · rw [isNodes', isNodes, List.append_assoc]
  · rw [isEdges', isEdges, List.append_assoc]

/-- The dependencies of a file are drawn from the top of its column on, whatever stands there. -/
theorem draws_placeDependencies {id : String} {file : Node α} (found : boxOf? base id = some file)
    (top : α) (dependencies : List Dependency) (g : Graph α) :
    Draws s base (dependencies.map (Prod.mk id)) g
      (placeDependencies s id (file.x + s.dependencyDistance) top dependencies g) := by
  induction dependencies generalizing top g with
  | nil => exact .refl g
  | cons d rest ih =>
    change Draws s base ([(id, d)] ++ rest.map (Prod.mk id)) g _
    refine Draws.trans ⟨[_], [_], rfl, rfl, .cons ?_ .nil⟩ (ih _ _)
    exact {
      id := rfl
      kind := rfl
      width := rfl
      height := rfl
      data := rfl
      arrow := rfl
      place := ⟨file, g.nodes.map Node.box, _, found, rfl⟩ }

/-- The result of a file is drawn if its id is that of a box, and passed over otherwise. -/
theorem draws_placeResult (result : String × List Dependency) (g : Graph α) :
    Draws s base (rows ([result].filter fun file => file.1 ∈ base.map Node.id)) g
      (placeResult s base g result) := by
  unfold placeResult
  split
  · rename_i missing
    have unknown : result.1 ∉ base.map Node.id := boxOf?_eq_none_iff.mp missing
    rw [List.filter_cons_of_neg (by simpa using unknown)]
    exact .refl g
  · rename_i file found
    obtain ⟨member, id⟩ := mem_of_boxOf? found
    have known : result.1 ∈ base.map Node.id := id ▸ List.mem_map_of_mem member
    rw [List.filter_cons_of_pos (by simpa using known)]
    have drawn := draws_placeDependencies (s := s) found
      (file.y - Scalar.half (((result.2.length : Nat) : α) * s.dependencySpacing)) result.2 g
    rwa [← List.append_nil (result.2.map _)] at drawn

theorem draws_placeResults (s : TreeSpacing α) (base : List (Node α))
    (results : List (String × List Dependency)) (g : Graph α) :
    Draws s base (rows (results.filter fun file => file.1 ∈ base.map Node.id)) g
      (results.foldl (placeResult s base) g) := by
  induction results generalizing g with
  | nil => exact .refl g
  | cons result rest ih =>
    have run := (draws_placeResult result g).trans (ih (placeResult s base g result))
    rw [rows, rows, ← List.flatMap_append, ← List.filter_append] at run
    exact run

/-! ## The whole layout -/

/-- All boxes and arrows there are when the last dependency is placed, the given boxes included. -/
def grown (s : TreeSpacing α) (base : List (Node α)) (results : FileMap DependencyResult) :
    Graph α :=
  (results.mapEntries fun _ result => result.all).sortedEntries.foldl (placeResult s base)
    { nodes := base, edges := [] }

theorem layoutResults_eq (results : FileMap DependencyResult) :
    layoutResults s base results =
      { nodes := (grown s base results).nodes.drop base.length
        edges := (grown s base results).edges } := rfl

/-- The dependencies of files, those on files of the project first, are drawn for the results that
have a box, in the order of their ids. -/
theorem draws_grown (s : TreeSpacing α) (base : List (Node α))
    (results : FileMap DependencyResult) :
    Draws s base
      ((results.sortedEntries.filter fun file => file.1 ∈ base.map Node.id).flatMap fun file =>
        (file.2.locals ++ file.2.externals).map (Prod.mk file.1))
      { nodes := base, edges := [] } (grown s base results) := by
  have run := draws_placeResults s base
    (results.mapEntries fun _ result => result.all).sortedEntries { nodes := base, edges := [] }
  rw [FileMap.sortedEntries_mapEntries, List.filter_map, rows, List.flatMap_map] at run
  rw [grown, FileMap.sortedEntries_mapEntries]
  exact run

theorem nodes_grown (s : TreeSpacing α) (base : List (Node α))
    (results : FileMap DependencyResult) :
    (grown s base results).nodes = base ++ (layoutResults s base results).nodes := by
  obtain ⟨nodes, -, isNodes, -, -⟩ := draws_grown s base results
  rw [layoutResults_eq, isNodes, List.drop_left]

theorem drawn_layoutResults (s : TreeSpacing α) (base : List (Node α))
    (results : FileMap DependencyResult) :
    Drawn s base
      ((results.sortedEntries.filter fun file => file.1 ∈ base.map Node.id).flatMap fun file =>
        (file.2.locals ++ file.2.externals).map (Prod.mk file.1))
      (layoutResults s base results).nodes (layoutResults s base results).edges := by
  obtain ⟨nodes, edges, isNodes, isEdges, drawn⟩ := draws_grown s base results
  have placed : (layoutResults s base results).nodes = nodes :=
    List.append_cancel_left ((nodes_grown s base results).symm.trans isNodes)
  have arrows : (layoutResults s base results).edges = edges := isEdges
  rw [placed, arrows]
  exact drawn

/-- The order in which results were put into the map does not matter. -/
theorem layoutResults_eq_of_perm {results others : FileMap DependencyResult}
    (same : others.entries.Perm results.entries) :
    layoutResults s base others = layoutResults s base results := by
  have sorted : grown s base others = grown s base results := by
    rw [grown, grown, FileMap.sortedEntries_mapEntries, FileMap.sortedEntries_mapEntries,
      FileMap.sortedEntries_eq_of_perm same]
  rw [layoutResults_eq, layoutResults_eq, sorted]

/-- For each result whose id is that of a box, in increasing order of the ids, the layout has one
box and one arrow for each dependency, those on files of the project first; the arrow leads from the
box of the file to that of the dependency, and its style says whether the dependency is on a file of
the project. There is nothing else, the given boxes stay as they are and in front, and the order in
which results were put into the map does not matter. The given boxes may share their ids; then the
last one of an id counts. -/
theorem dependencies_drawn_by_id (s : TreeSpacing α) (base : List (Node α))
    (results : FileMap DependencyResult) :
    (∃ files : List (String × DependencyResult),
      files.Perm (results.entries.filter fun file => file.1 ∈ base.map Node.id) ∧
      files.Pairwise (fun a b => a.1 < b.1) ∧
      Drawn s base
        (files.flatMap fun file => (file.2.locals ++ file.2.externals).map (Prod.mk file.1))
        (layoutResults s base results).nodes (layoutResults s base results).edges) ∧
    (grown s base results).nodes = base ++ (layoutResults s base results).nodes ∧
    ∀ others : FileMap DependencyResult, others.entries.Perm results.entries →
      layoutResults s base others = layoutResults s base results := by
  refine ⟨⟨_, ?_, ?_, drawn_layoutResults s base results⟩, nodes_grown s base results,
    fun others => layoutResults_eq_of_perm⟩
  · exact results.perm_sortedEntries.filter _
  · exact results.pairwise_sortedEntries.filter _

/-- The boxes of two files, one below the other. -/
def twoFiles : List (Node Rat) :=
  let file (id : String) (y : Rat) : Node Rat :=
    { id := id, kind := "file", x := 700, y := y, width := 260, height := 30 }
  [file "b" 0, file "a" 100]

/-- Results for both files and for one that has no box. -/
def threeResults : FileMap DependencyResult where
  entries :=
    let onFile : Dependency := { source := "./c", nodeId := "c", target := { isLocal := true } }
    let onPackage : Dependency := { source := "react", nodeId := "r" }
    [("a", { externals := [onPackage], filePath := "/a.js" }),
      ("b", { locals := [onFile], externals := [onPackage], filePath := "/b.js" }),
      ("c", { locals := [onFile], filePath := "/c.js" })]
  distinct := by decide

/-- The same results in the reverse order. -/
def reversedResults : FileMap DependencyResult where
  entries := threeResults.entries.reverse
  distinct := by decide

/-- The file whose id comes first is drawn first, although its result is the last one in the map and
its box is the lower one; the result without a box shows nowhere. -/
theorem dependencies_drawn_of_reversedResults :
    reversedResults.entries.Perm threeResults.entries ∧
    (layoutResults .standard twoFiles reversedResults).edges.map
      (fun e => (e.source, e.target, e.style)) =
        [("a", "a-dep-r", "dependency-external"), ("b", "b-dep-c", "dependency-local"),
          ("b", "b-dep-r", "dependency-external")] := by
  have same : reversedResults.entries.Perm threeResults.entries := List.reverse_perm _
  have sorted : (threeResults.mapEntries fun _ result => result.all).sortedEntries =
      (threeResults.mapEntries fun _ result => result.all).entries :=
    List.mergeSort_of_pairwise (by decide +kernel)
  obtain ⟨-, -, ordered⟩ := dependencies_drawn_by_id .standard twoFiles threeResults
  refine ⟨same, ?_⟩
  rw [ordered reversedResults same, layoutResults_eq, grown, sorted]
  decide +kernel

end SiteAtlas.TreeLayout
