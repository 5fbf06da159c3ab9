import SiteAtlas.Layout.Dependencies
import SiteAtlas.Proofs.Layout.Placement
import Mathlib.Logic.Relation

/-! # Placed boxes are apart

Both passes of the tree layout change the graph in one way only: a box is added at the place found
for it. A pass is a run of such steps, whatever tree, list of files or list of results it goes
through, and what one step preserves holds after the run.
-/

namespace SiteAtlas.TreeLayout

section Runs

variable {α : Type} [Scalar α] {s : TreeSpacing α}

/-- One more box stands in the second graph, at the place found for it. -/
def Adds (s : TreeSpacing α) (g g' : Graph α) : Prop :=
  ∃ (n : Node α) (arrow : Option Edge), g' = addBox s g n arrow

/-- The second graph comes from the first one by adding boxes, one after the other. -/
def Grows (s : TreeSpacing α) : Graph α → Graph α → Prop := Relation.ReflTransGen (Adds s)

theorem Grows.refl (g : Graph α) : Grows s g g := Relation.ReflTransGen.refl

theorem Grows.trans {g g' g'' : Graph α} (first : Grows s g g') (second : Grows s g' g'') :
    Grows s g g'' := Relation.ReflTransGen.trans first second

theorem grows_addBox (g : Graph α) (n : Node α) (arrow : Option Edge) :
    Grows s g (addBox s g n arrow) := Relation.ReflTransGen.single ⟨n, arrow, rfl⟩

theorem grows_placeFiles (folderId : String) (left : α) (index : Nat) (top : α)
    (files : List StructureNode) (g : Graph α) :
    Grows s g (placeFiles s folderId left index top files g) := by
  induction files generalizing index top g with
  | nil => exact .refl g
  | cons file rest ih => exact (grows_addBox g _ _).trans (ih _ _ _)

mutual

/-- Placing a node with all that is visible below it adds boxes. -/
theorem grows_place (expanded names : List String) (parent : Option String) (left center : α) :
    (tree : StructureNode) → (g : Graph α) →
      Grows s g (place s expanded names parent left center tree g)
  | .file entry analysis, g => by
    rw [place]
    exact grows_addBox g _ _
  | .folder entry segment children, g => by
    have own := grows_addBox (s := s) g
    rw [place]
    split_ifs
    · exact own _ _
    · exact (own _ _).trans ((grows_placeFolders _ _ _ _ _ children _).trans
        (grows_placeFiles _ _ _ _ _ _))

/-- Placing the folders among the contents of a folder adds boxes. -/
theorem grows_placeFolders (expanded names : List String) (parentId : String) (left top : α) :
    (children : List StructureNode) → (g : Graph α) →
      Grows s g (placeFolders s expanded names parentId left top children g).2
  | [], g => by
    rw [placeFolders]
    exact .refl g
  | child :: rest, g => by
    rw [placeFolders]
    split_ifs
    · exact (grows_place _ _ _ _ _ child g).trans (grows_placeFolders _ _ _ _ _ rest _)
    · exact grows_placeFolders _ _ _ _ _ rest g

end

theorem grows_placeDependencies (fileId : String) (left top : α) (dependencies : List Dependency)
    (g : Graph α) : Grows s g (placeDependencies s fileId left top dependencies g) := by
  induction dependencies generalizing top g with
  | nil => exact .refl g
  | cons dependency rest ih => exact (grows_addBox g _ _).trans (ih _ _)

theorem grows_placeResults (base : List (Node α)) (results : List (String × List Dependency))
    (g : Graph α) : Grows s g (results.foldl (placeResult s base) g) := by
  induction results generalizing g with
  | nil => exact .refl g
  | cons result rest ih =>
    refine Grows.trans ?_ (ih _)
    unfold placeResult
    split
    · exact .refl g
    · exact grows_placeDependencies _ _ _ _ g

end Runs

/-- Two boxes do not collide, in whichever order they are tested. -/
def Apart (padding : Rat) (a b : Node Rat) : Prop :=
  Box.collides padding a.box b.box = false ∧ Box.collides padding b.box a.box = false

theorem apart_of_not_collides {padding : Rat} {a b : Node Rat}
    (free : Box.collides padding a.box b.box = false) : Apart padding a b :=
  ⟨free, Box.collides_comm a.box b.box ▸ free⟩

theorem Apart.symm {padding : Rat} {a b : Node Rat} (apart : Apart padding a b) :
    Apart padding b a := ⟨apart.2, apart.1⟩

/-- The boxes behind the given ones are apart from those and from each other. The given ones may
overlap as they like. -/
structure Spread (padding : Rat) (base nodes : List (Node Rat)) : Prop where
  /-- The given boxes are still there, untouched and in front. -/
  keeps : base <+: nodes
  /-- The boxes behind them are apart from each other. -/
  among : (nodes.drop base.length).Pairwise (Apart padding)
  /-- The boxes behind them are apart from the given ones. -/
  across : ∀ n ∈ nodes.drop base.length, ∀ b ∈ base, Apart padding n b

section Spread

variable {s : TreeSpacing Rat} {padding : Rat} {base : List (Node Rat)}

theorem spread_base : Spread padding base base where
  keeps := List.prefix_rfl
  among := by simp only [List.drop_length, List.Pairwise.nil]
  across := by simp only [List.drop_length, List.not_mem_nil, false_implies, implies_true]

/-- A box that is apart from all others can be put behind them. -/
theorem Spread.concat {nodes : List (Node Rat)} (spread : Spread padding base nodes) {n : Node Rat}
    (free : ∀ other ∈ nodes, Apart padding n other) : Spread padding base (nodes ++ [n]) := by
  obtain ⟨added, rfl⟩ := spread.keeps
  obtain ⟨-, among, across⟩ := spread
  rw [List.drop_left] at among across
  have behind : (base ++ added ++ [n]).drop base.length = added ++ [n] := by
    rw [List.append_assoc, List.drop_left]
  refine ⟨⟨added ++ [n], (List.append_assoc ..).symm⟩, ?_, ?_⟩
  · rw [behind, List.pairwise_append]
    refine ⟨among, List.pairwise_singleton .., fun other member new isNew => ?_⟩
    rw [List.mem_singleton.mp isNew]
    exact (free other (List.mem_append_right _ member)).symm
  · rw [behind]
    intro other member b given
    rcases List.mem_append.mp member with member | isNew
    · exact across other member b given
    · rw [List.mem_singleton.mp isNew]
      exact free b (List.mem_append_left _ given)

/-- The box that a step adds is apart from all boxes before it. -/
theorem spread_of_adds {g g' : Graph Rat} (spread : Spread s.collisionPadding base g.nodes)
    (step : Adds s g g') : Spread s.collisionPadding base g'.nodes := by
  obtain ⟨n, arrow, rfl⟩ := step
  refine spread.concat fun other member => apart_of_not_collides ?_
  have free := Placement.isFree_find s n.width n.height (g.nodes.map Node.box) (n.x, n.y)
  exact Placement.isFree_iff.mp free other.box (List.mem_map_of_mem member)

theorem spread_of_grows {g g' : Graph Rat} (spread : Spread s.collisionPadding base g.nodes)
    (run : Grows s g g') : Spread s.collisionPadding base g'.nodes := by
  -- Along the run from its start: the given boxes stay the same, the rest grows.
  induction run with
  | refl => exact spread
  | tail _ step ih => exact spread_of_adds ih step

end Spread

/-- No two boxes of a tree layout collide, and no box of a dependency collides with another one or
with a box given beforehand. This holds for all measures, the number of attempts among them, and
even where boxes given beforehand collide with each other. -/
theorem placed_boxes_apart (s : TreeSpacing Rat) :
    (∀ (expanded : List String) (tree : StructureNode),
      (layout s expanded tree).nodes.Pairwise (Apart s.collisionPadding)) ∧
    ∀ (base : List (Node Rat)) (results : List (String × List Dependency)),
      (layoutDependencies s base results).nodes.Pairwise (Apart s.collisionPadding) ∧
      ∀ n ∈ (layoutDependencies s base results).nodes, ∀ b ∈ base,
        Apart s.collisionPadding n b := by
  constructor
  · intro expanded tree
    have run := grows_place (s := s) expanded [] none s.rootX Scalar.zero tree {}
    exact (spread_of_grows spread_base run).among
  · intro base results
    have run := grows_placeResults (s := s) base (results.mergeSort fun a b => a.1 ≤ b.1)
      { nodes := base, edges := [] }
    have spread := spread_of_grows spread_base run
    exact ⟨spread.among, spread.across⟩

end SiteAtlas.TreeLayout
