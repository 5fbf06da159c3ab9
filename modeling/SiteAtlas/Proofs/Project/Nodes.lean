import SiteAtlas.Project.Structure
import Mathlib.Data.List.Basic
import Mathlib.Data.List.Perm.Basic

/-! # The nodes of a project tree

The list of all nodes of a tree is made up of the lists of its folders' contents, and each node
below the tree lies directly in one of the nodes of that list.
-/

namespace SiteAtlas.StructureNode

theorem nodesOf_eq_flatMap (trees : List StructureNode) : nodesOf trees = trees.flatMap nodes := by
  induction trees with
  | nil => rw [nodesOf, List.flatMap_nil]
  | cons tree rest ih => rw [nodesOf, ih, List.flatMap_cons]

theorem nodes_eq_cons (tree : StructureNode) : tree.nodes = tree :: nodesOf tree.children := by
  cases tree with
  | folder entry segment contents => rw [nodes, children]
  | file entry analysis => rw [nodes, children, nodesOf]

theorem perm_nodesOf {first second : List StructureNode} (perm : first.Perm second) :
    (nodesOf first).Perm (nodesOf second) := by
  rw [nodesOf_eq_flatMap, nodesOf_eq_flatMap]
  exact perm.flatMap_right nodes

theorem mem_nodesOf_iff {node : StructureNode} {trees : List StructureNode} :
    node ∈ nodesOf trees ↔ ∃ tree ∈ trees, node ∈ tree.nodes := by
  rw [nodesOf_eq_flatMap, List.mem_flatMap]

theorem mem_nodes_self (tree : StructureNode) : tree ∈ tree.nodes := by
  rw [nodes_eq_cons]
  exact List.mem_cons_self

theorem mem_nodes_of_mem_children {tree child node : StructureNode} (inside : child ∈ tree.children)
    (below : node ∈ child.nodes) : node ∈ tree.nodes := by
  rw [nodes_eq_cons]
  exact List.mem_cons_of_mem _ (mem_nodesOf_iff.mpr ⟨child, inside, below⟩)

/-- What holds of a node whenever it holds of its contents holds of all nodes. -/
theorem induction_children {motive : StructureNode → Prop}
    (step : ∀ node : StructureNode, (∀ child ∈ node.children, motive child) → motive node)
    (node : StructureNode) : motive node := by
  refine step node fun child member => ?_
  have smaller : sizeOf child < sizeOf node := by
    cases node with
    | file entry analysis => exact absurd member List.not_mem_nil
    | folder entry segment contents =>
      have listed := List.sizeOf_lt_of_mem (show child ∈ contents from member)
      have whole : sizeOf (folder entry segment contents) =
          1 + sizeOf entry + sizeOf segment + sizeOf contents :=
        folder.sizeOf_spec entry segment contents
      omega
  exact induction_children step child
termination_by sizeOf node

theorem mem_nodes_trans {tree node inner : StructureNode} (member : node ∈ tree.nodes)
    (below : inner ∈ node.nodes) : inner ∈ tree.nodes := by
  induction tree using induction_children with
  | step tree ih =>
    rw [nodes_eq_cons] at member
    rcases List.mem_cons.mp member with rfl | member
    · exact below
    · obtain ⟨child, inside, deeper⟩ := mem_nodesOf_iff.mp member
      exact mem_nodes_of_mem_children inside (ih child inside deeper)

theorem mem_nodesOf_trans {trees : List StructureNode} {node inner : StructureNode}
    (member : node ∈ nodesOf trees) (below : inner ∈ node.nodes) : inner ∈ nodesOf trees := by
  obtain ⟨tree, inside, deeper⟩ := mem_nodesOf_iff.mp member
  exact mem_nodesOf_iff.mpr ⟨tree, inside, mem_nodes_trans deeper below⟩

/-- What passes from each folder to its contents passes on to everything below it. -/
theorem rel_of_mem_below (Rel : StructureNode → StructureNode → Prop)
    (passes : ∀ {first second third}, Rel first second → Rel second third → Rel first third)
    {tree inner : StructureNode}
    (step : ∀ node ∈ tree.nodes, ∀ child ∈ node.children, Rel node child)
    (below : inner ∈ nodesOf tree.children) : Rel tree inner := by
  induction tree using induction_children with
  | step tree ih =>
    obtain ⟨child, inside, deeper⟩ := mem_nodesOf_iff.mp below
    have first := step tree (mem_nodes_self tree) child inside
    rw [nodes_eq_cons] at deeper
    rcases List.mem_cons.mp deeper with rfl | deeper
    · exact first
    · refine passes first (ih child inside (fun node member => ?_) deeper)
      exact step node (mem_nodes_of_mem_children inside member)

/-- If a property passes from folders to their contents, the nodes that have it are those at and
below the nodes where it begins. -/
theorem filter_eq_flatMap {P Begins : StructureNode → Bool} {tree : StructureNode}
    (passes : ∀ node ∈ tree.nodes, P node = true → ∀ child ∈ node.children, P child = true)
    (begins : ∀ node ∈ tree.nodes, ∀ child ∈ node.children, P child = true →
      P node = true ∨ Begins child = true)
    (once : ∀ node ∈ tree.nodes, Begins node = true →
      P node = true ∧ ∀ inner ∈ nodesOf node.children, ¬Begins inner = true)
    (start : P tree = true → Begins tree = true) :
    tree.nodes.filter P = (tree.nodes.filter Begins).flatMap nodes := by
  induction tree using induction_children with
  | step tree ih =>
    have self := mem_nodes_self tree
    by_cases holds : P tree = true
    · have everywhere : ∀ inner ∈ nodesOf tree.children, P inner = true := by
        intro inner below
        refine rel_of_mem_below (fun outer inner => P outer = true → P inner = true)
          (fun first second outer => second (first outer))
          (fun node member child inside outer => ?_) below holds
        exact passes node member outer child inside
      obtain ⟨-, none⟩ := once tree self (start holds)
      rw [nodes_eq_cons, List.filter_cons_of_pos holds, List.filter_cons_of_pos (start holds),
        List.filter_eq_self.mpr everywhere, List.filter_eq_nil_iff.mpr none, List.flatMap_singleton,
        nodes_eq_cons]
    · have outside : ¬Begins tree = true := fun first => holds (once tree self first).1
      rw [nodes_eq_cons, List.filter_cons_of_neg holds, List.filter_cons_of_neg outside,
        nodesOf_eq_flatMap, List.filter_flatMap, List.filter_flatMap, List.flatMap_assoc]
      refine List.flatMap_congr fun child inside => ?_
      have inner {node : StructureNode} (member : node ∈ child.nodes) : node ∈ tree.nodes :=
        mem_nodes_of_mem_children inside member
      exact ih child inside (fun node member => passes node (inner member))
        (fun node member => begins node (inner member))
        (fun node member => once node (inner member))
        (fun here => (begins tree self child inside here).resolve_left holds)

theorem children_of_isFile {node : StructureNode} (isFile : node.isFolder = false) :
    node.children = [] := by
  cases node with
  | folder entry segment contents => cases isFile
  | file entry analysis => rfl

theorem files_of_isFile {node : StructureNode} (isFile : node.isFolder = false) :
    node.files = [] := by
  rw [files, children_of_isFile isFile, List.filter_nil]

mutual

/-- Each node below a tree lies directly in one of the tree's nodes. -/
theorem perm_flatMap_children : (tree : StructureNode) →
    (tree.nodes.flatMap children).Perm (nodesOf tree.children)
  | .file entry analysis => by
    rw [nodes, children, nodesOf]
    exact List.Perm.refl _
  | .folder entry segment contents => by
    rw [nodes, List.flatMap_cons, children]
    exact perm_append_flatMap_children contents

/-- Some nodes and those below them. -/
theorem perm_append_flatMap_children : (trees : List StructureNode) →
    (trees ++ (nodesOf trees).flatMap children).Perm (nodesOf trees)
  | [] => by
    rw [nodesOf]
    exact List.Perm.refl _
  | tree :: rest => by
    have below := perm_flatMap_children tree
    have others := perm_append_flatMap_children rest
    have whole : nodesOf (tree :: rest) = tree :: (nodesOf tree.children ++ nodesOf rest) := by
      rw [nodesOf, nodes_eq_cons, List.cons_append]
    have contents : (nodesOf (tree :: rest)).flatMap children =
        tree.nodes.flatMap children ++ (nodesOf rest).flatMap children := by
      rw [nodesOf, List.flatMap_append]
    rw [contents, whole, List.cons_append]
    refine List.Perm.cons tree ?_
    have swap : (rest ++ (tree.nodes.flatMap children ++ (nodesOf rest).flatMap children)).Perm
        (tree.nodes.flatMap children ++ (rest ++ (nodesOf rest).flatMap children)) := by
      rw [← List.append_assoc, ← List.append_assoc]
      exact List.perm_append_comm.append_right _
    exact swap.trans (below.append others)

end

/-- A node below a tree lies directly in one of the tree's nodes. -/
theorem exists_mem_children {tree node : StructureNode} (member : node ∈ nodesOf tree.children) :
    ∃ folder ∈ tree.nodes, node ∈ folder.children :=
  List.mem_flatMap.mp ((perm_flatMap_children tree).mem_iff.mpr member)

/-- Each file below a tree lies directly in one of the tree's folders. -/
theorem perm_flatMap_files (tree : StructureNode) :
    ((tree.nodes.filter isFolder).flatMap files).Perm
      ((nodesOf tree.children).filter fun node => !node.isFolder) := by
  have inFolders : (tree.nodes.filter isFolder).flatMap files = tree.nodes.flatMap files := by
    induction tree.nodes with
    | nil => rfl
    | cons node rest ih =>
      cases isFolder : node.isFolder with
      | true => rw [List.filter_cons_of_pos isFolder, List.flatMap_cons, List.flatMap_cons, ih]
      | false =>
        rw [List.filter_cons_of_neg (by simp [isFolder]), List.flatMap_cons,
          files_of_isFile isFolder, List.nil_append, ih]
  rw [inFolders]
  have filtered := (perm_flatMap_children tree).filter fun node => !node.isFolder
  rwa [List.filter_flatMap] at filtered

end SiteAtlas.StructureNode
