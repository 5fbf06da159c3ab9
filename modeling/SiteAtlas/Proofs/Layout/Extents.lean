import SiteAtlas.Proofs.Layout.Slots
import SiteAtlas.Proofs.Layout.Placement
import Mathlib.Algebra.BigOperators.Group.List.Basic
import Mathlib.Tactic.Ring

/-! # The room of a folder

A folder that is not expanded takes the height of its box. An expanded one takes the room of its
contents, or a least extent where that is more. If the least extent is no less than the height of a
box, expanding further folders takes no room from any folder. The height that the contents are
spread over when they are placed is the one that the room was computed from.
-/

namespace SiteAtlas.TreeLayout

section Contents

variable (s : TreeSpacing Rat) (expanded names : List String)

/-- The extents of folders are added to what came before, each with the spacing below it. -/
theorem extentOf_eq_sum (total : Rat) (children : List StructureNode) :
    extentOf s expanded names total children = total +
      ((children.filter StructureNode.isFolder).map fun f =>
        extent s expanded (names ++ [f.name]) f + s.folderSpacing).sum := by
  induction children generalizing total with
  | nil =>
    rw [extentOf]
    exact (add_zero total).symm
  | cons child rest ih =>
    rw [extentOf]
    by_cases isFolder : child.isFolder = true
    · rw [if_pos isFolder, ih, List.filter_cons_of_pos isFolder, List.map_cons, List.sum_cons]
      ring
    · rw [if_neg isFolder, ih, List.filter_cons_of_neg isFolder]

theorem extentOf_eq_add (total : Rat) (children : List StructureNode) :
    extentOf s expanded names total children = total + extentOf s expanded names 0 children := by
  rw [extentOf_eq_sum, extentOf_eq_sum s expanded names 0, zero_add]

/-- The height of the contents of a node, one below the other. -/
def contentsHeight (s : TreeSpacing Rat) (expanded names : List String) (tree : StructureNode) :
    Rat := extentOf s expanded names 0 tree.children + tree.files.length * s.fileSpacing

theorem contentsHeight_eq_sum (tree : StructureNode) :
    contentsHeight s expanded names tree =
      (tree.folders.map fun f => extent s expanded (names ++ [f.name]) f + s.folderSpacing).sum
        + tree.files.length * s.fileSpacing := by
  rw [contentsHeight, extentOf_eq_sum, zero_add]
  rfl

variable {s expanded names}

/-- An expanded folder that is not empty has room for its contents. -/
theorem contentsHeight_le_extent_of_filled {tree : StructureNode}
    (isOpen : expanded.contains (NodeId.folder names) = true) (filled : tree.children ≠ []) :
    contentsHeight s expanded names tree ≤ extent s expanded names tree := by
  cases tree with
  | file entry analysis => exact absurd rfl filled
  | folder entry segment children =>
    obtain ⟨first, rest, rfl⟩ := List.exists_cons_of_ne_nil filled
    rw [extent, isOpen]
    exact Scalar.le_larger_left _ _

/-- The extent of a node has room for its contents if they are visible. -/
theorem contentsHeight_le_extent (height : 0 ≤ s.folderHeight) (tree : StructureNode)
    (isOpen : expanded.contains (NodeId.folder names) = true) :
    contentsHeight s expanded names tree ≤ extent s expanded names tree := by
  have empty : extentOf s expanded names 0 [] + ((0 : Nat) : Rat) * s.fileSpacing ≤
      s.folderHeight := by
    rw [extentOf, Nat.cast_zero, zero_mul, add_zero]
    exact height
  cases tree with
  | file entry analysis =>
    rw [extent]
    exact empty
  | folder entry segment children =>
    cases children with
    | nil =>
      rw [extent, isOpen]
      exact empty
    | cons first rest => exact contentsHeight_le_extent_of_filled isOpen (List.cons_ne_nil _ _)

/-- The contents of an expanded folder are placed over the height of its contents, half of which is
above its middle: folders from the top on, and rows of files down to the bottom. -/
theorem place_of_filled (parent : Option String) (left center : Rat) {tree : StructureNode}
    (isOpen : expanded.contains (NodeId.folder names) = true) (filled : tree.children ≠ [])
    (g : Graph Rat) :
    place s expanded names parent left center tree g =
      placeFiles s (NodeId.folder names) (left + s.depthDistance) 0
        (center + contentsHeight s expanded names tree / 2 - tree.files.length * s.fileSpacing)
        tree.files
        (placeFolders s expanded names (NodeId.folder names) (left + s.depthDistance)
          (center - contentsHeight s expanded names tree / 2) tree.children
          (placeFolder s expanded names parent left center tree g)).2 := by
  cases tree with
  | file entry analysis => exact absurd rfl filled
  | folder entry segment children =>
    let tree := StructureNode.folder entry segment children
    obtain ⟨first, rest, isFilled⟩ := List.exists_cons_of_ne_nil filled
    have open' : (!expanded.contains (NodeId.folder names) || children.isEmpty) = false := by
      rw [isOpen, show children = first :: rest from isFilled]
      rfl
    -- Where the folders end, the rows of files begin.
    have rows : (placeFolders s expanded names (NodeId.folder names) (left + s.depthDistance)
        (center - contentsHeight s expanded names tree / 2) children
        (placeFolder s expanded names parent left center tree g)).1 =
          center + contentsHeight s expanded names tree / 2
            - tree.files.length * s.fileSpacing := by
      rw [fst_placeFolders, extentOf_eq_add]
      change _ + extentOf s expanded names 0 tree.children = _
      rw [show extentOf s expanded names 0 tree.children = contentsHeight s expanded names tree
        - tree.files.length * s.fileSpacing from (add_sub_cancel_right _ _).symm]
      ring
    rw [place, open', ← rows]
    rfl

end Contents

/-! ## Expanding more folders -/

section Growth

variable {s : TreeSpacing Rat} {expanded expanded' : List String}

theorem folderHeight_le_extent (room : s.folderHeight ≤ s.minTreeExtent)
    (expanded names : List String) (tree : StructureNode) :
    s.folderHeight ≤ extent s expanded names tree := by
  cases tree with
  | file entry analysis => rw [extent]
  | folder entry segment children =>
    rw [extent]
    split_ifs
    · exact le_refl _
    · exact room.trans (Scalar.le_larger_right _ _)

mutual

/-- Expanding more folders takes no room from a node. A folder that is expanded only then grows from
the height of a box to its least extent at least, and one that was expanded before has contents that
grow. -/
theorem extent_le_extent (room : s.folderHeight ≤ s.minTreeExtent) (more : expanded ⊆ expanded')
    (names : List String) : (tree : StructureNode) →
      extent s expanded names tree ≤ extent s expanded' names tree
  | .file entry analysis => by rw [extent, extent]
  | .folder entry segment children => by
    by_cases isOpen : expanded.contains (NodeId.folder names) = true
    · have isOpen' : expanded'.contains (NodeId.folder names) = true := by
        rw [List.contains_iff_mem] at isOpen ⊢
        exact more isOpen
      rw [extent, extent, isOpen, isOpen']
      split_ifs
      · exact le_refl _
      · have contents :=
          extentOf_le_extentOf room more names (le_refl (Scalar.zero : Rat)) children
        apply Scalar.larger_le
        · apply le_trans _ (Scalar.le_larger_left _ _)
          exact add_le_add_left contents _
        · exact Scalar.le_larger_right _ _
    · rw [extent, Bool.eq_false_of_not_eq_true isOpen]
      exact folderHeight_le_extent room expanded' names _

theorem extentOf_le_extentOf (room : s.folderHeight ≤ s.minTreeExtent)
    (more : expanded ⊆ expanded') (names : List String) {total total' : Rat}
    (grown : total ≤ total') : (children : List StructureNode) →
      extentOf s expanded names total children ≤ extentOf s expanded' names total' children
  | [] => by
    rw [extentOf, extentOf]
    exact grown
  | child :: rest => by
    rw [extentOf, extentOf]
    split_ifs
    · have first := extent_le_extent room more (names ++ [child.name]) child
      apply extentOf_le_extentOf room more names _ rest
      linarith
    · exact extentOf_le_extentOf room more names grown rest

end

end Growth

/-- Where the least extent is no less than the height of a box, expanding more folders takes no room
from any folder. The room of a folder is at least the height of its box, and if it is expanded and
not empty at least the height of its contents: the rooms of the folders in it, each with the spacing
below, and the rows of its files. Over just that height, around the middle of the folder, the
contents are placed: the folders from its top on, and the rows of the files down to its bottom. -/
theorem extent_grows_with_expanded {s : TreeSpacing Rat} (room : s.folderHeight ≤ s.minTreeExtent)
    {expanded expanded' : List String} (more : expanded ⊆ expanded') (names : List String)
    (tree : StructureNode) :
    extent s expanded names tree ≤ extent s expanded' names tree ∧
      s.folderHeight ≤ extent s expanded names tree ∧
      (expanded.contains (NodeId.folder names) = true → tree.children ≠ [] →
        let rows := tree.files.length * s.fileSpacing
        let total :=
          (tree.folders.map fun f => extent s expanded (names ++ [f.name]) f + s.folderSpacing).sum
            + rows
        total ≤ extent s expanded names tree ∧
          ∀ parent left center g, place s expanded names parent left center tree g =
            placeFiles s (NodeId.folder names) (left + s.depthDistance) 0
              (center + total / 2 - rows) tree.files
              (placeFolders s expanded names (NodeId.folder names) (left + s.depthDistance)
                (center - total / 2) tree.children
                (placeFolder s expanded names parent left center tree g)).2) := by
  refine ⟨extent_le_extent room more names tree, folderHeight_le_extent room expanded names tree,
    fun isOpen filled => ?_⟩
  intro rows total
  have height : contentsHeight s expanded names tree = total :=
    contentsHeight_eq_sum s expanded names tree
  rw [← height]
  exact ⟨contentsHeight_le_extent_of_filled isOpen filled,
    fun parent left center g => place_of_filled parent left center isOpen filled g⟩

/-- A project with one folder in another one. -/
def blogTree : StructureNode :=
  folderOf "site" [
    folderOf "app" [folderOf "blog" [], .file ⟨"page.tsx", "/site/app/page.tsx", "app/page.tsx",
      true, none⟩ none],
    folderOf "lib" []]

/-- With the standard measures the contents of the root fit into its least extent while all folders
in it are collapsed. Once `app` is expanded the root needs more. -/
theorem extent_grows_in_blogTree :
    let s : TreeSpacing Rat := .standard
    let total := (blogTree.folders.map fun f =>
      extent s [NodeId.root] ([] ++ [f.name]) f + s.folderSpacing).sum
        + blogTree.files.length * s.fileSpacing
    s.folderHeight ≤ s.minTreeExtent ∧ [NodeId.root] ⊆ NodeId.initiallyExpanded ∧
    [NodeId.root].contains (NodeId.folder []) = true ∧ blogTree.children ≠ [] ∧
    total = 260 ∧ total ≤ extent s [NodeId.root] [] blogTree ∧
    extent s [NodeId.root] [] blogTree = 300 ∧
    extent s [NodeId.root] [] blogTree ≤ extent s NodeId.initiallyExpanded [] blogTree ∧
    extent s NodeId.initiallyExpanded [] blogTree = 480 := by
  intro s total
  have room : s.folderHeight ≤ s.minTreeExtent := by decide +kernel
  have more : [NodeId.root] ⊆ NodeId.initiallyExpanded := by decide +kernel
  have isOpen : [NodeId.root].contains (NodeId.folder []) = true := by decide +kernel
  have filled : blogTree.children ≠ [] := List.cons_ne_nil _ _
  obtain ⟨grows, -, contents⟩ := extent_grows_with_expanded room more [] blogTree
  obtain ⟨fits, -⟩ := contents isOpen filled
  exact ⟨room, more, isOpen, filled, by decide +kernel, fits, by decide +kernel, grows,
    by decide +kernel⟩

end SiteAtlas.TreeLayout
