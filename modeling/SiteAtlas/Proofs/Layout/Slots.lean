import SiteAtlas.Proofs.Layout.Visible

/-! # The slots of a layout

A layout is meant to be a picture of nested slots: each visible node has a slot, and the slots of
the contents of a folder lie in its own. Here the slots are read off the tree from the measures
alone, without a search. Whatever the measures are, a layout puts the boxes of the slots one after
the other, each at the place found for it.
-/

namespace SiteAtlas.TreeLayout

/-- The slot of a visible node, with those of what is visible in it. -/
structure Slot (α : Type) where
  /-- Where the node lies in the tree. -/
  address : Address
  /-- The node itself. -/
  source : StructureNode
  /-- The box that stands in the slot, at its first place. -/
  node : Node α
  /-- The height at which the slot begins. -/
  top : α
  /-- How high the slot is. -/
  room : α
  /-- The slots of what is visible directly in the node. -/
  contents : List (Slot α)

namespace Slot

variable {α : Type}

mutual

/-- A slot and all slots below it, in the order in which their boxes are placed. -/
def all : Slot α → List (Slot α)
  | ⟨address, source, node, top, room, contents⟩ =>
    ⟨address, source, node, top, room, contents⟩ :: allOf contents

/-- All slots of a list and those below them. -/
def allOf : List (Slot α) → List (Slot α)
  | [] => []
  | slot :: rest => all slot ++ allOf rest

end

theorem all_eq (c : Slot α) : c.all = c :: allOf c.contents := by
  cases c
  rfl

theorem allOf_append (first second : List (Slot α)) :
    allOf (first ++ second) = allOf first ++ allOf second := by
  induction first with
  | nil => rfl
  | cons c rest ih => rw [List.cons_append, allOf, allOf, ih, List.append_assoc]

mutual

/-- What is below a slot that is below another one is below that. -/
theorem mem_all_trans {c d : Slot α} : (b : Slot α) → c ∈ b.all → d ∈ c.all → d ∈ b.all
  | ⟨address, source, node, top, room, contents⟩, outer, inner => by
    rw [all] at outer ⊢
    rcases List.mem_cons.mp outer with rfl | outer
    · exact inner
    · exact List.mem_cons_of_mem _ (mem_allOf_trans contents outer inner)

theorem mem_allOf_trans {c d : Slot α} :
    (slots : List (Slot α)) → c ∈ allOf slots → d ∈ c.all → d ∈ allOf slots
  | [], outer, inner => absurd outer List.not_mem_nil
  | first :: rest, outer, inner => by
    rcases List.mem_append.mp outer with outer | outer
    · exact List.mem_append_left _ (mem_all_trans first outer inner)
    · exact List.mem_append_right _ (mem_allOf_trans rest outer inner)

end

/-- The slots of nodes without contents. -/
theorem allOf_eq_self {slots : List (Slot α)} (leaves : ∀ c ∈ slots, c.contents = []) :
    allOf slots = slots := by
  induction slots with
  | nil => rfl
  | cons c rest ih =>
    rw [allOf, all_eq, leaves c List.mem_cons_self,
      ih fun other member => leaves other (List.mem_cons_of_mem _ member)]
    rfl

end Slot

variable {α : Type} [Scalar α]

/-- The box of a folder at its first place. -/
def folderBox (s : TreeSpacing α) (expanded names : List String) (left center : α)
    (node : StructureNode) : Node α :=
  let id := NodeId.folder names
  { id := id, kind := "folder", x := left, y := center - Scalar.half s.folderHeight
    width := s.folderWidth, height := s.folderHeight
    data := folderData id (expanded.contains id) node }

/-- The box of a file at its first place, in a row that begins at `top`. -/
def fileBox (s : TreeSpacing α) (names : List String) (left : α) (index : Nat) (top : α)
    (node : StructureNode) : Node α :=
  let id := NodeId.file (NodeId.folder names) index
  { id := id, kind := "file", x := left + s.fileOffset
    y := top + Scalar.half s.fileSpacing - Scalar.half s.fileHeight
    width := s.fileWidth, height := s.fileHeight, data := fileData id node }

/-- The slots of the files of a folder, rows of the same height. -/
def fileSlots (s : TreeSpacing α) (names : List String) (left : α) :
    (index : Nat) → (top : α) → List StructureNode → List (Slot α)
  | _, _, [] => []
  | index, top, node :: rest =>
    { address := .file names index, source := node, node := fileBox s names left index top node
      top := top, room := s.fileSpacing, contents := [] }
      :: fileSlots s names left (index + 1) (top + s.fileSpacing) rest

mutual

/-- The slot of a node that these names lead to, around `center`: as high as the node's extent, with
the slots of the contents around the same height. -/
def slot (s : TreeSpacing α) (expanded names : List String) (left center : α) :
    StructureNode → Slot α
  | .folder entry segment children =>
    let node := StructureNode.folder entry segment children
    let total := extentOf s expanded names Scalar.zero children
      + (node.files.length : α) * s.fileSpacing
    let top := center - Scalar.half total
    { address := .folder names, source := node
      node := folderBox s expanded names left center node
      top := center - Scalar.half (extent s expanded names node)
      room := extent s expanded names node
      contents := if expanded.contains (NodeId.folder names) then
          folderSlots s expanded names (left + s.depthDistance) top children
            ++ fileSlots s names (left + s.depthDistance) 0
              (extentOf s expanded names top children) node.files
        else [] }
  | .file entry analysis =>
    let node := StructureNode.file entry analysis
    { address := .folder names, source := node
      node := folderBox s expanded names left center node
      top := center - Scalar.half (extent s expanded names node)
      room := extent s expanded names node, contents := [] }

/-- The slots of the folders among the contents of a folder, from `top` on. -/
def folderSlots (s : TreeSpacing α) (expanded names : List String) (left top : α) :
    List StructureNode → List (Slot α)
  | [] => []
  | child :: rest =>
    if child.isFolder then
      let room := extent s expanded (names ++ [child.name]) child
      slot s expanded (names ++ [child.name]) left (top + Scalar.half room) child
        :: folderSlots s expanded names left (top + (room + s.folderSpacing)) rest
    else folderSlots s expanded names left top rest

end

/-- The slot of a whole tree. -/
def rootSlot (s : TreeSpacing α) (expanded : List String) (tree : StructureNode) : Slot α :=
  slot s expanded [] s.rootX Scalar.zero tree

/-- Placed boxes with one more, moved to the place found for it. -/
def addNode (s : TreeSpacing α) (placed : List (Node α)) (n : Node α) : List (Node α) :=
  let (x, y) := Placement.find s n.width n.height (placed.map Node.box) (n.x, n.y)
  placed ++ [{ n with x := x, y := y }]

section Places

variable {s : TreeSpacing α}

theorem nodes_addBox (g : Graph α) (n : Node α) (arrow : Option Edge) :
    (addBox s g n arrow).nodes = addNode s g.nodes n := rfl

theorem nodes_placeFolder (expanded names : List String) (parent : Option String)
    (left center : α) (node : StructureNode) (g : Graph α) :
    (placeFolder s expanded names parent left center node g).nodes =
      addNode s g.nodes (folderBox s expanded names left center node) := rfl

theorem contents_fileSlots (names : List String) (left : α) (index : Nat) (top : α)
    (files : List StructureNode) :
    ∀ c ∈ fileSlots s names left index top files, c.contents = [] := by
  induction files generalizing index top with
  | nil => exact fun c member => absurd member List.not_mem_nil
  | cons file rest ih =>
    intro c member
    rcases List.mem_cons.mp member with rfl | member
    · rfl
    · exact ih _ _ c member

theorem nodes_placeFiles (names : List String) (left : α) (index : Nat) (top : α)
    (files : List StructureNode) (g : Graph α) :
    (placeFiles s (NodeId.folder names) left index top files g).nodes =
      ((fileSlots s names left index top files).map Slot.node).foldl (addNode s) g.nodes := by
  induction files generalizing index top g with
  | nil => rfl
  | cons file rest ih =>
    rw [placeFiles, ih, nodes_addBox]
    rfl

/-- Placing the folders among some contents ends where their extents end. -/
theorem fst_placeFolders (expanded names : List String) (parentId : String) (left top : α)
    (children : List StructureNode) (g : Graph α) :
    (placeFolders s expanded names parentId left top children g).1 =
      extentOf s expanded names top children := by
  induction children generalizing top g with
  | nil => rw [placeFolders, extentOf]
  | cons child rest ih =>
    rw [placeFolders, extentOf]
    split_ifs
    · exact ih _ _
    · exact ih _ _

mutual

/-- Placing a node puts the boxes of its slots one after the other. -/
theorem nodes_place (expanded names : List String) (parent : Option String) (left center : α) :
    (tree : StructureNode) → (g : Graph α) →
      (place s expanded names parent left center tree g).nodes =
        ((slot s expanded names left center tree).all.map Slot.node).foldl (addNode s) g.nodes
  | .file entry analysis, g => rfl
  | .folder entry segment children, g => by
    rw [place, slot, Slot.all]
    by_cases isOpen : expanded.contains (NodeId.folder names) = true
    · cases children with
      | nil =>
        simp only [isOpen, List.isEmpty_nil, Bool.or_true, ↓reduceIte]
        rfl
      | cons first rest =>
        simp only [isOpen, Bool.not_true, List.isEmpty_cons, Bool.or_false, Bool.false_eq_true,
          ↓reduceIte]
        rw [nodes_placeFiles, fst_placeFolders, nodes_placeFolders, nodes_placeFolder,
          Slot.allOf_append, Slot.allOf_eq_self (contents_fileSlots _ _ _ _ _), List.map_cons,
          List.foldl_cons, List.map_append, List.foldl_append]
    · simp only [isOpen, Bool.not_false, Bool.true_or, ↓reduceIte, Bool.false_eq_true]
      rfl

/-- Placing the folders among some contents puts the boxes of their slots one after the other. -/
theorem nodes_placeFolders (expanded names : List String) (parentId : String) (left top : α) :
    (children : List StructureNode) → (g : Graph α) →
      (placeFolders s expanded names parentId left top children g).2.nodes =
        ((Slot.allOf (folderSlots s expanded names left top children)).map Slot.node).foldl
          (addNode s) g.nodes
  | [], g => by
    rw [placeFolders, folderSlots]
    rfl
  | child :: rest, g => by
    rw [placeFolders, folderSlots]
    split_ifs
    · rw [nodes_placeFolders, nodes_place, Slot.allOf, List.map_append, List.foldl_append]
    · exact nodes_placeFolders _ _ _ _ _ rest g

end

/-- A layout puts the boxes of the slots one after the other, each at the place found for it. -/
theorem nodes_layout (expanded : List String) (tree : StructureNode) :
    (layout s expanded tree).nodes =
      ((rootSlot s expanded tree).all.map Slot.node).foldl (addNode s) [] :=
  nodes_place _ _ _ _ _ tree {}

end Places

section Addresses

variable {s : TreeSpacing α}

theorem addresses_fileSlots (names : List String) (left : α) (index : Nat) (top : α)
    (files : List StructureNode) :
    (fileSlots s names left index top files).map Slot.address =
      (List.range' index files.length).map (Address.file names) := by
  induction files generalizing index top with
  | nil => rfl
  | cons file rest ih =>
    rw [fileSlots, List.map_cons, ih]
    rfl

mutual

/-- There is a slot for each visible node, in the order of the tree. -/
theorem addresses_slot (expanded names : List String) (left center : α) :
    (tree : StructureNode) →
      (slot s expanded names left center tree).all.map Slot.address =
        visible expanded names tree
  | .file entry analysis => rfl
  | .folder entry segment children => by
    rw [slot, Slot.all, visible, List.map_cons]
    split_ifs
    · rw [Slot.allOf_append, Slot.allOf_eq_self (contents_fileSlots _ _ _ _ _), List.map_append,
        addresses_folderSlots, addresses_fileSlots, ← List.range_eq_range']
    · rfl

theorem addresses_folderSlots (expanded names : List String) (left top : α) :
    (children : List StructureNode) →
      (Slot.allOf (folderSlots s expanded names left top children)).map Slot.address =
        visibleFolders expanded names children
  | [] => by
    rw [folderSlots, visibleFolders]
    rfl
  | child :: rest => by
    rw [folderSlots, visibleFolders]
    split_ifs
    · rw [Slot.allOf, List.map_append, addresses_slot, addresses_folderSlots]
    · rw [addresses_folderSlots, List.nil_append]

end

end Addresses

end SiteAtlas.TreeLayout
