import SiteAtlas.Proofs.Layout.Extents
import Mathlib.Algebra.Order.BigOperators.Group.List
import Mathlib.Tactic.Ring

/-! # Slots under roomy measures

If the measures leave more room between columns and between rows than two paddings, each slot of a
tree is tidy: its box stands in the middle of it and in the column of its level, and the slots of
its contents lie in it one below the other, in the order of the tree.
-/

namespace SiteAtlas

/-- Measures that leave more than two paddings between columns and between rows. -/
structure TreeSpacing.Roomy (s : TreeSpacing Rat) : Prop where
  padding : 0 ≤ s.collisionPadding
  folderWidth : 0 ≤ s.folderWidth
  fileWidth : 0 ≤ s.fileWidth
  folderHeight : 0 ≤ s.folderHeight
  fileHeight : 0 ≤ s.fileHeight
  folderGap : 2 * s.collisionPadding < s.folderSpacing
  fileGap : s.fileHeight + 2 * s.collisionPadding < s.fileSpacing
  folderRoom : s.folderHeight ≤ s.minTreeExtent
  aligned : s.fileOffset = 0
  columns : max s.folderWidth s.fileWidth + 2 * s.collisionPadding < s.depthDistance
  attempts : 1 ≤ s.maxAttempts

namespace TreeLayout

/-- How deep in the tree a node lies. -/
def Address.depth : Address → Nat
  | folder names => names.length
  | file names _ => names.length + 1

namespace Slot

/-- The height at which a slot ends. -/
def bottom (c : Slot Rat) : Rat := c.top + c.room

/-- The highest place that boxes in a slot reach: a file leaves a margin in its row. -/
def high (c : Slot Rat) : Rat :=
  match c.address with
  | .folder _ => c.top
  | .file .. => c.node.y

/-- The lowest place that boxes in a slot reach. -/
def low (c : Slot Rat) : Rat :=
  match c.address with
  | .folder _ => c.bottom
  | .file .. => c.node.y + c.node.height

/-- How a slot lies to its box and to the slots of its contents. -/
structure Tidy (s : TreeSpacing Rat) (expanded : List String) (c : Slot Rat) : Prop where
  /-- The box is that of the node. -/
  named : c.node.id = c.address.id
  /-- The contents of an expanded folder have slots, folders before files, in the order of the
  tree. -/
  listed : (c.contents.map fun d => (d.address, d.source)) =
    if expanded.contains c.address.id then
      (c.source.folders.map fun f => (.folder (c.address.names ++ [f.name]), f))
        ++ c.source.files.zipIdx.map fun (f, index) => (.file c.address.names index, f)
    else []
  /-- Each level of the tree has its column. -/
  column : c.node.x = s.rootX + c.address.depth * s.depthDistance
  /-- The slot of a folder is its extent. -/
  reserved : ∀ names, c.address = .folder names → c.room = extent s expanded names c.source
  /-- The box stands in the middle of the slot. -/
  centred : c.node.y + c.node.height / 2 = c.top + c.room / 2
  /-- The box does not reach out of the slot. -/
  framed : (c.top ≤ c.high ∧ c.high ≤ c.node.y) ∧
    c.node.y + c.node.height ≤ c.low ∧ c.low ≤ c.bottom
  /-- The box has no negative width. -/
  wide : 0 ≤ c.node.width
  /-- The contents stand to the right. -/
  rightward : ∀ d ∈ c.contents, c.node.x + c.node.width + 2 * s.collisionPadding < d.node.x
  /-- The slots of the contents lie in the slot. -/
  inside : ∀ d ∈ c.contents, c.high ≤ d.top ∧ d.bottom ≤ c.low
  /-- The slots of the contents lie one below the other. -/
  stacked : c.contents.Pairwise fun a b =>
    a.bottom ≤ b.top ∧ a.low + 2 * s.collisionPadding < b.high

end Slot

section Lists

variable {s : TreeSpacing Rat} {expanded : List String}

theorem le_extentOf (roomy : s.Roomy) (expanded names : List String) (total : Rat)
    (children : List StructureNode) : total ≤ extentOf s expanded names total children := by
  rw [extentOf_eq_sum]
  apply le_add_of_nonneg_right
  apply List.sum_nonneg
  intro height member
  obtain ⟨f, -, rfl⟩ := List.mem_map.mp member
  have tall := folderHeight_le_extent roomy.folderRoom expanded (names ++ [f.name]) f
  linarith [roomy.padding, roomy.folderHeight, roomy.folderGap]

theorem slot_source (names : List String) (left center : Rat) (tree : StructureNode) :
    (slot s expanded names left center tree).source = tree := by
  cases tree <;> rfl

theorem slot_address (names : List String) (left center : Rat) (tree : StructureNode) :
    (slot s expanded names left center tree).address = .folder names := by
  cases tree <;> rfl

theorem slot_room (names : List String) (left center : Rat) (tree : StructureNode) :
    (slot s expanded names left center tree).room = extent s expanded names tree := by
  cases tree <;> rfl

theorem slot_node (names : List String) (left center : Rat) (tree : StructureNode) :
    (slot s expanded names left center tree).node =
      folderBox s expanded names left center tree := by
  cases tree <;> rfl

theorem slot_top (names : List String) (left center : Rat) (tree : StructureNode) :
    (slot s expanded names left center tree).top =
      center - extent s expanded names tree / 2 := by
  cases tree <;> rfl

theorem slot_bottom (names : List String) (left center : Rat) (tree : StructureNode) :
    (slot s expanded names left center tree).bottom =
      center + extent s expanded names tree / 2 := by
  rw [Slot.bottom, slot_top, slot_room]
  ring

/-- The slot of a folder is filled by what stands in it. -/
theorem slot_frame (names : List String) (left center : Rat) (tree : StructureNode) :
    (slot s expanded names left center tree).high =
        (slot s expanded names left center tree).top ∧
      (slot s expanded names left center tree).low =
        (slot s expanded names left center tree).bottom := by
  rw [Slot.high, Slot.low, slot_address]
  exact ⟨rfl, rfl⟩

/-- The slots of folders are those of the folders among some contents, each around its own
middle. -/
theorem mem_folderSlots {names : List String} {left top : Rat} {children : List StructureNode}
    {d : Slot Rat} (member : d ∈ folderSlots s expanded names left top children) :
    ∃ child ∈ children, ∃ center,
      d = slot s expanded (names ++ [child.name]) left center child := by
  induction children generalizing top with
  | nil => exact absurd member List.not_mem_nil
  | cons child rest ih =>
    rw [folderSlots] at member
    split_ifs at member
    · rcases List.mem_cons.mp member with rfl | member
      · exact ⟨child, List.mem_cons_self, _, rfl⟩
      · obtain ⟨other, isOther, found⟩ := ih member
        exact ⟨other, List.mem_cons_of_mem _ isOther, found⟩
    · obtain ⟨other, isOther, found⟩ := ih member
      exact ⟨other, List.mem_cons_of_mem _ isOther, found⟩

theorem listed_folderSlots (names : List String) (left top : Rat)
    (children : List StructureNode) :
    ((folderSlots s expanded names left top children).map fun d => (d.address, d.source)) =
      (children.filter StructureNode.isFolder).map fun f => (.folder (names ++ [f.name]), f) := by
  induction children generalizing top with
  | nil =>
    rw [folderSlots]
    rfl
  | cons child rest ih =>
    rw [folderSlots]
    split_ifs with isFolder
    · rw [List.map_cons, ih, slot_address, slot_source, List.filter_cons_of_pos isFolder,
        List.map_cons]
    · rw [ih, List.filter_cons_of_neg isFolder]

/-- The slots of folders begin at the given place, end where their extents end, and follow each
other with the spacing between them. -/
theorem stacked_folderSlots (roomy : s.Roomy) (expanded names : List String) (left top : Rat)
    (children : List StructureNode) :
    (∀ d ∈ folderSlots s expanded names left top children,
      top ≤ d.top ∧ d.bottom + s.folderSpacing ≤ extentOf s expanded names top children) ∧
    (folderSlots s expanded names left top children).Pairwise fun a b =>
      a.bottom + s.folderSpacing ≤ b.top := by
  induction children generalizing top with
  | nil =>
    rw [folderSlots]
    exact ⟨fun d member => absurd member List.not_mem_nil, .nil⟩
  | cons child rest ih =>
    rw [folderSlots, extentOf]
    split_ifs
    · have long := folderHeight_le_extent roomy.folderRoom expanded (names ++ [child.name]) child
      have bound := roomy.folderHeight
      have gap := roomy.folderGap
      have padding := roomy.padding
      obtain ⟨within, apart⟩ :=
        ih (top + (extent s expanded (names ++ [child.name]) child + s.folderSpacing))
      have begins : (slot s expanded (names ++ [child.name]) left
          (top + Scalar.half (extent s expanded (names ++ [child.name]) child)) child).top =
            top := by
        rw [slot_top]
        exact add_sub_cancel_right top _
      have ends : (slot s expanded (names ++ [child.name]) left
          (top + Scalar.half (extent s expanded (names ++ [child.name]) child)) child).bottom =
            top + extent s expanded (names ++ [child.name]) child := by
        rw [Slot.bottom, begins, slot_room]
      refine ⟨fun d member => ?_, List.pairwise_cons.mpr ⟨fun d member => ?_, apart⟩⟩
      · rcases List.mem_cons.mp member with rfl | member
        · rw [begins, ends, add_assoc]
          exact ⟨le_refl _, le_extentOf roomy expanded names _ rest⟩
        · obtain ⟨above, below⟩ := within d member
          exact ⟨by linarith, below⟩
      · rw [ends, add_assoc]
        exact (within d member).1
    · exact ih top

theorem mem_fileSlots {names : List String} {left : Rat} {index : Nat} {top : Rat}
    {files : List StructureNode} {d : Slot Rat}
    (member : d ∈ fileSlots s names left index top files) :
    ∃ file ∈ files, ∃ index row, d = ⟨.file names index, file, fileBox s names left index row file,
      row, s.fileSpacing, []⟩ := by
  induction files generalizing index top with
  | nil => exact absurd member List.not_mem_nil
  | cons file rest ih =>
    rcases List.mem_cons.mp member with rfl | member
    · exact ⟨file, List.mem_cons_self, _, _, rfl⟩
    · obtain ⟨other, isOther, found⟩ := ih member
      exact ⟨other, List.mem_cons_of_mem _ isOther, found⟩

theorem listed_fileSlots (names : List String) (left : Rat) (index : Nat) (top : Rat)
    (files : List StructureNode) :
    ((fileSlots s names left index top files).map fun d => (d.address, d.source)) =
      (files.zipIdx index).map fun (f, index) => (.file names index, f) := by
  induction files generalizing index top with
  | nil => rfl
  | cons file rest ih => rw [fileSlots, List.map_cons, ih, List.zipIdx_cons, List.map_cons]

/-- The rows of files begin at the given place and follow each other directly. -/
theorem stacked_fileSlots (roomy : s.Roomy) (names : List String) (left : Rat) (index : Nat)
    (top : Rat) (files : List StructureNode) :
    (∀ d ∈ fileSlots s names left index top files,
      top ≤ d.top ∧ d.bottom ≤ top + files.length * s.fileSpacing) ∧
    (fileSlots s names left index top files).Pairwise fun a b => a.bottom ≤ b.top := by
  have height := roomy.fileHeight
  have gap := roomy.fileGap
  have padding := roomy.padding
  induction files generalizing index top with
  | nil => exact ⟨fun d member => absurd member List.not_mem_nil, .nil⟩
  | cons file rest ih =>
    obtain ⟨within, apart⟩ := ih (index + 1) (top + s.fileSpacing)
    rw [fileSlots, List.length_cons, Nat.cast_add, Nat.cast_one]
    have rows : 0 ≤ (rest.length : Rat) * s.fileSpacing :=
      mul_nonneg (Nat.cast_nonneg _) (by linarith)
    refine ⟨fun d member => ?_, List.pairwise_cons.mpr ⟨fun d member => ?_, apart⟩⟩
    · rcases List.mem_cons.mp member with rfl | member
      · refine ⟨le_refl top, ?_⟩
        change top + s.fileSpacing ≤ _
        linarith
      · obtain ⟨above, below⟩ := within d member
        exact ⟨by linarith, by linarith⟩
    · exact (within d member).1

end Lists

section Contents

variable {s : TreeSpacing Rat} {expanded : List String}

/-- The slots of the contents of an expanded folder are spread around its middle, folders before
files. -/
theorem contents_slot (names : List String) (left center : Rat) (tree : StructureNode) :
    (slot s expanded names left center tree).contents =
      if expanded.contains (NodeId.folder names) then
        folderSlots s expanded names (left + s.depthDistance)
            (center - contentsHeight s expanded names tree / 2) tree.children
          ++ fileSlots s names (left + s.depthDistance) 0
            (extentOf s expanded names (center - contentsHeight s expanded names tree / 2)
              tree.children) tree.files
      else [] := by
  cases tree with
  | folder entry segment children => rfl
  | file entry analysis =>
    rw [StructureNode.children, StructureNode.files, folderSlots]
    exact (ite_self []).symm

theorem frame_of_mem_folderSlots {names : List String} {left top : Rat}
    {children : List StructureNode} {d : Slot Rat}
    (member : d ∈ folderSlots s expanded names left top children) :
    d.high = d.top ∧ d.low = d.bottom := by
  obtain ⟨child, -, center, rfl⟩ := mem_folderSlots member
  exact slot_frame _ _ _ _

/-- The box of a file leaves the same margin above and below it. -/
theorem frame_of_mem_fileSlots {names : List String} {left : Rat} {index : Nat} {top : Rat}
    {files : List StructureNode} {d : Slot Rat}
    (member : d ∈ fileSlots s names left index top files) :
    d.high = d.top + (s.fileSpacing - s.fileHeight) / 2 ∧
      d.low = d.bottom - (s.fileSpacing - s.fileHeight) / 2 := by
  obtain ⟨file, -, index, row, rfl⟩ := mem_fileSlots member
  constructor
  · change row + s.fileSpacing / 2 - s.fileHeight / 2 = _
    ring
  · change row + s.fileSpacing / 2 - s.fileHeight / 2 + s.fileHeight =
      row + s.fileSpacing - (s.fileSpacing - s.fileHeight) / 2
    ring

/-- The slots of the contents of a folder lie one below the other, and what stands in them is more
than two paddings apart. -/
theorem stacked_contents (roomy : s.Roomy) (names : List String) (left top : Rat)
    (children files : List StructureNode) :
    (folderSlots s expanded names left top children
      ++ fileSlots s names left 0 (extentOf s expanded names top children) files).Pairwise
      fun a b => a.bottom ≤ b.top ∧ a.low + 2 * s.collisionPadding < b.high := by
  have padding := roomy.padding
  have folderGap := roomy.folderGap
  have fileGap := roomy.fileGap
  obtain ⟨folders, foldersApart⟩ :=
    stacked_folderSlots roomy expanded names left top children
  obtain ⟨rows, rowsApart⟩ :=
    stacked_fileSlots roomy names left 0 (extentOf s expanded names top children) files
  refine List.pairwise_append.mpr ⟨?_, ?_, ?_⟩
  · refine foldersApart.imp_of_mem fun {a b} isFolder isFolder' apart => ?_
    rw [(frame_of_mem_folderSlots isFolder).2, (frame_of_mem_folderSlots isFolder').1]
    exact ⟨by linarith, by linarith⟩
  · refine rowsApart.imp_of_mem fun {a b} isFile isFile' apart => ?_
    rw [(frame_of_mem_fileSlots isFile).2, (frame_of_mem_fileSlots isFile').1]
    exact ⟨apart, by linarith⟩
  · intro a isFolder b isFile
    have ends := (folders a isFolder).2
    have begins := (rows b isFile).1
    rw [(frame_of_mem_folderSlots isFolder).2, (frame_of_mem_fileSlots isFile).1]
    exact ⟨by linarith, by linarith⟩

/-- The slots of the contents of an expanded folder lie in its own. -/
theorem inside_contents (roomy : s.Roomy) {names : List String} {left center : Rat}
    {tree : StructureNode} {d : Slot Rat}
    (member : d ∈ (slot s expanded names left center tree).contents) :
    center - extent s expanded names tree / 2 ≤ d.top ∧
      d.bottom ≤ center + extent s expanded names tree / 2 := by
  rw [contents_slot] at member
  split_ifs at member with isOpen
  · have room := contentsHeight_le_extent roomy.folderHeight tree isOpen
    have height : contentsHeight s expanded names tree =
        extentOf s expanded names 0 tree.children + tree.files.length * s.fileSpacing := rfl
    have sum : extentOf s expanded names (center - contentsHeight s expanded names tree / 2)
        tree.children = _ := extentOf_eq_add s expanded names _ _
    have folders := le_extentOf roomy expanded names 0 tree.children
    have files : 0 ≤ (tree.files.length : Rat) * s.fileSpacing :=
      mul_nonneg (Nat.cast_nonneg _)
        (by linarith [roomy.fileHeight, roomy.fileGap, roomy.padding])
    rcases List.mem_append.mp member with member | member
    · obtain ⟨above, below⟩ := (stacked_folderSlots roomy expanded names _ _ _).1 d member
      exact ⟨by linarith, by linarith [roomy.folderGap, roomy.padding]⟩
    · obtain ⟨above, below⟩ := (stacked_fileSlots roomy names _ _ _ _).1 d member
      exact ⟨by linarith, by linarith⟩
  · exact absurd member List.not_mem_nil

/-- The boxes of the contents of a folder have their left edges one column further right. -/
theorem column_contents (roomy : s.Roomy) {names : List String} {left center : Rat}
    {tree : StructureNode} {d : Slot Rat}
    (member : d ∈ (slot s expanded names left center tree).contents) :
    d.node.x = left + s.depthDistance := by
  rw [contents_slot] at member
  split_ifs at member
  · rcases List.mem_append.mp member with member | member
    · obtain ⟨child, -, center, rfl⟩ := mem_folderSlots member
      rw [slot_node]
      rfl
    · obtain ⟨file, -, index, row, rfl⟩ := mem_fileSlots member
      change left + s.depthDistance + s.fileOffset = left + s.depthDistance
      rw [roomy.aligned, add_zero]
  · exact absurd member List.not_mem_nil

end Contents

section Tidy

variable {s : TreeSpacing Rat} {expanded : List String}

/-- The slot of a folder is tidy wherever its middle is. -/
theorem tidy_slot (roomy : s.Roomy) (names : List String) {left : Rat} (center : Rat)
    (tree : StructureNode) (column : left = s.rootX + names.length * s.depthDistance) :
    (slot s expanded names left center tree).Tidy s expanded where
  named := by
    rw [slot_node, slot_address]
    rfl
  listed := by
    rw [contents_slot, slot_address, slot_source]
    change _ = if expanded.contains (NodeId.folder names) = true then _ else _
    split_ifs
    · rw [List.map_append, listed_folderSlots, listed_fileSlots]
      rfl
    · rfl
  column := by
    rw [slot_node, slot_address]
    exact column
  reserved := by
    intro path same
    rw [slot_address] at same
    rw [slot_room, slot_source, Address.folder.inj same]
  centred := by
    rw [slot_node, slot_top, slot_room]
    change center - s.folderHeight / 2 + s.folderHeight / 2 = _
    ring
  framed := by
    have long := folderHeight_le_extent roomy.folderRoom expanded names tree
    rw [(slot_frame names left center tree).1, (slot_frame names left center tree).2, slot_top,
      slot_bottom, slot_node]
    change (_ ∧ _ ≤ center - s.folderHeight / 2) ∧
      center - s.folderHeight / 2 + s.folderHeight ≤ _ ∧ _
    exact ⟨⟨le_refl _, by linarith⟩, by linarith, le_refl _⟩
  wide := by
    rw [slot_node]
    exact roomy.folderWidth
  rightward := by
    intro d member
    have width := le_max_left s.folderWidth s.fileWidth
    have columns := roomy.columns
    rw [column_contents roomy member, slot_node]
    change left + s.folderWidth + 2 * s.collisionPadding < left + s.depthDistance
    linarith
  inside := by
    intro d member
    rw [(slot_frame names left center tree).1, (slot_frame names left center tree).2, slot_top,
      slot_bottom]
    exact inside_contents roomy member
  stacked := by
    rw [contents_slot]
    split_ifs
    · exact stacked_contents roomy names _ _ _ _
    · exact .nil

/-- The row of a file is tidy. -/
theorem tidy_file (roomy : s.Roomy) (names : List String) {left : Rat} (index : Nat) (row : Rat)
    {file : StructureNode} (isFile : file.isFolder = false)
    (column : left = s.rootX + (names.length + 1 : Nat) * s.depthDistance) :
    (⟨.file names index, file, fileBox s names left index row file, row, s.fileSpacing, []⟩ :
      Slot Rat).Tidy s expanded where
  named := rfl
  listed := by
    cases file with
    | folder entry segment children => cases isFile
    | file entry analysis => exact (ite_self []).symm
  column := by
    change left + s.fileOffset = _
    rw [roomy.aligned, add_zero]
    exact column
  reserved := fun _ same => Address.noConfusion same
  centred := by
    change row + s.fileSpacing / 2 - s.fileHeight / 2 + s.fileHeight / 2 = row + s.fileSpacing / 2
    ring
  framed := by
    have gap := roomy.fileGap
    have padding := roomy.padding
    change (row ≤ row + s.fileSpacing / 2 - s.fileHeight / 2 ∧ _) ∧
      _ ∧ row + s.fileSpacing / 2 - s.fileHeight / 2 + s.fileHeight ≤ row + s.fileSpacing
    exact ⟨⟨by linarith, le_refl _⟩, le_refl _, by linarith⟩
  wide := roomy.fileWidth
  rightward := fun _ member => absurd member List.not_mem_nil
  inside := fun _ member => absurd member List.not_mem_nil
  stacked := .nil

/-- The slot of a folder in the column of its level, or that of a file in the next column. -/
inductive IsSlot (s : TreeSpacing Rat) (expanded : List String) : Slot Rat → Prop
  | folder (names : List String) {left : Rat} (center : Rat) (tree : StructureNode)
      (column : left = s.rootX + names.length * s.depthDistance) :
      IsSlot s expanded (slot s expanded names left center tree)
  | file (names : List String) {left : Rat} (index : Nat) (row : Rat) {file : StructureNode}
      (isFile : file.isFolder = false)
      (column : left = s.rootX + (names.length + 1 : Nat) * s.depthDistance) :
      IsSlot s expanded
        ⟨.file names index, file, fileBox s names left index row file, row, s.fileSpacing, []⟩

mutual

/-- What all slots at and below a node are, if its box stands in the column of its level. -/
theorem isSlot_of_mem_slot {c : Slot Rat} :
    (tree : StructureNode) → (names : List String) → (left center : Rat) →
      left = s.rootX + names.length * s.depthDistance →
      c ∈ (slot s expanded names left center tree).all → IsSlot s expanded c
  | .file entry analysis, names, left, center, column, member => by
    obtain rfl : c = slot s expanded names left center (.file entry analysis) :=
      List.mem_singleton.mp member
    exact .folder names center _ column
  | .folder entry segment children, names, left, center, column, member => by
    have next : left + s.depthDistance = s.rootX + (names.length + 1 : Nat) * s.depthDistance := by
      rw [column, Nat.cast_add, Nat.cast_one]
      ring
    rw [Slot.all_eq, contents_slot] at member
    rcases List.mem_cons.mp member with rfl | member
    · exact .folder names center _ column
    split_ifs at member
    · rw [Slot.allOf_append, Slot.allOf_eq_self (contents_fileSlots _ _ _ _ _)] at member
      rcases List.mem_append.mp member with member | member
      · exact isSlot_of_mem_folderSlots children names _ _ next member
      · obtain ⟨file, isFile, index, row, rfl⟩ := mem_fileSlots member
        exact .file names index row (by simpa using (List.mem_filter.mp isFile).2) next
    · exact absurd member List.not_mem_nil

theorem isSlot_of_mem_folderSlots {c : Slot Rat} :
    (children : List StructureNode) → (names : List String) → (left top : Rat) →
      left = s.rootX + (names.length + 1 : Nat) * s.depthDistance →
      c ∈ Slot.allOf (folderSlots s expanded names left top children) → IsSlot s expanded c
  | [], names, left, top, column, member => by
    rw [folderSlots] at member
    exact absurd member List.not_mem_nil
  | child :: rest, names, left, top, column, member => by
    rw [folderSlots] at member
    split_ifs at member
    · rcases List.mem_append.mp member with member | member
      · refine isSlot_of_mem_slot child (names ++ [child.name]) left _ ?_ member
        rw [column, List.length_append, List.length_singleton]
      · exact isSlot_of_mem_folderSlots rest names left _ column member
    · exact isSlot_of_mem_folderSlots rest names left top column member

end

/-- All slots at and below a node are tidy, if its box stands in the column of its level. -/
theorem tidy_of_mem_slot (roomy : s.Roomy) {c : Slot Rat} (tree : StructureNode)
    (names : List String) (left center : Rat)
    (column : left = s.rootX + names.length * s.depthDistance)
    (member : c ∈ (slot s expanded names left center tree).all) : c.Tidy s expanded := by
  cases isSlot_of_mem_slot tree names left center column member with
  | folder names center tree column => exact tidy_slot roomy names center tree column
  | file names index row isFile column => exact tidy_file roomy names index row isFile column

end Tidy

end TreeLayout

end SiteAtlas
