import SiteAtlas.Proofs.Project.KeptEntries
import SiteAtlas.Proofs.Project.Nodes
import Mathlib.Data.Prod.Lex

/-! # The tree that a walk builds

A tree has one node for each folder and each file that the walk comes to, and nothing else below its
root. The order in it depends on the names alone, and so does not show how folders list their
entries.
-/

namespace SiteAtlas

/-- What the contents of a folder are ordered by: folders come first. -/
def StructureNode.sortKey (node : StructureNode) : Bool ×ₗ String ×ₗ String :=
  toLex (!node.isFolder, toLex (Text.lower node.name, node.name))

/-- Where a node lies, and whether it is a folder. -/
def StructureNode.place (node : StructureNode) : String × String × Bool :=
  (node.entry.relativePath, node.entry.fullPath, node.isFolder)

namespace Walk

/-- Whether an entry is shown as a folder or as a file, if it is shown. A link is shown as the file
that it leads to. -/
def shownAsFolder? (w : Walk) (path : Path) : FileNode → Option Bool
  | .folder _ => some true
  | .file _ => some false
  | .link _ => if w.files.hasFile path then some false else none

/-- Where an entry is shown, if it is shown. -/
def place? (w : Walk) (root : Path) (row : List String × FileNode) :
    Option (String × String × Bool) :=
  (w.shownAsFolder? (root.descend row.1) row.2).map fun isFolder =>
    (relativeOf row.1, (root.descend row.1).toString, isFolder)

/-- The folder at a path, around what is shown of its entries. -/
def folderAt (w : Walk) (path : Path) (relative : String) (node : FileNode) : StructureNode :=
  w.folderNode path relative
    (w.children path relative (w.folderEntry path relative).route node.entries)

section Nodes

variable {w : Walk} {root path : Path} {relative : String} {route : Option String}
  {names : List String} {node : FileNode} {shown child : StructureNode}

theorem children_eq_flatMap (w : Walk) (path : Path) (relative : String) (route : Option String)
    (entries : List (String × FileNode)) : w.children path relative route entries =
      entries.flatMap fun e =>
        (w.node? (path.child e.1) (childPath relative e.1) route e.2).toList := by
  induction entries with
  | nil => rw [children, List.flatMap_nil]
  | cons e rest ih => rw [children, ih, List.flatMap_cons]

theorem node?_eq (w : Walk) (path : Path) (relative : String) (route : Option String)
    (node : FileNode) : w.node? path relative route node =
      if w.isIgnored relative node.isFolder then none
      else (w.shownAsFolder? path node).map fun isFolder =>
        if isFolder then w.folderAt path relative node else w.fileNode path relative route := by
  cases node with
  | file content => rw [node?]; rfl
  | folder entries => rw [node?]; rfl
  | link target =>
    have notFolder : (FileNode.link target).isFolder = false := rfl
    rw [node?, notFolder, shownAsFolder?]
    cases w.isIgnored relative false <;> cases w.files.hasFile path <;> rfl

theorem mem_children_iff {entries : List (String × FileNode)} :
    child ∈ w.children path relative route entries ↔
      ∃ e ∈ entries, w.node? (path.child e.1) (childPath relative e.1) route e.2 = some child := by
  simp only [children_eq_flatMap, List.mem_flatMap, Option.mem_toList]

theorem build_eq_folderAt (w : Walk) (root : Path) (listing : FileNode) :
    w.build root listing = w.folderAt root "" listing := rfl

variable (w path node) in
theorem relativePath_folderAt (filled : relative ≠ "") :
    (w.folderAt path relative node).entry.relativePath = relative := by
  change (w.folderEntry path relative).relativePath = relative
  rw [folderEntry]
  exact if_neg (by simpa using filled)

/-- Putting the contents of a folder in order moves none of the nodes below it. -/
theorem perm_nodesOf_folderAt :
    (StructureNode.nodesOf (w.folderAt path relative node).children).Perm
      (StructureNode.nodesOf
        (w.children path relative (w.folderEntry path relative).route node.entries)) :=
  StructureNode.perm_nodesOf (List.mergeSort_perm _ entryBefore)

theorem name_of_node? (isShown : w.node? path relative route node = some shown) :
    shown.name = path.name := by
  rw [node?_eq] at isShown
  split at isShown
  · cases isShown
  · obtain ⟨isFolder, -, rfl⟩ := Option.map_eq_some_iff.mp isShown
    cases isFolder <;> rfl

theorem relativePath_of_node? (filled : relative ≠ "")
    (isShown : w.node? path relative route node = some shown) :
    shown.entry.relativePath = relative := by
  rw [node?_eq] at isShown
  split at isShown
  · cases isShown
  · obtain ⟨isFolder, -, rfl⟩ := Option.map_eq_some_iff.mp isShown
    cases isFolder
    · rfl
    · exact relativePath_folderAt w path node filled

/-- What is shown at and below an entry has the places of what is kept there, if that holds of its
own entries. -/
theorem perm_places_node? (filled : relativeOf names ≠ "")
    (below : ((StructureNode.nodesOf (w.children (root.descend names) (relativeOf names)
      (w.folderEntry (root.descend names) (relativeOf names)).route node.entries)).map
        StructureNode.place).Perm ((w.keptIn names node.entries).filterMap (w.place? root))) :
    ((StructureNode.nodesOf
      (w.node? (root.descend names) (relativeOf names) route node).toList).map
        StructureNode.place).Perm ((w.kept names node).filterMap (w.place? root)) := by
  rw [kept_eq, node?_eq]
  cases w.isIgnored (relativeOf names) node.isFolder with
  | true => exact List.Perm.refl _
  | false =>
    cases node with
    | file content => exact List.Perm.refl _
    | link target =>
      change List.Perm _ (List.filterMap (w.place? root) [(names, .link target)])
      cases isFile : w.files.hasFile (root.descend names) with
      | false => simp [place?, shownAsFolder?, isFile, StructureNode.nodesOf]
      | true =>
        simp [place?, shownAsFolder?, isFile, StructureNode.nodesOf, StructureNode.nodes, fileNode,
          StructureNode.place, StructureNode.entry, StructureNode.isFolder]
    | folder entries =>
      change ((w.folderAt (root.descend names) (relativeOf names) (.folder entries)).nodes ++
        StructureNode.nodesOf []).map StructureNode.place |>.Perm _
      rw [StructureNode.nodesOf, List.append_nil, StructureNode.nodes_eq_cons, List.map_cons,
        StructureNode.place, relativePath_folderAt w _ _ filled]
      exact ((perm_nodesOf_folderAt.map StructureNode.place).trans below).cons _

variable (w root) in
/-- What is shown below a folder has the places of what is kept there. -/
theorem perm_places_children (proper : node.isProper = true)
    (parts : ∀ name ∈ names, Path.IsPart name) (route : Option String) :
    ((StructureNode.nodesOf (w.children (root.descend names) (relativeOf names) route
      node.entries)).map StructureNode.place).Perm
        ((w.keptIn names node.entries).filterMap (w.place? root)) := by
  induction node using FileNode.induction_entries generalizing names route with
  | step node ih =>
    rw [children_eq_flatMap, keptIn_eq_flatMap, StructureNode.nodesOf_eq_flatMap,
      List.flatMap_assoc, List.map_flatMap, List.filterMap_flatMap]
    refine List.Perm.flatMap_left _ fun e isEntry => ?_
    obtain ⟨isPart, inside⟩ := (FileNode.isProper_iff.mp proper).2 e isEntry
    have parts' := Path.forall_isPart_concat parts isPart
    rw [Path.child_descend, childPath_relativeOf parts, ← StructureNode.nodesOf_eq_flatMap]
    exact perm_places_node? (relativeOf_ne_empty (by simp) parts') (ih e isEntry inside parts' _)

/-- Each node below a folder is that of a folder that the walk goes into or of a file. -/
theorem exists_origin (proper : node.isProper = true)
    (parts : ∀ name ∈ names, Path.IsPart name) {route : Option String} {shown : StructureNode}
    (member : shown ∈ StructureNode.nodesOf
      (w.children (root.descend names) (relativeOf names) route node.entries)) :
    ∃ names', names' ≠ [] ∧ (∀ name ∈ names', Path.IsPart name) ∧
      ((∃ inner, inner.isProper = true ∧
          shown = w.folderAt (root.descend names') (relativeOf names') inner) ∨
        ∃ route', shown = w.fileNode (root.descend names') (relativeOf names') route') := by
  induction node using FileNode.induction_entries generalizing names route with
  | step node ih =>
    obtain ⟨child, isChild, below⟩ := StructureNode.mem_nodesOf_iff.mp member
    obtain ⟨e, isEntry, isShown⟩ := mem_children_iff.mp isChild
    obtain ⟨isPart, inside⟩ := (FileNode.isProper_iff.mp proper).2 e isEntry
    have parts' := Path.forall_isPart_concat parts isPart
    rw [Path.child_descend, childPath_relativeOf parts, node?_eq] at isShown
    split at isShown
    · cases isShown
    · obtain ⟨shownAs, -, rfl⟩ := Option.map_eq_some_iff.mp isShown
      rw [StructureNode.nodes_eq_cons] at below
      cases shownAs with
      | false =>
        rcases List.mem_cons.mp below with rfl | below
        · exact ⟨names ++ [e.1], by simp, parts', .inr ⟨route, rfl⟩⟩
        · exact absurd below List.not_mem_nil
      | true =>
        rcases List.mem_cons.mp below with rfl | below
        · exact ⟨names ++ [e.1], by simp, parts', .inl ⟨e.2, inside, rfl⟩⟩
        · exact ih e isEntry inside parts' (perm_nodesOf_folderAt.mem_iff.mp below)

end Nodes

/-! ## The order of a folder's contents -/

section Order

variable {w : Walk} {path : Path} {relative : String} {route : Option String} {node : FileNode}

theorem entryBefore_iff {a b : StructureNode} : entryBefore a b = true ↔ a.sortKey ≤ b.sortKey := by
  rw [StructureNode.sortKey, StructureNode.sortKey, Prod.Lex.toLex_le_toLex,
    Prod.Lex.toLex_le_toLex, entryBefore]
  cases a.isFolder <;> cases b.isFolder <;> simp

/-- The contents of a folder have the names of different entries. -/
theorem nodup_names_children (proper : node.isProper = true) :
    ((w.children path relative route node.entries).map StructureNode.name).Nodup := by
  have shownNames (entries : List (String × FileNode)) :
      ((w.children path relative route entries).map StructureNode.name).Sublist
        (entries.map Prod.fst) := by
    induction entries with
    | nil =>
      rw [children]
      exact List.Sublist.refl _
    | cons e rest ih =>
      rw [children, List.map_append]
      cases isShown : w.node? (path.child e.1) (childPath relative e.1) route e.2 with
      | none => exact ih.cons e.1
      | some shown =>
        have own : shown.name = e.1 := (name_of_node? isShown).trans (path.name_child e.1)
        rw [Option.toList_some, List.map_singleton, own]
        exact ih.cons_cons e.1
  exact (shownNames node.entries).nodup (FileNode.isProper_iff.mp proper).1

/-- Nodes of different names are put in one order only. -/
theorem pairwise_mergeSort {nodes : List StructureNode}
    (distinct : (nodes.map StructureNode.name).Nodup) :
    (nodes.mergeSort entryBefore).Pairwise fun a b => a.sortKey < b.sortKey := by
  have sorted : (nodes.mergeSort entryBefore).Pairwise fun a b => a.sortKey ≤ b.sortKey := by
    refine (List.pairwise_mergeSort ?_ ?_ nodes).imp entryBefore_iff.mp
    · intro a b c first second
      exact entryBefore_iff.mpr ((entryBefore_iff.mp first).trans (entryBefore_iff.mp second))
    · intro a b
      rw [Bool.or_eq_true, entryBefore_iff, entryBefore_iff]
      exact le_total _ _
  have apart : (nodes.mergeSort entryBefore).Pairwise fun a b => a.name ≠ b.name :=
    List.pairwise_map.mp (((List.mergeSort_perm nodes entryBefore).map _).nodup_iff.mpr distinct)
  refine (sorted.and apart).imp fun ⟨before, other⟩ => lt_of_le_of_ne before fun same => ?_
  exact other (congrArg (fun key => (ofLex (ofLex key).2).2) same)

theorem mergeSort_eq_of_perm {first second : List StructureNode} (perm : first.Perm second)
    (distinct : (first.map StructureNode.name).Nodup) :
    first.mergeSort entryBefore = second.mergeSort entryBefore := by
  have distinct' := (perm.map StructureNode.name).nodup_iff.mp distinct
  have sorted := (List.mergeSort_perm first entryBefore).trans
    (perm.trans (List.mergeSort_perm second entryBefore).symm)
  refine sorted.eq_of_pairwise ?_ (pairwise_mergeSort distinct) (pairwise_mergeSort distinct')
  intro a b _ _ before after
  exact absurd after (lt_asymm before)

/-- The contents of each folder are in order. -/
theorem pairwise_folderAt (proper : node.isProper = true) :
    (w.folderAt path relative node).children.Pairwise fun a b => a.sortKey < b.sortKey :=
  pairwise_mergeSort (nodup_names_children proper)

end Order

/-! ## What a tree shows -/

/-- A tree shows what is kept below a folder. -/
structure Shows (w : Walk) (root : Path) (listing : FileNode) (tree : StructureNode) : Prop where
  /-- No two nodes below the root have the same path. -/
  once : ((StructureNode.nodesOf tree.children).map fun node => node.entry.relativePath).Nodup
  /-- The nodes below the root are those of the folders and files that are kept. -/
  places : ∀ relative fullPath isFolder,
    (∃ node ∈ StructureNode.nodesOf tree.children, node.entry.relativePath = relative ∧
      node.entry.fullPath = fullPath ∧ node.isFolder = isFolder) ↔
    ∃ names inner, w.Keeps listing names inner ∧
      w.shownAsFolder? (root.descend names) inner = some isFolder ∧
      relative = relativeOf names ∧ fullPath = (root.descend names).toString
  /-- The contents of the root are what lies directly in it. -/
  top : ∀ child ∈ tree.children, child.entry.relativePath = child.name
  /-- The contents of any other folder are what lies directly in it. -/
  below : ∀ folder ∈ StructureNode.nodesOf tree.children, ∀ child ∈ folder.children,
    child.entry.relativePath = folder.entry.relativePath ++ "/" ++ child.name
  /-- The contents of each folder are in order. -/
  inOrder : ∀ folder ∈ tree.nodes, folder.children.Pairwise fun a b => a.sortKey < b.sortKey

section Shows

variable {w : Walk} {root : Path} {listing : FileNode} (proper : listing.isProper = true)
include proper

variable (w root) in
theorem perm_places_build :
    ((StructureNode.nodesOf (w.build root listing).children).map StructureNode.place).Perm
      ((w.keptIn [] listing.entries).filterMap (w.place? root)) := by
  have places := perm_places_children w root proper (List.forall_mem_nil Path.IsPart) none
  rw [Path.descend_nil] at places
  exact (perm_nodesOf_folderAt.map StructureNode.place).trans places

theorem parts_of_mem_keptIn : ∀ row ∈ w.keptIn [] listing.entries,
    ∀ name ∈ row.1, Path.IsPart name := by
  rintro ⟨names, node⟩ member
  exact FileNode.parts_of_at? proper ((mem_keptIn_iff_keeps proper).mp member).2.1

theorem exists_origin_build {shown : StructureNode}
    (member : shown ∈ StructureNode.nodesOf (w.build root listing).children) :
    ∃ names, names ≠ [] ∧ (∀ name ∈ names, Path.IsPart name) ∧
      ((∃ inner, inner.isProper = true ∧
          shown = w.folderAt (root.descend names) (relativeOf names) inner) ∨
        ∃ route, shown = w.fileNode (root.descend names) (relativeOf names) route) := by
  have listed : shown ∈ StructureNode.nodesOf
      (w.children (root.descend []) (relativeOf []) none listing.entries) := by
    rw [Path.descend_nil]
    exact perm_nodesOf_folderAt.mem_iff.mp member
  exact exists_origin proper (List.forall_mem_nil _) listed

/-- Each folder below the root of a walked tree is one of the folders that the walk goes into. -/
theorem exists_folderAt {folder : StructureNode}
    (member : folder ∈ StructureNode.nodesOf (w.build root listing).children)
    (isFolder : folder.isFolder = true) :
    ∃ names inner, names ≠ [] ∧ (∀ name ∈ names, Path.IsPart name) ∧ inner.isProper = true ∧
      folder = w.folderAt (root.descend names) (relativeOf names) inner := by
  obtain ⟨names, nonempty, parts, ⟨inner, inner_proper, rfl⟩ | ⟨route, rfl⟩⟩ :=
    exists_origin_build proper member
  · exact ⟨names, inner, nonempty, parts, inner_proper, rfl⟩
  · cases isFolder

theorem inScope_of_mem {shown : StructureNode}
    (member : shown ∈ StructureNode.nodesOf (w.build root listing).children) :
    shown.entry.inScope = Routing.isInScope w.routerRoot shown.entry.relativePath := by
  obtain ⟨names, nonempty, parts, ⟨inner, -, rfl⟩ | ⟨route, rfl⟩⟩ :=
    exists_origin_build proper member
  · have filled : (relativeOf names).isEmpty = false := by
      simpa using relativeOf_ne_empty nonempty parts
    simp [folderAt, folderNode, folderEntry, StructureNode.entry, filled]
  · simp only [fileNode, StructureNode.entry]

/-- A folder in scope has the URL that its path says. -/
theorem route_of_mem {folder : StructureNode}
    (member : folder ∈ StructureNode.nodesOf (w.build root listing).children)
    (isFolder : folder.isFolder = true) (inScope : folder.entry.inScope = true) :
    folder.entry.route = (Routing.routePath? w.routerRoot folder.entry.relativePath).map
      Routing.displayRoute := by
  obtain ⟨names, inner, nonempty, parts, -, rfl⟩ := exists_folderAt proper member isFolder
  have filled : (relativeOf names).isEmpty = false := by
    simpa using relativeOf_ne_empty nonempty parts
  have scope : Routing.isInScope w.routerRoot (relativeOf names) = true := by
    simpa [folderAt, folderNode, folderEntry, StructureNode.entry, filled] using inScope
  simp [folderAt, folderNode, folderEntry, StructureNode.entry, filled, scope]

/-- The contents of a folder lie directly in it. -/
theorem relativePath_of_mem_folderAt {names : List String}
    (parts : ∀ name ∈ names, Path.IsPart name) {child : StructureNode}
    (member : child ∈ (w.folderAt (root.descend names) (relativeOf names) listing).children) :
    child.entry.relativePath = relativeOf (names ++ [child.name]) := by
  obtain ⟨e, isEntry, isShown⟩ := mem_children_iff.mp (List.mem_mergeSort.mp member)
  obtain ⟨isPart, -⟩ := (FileNode.isProper_iff.mp proper).2 e isEntry
  have own : child.name = e.1 := (name_of_node? isShown).trans (Path.name_child _ e.1)
  rw [childPath_relativeOf parts] at isShown
  rw [own]
  exact relativePath_of_node?
    (relativeOf_ne_empty (by simp) (Path.forall_isPart_concat parts isPart)) isShown

variable (w root) in
/-- The tree that a walk builds shows what is kept. -/
theorem shows_build : w.Shows root listing (w.build root listing) where
  once := by
    have paths := (perm_places_build w root proper).map Prod.fst
    rw [List.map_map] at paths
    refine paths.nodup_iff.mpr (List.pairwise_map.mpr (List.pairwise_filterMap.mpr ?_))
    refine (List.pairwise_map.mp (nodup_keptIn proper [])).imp_of_mem ?_
    intro row row' member member' other place isPlace place' isPlace' same
    obtain ⟨_, -, rfl⟩ := Option.map_eq_some_iff.mp isPlace
    obtain ⟨_, -, rfl⟩ := Option.map_eq_some_iff.mp isPlace'
    have parts := parts_of_mem_keptIn proper row member
    have parts' := parts_of_mem_keptIn proper row' member'
    exact other ((relativeOf_inj parts parts').mp same)
  places := by
    intro relative fullPath isFolder
    have listed := (perm_places_build w root proper).mem_iff
      (a := (relative, fullPath, isFolder))
    constructor
    · rintro ⟨node, member, rfl, rfl, rfl⟩
      obtain ⟨⟨names, inner⟩, isKept, isPlace⟩ :=
        List.mem_filterMap.mp (listed.mp (List.mem_map_of_mem member))
      obtain ⟨shownAs, isShown, same⟩ := Option.map_eq_some_iff.mp isPlace
      rw [Prod.mk.injEq, Prod.mk.injEq] at same
      obtain ⟨sameRelative, sameFull, rfl⟩ := same
      exact ⟨names, inner, (mem_keptIn_iff_keeps proper).mp isKept, isShown, sameRelative.symm,
        sameFull.symm⟩
    · rintro ⟨names, inner, keeps, isShown, rfl, rfl⟩
      have isKept := (mem_keptIn_iff_keeps proper).mpr keeps
      obtain ⟨node, member, same⟩ := List.mem_map.mp (listed.mpr (List.mem_filterMap.mpr
        ⟨(names, inner), isKept, Option.map_eq_some_iff.mpr ⟨isFolder, isShown, rfl⟩⟩))
      simp only [StructureNode.place, Prod.mk.injEq] at same
      exact ⟨node, member, same⟩
  top := by
    intro child member
    rw [build_eq_folderAt, ← root.descend_nil] at member
    exact relativePath_of_mem_folderAt proper (List.forall_mem_nil _) member
  below := by
    intro folder inside child member
    cases isFolder : folder.isFolder with
    | false =>
      rw [StructureNode.children_of_isFile isFolder] at member
      exact absurd member List.not_mem_nil
    | true =>
      obtain ⟨names, inner, nonempty, parts, inner_proper, rfl⟩ :=
        exists_folderAt proper inside isFolder
      rw [relativePath_of_mem_folderAt inner_proper parts member]
      rw [relativePath_folderAt w _ inner (relativeOf_ne_empty nonempty parts), relativeOf,
        String.intercalate_append_of_ne_nil nonempty (List.cons_ne_nil _ []),
        String.intercalate_singleton]
      rfl
  inOrder := by
    intro folder member
    rw [StructureNode.nodes_eq_cons] at member
    rcases List.mem_cons.mp member with rfl | member
    · exact pairwise_folderAt proper
    · cases isFolder : folder.isFolder with
      | false =>
        rw [StructureNode.children_of_isFile isFolder]
        exact List.Pairwise.nil
      | true =>
        obtain ⟨names, inner, -, -, inner_proper, rfl⟩ :=
          exists_folderAt proper member isFolder
        exact pairwise_folderAt inner_proper

end Shows

end Walk

end SiteAtlas
