import SiteAtlas.Proofs.Layout.Listing
import SiteAtlas.Proofs.Layout.Slots

/-! # What a layout shows

Placing a tree adds the listed nodes whose folders are all expanded, and an arrow to each but the
root. Positions aside, a layout is therefore the listing of the tree, reduced to these nodes. The
expanded folders matter only as far as they are folders of the tree.
-/

namespace SiteAtlas.TreeLayout

namespace Occurrence

/-- Whether all folders that a node lies in are expanded. -/
def isShown (expanded : List String) (o : Occurrence) : Bool :=
  o.above.all fun path => expanded.contains (NodeId.folder path)

/-- All that a placed node shows but its position and size. -/
def label (expanded : List String) (o : Occurrence) : String × String × Fields :=
  match o.address with
  | .folder names =>
    let id := NodeId.folder names
    (id, "folder", folderData id (expanded.contains id) o.source)
  | .file names index =>
    let id := NodeId.file (NodeId.folder names) index
    (id, "file", fileData id o.source)

/-- The arrow to a node from the folder that it lies in. -/
def arrow? (o : Occurrence) : Option Edge :=
  o.above.getLast?.map fun path =>
    edge (NodeId.folder path) o.address.id (scopeStyle o.source) o.source.name

theorem isShown_iff {expanded : List String} {o : Occurrence} : o.isShown expanded = true ↔
    ∀ path ∈ o.above, expanded.contains (NodeId.folder path) = true :=
  List.all_eq_true

theorem fst_label (expanded : List String) (o : Occurrence) :
    (o.label expanded).1 = o.address.id := by
  unfold label
  split <;> simp [*, Address.id]

/-- The arrow to a node starts at the folder that it lies in. -/
theorem In.arrow?_eq {o p : Occurrence} (inside : o.In p) :
    o.arrow? = some (edge p.address.id o.address.id (scopeStyle o.source) o.source.name) := by
  rw [arrow?, inside.above, List.getLast?_concat, Option.map_some]
  have id : p.address.id = NodeId.folder p.address.names := by
    rw [inside.folder]
    rfl
  rw [id]

/-- The folder that a shown node lies in is shown. -/
theorem In.isShown {o p : Occurrence} {expanded : List String} (inside : o.In p)
    (shown : o.isShown expanded = true) : p.isShown expanded = true := by
  rw [Occurrence.isShown, inside.above, List.all_append, Bool.and_eq_true] at shown
  exact shown.1

end Occurrence

/-- All that a placed node shows but its position and size. -/
def face {α : Type} (n : Node α) : String × String × Fields := (n.id, n.kind, n.data)

section Shows

variable {α : Type} {expanded : List String}

/-- The second graph shows some more nodes behind those of the first one, with arrows to them. -/
structure Shows (expanded : List String) (g g' : Graph α) (added : List Occurrence) : Prop where
  nodes : g'.nodes.map face = g.nodes.map face ++ added.map (Occurrence.label expanded)
  edges : g'.edges = g.edges ++ added.filterMap Occurrence.arrow?

theorem Shows.refl (g : Graph α) : Shows expanded g g [] where
  nodes := (List.append_nil _).symm
  edges := (List.append_nil _).symm

theorem Shows.trans {g g' g'' : Graph α} {first second : List Occurrence}
    (run : Shows expanded g g' first) (run' : Shows expanded g' g'' second) :
    Shows expanded g g'' (first ++ second) where
  nodes := by rw [run'.nodes, run.nodes, List.map_append, List.append_assoc]
  edges := by rw [run'.edges, run.edges, List.filterMap_append, List.append_assoc]

variable [Scalar α] {s : TreeSpacing α}

/-- Moving a box to a free place changes nothing that it shows. -/
theorem shows_addBox (g : Graph α) {n : Node α} {o : Occurrence}
    (label : face n = o.label expanded) :
    Shows expanded g (addBox s g n o.arrow?) [o] where
  nodes := by
    rw [List.map_singleton, ← label]
    simp [addBox, face]
  edges := by
    cases arrow : o.arrow? <;> simp [addBox, arrow]

theorem shows_placeFiles (left : α) {above : List (List String)} {names : List String}
    (index : Nat) (top : α) (files : List StructureNode) (g : Graph α) :
    Shows expanded g (placeFiles s (NodeId.folder names) left index top files g)
      (filesIn (above ++ [names]) names index files) := by
  induction files generalizing index top g with
  | nil => exact .refl g
  | cons file rest ih =>
    have own : Occurrence.arrow? ⟨above ++ [names], .file names index, file⟩ =
        some (edge (NodeId.folder names) (NodeId.file (NodeId.folder names) index)
          (scopeStyle file) file.name) := by
      rw [Occurrence.arrow?, List.getLast?_concat]
      rfl
    have first : Shows expanded g _ [⟨above ++ [names], .file names index, file⟩] :=
      shows_addBox (s := s) g (n := fileBox s names left index top file) rfl
    rw [own] at first
    exact first.trans (ih _ _ _)

variable (expanded s) in
theorem shows_placeFolder (above : List (List String)) (names : List String) (left center : α)
    (node : StructureNode) (g : Graph α) :
    Shows expanded g (placeFolder s expanded names (above.getLast?.map NodeId.folder) left center
      node g) [⟨above, .folder names, node⟩] := by
  have own : Occurrence.arrow? ⟨above, .folder names, node⟩ =
      (above.getLast?.map NodeId.folder).map fun p =>
        edge p (NodeId.folder names) (scopeStyle node) node.name := by
    rw [Occurrence.arrow?, Option.map_map]
    rfl
  have first : Shows expanded g _ [⟨above, .folder names, node⟩] :=
    shows_addBox (s := s) g (n := folderBox s expanded names left center node) rfl
  rw [own] at first
  exact first

/-- Nothing is shown in a folder that is not expanded. -/
theorem filter_isShown_eq_nil {names : List String}
    (closed : ¬ expanded.contains (NodeId.folder names) = true) {nodes : List Occurrence}
    (inside : ∀ o ∈ nodes, names ∈ o.above) : nodes.filter (Occurrence.isShown expanded) = [] := by
  refine List.filter_eq_nil_iff.mpr fun o member shown => closed ?_
  exact Occurrence.isShown_iff.mp shown names (inside o member)

mutual

/-- Placing a node in expanded folders adds the shown nodes of its listing. -/
theorem shows_place (above : List (List String)) (names : List String) (left center : α)
    (isOpen : ∀ path ∈ above, expanded.contains (NodeId.folder path) = true) :
    (tree : StructureNode) → (g : Graph α) →
      Shows expanded g
        (place s expanded names (above.getLast?.map NodeId.folder) left center tree g)
        ((listing above names tree).filter (Occurrence.isShown expanded))
  | .file entry analysis, g => by
    have own := shows_placeFolder expanded s above names left center
      (.file entry analysis) g
    have root : Occurrence.isShown expanded ⟨above, .folder names, .file entry analysis⟩ = true :=
      Occurrence.isShown_iff.mpr isOpen
    rw [place, listing, List.filter_cons_of_pos root]
    exact own
  | .folder entry segment children, g => by
    have own := shows_placeFolder expanded s above names left center
      (.folder entry segment children) g
    have root : Occurrence.isShown expanded
        ⟨above, .folder names, .folder entry segment children⟩ = true :=
      Occurrence.isShown_iff.mpr isOpen
    rw [place, listing, List.filter_cons_of_pos root]
    by_cases isExpanded : expanded.contains (NodeId.folder names) = true
    · have isOpen' : ∀ path ∈ above ++ [names],
          expanded.contains (NodeId.folder path) = true := by
        intro path member
        rcases List.mem_append.mp member with outer | isOwn
        · exact isOpen path outer
        · exact List.mem_singleton.mp isOwn ▸ isExpanded
      have shownFiles (index : Nat) (files : List StructureNode) :
          (filesIn (above ++ [names]) names index files).filter (Occurrence.isShown expanded) =
            filesIn (above ++ [names]) names index files := by
        refine List.filter_eq_self.mpr fun o member => Occurrence.isShown_iff.mpr ?_
        rw [above_of_mem_filesIn member]
        exact isOpen'
      rw [List.filter_append, shownFiles]
      cases children with
      | nil =>
        simp only [isExpanded, List.isEmpty_nil, Bool.or_true, ↓reduceIte]
        rw [listingOf]
        exact own
      | cons first rest =>
        simp only [isExpanded, Bool.not_true, List.isEmpty_cons, Bool.or_false,
          Bool.false_eq_true, ↓reduceIte]
        exact own.trans ((shows_placeFolders (above ++ [names]) names _ _ isOpen'
          List.getLast?_concat (first :: rest) _).trans (shows_placeFiles _ _ _ _ _))
    · have hidden : (listingOf (above ++ [names]) names children ++
          filesIn (above ++ [names]) names 0
            (StructureNode.folder entry segment children).files).filter
              (Occurrence.isShown expanded) = [] := by
        refine filter_isShown_eq_nil isExpanded fun o member => ?_
        have outer : above ++ [names] <+: o.above := by
          rcases List.mem_append.mp member with member | member
          · exact prefix_of_mem_listingOf _ _ children member
          · exact above_of_mem_filesIn member ▸ List.prefix_rfl
        exact outer.subset (List.mem_append_right _ List.mem_cons_self)
      rw [hidden]
      simp only [isExpanded, Bool.not_false, Bool.true_or, ↓reduceIte]
      exact own

/-- Placing the folders among some contents adds the shown nodes in them. -/
theorem shows_placeFolders (above : List (List String)) (names : List String) (left top : α)
    (isOpen : ∀ path ∈ above, expanded.contains (NodeId.folder path) = true)
    (isLast : above.getLast? = some names) :
    (children : List StructureNode) → (g : Graph α) →
      Shows expanded g
        (placeFolders s expanded names (NodeId.folder names) left top children g).2
        ((listingOf above names children).filter (Occurrence.isShown expanded))
  | [], g => by
    rw [placeFolders, listingOf]
    exact .refl g
  | child :: rest, g => by
    rw [placeFolders, listingOf, List.filter_append]
    split
    · have first := shows_place above (names ++ [child.name]) left
        (top + Scalar.half (extent s expanded (names ++ [child.name]) child)) isOpen child g
      rw [isLast, Option.map_some] at first
      exact first.trans (shows_placeFolders above names _ _ isOpen isLast rest _)
    · exact shows_placeFolders above names _ _ isOpen isLast rest _

end

/-- A layout shows the listed nodes whose folders are all expanded. -/
theorem shows_layout (s : TreeSpacing α) (expanded : List String) (tree : StructureNode) :
    Shows expanded {} (layout s expanded tree)
      ((listing [] [] tree).filter (Occurrence.isShown expanded)) :=
  shows_place [] [] _ _ (fun _ member => absurd member List.not_mem_nil) tree {}

end Shows

/-! ## What the expanded folders matter for -/

section Congruence

variable {α : Type} [Scalar α] {s : TreeSpacing α} {expanded expanded' : List String}

mutual

/-- The room of a node depends on the expanded folders at and below it alone. -/
theorem extent_congr (names : List String) :
    (tree : StructureNode) → (∀ id ∈ NodeId.allFolders names tree,
      expanded.contains id = expanded'.contains id) →
        extent s expanded names tree = extent s expanded' names tree
  | .file entry analysis, _ => by rw [extent, extent]
  | .folder entry segment children, alike => by
    rw [NodeId.allFolders, List.forall_mem_cons] at alike
    rw [extent, extent, alike.1, extentOf_congr names _ children alike.2]

theorem extentOf_congr (names : List String) (total : α) :
    (children : List StructureNode) → (∀ id ∈ NodeId.allFoldersOf names children,
      expanded.contains id = expanded'.contains id) →
        extentOf s expanded names total children = extentOf s expanded' names total children
  | [], _ => by rw [extentOf, extentOf]
  | child :: rest, alike => by
    rw [NodeId.allFoldersOf, List.forall_mem_append] at alike
    rw [extentOf, extentOf]
    split
    next isFolder =>
      rw [if_pos isFolder] at alike
      rw [extent_congr (names ++ [child.name]) child alike.1,
        extentOf_congr names _ rest alike.2]
    next => exact extentOf_congr names _ rest alike.2

end

mutual

/-- So does the place of a node and of all that is below it. -/
theorem place_congr (names : List String) (parent : Option String) (left center : α) :
    (tree : StructureNode) → (g : Graph α) → (∀ id ∈ NodeId.allFolders names tree,
      expanded.contains id = expanded'.contains id) →
        place s expanded names parent left center tree g =
          place s expanded' names parent left center tree g
  | .file entry analysis, g, alike => by
    rw [NodeId.allFolders, List.forall_mem_singleton] at alike
    rw [place, place, placeFolder, placeFolder, alike]
  | .folder entry segment children, g, alike => by
    rw [NodeId.allFolders, List.forall_mem_cons] at alike
    rw [place, place, placeFolder, placeFolder, alike.1, extentOf_congr names _ children alike.2]
    dsimp only
    rw [placeFolders_congr names _ _ _ children _ alike.2]

theorem placeFolders_congr (names : List String) (parentId : String) (left top : α) :
    (children : List StructureNode) → (g : Graph α) → (∀ id ∈ NodeId.allFoldersOf names children,
      expanded.contains id = expanded'.contains id) →
        placeFolders s expanded names parentId left top children g =
          placeFolders s expanded' names parentId left top children g
  | [], g, _ => by rw [placeFolders, placeFolders]
  | child :: rest, g, alike => by
    rw [NodeId.allFoldersOf, List.forall_mem_append] at alike
    rw [placeFolders, placeFolders]
    split
    next isFolder =>
      rw [if_pos isFolder] at alike
      dsimp only
      rw [extent_congr (names ++ [child.name]) child alike.1,
        place_congr (names ++ [child.name]) _ _ _ child g alike.1,
        placeFolders_congr names _ _ _ rest _ alike.2]
    next => exact placeFolders_congr names _ _ _ rest g alike.2

end

/-- Ids that are those of no folder of the tree do not matter. -/
theorem layout_filter_expanded (s : TreeSpacing α) (expanded : List String)
    (tree : StructureNode) :
    layout s (expanded.filter (NodeId.allFolders [] tree).contains) tree =
      layout s expanded tree := by
  refine place_congr [] none _ _ tree {} fun id isFolder => ?_
  rw [Bool.eq_iff_iff, List.contains_iff_mem, List.contains_iff_mem, List.mem_filter]
  exact and_iff_left (List.contains_iff_mem.mpr isFolder)

end Congruence

/-! ## The whole layout -/

section Layout

variable {α : Type} [Scalar α] (s : TreeSpacing α) (expanded : List String) (tree : StructureNode)

/-- The nodes that a layout of a tree is to show, in order. -/
def shownNodes : List Occurrence := (listing [] [] tree).filter (Occurrence.isShown expanded)

/-- The root is always shown, and first. -/
theorem shownNodes_eq_cons : shownNodes expanded tree =
    ⟨[], .folder [], tree⟩ ::
      (listing [] [] tree).tail.filter (Occurrence.isShown expanded) := by
  have root : Occurrence.isShown expanded ⟨[], .folder [], tree⟩ = true :=
    Occurrence.isShown_iff.mpr fun path member => absurd member List.not_mem_nil
  rw [shownNodes, listing_eq_cons, List.filter_cons_of_pos root, List.tail_cons]

variable {expanded tree} in
/-- Behind the root, every shown node lies directly in one shown before it. -/
theorem exists_in_of_shownNodes {k : Nat} {child : Occurrence}
    (found : (shownNodes expanded tree)[k + 1]? = some child) :
    ∃ parent, (∃ j ≤ k, (shownNodes expanded tree)[j]? = some parent) ∧ child.In parent := by
  have root : Occurrence.isShown expanded ⟨[], .folder [], tree⟩ = true :=
    Occurrence.isShown_iff.mpr fun path member => absurd member List.not_mem_nil
  have headed := (headed_tail [] [] [] tree).filter (Occurrence.isShown expanded)
    fun o p inside => inside.isShown
  rw [List.filter_cons_of_pos root, List.filter_nil] at headed
  rw [shownNodes_eq_cons] at found ⊢
  obtain ⟨parent, known | ⟨j, earlier, before⟩, inside⟩ := headed.exists_in (by simpa using found)
  · exact ⟨parent, ⟨0, Nat.zero_le k, by rw [List.mem_singleton.mp known]; rfl⟩, inside⟩
  · exact ⟨parent, ⟨j + 1, earlier, by simpa using before⟩, inside⟩

/-- Every shown node but the root has its arrow, in the order of the nodes. -/
theorem arrows_shownNodes : (shownNodes expanded tree).map Occurrence.arrow? =
    none :: (layout s expanded tree).edges.map some := by
  have edges : (layout s expanded tree).edges =
      (shownNodes expanded tree).filterMap Occurrence.arrow? :=
    (shows_layout s expanded tree).edges
  have drawn : ∀ o ∈ (listing [] [] tree).tail.filter (Occurrence.isShown expanded),
      o.arrow?.isSome := by
    intro o member
    obtain ⟨k, found⟩ := List.mem_iff_getElem?.mp member
    have behind : (shownNodes expanded tree)[k + 1]? = some o := by
      rw [shownNodes_eq_cons]
      simpa using found
    obtain ⟨parent, -, inside⟩ := exists_in_of_shownNodes behind
    rw [inside.arrow?_eq]
    rfl
  rw [edges, shownNodes_eq_cons]
  generalize (listing [] [] tree).tail.filter (Occurrence.isShown expanded) = rest at drawn
  have all : rest.map Occurrence.arrow? = (rest.filterMap Occurrence.arrow?).map some := by
    induction rest with
    | nil => rfl
    | cons o rest ih =>
      obtain ⟨first, others⟩ := List.forall_mem_cons.mp drawn
      obtain ⟨e, arrow⟩ := Option.isSome_iff_exists.mp first
      rw [List.map_cons, List.filterMap_cons_some arrow, List.map_cons, ih others, arrow]
  exact congrArg (none :: ·) all

theorem faces_layout : (layout s expanded tree).nodes.map face =
    (shownNodes expanded tree).map (Occurrence.label expanded) :=
  (shows_layout s expanded tree).nodes

variable {expanded tree} in
theorem id_of_shownNodes {k : Nat} {o : Occurrence}
    (found : (shownNodes expanded tree)[k]? = some o) :
    (layout s expanded tree).nodes[k]?.map Node.id = some o.address.id := by
  have ids : (layout s expanded tree).nodes.map Node.id =
      (shownNodes expanded tree).map fun o => o.address.id := by
    have first := congrArg (List.map Prod.fst) (faces_layout s expanded tree)
    rw [List.map_map, List.map_map] at first
    exact first.trans (List.map_congr_left fun o _ => o.fst_label expanded)
  rw [← List.getElem?_map, ids, List.getElem?_map, found, Option.map_some]

theorem length_nodes : (layout s expanded tree).nodes.length =
    (shownNodes expanded tree).length := by
  simpa using congrArg List.length (faces_layout s expanded tree)

theorem length_edges : (layout s expanded tree).edges.length + 1 =
    (shownNodes expanded tree).length := by
  simpa using (congrArg List.length (arrows_shownNodes s expanded tree)).symm

/-- With all folders expanded, all nodes are shown. -/
theorem shownNodes_allFolders :
    shownNodes (NodeId.allFolders [] tree) tree = listing [] [] tree := by
  refine List.filter_eq_self.mpr fun o member => Occurrence.isShown_iff.mpr fun path isAbove => ?_
  have isFolder := folder_of_mem_above [] [] tree member isAbove
  exact List.contains_iff_mem.mpr (isFolder.resolve_left List.not_mem_nil)

/-- A layout has one node for each node of the tree whose folders are all expanded, in the order of
the listing, which has every node of the tree once. The arrows go, in this order, to all nodes but
the root, each from the folder that the node lies in directly, which stands before it, and in the
style that tells whether the node is in scope. So with all folders expanded every node of the tree
is there, and one arrow fewer; and ids that are those of no folder make no difference at all. -/
theorem layout_shows_listing :
    ((listing [] [] tree).map Occurrence.source).Perm tree.nodes ∧
    (layout s expanded tree).nodes.map (fun n => (n.id, n.kind, n.data)) =
      (shownNodes expanded tree).map (Occurrence.label expanded) ∧
    (layout s expanded tree).edges.length + 1 = (layout s expanded tree).nodes.length ∧
    (∀ (k : Nat) (e : Edge), (layout s expanded tree).edges[k]? = some e →
      ∃ child parent : Occurrence,
        (shownNodes expanded tree)[k + 1]? = some child ∧
        (layout s expanded tree).nodes[k + 1]?.map Node.id = some e.target ∧
        (∃ j ≤ k, (shownNodes expanded tree)[j]? = some parent ∧
          (layout s expanded tree).nodes[j]?.map Node.id = some e.source) ∧
        child.In parent ∧ (e.style = "app-router" ↔ child.source.entry.inScope = true)) ∧
    (layout s (NodeId.allFolders [] tree) tree).nodes.length = tree.nodes.length ∧
    (layout s (NodeId.allFolders [] tree) tree).edges.length + 1 = tree.nodes.length ∧
    layout s (expanded.filter (NodeId.allFolders [] tree).contains) tree =
      layout s expanded tree := by
  have sources := sources_listing [] [] tree
  have size : (shownNodes (NodeId.allFolders [] tree) tree).length = tree.nodes.length := by
    rw [shownNodes_allFolders, ← sources.length_eq, List.length_map]
  refine ⟨sources, faces_layout s expanded tree, ?_, ?_, ?_, ?_,
    layout_filter_expanded s expanded tree⟩
  · rw [length_edges, length_nodes]
  · intro k e found
    have arrow : ((shownNodes expanded tree).map Occurrence.arrow?)[k + 1]? = some (some e) := by
      rw [arrows_shownNodes s]
      simp [found]
    rw [List.getElem?_map, Option.map_eq_some_iff] at arrow
    obtain ⟨child, isChild, arrow⟩ := arrow
    obtain ⟨parent, ⟨j, earlier, isParent⟩, inside⟩ := exists_in_of_shownNodes isChild
    rw [inside.arrow?_eq] at arrow
    obtain rfl := Option.some.inj arrow
    refine ⟨child, parent, isChild, id_of_shownNodes s isChild,
      ⟨j, earlier, isParent, id_of_shownNodes s isParent⟩, inside, ?_⟩
    simp [edge, scopeStyle]
  · rw [length_nodes, size]
  · rw [length_edges, size]

end Layout

end SiteAtlas.TreeLayout
