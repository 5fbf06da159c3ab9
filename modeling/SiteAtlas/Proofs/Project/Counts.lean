import SiteAtlas.Project.Analysis
import SiteAtlas.Proofs.Project.LayoutChains
import SiteAtlas.Proofs.Project.ScopeSubtree

/-! # Two ways of counting routes

The counts over a project are made on the list of all its nodes, those in scope only. The manifest
goes down from the router root's folder, and asks of no node whether it is in scope. Both come to
the same numbers, for a node that has a meaning for routes is in scope, and what is in scope is what
the manifest goes through.
-/

namespace SiteAtlas

namespace StructureNode

/-- Whether a node is a folder in scope whose name is of a kind. -/
def isOfKind (label : String) (node : StructureNode) : Bool :=
  node.segment?.map Routing.Segment.label == some label

/-- Whether a node is a reserved route file. -/
def isRouteFile (file : Routing.RouteFile) (node : StructureNode) : Bool :=
  node.routeFile? == some file

theorem isFolder_of_isOfKind {label : String} {node : StructureNode}
    (ofKind : node.isOfKind label = true) : node.isFolder = true := by
  cases node with
  | folder entry segment children => rfl
  | file entry analysis => cases ofKind

theorem isSome_segment?_of_isOfKind {label : String} {node : StructureNode}
    (ofKind : node.isOfKind label = true) : node.segment?.isSome = true := by
  obtain ⟨segment, isSegment, -⟩ := Option.map_eq_some_iff.mp (beq_iff_eq.mp ofKind)
  rw [isSegment]
  rfl

end StructureNode

/-! ## The counts over a tree -/

namespace Insights

variable {w : Walk} {root path : Path} {relative : String} {listing node : FileNode}
  {shown : StructureNode}

theorem isSome_segment?_folderAt : (w.folderAt path relative node).segment?.isSome =
    (w.folderAt path relative node).entry.inScope := by
  simp only [Walk.folderAt, Walk.folderNode, StructureNode.segment?, StructureNode.entry]
  cases (w.folderEntry path relative).inScope <;> rfl

theorem isSome_analysis?_fileNode {route : Option String} :
    (w.fileNode path relative route).analysis?.isSome =
      (w.fileNode path relative route).entry.inScope := by
  simp only [Walk.fileNode, StructureNode.analysis?, StructureNode.entry]
  cases Routing.isInScope w.routerRoot relative <;> rfl

/-- What has a meaning for routes is in scope. -/
theorem inScope_of_meaning (proper : listing.isProper = true)
    (member : shown ∈ (w.build root listing).nodes)
    (meaning : shown.segment?.isSome = true ∨ shown.analysis?.isSome = true) :
    shown.entry.inScope = true := by
  have folder {path : Path} {relative : String} {inner : FileNode}
      (isThis : shown = w.folderAt path relative inner) : shown.entry.inScope = true := by
    rw [isThis] at meaning ⊢
    rw [← isSome_segment?_folderAt]
    exact meaning.resolve_right Bool.false_ne_true
  rw [StructureNode.nodes_eq_cons] at member
  rcases List.mem_cons.mp member with isRoot | member
  · exact folder isRoot
  · obtain ⟨names, -, -, ⟨inner, -, isThis⟩ | ⟨route, rfl⟩⟩ :=
      Walk.exists_origin_build proper member
    · exact folder isThis
    · rw [← isSome_analysis?_fileNode]
      exact meaning.resolve_left Bool.false_ne_true

theorem inScope_of_isOfKind (proper : listing.isProper = true)
    (member : shown ∈ (w.build root listing).nodes) {label : String}
    (ofKind : shown.isOfKind label = true) : shown.entry.inScope = true :=
  inScope_of_meaning proper member (.inl (StructureNode.isSome_segment?_of_isOfKind ofKind))

theorem inScope_of_isRouteFile (proper : listing.isProper = true)
    (member : shown ∈ (w.build root listing).nodes) {file : Routing.RouteFile}
    (isFile : shown.isRouteFile file = true) : shown.entry.inScope = true := by
  refine inScope_of_meaning proper member (.inr ?_)
  obtain ⟨analysis, isAnalysis, -⟩ := Option.bind_eq_some_iff.mp (beq_iff_eq.mp isFile)
  rw [isAnalysis]
  rfl

theorem lookup_map {α : Type} (f : α → Nat) (rows : List (String × α)) (key : String) :
    (rows.map fun row => (row.1, f row.2)).lookup key = (rows.lookup key).map f := by
  induction rows with
  | nil => rfl
  | cons row rest ih =>
    rw [List.map_cons, List.lookup_cons, List.lookup_cons, ih]
    split <;> rfl

/-- The count under a key is that of all folders of a kind. -/
theorem lookup_segmentCounts (proper : listing.isProper = true) {key label : String}
    (isKey : segmentCountKeys.lookup key = some label) :
    (ofTree (w.build root listing)).segmentCounts.lookup key =
      some ((w.build root listing).nodes.countP fun node => node.isOfKind label) := by
  have counts := lookup_map (fun label =>
    ((((w.build root listing).nodes.filter fun node => node.entry.inScope).filter
      fun node => node.segment?.isSome).filter fun node => node.isOfKind label).length)
    segmentCountKeys key
  refine counts.trans ?_
  rw [isKey, Option.map_some, List.filter_filter, List.filter_filter,
    ← List.countP_eq_length_filter]
  refine congrArg some (List.countP_congr fun node member => ?_)
  rw [Bool.and_eq_true, Bool.and_eq_true, and_assoc]
  exact and_iff_left_of_imp fun ofKind =>
    ⟨StructureNode.isSome_segment?_of_isOfKind ofKind, inScope_of_isOfKind proper member ofKind⟩

/-- The count under a key is that of all reserved route files of a kind. -/
theorem lookup_fileCounts (proper : listing.isProper = true) {key : String}
    {file : Routing.RouteFile} (isKey : fileCountKeys.lookup key = some file) :
    (ofTree (w.build root listing)).fileCounts.lookup key =
      some ((w.build root listing).nodes.countP fun node => node.isRouteFile file) := by
  have counts := lookup_map (fun file =>
    (((w.build root listing).nodes.filter fun node => node.entry.inScope).filter
      fun node => node.isRouteFile file).length) fileCountKeys key
  refine counts.trans ?_
  rw [isKey, Option.map_some, List.filter_filter, ← List.countP_eq_length_filter]
  refine congrArg some (List.countP_congr fun node member => ?_)
  rw [Bool.and_eq_true]
  exact and_iff_left_of_imp (inScope_of_isRouteFile proper member)

end Insights

/-! ## The counts of a manifest -/

theorem total_cons (count : Nat) (counts : List Nat) :
    total (count :: counts) = count + total counts := by
  calc counts.foldl (fun sum n => sum + n) (0 + count)
      = counts.foldl (fun sum n => sum + n) (count + 0) := by rw [Nat.zero_add, Nat.add_zero]
    _ = count + counts.foldl (fun sum n => sum + n) 0 := List.foldl_assoc

namespace Manifest

variable {tree : StructureNode} {routerRoot : String}

/-- The nodes at and below the router root's folder. -/
def routed (tree : StructureNode) (routerRoot : String) : List StructureNode :=
  (findRouterRoot? tree routerRoot).toList.flatMap StructureNode.nodes

/-- The folders that a manifest goes through. -/
def visited (tree : StructureNode) (routerRoot : String) : List Visit :=
  ((findRouterRoot? tree routerRoot).map (visits [])).getD []

theorem folder_visited (tree : StructureNode) (routerRoot : String) :
    (visited tree routerRoot).map Visit.folder =
      (routed tree routerRoot).filter StructureNode.isFolder := by
  rw [visited, routed]
  cases findRouterRoot? tree routerRoot with
  | none => rfl
  | some top => rw [Option.toList_some, List.flatMap_singleton, Option.map_some, Option.getD_some,
      folder_visits]

/-- The folders of a kind that a manifest goes through are all of that kind. Out of scope it takes
every folder for a static one. -/
theorem countP_visited {label : String} (other : label ≠ "static-route") :
    (visited tree routerRoot).countP (fun v => v.segment.label == label) =
      (routed tree routerRoot).countP fun node => node.isOfKind label := by
  have kind (v : Visit) : (v.segment.label == label) = v.folder.isOfKind label := by
    rw [Visit.segment, StructureNode.isOfKind]
    cases v.folder.segment? with
    | none => exact beq_eq_false_iff_ne.mpr (Ne.symm other)
    | some segment => rfl
  have folders : (visited tree routerRoot).countP (fun v => v.folder.isOfKind label) =
      ((visited tree routerRoot).map Visit.folder).countP fun node => node.isOfKind label := by
    rw [List.countP_map]
    rfl
  rw [funext kind, folders, folder_visited, List.countP_filter]
  refine List.countP_congr fun node _ => ?_
  rw [Bool.and_eq_true]
  exact and_iff_left_of_imp StructureNode.isFolder_of_isOfKind

/-- What is picked out by the kind of its folder is as much as there are folders of that kind. -/
theorem length_filterMap_visited {α : Type} {pick? : Visit → Option α} {label : String}
    (other : label ≠ "static-route") (picks : ∀ v, (pick? v).isSome = (v.segment.label == label)) :
    ((visited tree routerRoot).filterMap pick?).length =
      (routed tree routerRoot).countP fun node => node.isOfKind label := by
  rw [List.length_filterMap_eq_countP, funext picks, countP_visited other]

/-- The reserved route files of the folders are all of those. -/
theorem length_flatMap_visited (file : Routing.RouteFile) :
    ((visited tree routerRoot).flatMap fun v => v.folder.routeFiles file).length =
      (routed tree routerRoot).countP fun node => node.isRouteFile file := by
  have folders : (visited tree routerRoot).flatMap (fun v => v.folder.routeFiles file) =
      ((visited tree routerRoot).map Visit.folder).flatMap
        fun folder => folder.routeFiles file := by
    rw [List.flatMap_map]
  rw [folders, folder_visited, routed]
  cases found : findRouterRoot? tree routerRoot with
  | none => rfl
  | some top =>
    rw [Option.toList_some, List.flatMap_singleton, List.countP_eq_length_filter]
    exact (StructureNode.perm_flatMap_routeFiles (isFolder_of_findRouterRoot? found) file).length_eq

section Lengths

variable (tree : StructureNode) (routerRoot : String) (files : List ConfigFile)

theorem length_pages : (ofVisits (visited tree routerRoot) files).pages.length =
    (routed tree routerRoot).countP fun node => node.isRouteFile .page := by
  rw [← length_flatMap_visited, ofVisits, List.length_flatMap, List.length_flatMap]
  refine congrArg List.sum (List.map_congr_left fun v _ => ?_)
  exact List.length_map ..

theorem length_layouts : (ofVisits (visited tree routerRoot) files).layouts.length =
    (routed tree routerRoot).countP fun node => node.isRouteFile .layout := by
  rw [← length_flatMap_visited, ofVisits, List.length_flatMap, List.length_flatMap]
  refine congrArg List.sum (List.map_congr_left fun v _ => ?_)
  rw [List.length_map, ownLayouts_eq, List.length_map]

theorem length_groups : (ofVisits (visited tree routerRoot) files).groups.length =
    (routed tree routerRoot).countP fun node => node.isOfKind "route-group" :=
  length_filterMap_visited (by decide) fun v => by cases v.segment <;> rfl

theorem length_slots : (ofVisits (visited tree routerRoot) files).slots.length =
    (routed tree routerRoot).countP fun node => node.isOfKind "parallel-route" :=
  length_filterMap_visited (by decide) fun v => by cases v.segment <;> rfl

theorem length_intercepts : (ofVisits (visited tree routerRoot) files).intercepts.length =
    (routed tree routerRoot).countP fun node => node.isOfKind "intercepting-route" :=
  length_filterMap_visited (by decide) fun v => by
    rw [Visit.intercept?]
    cases v.segment <;> rfl

theorem length_privateFolders : (ofVisits (visited tree routerRoot) files).privateFolders.length =
    (routed tree routerRoot).countP fun node => node.isOfKind "private-folder" :=
  length_filterMap_visited (by decide) fun v => by cases v.segment <;> rfl

theorem dynamicCount_eq : (ofVisits (visited tree routerRoot) files).dynamicCount =
    ((routed tree routerRoot).countP fun node => node.isOfKind "dynamic-route") +
      ((routed tree routerRoot).countP fun node => node.isOfKind "catch-all-route") +
      (routed tree routerRoot).countP fun node => node.isOfKind "optional-catch-all-route" := by
  have parameters (found : List Visit) : found.countP (fun v => v.segment.isParameter) =
      found.countP (fun v => v.segment.label == "dynamic-route") +
        found.countP (fun v => v.segment.label == "catch-all-route") +
        found.countP (fun v => v.segment.label == "optional-catch-all-route") := by
    induction found with
    | nil => rfl
    | cons v rest ih =>
      simp only [List.countP_cons, ih]
      cases v.segment <;> simp [Routing.Segment.isParameter, Routing.Segment.label] <;> omega
  rw [← countP_visited (by decide), ← countP_visited (by decide), ← countP_visited (by decide),
    ← parameters, List.countP_eq_length_filter]
  rfl

end Lengths

/-- Items under their keys are as many as the items. -/
theorem total_grouped {α : Type} (key : α → String) : (items : List α) →
    total ((grouped key items).map fun group => group.2.length) = items.length
  | [] => rfl
  | first :: rest => by
    let others := rest.filter fun item => !key item == key first
    have behind := total_grouped key others
    rw [grouped, List.map_map] at behind
    have keys : ((first :: rest).map key).eraseDups = key first :: (others.map key).eraseDups := by
      rw [List.map_cons, List.eraseDups_cons, List.filter_map]
      rfl
    have own : (first :: rest).length =
        ((first :: rest).filter fun item => key item == key first).length + others.length := by
      rw [List.length_eq_length_filter_add fun item => key item == key first,
        List.filter_cons_of_neg (p := fun item => !key item == key first) (by simp)]
    have rows : ∀ k ∈ (others.map key).eraseDups,
        (first :: rest).filter (fun item => key item == k) =
          others.filter fun item => key item == k := by
      intro k isKey
      obtain ⟨item, member, rfl⟩ := List.mem_map.mp (List.mem_eraseDups.mp isKey)
      have other : key item ≠ key first := by simpa using (List.mem_filter.mp member).2
      rw [List.filter_cons_of_neg (by simpa using Ne.symm other), List.filter_filter]
      refine List.filter_congr fun item' _ => ?_
      by_cases same : key item' = key item <;> simp [same, other]
    rw [grouped, keys, List.map_map, List.map_cons, total_cons, own, ← behind]
    refine congrArg _ (congrArg total (List.map_congr_left fun k isKey => ?_))
    exact congrArg List.length (rows k isKey)
termination_by items => items.length
decreasing_by exact Nat.lt_succ_of_le (List.length_filter_le _ _)

end Manifest

/-! ## Both counts -/

theorem Project.stripChar_routerRoot (p : Project) :
    Text.stripChar '/' p.routerRoot.toList = p.routerRoot.toList := by
  obtain ⟨front, back, -, first, last⟩ := Text.exists_padded '/' p.settings.routerRoot.toList
  rw [routerRoot, String.toList_ofList]
  exact Text.stripChar_eq_self first last

/-- The counts over a walked project and its route manifest agree, if no name in it has a backslash
and no file has the path of the router root: on the pages, the layouts, the route groups, the slots
of all URLs together, the intercepting routes, the private folders and the dynamic segments. -/
theorem Project.insights_agree_with_manifest (p : Project) (proper : p.listing.isProper = true)
    (plain : ∀ node ∈ StructureNode.nodesOf p.tree.children, '\\' ∉ node.name.toList)
    (noFile : ∀ node ∈ StructureNode.nodesOf p.tree.children,
      node.entry.relativePath = p.routerRoot → node.isFolder = true) :
    let files := (Insights.ofTree p.tree).fileCounts
    let folders := (Insights.ofTree p.tree).segmentCounts
    let slots := Manifest.grouped (fun slot => slot.2.1) p.manifest.slots
    files.lookup "pages" = some p.manifest.pages.length ∧
      files.lookup "layouts" = some p.manifest.layouts.length ∧
      folders.lookup "routeGroups" = some p.manifest.groups.length ∧
      folders.lookup "parallelRoutes" = some (total (slots.map fun group => group.2.length)) ∧
      folders.lookup "interceptingRoutes" = some p.manifest.intercepts.length ∧
      folders.lookup "privateFolders" = some p.manifest.privateFolders.length ∧
      ∃ dynamic catchAll optionalCatchAll, folders.lookup "dynamic" = some dynamic ∧
        folders.lookup "catchAll" = some catchAll ∧
        folders.lookup "optionalCatchAll" = some optionalCatchAll ∧
        dynamic + catchAll + optionalCatchAll = p.manifest.dynamicCount := by
  intro files folders slots
  have kinds {key label : String} (isKey : segmentCountKeys.lookup key = some label) :
      folders.lookup key = some ((Manifest.routed p.tree p.routerRoot).countP fun node =>
        node.isOfKind label) := by
    refine (Insights.lookup_segmentCounts proper isKey).trans (congrArg some ?_)
    exact Walk.countP_nodes proper plain noFile p.stripChar_routerRoot
      fun node member => Insights.inScope_of_isOfKind proper member
  have reserved {key : String} {file : Routing.RouteFile}
      (isKey : fileCountKeys.lookup key = some file) : files.lookup key =
        some ((Manifest.routed p.tree p.routerRoot).countP fun node => node.isRouteFile file) := by
    refine (Insights.lookup_fileCounts proper isKey).trans (congrArg some ?_)
    exact Walk.countP_nodes proper plain noFile p.stripChar_routerRoot
      fun node member => Insights.inScope_of_isRouteFile proper member
  have manifest : p.manifest = Manifest.ofVisits (Manifest.visited p.tree p.routerRoot)
      (findConfigFiles p.files p.root) := rfl
  rw [Manifest.total_grouped, manifest, Manifest.length_pages, Manifest.length_layouts,
    Manifest.length_groups, Manifest.length_slots, Manifest.length_intercepts,
    Manifest.length_privateFolders, Manifest.dynamicCount_eq]
  exact ⟨reserved rfl, reserved rfl, kinds rfl, kinds rfl, kinds rfl, kinds rfl,
    _, _, _, kinds rfl, kinds rfl, kinds rfl, rfl⟩

/-- A page that fills a slot. -/
def modalSite : FileNode :=
  .folder [("app", .folder [("@modal", .folder [("page.tsx", .file ⟨#[]⟩)])])]

/-- A project with no other page. -/
def modalProject : Project := { files := {}, root := ⟨1, ["site"]⟩, listing := modalSite }

/-- A folder in the project's tree. -/
private def modalFolder (names : List String) (children : List StructureNode) : StructureNode :=
  let entry := modalProject.walk.folderEntry ⟨1, "site" :: names⟩ (Walk.relativeOf names)
  .folder entry (if entry.inScope then some (.ofName entry.name) else none) children

private theorem tree_modalProject : modalProject.tree =
    modalFolder [] [modalFolder ["app"] [modalFolder ["app", "@modal"]
      [modalProject.walk.fileNode ⟨1, ["site", "app", "@modal", "page.tsx"]⟩ "app/@modal/page.tsx"
        (some "/")]]] := by
  have listing : modalProject.listing = modalSite := rfl
  have kept (relative : String) (isFolder : Bool) :
      modalProject.walk.isIgnored relative isFolder = false := Bool.and_false _
  simp only [Project.tree, Walk.build, listing, modalSite, FileNode.entries, Walk.children,
    Walk.node?, Walk.folderNode, kept, Bool.false_eq_true, if_false, Option.toList_some,
    List.append_nil, List.mergeSort_singleton]
  rfl

theorem insights_of_modalProject :
    (Insights.ofTree modalProject.tree).fileCounts.lookup "pages" =
        some modalProject.manifest.pages.length ∧
      (Insights.ofTree modalProject.tree).fileCounts.lookup "pages" = some 1 ∧
      (Insights.ofTree modalProject.tree).segmentCounts.lookup "parallelRoutes" = some 1 := by
  have proper : modalProject.listing.isProper = true := by decide +kernel
  have plain : ∀ node ∈ StructureNode.nodesOf modalProject.tree.children,
      '\\' ∉ node.name.toList := by
    rw [tree_modalProject]
    decide +kernel
  have noFile : ∀ node ∈ StructureNode.nodesOf modalProject.tree.children,
      node.entry.relativePath = modalProject.routerRoot → node.isFolder = true := by
    rw [tree_modalProject]
    decide +kernel
  obtain ⟨pages, -⟩ := modalProject.insights_agree_with_manifest proper plain noFile
  refine ⟨pages, ?_, ?_⟩
  · rw [tree_modalProject]
    decide +kernel
  · rw [tree_modalProject]
    decide +kernel

end SiteAtlas
