import SiteAtlas.Project.Manifest
import SiteAtlas.Proofs.Project.Nodes

/-! # Pages and the layouts around them

A way leads from a folder down to a folder in it, through one folder after the other. There is one
way to each folder, and a manifest goes along them in the order of the tree. The layouts around a
page are those that lie in the folders on the way to its own; what lies beside the way or further
down is none of them.
-/

namespace SiteAtlas

/-- The way down to a folder. -/
structure Way where
  /-- The folders that it leads through, outermost first. -/
  above : List StructureNode
  /-- The folder that it leads to. -/
  folder : StructureNode

namespace Way

/-- All folders on a way, outermost first. -/
def folders (way : Way) : List StructureNode := way.above ++ [way.folder]

/-- The same way, seen from a folder further up. -/
def below (outer : StructureNode) (way : Way) : Way := ⟨outer :: way.above, way.folder⟩

/-- A way from a folder on: it ends there, or goes down to a folder that lies directly in it. -/
inductive From : StructureNode → Way → Prop where
  | stop {top : StructureNode} : top.isFolder = true → From top ⟨[], top⟩
  | down {top inner : StructureNode} {way : Way} : inner ∈ top.children → From inner way →
    From top (below top way)

end Way

namespace StructureNode

mutual

/-- The ways from a node to itself and to all folders below it, in the order of the tree. -/
def ways : StructureNode → List Way
  | folder entry segment children =>
    ⟨[], folder entry segment children⟩ ::
      (waysIn children).map (Way.below (folder entry segment children))
  | file .. => []

/-- The ways from some nodes to the folders at and below them. -/
def waysIn : List StructureNode → List Way
  | [] => []
  | node :: rest => ways node ++ waysIn rest

end

/-- The files directly in a folder that are a given reserved route file. -/
def routeFiles (folder : StructureNode) (file : Routing.RouteFile) : List StructureNode :=
  folder.files.filter fun node => node.routeFile? == some file

theorem isFolder_of_routeFile? {node : StructureNode} {file : Routing.RouteFile}
    (isFile : node.routeFile? = some file) : node.isFolder = false := by
  cases node with
  | folder entry segment children => cases isFile
  | file entry analysis => rfl

/-- Each reserved route file below a folder lies directly in a folder at or below it. -/
theorem perm_flatMap_routeFiles {top : StructureNode} (isFolder : top.isFolder = true)
    (file : Routing.RouteFile) :
    ((top.nodes.filter StructureNode.isFolder).flatMap fun folder => folder.routeFiles file).Perm
      (top.nodes.filter fun node => node.routeFile? == some file) := by
  have below := (perm_flatMap_files top).filter fun node => node.routeFile? == some file
  rw [List.filter_flatMap, List.filter_filter] at below
  refine below.trans (List.Perm.of_eq ?_)
  have noFile : ¬(top.routeFile? == some file) = true := by
    intro isFile
    rw [isFolder_of_routeFile? (beq_iff_eq.mp isFile)] at isFolder
    cases isFolder
  rw [nodes_eq_cons,
    List.filter_cons_of_neg (p := fun node : StructureNode => node.routeFile? == some file) noFile]
  refine List.filter_congr fun node _ => ?_
  cases isFile : node.routeFile? == some file with
  | false => rfl
  | true => rw [isFolder_of_routeFile? (beq_iff_eq.mp isFile)]; rfl

/-! ## There is one way to each folder -/

theorem mem_waysIn_iff {way : Way} {nodes : List StructureNode} :
    way ∈ waysIn nodes ↔ ∃ node ∈ nodes, way ∈ node.ways := by
  induction nodes with
  | nil => simp [waysIn]
  | cons node rest ih => simp [waysIn, ih]

mutual

theorem folder_ways : (tree : StructureNode) →
    tree.ways.map Way.folder = tree.nodes.filter isFolder
  | .file entry analysis => by
    rw [ways, nodes]
    rfl
  | .folder entry segment children => by
    have own : (StructureNode.folder entry segment children).isFolder = true := rfl
    rw [ways, nodes, List.filter_cons_of_pos own, List.map_cons, List.map_map]
    exact congrArg _ (folder_waysIn children)

theorem folder_waysIn : (trees : List StructureNode) →
    (waysIn trees).map Way.folder = (nodesOf trees).filter isFolder
  | [] => by
    rw [waysIn, nodesOf]
    rfl
  | tree :: rest => by
    rw [waysIn, nodesOf, List.map_append, List.filter_append, folder_ways tree, folder_waysIn rest]

end

mutual

theorem from_of_mem_ways {way : Way} : (tree : StructureNode) → way ∈ tree.ways → way.From tree
  | .file entry analysis, member => by
    rw [ways] at member
    exact absurd member List.not_mem_nil
  | .folder entry segment children, member => by
    rw [ways] at member
    rcases List.mem_cons.mp member with rfl | member
    · exact .stop rfl
    · obtain ⟨inner, listed, rfl⟩ := List.mem_map.mp member
      obtain ⟨child, inside, leads⟩ := from_of_mem_waysIn children listed
      exact .down inside leads

theorem from_of_mem_waysIn {way : Way} : (trees : List StructureNode) → way ∈ waysIn trees →
    ∃ tree ∈ trees, way.From tree
  | [], member => by
    rw [waysIn] at member
    exact absurd member List.not_mem_nil
  | tree :: rest, member => by
    rw [waysIn] at member
    rcases List.mem_append.mp member with member | member
    · exact ⟨tree, List.mem_cons_self, from_of_mem_ways tree member⟩
    · obtain ⟨other, inside, leads⟩ := from_of_mem_waysIn rest member
      exact ⟨other, List.mem_cons_of_mem _ inside, leads⟩

end

/-- All ways from a node on are listed. -/
theorem mem_ways_iff {way : Way} {tree : StructureNode} : way ∈ tree.ways ↔ way.From tree := by
  constructor
  · exact from_of_mem_ways tree
  · intro leads
    induction leads with
    | @stop top isFolder =>
      cases top with
      | file entry analysis => cases isFolder
      | folder entry segment contents =>
        rw [ways]
        exact List.mem_cons_self
    | @down top inner way inside _ ih =>
      cases top with
      | file entry analysis => exact absurd inside List.not_mem_nil
      | folder entry segment contents =>
        rw [ways]
        exact List.mem_cons_of_mem _ (List.mem_map_of_mem (mem_waysIn_iff.mpr ⟨inner, inside, ih⟩))

end StructureNode

/-! ## A manifest goes along the ways -/

theorem ownLayouts_eq (folder : StructureNode) :
    ownLayouts folder = (folder.routeFiles .layout).map fun file => file.entry.relativePath := rfl

mutual

theorem visits_eq (layouts : List String) : (tree : StructureNode) → visits layouts tree =
    tree.ways.map fun way => ⟨way.folder, layouts ++ way.folders.flatMap ownLayouts⟩
  | .file entry analysis => by
    rw [visits, StructureNode.ways]
    rfl
  | .folder entry segment children => by
    rw [visits, StructureNode.ways, List.map_cons, List.map_map, visitsIn_eq _ children]
    simp [Way.folders, Way.below, Function.comp_def]

theorem visitsIn_eq (layouts : List String) : (trees : List StructureNode) →
    visitsIn layouts trees = (StructureNode.waysIn trees).map fun way =>
      ⟨way.folder, layouts ++ way.folders.flatMap ownLayouts⟩
  | [] => by
    rw [visitsIn, StructureNode.waysIn]
    rfl
  | tree :: rest => by
    rw [visitsIn, StructureNode.waysIn, List.map_append, visits_eq layouts tree,
      visitsIn_eq layouts rest]

end

/-- The folders that a manifest goes through are those of the tree, in its order. -/
theorem folder_visits (layouts : List String) (tree : StructureNode) :
    (visits layouts tree).map Visit.folder = tree.nodes.filter StructureNode.isFolder := by
  rw [visits_eq, List.map_map, ← StructureNode.folder_ways]
  rfl

theorem Visit.url_eq (v : Visit) : v.url = (v.folder.entry.route.filter (· ≠ "")).getD "/" := by
  unfold Visit.url
  cases v.folder.entry.route with
  | none => rfl
  | some route => by_cases empty : route = "" <;> simp [Option.filter, empty]

theorem isFolder_of_findRouterRoot? {tree top : StructureNode} {routerRoot : String}
    (found : findRouterRoot? tree routerRoot = some top) : top.isFolder = true := by
  have holds := List.find?_some found
  rw [Bool.and_eq_true] at holds
  exact holds.1

/-- The pages of a manifest. The router root's folders are gone through in the order of the tree,
along the ways that lead to them from the router root, each with the pages that lie directly in it.
A page has the URL of its folder, and around it are the layouts of the folders on the way, outermost
first, those of one folder in its order. No page at or below the router root is left out or comes
twice. -/
theorem Manifest.pages_follow_ways (tree : StructureNode) (files : FileSystem) (root : Path)
    (routerRoot : String) {top : StructureNode}
    (found : findRouterRoot? tree routerRoot = some top) :
    let manifest := Manifest.ofTree tree files root routerRoot
    (∀ way, way ∈ top.ways ↔ way.From top) ∧
      top.ways.map Way.folder = top.nodes.filter StructureNode.isFolder ∧
      manifest.pages = top.ways.flatMap (fun way =>
        (way.folder.routeFiles .page).map fun page =>
          { url := (way.folder.entry.route.filter (· ≠ "")).getD "/"
            file := page.entry.relativePath
            routeType := (way.folder.segment?.getD .static).label
            layoutChain := way.folders.flatMap fun folder =>
              (folder.routeFiles .layout).map fun layout => layout.entry.relativePath }) ∧
      (manifest.pages.map PageRoute.file).Perm
        ((top.nodes.filter fun node => node.routeFile? == some .page).map fun page =>
          page.entry.relativePath) := by
  have pages : (Manifest.ofTree tree files root routerRoot).pages =
      (visits [] top).flatMap Visit.pages := by
    rw [Manifest.ofTree, found]
    rfl
  refine ⟨fun way => StructureNode.mem_ways_iff, StructureNode.folder_ways top, ?_, ?_⟩
  · rw [pages, visits_eq, List.flatMap_map]
    simp only [Visit.pages, Visit.url_eq]
    rfl
  · have listed : (visits [] top).flatMap (fun v => v.folder.routeFiles .page) =
        (top.nodes.filter StructureNode.isFolder).flatMap
          fun folder => folder.routeFiles .page := by
      rw [← folder_visits [], List.flatMap_map]
    have files : (Manifest.ofTree tree files root routerRoot).pages.map PageRoute.file =
        ((visits [] top).flatMap fun v => v.folder.routeFiles .page).map fun page =>
          page.entry.relativePath := by
      rw [pages, List.map_flatMap, List.map_flatMap]
      simp only [Visit.pages, List.map_map]
      rfl
    rw [files, listed]
    exact (StructureNode.perm_flatMap_routeFiles (isFolder_of_findRouterRoot? found) .page).map _

/-! ## A tree with layouts beside and below its pages -/

/-- A folder or file of a tree, by its path from the root. -/
private def entryAt (relative route : String) : Entry :=
  { name := Path.name (Path.ofString relative), fullPath := "/site/" ++ relative
    relativePath := relative, inScope := true, route := some route }

private def folderAt (relative route : String) (children : List StructureNode) : StructureNode :=
  .folder (entryAt relative route) (some (.ofName (Path.name (Path.ofString relative)))) children

private def fileAt (relative route : String) (role : Routing.RouteFile) : StructureNode :=
  .file (entryAt relative route) (some { role := .routeFile role, baseName := role.baseName })

/-- A blog with two levels of pages, next to a folder that has a layout and no page. -/
def layeredTree : StructureNode :=
  .folder { name := "site", fullPath := "/site", relativePath := "site" } none
    [folderAt "app" "/"
      [folderAt "app/blog" "/blog"
        [folderAt "app/blog/[slug]" "/blog/[slug]"
          [fileAt "app/blog/[slug]/page.tsx" "/blog/[slug]" .page],
          fileAt "app/blog/layout.tsx" "/blog" .layout,
          fileAt "app/blog/page.tsx" "/blog" .page],
        folderAt "app/docs" "/docs" [fileAt "app/docs/layout.tsx" "/docs" .layout],
        fileAt "app/layout.tsx" "/" .layout, fileAt "app/page.tsx" "/" .page]]

theorem Manifest.pages_of_layeredTree :
    ∃ top, findRouterRoot? layeredTree "app" = some top ∧
      (Manifest.ofTree layeredTree {} ⟨1, ["site"]⟩ "app").pages =
        [⟨"/", "app/page.tsx", "static-route", ["app/layout.tsx"]⟩,
          ⟨"/blog", "app/blog/page.tsx", "static-route", ["app/layout.tsx", "app/blog/layout.tsx"]⟩,
          ⟨"/blog/[slug]", "app/blog/[slug]/page.tsx", "dynamic-route",
            ["app/layout.tsx", "app/blog/layout.tsx"]⟩] := by
  refine ⟨_, rfl, ?_⟩
  obtain ⟨-, -, pages, -⟩ := Manifest.pages_follow_ways layeredTree {} ⟨1, ["site"]⟩ "app" rfl
  refine pages.trans ?_
  decide +kernel

end SiteAtlas
