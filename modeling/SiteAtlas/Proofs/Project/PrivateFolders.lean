import SiteAtlas.Proofs.Project.Counts
import Mathlib.Data.List.Flatten

/-! # What private folders keep out

A private folder is one whose name begins with an underscore. Neither the manifest nor the counts
stop at one: both go down through it as through any other folder, so they leave out what lies in or
below private folders exactly if there is nothing to leave out. The folders are told apart by the
ways that lead to them from the top of the tree, since two of them can look alike.
-/

namespace SiteAtlas

namespace Way

/-- Whether a way ends in or below a private folder. -/
def isPrivate (way : Way) : Bool := way.folders.any (StructureNode.isOfKind "private-folder")

/-- A way and then another one from where it ends. -/
def followedBy (way next : Way) : Way := ⟨way.above ++ next.above, next.folder⟩

/-- The paths of the files of a kind in the folder that a way leads to. -/
def routeFiles (file : Routing.RouteFile) (way : Way) : List String :=
  (way.folder.routeFiles file).map fun node => node.entry.relativePath

theorem From.followedBy {top : StructureNode} {way next : Way} (first : way.From top)
    (second : next.From way.folder) : (way.followedBy next).From top := by
  induction first with
  | stop isFolder => exact second
  | down inside _ ih => exact .down inside (ih second)

end Way

namespace StructureNode

/-- Whether a folder is counted as one with a route file of a kind. -/
def isCounted (file : Routing.RouteFile) (folder : StructureNode) : Bool :=
  folder.entry.inScope && folder.segment?.isSome && folder.holds file

theorem isFolder_of_isCounted {file : Routing.RouteFile} {node : StructureNode}
    (counted : node.isCounted file = true) : node.isFolder = true := by
  cases node with
  | folder entry segment children => rfl
  | file entry analysis => simp [isCounted, segment?] at counted

end StructureNode

/-- Where the router root's folder is found, its way from the top of the tree leads to it. -/
theorem findRouterRoot?_eq_map (tree : StructureNode) (routerRoot : String) :
    findRouterRoot? tree routerRoot =
      (tree.ways.find? fun way => way.folder.entry.relativePath ==
        String.ofList (Text.stripChar '/' routerRoot.toList)).map Way.folder := by
  have folders : findRouterRoot? tree routerRoot =
      (tree.nodes.filter StructureNode.isFolder).find? fun node => node.entry.relativePath ==
        String.ofList (Text.stripChar '/' routerRoot.toList) := by
    simp [findRouterRoot?, List.find?_filter, beq_eq_decide]
  rw [folders, ← StructureNode.folder_ways, List.find?_map]
  rfl

namespace Manifest

/-- The ways from the top of a tree to the folders that a manifest goes through. -/
def routedWays (tree : StructureNode) (routerRoot : String) : List Way :=
  let target := String.ofList (Text.stripChar '/' routerRoot.toList)
  let first? := tree.ways.find? fun way => way.folder.entry.relativePath == target
  first?.toList.flatMap fun first => first.folder.ways.map first.followedBy

variable {tree : StructureNode} {routerRoot : String}

theorem from_of_mem_routedWays {way : Way} (member : way ∈ routedWays tree routerRoot) :
    way.From tree := by
  obtain ⟨first, found, member⟩ := List.mem_flatMap.mp member
  obtain ⟨next, listed, rfl⟩ := List.mem_map.mp member
  have isWay : first ∈ tree.ways := List.mem_of_find?_eq_some (Option.mem_toList.mp found)
  have leads : first.From tree := StructureNode.mem_ways_iff.mp isWay
  exact leads.followedBy (StructureNode.mem_ways_iff.mp listed)

theorem folder_visited_eq_routedWays (tree : StructureNode) (routerRoot : String) :
    (visited tree routerRoot).map Visit.folder = (routedWays tree routerRoot).map Way.folder := by
  rw [visited, findRouterRoot?_eq_map, routedWays]
  cases tree.ways.find? fun way => way.folder.entry.relativePath ==
      String.ofList (Text.stripChar '/' routerRoot.toList) with
  | none => rfl
  | some first =>
    simp only [Option.map_some, Option.getD_some, Option.toList_some, List.flatMap_singleton,
      visits_eq, List.map_map]
    rfl

theorem flatMap_visited (file : Routing.RouteFile) :
    ((visited tree routerRoot).flatMap fun v =>
        (v.folder.routeFiles file).map fun node => node.entry.relativePath) =
      (routedWays tree routerRoot).flatMap (Way.routeFiles file) := by
  have same := congrArg (List.flatMap fun folder : StructureNode =>
    (folder.routeFiles file).map fun node => node.entry.relativePath)
    (folder_visited_eq_routedWays tree routerRoot)
  rwa [List.flatMap_map, List.flatMap_map] at same

end Manifest

/-- Leaving out some items changes nothing of what all give exactly if those give nothing. -/
theorem flatMap_filter_eq_iff {α β : Type} {keep : α → Bool} {f : α → List β} {items : List α} :
    items.flatMap f = (items.filter keep).flatMap f ↔
      ∀ item ∈ items, keep item = false → f item = [] := by
  induction items with
  | nil => simp
  | cons item rest ih =>
    rw [List.forall_mem_cons, ← ih]
    cases kept : keep item with
    | true => simp [List.filter_cons_of_pos kept]
    | false =>
      rw [List.filter_cons_of_neg (by simp [kept]), List.flatMap_cons]
      constructor
      · -- The kept items behind give no more than all items behind, so this one gives nothing.
        intro same
        have shorter := ((List.filter_sublist (p := keep) (l := rest)).flatMap f).length_le
        have lengths := congrArg List.length same
        rw [List.length_append] at lengths
        have none : f item = [] := List.eq_nil_of_length_eq_zero (by omega)
        rw [none, List.nil_append] at same
        exact ⟨fun _ => none, same⟩
      · rintro ⟨none, same⟩
        rw [none rfl, List.nil_append, same]

/-- Leaving out some items changes no count exactly if none of those is counted. -/
theorem countP_filter_eq_iff {α : Type} {keep counted : α → Bool} {items : List α} :
    items.countP counted = (items.filter keep).countP counted ↔
      ∀ item ∈ items, keep item = false → counted item = false := by
  have parts := List.countP_eq_countP_filter_add items counted keep
  calc items.countP counted = (items.filter keep).countP counted
    _ ↔ (items.filter fun item => !keep item).countP counted = 0 := by omega
    _ ↔ ∀ item ∈ items, keep item = false → counted item = false := by
      simp only [List.countP_eq_zero, List.mem_filter, Bool.not_eq_true', Bool.not_eq_true, and_imp]

namespace Insights

/-- The folders with a route file of a kind are counted along the ways to them. -/
theorem length_counted (tree : StructureNode) (file : Routing.RouteFile) :
    (((tree.nodes.filter fun node => node.entry.inScope).filter
      fun node => node.segment?.isSome).filter fun node => node.holds file).length =
        tree.ways.countP fun way => way.folder.isCounted file := by
  have folders : tree.ways.countP (fun way => way.folder.isCounted file) =
      (tree.ways.map Way.folder).countP (StructureNode.isCounted file) := by
    rw [List.countP_map]
    rfl
  rw [folders, StructureNode.folder_ways, List.countP_filter, List.filter_filter,
    List.filter_filter, ← List.countP_eq_length_filter]
  -- The ways lead to folders only, but a file is not counted either.
  refine List.countP_congr fun node _ => ?_
  constructor
  · intro counted
    have isCounted : node.isCounted file = true := by
      simp only [Bool.and_eq_true] at counted
      simp [StructureNode.isCounted, counted]
    rw [isCounted, StructureNode.isFolder_of_isCounted isCounted, Bool.and_true]
  · intro counted
    simp only [StructureNode.isCounted, Bool.and_eq_true] at counted
    simp [counted]

end Insights

/-- The manifest lists the pages and API routes of all folders at and below the router root, along
the ways to them, and the counts take in every folder in scope. What lies in or below private
folders is left out exactly if no private folder, and no folder below one, holds a page or an API
route. -/
theorem Manifest.leaves_out_private_iff (tree : StructureNode) (files : FileSystem) (root : Path)
    (routerRoot : String) :
    let manifest := Manifest.ofTree tree files root routerRoot
    let insights := Insights.ofTree tree
    let ways := routedWays tree routerRoot
    let isPublic (way : Way) : Bool := !way.isPrivate
    (∀ way ∈ ways, way.From tree) ∧
      manifest.pages.map PageRoute.file = ways.flatMap (Way.routeFiles .page) ∧
      manifest.apiRoutes.map ApiRoute.file = ways.flatMap (Way.routeFiles .endpoint) ∧
      (manifest.pages.map PageRoute.file = (ways.filter isPublic).flatMap (Way.routeFiles .page) ↔
        ∀ way ∈ ways, way.isPrivate = true → way.routeFiles .page = []) ∧
      (manifest.apiRoutes.map ApiRoute.file =
          (ways.filter isPublic).flatMap (Way.routeFiles .endpoint) ↔
        ∀ way ∈ ways, way.isPrivate = true → way.routeFiles .endpoint = []) ∧
      (insights.routeCount =
          (tree.ways.filter isPublic).countP (fun way => way.folder.isCounted .page) ↔
        ∀ way ∈ tree.ways, way.isPrivate = true → way.folder.isCounted .page = false) ∧
      (insights.endpointCount =
          (tree.ways.filter isPublic).countP (fun way => way.folder.isCounted .endpoint) ↔
        ∀ way ∈ tree.ways, way.isPrivate = true → way.folder.isCounted .endpoint = false) := by
  intro manifest insights ways isPublic
  have hidden (way : Way) : isPublic way = false ↔ way.isPrivate = true := by
    simp [isPublic]
  have pages : manifest.pages.map PageRoute.file = ways.flatMap (Way.routeFiles .page) := by
    rw [← flatMap_visited]
    simp only [manifest, ofTree, ofVisits, List.map_flatMap, Visit.pages, List.map_map]
    rfl
  have apiRoutes : manifest.apiRoutes.map ApiRoute.file =
      ways.flatMap (Way.routeFiles .endpoint) := by
    rw [← flatMap_visited]
    simp only [manifest, ofTree, ofVisits, List.map_flatMap, Visit.apiRoutes, List.map_map]
    rfl
  have routeCount : insights.routeCount =
      tree.ways.countP fun way => way.folder.isCounted .page := Insights.length_counted tree .page
  have endpointCount : insights.endpointCount =
      tree.ways.countP fun way => way.folder.isCounted .endpoint :=
    Insights.length_counted tree .endpoint
  refine ⟨fun way => from_of_mem_routedWays, pages, apiRoutes, ?_, ?_, ?_, ?_⟩
  · simp only [pages, flatMap_filter_eq_iff, hidden]
  · simp only [apiRoutes, flatMap_filter_eq_iff, hidden]
  · simp only [routeCount, countP_filter_eq_iff, hidden]
  · simp only [endpointCount, countP_filter_eq_iff, hidden]

/-- A project whose only page and only API route lie in a private folder. -/
def privateTree : StructureNode :=
  let entry (name relative : String) : Entry :=
    { name := name, fullPath := "/site/" ++ relative, relativePath := relative, inScope := true
      route := some "" }
  let file (name : String) (role : Routing.RouteFile) : StructureNode :=
    .file (entry name ("app/_lib/" ++ name))
      (some { role := .routeFile role, baseName := role.baseName })
  .folder { name := "site", fullPath := "/site", relativePath := "site" } none
    [.folder (entry "app" "app") (some (.ofName "app"))
      [.folder (entry "_lib" "app/_lib") (some (.ofName "_lib"))
        [file "page.tsx" .page, file "route.ts" .endpoint]]]

/-- What lies in a private folder is listed and counted. -/
theorem Manifest.lists_private_page :
    let manifest := Manifest.ofTree privateTree {} ⟨1, ["site"]⟩ "app"
    let insights := Insights.ofTree privateTree
    (∃ way ∈ routedWays privateTree "app", way.isPrivate = true ∧
      way.routeFiles .page = ["app/_lib/page.tsx"] ∧
      way.routeFiles .endpoint = ["app/_lib/route.ts"]) ∧
    manifest.pages.map PageRoute.file = ["app/_lib/page.tsx"] ∧
    manifest.apiRoutes.map ApiRoute.file = ["app/_lib/route.ts"] ∧
    manifest.privateFolders = ["app/_lib"] ∧
    insights.routeCount = 1 ∧ insights.endpointCount = 1 := by
  decide +kernel

end SiteAtlas
