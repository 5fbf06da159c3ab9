import SiteAtlas.Files.FileSystem
import SiteAtlas.Project.Structure

/-! # The route manifest

The folders in scope seen as URLs: pages with the layouts around them, API routes, and the folders
with a meaning of their own. All of it is read off a project tree, but for the configuration files
next to the root.
-/

namespace SiteAtlas

/-! ## Going through the folders -/

/-- A folder in scope on the way through the tree. -/
structure Visit where
  /-- The folder. -/
  folder : StructureNode
  /-- The layouts of the folders around it and then its own, by relative path. -/
  layouts : List String

namespace Visit

/-- The URL of the folder. -/
def url (v : Visit) : String :=
  match v.folder.entry.route with
  | some route => if route.isEmpty then "/" else route
  | none => "/"

/-- What the name of the folder means. -/
def segment (v : Visit) : Routing.Segment := v.folder.segment?.getD .static

/-- The files of a kind directly in the folder. -/
def routeFiles (v : Visit) (file : Routing.RouteFile) : List StructureNode :=
  v.folder.files.filter fun node => node.routeFile? == some file

end Visit

/-- The relative paths of the layouts directly in a folder. -/
def ownLayouts (folder : StructureNode) : List String :=
  (folder.files.filter fun node => node.routeFile? == some .layout).map fun node =>
    node.entry.relativePath

mutual

/-- The folders from a node on, each before the folders in it. -/
def visits (layouts : List String) : StructureNode → List Visit
  | .folder entry segment children =>
    let folder : StructureNode := .folder entry segment children
    let chain := layouts ++ ownLayouts folder
    ⟨folder, chain⟩ :: visitsIn chain children
  | .file .. => []

/-- The folders from some nodes on. -/
def visitsIn (layouts : List String) : List StructureNode → List Visit
  | [] => []
  | node :: rest => visits layouts node ++ visitsIn layouts rest

end

/-- The folder of a tree that is the router root. -/
def findRouterRoot? (tree : StructureNode) (routerRoot : String) : Option StructureNode :=
  let target := String.ofList (Text.stripChar '/' routerRoot.toList)
  tree.nodes.find? fun node => node.isFolder && node.entry.relativePath == target

/-! ## Entries of the manifest -/

/-- A page. -/
structure PageRoute where
  url : String
  file : String
  /-- The kind of segment of its folder. -/
  routeType : String
  /-- The layouts around it, outermost first. -/
  layoutChain : List String
  deriving DecidableEq

/-- An API route. -/
structure ApiRoute where
  url : String
  file : String
  methods : List String
  actions : List String
  kind : Routing.EndpointKind
  deriving DecidableEq

/-- A folder that shows the page of another URL. -/
structure InterceptingRoute where
  /-- The name of the folder. -/
  pattern : String
  /-- What the URL it looks for ends in. -/
  target : String
  level : Routing.InterceptLevel
  url : String
  relativePath : String
  deriving DecidableEq

/-- A configuration file next to the root. -/
structure ConfigFile where
  kind : String
  name : String
  fullPath : String
  deriving DecidableEq

/-- The route manifest of a project. -/
structure Manifest where
  pages : List PageRoute
  apiRoutes : List ApiRoute
  /-- URL and file of each layout. -/
  layouts : List (String × String)
  /-- Name, URL and path of each route group. -/
  groups : List (String × String × String)
  /-- Slot, URL and path of each parallel route. -/
  slots : List (String × String × String)
  intercepts : List InterceptingRoute
  /-- Kind, file and URL of each metadata file. -/
  metadata : List (String × String × String)
  privateFolders : List String
  dynamicCount : Nat
  configFiles : List ConfigFile

/-- The pages directly in a folder. -/
def Visit.pages (v : Visit) : List PageRoute :=
  (v.routeFiles .page).map fun file =>
    { url := v.url, file := file.entry.relativePath, routeType := v.segment.label
      layoutChain := v.layouts }

/-- The API routes directly in a folder. -/
def Visit.apiRoutes (v : Visit) : List ApiRoute :=
  (v.routeFiles .endpoint).map fun file =>
    { url := v.url, file := file.entry.relativePath
      methods := (file.analysis?.map (·.methods)).getD []
      actions := (file.analysis?.map (·.actions)).getD []
      kind := .ofRoute v.url }

/-- The intercepting route that a folder is. -/
def Visit.intercept? (v : Visit) : Option InterceptingRoute :=
  match v.segment with
  | .intercepting level target =>
    some { pattern := v.folder.name, target := target, level := level, url := v.url
           relativePath := v.folder.entry.relativePath }
  | _ => none

/-- The metadata files directly in a folder. -/
def Visit.metadata (v : Visit) : List (String × String × String) :=
  v.folder.files.filterMap fun file =>
    match file.analysis? with
    | some ⟨.metadata kind, _, _, _⟩ => some (kind, file.entry.relativePath, v.url)
    | _ => none

/-! ## Configuration files -/

/-- The kinds of the configuration files with fixed names. -/
def configNames : List (String × String) :=
  [("next.config.js", "next-config"), ("next.config.mjs", "next-config"),
    ("next.config.ts", "next-config"), ("tailwind.config.js", "tailwind-config"),
    ("tailwind.config.ts", "tailwind-config"), ("middleware.js", "middleware"),
    ("middleware.ts", "middleware"), ("instrumentation.js", "instrumentation"),
    ("instrumentation.ts", "instrumentation")]

/-- The configuration files next to a root: those with fixed names, then the environments. -/
def findConfigFiles (files : FileSystem) (root : Path) : List ConfigFile :=
  let fixed := configNames.filter fun (known : String × String) =>
    files.hasFile (root.child known.1)
  let entries : List String := match files.lookup root with
    | .ok node => node.entries.map (·.1)
    | .error _ => []
  let environments := (entries.filter fun (name : String) => ".env".toList.isPrefixOf name.toList
    && files.hasFile (root.child name)).mergeSort (· ≤ ·)
  (fixed ++ environments.map fun name => (name, "environment")).map fun (name, kind) =>
    { kind := kind, name := name, fullPath := (root.child name).toString }

/-! ## The manifest -/

/-- The manifest of folders. -/
def Manifest.ofVisits (found : List Visit) (configFiles : List ConfigFile) : Manifest :=
  { pages := found.flatMap Visit.pages
    apiRoutes := found.flatMap Visit.apiRoutes
    layouts := found.flatMap fun v => (ownLayouts v.folder).map fun file => (v.url, file)
    groups := found.filterMap fun v =>
      match v.segment with
      | .group inner => some (inner, v.url, v.folder.entry.relativePath)
      | _ => none
    slots := found.filterMap fun v =>
      match v.segment with
      | .parallel slot => some (slot, v.url, v.folder.entry.relativePath)
      | _ => none
    intercepts := found.filterMap Visit.intercept?
    metadata := found.flatMap Visit.metadata
    privateFolders := found.filterMap fun v =>
      if v.segment = .privateFolder then some v.folder.entry.relativePath else none
    dynamicCount := (found.filter fun v => v.segment.isParameter).length
    configFiles := configFiles }

/-- The manifest of a project tree. -/
def Manifest.ofTree (tree : StructureNode) (files : FileSystem) (root : Path)
    (routerRoot : String) : Manifest :=
  .ofVisits (((findRouterRoot? tree routerRoot).map (visits [])).getD [])
    (findConfigFiles files root)

/-! ## Linking intercepting routes with pages -/

/-- A page with the intercepting routes that show it, by relative path. -/
structure LinkedPage where
  page : PageRoute
  interceptedBy : List String := []

/-- A page with one more intercepting route. -/
def LinkedPage.note (link : LinkedPage) (path : String) : LinkedPage :=
  { link with interceptedBy := link.interceptedBy ++ [path] }

/-- An intercepting route with the URL of the page that it shows, if there is one. -/
structure LinkedRoute where
  route : InterceptingRoute
  shown? : Option String

/-- Whether the URL of a page ends in what an intercepting route looks for. -/
def InterceptingRoute.fits (route : InterceptingRoute) (page : PageRoute) : Bool :=
  Text.endsWith ("/" ++ route.target).toList page.url.toList

/-- Note an intercepting route at the first page that fits it; the answer begins with the URL of
that page. -/
def InterceptingRoute.noteAt (route : InterceptingRoute) :
    List LinkedPage → Option String × List LinkedPage
  | [] => (none, [])
  | link :: rest =>
    if route.fits link.page then (some link.page.url, link.note route.relativePath :: rest)
    else
      let (shown?, rest) := noteAt route rest
      (shown?, link :: rest)

/-- Link an intercepting route with the page that it shows. A route that looks for nothing shows
none. -/
def InterceptingRoute.link (route : InterceptingRoute) (pages : List LinkedPage) :
    Option String × List LinkedPage :=
  if route.target.isEmpty then (none, pages) else route.noteAt pages

/-- Link intercepting routes with pages, one route after the other. -/
def linkRoutes : List InterceptingRoute → List LinkedPage → List LinkedRoute × List LinkedPage
  | [], pages => ([], pages)
  | route :: rest, pages =>
    let (shown?, pages) := route.link pages
    let (routes, pages) := linkRoutes rest pages
    (⟨route, shown?⟩ :: routes, pages)

namespace Manifest

/-- The intercepting routes and the pages of a manifest, linked with each other. -/
def links (m : Manifest) : List LinkedRoute × List LinkedPage :=
  linkRoutes m.intercepts (m.pages.map fun page => { page := page })

/-- The first name in the URL of an API route. -/
def apiGroup (route : ApiRoute) : String :=
  ((Routing.segments route.url).filter fun s => !s.isEmpty).headD "root"

/-- Items under their keys, the keys in the order of their first items. -/
def grouped {α : Type} (key : α → String) (items : List α) : List (String × List α) :=
  (items.map key).eraseDups.map fun k => (k, items.filter fun item => key item == k)

/-- The greatest number of layouts around a page. -/
def maxLayoutDepth (m : Manifest) : Nat :=
  m.pages.foldl (fun depth page => max depth page.layoutChain.length) 0

/-! ## Documents -/

/-- The document of an API route. -/
def apiPayload (route : ApiRoute) : Value :=
  .table [("url", .text route.url), ("file", .text route.file), ("methods", .texts route.methods),
    ("serverActions", .texts route.actions), ("kind", .text route.kind.label)]

/-- The document of a page. -/
def pagePayload (link : LinkedPage) : Value :=
  .table [("url", .text link.page.url), ("file", .text link.page.file),
    ("routeType", .text link.page.routeType), ("layoutChain", .texts link.page.layoutChain),
    ("interceptedBy", .texts link.interceptedBy)]

/-- The document of an intercepting route. -/
def interceptPayload (link : LinkedRoute) : Value :=
  .table [("pattern", .text link.route.pattern), ("targetSegment", .text link.route.target),
    ("interceptLevel", .text link.route.level.label), ("url", .text link.route.url),
    ("relativePath", .text link.route.relativePath), ("target", .optional link.shown?)]

/-- The document of a parallel route. -/
def slotPayload (slot : String × String × String) : Value :=
  .table [("slot", .text slot.1), ("url", .text slot.2.1), ("relativePath", .text slot.2.2)]

/-- The document of the counts of a manifest. -/
def summary (m : Manifest) : Value :=
  .table [("totalPages", .count m.pages.length), ("totalLayouts", .count m.layouts.length),
    ("totalApiRoutes", .count m.apiRoutes.length),
    ("totalMetadataFiles", .count m.metadata.length),
    ("totalConfigFiles", .count m.configFiles.length),
    ("totalPrivateFolders", .count m.privateFolders.length),
    ("routeGroups", .count m.groups.length), ("parallelRoutes", .count m.slots.length),
    ("interceptingRoutes", .count m.intercepts.length), ("dynamicRoutes", .count m.dynamicCount),
    ("apiGroups", .count (grouped apiGroup m.apiRoutes).length),
    ("serverActionsCount", .count (total (m.apiRoutes.map fun route => route.actions.length))),
    ("maxLayoutDepth", .count m.maxLayoutDepth), ("hasRouteGroups", .bool !m.groups.isEmpty),
    ("hasParallelRoutes", .bool !m.slots.isEmpty),
    ("hasInterceptingRoutes", .bool !m.intercepts.isEmpty),
    ("hasDynamicRoutes", .bool (m.dynamicCount > 0)),
    ("hasNestedLayouts", .bool (m.pages.any fun page => page.layoutChain.length > 1)),
    ("hasMetadataFiles", .bool !m.metadata.isEmpty),
    ("hasServerActions", .bool (m.apiRoutes.any fun route => !route.actions.isEmpty)),
    ("hasPrivateFolders", .bool !m.privateFolders.isEmpty),
    ("hasMiddleware", .bool (m.configFiles.any fun file => file.kind == "middleware"))]

/-- The document of a manifest. -/
def payload (m : Manifest) : Value :=
  .table [
    ("pages", .list (m.links.2.map pagePayload)),
    ("apiRoutes", .list (m.apiRoutes.map apiPayload)),
    ("layouts", .list (m.layouts.map fun (url, file) =>
      .table [("url", .text url), ("file", .text file)])),
    ("routeGroups", .list (m.groups.map fun (name, url, path) =>
      .table [("name", .text name), ("url", .text url), ("relativePath", .text path)])),
    ("parallelSlots", .table ((grouped (fun slot => slot.2.1) m.slots).map fun (url, slots) =>
      (url, .list (slots.map slotPayload)))),
    ("interceptingRoutes", .list (m.links.1.map interceptPayload)),
    ("apiGroups", .table ((grouped apiGroup m.apiRoutes).map fun (name, routes) =>
      (name, .list (routes.map apiPayload)))),
    ("metadataFiles", .list (m.metadata.map fun (kind, file, url) =>
      .table [("type", .text kind), ("file", .text file), ("url", .text url)])),
    ("privateFolders", .texts m.privateFolders),
    ("dynamicSegments", .count m.dynamicCount),
    ("configFiles", .list (m.configFiles.map fun file =>
      .table [("type", .text file.kind), ("fileName", .text file.name),
        ("fullPath", .text file.fullPath)])),
    ("summary", m.summary)]

end Manifest

end SiteAtlas
