import SiteAtlas.Project.Structure

/-! # Counts over a project tree

How often each kind of segment and each reserved file occurs in scope.
-/

namespace SiteAtlas

/-- The kinds of segments that are counted, each under the key of its count. -/
def segmentCountKeys : List (String × String) :=
  [("static", "static-route"), ("dynamic", "dynamic-route"), ("catchAll", "catch-all-route"),
    ("optionalCatchAll", "optional-catch-all-route"), ("routeGroups", "route-group"),
    ("privateFolders", "private-folder"), ("parallelRoutes", "parallel-route"),
    ("interceptingRoutes", "intercepting-route")]

/-- The reserved files that are counted, each under the key of its count. -/
def fileCountKeys : List (String × Routing.RouteFile) :=
  [("layouts", .layout), ("pages", .page), ("loading", .loading), ("errors", .error),
    ("notFound", .notFound), ("templates", .template), ("defaults", .default)]

/-- What a project's tree amounts to. -/
structure Insights where
  /-- Whether anything is in scope. -/
  routerDetected : Bool
  /-- The number of folders with a page. -/
  routeCount : Nat
  /-- The number of folders with an API route. -/
  endpointCount : Nat
  /-- The number of folders of each kind. -/
  segmentCounts : List (String × Nat)
  /-- The number of reserved files of each kind. -/
  fileCounts : List (String × Nat)
  deriving DecidableEq

/-- Count over a tree. -/
def Insights.ofTree (tree : StructureNode) : Insights :=
  let inScope := tree.nodes.filter fun node => node.entry.inScope
  let folders := inScope.filter fun node => node.segment?.isSome
  let countLabel (label : String) : Nat :=
    (folders.filter fun node => node.segment?.map Routing.Segment.label == some label).length
  { routerDetected := !inScope.isEmpty
    routeCount := (folders.filter fun node => node.holds .page).length
    endpointCount := (folders.filter fun node => node.holds .endpoint).length
    segmentCounts := segmentCountKeys.map fun (key, label) => (key, countLabel label)
    fileCounts := fileCountKeys.map fun (key, file) =>
      (key, (inScope.filter fun node => node.routeFile? == some file).length) }

/-- The document of a list of counts. -/
def countsPayload (counts : List (String × Nat)) : Value :=
  .table (counts.map fun (key, n) => (key, .count n))

/-- The document of the counts. -/
def Insights.payload (i : Insights) : Value :=
  .table [("appRouterDetected", .bool i.routerDetected), ("routeCount", .count i.routeCount),
    ("apiEndpointCount", .count i.endpointCount),
    ("routePatterns", countsPayload i.segmentCounts), ("specialFiles", countsPayload i.fileCounts)]

end SiteAtlas
