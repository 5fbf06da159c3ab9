import SiteAtlas.Routing.Payload

/-! # Project trees

The folders and files of a project, as the walk over it finds them. Folders and files below the
router root carry what they mean for routing.
-/

namespace SiteAtlas

/-- What a folder and a file of a project have in common. -/
structure Entry where
  /-- The name in its folder. -/
  name : String
  /-- The absolute path. -/
  fullPath : String
  /-- The path from the project's root; the root's own is its name. -/
  relativePath : String
  /-- Whether it is the router root or lies below it. -/
  inScope : Bool := false
  /-- The URL of the folder, or of the folder that the file lies in. -/
  route : Option String := none
  deriving DecidableEq, Inhabited

/-- A folder with its contents, or a file. -/
inductive StructureNode where
  | folder (entry : Entry) (segment : Option Routing.Segment) (children : List StructureNode)
  | file (entry : Entry) (analysis : Option Routing.FileAnalysis)
  deriving Inhabited

namespace StructureNode

/-- What the node has in common with all others. -/
def entry : StructureNode → Entry
  | folder entry _ _ => entry
  | file entry _ => entry

/-- The name of the node. -/
def name (node : StructureNode) : String := node.entry.name

/-- Whether the node is a folder. -/
def isFolder : StructureNode → Bool
  | folder .. => true
  | file .. => false

/-- The contents of a folder, in order. -/
def children : StructureNode → List StructureNode
  | folder _ _ children => children
  | file .. => []

/-- What the name of a folder in scope means for routes. -/
def segment? : StructureNode → Option Routing.Segment
  | folder _ segment _ => segment
  | file .. => none

/-- The role of a file in scope. -/
def analysis? : StructureNode → Option Routing.FileAnalysis
  | file _ analysis => analysis
  | folder .. => none

/-- The folders directly inside a node. -/
def folders (node : StructureNode) : List StructureNode := node.children.filter isFolder

/-- The files directly inside a node. -/
def files (node : StructureNode) : List StructureNode := node.children.filter fun c => !c.isFolder

/-- The reserved route file that a node is. -/
def routeFile? (node : StructureNode) : Option Routing.RouteFile :=
  node.analysis?.bind Routing.FileAnalysis.routeFile?

/-- Whether a reserved route file lies directly in a folder. -/
def holds (node : StructureNode) (file : Routing.RouteFile) : Bool :=
  node.children.any fun child => child.routeFile? == some file

mutual

/-- A node and everything below it, each folder before its contents. -/
def nodes : StructureNode → List StructureNode
  | folder entry segment children => folder entry segment children :: nodesOf children
  | file entry analysis => [file entry analysis]

/-- All nodes of a list and everything below them. -/
def nodesOf : List StructureNode → List StructureNode
  | [] => []
  | node :: rest => nodes node ++ nodesOf rest

end

/-- The document that says which reserved route files lie directly in a folder in scope. -/
def flags (node : StructureNode) : Value :=
  if node.segment?.isNone then .null
  else .table [
    ("hasPage", .bool (node.holds .page)), ("hasLayout", .bool (node.holds .layout)),
    ("hasLoading", .bool (node.holds .loading)), ("hasError", .bool (node.holds .error)),
    ("hasNotFound", .bool (node.holds .notFound)), ("hasApiRoute", .bool (node.holds .endpoint)),
    ("hasTemplate", .bool (node.holds .template)), ("hasDefault", .bool (node.holds .default))]

/-- The document that says what the name of a folder in scope means. -/
def segmentPayload (node : StructureNode) : Value :=
  match node.segment? with
  | some segment => segment.payload node.name
  | none => .null

/-- The document that says what the role of a file in scope is. -/
def analysisPayload (node : StructureNode) : Value :=
  match node.analysis? with
  | some analysis => analysis.payload
  | none => .null

/-- The document of a node around those of its contents. -/
def payloadWith (node : StructureNode) (children : List Value) : Value :=
  .table [
    ("name", .text node.name), ("kind", .text (if node.isFolder then "folder" else "file")),
    ("fullPath", .text node.entry.fullPath), ("relativePath", .text node.entry.relativePath),
    ("isAppRouterScope", .bool node.entry.inScope), ("routingAnalysis", node.segmentPayload),
    ("routePath", .optional node.entry.route), ("specialFiles", node.flags),
    ("fileAnalysis", node.analysisPayload), ("children", .list children)]

mutual

/-- The document of a node with everything below it. -/
def payload : StructureNode → Value
  | folder entry segment children =>
    payloadWith (folder entry segment children) (payloadsOf children)
  | file entry analysis => payloadWith (file entry analysis) []

/-- The documents of a list of nodes. -/
def payloadsOf : List StructureNode → List Value
  | [] => []
  | node :: rest => payload node :: payloadsOf rest

end

end StructureNode

end SiteAtlas
