import SiteAtlas.Layout.Placement
import SiteAtlas.Layout.NodeId

/-! # The tree layout

Folders and files of a project from left to right. Each expanded folder reserves the room of its
contents; these are spread over it from the top, folders before files, and each box that would
collide with one placed before is moved to a free place.
-/

namespace SiteAtlas.TreeLayout

variable {α : Type} [Scalar α]

mutual

/-- The vertical room that a node needs that these names lead to. -/
def extent (s : TreeSpacing α) (expanded : List String) (names : List String) :
    StructureNode → α
  | .folder entry segment children =>
    let node := StructureNode.folder entry segment children
    if !expanded.contains (NodeId.folder names) || children.isEmpty then s.folderHeight
    else
      Scalar.larger
        (extentOf s expanded names Scalar.zero children + (node.files.length : α) * s.fileSpacing)
        s.minTreeExtent
  | .file .. => s.folderHeight

/-- The room of the folders among the contents of a folder, each with the spacing below it, added
to what came before. -/
def extentOf (s : TreeSpacing α) (expanded : List String) (names : List String) (total : α) :
    List StructureNode → α
  | [] => total
  | child :: rest =>
    if child.isFolder then
      extentOf s expanded names
        (total + (extent s expanded (names ++ [child.name]) child + s.folderSpacing)) rest
    else extentOf s expanded names total rest

end

/-- The arrow from a parent to a node. -/
def edge (source target style label : String) : Edge :=
  { id := "edge-" ++ source ++ "-" ++ target, source := source, target := target, style := style
    label := label, data := [("key", .text "name")] }

/-- The style of the arrow to a node. -/
def scopeStyle (node : StructureNode) : String :=
  if node.entry.inScope then "app-router" else "structural"

/-- What a folder's box knows. -/
def folderData (id : String) (isExpanded : Bool) (node : StructureNode) : Fields :=
  [("name", .text node.name), ("type", .text "folder"), ("isExpanded", .bool isExpanded),
    ("isAppRouter", .bool node.entry.inScope), ("routingAnalysis", node.segmentPayload),
    ("routePath", .optional node.entry.route), ("specialFiles", node.flags),
    ("fileCount", .count node.files.length), ("folderCount", .count node.folders.length),
    ("relativePath", .text node.entry.relativePath), ("nodeId", .text id)]

/-- What a file's box knows. -/
def fileData (id : String) (node : StructureNode) : Fields :=
  [("name", .text node.name), ("type", .text "file"), ("isAppRouter", .bool node.entry.inScope),
    ("fileAnalysis", node.analysisPayload), ("filePath", .text node.entry.fullPath),
    ("relativePath", .text node.entry.relativePath), ("nodeId", .text id)]

/-- A graph with one more box, moved to a free place, and the arrow to it. -/
def addBox (s : TreeSpacing α) (g : Graph α) (n : Node α) (arrow : Option Edge) : Graph α :=
  let (x, y) := Placement.find s n.width n.height (g.nodes.map Node.box) (n.x, n.y)
  { g with nodes := g.nodes ++ [{ n with x := x, y := y }], edges := g.edges ++ arrow.toList }

/-- Place a folder's own box, its left edge at `left` and its middle at `center`. -/
def placeFolder (s : TreeSpacing α) (expanded : List String) (names : List String)
    (parent : Option String) (left center : α) (node : StructureNode) (g : Graph α) : Graph α :=
  let id := NodeId.folder names
  addBox s g
    { id := id, kind := "folder", x := left, y := center - Scalar.half s.folderHeight
      width := s.folderWidth, height := s.folderHeight
      data := folderData id (expanded.contains id) node }
    (parent.map fun p => edge p id (scopeStyle node) node.name)

/-- Place the files of a folder one below the other, from `top` on. -/
def placeFiles (s : TreeSpacing α) (folderId : String) (left : α) :
    (index : Nat) → (top : α) → List StructureNode → Graph α → Graph α
  | _, _, [], g => g
  | index, top, node :: rest, g =>
    let id := NodeId.file folderId index
    let middle := top + Scalar.half s.fileSpacing
    let placed := addBox s g
      { id := id, kind := "file", x := left + s.fileOffset
        y := middle - Scalar.half s.fileHeight, width := s.fileWidth, height := s.fileHeight
        data := fileData id node }
      (some (edge folderId id (scopeStyle node) node.name))
    placeFiles s folderId left (index + 1) (top + s.fileSpacing) rest placed

mutual

/-- Place a node that these names lead to and everything visible below it. -/
def place (s : TreeSpacing α) (expanded : List String) (names : List String)
    (parent : Option String) (left center : α) : StructureNode → Graph α → Graph α
  | .folder entry segment children, g =>
    let node := StructureNode.folder entry segment children
    let id := NodeId.folder names
    let g := placeFolder s expanded names parent left center node g
    if !expanded.contains id || children.isEmpty then g
    else
      let total := extentOf s expanded names Scalar.zero children
        + (node.files.length : α) * s.fileSpacing
      let (top, g) := placeFolders s expanded names id (left + s.depthDistance)
        (center - Scalar.half total) children g
      placeFiles s id (left + s.depthDistance) 0 top node.files g
  | .file entry analysis, g =>
    placeFolder s expanded names parent left center (.file entry analysis) g

/-- Place the folders among the contents of a folder one below the other, from `top` on; the answer
begins with the place below them. -/
def placeFolders (s : TreeSpacing α) (expanded : List String) (names : List String)
    (parentId : String) (left top : α) : List StructureNode → Graph α → α × Graph α
  | [], g => (top, g)
  | child :: rest, g =>
    if child.isFolder then
      let room := extent s expanded (names ++ [child.name]) child
      let g := place s expanded (names ++ [child.name]) (some parentId) left
        (top + Scalar.half room) child g
      placeFolders s expanded names parentId left (top + (room + s.folderSpacing)) rest g
    else placeFolders s expanded names parentId left top rest g

end

/-- The layout of a tree, the given folders being expanded. -/
def layout (s : TreeSpacing α) (expanded : List String) (tree : StructureNode) : Graph α :=
  place s expanded [] none s.rootX Scalar.zero tree {}

end SiteAtlas.TreeLayout
