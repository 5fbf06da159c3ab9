import SiteAtlas.Files.FileSystem
import SiteAtlas.Ignore.Rules
import SiteAtlas.Project.Structure
import SiteAtlas.Script.Source
import SiteAtlas.Settings.Sections

/-! # The walk over a project

A walk goes through all folders below the project's root. Links to folders are not gone into, which
is why it ends; links to files count as files. Ignored entries are left out with all that they hold.
The tree does not depend on the order in which a folder lists its entries. A link that is not
ignored and leads round in a circle or through a file stops the walk.
-/

namespace SiteAtlas

/-- What a walk needs to know. -/
structure Walk where
  /-- The files there are. -/
  files : FileSystem
  /-- The path of the router root from the project's root, without slashes at its ends. -/
  routerRoot : String
  /-- Whether the entry at a relative path is ignored; the flag says that it is a folder. -/
  isIgnored : String → Bool → Bool

/-- The greatest size of a file that is read. -/
def readLimit : Nat := 1024 * 1024

namespace Walk

/-- The order of the entries of a folder: folders first, then by name without regard to case, then
by name. -/
def entryBefore (a b : StructureNode) : Bool :=
  if a.isFolder != b.isFolder then a.isFolder
  else
    let lowerA := Text.lower a.name
    let lowerB := Text.lower b.name
    lowerA < lowerB || lowerA == lowerB && a.name ≤ b.name

/-- The path of an entry from the project's root. -/
def childPath (relative name : String) : String :=
  if relative.isEmpty then name else relative ++ "/" ++ name

/-- The text of a file that can hold a route, unless it is too long or cannot be read. -/
def routeText? (w : Walk) (path : Path) : Option String :=
  if Routing.routeExtensions.contains path.extension then
    match w.files.content path with
    | .ok content => if content.size ≤ readLimit then some (Text.ofBytes content) else none
    | .error _ => none
  else none

/-- The node of a file in a folder whose URL is `route`. -/
def fileNode (w : Walk) (path : Path) (relative : String) (route : Option String) :
    StructureNode :=
  let inScope := Routing.isInScope w.routerRoot relative
  let entry : Entry :=
    { name := path.name, fullPath := path.toString, relativePath := relative, inScope := inScope
      route := if inScope then route else none }
  .file entry
    (if inScope then some (Routing.FileAnalysis.ofFile path.name (w.routeText? path)) else none)

/-- What a folder has in common with all nodes. The root's relative path is empty, and it is never
in scope. -/
def folderEntry (w : Walk) (path : Path) (relative : String) : Entry :=
  let inScope := !relative.isEmpty && Routing.isInScope w.routerRoot relative
  { name := path.name
    fullPath := path.toString
    relativePath := if relative.isEmpty then path.name else relative
    inScope := inScope
    route :=
      if inScope then (Routing.routePath? w.routerRoot relative).map Routing.displayRoute
      else none }

/-- The node of a folder around the nodes of its entries. -/
def folderNode (w : Walk) (path : Path) (relative : String) (children : List StructureNode) :
    StructureNode :=
  let entry := w.folderEntry path relative
  .folder entry (if entry.inScope then some (.ofName entry.name) else none)
    (children.mergeSort entryBefore)

mutual

/-- The node of an entry of a folder, if it has one. -/
def node? (w : Walk) (path : Path) (relative : String) (route : Option String) :
    FileNode → Option StructureNode
  | .folder entries =>
    if w.isIgnored relative true then none
    else
      let own := (w.folderEntry path relative).route
      some (w.folderNode path relative (children w path relative own entries))
  | .file _ =>
    if w.isIgnored relative false then none else some (w.fileNode path relative route)
  | .link _ =>
    if w.isIgnored relative false || !w.files.hasFile path then none
    else some (w.fileNode path relative route)

/-- The nodes of the entries of a folder whose URL is `route`, as they are listed. -/
def children (w : Walk) (path : Path) (relative : String) (route : Option String) :
    List (String × FileNode) → List StructureNode
  | [] => []
  | (name, node) :: rest =>
    (node? w (path.child name) (childPath relative name) route node).toList
      ++ children w path relative route rest

end

/-- The tree of the project at a path. -/
def build (w : Walk) (root : Path) (listing : FileNode) : StructureNode :=
  w.folderNode root "" (w.children root "" none listing.entries)

mutual

/-- The entries at and below an entry that are no folders and not ignored, as a walk comes to them,
each with the answer whether it is a file. -/
def leaves (w : Walk) (path : Path) (relative : String) :
    FileNode → List (Path × Except FileError Bool)
  | .folder entries =>
    if w.isIgnored relative true then [] else leavesIn w path relative entries
  | .file _ => if w.isIgnored relative false then [] else [(path, .ok true)]
  | .link _ => if w.isIgnored relative false then [] else [(path, w.files.isFile? path)]

/-- The entries in and below a folder that are no folders and not ignored. -/
def leavesIn (w : Walk) (path : Path) (relative : String) :
    List (String × FileNode) → List (Path × Except FileError Bool)
  | [] => []
  | (name, node) :: rest =>
    leaves w (path.child name) (childPath relative name) node ++ leavesIn w path relative rest

end

/-- The files among some leaves, unless there is no answer for one of them. -/
def filesAmong : List (Path × Except FileError Bool) → Except (Path × FileError) (List Path)
  | [] => .ok []
  | (path, .error error) :: _ => .error (path, error)
  | (path, .ok isFile) :: rest =>
    (filesAmong rest).map fun others => if isFile then path :: others else others

/-- Walk over the project at a path: its tree, and its scripts in the order in which the walk comes
to them. An entry for which there is no answer whether it is a file stops the walk. -/
def run? (w : Walk) (root : Path) (listing : FileNode) :
    Except (Path × FileError) (StructureNode × List Path) :=
  (filesAmong (w.leavesIn root "" listing.entries)).map fun files =>
    (w.build root listing, files.filter Path.isScript)

end Walk

/-- Why a project cannot be walked. -/
inductive ProjectError where
  /-- There is no folder at the path. -/
  | noFolder (path : String)
  /-- Its ignore rules cannot be read. -/
  | ignoreRules (error : Ignore.InvalidLine)
  /-- The walk stops at an entry. -/
  | entry (path : String) (error : FileError)
  deriving DecidableEq

/-- The text of an error. -/
def ProjectError.message : ProjectError → String
  | noFolder path => "Project path is not a valid directory: " ++ path
  | ignoreRules error => error.message
  | entry path error => error.message path

/-- A project: a folder, and the settings under which it is looked at. -/
structure Project where
  /-- The files there are. -/
  files : FileSystem
  /-- The absolute path of the root. -/
  root : Path
  /-- What the root leads to. -/
  listing : FileNode
  /-- The options. -/
  settings : AnalysisSettings := {}
  /-- The rules about what is left out. -/
  rules : List Ignore.Rule := []
  /-- Whether rules ignore a path. -/
  ignores : (rules : List Ignore.Rule) → (path : List Char) → Bool := Ignore.ignores
  /-- What scripts are parsed with. -/
  parser : Script.Parser := Script.trees?

namespace Project

/-- The project at a path that is seen from the working directory, with standard options and
nothing left out. -/
def ofPath? (files : FileSystem) (workingDirectory path : Path) : Except ProjectError Project :=
  let root := Path.absolute workingDirectory path
  match files.lookup root with
  | .ok (.folder entries) => .ok { files := files, root := root, listing := .folder entries }
  | _ => .error (.noFolder path.toString)

/-- The path of the router root from the project's root, without slashes at its ends. -/
def routerRoot (p : Project) : String :=
  String.ofList (Text.stripChar '/' p.settings.routerRoot.toList)

/-- The name of the file with the project's ignore rules. -/
def ignoreName : String := ".gitignore"

/-- The project under the given options, with the ignore rules that belong to it. -/
def withSettings? (p : Project) (settings : AnalysisSettings) : Except ProjectError Project := do
  let ignoreFile := (p.files.text (p.root.child ignoreName)).toOption
  let rules ← (Ignore.projectRules ignoreFile settings.extraIgnores).mapError .ignoreRules
  return { p with settings := settings, rules := rules }

/-- Whether the rules ignore the entry at a path from the root; the root itself never is. -/
def isIgnored (p : Project) (relative : String) (isFolder : Bool) : Bool :=
  !relative.isEmpty && p.ignores p.rules (relative.toList ++ if isFolder then ['/'] else [])

/-- The walk over a project. -/
def walk (p : Project) : Walk :=
  { files := p.files, routerRoot := p.routerRoot, isIgnored := p.isIgnored }

/-- The tree of a project. -/
def tree (p : Project) : StructureNode := p.walk.build p.root p.listing

/-- The tree of a project with its scripts, unless the walk stops. -/
def walked? (p : Project) : Except ProjectError (StructureNode × List Path) :=
  (p.walk.run? p.root p.listing).mapError fun (path, error) => .entry path.toString error

/-- The project, unless the walk over it stops. -/
def walkable? (p : Project) : Except ProjectError Project := p.walked?.map fun _ => p

end Project

/-- The scripts in a tree, as absolute paths. -/
def StructureNode.scripts (node : StructureNode) : List Path :=
  ((node.nodes.filter fun n => !n.isFolder).map fun n => Path.ofString n.entry.fullPath).filter
    Path.isScript

end SiteAtlas
