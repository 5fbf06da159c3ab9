import SiteAtlas.Files.Preview
import SiteAtlas.Layout.Force.Run
import SiteAtlas.Project.Layout
import SiteAtlas.Schema.GraphStatistics
import SiteAtlas.Settings.Store

/-! # Workspaces

A workspace is all that a command or a request can depend on: the files there are, the directory in
which it is given, and where the user's settings are kept.
-/

namespace SiteAtlas

/-- Where commands and requests are answered. -/
structure Workspace where
  /-- The files there are. -/
  files : FileSystem
  /-- The directory that relative paths are seen from. -/
  workingDirectory : Path
  /-- The path of the user's settings. -/
  userFile : Path

/-- Why something cannot be done in a workspace. -/
inductive WorkspaceError where
  | project (error : ProjectError)
  | settings (error : Settings.StoreError)
  /-- The bytes of a schema are no text. -/
  | notText (mistake : Text.Mistake)
  | layout (fault : Fault)
  | file (error : FileError) (path : String)
  deriving DecidableEq

/-- The text of an error. -/
def WorkspaceError.message : WorkspaceError → String
  | project error => error.message
  | settings error => error.message
  | notText mistake => mistake.message
  | layout fault => fault.message
  | file error path => error.message path

/-- The error of a path that the system does not look at. -/
def WorkspaceError.ofPath (e : PathError) : WorkspaceError := .file e.error e.path.toString

namespace Workspace

/-- A path with the working directory before it, unless it is absolute. -/
def located (w : Workspace) (path : Path) : Path := w.workingDirectory.join path

/-- A path from the root, without `..`. -/
def absolute (w : Workspace) (path : Path) : Path := Path.absolute w.workingDirectory path

/-- The options of a walk over the project at a path. -/
def analysisSettings (w : Workspace) (root : Path) : Except WorkspaceError AnalysisSettings :=
  (Settings.loadAnalysis .toml w.files w.userFile (some (w.located root))).mapError .settings

/-- The project at a path, with its own options, unless the walk over it stops. -/
def project (w : Workspace) (path : Path) : Except WorkspaceError Project := do
  let project ← (Project.ofPath? w.files w.workingDirectory path).mapError .project
  let settings ← w.analysisSettings project.root
  ((project.withSettings? settings).bind (·.walkable?)).mapError .project

/-- What a file imports, seen from the project at a path. -/
def dependencies (w : Workspace) (root file : Path) : Except WorkspaceError DependencyResult := do
  let settings ← w.analysisSettings root
  let resolver : Resolver :=
    { files := w.files, root := w.absolute root, aliasPrefix := settings.aliasPrefix }
  (resolver.analyze (w.absolute file)).mapError .ofPath

/-- The tree layout of a project, measured as the user has set it. -/
def layout (w : Workspace) (project : Project) (expanded : StructureNode → List String)
    (dependencies : Bool) : Except WorkspaceError (Graph Number) := do
  let spacing ← (Settings.loadTreeSpacing .toml w.files w.userFile).mapError .settings
  (project.layout spacing expanded dependencies).mapError .ofPath

/-- The schema in the file at a path, and its graph, where `arranged` laid out as the user has set
it. -/
def schema (w : Workspace) (path : Path) (arranged : Bool) :
    Except WorkspaceError (Schema × Graph Number) := do
  let settings ← (Settings.loadForceSettings .toml w.files w.userFile).mapError .settings
  let content ← (w.files.content (w.located path)).mapError (.file · path.toString)
  let text ← (Text.ofBytesStrict content).mapError .notText
  let schema := Schema.ofText text
  if !arranged then return (schema, schema.graph)
  return (schema, ← (Force.layoutGraph settings schema.graph).mapError .layout)

end Workspace

end SiteAtlas
