import SiteAtlas.Imports.Map
import SiteAtlas.Project.Insights
import SiteAtlas.Project.Manifest
import SiteAtlas.Project.SchemaFiles
import SiteAtlas.Project.Walk

/-! # The analysis of a project

A project's tree, the counts over it, its schema files and, where asked for, what all its scripts
import.
-/

namespace SiteAtlas

namespace Project

/-- What the imports of a project's scripts are read and resolved with. -/
def resolver (p : Project) : Resolver :=
  { files := p.files, root := p.root, aliasPrefix := p.settings.aliasPrefix, parser := p.parser }

/-- What all scripts of a project import. -/
def dependencyMap (p : Project) : Except PathError (List MapEntry) :=
  p.resolver.dependencyMap p.root p.tree.scripts

/-- The scripts of a project that import a file. The standard alias is taken, whatever the
project's own is. -/
def findImporters (p : Project) (file : Path) : Except PathError (List Importer) :=
  let resolver : Resolver := { files := p.files, root := p.root, parser := p.parser }
  (resolver.dependencyMap p.root p.tree.scripts).map (importersOf · file.toString)

/-- The route manifest of a project. -/
def manifest (p : Project) : Manifest := .ofTree p.tree p.files p.root p.routerRoot

end Project

/-- The analysis of a project. -/
structure ProjectAnalysis where
  /-- The absolute path of the root. -/
  root : Path
  /-- All folders and files. -/
  tree : StructureNode
  /-- The counts over the tree. -/
  insights : Insights
  /-- The schema files, where there is a folder for them. -/
  schemas : Option (List SchemaFile)
  /-- What the scripts import, where it was asked for. -/
  dependencyMap : Option (List MapEntry)

/-- Analyse a project; its settings say whether imports are asked for unless `dependencies` does. -/
def Project.analyze (p : Project) (dependencies : Option Bool) :
    Except PathError ProjectAnalysis := do
  let asked := dependencies.getD p.settings.includeDependencies
  let map ← if asked then p.dependencyMap.map some else .ok none
  let tree := p.tree
  return {
    root := p.root
    tree := tree
    insights := .ofTree tree
    schemas := SchemaFiles.ofProject? p.files p.root
    dependencyMap := map }

namespace ProjectAnalysis

/-- The number of folders. -/
def folderCount (a : ProjectAnalysis) : Nat :=
  (a.tree.nodes.filter StructureNode.isFolder).length

/-- The number of files. -/
def fileCount (a : ProjectAnalysis) : Nat :=
  (a.tree.nodes.filter fun node => !node.isFolder).length

/-- The document of the numbers of an analysis. -/
def metadata (a : ProjectAnalysis) : Value :=
  .table [("hasAppRouter", .bool a.insights.routerDetected),
    ("totalRoutes", .count a.insights.routeCount),
    ("totalApiEndpoints", .count a.insights.endpointCount), ("hasPrisma", .bool a.schemas.isSome),
    ("totalPrismaSchemas", .count (a.schemas.getD []).length),
    ("totalFolders", .count a.folderCount), ("totalFiles", .count a.fileCount),
    ("projectRoot", .text a.root.toString)]

/-- The document of an analysis. -/
def payload (a : ProjectAnalysis) : Value :=
  .table ([("structure", a.tree.payload), ("insights", a.insights.payload),
      ("prismaInfo", schemaFilesPayload a.schemas), ("metadata", a.metadata)]
    ++ match a.dependencyMap with
      | some map => [("dependencyMap", mapPayload map)]
      | none => [])

end ProjectAnalysis

end SiteAtlas
