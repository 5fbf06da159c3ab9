import SiteAtlas.Imports.Analysis
import SiteAtlas.Imports.FileMap

/-! # Dependency maps

The dependencies of many files, and for each file which of the others import it. The second is
computed from the first alone, once that is complete. A file with a source that cannot be resolved
leaves all files without a map.
-/

namespace SiteAtlas

/-- What one file imports. -/
structure ForwardEntry where
  /-- The absolute path of the file. -/
  id : String
  /-- Its name. -/
  name : String
  /-- Its path from the project's root. -/
  relativePath : String
  /-- Its dependencies on files of the project. -/
  imports : List Dependency := []
  /-- Its dependencies on packages. -/
  externalImports : List Dependency := []
  /-- What went wrong with it. -/
  errors : List String := []

/-- A mention of a file in another one. -/
structure Importer where
  /-- The absolute path of the file that imports. -/
  source : String
  /-- Its name. -/
  name : String
  /-- Its path from the project's root. -/
  relativePath : String
  /-- The names that it takes, each with its id. -/
  specifiers : List (Specifier × String)
  deriving DecidableEq

/-- What one file imports, and where it is imported. -/
structure MapEntry extends ForwardEntry where
  /-- The files that import it. -/
  importedBy : List Importer := []

/-- The entry of a file with the given dependencies. -/
def ForwardEntry.ofResult (root path : Path) (result : DependencyResult) : ForwardEntry where
  id := path.toString
  name := path.name
  relativePath := path.relativeTo root
  imports := result.locals
  externalImports := result.externals
  errors := result.errors

/-- The entry of a file. -/
def Resolver.entry (r : Resolver) (path : Path) : Except PathError ForwardEntry :=
  (r.analyze path).map (.ofResult r.root path)

/-- What every script among some files imports, under the path of the script. The paths are seen
from the working directory. -/
def Resolver.forwardMap (r : Resolver) (workingDirectory : Path) (files : List Path) :
    Except PathError (FileMap ForwardEntry) :=
  files.foldlM (fun forward file =>
    let path := Path.absolute workingDirectory file
    if path.isScript then (r.entry path).map (forward.put path.toString) else .ok forward) .empty

/-- A mention in a file of what one of its dependencies leads to. -/
def ForwardEntry.importer (e : ForwardEntry) (d : Dependency) : Importer :=
  { source := e.id, name := e.name, relativePath := e.relativePath, specifiers := d.specifiers }

/-- Note the mentions that a file makes, each under the key that its dependency leads to, if there
is a file under that key. -/
def noteEntry (table : FileMap (List Importer)) (e : ForwardEntry) : FileMap (List Importer) :=
  e.imports.foldl (fun table d =>
    if d.target.exists? = some true then
      table.modify d.target.resolvedPath fun importers => importers ++ [e.importer d]
    else table) table

/-- For every file the mentions of it, files taken in the order of their keys. -/
def mentions (forward : FileMap ForwardEntry) : FileMap (List Importer) :=
  forward.sortedEntries.foldl (fun table row => noteEntry table row.2)
    (forward.mapEntries fun _ _ => [])

/-- The whole map from what every file imports. -/
def withImporters (forward : FileMap ForwardEntry) : FileMap MapEntry :=
  let table := mentions forward
  forward.mapEntries fun key e => { toForwardEntry := e, importedBy := (table.get? key).getD [] }

/-- The entries for some files. The id of each is its key. -/
def Resolver.dependencyMap (r : Resolver) (workingDirectory : Path) (files : List Path) :
    Except PathError (List MapEntry) :=
  (r.forwardMap workingDirectory files).map fun forward => (withImporters forward).values

/-- The mentions of a file in a map. -/
def importersOf (map : List MapEntry) (id : String) : List Importer :=
  ((map.find? fun e => e.id == id).map MapEntry.importedBy).getD []

/-- The document of a mention. -/
def Importer.payload (i : Importer) : Value :=
  .table [("source", .text i.source), ("name", .text i.name),
    ("relativePath", .text i.relativePath),
    ("specifiers", .list (i.specifiers.map fun (s, id) => s.payload id))]

/-- The document of an entry. -/
def MapEntry.payload (e : MapEntry) : Value :=
  .table [("id", .text e.id), ("name", .text e.name), ("relativePath", .text e.relativePath),
    ("imports", .list (e.imports.map Dependency.payload)),
    ("externalImports", .list (e.externalImports.map Dependency.payload)),
    ("importedBy", .list (e.importedBy.map Importer.payload)),
    ("parseErrors", .texts e.errors)]

/-- The document of a map. -/
def mapPayload (map : List MapEntry) : Value := .table (map.map fun e => (e.id, e.payload))

end SiteAtlas
