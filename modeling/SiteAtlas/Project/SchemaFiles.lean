import SiteAtlas.Files.FileSystem
import SiteAtlas.Decimal.Fixed
import SiteAtlas.Schema.Tally

/-! # The schema files of a project

All files with the extension of a schema below the schema folder, with a tally of each. Links to
folders are not gone into.
-/

namespace SiteAtlas

/-- A schema file of a project. -/
structure SchemaFile where
  /-- Its absolute path. -/
  path : Path
  /-- Its path from the project's root. -/
  relativePath : String
  /-- The number of bytes in it. -/
  size : Nat
  /-- The number of lines in it. -/
  lineCount : Nat
  /-- What its lines tell. -/
  tally : Schema.Tally

namespace SchemaFiles

/-- The name of the folder that schemas are kept in. -/
def folderName : String := "prisma"

/-- The end of the name of a schema file. -/
def extension : String := ".prisma"

mutual

/-- The paths of all entries below a node that are named like a schema. -/
def candidates (path : Path) : FileNode → List Path
  | .folder entries => candidatesIn path entries
  | _ => []

/-- The paths of all entries of a list, and of those below them, that are named like a schema. -/
def candidatesIn (path : Path) : List (String × FileNode) → List Path
  | [] => []
  | (name, node) :: rest =>
    let own := path.child name
    (if Text.endsWith extension.toList name.toList then [own] else [])
      ++ candidates own node ++ candidatesIn path rest

end

/-- The folder with the schemas, if there is one. -/
def folder? (files : FileSystem) (root : Path) : Option FileNode :=
  match files.lookup (root.child folderName) with
  | .ok (.folder entries) => some (.folder entries)
  | _ => none

/-- The order of lists of names: by the first names that differ, a list before its continuations. -/
def namesBefore : List String → List String → Bool
  | [], _ => true
  | _ :: _, [] => false
  | a :: left, b :: right => a < b || a == b && namesBefore left right

/-- The order of the names in paths. -/
def pathBefore (a b : Path) : Bool := namesBefore a.parts b.parts

/-- The paths of the schema files in a folder, in order. -/
def paths (files : FileSystem) (path : Path) (folder : FileNode) : List Path :=
  ((candidates path folder).mergeSort pathBefore).filter files.hasFile

/-- The schema file at a path. -/
def ofPath (files : FileSystem) (root path : Path) : SchemaFile :=
  let content := (files.content path).toOption.getD ByteArray.empty
  let text := Text.ofBytes content
  { path := path
    relativePath := path.relativeTo root
    size := content.size
    lineCount := text.toList.count '\n' + 1
    tally := Schema.tally text }

/-- All schema files of a project, in order, if it has a folder for them. -/
def ofProject? (files : FileSystem) (root : Path) : Option (List SchemaFile) :=
  (folder? files root).map fun folder =>
    (paths files (root.child folderName) folder).map (ofPath files root)

end SchemaFiles

/-- A number of bytes in kilobytes. -/
def sizeText (bytes : Nat) : String :=
  Decimal.positional 2 (Binary64.roundHalfEven (bytes * 100) 1024) ++ " KB"

/-- The document of a schema file. -/
def SchemaFile.payload (f : SchemaFile) : Value :=
  .table ([("fileName", .text f.path.name), ("filePath", .text f.path.toString),
      ("fileSize", .text (sizeText f.size)), ("lineCount", .count f.lineCount)]
    ++ f.tally.payload ++ [("relativePath", .text f.relativePath)])

/-- The document of the schema files of a project; nothing for a project without a folder for
them. -/
def schemaFilesPayload : Option (List SchemaFile) → Value
  | none => .table [("detected", .bool false), ("schemaFolder", .null), ("schemas", .list [])]
  | some schemas =>
    .table [("detected", .bool true), ("schemaFolder", .text (SchemaFiles.folderName ++ "/")),
      ("schemas", .list (schemas.map SchemaFile.payload))]

end SiteAtlas
