import SiteAtlas.Imports.Resolver
import SiteAtlas.Value.Literal

/-! # The dependencies of a file

The imports of a script are gathered by source and form and resolved. What goes wrong with one file
is part of its result, except where a source cannot be resolved.
-/

namespace SiteAtlas

/-! ## Gathering -/

namespace Dependency

/-- Take one more name, unless it is there already. -/
def addSpecifier (d : Dependency) (s : Specifier) : Dependency :=
  if d.specifiers.any fun known => known.1 == s then d
  else
    let name :=
      ((s.localName.filter fun n => !n.isEmpty).orElse fun _ => s.exportedName).getD "None"
    let id := Md5.short 12 (d.stableId ++ "-" ++ toString d.specifiers.length ++ "-" ++ name)
    { d with specifiers := d.specifiers ++ [(s, id)] }

/-- Take in one more statement with the same source and form. -/
def absorb (d : Dependency) (raw : RawImport) : Dependency :=
  raw.specifiers.foldl addSpecifier { d with isTypeOnly := d.isTypeOnly && raw.isTypeOnly }

/-- The dependency of a first statement in a file. -/
def ofImport (file : String) (raw : RawImport) : Dependency :=
  let id := SiteAtlas.stableId raw.source raw.form.label file
  absorb
    { source := raw.source, form := raw.form, stableId := id, nodeId := id, isTypeOnly := true } raw

/-- Whether a statement has the source and the form of a dependency. -/
def matchesImport (d : Dependency) (raw : RawImport) : Bool :=
  d.source == raw.source && d.form == raw.form

/-- Take a statement in among the dependencies of a file. -/
def gatherOne (file : String) : List Dependency → RawImport → List Dependency
  | [], raw => [ofImport file raw]
  | d :: rest, raw =>
    if d.matchesImport raw then d.absorb raw :: rest else d :: gatherOne file rest raw

/-- The dependencies of a file, in the order of their first statements. -/
def gather (file : String) (raws : List RawImport) : List Dependency :=
  raws.foldl (gatherOne file) []

/-- The order in which dependencies are listed: by source, then by the name of the form. -/
def listedBefore (a b : Dependency) : Bool :=
  a.source < b.source || a.source == b.source && a.form.label ≤ b.form.label

end Dependency

/-! ## Results -/

/-- Why a file has no dependencies to tell. -/
inductive AnalysisError where
  /-- It is no script, by the extension, or the name where there is none. -/
  | unsupported (label : String)
  | missing (path : String)
  | unreadable (error : FileError) (path : String)
  | malformed
  deriving DecidableEq

/-- The text of an error. -/
def AnalysisError.message : AnalysisError → String
  | unsupported label => "Unsupported file type: " ++ label
  | missing path => "File not found: " ++ path
  | unreadable error path => "Could not read file: " ++ error.message path
  | malformed => "Parse error"

/-- The dependencies of one file. -/
structure DependencyResult where
  /-- Those on files of the project, in listing order. -/
  locals : List Dependency := []
  /-- Those on packages, in listing order. -/
  externals : List Dependency := []
  /-- Why there are none, if something went wrong. -/
  error? : Option AnalysisError := none
  /-- The absolute path of the file. -/
  filePath : String

namespace DependencyResult

/-- All dependencies, those on files first. -/
def all (r : DependencyResult) : List Dependency := r.locals ++ r.externals

/-- The texts of what went wrong. -/
def errors (r : DependencyResult) : List String := (r.error?.map AnalysisError.message).toList

/-- The dependency with a stable id. -/
def find? (r : DependencyResult) (stableId : String) : Option Dependency :=
  r.all.find? fun d => d.stableId == stableId

/-- The dependencies of a form, by its name. -/
def ofForm (r : DependencyResult) (label : String) : List Dependency :=
  r.all.filter fun d => d.form.label == label

/-- Divide gathered dependencies and put them in listing order. -/
def ofDependencies (filePath : String) (dependencies : List Dependency) : DependencyResult :=
  { locals := (dependencies.filter fun d => d.target.isLocal).mergeSort Dependency.listedBefore
    externals :=
      (dependencies.filter fun d => !d.target.isLocal).mergeSort Dependency.listedBefore
    filePath := filePath }

/-- The document of a result. -/
def payload (r : DependencyResult) : Value :=
  .table [("localDependencies", .list (r.locals.map Dependency.payload)),
    ("externalDependencies", .list (r.externals.map Dependency.payload)),
    ("metadata", .table [("totalCount", .count r.all.length), ("parseErrors", .texts r.errors),
      ("filePath", .text r.filePath)])]

end DependencyResult

/-- A dependency with what its source leads to. -/
def Resolver.follow (r : Resolver) (path : Path) (d : Dependency) : Except PathError Dependency :=
  (r.resolve d.source path).map fun target => { d with target := target }

/-- The dependencies that statements of a file make up. -/
def Resolver.dependencies (r : Resolver) (path : Path) (raws : List RawImport) :
    Except PathError DependencyResult :=
  ((Dependency.gather path.toString raws).mapM (r.follow path)).map
    (DependencyResult.ofDependencies path.toString)

/-- The dependencies of the file at an absolute path. -/
def Resolver.analyze (r : Resolver) (path : Path) : Except PathError DependencyResult :=
  let failed (error : AnalysisError) : DependencyResult :=
    { error? := some error, filePath := path.toString }
  if !path.isScript then
    .ok (failed (.unsupported (if path.extension.isEmpty then path.name else path.extension)))
  else
    match r.files.text path with
    | .error .missing => .ok (failed (.missing path.toString))
    | .error error => .ok (failed (.unreadable error path.toString))
    | .ok source =>
      match Script.imports r.parser source path.extension with
      | .error _ => .ok (failed .malformed)
      | .ok raws => r.dependencies path raws

end SiteAtlas
