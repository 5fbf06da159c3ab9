import SiteAtlas.Digest.Md5
import SiteAtlas.Value.Basic

/-! # Imports

What a script takes from elsewhere. A `RawImport` is one statement or call as written; a
`Dependency` gathers all statements of one form with one source, together with what the source
leads to.
-/

namespace SiteAtlas

/-- The forms in which a script names another module. -/
inductive ImportForm where
  | statement
  | dynamic
  | require
  | exportFrom
  | exportAll
  deriving DecidableEq, Inhabited

/-- The name of a form. -/
def ImportForm.label : ImportForm → String
  | statement => "import"
  | dynamic => "dynamic-import"
  | require => "require"
  | exportFrom => "export-from"
  | exportAll => "export-all-from"

/-- The ways in which a statement names what it takes or passes on. -/
inductive SpecifierForm where
  | default
  | wholeModule
  | named
  | namespaceExport
  | passedOn
  deriving DecidableEq, Inhabited

/-- The name of a way. -/
def SpecifierForm.label : SpecifierForm → String
  | default => "default"
  | wholeModule => "namespace"
  | named => "named"
  | namespaceExport => "namespace-export"
  | passedOn => "export"

/-- One name that a statement takes or passes on. -/
structure Specifier where
  /-- The way it is named. -/
  form : SpecifierForm
  /-- The name in the script itself. -/
  localName : Option String := none
  /-- The name in the module it is taken from. -/
  importedName : Option String := none
  /-- The name under which it is passed on. -/
  exportedName : Option String := none
  deriving DecidableEq, Inhabited

/-- The name by which a specifier is listed. -/
def Specifier.shownName (s : Specifier) : String :=
  let given (name : Option String) : Option String := name.filter fun n => !n.isEmpty
  ((given s.localName).orElse fun _ => given s.exportedName).getD "*"

/-- One statement or call that names another module. -/
structure RawImport where
  /-- The other module, as written. -/
  source : String
  /-- The form of the statement. -/
  form : ImportForm
  /-- Whether it takes types only. -/
  isTypeOnly : Bool := false
  /-- The names it takes or passes on, in order. -/
  specifiers : List Specifier := []
  deriving DecidableEq, Inhabited

/-- Where the source of an import leads. -/
structure Resolution where
  /-- The absolute path of the target, or the source itself if it is not in the project. -/
  resolvedPath : String := ""
  /-- Whether the source names a file of the project. -/
  isLocal : Bool := false
  /-- Whether that file exists; unknown for other sources. -/
  exists? : Option Bool := none
  /-- The path from the project's root. -/
  relativePath : Option String := none
  /-- Whether the source uses the alias of the root. -/
  isAlias : Bool := false
  /-- The id of the path. -/
  pathId : Option String := none
  /-- The name of the package. -/
  packageName : Option String := none
  /-- The id of the package. -/
  packageId : Option String := none
  deriving DecidableEq, Inhabited

/-- All that a script takes from one source in one form. -/
structure Dependency where
  /-- The source, as written. -/
  source : String
  /-- The form of the statements. -/
  form : ImportForm := .statement
  /-- The id of source, form and script. -/
  stableId : String := ""
  /-- The id of its box. -/
  nodeId : String := ""
  /-- The names taken or passed on, each with its id. -/
  specifiers : List (Specifier × String) := []
  /-- Whether all statements take types only. -/
  isTypeOnly : Bool := false
  /-- Where the source leads. -/
  target : Resolution := {}
  deriving DecidableEq, Inhabited

/-- What is known about a dependency's target. -/
inductive DependencyState where
  | resolved
  | missing
  | external
  deriving DecidableEq

/-- The name of a state. -/
def DependencyState.label : DependencyState → String
  | resolved => "local-resolved"
  | missing => "local-missing"
  | external => "external"

/-- The state of a resolution. -/
def Resolution.state (r : Resolution) : DependencyState :=
  if r.isLocal then if r.exists? = some true then .resolved else .missing else .external

/-- The state of a dependency. -/
def Dependency.state (d : Dependency) : DependencyState := d.target.state

/-- The id of a source, named in a form by a script. -/
def stableId (source form file : String) : String :=
  Md5.short 12 (source ++ "-" ++ form ++ "-" ++ file)

/-- The id of a path or a package. -/
def shortId (text : String) : String := Md5.short 8 text

/-- The package that a source names: what stands before its first slash, or its second one for a
source that starts with `@`. -/
def packageName (source : String) : String :=
  let parts := source.toList.splitOn '/'
  let kept := if source.toList.head? = some '@' then parts.take 2 else parts.take 1
  String.ofList (['/'].intercalate kept)

/-- The document of a specifier with its id. -/
def Specifier.payload (s : Specifier) (id : String) : Value :=
  .table [("type", .text s.form.label), ("local", .optional s.localName),
    ("imported", .optional s.importedName), ("exported", .optional s.exportedName),
    ("id", .text id)]

/-- The document of a flag that may be unknown. -/
def flagPayload : Option Bool → Value
  | some b => .bool b
  | none => .null

/-- The fields of the document of a resolution from the path id on. -/
def Resolution.idFields (r : Resolution) : Fields :=
  [("pathId", .optional r.pathId), ("packageName", .optional r.packageName),
    ("packageId", .optional r.packageId)]

/-- The document of a resolution. -/
def Resolution.payload (r : Resolution) : Value :=
  .table ([("resolvedPath", .text r.resolvedPath), ("isLocal", .bool r.isLocal),
    ("exists", flagPayload r.exists?), ("relativePath", .optional r.relativePath),
    ("isAlias", .bool r.isAlias)] ++ r.idFields)

/-- The document of a dependency. -/
def Dependency.payload (d : Dependency) : Value :=
  .table ([("source", .text d.source), ("type", .text d.form.label),
    ("stableId", .text d.stableId), ("nodeId", .text d.nodeId),
    ("specifiers", .list (d.specifiers.map fun (s, id) => s.payload id)),
    ("importKind", .text (if d.isTypeOnly then "type" else "value")),
    ("isLocal", .bool d.target.isLocal), ("exists", flagPayload d.target.exists?),
    ("resolvedPath", .text d.target.resolvedPath),
    ("relativePath", .optional d.target.relativePath), ("isAlias", .bool d.target.isAlias)]
    ++ d.target.idFields)

end SiteAtlas
