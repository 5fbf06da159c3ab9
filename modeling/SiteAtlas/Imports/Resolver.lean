import SiteAtlas.Files.FileSystem
import SiteAtlas.Imports.Basic
import SiteAtlas.Script.Source

/-! # Where an import leads

A source that starts with a dot is seen from the importing file, one that starts with the alias from
the project's root. Any other source names a package, unless something stands at that path under
the root. A source so long that the system does not look at one of its paths leads nowhere.
-/

namespace SiteAtlas

/-- The extensions that an import may leave out, in the order in which they are tried. -/
def impliedExtensions : List String := [".js", ".jsx", ".ts", ".tsx", ".json", ".mjs", ".cjs"]

/-- The files that stand for their folder, in the order in which they are tried. -/
def indexNames : List String := ["index.js", "index.jsx", "index.ts", "index.tsx"]

/-- A path with more text at the end of its last name. -/
def Path.extended (p : Path) (extension : String) : Path :=
  if extension.isEmpty then p else ⟨p.slashes, p.parts.dropLast ++ [p.name ++ extension]⟩

/-- The file that an import of `base` means: the first that exists among the path itself, the path
with an implied extension, and the index files in it. -/
def actualFile? (files : FileSystem) (base : Path) : Except PathError (Option Path) := do
  match ← (("" :: impliedExtensions).map base.extended).findM? files.isFile with
  | some file => return some file
  | none =>
    if ← files.isFolder base then (indexNames.map base.child).findM? files.isFile else return none

/-- What imports are read and resolved with. -/
structure Resolver where
  /-- The files there are. -/
  files : FileSystem
  /-- The project's root, absolute and collapsed. -/
  root : Path
  /-- What stands for the root at the front of a source; nothing does if it is empty. -/
  aliasPrefix : String := "@/"
  /-- What scripts are parsed with. -/
  parser : Script.Parser := Script.trees?

namespace Resolver

/-- What is told of a file of the project, `base` being where it was looked for. -/
def fileAt (r : Resolver) (base : Path) (actual : Option Path) (isAlias : Bool) : Resolution :=
  let target := actual.getD base
  { resolvedPath := target.toString
    isLocal := true
    exists? := some actual.isSome
    relativePath := some (target.relativeTo r.root)
    isAlias := isAlias
    pathId := some (shortId target.toString) }

/-- The resolution of a source that names a file of the project. -/
def toFile (r : Resolver) (base : Path) (isAlias : Bool) : Except PathError Resolution :=
  (actualFile? r.files base).map fun actual => r.fileAt base actual isAlias

/-- The resolution of a source that names a package. -/
def toPackage (source : String) : Resolution :=
  let package := packageName source
  { resolvedPath := source, packageName := some package, packageId := some (shortId package) }

/-- What follows the alias in a source that starts with it. -/
def afterAlias? (r : Resolver) (source : String) : Option String :=
  if r.aliasPrefix.isEmpty then none
  else (Text.after? r.aliasPrefix.toList source.toList).map String.ofList

/-- Where a source leads in a file. -/
def resolve (r : Resolver) (source : String) (importer : Path) : Except PathError Resolution :=
  if source.toList.head? = some '.' then
    r.toFile (importer.parent.join (Path.ofString source)).collapse false
  else
    match r.afterAlias? source with
    | some rest => r.toFile (r.root.join (Path.ofString rest)).collapse true
    | none => do
      let candidate := (r.root.join (Path.ofString source)).collapse
      if (← r.files.isAnything candidate) || (← actualFile? r.files candidate).isSome then
        r.toFile candidate false
      else return toPackage source

end Resolver

end SiteAtlas
