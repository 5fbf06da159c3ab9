import SiteAtlas.Files.FileSystem

/-! # Reading a file for preview

One file is read as text. Where a project is given the file has to lie in it, all links followed,
and a file may not be longer than a limit.
-/

namespace SiteAtlas

/-- Why a file is not shown. -/
inductive PreviewError where
  | noPath
  | outside (path : String)
  | missing (path : String)
  | tooLarge (size : Nat) (limit : Int)
  /-- Links lead round in a circle. -/
  | linkLoop (path : String)
  deriving DecidableEq

/-- The text of an error. -/
def PreviewError.message : PreviewError → String
  | noPath => "File path is required"
  | outside path => "Path is outside the project: " ++ path
  | missing path => "File not found: " ++ path
  | tooLarge size limit =>
    "File too large to display (" ++ toString size ++ " bytes, limit " ++ toString limit ++ ")"
  | linkLoop path => "Symlink loop from " ++ path

/-- The text of a file. -/
structure Preview where
  content : String
  /-- The absolute path, links not followed. -/
  filePath : String
  /-- The number of bytes. -/
  size : Nat
  deriving DecidableEq

namespace Preview

/-- The path that is meant: seen from the project's root where there is one, else from the working
directory. -/
def pathOf (workingDirectory : Path) (root : Option Path) (path : String) : Path :=
  Path.absolute (root.getD workingDirectory) (Path.ofString path)

/-- Whether all of a path, with links followed, lies in a project. A path with a null character in
it lies nowhere. -/
def isInside (files : FileSystem) (root path : Path) : Except PreviewError Bool :=
  if path.parts.any fun part => part.toList.contains (Char.ofNat 0) then .ok false
  else
    match files.realPath path with
    | .error _ => .error (.linkLoop path.toString)
    | .ok real =>
      match files.realPath root with
      | .error _ => .error (.linkLoop root.toString)
      | .ok realRoot => .ok (realRoot.isWithin real)

/-- Read a file. An empty root is no root. -/
def read (files : FileSystem) (workingDirectory : Path) (path : String) (root : Option String)
    (limit : Int) : Except PreviewError Preview := do
  if path.isEmpty then throw .noPath
  let root := (root.filter fun r => !r.isEmpty).map fun r =>
    Path.absolute workingDirectory (Path.ofString r)
  let target := pathOf workingDirectory root path
  if let some root := root then
    if !(← isInside files root target) then throw (.outside path)
  match files.content target with
  | .error _ => throw (.missing path)
  | .ok content =>
    if (content.size : Int) > limit then throw (.tooLarge content.size limit)
    return { content := Text.ofBytes content, filePath := target.toString, size := content.size }

end Preview

end SiteAtlas
