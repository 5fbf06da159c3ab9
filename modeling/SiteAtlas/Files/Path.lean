import SiteAtlas.Text.Basic

/-! # Paths

A path is a number of leading slashes and a list of names. Reading one drops empty names and `.`;
`collapse` takes `..` back against the name before it, without looking at any file.
-/

namespace SiteAtlas

/-- A slash-separated path. -/
structure Path where
  /-- How many slashes it starts with: none for a relative path, one, or exactly two. -/
  slashes : Nat
  /-- The names in it; none is empty or `.`. -/
  parts : List String
  deriving DecidableEq, Inhabited

namespace Path

/-- A text cut at every slash. -/
def splitSlashes (text : String) : List String := (text.toList.splitOn '/').map String.ofList

/-- The leading slashes that count: three and more are the same as one. -/
def leadingSlashes (text : String) : Nat :=
  let n := (text.toList.takeWhile (· == '/')).length
  if n ≤ 2 then n else 1

/-- Read a path. -/
def ofString (text : String) : Path :=
  ⟨leadingSlashes text, (splitSlashes text).filter fun part => part != "" && part != "."⟩

/-- Whether a path starts at the root. -/
def isAbsolute (p : Path) : Bool := p.slashes != 0

/-- The text of a path; the empty relative path is written `.`. -/
def toString (p : Path) : String :=
  let text := String.ofList (List.replicate p.slashes '/') ++ "/".intercalate p.parts
  if text.isEmpty then "." else text

instance : ToString Path := ⟨toString⟩

/-- A path seen from another: an absolute one stays as it is. -/
def join (base p : Path) : Path :=
  if p.isAbsolute then p else ⟨base.slashes, base.parts ++ p.parts⟩

/-- The path of an entry of a directory. -/
def child (p : Path) (name : String) : Path := ⟨p.slashes, p.parts ++ [name]⟩

/-- The path without its last name. -/
def parent (p : Path) : Path := ⟨p.slashes, p.parts.dropLast⟩

/-- The last name, or nothing. -/
def name (p : Path) : String := p.parts.getLastD ""

/-- The names that remain, last first, when each `..` takes back the name before it. Above the root
there is nothing to take back; a relative path keeps the `..` it starts with. -/
def collapseParts (absolute : Bool) (done : List String) : List String → List String
  | [] => done
  | ".." :: rest =>
    match done with
    | [] => collapseParts absolute (if absolute then [] else [".."]) rest
    | last :: before =>
      if last = ".." then collapseParts absolute (".." :: done) rest
      else collapseParts absolute before rest
  | part :: rest => collapseParts absolute (part :: done) rest

/-- The path with every `..` taken back that can be. -/
def collapse (p : Path) : Path := ⟨p.slashes, (collapseParts p.isAbsolute [] p.parts).reverse⟩

/-- A path seen from the working directory, collapsed. -/
def absolute (workingDirectory p : Path) : Path := (workingDirectory.join p).collapse

/-- The names both paths begin with, dropped from both. -/
def dropCommon : List String → List String → List String × List String
  | a :: left, b :: right => if a = b then dropCommon left right else (a :: left, b :: right)
  | left, right => (left, right)

/-- How to get from the directory `start` to `target`, both absolute and collapsed. -/
def relativeTo (target start : Path) : String :=
  let (up, down) := dropCommon start.parts target.parts
  let parts := up.map (fun _ => "..") ++ down
  if parts.isEmpty then "." else "/".intercalate parts

/-- Whether a path is `root` or lies below it. -/
def isWithin (root p : Path) : Bool := root.slashes == p.slashes && root.parts.isPrefixOf p.parts

/-- Cut a file name at its last dot, unless that is its first or its last character. -/
def splitName (name : String) : String × String :=
  let reversed := name.toList.reverse
  let extension := reversed.takeWhile (· != '.')
  match reversed.dropWhile (· != '.') with
  | [] => (name, "")
  | dot :: stem =>
    if extension.isEmpty || stem.isEmpty then (name, "")
    else (String.ofList stem.reverse, String.ofList (dot :: extension.reverse))

/-- The last name of a path without its extension. -/
def stem (p : Path) : String := (splitName p.name).1

/-- The extension of a path's last name, with its dot. -/
def extension (p : Path) : String := (splitName p.name).2

end Path

end SiteAtlas
