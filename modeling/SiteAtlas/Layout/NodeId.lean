import SiteAtlas.Digest.Md5
import SiteAtlas.Project.Structure

/-! # Names of placed boxes

A folder's id is its path with dashes for everything but ASCII letters and digits. Where a name on
the way holds anything else the path would be ambiguous, and a digest of it is added.
-/

namespace SiteAtlas.NodeId

/-- The id of the root. -/
def root : String := "root"

/-- Whether a character stands for itself in an id. -/
def isPlain (c : Char) : Bool := c.isAlphanum

/-- Dashes for all characters but letters and digits, one for each run of them. `dashed` says
whether the character before was one. -/
def sanitizeFrom (dashed : Bool) : List Char → List Char
  | [] => []
  | c :: rest =>
    if isPlain c then c :: sanitizeFrom false rest
    else if dashed then sanitizeFrom true rest
    else '-' :: sanitizeFrom true rest

/-- A text with a dash for each run of characters other than ASCII letters and digits. -/
def sanitize (text : String) : String := String.ofList (sanitizeFrom false text.toList)

/-- Whether a name is unambiguous in an id: ASCII letters and digits only, and at least one of
them. One line feed at its end is overlooked. -/
def isClean (name : String) : Bool :=
  let chars := name.toList
  let chars := if chars.getLast? = some '\n' then chars.dropLast else chars
  !chars.isEmpty && chars.all isPlain

/-- The id of the folder that these names lead to from the root. -/
def folder (names : List String) : String :=
  let base := sanitize ("-".intercalate (root :: names))
  if names.all isClean then base
  else
    let stem := (base.toList.reverse.dropWhile (· == '-')).reverse
    String.ofList stem ++ "-" ++ Md5.short 6 ("/".intercalate names)

/-- The id of a file by its folder and its place among the files there. -/
def file (folderId : String) (index : Nat) : String := folderId ++ ":file-" ++ toString index

/-- The id of a dependency by the file that has it. -/
def dependency (fileId dependencyId : String) : String := fileId ++ "-dep-" ++ dependencyId

mutual

/-- The ids of all folders at and below a node that these names lead to. A root counts as a folder
even if it is a file. -/
def allFolders (names : List String) : StructureNode → List String
  | .folder _ _ children => folder names :: allFoldersOf names children
  | .file .. => [folder names]

/-- The ids of all folders among the contents of a folder and below them. -/
def allFoldersOf (names : List String) : List StructureNode → List String
  | [] => []
  | child :: rest =>
    (if child.isFolder then allFolders (names ++ [child.name]) child else [])
      ++ allFoldersOf names rest

end

/-- The folders that are open at first. -/
def initiallyExpanded : List String := [root, folder ["app"]]

end SiteAtlas.NodeId
