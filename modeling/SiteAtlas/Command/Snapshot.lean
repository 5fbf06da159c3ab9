import SiteAtlas.Workspace

/-! # Snapshots

A workspace written as a document: a table of files by their absolute paths, the working directory
and the path of the user's settings. A file is given by its text, a link by a table with its target,
and anything else stands for an empty folder.
-/

namespace SiteAtlas.Workspace

/-- What stands at a path of a snapshot. -/
def nodeOf (value : Value) : FileNode :=
  match value, value.get? "link" with
  | .text text, _ => .file text.toUTF8
  | _, some (.text target) => .link target
  | _, _ => .folder []

/-- The path under a key of a snapshot. -/
def pathUnder (snapshot : Value) (key default : String) : Path :=
  match snapshot.get? key with
  | some (.text path) => Path.ofString path
  | _ => Path.ofString default

/-- The workspace of a snapshot. -/
def ofSnapshot (snapshot : Value) : Workspace :=
  let workingDirectory := pathUnder snapshot "workingDirectory" "/"
  let entries := match snapshot.get? "files" with
    | some (.table entries) => entries
    | _ => []
  let empty : FileSystem := ({} : FileSystem).put workingDirectory (.folder [])
  { files := entries.foldl (fun files (path, value) =>
      files.put (workingDirectory.join (Path.ofString path)) (nodeOf value)) empty
    workingDirectory := workingDirectory
    userFile := pathUnder snapshot "userFile" "/config.toml" }

end SiteAtlas.Workspace
