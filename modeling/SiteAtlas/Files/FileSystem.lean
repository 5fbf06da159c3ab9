import SiteAtlas.Files.Path
import SiteAtlas.Text.Utf8
import SiteAtlas.Value.Literal

/-! # File systems

Folders, files and symbolic links as one value. `FileSystem.node?` looks at the literal names of a
path; `FileSystem.locate` follows the links on the way and at the end of it, as far as the system
does. `FileSystem.realPath` follows any number of them, but not round in a circle.
-/

namespace SiteAtlas

/-- A file with its bytes, a link with its target, or a folder with its entries. -/
inductive FileNode where
  | file (content : ByteArray)
  | link (target : String)
  | folder (entries : List (String × FileNode))
  deriving Inhabited

/-- Why a path leads to no file. -/
inductive FileError where
  | missing
  | notFolder
  | isFolder
  | linkLoop
  /-- The path, or a name that is looked for on its way, is longer than the system takes. -/
  | tooLong
  deriving DecidableEq

/-- What the system says of a path that leads to no file. -/
def FileError.message (path : String) : FileError → String
  | missing => "[Errno 2] No such file or directory: " ++ Value.quoted path
  | notFolder => "[Errno 20] Not a directory: " ++ Value.quoted path
  | isFolder => "[Errno 21] Is a directory: " ++ Value.quoted path
  | linkLoop => "[Errno 40] Too many levels of symbolic links: " ++ Value.quoted path
  | tooLong => "[Errno 36] File name too long: " ++ Value.quoted path

/-- A path that the system does not look at, and why. -/
structure PathError where
  path : Path
  error : FileError
  deriving DecidableEq

/-- The text of an error. -/
def PathError.message (e : PathError) : String := e.error.message e.path.toString

namespace FileNode

/-- The entries of a folder. -/
def entries : FileNode → List (String × FileNode)
  | folder entries => entries
  | _ => []

/-- Whether a node is a folder. -/
def isFolder : FileNode → Bool
  | folder _ => true
  | _ => false

/-- Whether a node is a file. -/
def isFile : FileNode → Bool
  | file _ => true
  | _ => false

/-- The entry of a folder by its name. -/
def entry? (node : FileNode) (name : String) : Option FileNode :=
  (node.entries.find? fun e => e.1 == name).map (·.2)

/-- The node below another, by literal names. -/
def at? : FileNode → List String → Option FileNode
  | node, [] => some node
  | node, name :: rest => (node.entry? name).bind fun inner => at? inner rest

/-- Entries with a node under a name: in its old place, or at the end if the name is new. -/
def setEntry (name : String) (node : FileNode) : List (String × FileNode) → List (String × FileNode)
  | [] => [(name, node)]
  | e :: rest => if e.1 == name then (name, node) :: rest else e :: setEntry name node rest

/-- Put a node below another; folders on the way are made, and replace what is none. -/
def put : (node : FileNode) → List String → (new : FileNode) → FileNode
  | _, [], new => new
  | node, name :: rest, new =>
    .folder (setEntry name (put ((node.entry? name).getD (.folder [])) rest new) node.entries)

mutual

/-- The places of all links at and below a node, seen from it. -/
def links : FileNode → List (List String)
  | file _ => []
  | link _ => [[]]
  | folder entries => linksOf entries

/-- The places of all links in the entries of a folder. -/
def linksOf : List (String × FileNode) → List (List String)
  | [] => []
  | e :: rest => linksIn e ++ linksOf rest

/-- The places of all links in one entry of a folder. -/
def linksIn : String × FileNode → List (List String)
  | (name, node) => (links node).map (name :: ·)

end

end FileNode

/-- All files there are, below one folder. -/
structure FileSystem where
  /-- The folder that absolute paths start from. -/
  root : FileNode := .folder []
  deriving Inhabited

namespace FileSystem

/-- The node at literal names from the root. -/
def node? (fs : FileSystem) (names : List String) : Option FileNode := fs.root.at? names

/-- The most bytes that the name of an entry has. -/
def nameLimit : Nat := 255

/-- The number of bytes that the text of a path stays below. -/
def pathLimit : Nat := 4096

/-- Why there is no entry with a name. -/
def absence (name : String) : FileError :=
  if nameLimit < name.utf8ByteSize then .tooLong else .missing

/-- Go on from a folder, given by its names, last first, along the names of a path. `follow` goes
on behind a link. If `strict`, every name but the last has to lead to a folder and the last to
anything at all. -/
def scan (fs : FileSystem) (strict : Bool)
    (follow : List String → List String → Except FileError (List String)) (done : List String) :
    List String → Except FileError (List String)
  | [] => .ok done
  | ".." :: rest => scan fs strict follow done.tail rest
  | name :: rest =>
    match fs.node? (name :: done).reverse with
    | some (.folder _) => scan fs strict follow (name :: done) rest
    | some (.link target) =>
      let path := Path.ofString target
      follow (if path.isAbsolute then [] else done) (path.parts ++ rest)
    | some (.file _) =>
      if strict && !rest.isEmpty then .error .notFolder
      else scan fs strict follow (name :: done) rest
    | none => if strict then .error (absence name) else scan fs strict follow (name :: done) rest

/-- Go along the names of a path, following at most `links` links. -/
def walk (fs : FileSystem) (strict : Bool) :
    (links : Nat) → (done pending : List String) → Except FileError (List String)
  | 0 => scan fs strict fun _ _ => .error .linkLoop
  | links + 1 => scan fs strict (walk fs strict links)

/-- How many links a path may go through. -/
def linkLimit : Nat := 40

/-- The names, from the root and free of links, of what a path leads to. A path of too many bytes
leads to nothing. -/
def locate (fs : FileSystem) (p : Path) : Except FileError (List String) :=
  ((walk fs true linkLimit [] p.parts).map List.reverse).mapError fun error =>
    if pathLimit ≤ p.toString.utf8ByteSize then .tooLong else error

/-- Go on from a folder, given by its names, last first, along the names of a path, a link being
replaced by what `follow` finds behind it. Names that lead nowhere are kept. -/
def expand (fs : FileSystem) (follow : List String → List String → Option (List String))
    (done : List String) : List String → Option (List String)
  | [] => some done
  | ".." :: rest => expand fs follow done.tail rest
  | name :: rest =>
    match fs.node? (name :: done).reverse with
    | some (.link target) =>
      let path := Path.ofString target
      (follow (if path.isAbsolute then [] else done) path.parts).bind fun done =>
        expand fs follow done rest
    | _ => expand fs follow (name :: done) rest

/-- Go along the names of a path, links being followed that lie behind fewer than `depth` others. -/
def resolve (fs : FileSystem) : (depth : Nat) → (done names : List String) → Option (List String)
  | 0 => fun _ _ => none
  | depth + 1 => expand fs (resolve fs depth)

/-- The path that is left when all links are followed. A link that lies behind as many others as
there are links lies behind itself. -/
def realPath (fs : FileSystem) (p : Path) : Except FileError Path :=
  match resolve fs (fs.root.links.length + 1) [] p.parts with
  | some done => .ok ⟨1, done.reverse⟩
  | none => .error .linkLoop

/-- What a path leads to. -/
def lookup (fs : FileSystem) (p : Path) : Except FileError FileNode := do
  let names ← fs.locate p
  match fs.node? names with
  | some node => return node
  | none => .error .missing

/-- Whether a path leads to a node of a kind: what leads nowhere leads to none, but the system does
not look at a path that is too long. -/
def test (fs : FileSystem) (kind : FileNode → Bool) (p : Path) : Except PathError Bool :=
  match fs.lookup p with
  | .ok node => .ok (kind node)
  | .error .tooLong => .error ⟨p, .tooLong⟩
  | .error _ => .ok false

/-- Whether a path leads to a file. -/
def isFile (fs : FileSystem) (p : Path) : Except PathError Bool := fs.test FileNode.isFile p

/-- Whether a path leads to a folder. -/
def isFolder (fs : FileSystem) (p : Path) : Except PathError Bool := fs.test FileNode.isFolder p

/-- Whether a path leads to anything. -/
def isAnything (fs : FileSystem) (p : Path) : Except PathError Bool := fs.test (fun _ => true) p

/-- Whether the entry of a folder at a path is a file or a link to one. There is no answer for a
link that leads round in a circle, through a file or too far. -/
def isFile? (fs : FileSystem) (p : Path) : Except FileError Bool :=
  match fs.lookup p with
  | .ok node => .ok node.isFile
  | .error .missing => .ok false
  | .error error => .error error

/-- Whether there is a file at a path, for all that can be told. -/
def hasFile (fs : FileSystem) (p : Path) : Bool :=
  match fs.lookup p with
  | .ok node => node.isFile
  | .error _ => false

/-- Whether there is a folder at a path, for all that can be told. -/
def hasFolder (fs : FileSystem) (p : Path) : Bool :=
  match fs.lookup p with
  | .ok node => node.isFolder
  | .error _ => false

/-- The bytes of the file that a path leads to. -/
def content (fs : FileSystem) (p : Path) : Except FileError ByteArray := do
  match ← fs.lookup p with
  | .file content => return content
  | .folder _ => .error .isFolder
  | .link _ => .error .missing

/-- The text of the file that a path leads to. -/
def text (fs : FileSystem) (p : Path) : Except FileError String := (fs.content p).map Text.ofBytes

/-- The file system with a node at a path. -/
def put (fs : FileSystem) (p : Path) (node : FileNode) : FileSystem := ⟨fs.root.put p.parts node⟩

/-- The file system after a text is written to what a path leads to, which need not be there yet. -/
def write (fs : FileSystem) (p : Path) (text : String) : FileSystem :=
  match walk fs false linkLimit [] p.parts with
  | .ok done => fs.put ⟨1, done.reverse⟩ (.file text.toUTF8)
  | .error _ => fs

end FileSystem

end SiteAtlas
