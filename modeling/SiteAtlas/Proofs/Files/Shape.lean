import SiteAtlas.Files.FileSystem
import SiteAtlas.Proofs.Success

/-! # The shape of a file system

Where a path leads is settled by the kinds of the nodes on its way and by the targets of the links
there. What the files hold, and in which order folders list their entries, is not looked at. So an
edit of one file changes what is read through paths that lead to this file, and nothing else.
-/

namespace SiteAtlas

namespace FileNode

/-- A node without its bytes and its entries; a link keeps its target. -/
def shape : FileNode → FileNode
  | file _ => file .empty
  | link target => link target
  | folder _ => folder []

section Shape

variable {node node' : FileNode} (same : node.shape = node'.shape)
include same

theorem isFile_eq_of_shape_eq : node.isFile = node'.isFile := by
  have kind (node : FileNode) : node.shape.isFile = node.isFile := by cases node <;> rfl
  rw [← kind, same, kind]

theorem isFolder_eq_of_shape_eq : node.isFolder = node'.isFolder := by
  have kind (node : FileNode) : node.shape.isFolder = node.isFolder := by cases node <;> rfl
  rw [← kind, same, kind]

end Shape

theorem shape_eq_iff {node node' : FileNode} : node.shape = node'.shape ↔ node = node' ∨
    (∃ content content', node = file content ∧ node' = file content') ∨
    ∃ entries entries', node = folder entries ∧ node' = folder entries' := by
  cases node <;> cases node' <;> simp [shape]

end FileNode

namespace FileSystem

open FileNode

theorem locate_eq_ok_iff {fs : FileSystem} {p : Path} {place : List String} :
    fs.locate p = .ok place ↔
      ∃ done, walk fs true linkLimit [] p.parts = .ok done ∧ done.reverse = place := by
  rw [locate, mapError_eq_ok_iff, map_eq_ok_iff]

/-- Whether the same names lead to nodes of the same kinds, links with their targets, in both. -/
def SameShape (fs fs' : FileSystem) : Prop :=
  ∀ names, (fs.node? names).map shape = (fs'.node? names).map shape

section SameShape

variable {fs fs' : FileSystem} (same : fs.SameShape fs')
include same

theorem SameShape.cases (names : List String) : fs.node? names = fs'.node? names ∨
    (∃ content content', fs.node? names = some (.file content) ∧
      fs'.node? names = some (.file content')) ∨
    ∃ entries entries', fs.node? names = some (folder entries) ∧
      fs'.node? names = some (folder entries') := by
  have shapes := same names
  cases found : fs.node? names with
  | none =>
    rw [found, Option.map_none] at shapes
    exact .inl (Option.map_eq_none_iff.mp shapes.symm).symm
  | some node =>
    rw [found, Option.map_some] at shapes
    obtain ⟨node', found', shapes⟩ := Option.map_eq_some_iff.mp shapes.symm
    rw [found']
    rcases shape_eq_iff.mp shapes.symm with rfl | ⟨_, _, rfl, rfl⟩ | ⟨_, _, rfl, rfl⟩
    · exact .inl rfl
    · exact .inr (.inl ⟨_, _, rfl, rfl⟩)
    · exact .inr (.inr ⟨_, _, rfl, rfl⟩)

theorem scan_congr (strict : Bool)
    (follow : List String → List String → Except FileError (List String))
    (done names : List String) :
    scan fs strict follow done names = scan fs' strict follow done names := by
  induction names generalizing done with
  | nil => rfl
  | cons name rest ih =>
    by_cases up : name = ".."
    · subst up
      rw [scan, scan, ih]
    · rw [scan, scan]
      · rcases same.cases (name :: done).reverse with
          sameNode | ⟨_, _, node, node'⟩ | ⟨_, _, node, node'⟩
        · rw [sameNode, ih]
        · rw [node, node', ih]
        · rw [node, node', ih]
      · exact up
      · exact up

theorem locate_congr (p : Path) : fs.locate p = fs'.locate p := by
  have walks (links : Nat) : walk fs true links = walk fs' true links := by
    induction links with
    | zero =>
      funext done names
      exact scan_congr same true _ done names
    | succ links ih =>
      funext done names
      rw [walk, walk, ih]
      exact scan_congr same true _ done names
  rw [locate, locate, walks]

/-- A path leads to nodes of one kind in both, or to nothing for the same reason. -/
theorem lookup_cases (p : Path) :
    (∃ error, fs.lookup p = .error error ∧ fs'.lookup p = .error error) ∨
      ∃ node node', fs.lookup p = .ok node ∧ fs'.lookup p = .ok node' ∧
        node.shape = node'.shape := by
  rw [lookup, lookup, locate_congr same]
  cases fs'.locate p with
  | error e => exact .inl ⟨e, rfl, rfl⟩
  | ok names =>
    have shapes := same names
    dsimp only [bind, Except.bind]
    cases found : fs.node? names with
    | none =>
      rw [found, Option.map_none] at shapes
      rw [Option.map_eq_none_iff.mp shapes.symm]
      exact .inl ⟨.missing, rfl, rfl⟩
    | some node =>
      rw [found, Option.map_some] at shapes
      obtain ⟨node', found', shapes⟩ := Option.map_eq_some_iff.mp shapes.symm
      rw [found']
      exact .inr ⟨node, node', rfl, rfl, shapes.symm⟩

theorem isFile?_congr (p : Path) : fs.isFile? p = fs'.isFile? p := by
  rw [isFile?, isFile?]
  rcases lookup_cases same p with ⟨error, found, found'⟩ | ⟨node, node', found, found', shapes⟩
  · rw [found, found']
  · rw [found, found']
    exact congrArg Except.ok (isFile_eq_of_shape_eq shapes)

theorem hasFile_congr (p : Path) : fs.hasFile p = fs'.hasFile p := by
  rw [hasFile, hasFile]
  rcases lookup_cases same p with ⟨error, found, found'⟩ | ⟨node, node', found, found', shapes⟩
  · rw [found, found']
  · rw [found, found']
    exact isFile_eq_of_shape_eq shapes

/-- A test that looks at no more than the kind of a node has the same answer in both. -/
theorem test_congr {kind : FileNode → Bool}
    (ofShape : ∀ node node', node.shape = node'.shape → kind node = kind node') (p : Path) :
    fs.test kind p = fs'.test kind p := by
  rw [test, test]
  rcases lookup_cases same p with ⟨error, found, found'⟩ | ⟨node, node', found, found', shapes⟩
  · rw [found, found']
  · rw [found, found']
    exact congrArg Except.ok (ofShape node node' shapes)

theorem isFile_congr (p : Path) : fs.isFile p = fs'.isFile p :=
  test_congr same (fun _ _ => isFile_eq_of_shape_eq) p

theorem isFolder_congr (p : Path) : fs.isFolder p = fs'.isFolder p :=
  test_congr same (fun _ _ => isFolder_eq_of_shape_eq) p

theorem isAnything_congr (p : Path) : fs.isAnything p = fs'.isAnything p :=
  test_congr same (fun _ _ _ => rfl) p

end SameShape

/-! ## Edits of one file -/

/-- Whether two systems have the same folders and links, and the same files with the same bytes, but
for what the file at a place holds. -/
structure SameBut (place : List String) (fs fs' : FileSystem) : Prop where
  shape : fs.SameShape fs'
  bytes : ∀ names, names ≠ place → ∀ content content', fs.node? names = some (.file content) →
    fs'.node? names = some (.file content') → content = content'

section SameBut

variable {place : List String} {fs fs' : FileSystem}

/-- What is read through a path that leads elsewhere is the same. -/
theorem SameBut.content_congr (same : fs.SameBut place fs') {p : Path}
    (elsewhere : fs.locate p ≠ .ok place) : fs.content p = fs'.content p := by
  rw [content, content, lookup, lookup, locate_congr same.shape] at *
  cases located : fs'.locate p with
  | error e => rfl
  | ok names =>
    have other : names ≠ place := fun isPlace => elsewhere (isPlace ▸ located)
    dsimp only [bind, Except.bind]
    rcases same.shape.cases names with sameNode | ⟨_, _, node, node'⟩ | ⟨_, _, node, node'⟩
    · rw [sameNode]
    · rw [node, node', same.bytes names other _ _ node node']
    · rw [node, node']
      rfl

theorem SameBut.text_congr (same : fs.SameBut place fs') {p : Path}
    (elsewhere : fs.locate p ≠ .ok place) : fs.text p = fs'.text p := by
  rw [text, text, same.content_congr elsewhere]

end SameBut

end FileSystem

namespace FileNode

variable {name : String} {node : FileNode}

theorem find?_setEntry (name other : String) (node : FileNode)
    (entries : List (String × FileNode)) :
    ((setEntry name node entries).find? fun e => e.1 == other) =
      if name = other then some (name, node) else entries.find? fun e => e.1 == other := by
  induction entries with
  | nil => by_cases same : name = other <;> simp [setEntry, same]
  | cons e rest ih =>
    rw [setEntry]
    by_cases here : e.1 = name
    · by_cases same : name = other <;> simp [here, same]
    · rw [if_neg (by simpa using here), List.find?_cons, List.find?_cons, ih]
      by_cases same : name = other
      · subst same
        rw [if_pos rfl, if_pos rfl, beq_false_of_ne here]
      · rw [if_neg same, if_neg same]

/-- Putting a node at names leaves the entries with other names. -/
theorem entry?_put (node : FileNode) (name other : String) (rest : List String) (new : FileNode) :
    entry? (node.put (name :: rest) new) other =
      if name = other then some (((node.entry? name).getD (folder [])).put rest new)
      else node.entry? other := by
  rw [put, entry?, entries, find?_setEntry]
  split <;> rfl

/-- Putting a file in the place of a file leaves what stands at other names, but for the entries of
the folders on the way. -/
theorem at?_put_file {place : List String} {old : ByteArray}
    (found : node.at? place = some (file old)) (new : ByteArray) (names : List String) :
    names = place ∧ (node.put place (file new)).at? names = some (file new) ∨
      names ≠ place ∧ ((node.put place (file new)).at? names = node.at? names ∨
        ∃ entries entries', (node.put place (file new)).at? names = some (folder entries) ∧
          node.at? names = some (folder entries')) := by
  induction place generalizing node names with
  | nil =>
    obtain rfl : node = file old := Option.some.inj found
    cases names with
    | nil => exact .inl ⟨rfl, rfl⟩
    | cons other names => exact .inr ⟨List.cons_ne_nil _ _, .inl rfl⟩
  | cons name rest ih =>
    obtain ⟨inner, isEntry, found⟩ := Option.bind_eq_some_iff.mp found
    cases names with
    | nil =>
      refine .inr ⟨(List.cons_ne_nil _ _).symm, .inr ?_⟩
      cases node with
      | file content => cases isEntry
      | link target => cases isEntry
      | folder entries => exact ⟨_, _, rfl, rfl⟩
    | cons other names =>
      by_cases same : name = other
      · subst same
        rw [at?, entry?_put, if_pos rfl, isEntry, Option.getD_some, Option.bind_some, at?, isEntry,
          Option.bind_some, List.cons_inj_right]
        simpa only [ne_eq, List.cons_inj_right] using ih found names
      · refine .inr ⟨fun both => same (List.cons.inj both).1.symm, .inl ?_⟩
        rw [at?, entry?_put, if_neg same, at?]

end FileNode

/-- An edit of one file, with whatever it held and whatever it holds afterwards. -/
theorem FileSystem.sameBut_put {fs : FileSystem} {place : List String} {old : ByteArray}
    (found : fs.node? place = some (.file old)) (new : ByteArray) :
    fs.SameBut place (fs.put ⟨1, place⟩ (.file new)) where
  shape names := by
    rcases FileNode.at?_put_file found new names with
      ⟨rfl, edited⟩ | ⟨-, sameNode | ⟨_, _, node', node⟩⟩
    · exact (congrArg (Option.map FileNode.shape) found).trans
        (congrArg (Option.map FileNode.shape) edited).symm
    · exact congrArg (Option.map FileNode.shape) sameNode.symm
    · exact (congrArg (Option.map FileNode.shape) node).trans
        (congrArg (Option.map FileNode.shape) node').symm
  bytes names other content content' before after := by
    rcases FileNode.at?_put_file found new names with
      ⟨isPlace, -⟩ | ⟨-, sameNode | ⟨_, _, node', -⟩⟩
    · exact absurd isPlace other
    · cases before.symm.trans (sameNode.symm.trans after)
      rfl
    · cases node'.symm.trans after

end SiteAtlas
