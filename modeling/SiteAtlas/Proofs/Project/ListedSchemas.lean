import SiteAtlas.Project.Analysis
import SiteAtlas.Proofs.Files.Descent
import SiteAtlas.Proofs.Project.WalkRun

/-! # The schema files of a project and its tree

The search for schema files goes through all real folders below the schema folder, which may itself
be a link; the walk over the project goes into no link and leaves out what is ignored. A listed
schema is a file of the tree exactly if the way to it from the root goes through real folders and
nothing on it is ignored, and no file of the tree that is named like a schema is missing from the
list.
-/

namespace SiteAtlas

/-! ## Down from what a path leads to -/

mutual

/-- Whether no entry at or below a node is called like the folder around it. -/
def FileNode.hasNoUp : FileNode → Bool
  | .folder entries => FileNode.haveNoUp entries
  | _ => true

/-- Whether no entry of a list, and none below them, is called like the folder around it. -/
def FileNode.haveNoUp : List (String × FileNode) → Bool
  | [] => true
  | (name, node) :: rest => name != ".." && FileNode.hasNoUp node && FileNode.haveNoUp rest

end

namespace FileNode

variable {node inner : FileNode} {names : List String}

theorem haveNoUp_iff {entries : List (String × FileNode)} : haveNoUp entries = true ↔
    ∀ e ∈ entries, e.1 ≠ ".." ∧ e.2.hasNoUp = true := by
  induction entries with
  | nil => simp [haveNoUp]
  | cons e rest ih => simp [haveNoUp, ih]

theorem hasNoUp_iff : node.hasNoUp = true ↔
    ∀ e ∈ node.entries, e.1 ≠ ".." ∧ e.2.hasNoUp = true := by
  cases node with
  | file content => simp [hasNoUp, entries]
  | link target => simp [hasNoUp, entries]
  | folder entries => rw [hasNoUp, haveNoUp_iff, FileNode.entries]

/-- The names that lead down a tree are none of a folder around, if it has no such entries. -/
theorem up_notMem_of_at? (proper : node.isProper = true) (noUp : node.hasNoUp = true)
    (found : node.at? names = some inner) : ".." ∉ names := by
  induction names generalizing node with
  | nil => exact List.not_mem_nil
  | cons name rest ih =>
    obtain ⟨first, entry, found⟩ := Option.bind_eq_some_iff.mp found
    obtain ⟨other, below⟩ := hasNoUp_iff.mp noUp _ ((entry?_eq_some_iff proper).mp entry)
    have others := ih (proper_of_isEntry proper entry).2 below found
    exact List.not_mem_cons_of_ne_of_not_mem (Ne.symm other) others

/-- Only a folder has something in it. -/
theorem exists_entries_of_at? {last : String} (found : node.at? (names ++ [last]) = some inner) :
    ∃ entries, node = .folder entries := by
  cases node with
  | folder entries => exact ⟨entries, rfl⟩
  | file content => cases names <;> cases found
  | link target => cases names <;> cases found

end FileNode

namespace FileSystem

variable {fs : FileSystem} {listing node : FileNode} {names : List String}

/-- What lies below a folder that a path leads to is found by the names on the way down. -/
theorem lookup_descend {p : Path} (found : fs.lookup p = .ok listing)
    (isFolder : listing.isFolder = true) (below : listing.at? names = some node)
    (noUp : ".." ∉ names) (noLink : ∀ target, node ≠ .link target) :
    fs.lookup (p.descend names) = .ok node := by
  obtain ⟨place, located, there⟩ := bind_eq_ok_iff.mp found
  obtain ⟨last, walked, rfl⟩ := locate_eq_ok_iff.mp located
  have here : fs.node? last.reverse = some listing := by
    cases isThere : fs.node? last.reverse with
    | none =>
      rw [isThere] at there
      cases there
    | some inner =>
      rw [isThere] at there
      cases there
      rfl
  have down := walk_append_down isFolder below noUp noLink walked here
  have located' : fs.locate (p.descend names) = .ok (last.reverse ++ names) := by
    refine locate_eq_ok_iff.mpr ⟨_, down, ?_⟩
    rw [List.reverse_append, List.reverse_reverse]
  have there' : fs.node? (last.reverse ++ names) = some node := by
    rw [node?, FileNode.at?_append here, below]
  refine bind_eq_ok_iff.mpr ⟨_, located', ?_⟩
  rw [there']
  rfl

end FileSystem

/-! ## What the search lists -/

namespace SchemaFiles

variable {node folder : FileNode} {base path : Path}

theorem candidatesIn_eq_flatMap (path : Path) (entries : List (String × FileNode)) :
    candidatesIn path entries = entries.flatMap fun e =>
      (if Text.endsWith extension.toList e.1.toList then [path.child e.1] else []) ++
        candidates (path.child e.1) e.2 := by
  induction entries with
  | nil => rw [candidatesIn, List.flatMap_nil]
  | cons e rest ih => rw [candidatesIn, ih, List.flatMap_cons]

theorem candidates_eq (path : Path) (node : FileNode) :
    candidates path node = candidatesIn path node.entries := by
  cases node with
  | folder entries => rw [candidates, FileNode.entries]
  | file content => rfl
  | link target => rfl

/-- The search comes to all that is called like a schema below a folder, through real folders. -/
theorem mem_candidates_iff (proper : node.isProper = true) :
    path ∈ candidates base node ↔ ∃ names last inner,
      node.at? (names ++ [last]) = some inner ∧ path = base.descend (names ++ [last]) ∧
      Text.endsWith extension.toList last.toList = true := by
  induction node using FileNode.induction_entries generalizing base with
  | step node ih =>
    rw [candidates_eq, candidatesIn_eq_flatMap, List.mem_flatMap]
    constructor
    · rintro ⟨e, isEntry, member⟩
      have entry := (FileNode.entry?_eq_some_iff proper).mpr isEntry
      rcases List.mem_append.mp member with own | member
      · split at own
        next named =>
          obtain rfl := List.mem_singleton.mp own
          exact ⟨[], e.1, e.2, Option.bind_eq_some_iff.mpr ⟨e.2, entry, rfl⟩, rfl, named⟩
        next => exact absurd own List.not_mem_nil
      · obtain ⟨names, last, inner, found, rfl, named⟩ :=
          (ih e isEntry (FileNode.proper_of_isEntry proper entry).2).mp member
        refine ⟨e.1 :: names, last, inner, ?_, ?_, named⟩
        · exact Option.bind_eq_some_iff.mpr ⟨e.2, entry, found⟩
        · rw [Path.descend, Path.descend, Path.child, List.append_assoc]
          rfl
    · rintro ⟨names, last, inner, found, rfl, named⟩
      cases names with
      | nil =>
        obtain ⟨inner', entry, -⟩ := Option.bind_eq_some_iff.mp found
        refine ⟨(last, inner'), (FileNode.entry?_eq_some_iff proper).mp entry, ?_⟩
        rw [if_pos named]
        exact List.mem_append_left _ (List.mem_singleton.mpr rfl)
      | cons name rest =>
        obtain ⟨next, entry, found⟩ := Option.bind_eq_some_iff.mp found
        have isEntry := (FileNode.entry?_eq_some_iff proper).mp entry
        refine ⟨(name, next), isEntry, List.mem_append_right _ ?_⟩
        apply (ih (name, next) isEntry (FileNode.proper_of_isEntry proper entry).2).mpr
        refine ⟨rest, last, inner, found, ?_, named⟩
        rw [Path.descend, Path.descend, Path.child, List.append_assoc]
        rfl

theorem mem_paths_iff {files : FileSystem} : path ∈ paths files base folder ↔
    path ∈ candidates base folder ∧ files.hasFile path = true := by
  rw [paths, List.mem_filter, List.mem_mergeSort]

theorem folder?_eq_some_iff {files : FileSystem} {root : Path} :
    folder? files root = some folder ↔
      files.lookup (root.child folderName) = .ok folder ∧ folder.isFolder = true := by
  unfold folder?
  constructor
  · intro found
    split at found
    next entries isThere =>
      cases found
      exact ⟨isThere, rfl⟩
    next => cases found
  · rintro ⟨isThere, isFolder⟩
    cases folder with
    | folder entries => rw [isThere]
    | file content => cases isFolder
    | link target => cases isFolder

theorem mem_ofProject?_iff {files : FileSystem} {root : Path} {s : SchemaFile} :
    s ∈ (ofProject? files root).getD [] ↔ ∃ folder path,
      files.lookup (root.child folderName) = .ok folder ∧ folder.isFolder = true ∧
      path ∈ candidates (root.child folderName) folder ∧ files.hasFile path = true ∧
      s = ofPath files root path := by
  constructor
  · intro member
    cases isThere : folder? files root with
    | none =>
      rw [ofProject?, isThere] at member
      exact absurd member List.not_mem_nil
    | some folder =>
      rw [ofProject?, isThere] at member
      obtain ⟨path, listed, rfl⟩ := List.mem_map.mp member
      obtain ⟨isCandidate, isFile⟩ := mem_paths_iff.mp listed
      obtain ⟨found, isFolder⟩ := folder?_eq_some_iff.mp isThere
      exact ⟨folder, path, found, isFolder, isCandidate, isFile, rfl⟩
  · rintro ⟨folder, path, found, isFolder, isCandidate, isFile, rfl⟩
    rw [ofProject?, folder?_eq_some_iff.mpr ⟨found, isFolder⟩]
    exact List.mem_map_of_mem (mem_paths_iff.mpr ⟨isCandidate, isFile⟩)

end SchemaFiles

theorem Path.relativeTo_descend (root : Path) {names : List String} (nonempty : names ≠ []) :
    (root.descend names).relativeTo root = Walk.relativeOf names := by
  have common (start : List String) : dropCommon start (start ++ names) = ([], names) := by
    induction start with
    | nil => cases names <;> rfl
    | cons name rest ih => rw [List.cons_append, dropCommon, if_pos rfl, ih]
  rw [relativeTo, descend, common]
  simp [nonempty, Walk.relativeOf]

theorem Path.child_descend_eq (root : Path) (name : String) (names : List String) :
    (root.child name).descend names = root.descend (name :: names) := by
  rw [child, descend, descend, List.append_assoc, List.singleton_append]

/-! ## Listed schemas and shown files -/

/-- Whether a schema of a list is one of the files of a tree. -/
def StructureNode.ShowsSchema (tree : StructureNode) (s : SchemaFile) : Prop :=
  ∃ node ∈ tree.nodes, node.isFolder = false ∧ node.entry.relativePath = s.relativePath ∧
    node.entry.fullPath = s.path.toString

/-- A relative path goes on below a folder exactly if its first name is that of the folder. -/
theorem Walk.exists_cons_of_prefix {folder : String} {names : List String}
    (isPart : Path.IsPart folder) (parts : ∀ name ∈ names, Path.IsPart name)
    (below : (folder ++ "/").toList <+: (relativeOf names).toList) :
    ∃ rest, rest ≠ [] ∧ names = folder :: rest := by
  obtain ⟨tail, whole⟩ := below
  rw [toList_relativeOf, String.toList_append, List.append_assoc] at whole
  cases names with
  | nil => simp at whole
  | cons first rest =>
    obtain ⟨firstPart, -⟩ := List.forall_mem_cons.mp parts
    cases rest with
    | nil =>
      have slash : '/' ∈ first.toList := by
        rw [List.map_singleton, List.intercalate_singleton] at whole
        rw [← whole]
        simp
      exact absurd slash firstPart.2.2
    | cons second rest =>
      rw [List.map_cons, List.map_cons, List.intercalate_cons_cons, List.append_assoc] at whole
      obtain ⟨same, -⟩ := (Text.append_cons_inj_of_front isPart.2.2 firstPart.2.2).mp whole
      exact ⟨second :: rest, List.cons_ne_nil _ _, by rw [String.toList_inj.mp same]⟩

namespace Project

open SchemaFiles

variable {p : Project} {names : List String}

/-- No entry on a way down from the root is ignored, nor what it leads to. -/
def IsOpen (p : Project) (names : List String) : Prop :=
  ∀ above inner, above ≠ [] → above <+: names → p.listing.at? above = some inner →
    p.isIgnored (Walk.relativeOf above) inner.isFolder = false

variable (proper : p.files.root.isProper = true) (found : p.files.lookup p.root = .ok p.listing)
include proper found

/-- A file of the tree is one that the walk comes to. -/
theorem exists_file_iff (parts : ∀ name ∈ names, Path.IsPart name) :
    (∃ node ∈ p.tree.nodes, node.isFolder = false ∧
      node.entry.relativePath = Walk.relativeOf names ∧
      node.entry.fullPath = (p.root.descend names).toString) ↔
    ∃ inner, p.walk.Keeps p.listing names inner ∧
      p.walk.shownAsFolder? (p.root.descend names) inner = some false := by
  have inside := FileSystem.isProper_of_lookup proper found
  have places := (Walk.shows_build p.walk p.root inside).places
    (Walk.relativeOf names) (p.root.descend names).toString false
  constructor
  · rintro ⟨node, member, isFile, relative, full⟩
    rw [StructureNode.nodes_eq_cons] at member
    rcases List.mem_cons.mp member with rfl | member
    · cases isFile
    obtain ⟨names', inner, keeps, shown, same, -⟩ :=
      places.mp ⟨node, member, relative, full, isFile⟩
    have parts' := FileNode.parts_of_at? inside keeps.2.1
    obtain rfl := (Walk.relativeOf_inj parts parts').mp same
    exact ⟨inner, keeps, shown⟩
  · rintro ⟨inner, keeps, shown⟩
    obtain ⟨node, member, relative, full, isFile⟩ :=
      places.mpr ⟨names, inner, keeps, shown, rfl, rfl⟩
    refine ⟨node, ?_, isFile, relative, full⟩
    rw [StructureNode.nodes_eq_cons]
    exact List.mem_cons_of_mem _ member

variable (isFolder : p.listing.isFolder = true) (noUp : p.listing.hasNoUp = true)
include isFolder noUp

/-- The search and the walk take the same entries for files. -/
theorem isFile_iff_shown {inner : FileNode} (below : p.listing.at? names = some inner) :
    p.files.hasFile (p.root.descend names) = true ↔
      p.walk.shownAsFolder? (p.root.descend names) inner = some false := by
  have up := FileNode.up_notMem_of_at? (FileSystem.isProper_of_lookup proper found) noUp below
  have isThere (noLink : ∀ target, inner ≠ .link target) :
      p.files.lookup (p.root.descend names) = .ok inner :=
    FileSystem.lookup_descend found isFolder below up noLink
  cases inner with
  | link target =>
    change p.files.hasFile _ = true ↔
      (if p.files.hasFile (p.root.descend names) = true then some false else none) = some false
    split <;> simp_all
  | file content =>
    simp [FileSystem.hasFile, isThere, FileNode.isFile, Walk.shownAsFolder?]
  | folder entries =>
    simp [FileSystem.hasFile, isThere, FileNode.isFile, Walk.shownAsFolder?]

theorem lookup_schemaFolder {entries : List (String × FileNode)}
    (entry : p.listing.entry? folderName = some (.folder entries)) :
    p.files.lookup (p.root.child folderName) = .ok (.folder entries) := by
  have below : p.listing.at? [folderName] = some (.folder entries) :=
    Option.bind_eq_some_iff.mpr ⟨_, entry, rfl⟩
  have up := FileNode.up_notMem_of_at? (FileSystem.isProper_of_lookup proper found) noUp below
  exact FileSystem.lookup_descend found isFolder below up (fun _ => FileNode.noConfusion)

/-- A listed schema lies below the schema folder, and is shown if it is reached through real folders
and nothing on the way is ignored. -/
theorem exists_names_of_listed {s : SchemaFile} (listed : s ∈ (ofProject? p.files p.root).getD []) :
    ∃ names, (∀ name ∈ names, Path.IsPart name) ∧ s.relativePath = Walk.relativeOf names ∧
      (p.tree.ShowsSchema s ↔
        (∃ entries, p.listing.entry? folderName = some (.folder entries)) ∧ p.IsOpen names) := by
  obtain ⟨folder, path, isThere, -, isCandidate, isFile, rfl⟩ := mem_ofProject?_iff.mp listed
  have folderProper := FileSystem.isProper_of_lookup proper isThere
  obtain ⟨names, last, inner, below, rfl, -⟩ := (mem_candidates_iff folderProper).mp isCandidate
  rw [Path.child_descend_eq] at isFile ⊢
  have prismaPart : Path.IsPart folderName := ⟨by decide, by decide, by decide⟩
  have parts : ∀ name ∈ folderName :: (names ++ [last]), Path.IsPart name :=
    List.forall_mem_cons.mpr ⟨prismaPart, FileNode.parts_of_at? folderProper below⟩
  have relative : (p.root.descend (folderName :: (names ++ [last]))).relativeTo p.root =
      Walk.relativeOf (folderName :: (names ++ [last])) :=
    Path.relativeTo_descend p.root (List.cons_ne_nil _ _)
  refine ⟨_, parts, relative, ?_⟩
  have shown := exists_file_iff proper found parts
  rw [StructureNode.ShowsSchema, ofPath, relative]
  refine shown.trans ?_
  constructor
  · rintro ⟨inner, ⟨-, there, isOpen⟩, -⟩
    obtain ⟨next, entry, rest⟩ := Option.bind_eq_some_iff.mp there
    obtain ⟨entries, rfl⟩ := FileNode.exists_entries_of_at? rest
    exact ⟨⟨entries, entry⟩, isOpen⟩
  · rintro ⟨⟨entries, entry⟩, isOpen⟩
    -- The folder that is searched is the one that the walk goes into.
    cases isThere.symm.trans (lookup_schemaFolder proper found isFolder noUp entry)
    have there : p.listing.at? (folderName :: (names ++ [last])) = some inner :=
      Option.bind_eq_some_iff.mpr ⟨_, entry, below⟩
    refine ⟨inner, ⟨List.cons_ne_nil _ _, there, isOpen⟩, ?_⟩
    exact (isFile_iff_shown proper found isFolder noUp there).mp isFile

/-- A file of the tree below the schema folder that is called like a schema is listed. -/
theorem exists_listed {node : StructureNode} (member : node ∈ p.tree.nodes)
    (isFile : node.isFolder = false)
    (below : (folderName ++ "/").toList <+: node.entry.relativePath.toList)
    (named : Text.endsWith extension.toList node.name.toList = true) :
    ∃ s ∈ (ofProject? p.files p.root).getD [], s.relativePath = node.entry.relativePath ∧
      s.path.toString = node.entry.fullPath := by
  have inside := FileSystem.isProper_of_lookup proper found
  rw [StructureNode.nodes_eq_cons] at member
  rcases List.mem_cons.mp member with rfl | member
  · cases isFile
  obtain ⟨names, nonempty, parts, ⟨_, -, rfl⟩ | ⟨route, rfl⟩⟩ :=
    Walk.exists_origin_build inside member
  · cases isFile
  have listed : p.walk.fileNode (p.root.descend names) (Walk.relativeOf names) route ∈
      p.tree.nodes := by
    rw [StructureNode.nodes_eq_cons]
    exact List.mem_cons_of_mem _ member
  obtain ⟨inner, ⟨-, there, -⟩, shown⟩ :=
    (exists_file_iff proper found parts).mp ⟨_, listed, rfl, rfl, rfl⟩
  have prismaPart : Path.IsPart folderName := ⟨by decide, by decide, by decide⟩
  obtain ⟨rest, filled, rfl⟩ := Walk.exists_cons_of_prefix prismaPart parts below
  obtain ⟨folder, entry, further⟩ := Option.bind_eq_some_iff.mp there
  obtain ⟨front, last, rfl⟩ : ∃ front last, rest = front ++ [last] :=
    ⟨_, _, (List.dropLast_append_getLast filled).symm⟩
  obtain ⟨entries, rfl⟩ := FileNode.exists_entries_of_at? further
  have isThere := lookup_schemaFolder proper found isFolder noUp entry
  have name : (p.root.descend (folderName :: (front ++ [last]))).name = last := by
    rw [Path.name, Path.descend, ← List.cons_append, ← List.append_assoc]
    exact List.getLastD_concat
  have own : (p.walk.fileNode (p.root.descend (folderName :: (front ++ [last])))
      (Walk.relativeOf (folderName :: (front ++ [last]))) route).name = last := name
  rw [own] at named
  have isCandidate : p.root.descend (folderName :: (front ++ [last])) ∈
      candidates (p.root.child folderName) (.folder entries) := by
    rw [← Path.child_descend_eq]
    exact (mem_candidates_iff (FileSystem.isProper_of_lookup proper isThere)).mpr
      ⟨front, last, inner, further, rfl, named⟩
  refine ⟨ofPath p.files p.root (p.root.descend (folderName :: (front ++ [last]))), ?_, ?_, rfl⟩
  · exact mem_ofProject?_iff.mpr ⟨_, _, isThere, rfl, isCandidate,
      (isFile_iff_shown proper found isFolder noUp there).mpr shown, rfl⟩
  · exact Path.relativeTo_descend p.root (List.cons_ne_nil _ _)

end Project

/-- Tree and schemas do not depend on whether imports are asked for. -/
theorem Project.tree_and_schemas_of_analyze {p : Project} {dependencies : Option Bool}
    {a : ProjectAnalysis} (analyzed : p.analyze dependencies = .ok a) :
    a.tree = p.tree ∧ a.schemas = SchemaFiles.ofProject? p.files p.root := by
  unfold Project.analyze at analyzed
  dsimp only at analyzed
  split at analyzed
  all_goals
    obtain ⟨map, -, made⟩ := bind_eq_ok_iff.mp analyzed
    obtain rfl := Except.ok.inj made
    exact ⟨rfl, rfl⟩

/-- A schema that the analysis of a project lists is a file of the tree exactly if the schema folder
is a folder of the project itself, not a link to one, and nothing on the way from the root to the
schema is ignored. A file of the tree below the schema folder that is called like a schema is always
listed. -/
theorem Project.listed_schemas_in_tree {p : Project} {dependencies : Option Bool}
    {a : ProjectAnalysis} (analyzed : p.analyze dependencies = .ok a)
    (proper : p.files.root.isProper = true) (found : p.files.lookup p.root = .ok p.listing)
    (isFolder : p.listing.isFolder = true) (noUp : p.listing.hasNoUp = true) :
    (∀ s ∈ a.schemas.getD [], ∃ names,
      (∀ name ∈ names, Path.IsPart name) ∧ s.relativePath = Walk.relativeOf names ∧
      (a.tree.ShowsSchema s ↔
        (∃ entries, p.listing.entry? SchemaFiles.folderName = some (.folder entries)) ∧
          p.IsOpen names)) ∧
    ∀ node ∈ a.tree.nodes, node.isFolder = false →
      (SchemaFiles.folderName ++ "/").toList <+: node.entry.relativePath.toList →
      Text.endsWith SchemaFiles.extension.toList node.name.toList = true →
      ∃ s ∈ a.schemas.getD [],
        s.relativePath = node.entry.relativePath ∧ s.path.toString = node.entry.fullPath := by
  obtain ⟨tree, schemas⟩ := Project.tree_and_schemas_of_analyze analyzed
  rw [schemas, tree]
  constructor
  · intro s listed
    exact p.exists_names_of_listed proper found isFolder noUp listed
  · intro node member isFile below named
    exact p.exists_listed proper found isFolder noUp member isFile below named

/-! ## A project with a schema in a build folder -/

/-- The files of a project with two schemas, one of them in a folder that is always ignored. -/
def builtSite : FileNode :=
  .folder [("prisma", .folder [("schema.prisma", .file ⟨#[]⟩),
    ("dist", .folder [("old.prisma", .file ⟨#[]⟩)])])]

/-- The project with these files under the standard rules. -/
def builtProject : Project where
  files := ⟨.folder [("site", builtSite)]⟩
  root := ⟨1, ["site"]⟩
  listing := builtSite
  rules := (Ignore.projectRules none []).toOption.getD []

theorem schema_of_builtProject_shown :
    builtProject.files.root.isProper = true ∧
    builtProject.files.lookup builtProject.root = .ok builtProject.listing ∧
    builtProject.listing.isFolder = true ∧ builtProject.listing.hasNoUp = true ∧
    ∃ a, builtProject.analyze none = .ok a ∧
      ∃ s ∈ a.schemas.getD [], s.relativePath = "prisma/schema.prisma" ∧ a.tree.ShowsSchema s := by
  have proper : builtProject.files.root.isProper = true := by decide +kernel
  have found : builtProject.files.lookup builtProject.root = .ok builtProject.listing := rfl
  have noUp : builtProject.listing.hasNoUp = true := by decide +kernel
  obtain ⟨a, analyzed⟩ : ∃ a, builtProject.analyze none = .ok a := ⟨_, rfl⟩
  obtain ⟨-, schemas⟩ := Project.tree_and_schemas_of_analyze analyzed
  let s := SchemaFiles.ofPath builtProject.files builtProject.root
    (builtProject.root.descend ["prisma", "schema.prisma"])
  have listed : s ∈ a.schemas.getD [] := by
    rw [schemas]
    exact SchemaFiles.mem_ofProject?_iff.mpr
      ⟨_, _, rfl, rfl, by decide +kernel, by decide +kernel, rfl⟩
  refine ⟨proper, found, rfl, noUp, a, analyzed, s, listed, by decide +kernel, ?_⟩
  obtain ⟨each, -⟩ := Project.listed_schemas_in_tree analyzed proper found rfl noUp
  obtain ⟨names, parts, relative, shown⟩ := each s listed
  have own : ∀ name ∈ ["prisma", "schema.prisma"], Path.IsPart name := by decide
  obtain rfl : ["prisma", "schema.prisma"] = names := by
    apply (Walk.relativeOf_inj own parts).mp
    rw [← relative]
    decide +kernel
  refine shown.mpr ⟨⟨_, rfl⟩, ?_⟩
  intro above inner nonempty begins there
  rcases List.prefix_cons_iff.mp begins with rfl | ⟨rest, rfl, further⟩
  · exact absurd rfl nonempty
  rcases List.prefix_cons_iff.mp further with rfl | ⟨rest, rfl, atEnd⟩
  · cases there
    decide +kernel
  obtain rfl := List.prefix_nil.mp atEnd
  cases there
  decide +kernel

/-- The schema in the ignored folder is listed, although it is no file of the tree. -/
theorem ignored_schema_listed :
    builtProject.isIgnored "prisma/dist" true = true ∧
    ∃ a, builtProject.analyze none = .ok a ∧
      ∃ s ∈ a.schemas.getD [], s.relativePath = "prisma/dist/old.prisma" ∧
        ¬ a.tree.ShowsSchema s := by
  have ignored : builtProject.isIgnored "prisma/dist" true = true := by
    decide +kernel
  refine ⟨ignored, _, rfl, SchemaFiles.ofPath builtProject.files builtProject.root
    (builtProject.root.descend ["prisma", "dist", "old.prisma"]), ?_, by decide +kernel, ?_⟩
  · exact SchemaFiles.mem_ofProject?_iff.mpr
      ⟨_, _, rfl, rfl, by decide +kernel, by decide +kernel, rfl⟩
  · rintro ⟨node, member, isFile, relative, full⟩
    have parts : ∀ name ∈ ["prisma", "dist", "old.prisma"], Path.IsPart name := by decide
    obtain ⟨inner, ⟨-, -, isOpen⟩, -⟩ :=
      (builtProject.exists_file_iff (by decide +kernel) rfl parts).mp
        ⟨node, member, isFile, relative.trans (by decide +kernel), full⟩
    have kept := isOpen ["prisma", "dist"] _ (List.cons_ne_nil _ _) (by decide) rfl
    exact Bool.noConfusion (kept.symm.trans ignored)

end SiteAtlas
