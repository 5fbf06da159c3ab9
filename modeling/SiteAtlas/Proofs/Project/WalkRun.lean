import SiteAtlas.Proofs.Project.WalkedTree
import SiteAtlas.Proofs.Success

/-! # The run of a walk

A walk asks of everything it comes to and that is no folder whether it is a file. If it has an
answer for each link, its tree shows what is kept, and its scripts are those of the tree. In which
order folders list their entries makes no difference to the tree, and to the scripts none but in
their own order.
-/

namespace SiteAtlas

theorem FileSystem.hasFile_eq_isFile? (fs : FileSystem) (p : Path) :
    fs.hasFile p = ((fs.isFile? p).toOption == some true) := by
  rw [hasFile, isFile?]
  cases fs.lookup p with
  | ok node => cases isFile : node.isFile <;> simp [Except.toOption, isFile]
  | error error => cases error <;> rfl

namespace Walk

section Answers

variable {w : Walk} {root path : Path} {relative : String} {names : List String}
  {node : FileNode}

theorem leavesIn_eq_flatMap (w : Walk) (path : Path) (relative : String)
    (entries : List (String × FileNode)) : w.leavesIn path relative entries =
      entries.flatMap fun e => w.leaves (path.child e.1) (childPath relative e.1) e.2 := by
  induction entries with
  | nil => rw [leavesIn, List.flatMap_nil]
  | cons e rest ih => rw [leavesIn, ih, List.flatMap_cons]

/-- The answer whether an entry is a file. -/
def answer (w : Walk) (path : Path) : FileNode → Except FileError Bool
  | .link _ => w.files.isFile? path
  | node => .ok node.isFile

theorem leaves_eq (w : Walk) (path : Path) (relative : String) (node : FileNode) :
    w.leaves path relative node = if w.isIgnored relative node.isFolder then []
      else if node.isFolder then w.leavesIn path relative node.entries
      else [(path, w.answer path node)] := by
  cases node with
  | file content => rw [leaves]; rfl
  | link target => rw [leaves]; rfl
  | folder entries => rw [leaves]; rfl

variable (w root) in
/-- A walk asks of all that is kept and is no folder whether it is a file. -/
theorem leavesIn_eq_kept (proper : node.isProper = true)
    (parts : ∀ name ∈ names, Path.IsPart name) :
    w.leavesIn (root.descend names) (relativeOf names) node.entries =
      ((w.keptIn names node.entries).filter fun row => !row.2.isFolder).map fun row =>
        (root.descend row.1, w.answer (root.descend row.1) row.2) := by
  induction node using FileNode.induction_entries generalizing names with
  | step node ih =>
    rw [leavesIn_eq_flatMap, keptIn_eq_flatMap, List.filter_flatMap, List.map_flatMap]
    refine List.flatMap_congr fun e isEntry => ?_
    obtain ⟨isPart, inside⟩ := (FileNode.isProper_iff.mp proper).2 e isEntry
    have parts' := Path.forall_isPart_concat parts isPart
    rw [Path.child_descend, childPath_relativeOf parts, leaves_eq, kept_eq]
    split
    · rfl
    · split
      next isFolder =>
        rw [ih e isEntry inside parts', List.filter_cons_of_neg (by simpa using isFolder)]
      next notFolder =>
        have empty : e.2.entries = [] := by
          cases isThis : e.2 with
          | folder entries => exact absurd (isThis ▸ rfl) notFolder
          | file content => rfl
          | link target => rfl
        rw [empty, keptIn, List.filter_cons_of_pos (by simpa using notFolder), List.filter_nil]
        rfl

/-- The files among some leaves are found if there is an answer for each leaf. -/
theorem filesAmong_eq_ok_iff {leaves : List (Path × Except FileError Bool)} {files : List Path} :
    filesAmong leaves = .ok files ↔ (∀ leaf ∈ leaves, ∃ answer, leaf.2 = .ok answer) ∧
      files = (leaves.filter fun leaf => leaf.2.toOption == some true).map Prod.fst := by
  induction leaves generalizing files with
  | nil => simp [filesAmong, eq_comm]
  | cons leaf rest ih =>
    obtain ⟨path, error | isFile⟩ := leaf
    · simp [filesAmong]
    · rw [filesAmong, map_eq_ok_iff, List.forall_mem_cons]
      constructor
      · rintro ⟨others, found, rfl⟩
        obtain ⟨answered, rfl⟩ := ih.mp found
        refine ⟨⟨⟨isFile, rfl⟩, answered⟩, ?_⟩
        cases isFile <;> rfl
      · rintro ⟨⟨-, answered⟩, rfl⟩
        refine ⟨_, ih.mpr ⟨answered, rfl⟩, ?_⟩
        cases isFile <;> rfl

/-- What is kept and is no folder is shown if it is answered to be a file. -/
theorem shownAsFolder?_eq_answer (notFolder : node.isFolder = false) :
    (w.shownAsFolder? path node == some false) = ((w.answer path node).toOption == some true) := by
  cases node with
  | folder entries => cases notFolder
  | file content => rfl
  | link target =>
    rw [shownAsFolder?, answer, ← FileSystem.hasFile_eq_isFile?]
    cases w.files.hasFile path <;> rfl

/-- The paths of the files that are shown. -/
def filePaths (w : Walk) (root : Path) (listing : FileNode) : List Path :=
  ((w.keptIn [] listing.entries).filter fun row =>
    w.shownAsFolder? (root.descend row.1) row.2 == some false).map fun row => root.descend row.1

variable {listing : FileNode} (proper : listing.isProper = true)
include proper

theorem leavesIn_root : w.leavesIn root "" listing.entries =
    ((w.keptIn [] listing.entries).filter fun row => !row.2.isFolder).map fun row =>
      (root.descend row.1, w.answer (root.descend row.1) row.2) := by
  have leaves := leavesIn_eq_kept w root proper (List.forall_mem_nil Path.IsPart)
  rwa [Path.descend_nil] at leaves

/-- There are answers for all if there are answers for the links. -/
theorem answered_iff :
    (∀ leaf ∈ w.leavesIn root "" listing.entries, ∃ answer, leaf.2 = .ok answer) ↔
      ∀ names target, w.Keeps listing names (.link target) →
        ∃ answer, w.files.isFile? (root.descend names) = .ok answer := by
  rw [leavesIn_root proper]
  constructor
  · intro all names target keeps
    have member := (mem_keptIn_iff_keeps proper).mpr keeps
    exact all _ (List.mem_map_of_mem (List.mem_filter.mpr ⟨member, rfl⟩))
  · intro all leaf member
    obtain ⟨⟨names, node⟩, isKept, rfl⟩ := List.mem_map.mp member
    cases node with
    | file content => exact ⟨true, rfl⟩
    | folder entries => exact ⟨false, rfl⟩
    | link target =>
      exact all names target ((mem_keptIn_iff_keeps proper).mp (List.mem_filter.mp isKept).1)

theorem files_of_leavesIn : ((w.leavesIn root "" listing.entries).filter fun leaf =>
    leaf.2.toOption == some true).map Prod.fst = w.filePaths root listing := by
  rw [leavesIn_root proper, List.filter_map, List.filter_filter, List.map_map, filePaths]
  congr 1
  refine List.filter_congr fun row _ => ?_
  obtain ⟨names, node⟩ := row
  cases isFolder : node.isFolder with
  | false => simp [shownAsFolder?_eq_answer isFolder]
  | true =>
    cases node with
    | folder entries => rfl
    | file content => cases isFolder
    | link target => cases isFolder

theorem run?_eq_ok_iff {tree : StructureNode} {scripts : List Path} :
    w.run? root listing = .ok (tree, scripts) ↔
      (∀ names target, w.Keeps listing names (.link target) →
        ∃ answer, w.files.isFile? (root.descend names) = .ok answer) ∧
      tree = w.build root listing ∧
      scripts = (w.filePaths root listing).filter Path.isScript := by
  rw [run?, map_eq_ok_iff, ← answered_iff proper, ← files_of_leavesIn proper]
  constructor
  · rintro ⟨files, found, result⟩
    obtain ⟨answered, rfl⟩ := filesAmong_eq_ok_iff.mp found
    cases result
    exact ⟨answered, rfl, rfl⟩
  · rintro ⟨answered, rfl, rfl⟩
    exact ⟨_, filesAmong_eq_ok_iff.mpr ⟨answered, rfl⟩, rfl⟩

/-- The files that are shown are those of the tree. -/
theorem perm_filePaths (rootProper : root.Proper) : (w.filePaths root listing).Perm
    (((w.build root listing).nodes.filter fun node => !node.isFolder).map fun node =>
      Path.ofString node.entry.fullPath) := by
  have read (rows : List (List String × FileNode))
      (parts : ∀ row ∈ rows, ∀ name ∈ row.1, Path.IsPart name) :
      (((rows.filterMap (w.place? root)).filter fun place => !place.2.2).map fun place =>
        Path.ofString place.2.1) =
      (rows.filter fun row => w.shownAsFolder? (root.descend row.1) row.2 == some false).map
        fun row => root.descend row.1 := by
    induction rows with
    | nil => rfl
    | cons row rest ih =>
      obtain ⟨own, others⟩ := List.forall_mem_cons.mp parts
      have back : Path.ofString (root.descend row.1).toString = root.descend row.1 :=
        (rootProper.descend own).ofString_toString
      have behind := ih others
      cases shownAs : w.shownAsFolder? (root.descend row.1) row.2 with
      | none => simpa [place?, shownAs] using behind
      | some isFolder => cases isFolder <;> simpa [place?, shownAs, back] using behind
  have places := ((perm_places_build w root proper).filter
    fun place => !place.2.2).map fun place => Path.ofString place.2.1
  rw [read _ (parts_of_mem_keptIn proper), List.filter_map, List.map_map] at places
  rw [StructureNode.nodes_eq_cons]
  exact places.symm

/-- The scripts that a walk comes to are those of its tree. -/
theorem perm_scripts (rootProper : root.Proper) :
    ((w.filePaths root listing).filter Path.isScript).Perm (w.build root listing).scripts :=
  (perm_filePaths proper rootProper).filter Path.isScript

end Answers

/-! ## Folders that list their entries in another order -/

section Reordering

open FileNode

variable {w : Walk} {path : Path} {relative : String} {route : Option String}
  {node node' : FileNode}

/-- A folder shows nothing of the order in which it and those below it list their entries. -/
theorem folderAt_reordered (moved : Reordered node node') (proper : node.isProper = true) :
    w.folderAt path relative node = w.folderAt path relative node' := by
  induction moved generalizing path relative with
  | refl node => rfl
  | @swap entries entries' perm =>
    rw [folderAt, folderAt, folderNode, folderNode, mergeSort_eq_of_perm _
      (nodup_names_children proper)]
    rw [children_eq_flatMap, children_eq_flatMap]
    exact perm.flatMap_right _
  | @inside before after name node node' moved ih =>
    obtain ⟨-, nodeProper⟩ := (isProper_iff.mp proper).2 (name, node) (by simp [FileNode.entries])
    have entry (route : Option String) : w.node? (path.child name) (childPath relative name) route
        node = w.node? (path.child name) (childPath relative name) route node' := by
      rcases moved.cases with rfl | ⟨entries, entries', rfl, rfl⟩
      · rfl
      · rw [node?_eq, node?_eq, ih nodeProper]
        rfl
    rw [folderAt, folderAt, children_eq_flatMap, children_eq_flatMap]
    simp only [FileNode.entries, List.flatMap_append, List.flatMap_cons, entry]
  | trans first _ ih ih' => exact (ih proper).trans (ih' (first.isProper proper))

/-- A walk comes to the same leaves in whatever order folders list their entries. -/
theorem perm_leavesIn (moved : Reordered node node') :
    (w.leavesIn path relative node.entries).Perm (w.leavesIn path relative node'.entries) := by
  induction moved generalizing path relative with
  | refl node => exact List.Perm.refl _
  | swap perm =>
    rw [leavesIn_eq_flatMap, leavesIn_eq_flatMap]
    exact perm.flatMap_right _
  | @inside before after name node node' moved ih =>
    have entry : (w.leaves (path.child name) (childPath relative name) node).Perm
        (w.leaves (path.child name) (childPath relative name) node') := by
      rcases moved.cases with rfl | ⟨entries, entries', rfl, rfl⟩
      · exact List.Perm.refl _
      · rw [leaves, leaves]
        split
        · exact List.Perm.refl _
        · exact ih
    simp only [leavesIn_eq_flatMap, FileNode.entries, List.flatMap_append, List.flatMap_cons]
    exact (entry.append_right _).append_left _
  | trans _ _ ih ih' => exact ih.trans ih'

variable {files' : FileSystem} (same : Reordered w.files.root files'.root)
  (proper : w.files.root.isProper = true)
include same proper

/-- What is shown of a folder does not depend on the order in which others list their entries. -/
theorem folderAt_files : folderAt { w with files := files' } path relative node =
    w.folderAt path relative node := by
  have text (path : Path) : routeText? { w with files := files' } path = w.routeText? path := by
    rw [routeText?, routeText?, ← FileSystem.content_reordered same proper]
  have file (path : Path) (relative : String) (route : Option String) :
      fileNode { w with files := files' } path relative route = w.fileNode path relative route := by
    rw [fileNode, fileNode, text]
  induction node using FileNode.induction_entries generalizing path relative with
  | step node ih =>
    have entry (e : String × FileNode) (isEntry : e ∈ node.entries) (route : Option String) :
        node? { w with files := files' } (path.child e.1) (childPath relative e.1) route e.2 =
          w.node? (path.child e.1) (childPath relative e.1) route e.2 := by
      rw [node?_eq, node?_eq, ih e isEntry, file]
      cases e.2 with
      | file content => rfl
      | folder entries => rfl
      | link target =>
        have shape := FileSystem.sameShape_reordered same proper
        rw [shownAsFolder?, shownAsFolder?, FileSystem.hasFile_congr shape]
    have contents (route : Option String) :
        children { w with files := files' } path relative route node.entries =
          w.children path relative route node.entries := by
      rw [children_eq_flatMap, children_eq_flatMap]
      exact List.flatMap_congr fun e isEntry => congrArg Option.toList (entry e isEntry route)
    rw [folderAt, folderAt, contents]
    rfl

theorem leavesIn_files : leavesIn { w with files := files' } path relative node.entries =
    w.leavesIn path relative node.entries := by
  induction node using FileNode.induction_entries generalizing path relative with
  | step node ih =>
    rw [leavesIn_eq_flatMap, leavesIn_eq_flatMap]
    refine List.flatMap_congr fun e isEntry => ?_
    rw [leaves_eq, leaves_eq, ih e isEntry]
    cases e.2 with
    | file content => rfl
    | folder entries => rfl
    | link target =>
      have shape := FileSystem.sameShape_reordered same proper
      rw [answer, answer, FileSystem.isFile?_congr shape]

/-- A walk ends in the same way in whatever order folders list their entries. -/
theorem run?_reordered {root : Path} {listing listing' : FileNode} {tree : StructureNode}
    {scripts : List Path} (found : w.files.lookup root = .ok listing)
    (found' : files'.lookup root = .ok listing')
    (success : w.run? root listing = .ok (tree, scripts)) :
    ∃ scripts', run? { w with files := files' } root listing' = .ok (tree, scripts') ∧
      scripts'.Perm scripts := by
  obtain ⟨listing'', isThere, moved⟩ := FileSystem.exists_lookup same proper found
  obtain rfl : listing' = listing'' := Except.ok.inj (found'.symm.trans isThere)
  obtain ⟨files, among, result⟩ := map_eq_ok_iff.mp success
  obtain ⟨answered, rfl⟩ := filesAmong_eq_ok_iff.mp among
  cases result
  have leaves : (leavesIn { w with files := files' } root "" listing'.entries).Perm
      (w.leavesIn root "" listing.entries) := by
    rw [leavesIn_files same proper]
    exact (perm_leavesIn moved).symm
  have sameTree : build { w with files := files' } root listing' = w.build root listing := by
    rw [build_eq_folderAt, build_eq_folderAt, folderAt_files same proper,
      folderAt_reordered moved (FileSystem.isProper_of_lookup proper found)]
  have among' := filesAmong_eq_ok_iff.mpr
    ⟨fun leaf member => answered leaf (leaves.mem_iff.mp member), rfl⟩
  refine ⟨_, map_eq_ok_iff.mpr ⟨_, among', congrArg (·, _) sameTree⟩, ?_⟩
  exact ((leaves.filter _).map Prod.fst).filter Path.isScript

end Reordering

/-- A walk over a folder ends with a tree unless a link that it comes to leads round in a circle or
through a file. Below its root the tree has one node for each folder and each file that is kept, at
its place, and the contents of each folder are in strict order; no link to a folder is gone into.
The scripts are those of the tree. In whatever order folders list their entries, the tree is the
same, and the scripts are the same but for their order. -/
theorem run?_shows_kept (w : Walk) {root : Path} {listing : FileNode} (rootProper : root.Proper)
    (proper : w.files.root.isProper = true) (found : w.files.lookup root = .ok listing) :
    ((∃ result, w.run? root listing = .ok result) ↔
      ∀ names target, w.Keeps listing names (.link target) →
        ∃ answer, w.files.isFile? (root.descend names) = .ok answer) ∧
    ∀ tree scripts, w.run? root listing = .ok (tree, scripts) →
      w.Shows root listing tree ∧ scripts.Perm tree.scripts ∧
        ∀ files' listing', FileNode.Reordered w.files.root files'.root →
          files'.lookup root = .ok listing' →
          ∃ scripts', run? { w with files := files' } root listing' = .ok (tree, scripts') ∧
            scripts'.Perm scripts := by
  have inside := FileSystem.isProper_of_lookup proper found
  constructor
  · constructor
    · rintro ⟨⟨tree, scripts⟩, success⟩
      exact ((run?_eq_ok_iff inside).mp success).1
    · intro answered
      exact ⟨_, (run?_eq_ok_iff inside).mpr ⟨answered, rfl, rfl⟩⟩
  · intro tree scripts success
    have whole := success
    obtain ⟨-, rfl, rfl⟩ := (run?_eq_ok_iff inside).mp success
    refine ⟨shows_build w root inside, perm_scripts inside rootProper, ?_⟩
    intro files' listing' same found'
    exact run?_reordered same proper found found' whole

/-! ## Two projects with links -/

/-- A project with a folder that is ignored, a link to a folder and a link to a script, and a ring
of links where the walk does not come. -/
def linkedSite : FileNode :=
  .folder [
    ("b.js", .file ⟨#[]⟩), ("A.ts", .link "lib/util.ts"), ("all", .link "lib"),
    ("lib", .folder [("util.ts", .file ⟨#[]⟩)]),
    ("old", .folder [("keep.js", .file ⟨#[]⟩), ("ring", .link "ring")])]

/-- A walk that leaves out the folder `old`. -/
def linkedWalk : Walk :=
  { files := ⟨.folder [("site", linkedSite)]⟩, routerRoot := "app"
    isIgnored := fun relative _ => relative == "old" }

theorem run?_of_linkedWalk : linkedWalk.files.lookup ⟨1, ["site"]⟩ = .ok linkedSite ∧
    ∃ tree scripts, linkedWalk.run? ⟨1, ["site"]⟩ linkedSite = .ok (tree, scripts) ∧
      linkedWalk.Shows ⟨1, ["site"]⟩ linkedSite tree ∧ scripts.Perm tree.scripts ∧
      ((StructureNode.nodesOf tree.children).map StructureNode.place).Perm
        [("b.js", "/site/b.js", false), ("A.ts", "/site/A.ts", false), ("lib", "/site/lib", true),
          ("lib/util.ts", "/site/lib/util.ts", false)] := by
  have root : Path.Proper ⟨1, ["site"]⟩ :=
    ⟨by decide, List.forall_mem_singleton.mpr ⟨by decide, by decide, by decide⟩⟩
  have found : linkedWalk.files.lookup ⟨1, ["site"]⟩ = .ok linkedSite := rfl
  have inside : linkedSite.isProper = true := by decide +kernel
  obtain ⟨-, shows⟩ := run?_shows_kept linkedWalk root (by decide +kernel) found
  have ran : (linkedWalk.run? ⟨1, ["site"]⟩ linkedSite).map (fun _ => ()) = .ok () := by
    decide +kernel
  obtain ⟨⟨tree, scripts⟩, success, -⟩ := map_eq_ok_iff.mp ran
  obtain ⟨shown, perm, -⟩ := shows tree scripts success
  refine ⟨found, tree, scripts, success, shown, perm, ?_⟩
  obtain ⟨-, rfl, -⟩ := (run?_eq_ok_iff inside).mp success
  refine (perm_places_build linkedWalk ⟨1, ["site"]⟩ inside).trans (List.Perm.of_eq ?_)
  decide +kernel

/-- A link that leads to itself stops the walk, although it is no file. -/
theorem run?_stops_at_ring :
    let w : Walk :=
      { files := ⟨.folder [("site", .folder [("a.js", .file ⟨#[]⟩), ("ring", .link "ring")])]⟩
        routerRoot := "app", isIgnored := fun _ _ => false }
    ∃ listing, w.files.root.isProper = true ∧ w.files.lookup ⟨1, ["site"]⟩ = .ok listing ∧
      (w.run? ⟨1, ["site"]⟩ listing).map (fun _ => ()) =
        .error (⟨1, ["site", "ring"]⟩, .linkLoop) := by
  refine ⟨_, by decide +kernel, rfl, by decide +kernel⟩

end Walk

end SiteAtlas
