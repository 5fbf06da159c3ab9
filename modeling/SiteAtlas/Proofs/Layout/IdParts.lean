import SiteAtlas.Project.Layout
import SiteAtlas.Proofs.Layout.DependencyBoxes
import SiteAtlas.Proofs.Layout.Shown
import SiteAtlas.Proofs.Success
import SiteAtlas.Proofs.Text.Words

/-! # Reading ids

An id is put together from parts: the id of a folder, behind a colon the place of a file in it, and
behind that the id of a dependency. No folder's id has a colon and no number has a dash, so that an
id can be taken apart again, whatever the names and the ids of dependencies are. So boxes of
different kinds never share an id.
-/

namespace SiteAtlas

namespace NodeId

/-- The parts that the id of a placed box is put together from. -/
inductive Parts where
  | folder (folderId : String)
  | file (folderId : String) (index : Nat)
  | dependency (folderId : String) (index : Nat) (dependencyId : String)

namespace Parts

/-- The id of the folder that is placed or that the file lies in. -/
def folderId : Parts → String
  | folder folderId => folderId
  | file folderId _ => folderId
  | dependency folderId _ _ => folderId

/-- The id that the parts make. -/
def id : Parts → String
  | folder folderId => folderId
  | file folderId index => NodeId.file folderId index
  | dependency folderId index dependencyId =>
    NodeId.dependency (NodeId.file folderId index) dependencyId

/-- The kind of box that has such an id. -/
def kind : Parts → String
  | folder _ => "folder"
  | file .. => "file"
  | dependency .. => "dependency"

/-! ## Taking ids apart -/

/-- What the text behind a number says: nothing for a file, else the id of a dependency of it. -/
def readTail (folderId : String) (index : Nat) : List Char → Parts
  | [] => file folderId index
  | tail => dependency folderId index (String.ofList (tail.drop "-dep-".length))

/-- The parts that stand behind the colon: a number and what follows it. -/
def readNumbered (folderId : String) (text : List Char) : Parts :=
  let numbered := text.drop "file-".length
  readTail folderId (Nat.ofDigitChars 10 (numbered.takeWhile Char.isDigit) 0)
    (numbered.dropWhile Char.isDigit)

/-- The parts of an id. -/
def read (id : String) : Parts :=
  match id.toList.dropWhile (· != ':') with
  | [] => folder id
  | _ :: text => readNumbered (String.ofList (id.toList.takeWhile (· != ':'))) text

section Read

variable {folderId : String} (free : ':' ∉ folderId.toList)
include free

theorem ne_colon_of_mem : ∀ c ∈ folderId.toList, (c != ':') = true := by
  intro c member
  rw [bne_iff_ne]
  rintro rfl
  exact free member

theorem read_folder : read folderId = folder folderId := by
  have none : folderId.toList.dropWhile (· != ':') = [] :=
    List.dropWhile_eq_nil_iff.mpr (ne_colon_of_mem free)
  rw [read, none]

/-- An id is cut at its first colon. -/
theorem read_of_colon {id : String} {text : List Char}
    (spelled : id.toList = folderId.toList ++ ':' :: text) :
    read id = readNumbered folderId text := by
  have halts : Text.Halts (· != ':') (':' :: text) := Text.halts_cons.mpr (by decide)
  rw [read, spelled, Text.dropWhile_append_of_halts (ne_colon_of_mem free) halts,
    Text.takeWhile_append_of_halts (ne_colon_of_mem free) halts, String.ofList_toList]

end Read

/-- A number is read up to the first character that is no digit. -/
theorem readNumbered_eq (folderId : String) (index : Nat) {tail : List Char}
    (halts : Text.Halts Char.isDigit tail) :
    readNumbered folderId (("file-" ++ toString index).toList ++ tail) =
      readTail folderId index tail := by
  have digits : ∀ c ∈ Nat.toDigits 10 index, c.isDigit = true := fun c member =>
    Nat.isDigit_of_mem_toDigits (by decide) (by decide) member
  have number : (toString index).toList = Nat.toDigits 10 index := by
    rw [Nat.toString_eq_ofList_toDigits, String.toList_ofList]
  have behind : (("file-" ++ toString index).toList ++ tail).drop "file-".length =
      Nat.toDigits 10 index ++ tail := by
    rw [String.toList_append, number, List.append_assoc]
    rfl
  rw [readNumbered, behind, Text.takeWhile_append_of_halts digits halts,
    Text.dropWhile_append_of_halts digits halts, Nat.ofDigitChars_ten_toDigits]

/-- Reading an id gives back its parts. -/
theorem read_id {parts : Parts} (free : ':' ∉ parts.folderId.toList) :
    read parts.id = parts := by
  cases parts with
  | folder folderId => exact read_folder free
  | file folderId index =>
    rw [id, read_of_colon free (toList_file folderId index)]
    have numbered := readNumbered_eq folderId index Text.halts_nil
    rwa [List.append_nil] at numbered
  | dependency folderId index dependencyId =>
    have spelled : (NodeId.dependency (NodeId.file folderId index) dependencyId).toList =
        folderId.toList ++ ':' :: (("file-" ++ toString index).toList ++
          "-dep-".toList ++ dependencyId.toList) := by
      rw [NodeId.dependency, String.toList_append, String.toList_append, toList_file]
      simp only [List.append_assoc, List.cons_append]
    rw [id, read_of_colon free spelled, List.append_assoc]
    refine (readNumbered_eq folderId index (Text.halts_cons.mpr (by decide))).trans ?_
    change dependency folderId index (String.ofList dependencyId.toList) = _
    rw [String.ofList_toList]

/-- Different parts never make the same id. -/
theorem id_inj (parts parts' : Parts) (free : ':' ∉ parts.folderId.toList)
    (free' : ':' ∉ parts'.folderId.toList) : parts.id = parts'.id ↔ parts = parts' := by
  constructor
  · intro same
    rw [← read_id free, same, read_id free']
  · rintro rfl
    rfl

end Parts

/-! ## Ids of files and dependencies -/

/-- The id of a dependency says which file has it and which dependency it is. -/
theorem dependency_eq_iff {p q : List String} {i j : Nat} {d d' : String} :
    dependency (file (folder p) i) d = dependency (file (folder q) j) d' ↔
      file (folder p) i = file (folder q) j ∧ d = d' := by
  have parts := Parts.id_inj (.dependency (folder p) i d) (.dependency (folder q) j d')
    (colon_notMem_folder p) (colon_notMem_folder q)
  rw [Parts.dependency.injEq] at parts
  rw [file_eq_iff, and_assoc]
  exact parts

theorem dependency_ne_folder {p q : List String} {i : Nat} {d : String} :
    dependency (file (folder p) i) d ≠ folder q := by
  intro same
  have parts := (Parts.id_inj (.dependency (folder p) i d) (.folder (folder q))
    (colon_notMem_folder p) (colon_notMem_folder q)).mp same
  cases parts

theorem dependency_ne_file {p q : List String} {i j : Nat} {d : String} :
    dependency (file (folder p) i) d ≠ file (folder q) j := by
  intro same
  have parts := (Parts.id_inj (.dependency (folder p) i d) (.file (folder q) j)
    (colon_notMem_folder p) (colon_notMem_folder q)).mp same
  cases parts

end NodeId

/-! ## The kinds of placed boxes -/

/-- A box is named by parts: it has their id and is of their kind, and they begin with the id of
a folder. -/
structure Node.IsNamed {α : Type} (n : Node α) (parts : NodeId.Parts) : Prop where
  id : n.id = parts.id
  kind : n.kind = parts.kind
  folder : ∃ names, parts.folderId = NodeId.folder names

section Kinds

variable {α : Type} {n m : Node α} {parts parts' : NodeId.Parts}

theorem Node.IsNamed.free (named : n.IsNamed parts) : ':' ∉ parts.folderId.toList := by
  obtain ⟨names, isFolder⟩ := named.folder
  rw [isFolder]
  exact NodeId.colon_notMem_folder names

/-- Boxes with the same id are of the same kind. -/
theorem Node.IsNamed.kind_eq (named : n.IsNamed parts) (named' : m.IsNamed parts')
    (same : n.id = m.id) : n.kind = m.kind := by
  have ids : parts.id = parts'.id := by
    rw [← named.id, same, named'.id]
  have sameParts := (NodeId.Parts.id_inj parts parts' named.free named'.free).mp ids
  rw [named.kind, sameParts, named'.kind]

/-- The id that some file has. -/
def NodeId.IsFileId (id : String) : Prop := ∃ names index, id = file (folder names) index

theorem Node.IsNamed.isFileId (named : n.IsNamed parts) (isFile : n.kind = "file") :
    NodeId.IsFileId n.id := by
  have kind : parts.kind = "file" := named.kind.symm.trans isFile
  obtain ⟨names, isFolder⟩ := named.folder
  cases parts with
  | folder folderId => simp [NodeId.Parts.kind] at kind
  | dependency folderId index dependencyId => simp [NodeId.Parts.kind] at kind
  | file folderId index =>
    obtain rfl : folderId = NodeId.folder names := isFolder
    exact ⟨names, index, named.id⟩

end Kinds

namespace TreeLayout

variable {α : Type} [Scalar α] {s : TreeSpacing α} {n : Node α}

/-- Every box of a tree's layout is named as a folder or as a file. -/
theorem exists_isNamed_of_mem_layout {expanded : List String} {tree : StructureNode}
    (member : n ∈ (layout s expanded tree).nodes) : ∃ parts, n.IsNamed parts := by
  have isFace : face n ∈ (layout s expanded tree).nodes.map face := List.mem_map_of_mem member
  rw [faces_layout] at isFace
  obtain ⟨o, -, label⟩ := List.mem_map.mp isFace
  unfold Occurrence.label at label
  cases address : o.address with
  | folder names =>
    rw [address] at label
    exact ⟨.folder (NodeId.folder names), {
      id := (congrArg Prod.fst label).symm
      kind := (congrArg (·.2.1) label).symm
      folder := ⟨names, rfl⟩ }⟩
  | file names index =>
    rw [address] at label
    exact ⟨.file (NodeId.folder names) index, {
      id := (congrArg Prod.fst label).symm
      kind := (congrArg (·.2.1) label).symm
      folder := ⟨names, rfl⟩ }⟩

/-- The box of a dependency is named as such where results are under the ids of files. -/
theorem exists_isNamed_of_mem_layoutResults {base : List (Node α)}
    {results : FileMap DependencyResult} (files : ∀ id ∈ results.keys, NodeId.IsFileId id)
    (member : n ∈ (layoutResults s base results).nodes) : ∃ parts, n.IsNamed parts := by
  obtain ⟨row, isRow, e, depicts⟩ := (drawn_layoutResults s base results).exists_depicts member
  obtain ⟨result, isResult, inResult⟩ := List.mem_flatMap.mp isRow
  obtain ⟨d, -, rfl⟩ := List.mem_map.mp inResult
  have known : result.1 ∈ results.keys := by
    have kept := results.perm_sortedEntries.mem_iff.mp (List.mem_of_mem_filter isResult)
    exact List.mem_map_of_mem kept
  obtain ⟨names, index, isFile⟩ := files result.1 known
  refine ⟨.dependency (NodeId.folder names) index d.nodeId, ?_, depicts.kind, names, rfl⟩
  rw [depicts.id, isFile]
  rfl

/-- Whichever files have results, boxes with the same id are of the same kind. -/
theorem kind_eq_of_id_eq (s : TreeSpacing α) (expanded : List String) (tree : StructureNode)
    (base : List (Node α)) {results : FileMap DependencyResult}
    (files : ∀ id ∈ results.keys, NodeId.IsFileId id) :
    let nodes := (layout s expanded tree).nodes ++ (layoutResults s base results).nodes
    ∀ n ∈ nodes, ∀ m ∈ nodes, n.id = m.id → n.kind = m.kind := by
  intro nodes
  have names : ∀ n ∈ nodes, ∃ parts, n.IsNamed parts := by
    intro n member
    rcases List.mem_append.mp member with member | member
    · exact exists_isNamed_of_mem_layout member
    · exact exists_isNamed_of_mem_layoutResults files member
  intro n member m member' same
  obtain ⟨parts, named⟩ := names n member
  obtain ⟨parts', named'⟩ := names m member'
  exact named.kind_eq named' same

end TreeLayout

/-! ## Projects -/

section Projects

variable {α : Type}

/-- Only boxes of files stand for scripts. -/
theorem Node.kind_of_script? {n : Node α} {path : Path} (isScript : n.script? = some path) :
    n.kind = "file" := by
  unfold script? at isScript
  split at isScript
  · assumption
  · cases isScript

/-- What is shown is under the ids of boxes of files. -/
theorem Resolver.exists_file_of_mem_shownDependencies {r : Resolver} {nodes : List (Node α)}
    {shown : FileMap DependencyResult} (success : r.shownDependencies nodes = .ok shown) :
    ∀ id ∈ shown.keys, ∃ n ∈ nodes, n.kind = "file" ∧ n.id = id := by
  -- Each box that stands for a script puts its own id, whatever was put before.
  induction nodes using List.reverseRecOn generalizing shown with
  | nil =>
    cases success
    exact nofun
  | append_singleton nodes n ih =>
    rw [shownDependencies, List.foldlM_append] at success
    obtain ⟨before, successBefore, step⟩ := bind_eq_ok_iff.mp success
    rw [List.foldlM_cons] at step
    obtain ⟨after, last, made⟩ := bind_eq_ok_iff.mp step
    obtain rfl := Except.ok.inj made
    have old (id : String) (member : id ∈ before.keys) :
        ∃ n' ∈ nodes ++ [n], n'.kind = "file" ∧ n'.id = id := by
      obtain ⟨n', isNode, isFile⟩ := ih successBefore id member
      exact ⟨n', List.mem_append_left _ isNode, isFile⟩
    intro id member
    cases isScript : n.script? with
    | none =>
      rw [isScript] at last
      obtain rfl := Except.ok.inj last
      exact old id member
    | some path =>
      rw [isScript] at last
      obtain ⟨result, -, rfl⟩ := map_eq_ok_iff.mp last
      obtain ⟨row, isRow, rfl⟩ := List.mem_map.mp member
      rcases FileMap.mem_put_iff.mp isRow with rfl | ⟨isRow, -⟩
      · exact ⟨n, List.mem_append_right _ List.mem_cons_self, n.kind_of_script? isScript, rfl⟩
      · exact old _ (List.mem_map_of_mem isRow)

theorem Resolver.isFileId_of_mem_shownDependencies [Scalar α] {r : Resolver} {s : TreeSpacing α}
    {expanded : List String} {tree : StructureNode} {shown : FileMap DependencyResult}
    (success : r.shownDependencies (TreeLayout.layout s expanded tree).nodes = .ok shown) :
    ∀ id ∈ shown.keys, NodeId.IsFileId id := by
  intro id member
  obtain ⟨n, isNode, isFile, rfl⟩ := exists_file_of_mem_shownDependencies success id member
  obtain ⟨parts, named⟩ := TreeLayout.exists_isNamed_of_mem_layout isNode
  exact named.isFileId isFile

end Projects

namespace TreeLayout

variable {α : Type} [Scalar α]

/-- Ids of different kinds are never the same. The id of a folder has letters, digits and dashes
only, and the id of a file in it says the id of the folder and the place of the file. The id of a
dependency says the id of its file and its own. So in every layout with dependencies of files, and
in every layout of a project, boxes with the same id are of the same kind. -/
theorem ids_apart_by_kind (s : TreeSpacing α) (expanded : List String) (tree : StructureNode) :
    (∀ names, ∀ c ∈ (NodeId.folder names).toList, c.isAlphanum = true ∨ c = '-') ∧
      (∀ names names' i, NodeId.file (NodeId.folder names) i ≠ NodeId.folder names') ∧
      (∀ names names' i j, NodeId.file (NodeId.folder names) i =
        NodeId.file (NodeId.folder names') j ↔
          NodeId.folder names = NodeId.folder names' ∧ i = j) ∧
      (∀ names names' i d, NodeId.dependency (NodeId.file (NodeId.folder names) i) d ≠
        NodeId.folder names') ∧
      (∀ names names' i j d, NodeId.dependency (NodeId.file (NodeId.folder names) i) d ≠
        NodeId.file (NodeId.folder names') j) ∧
      (∀ names names' i j d d', NodeId.dependency (NodeId.file (NodeId.folder names) i) d =
        NodeId.dependency (NodeId.file (NodeId.folder names') j) d' ↔
          NodeId.file (NodeId.folder names) i = NodeId.file (NodeId.folder names') j ∧ d = d') ∧
      (∀ results : FileMap DependencyResult, (∀ id ∈ results.keys, NodeId.IsFileId id) →
        let base := (layout s expanded tree).nodes
        let nodes := base ++ (layoutResults s base results).nodes
        ∀ n ∈ nodes, ∀ m ∈ nodes, n.id = m.id → n.kind = m.kind) ∧
      ∀ (p : Project) (expandedOf : StructureNode → List String) (dependencies : Bool) g,
        p.layout s expandedOf dependencies = .ok g →
          ∀ n ∈ g.nodes, ∀ m ∈ g.nodes, n.id = m.id → n.kind = m.kind := by
  refine ⟨fun names c => NodeId.mem_folder, fun names names' i => NodeId.file_ne_folder _ i names',
    fun names names' i j => NodeId.file_eq_iff, fun names names' i d => NodeId.dependency_ne_folder,
    fun names names' i j d => NodeId.dependency_ne_file,
    fun names names' i j d d' => NodeId.dependency_eq_iff, ?_, ?_⟩
  · intro results files
    exact kind_eq_of_id_eq s expanded tree _ files
  · intro p expandedOf dependencies g placed
    cases dependencies with
    | true =>
      obtain ⟨shown, success, rfl⟩ := map_eq_ok_iff.mp placed
      exact kind_eq_of_id_eq s (expandedOf p.tree) p.tree _
        (Resolver.isFileId_of_mem_shownDependencies success)
    | false =>
      -- Without dependencies there are fewer boxes.
      obtain rfl := Except.ok.inj placed
      have none : ∀ id ∈ (FileMap.empty (β := DependencyResult)).keys, NodeId.IsFileId id := nofun
      intro n member m member'
      exact kind_eq_of_id_eq s (expandedOf p.tree) p.tree [] none
        n (List.mem_append_left _ member) m (List.mem_append_left _ member')

/-- A script at the root of a project. -/
def oneScript : StructureNode :=
  .folder { name := "site", fullPath := "/site", relativePath := "site" } none
    [.file { name := "a.js", fullPath := "/site/a.js", relativePath := "a.js" } none]

/-- Dependencies of the script whose own ids look like those of a file and of a dependency. -/
def lookalikes : FileMap DependencyResult where
  entries := [("root:file-0", {
    externals := [{ source := "x", nodeId := "root:file-0" },
      { source := "y", nodeId := "root:file-0-dep-root:file-0" }]
    filePath := "/site/a.js" })]
  distinct := List.nodup_singleton _

/-- The four boxes have ids that begin with one another, and yet their kinds are told apart. -/
theorem kinds_apart_in_oneScript :
    let base := (layout (α := Rat) .standard ["root"] oneScript).nodes
    let nodes := base ++ (layoutResults .standard base lookalikes).nodes
    nodes.map (fun n => (n.id, n.kind)) =
      [("root", "folder"), ("root:file-0", "file"),
        ("root:file-0-dep-root:file-0", "dependency"),
        ("root:file-0-dep-root:file-0-dep-root:file-0", "dependency")] ∧
      (∀ id ∈ lookalikes.keys, NodeId.IsFileId id) ∧
      ∀ n ∈ nodes, ∀ m ∈ nodes, n.id = m.id → n.kind = m.kind := by
  have isFile : ∀ id ∈ lookalikes.keys, NodeId.IsFileId id := by
    intro id member
    obtain rfl := List.mem_singleton.mp member
    exact ⟨[], 0, by decide +kernel⟩
  have sorted : (lookalikes.mapEntries fun _ result => result.all).sortedEntries =
      (lookalikes.mapEntries fun _ result => result.all).entries :=
    List.mergeSort_of_pairwise (List.pairwise_singleton _ _)
  obtain ⟨-, -, -, -, -, -, apart, -⟩ := ids_apart_by_kind (α := Rat) .standard ["root"] oneScript
  refine ⟨?_, isFile, apart lookalikes isFile⟩
  rw [layoutResults_eq, grown, sorted]
  decide +kernel

end TreeLayout

end SiteAtlas
