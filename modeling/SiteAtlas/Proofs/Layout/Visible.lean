import SiteAtlas.Layout.Tree
import SiteAtlas.Proofs.Layout.NodeIds
import SiteAtlas.Proofs.Project.Nodes
import Mathlib.Data.List.Nodup

/-! # The nodes that a layout shows

Which folders and files are placed, and in which order, depends on the tree and the expanded folders
alone. Each one has an address of its own, and the ids of a layout are those of the addresses. Two
of them are the same only where two folders share theirs.
-/

namespace SiteAtlas

namespace StructureNode

/-- In each folder of a tree the contents have different names, and names that entries can have. -/
def WellNamed (tree : StructureNode) : Prop :=
  ∀ node ∈ tree.nodes, (node.children.map name).Nodup ∧
    ∀ child ∈ node.children, NodeId.IsName child.name

instance (tree : StructureNode) : Decidable tree.WellNamed :=
  inferInstanceAs (Decidable (∀ node ∈ tree.nodes, _))

theorem WellNamed.child {tree child : StructureNode} (named : tree.WellNamed)
    (member : child ∈ tree.children) : child.WellNamed := by
  intro node below
  exact named node (mem_nodes_of_mem_children member below)

end StructureNode

namespace TreeLayout

/-- Where a placed node lies in the tree: a folder at the end of a path of names, or a file by its
folder and its number among the files there. -/
inductive Address where
  | folder (names : List String)
  | file (names : List String) (index : Nat)
  deriving DecidableEq

namespace Address

/-- The path of the folder that is or holds the node. -/
def names : Address → List String
  | folder names => names
  | file names _ => names

/-- The path of a folder. -/
def folder? : Address → Option (List String)
  | folder names => some names
  | file .. => none

/-- The id of the node. -/
def id : Address → String
  | folder names => NodeId.folder names
  | file names index => NodeId.file (NodeId.folder names) index

end Address

mutual

/-- The addresses of a node that these names lead to and of all that is visible below it, in the
order in which they are placed. -/
def visible (expanded names : List String) : StructureNode → List Address
  | .folder entry segment children =>
    .folder names :: if expanded.contains (NodeId.folder names) then
      visibleFolders expanded names children ++ (List.range
        (StructureNode.folder entry segment children).files.length).map (.file names)
    else []
  -- Only a root can be a file here; it is placed like a folder without contents.
  | .file .. => [.folder names]

/-- The addresses of the folders among the contents of a folder and of all that is visible below
them. -/
def visibleFolders (expanded names : List String) : List StructureNode → List Address
  | [] => []
  | child :: rest =>
    (if child.isFolder then visible expanded (names ++ [child.name]) child else [])
      ++ visibleFolders expanded names rest

end

/-- The paths of the folders that a layout shows. -/
def visiblePaths (expanded : List String) (tree : StructureNode) : List (List String) :=
  (visible expanded [] tree).filterMap Address.folder?

theorem mem_visiblePaths {expanded : List String} {tree : StructureNode} {names : List String} :
    names ∈ visiblePaths expanded tree ↔ .folder names ∈ visible expanded [] tree := by
  unfold visiblePaths
  rw [List.mem_filterMap]
  constructor
  · rintro ⟨_ | _, member, path⟩
    · cases path
      exact member
    · cases path
  · exact fun member => ⟨_, member, rfl⟩

section Ids

variable {α : Type} [Scalar α] {s : TreeSpacing α}

theorem ids_addBox (g : Graph α) (n : Node α) (arrow : Option Edge) :
    (addBox s g n arrow).nodes.map Node.id = g.nodes.map Node.id ++ [n.id] := by
  simp [addBox]

theorem ids_placeFiles (names : List String) (left : α) (index : Nat) (top : α)
    (files : List StructureNode) (g : Graph α) :
    (placeFiles s (NodeId.folder names) left index top files g).nodes.map Node.id =
      g.nodes.map Node.id
        ++ ((List.range' index files.length).map (Address.file names)).map Address.id := by
  induction files generalizing index top g with
  | nil => simp [placeFiles]
  | cons file rest ih =>
    rw [placeFiles, ih, ids_addBox, List.append_assoc]
    rfl

mutual

/-- Placing a node adds the ids of all that is visible there. -/
theorem ids_place (expanded names : List String) (parent : Option String) (left center : α) :
    (tree : StructureNode) → (g : Graph α) →
      (place s expanded names parent left center tree g).nodes.map Node.id =
        g.nodes.map Node.id ++ (visible expanded names tree).map Address.id
  | .file entry analysis, g => by
    rw [place, placeFolder, ids_addBox]
    rfl
  | .folder entry segment children, g => by
    rw [place, visible]
    by_cases isOpen : expanded.contains (NodeId.folder names) = true
    · cases children with
      | nil =>
        simp only [isOpen, List.isEmpty_nil, Bool.or_true, ↓reduceIte, placeFolder, ids_addBox]
        rfl
      | cons first rest =>
        simp only [isOpen, Bool.not_true, List.isEmpty_cons, Bool.or_false, Bool.false_eq_true,
          ↓reduceIte]
        rw [ids_placeFiles, ids_placeFolders, placeFolder, ids_addBox, List.map_cons,
          List.map_append, ← List.range_eq_range']
        simp [Address.id]
    · simp only [isOpen, Bool.not_false, Bool.true_or, ↓reduceIte, placeFolder, ids_addBox]
      rfl

/-- Placing the folders among the contents of a folder adds the ids of all that is visible there. -/
theorem ids_placeFolders (expanded names : List String) (parentId : String) (left top : α) :
    (children : List StructureNode) → (g : Graph α) →
      (placeFolders s expanded names parentId left top children g).2.nodes.map Node.id =
        g.nodes.map Node.id ++ (visibleFolders expanded names children).map Address.id
  | [], g => by simp [placeFolders, visibleFolders]
  | child :: rest, g => by
    rw [placeFolders, visibleFolders]
    split_ifs
    · rw [ids_placeFolders, ids_place, List.map_append, List.append_assoc]
    · rw [ids_placeFolders, List.nil_append]

end

/-- The ids of a layout are those of the visible nodes, whatever the measures are. -/
theorem ids_layout (expanded : List String) (tree : StructureNode) :
    (layout s expanded tree).nodes.map Node.id =
      (visible expanded [] tree).map Address.id := by
  rw [layout, ids_place]
  rfl

end Ids

section Addresses

variable {expanded names : List String}

mutual

/-- What is visible below a node has a path that goes through it. -/
theorem prefix_of_mem_visible {address : Address} :
    (tree : StructureNode) → (names : List String) → address ∈ visible expanded names tree →
      names <+: address.names
  | .file entry analysis, names, member => by
    rw [visible, List.mem_singleton] at member
    exact member ▸ List.prefix_rfl
  | .folder entry segment children, names, member => by
    rw [visible] at member
    rcases List.mem_cons.mp member with rfl | member
    · exact List.prefix_rfl
    split_ifs at member
    · rcases List.mem_append.mp member with member | member
      · obtain ⟨child, -, path⟩ := prefix_of_mem_visibleFolders children names member
        exact (List.prefix_append ..).trans path
      · obtain ⟨index, -, rfl⟩ := List.mem_map.mp member
        exact List.prefix_rfl
    · exact absurd member List.not_mem_nil

/-- What is visible in the folders among some contents has a path that goes through one of them. -/
theorem prefix_of_mem_visibleFolders {address : Address} :
    (children : List StructureNode) → (names : List String) →
      address ∈ visibleFolders expanded names children →
        ∃ child ∈ children, names ++ [child.name] <+: address.names
  | [], names, member => absurd member List.not_mem_nil
  | child :: rest, names, member => by
    rw [visibleFolders] at member
    rcases List.mem_append.mp member with member | member
    · split_ifs at member
      · exact ⟨child, List.mem_cons_self, prefix_of_mem_visible child _ member⟩
      · exact absurd member List.not_mem_nil
    · obtain ⟨other, isOther, path⟩ := prefix_of_mem_visibleFolders rest names member
      exact ⟨other, List.mem_cons_of_mem _ isOther, path⟩

end

/-- Nothing that is visible in the folders below a folder has just its path. -/
theorem names_ne_of_mem_visibleFolders {address : Address} {children : List StructureNode}
    (member : address ∈ visibleFolders expanded names children) : address.names ≠ names := by
  obtain ⟨child, -, path⟩ := prefix_of_mem_visibleFolders children names member
  intro same
  have longer := path.length_le
  rw [same, List.length_append, List.length_singleton] at longer
  omega

mutual

/-- No address is visible twice. -/
theorem nodup_visible : (tree : StructureNode) → (names : List String) → tree.WellNamed →
    (visible expanded names tree).Nodup
  | .file entry analysis, names, named => List.nodup_singleton _
  | .folder entry segment children, names, named => by
    rw [visible]
    split_ifs
    · have distinct := (named _ (StructureNode.mem_nodes_self _)).1
      have folders := nodup_visibleFolders children names distinct fun child => named.child
      have files : ((List.range (StructureNode.folder entry segment children).files.length).map
          (Address.file names)).Nodup :=
        List.nodup_range.map fun i j same => (Address.file.inj same).2
      refine List.nodup_cons.mpr ⟨fun own => ?_, List.nodup_append'.mpr ⟨folders, files, ?_⟩⟩
      · rcases List.mem_append.mp own with own | own
        · exact names_ne_of_mem_visibleFolders own rfl
        · obtain ⟨index, -, same⟩ := List.mem_map.mp own
          exact Address.noConfusion same
      · intro address inFolders isFile
        obtain ⟨index, -, rfl⟩ := List.mem_map.mp isFile
        exact names_ne_of_mem_visibleFolders inFolders rfl
    · exact List.nodup_singleton _

/-- Folders with different names have no visible address in common. -/
theorem nodup_visibleFolders : (children : List StructureNode) → (names : List String) →
    (children.map StructureNode.name).Nodup → (∀ child ∈ children, child.WellNamed) →
      (visibleFolders expanded names children).Nodup
  | [], names, distinct, named => List.nodup_nil
  | child :: rest, names, distinct, named => by
    rw [List.map_cons, List.nodup_cons] at distinct
    have others := nodup_visibleFolders rest names distinct.2
      fun other member => named other (List.mem_cons_of_mem _ member)
    rw [visibleFolders]
    split_ifs
    · have own := nodup_visible child (names ++ [child.name]) (named child List.mem_cons_self)
      refine List.nodup_append'.mpr ⟨own, others, fun address inOwn inOthers => ?_⟩
      obtain ⟨other, member, path⟩ := prefix_of_mem_visibleFolders rest names inOthers
      have path' := prefix_of_mem_visible child _ inOwn
      have lengths : (names ++ [child.name]).length = (names ++ [other.name]).length := by
        rw [List.length_append, List.length_append, List.length_singleton, List.length_singleton]
      have same := (List.prefix_of_prefix_length_le path' path lengths.le).eq_of_length lengths
      rw [List.append_cancel_left_eq, List.singleton_inj] at same
      exact distinct.1 (same ▸ List.mem_map_of_mem member)
    · exact others

end

mutual

/-- The folder of a visible node is visible, and its path has names that entries can have. -/
theorem path_of_mem_visible {address : Address} :
    (tree : StructureNode) → (names : List String) → tree.WellNamed →
      address ∈ visible expanded names tree →
        .folder address.names ∈ visible expanded names tree ∧
          ∀ name ∈ address.names, name ∈ names ∨ NodeId.IsName name
  | .file entry analysis, names, named, member => by
    rw [visible, List.mem_singleton] at member
    rw [member]
    exact ⟨List.mem_cons_self, fun _ => .inl⟩
  | .folder entry segment children, names, named, member => by
    rw [visible] at member ⊢
    rcases List.mem_cons.mp member with rfl | member
    · exact ⟨List.mem_cons_self, fun _ => .inl⟩
    split_ifs at member ⊢
    · rcases List.mem_append.mp member with member | member
      · have contents := (named _ (StructureNode.mem_nodes_self _)).2
        obtain ⟨folder, names⟩ := path_of_mem_visibleFolders children names
          (fun child member => ⟨contents child member, named.child member⟩) member
        exact ⟨List.mem_cons_of_mem _ (List.mem_append_left _ folder), names⟩
      · obtain ⟨index, -, rfl⟩ := List.mem_map.mp member
        exact ⟨List.mem_cons_self, fun _ => .inl⟩
    · exact absurd member List.not_mem_nil

/-- The same for what is visible in the folders among some contents. -/
theorem path_of_mem_visibleFolders {address : Address} :
    (children : List StructureNode) → (names : List String) →
      (∀ child ∈ children, NodeId.IsName child.name ∧ child.WellNamed) →
      address ∈ visibleFolders expanded names children →
        .folder address.names ∈ visibleFolders expanded names children ∧
          ∀ name ∈ address.names, name ∈ names ∨ NodeId.IsName name
  | [], names, named, member => absurd member List.not_mem_nil
  | child :: rest, names, named, member => by
    rw [visibleFolders] at member ⊢
    obtain ⟨isName, below⟩ := named child List.mem_cons_self
    rcases List.mem_append.mp member with member | member
    · split_ifs at member ⊢
      · obtain ⟨folder, path⟩ := path_of_mem_visible child (names ++ [child.name]) below member
        refine ⟨List.mem_append_left _ folder, fun name member => ?_⟩
        rcases path name member with member | isName
        · rcases List.mem_append.mp member with member | own
          · exact .inl member
          · exact .inr (List.mem_singleton.mp own ▸ isName)
        · exact .inr isName
      · exact absurd member List.not_mem_nil
    · obtain ⟨folder, path⟩ := path_of_mem_visibleFolders rest names
        (fun other member => named other (List.mem_cons_of_mem _ member)) member
      exact ⟨List.mem_append_right _ folder, path⟩

end

/-- The names on the way to a visible folder are names that entries can have. -/
theorem isName_of_mem_visiblePaths {tree : StructureNode} (named : tree.WellNamed)
    {path : List String} (member : path ∈ visiblePaths expanded tree) :
    ∀ name ∈ path, NodeId.IsName name := by
  intro name inPath
  have names := (path_of_mem_visible tree [] named (mem_visiblePaths.mp member)).2
  exact (names name inPath).resolve_left List.not_mem_nil

/-- Two visible nodes have the same id only where two folders have. -/
theorem nodup_ids_iff {tree : StructureNode} (named : tree.WellNamed) :
    ((visible expanded [] tree).map Address.id).Nodup ↔
      ∀ p ∈ visiblePaths expanded tree, ∀ q ∈ visiblePaths expanded tree,
        NodeId.folder p = NodeId.folder q → p = q := by
  rw [List.nodup_map_iff_inj_on (nodup_visible tree [] named)]
  constructor
  · intro injective p one q other same
    exact Address.folder.inj
      (injective _ (mem_visiblePaths.mp one) _ (mem_visiblePaths.mp other) same)
  · intro injective a one b other same
    have paths {address : Address} (member : address ∈ visible expanded [] tree) :
        address.names ∈ visiblePaths expanded tree :=
      mem_visiblePaths.mpr (path_of_mem_visible tree [] named member).1
    have folders := injective a.names (paths one) b.names (paths other)
    cases a with
    | folder p =>
      cases b with
      | folder q => exact congrArg Address.folder (folders same)
      | file q j => exact absurd same.symm (NodeId.file_ne_folder _ _ _)
    | file p i =>
      cases b with
      | folder q => exact absurd same (NodeId.file_ne_folder _ _ _)
      | file q j =>
        obtain ⟨ids, rfl⟩ := NodeId.file_eq_iff.mp same
        exact congrArg (Address.file · i) (folders ids)

end Addresses

section Distinct

variable {α : Type} [Scalar α]

/-- If the digest keeps the paths of the visible folders apart, the ids of a layout are pairwise
different exactly if no two of these paths clash, and two of these folders have the same id exactly
if their paths clash. -/
theorem ids_distinct_iff (s : TreeSpacing α) (expanded : List String) (tree : StructureNode)
    (named : tree.WellNamed)
    (digests : ∀ p ∈ visiblePaths expanded tree, ∀ q ∈ visiblePaths expanded tree,
      NodeId.digest p = NodeId.digest q → "/".intercalate p = "/".intercalate q) :
    (((layout s expanded tree).nodes.map Node.id).Nodup ↔
      ∀ p ∈ visiblePaths expanded tree, ∀ q ∈ visiblePaths expanded tree,
        p ≠ q → ¬ NodeId.Clash p q) ∧
    ∀ p ∈ visiblePaths expanded tree, ∀ q ∈ visiblePaths expanded tree,
      (NodeId.folder p = NodeId.folder q ↔ p = q ∨ NodeId.Clash p q) := by
  have shared : ∀ p ∈ visiblePaths expanded tree, ∀ q ∈ visiblePaths expanded tree,
      (NodeId.folder p = NodeId.folder q ↔ p = q ∨ NodeId.Clash p q) := fun p one q other =>
    NodeId.folder_eq_iff (isName_of_mem_visiblePaths named one)
      (isName_of_mem_visiblePaths named other) (digests p one q other)
  refine ⟨?_, shared⟩
  rw [ids_layout, nodup_ids_iff named]
  constructor
  · intro injective p one q other differ clash
    exact differ (injective p one q other ((shared p one q other).mpr (.inr clash)))
  · intro apart p one q other same
    by_contra differ
    exact apart p one q other differ (((shared p one q other).mp same).resolve_left differ)

end Distinct

/-! ## Two projects -/

/-- A folder of the given name, outside the router root. -/
def folderOf (name : String) (children : List StructureNode) : StructureNode :=
  .folder { name := name, fullPath := name, relativePath := name } none children

/-- A project whose folders would all be `root-a-b` but for their digests. -/
def dashedTree : StructureNode :=
  folderOf "p" [folderOf "a" [folderOf "b" []], folderOf "a-b" [], folderOf "a_b" [],
    .file { name := "a.b", fullPath := "/p/a.b", relativePath := "a.b" } none]

/-- All nodes of that project have their own ids. -/
theorem ids_distinct_dashedTree :
    dashedTree.WellNamed ∧
    visiblePaths (NodeId.allFolders [] dashedTree) dashedTree =
      [[], ["a"], ["a", "b"], ["a-b"], ["a_b"]] ∧
    (∀ p ∈ visiblePaths (NodeId.allFolders [] dashedTree) dashedTree,
      ∀ q ∈ visiblePaths (NodeId.allFolders [] dashedTree) dashedTree,
        NodeId.digest p = NodeId.digest q → "/".intercalate p = "/".intercalate q) ∧
    ((layout (TreeSpacing.standard : TreeSpacing Rat) (NodeId.allFolders [] dashedTree)
      dashedTree).nodes.map Node.id).Nodup := by
  have named : dashedTree.WellNamed := by decide +kernel
  have paths : visiblePaths (NodeId.allFolders [] dashedTree) dashedTree =
      [[], ["a"], ["a", "b"], ["a-b"], ["a_b"]] := by decide +kernel
  have digests : ∀ p ∈ visiblePaths (NodeId.allFolders [] dashedTree) dashedTree,
      ∀ q ∈ visiblePaths (NodeId.allFolders [] dashedTree) dashedTree,
        NodeId.digest p = NodeId.digest q → "/".intercalate p = "/".intercalate q := by
    rw [paths]
    decide +kernel
  refine ⟨named, paths, digests,
    (ids_distinct_iff _ (NodeId.allFolders [] dashedTree) dashedTree named digests).1.mpr ?_⟩
  rw [paths]
  decide +kernel

/-- A project with a folder whose name ends in a line feed. -/
def feedTree : StructureNode :=
  folderOf "p" [folderOf "a" [folderOf "b" []], folderOf "a\n" [folderOf "b" []]]

/-- Below that folder ids are those of other folders, though the digest keeps all paths apart. -/
theorem ids_shared_in_feedTree :
    feedTree.WellNamed ∧
    (∀ p ∈ visiblePaths (NodeId.allFolders [] feedTree) feedTree,
      ∀ q ∈ visiblePaths (NodeId.allFolders [] feedTree) feedTree,
        NodeId.digest p = NodeId.digest q → "/".intercalate p = "/".intercalate q) ∧
    NodeId.folder ["a", "b"] = NodeId.folder ["a\n", "b"] ∧
    ¬ ((layout (TreeSpacing.standard : TreeSpacing Rat) (NodeId.allFolders [] feedTree)
      feedTree).nodes.map Node.id).Nodup := by
  refine ⟨by decide +kernel, by decide +kernel, by decide +kernel, ?_⟩
  rw [ids_layout]
  decide +kernel

end TreeLayout

end SiteAtlas
