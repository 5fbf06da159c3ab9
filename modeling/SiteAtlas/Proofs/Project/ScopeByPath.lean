import SiteAtlas.Proofs.Project.ScopeSubtree

/-! # What a node's own path says

Below the root of a walked tree the paths are distinct, and whether a node is in scope can be read
off its path. The root is written with its name for a path, as if it lay in itself, and is never in
scope: an entry directly in it that has its name has its path too, and a root called like something
in scope is not what its path says.
-/

namespace SiteAtlas

namespace Walk

section Root

variable {w : Walk} {root : Path} {listing : FileNode} (proper : listing.isProper = true)
include proper

/-- The path of a node that does not lie directly in the root has a slash in it. -/
theorem mem_children_or_slash_mem {node : StructureNode}
    (member : node ∈ StructureNode.nodesOf (w.build root listing).children) :
    node ∈ (w.build root listing).children ∨ '/' ∈ node.entry.relativePath.toList := by
  obtain ⟨folder, inside, listed⟩ := StructureNode.exists_mem_children member
  rw [StructureNode.nodes_eq_cons] at inside
  rcases List.mem_cons.mp inside with rfl | inside
  · exact .inl listed
  · right
    rw [(shows_build w root proper).below folder inside node listed]
    simp

/-- A node below the root has the root's path exactly if it lies directly in it and has its name. -/
theorem relativePath_eq_name_iff (rooted : root.Proper) {node : StructureNode}
    (member : node ∈ StructureNode.nodesOf (w.build root listing).children) :
    node.entry.relativePath = root.name ↔
      node ∈ (w.build root listing).children ∧ node.name = root.name := by
  have top := (shows_build w root proper).top
  constructor
  · -- What lies deeper has a slash in its path, and the root's name has none.
    intro same
    rcases mem_children_or_slash_mem proper member with direct | slash
    · rw [top node direct] at same
      exact ⟨direct, same⟩
    · rw [same] at slash
      exact absurd slash rooted.slash_notMem_name
  · rintro ⟨direct, same⟩
    rw [top node direct, same]

theorem nodup_paths_iff (rooted : root.Proper) :
    ((w.build root listing).nodes.map fun node => node.entry.relativePath).Nodup ↔
      ∀ child ∈ (w.build root listing).children, child.name ≠ root.name := by
  have own : (w.build root listing).entry.relativePath = root.name := rfl
  rw [StructureNode.nodes_eq_cons, List.map_cons, List.nodup_cons, own,
    and_iff_left (shows_build w root proper).once]
  constructor
  · intro apart child direct same
    have member : child ∈ StructureNode.nodesOf (w.build root listing).children :=
      StructureNode.mem_nodesOf_iff.mpr ⟨child, direct, child.mem_nodes_self⟩
    apply apart
    rw [← (relativePath_eq_name_iff proper rooted member).mpr ⟨direct, same⟩]
    exact List.mem_map_of_mem member
  · intro apart listed
    obtain ⟨node, member, same⟩ := List.mem_map.mp listed
    obtain ⟨direct, name⟩ := (relativePath_eq_name_iff proper rooted member).mp same
    exact apart node direct name

theorem inScope_eq_iff :
    (∀ node ∈ (w.build root listing).nodes,
      node.entry.inScope = Routing.isInScope w.routerRoot node.entry.relativePath) ↔
      Routing.isInScope w.routerRoot root.name = false := by
  rw [StructureNode.nodes_eq_cons, List.forall_mem_cons]
  constructor
  · -- The root is never in scope, whatever its name says.
    rintro ⟨atRoot, -⟩
    exact atRoot.symm
  · intro outside
    exact ⟨outside.symm, fun node member => inScope_of_mem proper member⟩

end Root

end Walk

/-- Below the root of a project's tree, no two nodes have one path, and a node is in scope exactly
if its path says so. With the root, the paths are distinct exactly if nothing directly in the
project's folder has the name of that folder, and each path says whether its node is in scope
exactly if that name, as a path, is not in scope. -/
theorem Project.scope_by_path_iff (p : Project) (proper : p.listing.isProper = true)
    (rooted : p.root.Proper) :
    ((StructureNode.nodesOf p.tree.children).map fun node => node.entry.relativePath).Nodup ∧
      (∀ node ∈ StructureNode.nodesOf p.tree.children,
        node.entry.inScope = Routing.isInScope p.routerRoot node.entry.relativePath) ∧
      ((p.tree.nodes.map fun node => node.entry.relativePath).Nodup ↔
        ∀ child ∈ p.tree.children, child.name ≠ p.root.name) ∧
      ((∀ node ∈ p.tree.nodes,
          node.entry.inScope = Routing.isInScope p.routerRoot node.entry.relativePath) ↔
        Routing.isInScope p.routerRoot p.root.name = false) := by
  have tree : p.tree = p.walk.build p.root p.listing := rfl
  have routerRoot : p.routerRoot = p.walk.routerRoot := rfl
  rw [tree, routerRoot]
  refine ⟨(Walk.shows_build p.walk p.root proper).once, ?_, ?_, ?_⟩
  · intro node member
    exact Walk.inScope_of_mem proper member
  · exact Walk.nodup_paths_iff proper rooted
  · exact Walk.inScope_eq_iff proper

/-- A project with one file, in one folder. -/
def soleProject (root : Path) (routerRoot folder file : String) : Project where
  files := {}
  root := root
  listing := .folder [(folder, .folder [(file, .file ⟨#[]⟩)])]
  settings := { routerRoot := routerRoot }

/-- A folder with one entry in the tree of a project. -/
def soleFolder (w : Walk) (path : Path) (relative : String) (child : StructureNode) :
    StructureNode :=
  let entry := w.folderEntry path relative
  .folder entry (if entry.inScope then some (.ofName entry.name) else none) [child]

theorem tree_soleProject (root : Path) (routerRoot folder file : String) :
    let w := (soleProject root routerRoot folder file).walk
    let path := root.child folder
    (soleProject root routerRoot folder file).tree =
      soleFolder w root "" (soleFolder w path folder
        (w.fileNode (path.child file) (Walk.childPath folder file)
          (w.folderEntry path folder).route)) := by
  have kept (relative : String) (isFolder : Bool) :
      (soleProject root routerRoot folder file).walk.isIgnored relative isFolder = false :=
    Bool.and_false _
  have listing : (soleProject root routerRoot folder file).listing =
      .folder [(folder, .folder [(file, .file ⟨#[]⟩)])] := rfl
  simp only [Project.tree, Walk.build, listing, FileNode.entries, Walk.children, Walk.node?,
    Walk.folderNode, kept, Bool.false_eq_true, if_false, Option.toList_some, List.append_nil,
    List.mergeSort_singleton]
  rfl

/-- In a folder called `site`, the paths are distinct and say which nodes are in scope. -/
theorem scope_by_path_in_site :
    let p := soleProject ⟨1, ["site"]⟩ "app" "app" "page.tsx"
    p.listing.isProper = true ∧ p.root.Proper ∧
      (p.tree.nodes.map fun node => node.entry.relativePath).Nodup ∧
      ∀ node ∈ p.tree.nodes,
        node.entry.inScope = Routing.isInScope p.routerRoot node.entry.relativePath := by
  intro p
  have proper : p.listing.isProper = true := by decide +kernel
  have rooted : p.root.Proper :=
    ⟨by decide, List.forall_mem_singleton.mpr ⟨by decide, by decide, by decide⟩⟩
  obtain ⟨-, -, paths, flags⟩ := p.scope_by_path_iff proper rooted
  refine ⟨proper, rooted, paths.mpr ?_, flags.mpr ?_⟩
  · rw [tree_soleProject]
    decide +kernel
  · decide +kernel

/-- In a folder called `app`, the root and the folder in it have one path, and the root is not in
scope although that path is. -/
theorem path_shared_with_root :
    let p := soleProject ⟨1, ["app"]⟩ "app" "app" "page.tsx"
    (p.tree.nodes.map fun node => (node.entry.relativePath, node.entry.inScope)) =
        [("app", false), ("app", true), ("app/page.tsx", true)] ∧
      Routing.isInScope p.routerRoot "app" = true := by
  intro p
  rw [tree_soleProject]
  decide +kernel

end SiteAtlas
