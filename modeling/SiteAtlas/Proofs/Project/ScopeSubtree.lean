import SiteAtlas.Project.Manifest
import SiteAtlas.Proofs.Routing.RouteGrowth

/-! # Scope and the folder of the router root

Whether a node is in scope is read off its path alone. In a walked tree, as long as no name has a
backslash, the nodes in scope are those at and below the one folder that has the path of the router
root. A project folder that is called like the router root is another matter: it is taken for the
router root, but only what is in scope below it has a meaning for routes.
-/

namespace SiteAtlas

namespace Walk

open Routing

section Scope

variable {w : Walk} {root : Path} {listing : FileNode} {node folder child : StructureNode}
  (proper : listing.isProper = true)
include proper

theorem isPart_name_of_mem (member : node ∈ StructureNode.nodesOf (w.build root listing).children) :
    Path.IsPart node.name := by
  obtain ⟨names, nonempty, parts, origin⟩ := exists_origin_build proper member
  have name : node.name = (root.descend names).name := by
    rcases origin with ⟨inner, -, rfl⟩ | ⟨route, rfl⟩ <;> rfl
  have last : (root.descend names).name = names.getLast nonempty := by
    rw [Path.name, Path.descend, List.getLastD_eq_getLast?,
      List.getLast?_append_of_ne_nil _ nonempty, List.getLast?_eq_some_getLast nonempty,
      Option.getD_some]
  rw [name, last]
  exact parts _ (List.getLast_mem nonempty)

/-- The path of what lies below a folder is longer. -/
theorem length_relativePath_lt
    (member : folder ∈ StructureNode.nodesOf (w.build root listing).children)
    (below : node ∈ StructureNode.nodesOf folder.children) :
    folder.entry.relativePath.length < node.entry.relativePath.length := by
  refine StructureNode.rel_of_mem_below (fun outer inner =>
    outer.entry.relativePath.length < inner.entry.relativePath.length)
    (fun first second => first.trans second) (fun outer deeper inner inside => ?_) below
  have outerMember := StructureNode.mem_nodesOf_trans member deeper
  rw [(shows_build w root proper).below outer outerMember inner inside,
    String.length_append, String.length_append]
  have slash : "/".length = 1 := rfl
  omega

variable (plain : ∀ node ∈ StructureNode.nodesOf (w.build root listing).children,
  '\\' ∉ node.name.toList)
include plain

theorem straight_of_mem (member : node ∈ StructureNode.nodesOf (w.build root listing).children) :
    '\\' ∉ node.entry.relativePath.toList := by
  have shows := shows_build w root proper
  obtain ⟨top, isTop, below⟩ := StructureNode.mem_nodesOf_iff.mp member
  have topMember : top ∈ StructureNode.nodesOf (w.build root listing).children :=
    StructureNode.mem_nodesOf_iff.mpr ⟨top, isTop, top.mem_nodes_self⟩
  have start : '\\' ∉ top.entry.relativePath.toList := by
    rw [shows.top top isTop]
    exact plain top topMember
  rw [StructureNode.nodes_eq_cons] at below
  rcases List.mem_cons.mp below with rfl | below
  · exact start
  · refine StructureNode.rel_of_mem_below (fun outer inner =>
      '\\' ∉ outer.entry.relativePath.toList → '\\' ∉ inner.entry.relativePath.toList)
      (fun first second outer => second (first outer))
      (fun folder deeper child inside outer => ?_) below start
    have folderMember := StructureNode.mem_nodesOf_trans topMember deeper
    have childMember := StructureNode.mem_nodesOf_trans folderMember
      (StructureNode.mem_nodes_of_mem_children inside child.mem_nodes_self)
    rw [shows.below folder folderMember child inside]
    have own := plain child childMember
    simp [outer, own]

/-- The path of a node is tidy. -/
theorem tidyPath_of_mem (member : node ∈ StructureNode.nodesOf (w.build root listing).children) :
    tidyPath node.entry.relativePath = node.entry.relativePath := by
  obtain ⟨names, nonempty, parts, origin⟩ := exists_origin_build proper member
  have path : node.entry.relativePath = relativeOf names := by
    rcases origin with ⟨inner, -, rfl⟩ | ⟨route, rfl⟩
    · exact relativePath_folderAt w _ inner (relativeOf_ne_empty nonempty parts)
    · rfl
  have straight := straight_of_mem proper plain member
  rw [path] at straight ⊢
  refine tidyPath_intercalate (fun name isName => ?_) nonempty
  obtain ⟨filled, -, free⟩ := parts name isName
  refine ⟨filled, free, fun backslash => straight ?_⟩
  rw [toList_relativeOf]
  exact Text.mem_intercalate_of_mem (List.mem_map_of_mem isName) backslash

theorem inScope_iff_of_mem
    (member : node ∈ StructureNode.nodesOf (w.build root listing).children) :
    node.entry.inScope = true ↔ node.entry.relativePath = w.routerRoot ∨
      ∃ rest, node.entry.relativePath.toList = w.routerRoot.toList ++ '/' :: rest := by
  rw [inScope_of_mem proper member, isInScope_iff, tidyPath_of_mem proper plain member]

/-- What lies directly in a node in scope is in scope. -/
theorem inScope_of_mem_children (member : folder ∈ (w.build root listing).nodes)
    (inScope : folder.entry.inScope = true) (inside : child ∈ folder.children) :
    child.entry.inScope = true := by
  rw [StructureNode.nodes_eq_cons] at member
  rcases List.mem_cons.mp member with rfl | member
  · -- The root is never in scope.
    cases inScope
  · have childMember := StructureNode.mem_nodesOf_trans member
      (StructureNode.mem_nodes_of_mem_children inside child.mem_nodes_self)
    have path := (shows_build w root proper).below folder member child inside
    apply (inScope_iff_of_mem proper plain childMember).mpr
    rcases (inScope_iff_of_mem proper plain member).mp inScope with same | ⟨rest, deeper⟩
    · exact .inr ⟨child.name.toList, by simp [path, same]⟩
    · exact .inr ⟨rest ++ '/' :: child.name.toList, by simp [path, deeper]⟩

/-- Scope begins at the path of the router root. -/
theorem inScope_or_relativePath_eq (member : folder ∈ (w.build root listing).nodes)
    (inside : child ∈ folder.children) (inScope : child.entry.inScope = true) :
    folder.entry.inScope = true ∨ child.entry.relativePath = w.routerRoot := by
  have shows := shows_build w root proper
  rw [StructureNode.nodes_eq_cons] at member
  rcases List.mem_cons.mp member with rfl | member
  · have childMember : child ∈ StructureNode.nodesOf (w.build root listing).children :=
      StructureNode.mem_nodesOf_iff.mpr ⟨child, inside, child.mem_nodes_self⟩
    have free := (isPart_name_of_mem proper childMember).2.2
    refine .inr (((inScope_iff_of_mem proper plain childMember).mp inScope).resolve_right ?_)
    rintro ⟨rest, deeper⟩
    rw [shows.top child inside] at deeper
    exact free (deeper ▸ List.mem_append_right _ List.mem_cons_self)
  · have childMember := StructureNode.mem_nodesOf_trans member
      (StructureNode.mem_nodes_of_mem_children inside child.mem_nodes_self)
    have free := (isPart_name_of_mem proper childMember).2.2
    rcases (inScope_iff_of_mem proper plain childMember).mp inScope with same | ⟨rest, deeper⟩
    · exact .inr same
    · left
      apply (inScope_iff_of_mem proper plain member).mpr
      rw [shows.below folder member child inside, String.toList_append, String.toList_append,
        List.append_assoc] at deeper
      change _ ++ '/' :: child.name.toList = _ at deeper
      rcases List.append_eq_append_iff.mp deeper with ⟨more, whole, rest⟩ | ⟨more, whole, rest⟩
      · cases more with
        | nil =>
          rw [List.append_nil, String.toList_inj] at whole
          exact .inl whole.symm
        | cons c more =>
          obtain ⟨rfl, name⟩ := List.cons.inj rest
          exact absurd (name ▸ List.mem_append_right _ List.mem_cons_self) free
      · cases more with
        | nil =>
          rw [List.append_nil, String.toList_inj] at whole
          exact .inl whole
        | cons c more =>
          obtain ⟨rfl, -⟩ := List.cons.inj rest
          exact .inr ⟨more, whole⟩

/-- The nodes in scope are those at and below the nodes that have the path of the router root. -/
theorem filter_inScope : (w.build root listing).nodes.filter (fun node => node.entry.inScope) =
    ((w.build root listing).nodes.filter fun node =>
      node.entry.inScope && node.entry.relativePath == w.routerRoot).flatMap
        StructureNode.nodes := by
  refine StructureNode.filter_eq_flatMap ?_ ?_ ?_ ?_
  · intro folder member inScope child inside
    exact inScope_of_mem_children proper plain member inScope inside
  · intro folder member child inside inScope
    refine (inScope_or_relativePath_eq proper plain member inside inScope).imp_right fun same => ?_
    rw [inScope, same, beq_self_eq_true]
    rfl
  · intro folder member first
    rw [Bool.and_eq_true, beq_iff_eq] at first
    refine ⟨first.1, fun inner below again => ?_⟩
    rw [Bool.and_eq_true, beq_iff_eq] at again
    rw [StructureNode.nodes_eq_cons] at member
    rcases List.mem_cons.mp member with rfl | member
    · cases first.1
    · have longer := length_relativePath_lt proper member below
      rw [first.2, again.2] at longer
      exact absurd longer (lt_irrefl _)
  · intro inScope
    cases inScope

end Scope

/-! ## The router root's folder -/

section RouterRoot

theorem filter_eq_find?_toList {α : Type} {p : α → Bool} {items : List α}
    (single : items.Pairwise fun a b => p a = true → ¬p b = true) :
    items.filter p = (items.find? p).toList := by
  induction items with
  | nil => rfl
  | cons first rest ih =>
    obtain ⟨others, single⟩ := List.pairwise_cons.mp single
    by_cases holds : p first = true
    · rw [List.filter_cons_of_pos holds, List.find?_cons_of_pos holds,
        List.filter_eq_nil_iff.mpr fun item member => others item member holds]
      rfl
    · rw [List.filter_cons_of_neg holds, List.find?_cons_of_neg holds, ih single]

theorem findRouterRoot?_eq {routerRoot : String}
    (stripped : Text.stripChar '/' routerRoot.toList = routerRoot.toList) (tree : StructureNode) :
    findRouterRoot? tree routerRoot = tree.nodes.find? fun node =>
      node.isFolder && node.entry.relativePath == routerRoot := by
  rw [findRouterRoot?, stripped, String.ofList_toList]

variable {w : Walk} {root : Path} {listing : FileNode} (proper : listing.isProper = true)
  (plain : ∀ node ∈ StructureNode.nodesOf (w.build root listing).children,
    '\\' ∉ node.name.toList)
  (noFile : ∀ node ∈ StructureNode.nodesOf (w.build root listing).children,
    node.entry.relativePath = w.routerRoot → node.isFolder = true)
  (stripped : Text.stripChar '/' w.routerRoot.toList = w.routerRoot.toList)
include proper plain noFile stripped

/-- The nodes in scope are those at and below the router root's folder, unless the project is called
like the router root. -/
theorem filter_inScope_eq_nodes (other : root.name ≠ w.routerRoot) :
    (w.build root listing).nodes.filter (fun node => node.entry.inScope) =
      (findRouterRoot? (w.build root listing) w.routerRoot).toList.flatMap StructureNode.nodes := by
  have path : (w.build root listing).entry.relativePath = root.name := rfl
  have same : (w.build root listing).nodes.filter (fun node =>
      node.entry.inScope && node.entry.relativePath == w.routerRoot) =
      (w.build root listing).nodes.filter fun node =>
        node.isFolder && node.entry.relativePath == w.routerRoot := by
    refine List.filter_congr fun node member => ?_
    by_cases here : node.entry.relativePath = w.routerRoot
    · rw [StructureNode.nodes_eq_cons] at member
      rcases List.mem_cons.mp member with rfl | member
      · exact absurd (path.symm.trans here) other
      · rw [noFile node member here,
          (inScope_iff_of_mem proper plain member).mpr (.inl here)]
    · rw [beq_eq_false_iff_ne.mpr here, Bool.and_false, Bool.and_false]
  have single : (w.build root listing).nodes.Pairwise fun a b =>
      (a.isFolder && a.entry.relativePath == w.routerRoot) = true →
        ¬(b.isFolder && b.entry.relativePath == w.routerRoot) = true := by
    rw [StructureNode.nodes_eq_cons]
    refine List.pairwise_cons.mpr ⟨fun node _ first => ?_, ?_⟩
    · rw [Bool.and_eq_true, beq_iff_eq] at first
      exact absurd (path.symm.trans first.2) other
    · have once := (shows_build w root proper).once
      refine (List.pairwise_map.mp once).imp fun apart first second => apart ?_
      rw [Bool.and_eq_true, beq_iff_eq] at first second
      exact first.2.trans second.2.symm
  rw [filter_inScope proper plain, same, findRouterRoot?_eq stripped,
    filter_eq_find?_toList single]

/-- What has a meaning for routes has it at or below the router root's folder. -/
theorem countP_nodes {counts : StructureNode → Bool}
    (meant : ∀ node ∈ (w.build root listing).nodes,
      counts node = true → node.entry.inScope = true) :
    (w.build root listing).nodes.countP counts =
      ((findRouterRoot? (w.build root listing) w.routerRoot).toList.flatMap
        StructureNode.nodes).countP counts := by
  by_cases other : root.name = w.routerRoot
  · -- The root comes first and is taken for the router root.
    have found : findRouterRoot? (w.build root listing) w.routerRoot =
        some (w.build root listing) := by
      rw [findRouterRoot?_eq stripped, StructureNode.nodes_eq_cons]
      exact List.find?_cons_of_pos (beq_iff_eq.mpr other)
    rw [found, Option.toList_some, List.flatMap_singleton]
  · rw [← filter_inScope_eq_nodes proper plain noFile stripped other, List.countP_filter]
    refine List.countP_congr fun node member => ?_
    rw [Bool.and_eq_true, iff_self_and]
    exact meant node member

end RouterRoot

end Walk

end SiteAtlas
