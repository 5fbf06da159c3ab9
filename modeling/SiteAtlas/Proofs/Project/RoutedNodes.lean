import SiteAtlas.Proofs.Project.Counts
import SiteAtlas.Proofs.Project.ScopeByPath

/-! # What a walk says of each node for routing

A node works its scope out from its own path, while the URL of a folder is handed down to its files.
What a node says is one condition on it and on what lies directly in it, and holds throughout a
walked tree. That scope passes on to the contents of a folder does not hold throughout: a router
root without a name loses it.
-/

namespace SiteAtlas

namespace StructureNode

/-- The keys of the flags of a folder in scope, each with the route file that it stands for. -/
def flagKeys : List (String × Routing.RouteFile) :=
  [("hasPage", .page), ("hasLayout", .layout), ("hasLoading", .loading), ("hasError", .error),
    ("hasNotFound", .notFound), ("hasApiRoute", .endpoint), ("hasTemplate", .template),
    ("hasDefault", .default)]

/-- What a node and its contents say for routing fits together. -/
structure FitsRouting (node : StructureNode) : Prop where
  /-- Out of scope nothing is said. -/
  outside : node.entry.inScope = false → node.segment? = none ∧ node.entry.route = none ∧
    node.flags = .null ∧ node.analysis? = none
  /-- A folder in scope has the meaning of its name and a URL. -/
  folder : node.isFolder = true → node.entry.inScope = true →
    node.segment? = some (.ofName node.name) ∧ ∃ rest, node.entry.route = some ("/" ++ rest)
  /-- A file in scope has the URL of the folder that it lies in. -/
  files : ∀ child ∈ node.children, child.isFolder = false → child.entry.inScope = true →
    child.entry.route = node.entry.route
  /-- A flag of a folder in scope says whether there is a file of one kind directly in it. -/
  flags : node.isFolder = true → node.entry.inScope = true → ∀ key file, (key, file) ∈ flagKeys →
    ∃ isSet, node.flags.get? key = some (.bool isSet) ∧
      (isSet = true ↔ ∃ child ∈ node.children, child.isFolder = false ∧
        ∃ analysis, child.analysis? = some analysis ∧ analysis.label = file.label)

end StructureNode

namespace Routing

/-- The label of an analysis is that of a reserved route file only if the file is that one. -/
theorem FileAnalysis.label_eq_iff {analysis : FileAnalysis} {file : RouteFile} :
    analysis.label = file.label ↔ analysis.routeFile? = some file := by
  unfold label routeFile?
  cases analysis.role with
  | routeFile other => cases other <;> cases file <;> decide
  | _ => cases file <;> simp [RouteFile.label, RouteFile.baseName]

end Routing

namespace StructureNode

/-- A folder holds a reserved route file if the analysis of one of its files says so. -/
theorem holds_iff {node : StructureNode} {file : Routing.RouteFile} :
    node.holds file = true ↔ ∃ child ∈ node.children, child.isFolder = false ∧
      ∃ analysis, child.analysis? = some analysis ∧ analysis.label = file.label := by
  rw [holds, List.any_eq_true]
  refine exists_congr fun child => and_congr_right fun _ => ?_
  rw [beq_iff_eq]
  constructor
  · intro isFile
    obtain ⟨analysis, isAnalysis, isThis⟩ := Option.bind_eq_some_iff.mp isFile
    exact ⟨isFolder_of_routeFile? isFile, analysis, isAnalysis,
      Routing.FileAnalysis.label_eq_iff.mpr isThis⟩
  · rintro ⟨-, analysis, isAnalysis, label⟩
    rw [routeFile?, isAnalysis]
    exact Routing.FileAnalysis.label_eq_iff.mp label

/-- The flags of a folder in scope are set by the files directly in it. -/
theorem get?_flags {node : StructureNode} (named : node.segment?.isSome = true) {key : String}
    {file : Routing.RouteFile} (isKey : (key, file) ∈ flagKeys) :
    node.flags.get? key = some (.bool (node.holds file)) := by
  have given : node.segment?.isNone = false := by simpa using named
  rw [flags, if_neg (by simp [given])]
  simp only [flagKeys, List.mem_cons, Prod.mk.injEq, List.not_mem_nil, or_false] at isKey
  rcases isKey with ⟨rfl, rfl⟩ | ⟨rfl, rfl⟩ | ⟨rfl, rfl⟩ | ⟨rfl, rfl⟩ | ⟨rfl, rfl⟩ | ⟨rfl, rfl⟩ |
    ⟨rfl, rfl⟩ | ⟨rfl, rfl⟩ <;> rfl

end StructureNode

namespace Walk

variable {w : Walk} {path root : Path} {relative : String} {listing node : FileNode}
  {folder : StructureNode}

theorem fitsRouting_fileNode (route : Option String) :
    (w.fileNode path relative route).FitsRouting where
  outside := by
    intro outside
    simp only [fileNode, StructureNode.entry] at outside
    refine ⟨rfl, ?_, rfl, ?_⟩
    · simp only [fileNode, StructureNode.entry, outside, Bool.false_eq_true, if_false]
    · simp only [fileNode, StructureNode.analysis?, outside, Bool.false_eq_true, if_false]
  folder := by
    intro isFolder
    cases isFolder
  files := by
    intro child member
    exact absurd member List.not_mem_nil
  flags := by
    intro isFolder
    cases isFolder

theorem fitsRouting_folderAt : (w.folderAt path relative node).FitsRouting where
  outside := by
    intro outside
    have none : (w.folderAt path relative node).segment? = none := by
      rw [← Option.not_isSome_iff_eq_none, Insights.isSome_segment?_folderAt, outside]
      exact Bool.false_ne_true
    refine ⟨none, ?_, ?_, rfl⟩
    · simp only [folderAt, folderNode, StructureNode.entry, folderEntry] at outside ⊢
      rw [outside]
      rfl
    · rw [StructureNode.flags, none]
      rfl
  folder := by
    intro _ inScope
    simp only [folderAt, folderNode, StructureNode.entry, StructureNode.segment?,
      StructureNode.name] at inScope ⊢
    refine ⟨if_pos inScope, ?_⟩
    simp only [folderEntry] at inScope ⊢
    rw [if_pos inScope]
    exact Routing.exists_displayRoute (Bool.and_eq_true_iff.mp inScope).2
  files := by
    -- The walk hands the folder's URL down to its files, and a file in scope takes it.
    intro child member isFile inScope
    obtain ⟨e, -, isShown⟩ := mem_children_iff.mp (List.mem_mergeSort.mp member)
    rw [node?_eq] at isShown
    split at isShown
    · cases isShown
    · obtain ⟨shownAsFolder, -, rfl⟩ := Option.map_eq_some_iff.mp isShown
      cases shownAsFolder with
      | true =>
        rw [if_pos rfl] at isFile
        simp only [folderAt, folderNode, StructureNode.isFolder, reduceCtorEq] at isFile
      | false =>
        simp only [fileNode, StructureNode.entry, Bool.false_eq_true, if_false] at inScope ⊢
        simp only [inScope, if_true, folderAt, folderNode]
  flags := by
    intro _ inScope key file isKey
    have named : (w.folderAt path relative node).segment?.isSome = true :=
      Insights.isSome_segment?_folderAt.trans inScope
    exact ⟨_, StructureNode.get?_flags named isKey, StructureNode.holds_iff⟩

section Build

variable (proper : listing.isProper = true)
include proper

theorem fitsRouting_of_mem {node : StructureNode} (member : node ∈ (w.build root listing).nodes) :
    node.FitsRouting := by
  rw [StructureNode.nodes_eq_cons] at member
  rcases List.mem_cons.mp member with rfl | member
  · exact fitsRouting_folderAt
  · obtain ⟨names, -, -, ⟨inner, -, rfl⟩ | ⟨route, rfl⟩⟩ := exists_origin_build proper member
    · exact fitsRouting_folderAt
    · exact fitsRouting_fileNode route

/-- What lies directly in a folder in scope is in scope, unless the router root has no name: then
only a name of backslashes keeps the scope. -/
theorem inScope_child_iff {folder child : StructureNode}
    (member : folder ∈ (w.build root listing).nodes) (inScope : folder.entry.inScope = true)
    (inside : child ∈ folder.children) :
    child.entry.inScope = true ↔ w.routerRoot ≠ "" ∨ ∀ c ∈ child.name.toList, c = '\\' := by
  rw [StructureNode.nodes_eq_cons] at member
  rcases List.mem_cons.mp member with rfl | member
  · -- The root is never in scope.
    cases inScope
  · have childMember : child ∈ StructureNode.nodesOf (w.build root listing).children :=
      StructureNode.mem_nodesOf_trans member
        (StructureNode.mem_nodes_of_mem_children inside child.mem_nodes_self)
    have path := (shows_build w root proper).below folder member child inside
    rw [inScope_of_mem proper member] at inScope
    rw [inScope_of_mem proper childMember, path]
    by_cases named : w.routerRoot = ""
    · -- In scope are then the paths of slashes of both kinds, and a name has only the one kind.
      rw [named, Routing.isInScope_empty, Routing.tidyPath_eq_empty_iff] at inScope ⊢
      have free := (isPart_name_of_mem proper childMember).2.2
      simp only [String.toList_append, List.forall_mem_append, ne_eq, not_true_eq_false, false_or]
      constructor
      · rintro ⟨-, slashes⟩ c isChar
        refine (slashes c isChar).resolve_left ?_
        rintro rfl
        exact free isChar
      · intro backslashes
        have slash : ∀ c ∈ "/".toList, c = '/' ∨ c = '\\' := by simp
        exact ⟨⟨inScope, slash⟩, fun c isChar => .inr (backslashes c isChar)⟩
    · exact iff_of_true (Routing.isInScope_append inScope named _) (.inl named)

end Build

/-- What the nodes of a walked tree say for routing. Each node says nothing out of scope, a folder
in scope has the meaning of its name, a URL and flags for the files directly in it, and a file in
scope has the URL of its folder. Scope passes from a folder to what lies directly in it if the
router root has a name, and otherwise to names of backslashes only. -/
theorem routing_of_nodes (w : Walk) (root : Path) (listing : FileNode)
    (proper : listing.isProper = true) :
    (∀ node ∈ (w.build root listing).nodes, node.FitsRouting) ∧
      ∀ folder ∈ (w.build root listing).nodes, folder.entry.inScope = true →
        ∀ child ∈ folder.children, (child.entry.inScope = true ↔
          w.routerRoot ≠ "" ∨ ∀ c ∈ child.name.toList, c = '\\') := by
  constructor
  · intro node member
    exact fitsRouting_of_mem proper member
  · intro folder member inScope child inside
    exact inScope_child_iff proper member inScope inside

theorem routing_of_nodes_in_site :
    let p := soleProject ⟨1, ["site"]⟩ "app" "app" "page.tsx"
    p.listing.isProper = true ∧ (∀ node ∈ p.tree.nodes, node.FitsRouting) ∧
      ∃ folder ∈ p.tree.nodes, folder.entry.inScope = true ∧ folder.children.length = 1 ∧
        ∀ child ∈ folder.children, child.entry.inScope = true := by
  intro p
  have proper : p.listing.isProper = true := by decide +kernel
  obtain ⟨fits, passes⟩ := routing_of_nodes p.walk p.root p.listing proper
  have app : ∃ folder ∈ p.tree.nodes, folder.entry.inScope = true ∧ folder.children.length = 1 := by
    rw [tree_soleProject]
    decide +kernel
  obtain ⟨folder, member, inScope, one⟩ := app
  refine ⟨proper, fits, folder, member, inScope, one, fun child inside => ?_⟩
  exact (passes folder member inScope child inside).mpr (.inl (by decide +kernel))

/-- A router root without a name takes a folder called `\` for itself, and not the file in it. -/
theorem scope_lost_below_backslash :
    let p := soleProject ⟨1, ["site"]⟩ "" "\\" "x"
    ∃ folder ∈ p.tree.nodes, folder.entry.inScope = true ∧ folder.entry.route = some "/" ∧
      ∃ child ∈ folder.children, child.isFolder = false ∧ child.entry.inScope = false ∧
        child.entry.route = none := by
  intro p
  rw [tree_soleProject]
  decide +kernel

end Walk

end SiteAtlas
