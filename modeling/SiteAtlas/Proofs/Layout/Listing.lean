import SiteAtlas.Proofs.Layout.Visible

/-! # The nodes of a tree in their places

A tree is listed in the order in which it is drawn: each folder before its contents, and the folders
in it, with all that is below them, before its files. Every node is listed once, together with the
folders that it lies in, and the folder that it lies in directly is listed before it.
-/

namespace SiteAtlas.TreeLayout

/-- A node of a tree in its place. -/
structure Occurrence where
  /-- The paths of the folders that it lies in, outermost first. -/
  above : List (List String)
  /-- Where the node lies. -/
  address : Address
  /-- The node itself. -/
  source : StructureNode

/-- The files of a folder, numbered from `index` on. -/
def filesIn (above : List (List String)) (names : List String) :
    (index : Nat) → List StructureNode → List Occurrence
  | _, [] => []
  | index, file :: rest =>
    ⟨above, .file names index, file⟩ :: filesIn above names (index + 1) rest

mutual

/-- A node that these names lead to, in the folders `above`, and all nodes below it. -/
def listing (above : List (List String)) (names : List String) : StructureNode → List Occurrence
  | .folder entry segment children =>
    ⟨above, .folder names, .folder entry segment children⟩ ::
      (listingOf (above ++ [names]) names children ++
        filesIn (above ++ [names]) names 0 (StructureNode.folder entry segment children).files)
  -- Only a root can be a file here; it is placed like a folder without contents.
  | .file entry analysis => [⟨above, .folder names, .file entry analysis⟩]

/-- The folders among the contents of a folder and all nodes below them. -/
def listingOf (above : List (List String)) (names : List String) :
    List StructureNode → List Occurrence
  | [] => []
  | child :: rest =>
    (if child.isFolder then listing above (names ++ [child.name]) child else [])
      ++ listingOf above names rest

end

section Sources

theorem sources_filesIn (above : List (List String)) (names : List String) (index : Nat)
    (files : List StructureNode) :
    (filesIn above names index files).map Occurrence.source = files := by
  induction files generalizing index with
  | nil => rfl
  | cons file rest ih => rw [filesIn, List.map_cons, ih]

theorem above_of_mem_filesIn {above : List (List String)} {names : List String} {index : Nat}
    {files : List StructureNode} {o : Occurrence} (member : o ∈ filesIn above names index files) :
    o.above = above := by
  induction files generalizing index with
  | nil => exact absurd member List.not_mem_nil
  | cons file rest ih =>
    rcases List.mem_cons.mp member with rfl | member
    · rfl
    · exact ih member

mutual

/-- Every node of a tree is listed once. -/
theorem sources_listing (above : List (List String)) (names : List String) :
    (tree : StructureNode) → ((listing above names tree).map Occurrence.source).Perm tree.nodes
  | .file entry analysis => by
    rw [listing, StructureNode.nodes]
    exact List.Perm.refl _
  | .folder entry segment children => by
    rw [listing, StructureNode.nodes, List.map_cons, List.map_append, sources_filesIn]
    exact (sources_listingOf (above ++ [names]) names children).cons _

/-- Files are listed behind all folders. -/
theorem sources_listingOf (above : List (List String)) (names : List String) :
    (children : List StructureNode) →
      ((listingOf above names children).map Occurrence.source ++
        children.filter fun c => !c.isFolder).Perm (StructureNode.nodesOf children)
  | [] => by
    rw [listingOf, StructureNode.nodesOf]
    exact List.Perm.refl _
  | child :: rest => by
    have others := sources_listingOf above names rest
    rw [listingOf, StructureNode.nodesOf]
    cases child with
    | folder entry segment children =>
      rw [List.filter_cons_of_neg (by simp [StructureNode.isFolder]),
        if_pos (by rfl), List.map_append, List.append_assoc]
      exact (sources_listing above _ (.folder entry segment children)).append others
    | file entry analysis =>
      rw [List.filter_cons_of_pos (by simp [StructureNode.isFolder]),
        if_neg (by simp [StructureNode.isFolder]), List.nil_append, StructureNode.nodes]
      exact List.perm_middle.trans (others.cons _)

end

end Sources

section Above

mutual

/-- All nodes below a node lie in the folders that it lies in. -/
theorem prefix_of_mem_listing {o : Occurrence} (above : List (List String)) (names : List String) :
    (tree : StructureNode) → o ∈ listing above names tree → above <+: o.above
  | .file entry analysis, member => by
    rw [listing, List.mem_singleton] at member
    exact member ▸ List.prefix_rfl
  | .folder entry segment children, member => by
    rw [listing] at member
    have outer : above <+: above ++ [names] := List.prefix_append ..
    rcases List.mem_cons.mp member with rfl | member
    · exact List.prefix_rfl
    rcases List.mem_append.mp member with member | member
    · exact outer.trans (prefix_of_mem_listingOf (above ++ [names]) names children member)
    · exact above_of_mem_filesIn member ▸ outer

theorem prefix_of_mem_listingOf {o : Occurrence} (above : List (List String))
    (names : List String) :
    (children : List StructureNode) → o ∈ listingOf above names children → above <+: o.above
  | [], member => absurd member List.not_mem_nil
  | child :: rest, member => by
    rw [listingOf] at member
    rcases List.mem_append.mp member with member | member
    · split at member
      · exact prefix_of_mem_listing above _ child member
      · exact absurd member List.not_mem_nil
    · exact prefix_of_mem_listingOf above names rest member

end

mutual

/-- The folders that a node lies in are those above all and folders of the tree. -/
theorem folder_of_mem_above {o : Occurrence} {path : List String} (above : List (List String))
    (names : List String) :
    (tree : StructureNode) → o ∈ listing above names tree → path ∈ o.above →
      path ∈ above ∨ NodeId.folder path ∈ NodeId.allFolders names tree
  | .file entry analysis, member, isAbove => by
    rw [listing, List.mem_singleton] at member
    subst member
    exact .inl isAbove
  | .folder entry segment children, member, isAbove => by
    rw [listing] at member
    rw [NodeId.allFolders]
    have own (isAbove : path ∈ above ++ [names]) :
        path ∈ above ∨ NodeId.folder path ∈
          NodeId.folder names :: NodeId.allFoldersOf names children := by
      rcases List.mem_append.mp isAbove with outer | isOwn
      · exact .inl outer
      · exact .inr (List.mem_singleton.mp isOwn ▸ List.mem_cons_self)
    rcases List.mem_cons.mp member with rfl | member
    · exact .inl isAbove
    rcases List.mem_append.mp member with member | member
    · rcases folder_of_mem_aboveOf (above ++ [names]) names children member isAbove with
        outer | inner
      · exact own outer
      · exact .inr (List.mem_cons_of_mem _ inner)
    · exact own (above_of_mem_filesIn member ▸ isAbove)

theorem folder_of_mem_aboveOf {o : Occurrence} {path : List String} (above : List (List String))
    (names : List String) :
    (children : List StructureNode) → o ∈ listingOf above names children → path ∈ o.above →
      path ∈ above ∨ NodeId.folder path ∈ NodeId.allFoldersOf names children
  | [], member, _ => absurd member List.not_mem_nil
  | child :: rest, member, isAbove => by
    rw [listingOf] at member
    rw [NodeId.allFoldersOf]
    rcases List.mem_append.mp member with member | member
    · split_ifs at member ⊢
      · exact (folder_of_mem_above above _ child member isAbove).imp_right
          (List.mem_append_left _)
      · exact absurd member List.not_mem_nil
    · exact (folder_of_mem_aboveOf above names rest member isAbove).imp_right
        (List.mem_append_right _)

end

end Above

/-! ## The folder that a node lies in -/

/-- A node lies directly in a folder. -/
structure Occurrence.In (o p : Occurrence) : Prop where
  folder : p.address = .folder p.address.names
  above : o.above = p.above ++ [p.address.names]
  child : o.source ∈ p.source.children

/-- Each node lies directly in one of those known or listed before it. -/
def Headed : (known : List Occurrence) → List Occurrence → Prop
  | _, [] => True
  | known, o :: rest => (∃ p ∈ known, o.In p) ∧ Headed (o :: known) rest

section Headed

variable {known known' : List Occurrence} {first second nodes : List Occurrence}

theorem Headed.mono (headed : Headed known nodes) (subset : known ⊆ known') :
    Headed known' nodes := by
  induction nodes generalizing known known' with
  | nil => trivial
  | cons o rest ih =>
    obtain ⟨⟨p, isKnown, inside⟩, behind⟩ := headed
    exact ⟨⟨p, subset isKnown, inside⟩, ih behind (List.cons_subset_cons o subset)⟩

theorem Headed.append (headed : Headed known first) (headed' : Headed known second) :
    Headed known (first ++ second) := by
  induction first generalizing known with
  | nil => exact headed'
  | cons o rest ih =>
    exact ⟨headed.1, ih headed.2 (headed'.mono (List.subset_cons_self o known))⟩

/-- Where nodes are left out with all that lies in them, the others are still headed. -/
theorem Headed.filter (keep : Occurrence → Bool)
    (closed : ∀ o p : Occurrence, o.In p → keep o = true → keep p = true)
    (headed : Headed known nodes) : Headed (known.filter keep) (nodes.filter keep) := by
  induction nodes generalizing known with
  | nil => trivial
  | cons o rest ih =>
    obtain ⟨⟨p, isKnown, inside⟩, behind⟩ := headed
    have others := ih behind
    by_cases kept : keep o = true
    · rw [List.filter_cons_of_pos kept] at others ⊢
      exact ⟨⟨p, List.mem_filter.mpr ⟨isKnown, closed o p inside kept⟩, inside⟩, others⟩
    · rw [List.filter_cons_of_neg kept] at others ⊢
      exact others

theorem Headed.exists_in (headed : Headed known nodes) {k : Nat} {o : Occurrence}
    (found : nodes[k]? = some o) :
    ∃ p, (p ∈ known ∨ ∃ j < k, nodes[j]? = some p) ∧ o.In p := by
  induction nodes generalizing known k with
  | nil => cases found
  | cons first rest ih =>
    cases k with
    | zero =>
      obtain rfl : first = o := by simpa using found
      obtain ⟨p, isKnown, inside⟩ := headed.1
      exact ⟨p, .inl isKnown, inside⟩
    | succ k =>
      obtain ⟨p, before, inside⟩ := ih headed.2 (by simpa using found)
      refine ⟨p, ?_, inside⟩
      rcases before with isKnown | ⟨j, earlier, found⟩
      · rcases List.mem_cons.mp isKnown with rfl | isKnown
        · exact .inr ⟨0, Nat.succ_pos k, rfl⟩
        · exact .inl isKnown
      · exact .inr ⟨j + 1, Nat.succ_lt_succ earlier, by simpa using found⟩

end Headed

theorem headed_filesIn {known : List Occurrence} {p : Occurrence} {names : List String}
    (isKnown : p ∈ known) (address : p.address = .folder names) (index : Nat)
    (files : List StructureNode) (inside : ∀ file ∈ files, file ∈ p.source.children) :
    Headed known (filesIn (p.above ++ [names]) names index files) := by
  induction files generalizing index known with
  | nil => trivial
  | cons file rest ih =>
    obtain ⟨first, others⟩ := List.forall_mem_cons.mp inside
    refine ⟨⟨p, isKnown, ?_, ?_, first⟩, ih (List.mem_cons_of_mem _ isKnown) _ others⟩
    · rw [address]
      rfl
    · rw [address]
      rfl

/-- A listing begins with the node itself. -/
theorem listing_eq_cons (above : List (List String)) (names : List String) (tree : StructureNode) :
    listing above names tree =
      ⟨above, .folder names, tree⟩ :: (listing above names tree).tail := by
  cases tree <;> rw [listing, List.tail_cons]

mutual

/-- The nodes below a node are headed by it. -/
theorem headed_tail (known : List Occurrence) (above : List (List String)) (names : List String) :
    (tree : StructureNode) →
      Headed (⟨above, .folder names, tree⟩ :: known) (listing above names tree).tail
  | .file entry analysis => by
    rw [listing, List.tail_cons]
    trivial
  | .folder entry segment children => by
    rw [listing, List.tail_cons]
    have isKnown := List.mem_cons_self
      (a := (⟨above, .folder names, .folder entry segment children⟩ : Occurrence)) (l := known)
    have folders := headed_listingOf isKnown rfl children fun child member => member
    have files := headed_filesIn isKnown rfl 0
      (StructureNode.folder entry segment children).files
      fun file member => (List.mem_filter.mp member).1
    exact folders.append files

/-- The nodes in some folders among the contents of a folder are headed if that is known. -/
theorem headed_listingOf {known : List Occurrence} {p : Occurrence} {names : List String}
    (isKnown : p ∈ known) (address : p.address = .folder names) :
    (children : List StructureNode) → (∀ child ∈ children, child ∈ p.source.children) →
      Headed known (listingOf (p.above ++ [names]) names children)
  | [], _ => by
    rw [listingOf]
    trivial
  | child :: rest, inside => by
    obtain ⟨first, others⟩ := List.forall_mem_cons.mp inside
    rw [listingOf]
    refine Headed.append ?_ (headed_listingOf isKnown address rest others)
    split
    · rw [listing_eq_cons]
      refine ⟨⟨p, isKnown, ?_, ?_, first⟩, headed_tail known _ _ child⟩
      · rw [address]
        rfl
      · rw [address]
        rfl
    · trivial

end

end SiteAtlas.TreeLayout
