import SiteAtlas.Project.Walk
import SiteAtlas.Proofs.Files.ListingOrder
import Mathlib.Data.String.Basic

/-! # The entries that a walk comes to

A walk comes to an entry below the project's root if neither the entry nor a folder that it lies in
is ignored. It comes to each of them once, by the names that lead to it through folders alone.
-/

namespace SiteAtlas

/-- The path of what lies below a path. -/
def Path.descend (p : Path) (names : List String) : Path := ⟨p.slashes, p.parts ++ names⟩

theorem Path.child_descend (p : Path) (names : List String) (name : String) :
    (p.descend names).child name = p.descend (names ++ [name]) := by
  rw [child, descend, descend, List.append_assoc]

theorem Path.descend_nil (p : Path) : p.descend [] = p := by
  rw [descend, List.append_nil]

theorem Path.Proper.descend {p : Path} {names : List String} (proper : p.Proper)
    (parts : ∀ name ∈ names, Path.IsPart name) : (p.descend names).Proper :=
  ⟨proper.slashes, List.forall_mem_append.mpr ⟨proper.parts, parts⟩⟩

theorem Path.forall_isPart_concat {names : List String} {last : String}
    (parts : ∀ name ∈ names, Path.IsPart name) (isPart : Path.IsPart last) :
    ∀ name ∈ names ++ [last], Path.IsPart name :=
  List.forall_mem_append.mpr ⟨parts, List.forall_mem_singleton.mpr isPart⟩

theorem Path.name_child (p : Path) (name : String) : (p.child name).name = name := by
  simp [Path.name, child]

namespace Walk

/-- The path of an entry from the project's root, by the names on the way. -/
def relativeOf (names : List String) : String := "/".intercalate names

section RelativePaths

variable {names names' : List String}

theorem toList_relativeOf (names : List String) :
    (relativeOf names).toList = ['/'].intercalate (names.map String.toList) :=
  String.toList_intercalate

theorem relativeOf_ne_empty (nonempty : names ≠ []) (parts : ∀ name ∈ names, Path.IsPart name) :
    relativeOf names ≠ "" := by
  obtain ⟨first, rest, rfl⟩ := List.exists_cons_of_ne_nil nonempty
  intro empty
  have filled : first.toList ≠ [] :=
    mt String.toList_eq_nil_iff.mp (parts first List.mem_cons_self).1
  have head : (relativeOf (first :: rest)).toList.head? = first.toList.head? := by
    rw [toList_relativeOf, List.map_cons, Text.head?_intercalate_cons filled]
  rw [empty] at head
  exact filled (List.head?_eq_none_iff.mp head.symm)

theorem childPath_relativeOf (parts : ∀ name ∈ names, Path.IsPart name) (name : String) :
    childPath (relativeOf names) name = relativeOf (names ++ [name]) := by
  unfold childPath
  by_cases empty : names = []
  · subst empty
    rfl
  · rw [if_neg (by simpa using relativeOf_ne_empty empty parts), relativeOf, relativeOf,
      String.intercalate_append_of_ne_nil empty (List.cons_ne_nil name []),
      String.intercalate_singleton]

/-- A path from the root can be read in one way only. -/
theorem relativeOf_inj (parts : ∀ name ∈ names, Path.IsPart name)
    (parts' : ∀ name ∈ names', Path.IsPart name) :
    relativeOf names = relativeOf names' ↔ names = names' := by
  refine ⟨fun same => ?_, congrArg relativeOf⟩
  by_cases empty : names = []
  · subst empty
    by_contra other
    exact relativeOf_ne_empty (Ne.symm other) parts' same.symm
  by_cases empty' : names' = []
  · subst empty'
    exact absurd same (relativeOf_ne_empty empty parts)
  have pieces {names : List String} (nonempty : names ≠ [])
      (parts : ∀ name ∈ names, Path.IsPart name) :
      (relativeOf names).toList.splitOn '/' = names.map String.toList := by
    rw [toList_relativeOf]
    refine List.splitOn_intercalate '/' ?_ (by simpa using nonempty)
    rintro _ piece
    obtain ⟨name, member, rfl⟩ := List.mem_map.mp piece
    exact (parts name member).2.2
  have lists : names.map String.toList = names'.map String.toList := by
    rw [← pieces empty parts, same, pieces empty' parts']
  exact List.map_injective_iff.mpr (fun _ _ => String.toList_inj.mp) lists

end RelativePaths

/-! ## What a walk comes to -/

mutual

/-- The entries that a walk comes to at and below an entry, each with the names that lead to it. -/
def kept (w : Walk) (names : List String) : FileNode → List (List String × FileNode)
  | .folder entries =>
    if w.isIgnored (relativeOf names) true then []
    else (names, .folder entries) :: keptIn w names entries
  | .file content =>
    if w.isIgnored (relativeOf names) false then [] else [(names, .file content)]
  | .link target =>
    if w.isIgnored (relativeOf names) false then [] else [(names, .link target)]

/-- The entries that a walk comes to in and below a folder. -/
def keptIn (w : Walk) (names : List String) :
    List (String × FileNode) → List (List String × FileNode)
  | [] => []
  | (name, node) :: rest => kept w (names ++ [name]) node ++ keptIn w names rest

end

section Kept

variable {w : Walk} {base : List String} {entries : List (String × FileNode)}
  {row : List String × FileNode}

theorem keptIn_eq_flatMap (w : Walk) (names : List String) (entries : List (String × FileNode)) :
    w.keptIn names entries = entries.flatMap fun e => w.kept (names ++ [e.1]) e.2 := by
  induction entries with
  | nil => rw [keptIn, List.flatMap_nil]
  | cons e rest ih => rw [keptIn, ih, List.flatMap_cons]

theorem kept_eq (w : Walk) (names : List String) (node : FileNode) :
    w.kept names node = if w.isIgnored (relativeOf names) node.isFolder then []
      else (names, node) :: w.keptIn names node.entries := by
  cases node with
  | file content => simp [kept, keptIn, FileNode.entries, FileNode.isFolder]
  | link target => simp [kept, keptIn, FileNode.entries, FileNode.isFolder]
  | folder entries => rw [kept]; rfl

theorem mem_keptIn_iff : row ∈ w.keptIn base entries ↔
    ∃ e ∈ entries, row ∈ w.kept (base ++ [e.1]) e.2 := by
  rw [keptIn_eq_flatMap, List.mem_flatMap]

theorem mem_kept_iff {node : FileNode} : row ∈ w.kept base node ↔
    w.isIgnored (relativeOf base) node.isFolder = false ∧
      (row = (base, node) ∨ ∃ e ∈ node.entries, row ∈ w.kept (base ++ [e.1]) e.2) := by
  rw [kept_eq]
  cases w.isIgnored (relativeOf base) node.isFolder with
  | true => simp
  | false => simp [mem_keptIn_iff]

/-- The names of what is kept at and below an entry begin with those of the entry. -/
theorem prefix_of_mem_kept {node : FileNode} (member : row ∈ w.kept base node) :
    base <+: row.1 := by
  induction node using FileNode.induction_entries generalizing base with
  | step node ih =>
    obtain ⟨-, rfl | ⟨e, isEntry, below⟩⟩ := mem_kept_iff.mp member
    · exact List.prefix_rfl
    · exact (List.prefix_append base [e.1]).trans (ih e isEntry below)

/-- A walk comes to no names twice. -/
theorem nodup_keptIn {node : FileNode} (proper : node.isProper = true) (base : List String) :
    ((w.keptIn base node.entries).map Prod.fst).Nodup := by
  induction node using FileNode.induction_entries generalizing base with
  | step node ih =>
    obtain ⟨distinct, parts⟩ := FileNode.isProper_iff.mp proper
    rw [keptIn_eq_flatMap, List.map_flatMap, List.nodup_flatMap]
    constructor
    · intro e isEntry
      have inner := ih e isEntry (parts e isEntry).2 (base ++ [e.1])
      rw [kept_eq]
      split
      · exact List.nodup_nil
      · refine List.nodup_cons.mpr ⟨fun own => ?_, inner⟩
        obtain ⟨row, below, same⟩ := List.mem_map.mp own
        obtain ⟨e', -, below⟩ := mem_keptIn_iff.mp below
        have longer := (prefix_of_mem_kept below).length_le
        rw [same] at longer
        simp at longer
    · refine (List.pairwise_map.mp distinct).imp fun other => ?_
      intro names here there
      obtain ⟨row, below, rfl⟩ := List.mem_map.mp here
      obtain ⟨row', below', same⟩ := List.mem_map.mp there
      have begins := prefix_of_mem_kept below
      have begins' := prefix_of_mem_kept below'
      rw [same] at begins'
      have both := List.prefix_of_prefix_length_le begins begins' (by simp)
      exact other (List.singleton_inj.mp (List.append_cancel_left (both.eq_of_length (by simp))))

end Kept

/-! ## What is kept -/

/-- What names lead to below a folder is kept if neither it nor a folder above it is ignored. -/
def Keeps (w : Walk) (listing : FileNode) (names : List String) (node : FileNode) : Prop :=
  names ≠ [] ∧ listing.at? names = some node ∧
    ∀ above inner, above ≠ [] → above <+: names → listing.at? above = some inner →
      w.isIgnored (relativeOf above) inner.isFolder = false

/-- No entry is ignored on the way from one at `base` down along some names. -/
def IsOpen (w : Walk) (base : List String) (node : FileNode) (names : List String) : Prop :=
  ∀ above inner, above <+: names → node.at? above = some inner →
    w.isIgnored (relativeOf (base ++ above)) inner.isFolder = false

section Keeps

variable {w : Walk} {base names : List String} {name : String} {node inner : FileNode}

theorem isOpen_nil : w.IsOpen base node [] ↔
    w.isIgnored (relativeOf base) node.isFolder = false := by
  constructor
  · intro isOpen
    have own := isOpen [] node List.prefix_rfl rfl
    rwa [List.append_nil] at own
  · intro own above inner begins found
    obtain rfl := List.prefix_nil.mp begins
    cases found
    rwa [List.append_nil]

theorem isOpen_cons (entry : node.entry? name = some inner) :
    w.IsOpen base node (name :: names) ↔
      w.isIgnored (relativeOf base) node.isFolder = false ∧
        w.IsOpen (base ++ [name]) inner names := by
  constructor
  · intro isOpen
    refine ⟨isOpen_nil.mp fun above inner begins => ?_, fun above below begins found => ?_⟩
    · exact isOpen above inner (begins.trans List.nil_prefix)
    · have own := isOpen (name :: above) below ((List.prefix_cons_inj name).mpr begins)
        (Option.bind_eq_some_iff.mpr ⟨inner, entry, found⟩)
      rwa [List.append_cons] at own
  · rintro ⟨own, isOpen⟩ above below begins found
    cases above with
    | nil => exact isOpen_nil.mpr own [] below List.prefix_rfl found
    | cons first rest =>
      obtain ⟨rfl, onTheWay⟩ := List.cons_prefix_cons.mp begins
      obtain ⟨inner', entry', found⟩ := Option.bind_eq_some_iff.mp found
      obtain rfl : inner = inner' := Option.some.inj (entry.symm.trans entry')
      rw [List.append_cons]
      exact isOpen rest below onTheWay found

theorem mem_kept_iff_isOpen {row : List String × FileNode} (proper : node.isProper = true) :
    row ∈ w.kept base node ↔
      ∃ names, row.1 = base ++ names ∧ node.at? names = some row.2 ∧ w.IsOpen base node names := by
  induction node using FileNode.induction_entries generalizing base with
  | step node ih =>
    rw [mem_kept_iff]
    constructor
    · rintro ⟨own, rfl | ⟨e, isEntry, below⟩⟩
      · exact ⟨[], (List.append_nil base).symm, rfl, isOpen_nil.mpr own⟩
      · have entry := (FileNode.entry?_eq_some_iff proper).mpr isEntry
        obtain ⟨names, whole, found, isOpen⟩ :=
          (ih e isEntry (FileNode.proper_of_isEntry proper entry).2).mp below
        refine ⟨e.1 :: names, whole.trans (List.append_cons base e.1 names).symm, ?_, ?_⟩
        · exact Option.bind_eq_some_iff.mpr ⟨e.2, entry, found⟩
        · exact (isOpen_cons entry).mpr ⟨own, isOpen⟩
    · rintro ⟨names, whole, found, isOpen⟩
      cases names with
      | nil =>
        cases found
        exact ⟨isOpen_nil.mp isOpen, .inl (Prod.ext (whole.trans (List.append_nil base)) rfl)⟩
      | cons name rest =>
        obtain ⟨inner, entry, found⟩ := Option.bind_eq_some_iff.mp found
        have isEntry := (FileNode.entry?_eq_some_iff proper).mp entry
        obtain ⟨own, isOpen⟩ := (isOpen_cons entry).mp isOpen
        refine ⟨own, .inr ⟨(name, inner), isEntry, ?_⟩⟩
        apply (ih (name, inner) isEntry (FileNode.proper_of_isEntry proper entry).2).mpr
        exact ⟨rest, whole.trans (List.append_cons base name rest), found, isOpen⟩

/-- A walk comes to exactly what is kept. -/
theorem mem_keptIn_iff_keeps {listing : FileNode} (proper : listing.isProper = true) :
    (names, node) ∈ w.keptIn [] listing.entries ↔ w.Keeps listing names node := by
  rw [mem_keptIn_iff]
  constructor
  · rintro ⟨e, isEntry, member⟩
    have entry := (FileNode.entry?_eq_some_iff proper).mpr isEntry
    obtain ⟨rest, rfl, found, isOpen⟩ :=
      (mem_kept_iff_isOpen (FileNode.proper_of_isEntry proper entry).2).mp member
    refine ⟨by simp, Option.bind_eq_some_iff.mpr ⟨e.2, entry, found⟩, ?_⟩
    intro above inner nonempty begins found
    cases above with
    | nil => exact absurd rfl nonempty
    | cons first above =>
      obtain ⟨rfl, onTheWay⟩ := List.cons_prefix_cons.mp begins
      obtain ⟨inner', entry', found⟩ := Option.bind_eq_some_iff.mp found
      obtain rfl : e.2 = inner' := Option.some.inj (entry.symm.trans entry')
      exact isOpen above inner onTheWay found
  · rintro ⟨nonempty, found, isOpen⟩
    obtain ⟨name, rest, rfl⟩ := List.exists_cons_of_ne_nil nonempty
    obtain ⟨inner, entry, found⟩ := Option.bind_eq_some_iff.mp found
    refine ⟨(name, inner), (FileNode.entry?_eq_some_iff proper).mp entry, ?_⟩
    apply (mem_kept_iff_isOpen (FileNode.proper_of_isEntry proper entry).2).mpr
    refine ⟨rest, rfl, found, fun above below begins found => ?_⟩
    exact isOpen (name :: above) below (List.cons_ne_nil _ _)
      ((List.prefix_cons_inj name).mpr begins)
      (Option.bind_eq_some_iff.mpr ⟨inner, entry, found⟩)

end Keeps

end Walk

end SiteAtlas
