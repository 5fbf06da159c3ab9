import SiteAtlas.Proofs.Files.Path
import SiteAtlas.Proofs.Files.Shape
import Mathlib.Data.List.Nodup

/-! # The order in which folders list their entries

In a proper tree of files no folder has two entries of one name, so that it does not matter in which
order the entries are listed: whatever a path leads to, it leads to when they are listed in another
order, too.
-/

namespace SiteAtlas

instance (name : String) : Decidable (Path.IsPart name) :=
  inferInstanceAs (Decidable (_ ∧ _ ∧ _))

namespace FileNode

/-- What holds of a node whenever it holds of its entries holds of all nodes. -/
theorem induction_entries {motive : FileNode → Prop}
    (step : ∀ node : FileNode, (∀ e ∈ node.entries, motive e.2) → motive node) (node : FileNode) :
    motive node := by
  refine step node fun e member => ?_
  have smaller : sizeOf e.2 < sizeOf node := by
    cases node with
    | file content => exact absurd member List.not_mem_nil
    | link target => exact absurd member List.not_mem_nil
    | folder entries =>
      have listed := List.sizeOf_lt_of_mem (show e ∈ entries from member)
      have parts : sizeOf e = 1 + sizeOf e.1 + sizeOf e.2 := by
        cases e
        rfl
      have whole : sizeOf (folder entries) = 1 + sizeOf entries := folder.sizeOf_spec entries
      omega
  exact induction_entries step e.2
termination_by sizeOf node

mutual

/-- Whether the entries of each folder have different names, and names that can stand in a path. -/
def isProper : FileNode → Bool
  | file _ => true
  | link _ => true
  | folder entries => decide (entries.map Prod.fst).Nodup && areProper entries

/-- Whether entries have names that can stand in a path, and are proper themselves. -/
def areProper : List (String × FileNode) → Bool
  | [] => true
  | (name, node) :: rest => decide (Path.IsPart name) && isProper node && areProper rest

end

section Proper

variable {node inner : FileNode} {name : String}

theorem areProper_iff {entries : List (String × FileNode)} : areProper entries = true ↔
    ∀ e ∈ entries, Path.IsPart e.1 ∧ e.2.isProper = true := by
  induction entries with
  | nil => simp [areProper]
  | cons e rest ih => simp [areProper, ih]

theorem isProper_iff : node.isProper = true ↔ (node.entries.map Prod.fst).Nodup ∧
    ∀ e ∈ node.entries, Path.IsPart e.1 ∧ e.2.isProper = true := by
  cases node with
  | file content => simp [isProper, entries]
  | link target => simp [isProper, entries]
  | folder entries => rw [isProper, Bool.and_eq_true, decide_eq_true_iff, areProper_iff]; rfl

/-- The entry of a name is found in whatever place it is. -/
theorem entry?_eq_some_iff (proper : node.isProper = true) :
    node.entry? name = some inner ↔ (name, inner) ∈ node.entries := by
  obtain ⟨distinct, -⟩ := isProper_iff.mp proper
  unfold entry?
  rw [Option.map_eq_some_iff]
  constructor
  · rintro ⟨e, found, rfl⟩
    have sameName : e.1 = name := by simpa using List.find?_some found
    exact sameName ▸ List.mem_of_find?_eq_some found
  · intro member
    obtain ⟨e, found⟩ : ∃ e, (node.entries.find? fun e => e.1 == name) = some e :=
      Option.isSome_iff_exists.mp (List.find?_isSome.mpr ⟨_, member, beq_self_eq_true name⟩)
    have sameName : e.1 = name := by simpa using List.find?_some found
    have same := List.inj_on_of_nodup_map distinct (List.mem_of_find?_eq_some found) member sameName
    exact ⟨e, found, congrArg Prod.snd same⟩

theorem proper_of_isEntry (proper : node.isProper = true) (found : node.entry? name = some inner) :
    Path.IsPart name ∧ inner.isProper = true :=
  (isProper_iff.mp proper).2 _ ((entry?_eq_some_iff proper).mp found)

/-- What names lead to in a proper tree is proper. -/
theorem proper_of_at? {names : List String} (proper : node.isProper = true)
    (found : node.at? names = some inner) : inner.isProper = true := by
  induction names generalizing node with
  | nil =>
    cases found
    exact proper
  | cons name rest ih =>
    obtain ⟨first, entry, found⟩ := Option.bind_eq_some_iff.mp found
    exact ih (proper_of_isEntry proper entry).2 found

theorem parts_of_at? {names : List String} (proper : node.isProper = true)
    (found : node.at? names = some inner) : ∀ name ∈ names, Path.IsPart name := by
  induction names generalizing node with
  | nil => exact List.forall_mem_nil _
  | cons name rest ih =>
    obtain ⟨first, entry, found⟩ := Option.bind_eq_some_iff.mp found
    obtain ⟨isPart, inside⟩ := proper_of_isEntry proper entry
    exact List.forall_mem_cons.mpr ⟨isPart, ih inside found⟩

end Proper

/-! ## Listings in another order -/

/-- The same files with the entries of some folders listed in another order. -/
inductive Reordered : FileNode → FileNode → Prop where
  | refl (node : FileNode) : Reordered node node
  /-- One folder lists its entries in another order. -/
  | swap {entries entries' : List (String × FileNode)} : entries.Perm entries' →
    Reordered (folder entries) (folder entries')
  /-- The same further down, in an entry of a folder. -/
  | inside {before after : List (String × FileNode)} {name : String} {node node' : FileNode} :
    Reordered node node' → Reordered (folder (before ++ (name, node) :: after))
      (folder (before ++ (name, node') :: after))
  | trans {first second third : FileNode} : Reordered first second → Reordered second third →
    Reordered first third

namespace Reordered

variable {first second inner : FileNode}

theorem symm (same : Reordered first second) : Reordered second first := by
  induction same with
  | refl node => exact .refl node
  | swap perm => exact .swap perm.symm
  | inside _ ih => exact .inside ih
  | trans _ _ ih ih' => exact .trans ih' ih

/-- What has no entries stays as it is, and a folder stays a folder. -/
theorem cases (same : Reordered first second) : first = second ∨
    ∃ entries entries', first = folder entries ∧ second = folder entries' := by
  induction same with
  | refl node => exact .inl rfl
  | swap _ => exact .inr ⟨_, _, rfl, rfl⟩
  | inside _ _ => exact .inr ⟨_, _, rfl, rfl⟩
  | trans _ _ ih ih' =>
    rcases ih with rfl | ⟨entries, entries', rfl, isFolder⟩
    · exact ih'
    · rcases ih' with rfl | ⟨_, entries'', _, rfl⟩
      · exact .inr ⟨_, _, rfl, isFolder⟩
      · exact .inr ⟨_, _, rfl, rfl⟩

theorem names_perm (same : Reordered first second) :
    (first.entries.map Prod.fst).Perm (second.entries.map Prod.fst) := by
  induction same with
  | refl node => exact List.Perm.refl _
  | swap perm => exact perm.map _
  | inside _ _ => simp [entries]
  | trans _ _ ih ih' => exact ih.trans ih'

/-- Each entry is listed under its name in the other order, too. -/
theorem exists_mem_entries {name : String} (same : Reordered first second)
    (member : (name, inner) ∈ first.entries) :
    ∃ inner', (name, inner') ∈ second.entries ∧ Reordered inner inner' := by
  induction same generalizing inner with
  | refl node => exact ⟨inner, member, .refl inner⟩
  | swap perm => exact ⟨inner, perm.mem_iff.mp member, .refl inner⟩
  | @inside before after other node node' moved _ =>
    rcases List.mem_append.mp member with earlier | member
    · exact ⟨inner, List.mem_append_left _ earlier, .refl inner⟩
    · rcases List.mem_cons.mp member with isThis | later
      · cases isThis
        exact ⟨node', List.mem_append_right _ List.mem_cons_self, moved⟩
      · exact ⟨inner, List.mem_append_right _ (List.mem_cons_of_mem _ later), .refl inner⟩
  | trans _ _ ih ih' =>
    obtain ⟨middle, member, moved⟩ := ih member
    obtain ⟨last, member, moved'⟩ := ih' member
    exact ⟨last, member, .trans moved moved'⟩

theorem isProper (same : Reordered first second) (proper : first.isProper = true) :
    second.isProper = true := by
  induction same with
  | refl node => exact proper
  | swap perm =>
    obtain ⟨distinct, parts⟩ := isProper_iff.mp proper
    exact isProper_iff.mpr
      ⟨(perm.map Prod.fst).nodup_iff.mp distinct, fun e member => parts e (perm.mem_iff.mpr member)⟩
  | @inside before after name node node' moved ih =>
    obtain ⟨distinct, parts⟩ := isProper_iff.mp proper
    refine isProper_iff.mpr ⟨(Reordered.inside moved).names_perm.nodup_iff.mp distinct, ?_⟩
    intro e member
    rcases List.mem_append.mp member with earlier | member
    · exact parts e (List.mem_append_left _ earlier)
    · rcases List.mem_cons.mp member with rfl | later
      · have old := parts (name, node) (List.mem_append_right _ List.mem_cons_self)
        exact ⟨old.1, ih old.2⟩
      · exact parts e (List.mem_append_right _ (List.mem_cons_of_mem _ later))
  | trans _ _ ih ih' => exact ih' (ih proper)

/-- Names lead to the same in both orders. -/
theorem exists_at? {names : List String} (same : Reordered first second)
    (proper : first.isProper = true) (found : first.at? names = some inner) :
    ∃ inner', second.at? names = some inner' ∧ Reordered inner inner' := by
  induction names generalizing first second with
  | nil =>
    cases found
    exact ⟨second, rfl, same⟩
  | cons name rest ih =>
    obtain ⟨entry, isEntry, found⟩ := Option.bind_eq_some_iff.mp found
    obtain ⟨entry', member, moved⟩ :=
      same.exists_mem_entries ((entry?_eq_some_iff proper).mp isEntry)
    have isEntry' := (entry?_eq_some_iff (same.isProper proper)).mpr member
    obtain ⟨inner', found', moved'⟩ := ih moved (proper_of_isEntry proper isEntry).2 found
    exact ⟨inner', Option.bind_eq_some_iff.mpr ⟨entry', isEntry', found'⟩, moved'⟩

end Reordered

end FileNode

/-! ## What paths lead to -/

namespace FileSystem

open FileNode

variable {fs fs' : FileSystem} (same : Reordered fs.root fs'.root)
  (proper : fs.root.isProper = true)
include same proper

theorem node?_reordered (names : List String) :
    fs.node? names = fs'.node? names ∨ ∃ entries entries', fs.node? names = some (folder entries) ∧
      fs'.node? names = some (folder entries') := by
  cases found : fs.node? names with
  | none =>
    cases found' : fs'.node? names with
    | none => exact .inl rfl
    | some node =>
      obtain ⟨node', isThere, -⟩ := same.symm.exists_at? (same.isProper proper) found'
      exact absurd (found.symm.trans isThere) nofun
  | some node =>
    obtain ⟨node', found', moved⟩ := same.exists_at? proper found
    rw [show fs'.node? names = some node' from found']
    rcases moved.cases with rfl | ⟨entries, entries', rfl, rfl⟩
    · exact .inl rfl
    · exact .inr ⟨entries, entries', rfl, rfl⟩

theorem sameShape_reordered : fs.SameShape fs' := by
  intro names
  rcases node?_reordered same proper names with sameNode | ⟨_, _, node, node'⟩
  · rw [sameNode]
  · rw [node, node']
    rfl

/-- A path leads to the same in both orders, or to nothing for the same reason. -/
theorem lookup_reordered (p : Path) : fs.lookup p = fs'.lookup p ∨
    ∃ entries entries', fs.lookup p = .ok (folder entries) ∧
      fs'.lookup p = .ok (folder entries') := by
  rw [lookup, lookup, locate_congr (sameShape_reordered same proper)]
  cases fs'.locate p with
  | error e => exact .inl rfl
  | ok names =>
    rcases node?_reordered same proper names with sameNode | ⟨entries, entries', node, node'⟩
    · refine .inl ?_
      dsimp only [bind, Except.bind]
      rw [sameNode]
    · refine .inr ⟨entries, entries', ?_, ?_⟩
      · dsimp only [bind, Except.bind]
        rw [node]
        rfl
      · dsimp only [bind, Except.bind]
        rw [node']
        rfl

theorem content_reordered (p : Path) : fs.content p = fs'.content p := by
  rw [content, content]
  rcases lookup_reordered same proper p with found | ⟨entries, entries', found, found'⟩
  · rw [found]
  · rw [found, found']
    rfl

/-- What a path leads to is the same in both orders, but for the order. -/
theorem exists_lookup {p : Path} {node : FileNode} (found : fs.lookup p = .ok node) :
    ∃ node', fs'.lookup p = .ok node' ∧ Reordered node node' := by
  obtain ⟨names, located, isThere⟩ := bind_eq_ok_iff.mp found
  cases inTree : fs.node? names with
  | none =>
    rw [inTree] at isThere
    cases isThere
  | some inner =>
    rw [inTree] at isThere
    cases isThere
    obtain ⟨node', inTree', moved⟩ := same.exists_at? proper inTree
    refine ⟨node', bind_eq_ok_iff.mpr ⟨names, ?_, ?_⟩, moved⟩
    · rw [← locate_congr (sameShape_reordered same proper), located]
    · rw [show fs'.node? names = some node' from inTree']
      rfl

omit same in
theorem isProper_of_lookup {p : Path} {node : FileNode} (found : fs.lookup p = .ok node) :
    node.isProper = true := by
  obtain ⟨names, -, isThere⟩ := bind_eq_ok_iff.mp found
  cases inTree : fs.node? names with
  | none =>
    rw [inTree] at isThere
    cases isThere
  | some inner =>
    rw [inTree] at isThere
    cases isThere
    exact proper_of_at? proper inTree

end FileSystem

end SiteAtlas
