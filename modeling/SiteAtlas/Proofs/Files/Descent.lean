import SiteAtlas.Proofs.Files.Shape

/-! # Going on along a path

What is found along the first names of a path is found again with more names behind them, and in any
system that has all that the first one has. So one goes on from there.
-/

namespace SiteAtlas

theorem FileNode.at?_append {first second : List String} {root inner : FileNode}
    (found : root.at? first = some inner) : root.at? (first ++ second) = inner.at? second := by
  induction first generalizing root with
  | nil =>
    cases found
    rfl
  | cons name rest ih =>
    obtain ⟨next, entry, found⟩ := Option.bind_eq_some_iff.mp found
    rw [List.cons_append, at?, entry, Option.bind_some, ih found]

namespace FileSystem

open FileNode

variable {fs fs' : FileSystem} {listing node : FileNode} {names : List String}

/-- Whether all that one system has is in another one, of the same kind, links with their targets.
Only names that lead nowhere in the first one may lead to anything in the other one. -/
def IsPartOf (fs fs' : FileSystem) : Prop :=
  ∀ names node, fs.node? names = some node →
    ∃ node', fs'.node? names = some node' ∧ node.shape = node'.shape

theorem IsPartOf.refl (fs : FileSystem) : fs.IsPartOf fs :=
  fun _ node found => ⟨node, found, rfl⟩

section IsPartOf

variable (part : fs.IsPartOf fs')
include part

theorem IsPartOf.folder {entries : List (String × FileNode)}
    (found : fs.node? names = some (folder entries)) :
    ∃ entries', fs'.node? names = some (folder entries') := by
  obtain ⟨node', found', shapes⟩ := part names _ found
  rcases shape_eq_iff.mp shapes with rfl | ⟨_, _, other, -⟩ | ⟨_, _, -, rfl⟩
  · exact ⟨_, found'⟩
  · cases other
  · exact ⟨_, found'⟩

theorem IsPartOf.file {content : ByteArray} (found : fs.node? names = some (.file content)) :
    ∃ content', fs'.node? names = some (.file content') := by
  obtain ⟨node', found', shapes⟩ := part names _ found
  rcases shape_eq_iff.mp shapes with rfl | ⟨_, _, -, rfl⟩ | ⟨_, _, other, -⟩
  · exact ⟨_, found'⟩
  · exact ⟨_, found'⟩
  · cases other

theorem IsPartOf.link {target : String} (found : fs.node? names = some (.link target)) :
    fs'.node? names = some (.link target) := by
  obtain ⟨node', found', shapes⟩ := part names _ found
  rcases shape_eq_iff.mp shapes with rfl | ⟨_, _, other, -⟩ | ⟨_, _, other, -⟩
  · exact found'
  · cases other
  · cases other

/-- Names that lead to a place, and more names behind them, which lead on from a folder there. What
is found behind links has to be gone on from as well. -/
theorem scan_append {follow follow' : List String → List String → Except FileError (List String)}
    {strict : Bool} {last tail : List String} {result : Except FileError (List String)}
    (goesOn : tail = [] ∨ ∃ entries, fs.node? last.reverse = some (folder entries))
    (behind : ∀ done pending, follow done pending = .ok last →
      follow' done (pending ++ tail) = result)
    (onward : scan fs' strict follow' last tail = result) {done pending : List String}
    (success : scan fs true follow done pending = .ok last) :
    scan fs' strict follow' done (pending ++ tail) = result := by
  fun_induction scan fs true follow done pending with
  | case1 done =>
    cases success
    exact onward
  | case2 done rest ih => exact ih success
  | case3 done name rest up entries there ih =>
    obtain ⟨entries', there'⟩ := part.folder there
    rw [List.cons_append, scan, there']
    · exact ih success
    · exact up
  | case4 done name rest up target there path =>
    have onwards := behind _ _ success
    rw [List.append_assoc] at onwards
    rw [List.cons_append, scan, part.link there]
    · exact onwards
    · exact up
  | case5 => cases success
  | case6 done name rest up content there notStrict ih =>
    -- A file is gone on from only if it is the last name, and then no more names may follow.
    obtain rfl : rest = [] := by simpa using notStrict
    obtain ⟨content', there'⟩ := part.file there
    rcases goesOn with rfl | ⟨entries, isFolder⟩
    · rw [List.cons_append, scan, there']
      · simpa using ih success
      · exact up
    · cases success
      cases there.symm.trans isFolder
  | case7 => cases success
  | case8 done name rest up there notStrict ih => exact absurd rfl notStrict

theorem walk_append {strict : Bool} {links : Nat} {done pending last tail : List String}
    {result : Except FileError (List String)}
    (goesOn : tail = [] ∨ ∃ entries, fs.node? last.reverse = some (folder entries))
    (onward : ∀ follow, scan fs' strict follow last tail = result)
    (success : walk fs true links done pending = .ok last) :
    walk fs' strict links done (pending ++ tail) = result := by
  induction links generalizing done pending with
  | zero =>
    refine scan_append part goesOn ?_ (onward _) success
    intro done pending behind
    cases behind
  | succ links ih =>
    refine scan_append part goesOn ?_ (onward _) success
    intro done pending behind
    exact ih behind

/-- What names lead to is found in the other system as well, in a strict way or not. -/
theorem walk_of_isPartOf {strict : Bool} {links : Nat} {done pending last : List String}
    (success : walk fs true links done pending = .ok last) :
    walk fs' strict links done pending = .ok last := by
  have same : walk fs' strict links done (pending ++ []) = .ok last :=
    walk_append part (.inl rfl) (fun _ => rfl) success
  rwa [List.append_nil] at same

end IsPartOf

/-- From a place free of links, names that lead down real folders are kept as they are. -/
theorem scan_down {follow : List String → List String → Except FileError (List String)}
    {done : List String} (here : fs.node? done.reverse = some listing)
    (below : listing.at? names = some node) (noUp : ".." ∉ names)
    (noLink : ∀ target, node ≠ .link target) :
    scan fs true follow done names = .ok (names.reverse ++ done) := by
  induction names generalizing done listing with
  | nil => rfl
  | cons name rest ih =>
    obtain ⟨other, others⟩ := not_or.mp (mt List.mem_cons.mpr noUp)
    obtain ⟨inner, entry, below⟩ := Option.bind_eq_some_iff.mp below
    have there : fs.node? (name :: done).reverse = some inner := by
      rw [List.reverse_cons, node?, FileNode.at?_append here, FileNode.at?, entry]
      rfl
    have step := ih there below others
    rw [List.reverse_cons, List.append_assoc, List.singleton_append]
    rw [scan, there]
    · -- What leads on to another name is a folder.
      cases inner with
      | folder entries => exact step
      | file content =>
        cases rest with
        | nil => exact step
        | cons next rest => cases below
      | link target =>
        cases rest with
        | nil =>
          cases below
          exact absurd rfl (noLink target)
        | cons next rest => cases below
    · exact Ne.symm other

/-- What lies below a folder that names lead to is found by the names on the way down. -/
theorem walk_append_down (isFolder : listing.isFolder = true)
    (below : listing.at? names = some node) (noUp : ".." ∉ names)
    (noLink : ∀ target, node ≠ .link target) {links : Nat} {done pending last : List String}
    (success : walk fs true links done pending = .ok last)
    (found : fs.node? last.reverse = some listing) :
    walk fs true links done (pending ++ names) = .ok (names.reverse ++ last) := by
  have goesOn : ∃ entries, fs.node? last.reverse = some (folder entries) := by
    cases listing with
    | folder entries => exact ⟨entries, found⟩
    | _ => cases isFolder
  exact walk_append (.refl fs) (.inr goesOn) (fun _ => scan_down found below noUp noLink) success

end FileSystem

end SiteAtlas
