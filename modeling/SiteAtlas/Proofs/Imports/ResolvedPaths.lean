import SiteAtlas.Proofs.Imports.Spellings
import SiteAtlas.Proofs.Imports.Targets

/-! # The paths that sources are resolved to

In a project whose root starts at the top of the file system, a source that is seen from a script or
from the root is resolved to a path that nothing can be left out of, however far its `..` climb. The
relative path that is told with it climbs from the root to the last folder that both have in common
and goes down from there, so that going along it from the root leads to the resolved path again. So
the resolved path decides what else is told of the place: two sources with one target share its
relative path and its id.
-/

namespace SiteAtlas

namespace Path

/-! ## Canonical paths -/

/-- A path from the top of the file system that nothing can be left out of. -/
structure IsCanonical (p : Path) : Prop where
  slashes : p.slashes = 1
  names : ∀ name ∈ p.parts, IsPart name ∧ name ≠ ".."

/-- A text that is a slash and, behind it, names between single slashes, none of which is empty, `.`
or `..`. -/
def IsCanonicalText (text : String) : Prop :=
  ∃ names : List String, (∀ name ∈ names, IsPart name ∧ name ≠ "..") ∧
    text = "/" ++ "/".intercalate names

instance (p : Path) : Decidable p.IsCanonical :=
  decidable_of_iff (p.slashes = 1 ∧
      ∀ name ∈ p.parts, (name ≠ "" ∧ name ≠ "." ∧ '/' ∉ name.toList) ∧ name ≠ "..")
    ⟨fun both => ⟨both.1, both.2⟩, fun canonical => ⟨canonical.slashes, canonical.names⟩⟩

section Canonical

variable {p : Path} (canonical : p.IsCanonical)
include canonical

theorem IsCanonical.proper : p.Proper where
  slashes := by
    have single := canonical.slashes
    omega
  parts := fun name member => (canonical.names name member).1

theorem IsCanonical.isAbsolute : p.isAbsolute = true := by
  rw [Path.isAbsolute, canonical.slashes]
  rfl

theorem IsCanonical.noUp : ".." ∉ p.parts := fun member => (canonical.names _ member).2 rfl

theorem IsCanonical.parent : p.parent.IsCanonical :=
  ⟨canonical.slashes, fun name member => canonical.names name (List.dropLast_subset _ member)⟩

theorem IsCanonical.child {name : String} (isPart : IsPart name) (other : name ≠ "..") :
    (p.child name).IsCanonical := by
  refine ⟨canonical.slashes, fun name' member => ?_⟩
  rcases List.mem_append.mp member with above | last
  · exact canonical.names name' above
  · obtain rfl := List.mem_singleton.mp last
    exact ⟨isPart, other⟩

/-- A longer last name is no `..` either, if what is put to it is longer than that. -/
theorem IsCanonical.extended {extension : String} (long : 3 ≤ extension.length)
    (free : '/' ∉ extension.toList) : (p.extended extension).IsCanonical := by
  have proper := canonical.proper.extended (by omega) free
  unfold Path.extended at proper ⊢
  split
  · exact canonical
  next filled =>
    rw [if_neg filled] at proper
    refine ⟨canonical.slashes, fun name member => ⟨proper.parts name member, ?_⟩⟩
    rcases List.mem_append.mp member with above | last
    · exact (canonical.names name (List.dropLast_subset _ above)).2
    · obtain rfl := List.mem_singleton.mp last
      intro up
      have size := congrArg String.length up
      rw [String.length_append] at size
      have short : "..".length = 2 := rfl
      omega

theorem IsCanonical.isCanonicalText : IsCanonicalText p.toString := by
  refine ⟨p.parts, canonical.names, ?_⟩
  obtain ⟨slashes, parts⟩ := p
  obtain rfl : slashes = 1 := canonical.slashes
  have filled :
      (String.ofList (List.replicate 1 '/') ++ "/".intercalate parts).isEmpty = false := by
    rw [← Bool.not_eq_true, String.isEmpty_iff, ← String.toList_inj, String.toList_append]
    simp
  rw [toString]
  dsimp only
  rw [filled, if_neg Bool.false_ne_true]
  rfl

end Canonical

/-- From the top of the file system `..` never remains, as there is nothing above to go back to. -/
theorem up_notMem_collapseParts {done names : List String} (noUp : ".." ∉ done) :
    ".." ∉ collapseParts true done names := by
  fun_induction collapseParts true done names with
  | case1 done => exact noUp
  | case2 rest ih => exact ih List.not_mem_nil
  | case3 rest before ih => exact absurd List.mem_cons_self noUp
  | case4 rest last before other ih => exact ih (List.not_mem_of_not_mem_cons noUp)
  | case5 done part rest other ih =>
    refine ih ?_
    rw [List.mem_cons, not_or]
    exact ⟨fun up => other up.symm, noUp⟩

/-- A relative text that is seen from a folder leads to a canonical path, however far it climbs. -/
theorem IsCanonical.collapse_join {folder : Path} (canonical : folder.IsCanonical) {text : String}
    (relative : text.toList.head? ≠ some '/') :
    (folder.join (ofString text)).collapse.IsCanonical := by
  have proper := (canonical.proper.join (proper_ofString text)).collapse
  have isRelative : (ofString text).isAbsolute = false := by
    rw [Path.isAbsolute, slashes_ofString_of_relative relative]
    rfl
  rw [join, isRelative, if_neg Bool.false_ne_true] at proper ⊢
  refine ⟨canonical.slashes, fun name member => ⟨proper.parts name member, ?_⟩⟩
  rintro rfl
  have isAbsolute : (folder.slashes != 0) = true := canonical.isAbsolute
  rw [collapse, Path.isAbsolute, isAbsolute, List.mem_reverse] at member
  exact up_notMem_collapseParts List.not_mem_nil member

/-! ## The way from one path to another -/

theorem exists_dropCommon_eq (left right : List String) : ∃ common,
    left = common ++ (dropCommon left right).1 ∧ right = common ++ (dropCommon left right).2 := by
  fun_induction dropCommon left right with
  | case1 left name right ih =>
    obtain ⟨common, first, second⟩ := ih
    exact ⟨name :: common, congrArg (name :: ·) first, congrArg (name :: ·) second⟩
  | case2 => exact ⟨[], rfl, rfl⟩
  | case3 => exact ⟨[], rfl, rfl⟩

/-- The names of the way from a folder to a path. -/
def wayTo (start target : Path) : List String :=
  (dropCommon start.parts target.parts).1.map (fun _ => "..") ++
    (dropCommon start.parts target.parts).2

/-- A way climbs to the last folder that both paths have in common and goes down from there. -/
theorem exists_wayTo_eq (start target : Path) : ∃ common above below,
    start.parts = common ++ above ∧ target.parts = common ++ below ∧
      wayTo start target = List.replicate above.length ".." ++ below := by
  obtain ⟨common, first, second⟩ := exists_dropCommon_eq start.parts target.parts
  exact ⟨common, _, _, first, second, by rw [wayTo, List.map_const']⟩

/-- One `..` for each name takes them all back. -/
theorem collapseParts_climb {above : List String} (noUp : ".." ∉ above) (done rest : List String) :
    collapseParts true (above ++ done) (List.replicate above.length ".." ++ rest) =
      collapseParts true done rest := by
  induction above with
  | nil => rfl
  | cons last above ih =>
    have other : last ≠ ".." := (List.ne_of_not_mem_cons noUp).symm
    rw [List.length_cons, List.replicate_succ, List.cons_append, List.cons_append,
      collapseParts_up other]
    exact ih (List.not_mem_of_not_mem_cons noUp)

/-- Going the whole way behind the names of a folder leaves the names of the path. -/
theorem collapseParts_wayTo {start target : Path} (noUp : ".." ∉ start.parts)
    (noUp' : ".." ∉ target.parts) :
    collapseParts true [] (start.parts ++ wayTo start target) = target.parts.reverse := by
  obtain ⟨common, above, below, first, second, way⟩ := exists_wayTo_eq start target
  have start_names : collapseParts true [] start.parts = above.reverse ++ common.reverse := by
    rw [collapseParts_of_notMem noUp, List.append_nil, first, List.reverse_append]
  rw [first, List.mem_append, not_or] at noUp
  rw [second, List.mem_append, not_or] at noUp'
  have noUpAbove : ".." ∉ above.reverse := by simpa using noUp.2
  have climb := collapseParts_climb noUpAbove common.reverse below
  rw [List.length_reverse] at climb
  rw [collapseParts_append, start_names, way, climb, collapseParts_of_notMem noUp'.2, second,
    List.reverse_append]

theorem isPart_of_mem_wayTo {start target : Path} (proper : target.Proper) :
    ∀ name ∈ wayTo start target, IsPart name := by
  obtain ⟨common, above, below, -, second, way⟩ := exists_wayTo_eq start target
  intro name member
  rw [way] at member
  rcases List.mem_append.mp member with up | down
  · rw [List.eq_of_mem_replicate up]
    exact ⟨by decide, by decide, by decide⟩
  · exact proper.parts name (second ▸ List.mem_append_right _ down)

/-- A relative path is the text of the way. -/
theorem relativeTo_eq_toString {start target : Path} (proper : target.Proper) :
    target.relativeTo start = (⟨0, wayTo start target⟩ : Path).toString := by
  have isPart : ∀ name ∈ wayTo start target, IsPart name := isPart_of_mem_wayTo proper
  change (if (wayTo start target).isEmpty then "." else "/".intercalate (wayTo start target)) = _
  cases names : wayTo start target with
  | nil => rfl
  | cons first rest =>
    have filled : first ≠ "" := (isPart first (names ▸ List.mem_cons_self)).1
    have nonempty : "/".intercalate (first :: rest) ≠ "" := by
      cases rest with
      | nil => simpa using filled
      | cons second rest => simp [String.intercalate_cons_cons, filled]
    simp [toString, nonempty]

/-- Going along the relative path of a target leads to the target. -/
theorem collapse_join_relativeTo {start target : Path} (canonical : start.IsCanonical)
    (canonical' : target.IsCanonical) :
    (start.join (ofString (target.relativeTo start))).collapse = target := by
  have proper : (⟨0, wayTo start target⟩ : Path).Proper :=
    ⟨Nat.zero_le 2, isPart_of_mem_wayTo canonical'.proper⟩
  have way : start.join ⟨0, wayTo start target⟩ = ⟨1, start.parts ++ wayTo start target⟩ := by
    rw [← canonical.slashes]
    rfl
  have names := collapseParts_wayTo canonical.noUp canonical'.noUp
  rw [relativeTo_eq_toString canonical'.proper, proper.ofString_toString, way]
  calc (⟨1, start.parts ++ wayTo start target⟩ : Path).collapse
      = ⟨1, (collapseParts true [] (start.parts ++ wayTo start target)).reverse⟩ := rfl
    _ = ⟨1, target.parts⟩ := by rw [names, List.reverse_reverse]
    _ = target := by rw [← canonical'.slashes]

end Path

/-! ## What is told of a source -/

/-- Whatever file a canonical path stands for, its path is canonical. -/
theorem Candidate.isCanonical {files : FileSystem} {base file : Path}
    (candidate : Candidate files base file) (canonical : base.IsCanonical) : file.IsCanonical := by
  cases candidate with
  | itself => exact canonical
  | extended extension member =>
    have fits : ∀ extension ∈ impliedExtensions,
        3 ≤ extension.length ∧ '/' ∉ extension.toList := by
      decide
    exact canonical.extended (fits extension member).1 (fits extension member).2
  | index name _ member =>
    have areParts : ∀ name ∈ indexNames, Path.IsPart name ∧ name ≠ ".." := by
      unfold Path.IsPart
      decide
    exact canonical.child (areParts name member).1 (areParts name member).2

namespace Resolver

variable {r : Resolver} {importer : Path} {source : String}

/-- Whether a source says where its file is: it starts with a dot, or it is the alias and behind it
a text that does not start with a slash. -/
def IsAnchored (r : Resolver) (source : String) : Prop :=
  source.toList.head? = some '.' ∨
    ∃ rest, source = r.aliasPrefix ++ rest ∧ r.aliasPrefix ≠ "" ∧ rest.toList.head? ≠ some '/'

theorem exists_canonical_base (root : r.root.IsCanonical) (canonical : importer.IsCanonical)
    (anchored : r.IsAnchored source) : ∃ base isAlias, base.IsCanonical ∧
      r.resolve source importer = r.toFile base isAlias := by
  by_cases dot : source.toList.head? = some '.'
  · have relative : source.toList.head? ≠ some '/' := by
      rw [dot]
      decide
    refine ⟨_, false, canonical.parent.collapse_join relative, ?_⟩
    rw [resolve, if_pos dot]
  · obtain ⟨rest, rfl, filled, relative⟩ := anchored.resolve_left dot
    refine ⟨_, true, root.collapse_join relative, ?_⟩
    rw [resolve, if_neg dot, afterAlias?_append filled]

/-- What is told of a source that says where its file is belongs to one canonical path. -/
theorem exists_target_of_isAnchored (root : r.root.IsCanonical) (canonical : importer.IsCanonical)
    (anchored : r.IsAnchored source) {t : Resolution} (told : r.resolve source importer = .ok t) :
    ∃ target : Path, target.IsCanonical ∧ t.resolvedPath = target.toString ∧
      t.relativePath = some (target.relativeTo r.root) ∧
      t.pathId = some (shortId target.toString) := by
  obtain ⟨base, isAlias, isCanonical, same⟩ := exists_canonical_base root canonical anchored
  rw [same] at told
  obtain ⟨target, isThere, candidate, -, -, path, relative, -⟩ :=
    exists_target_of_toFile told isCanonical.proper
  have id := (ofFile_of_toFile told isCanonical.proper).pathId
  rw [path] at id
  exact ⟨target, candidate.isCanonical isCanonical, path, relative, id⟩

/-- A source that says where its file is has a resolved path that nothing can be left out of, unless
the search for the file comes to a path that is too long. The relative path leads there from the
root, and the id is the one of the resolved path. So whatever source in whatever script has the same
resolved path has the same relative path and id. -/
theorem resolved_path_round_trips (root : r.root.IsCanonical) (canonical : importer.IsCanonical)
    (anchored : r.IsAnchored source) :
    ((∃ t, r.resolve source importer = .ok t) ↔
      ¬ ∃ p, r.files.StopsAt (r.sought source importer) p) ∧
    ∀ t, r.resolve source importer = .ok t →
      Path.IsCanonicalText t.resolvedPath ∧
      (∃ relative, t.relativePath = some relative ∧
        (r.root.join (Path.ofString relative)).collapse.toString = t.resolvedPath) ∧
      t.pathId = some (shortId t.resolvedPath) ∧
      ∀ (other : String) (importer' : Path), importer'.IsCanonical → r.IsAnchored other →
        ∀ t', r.resolve other importer' = .ok t' → t'.resolvedPath = t.resolvedPath →
          t'.relativePath = t.relativePath ∧ t'.pathId = t.pathId := by
  refine ⟨exists_resolve_iff, fun t told => ?_⟩
  obtain ⟨target, isCanonical, path, relative, id⟩ :=
    exists_target_of_isAnchored root canonical anchored told
  refine ⟨?_, ⟨_, relative, ?_⟩, ?_, ?_⟩
  · rw [path]
    exact isCanonical.isCanonicalText
  · rw [Path.collapse_join_relativeTo root isCanonical, path]
  · rw [id, path]
  · intro other importer' canonical' anchored' t' told' meet
    obtain ⟨target', isCanonical', path', relative', id'⟩ :=
      exists_target_of_isAnchored root canonical' anchored' told'
    rw [path', path, Path.toString_inj isCanonical'.proper isCanonical.proper] at meet
    rw [relative', id', relative, id, meet]
    exact ⟨rfl, rfl⟩

/-- A source that climbs past the top of the file system stays there, and shares what is told of it
with a shorter one. -/
theorem climbing_source_round_trips :
    let script : Path := ⟨1, ["p", "src", "a.js"]⟩
    twoSpellings.root.IsCanonical ∧ script.IsCanonical ∧
    twoSpellings.IsAnchored "../../../../lib" ∧ twoSpellings.IsAnchored "@/../lib" ∧
    ∃ t t', twoSpellings.resolve "../../../../lib" script = .ok t ∧
      twoSpellings.resolve "@/../lib" script = .ok t' ∧
      t.resolvedPath = "/lib" ∧ t.relativePath = some "../lib" ∧
      (twoSpellings.root.join (Path.ofString "../lib")).collapse.toString = "/lib" ∧
      t'.relativePath = t.relativePath ∧ t'.pathId = t.pathId := by
  intro script
  have root : twoSpellings.root.IsCanonical := by decide
  have canonical : script.IsCanonical := by decide
  have anchored : twoSpellings.IsAnchored "../../../../lib" := .inl (by decide)
  have anchored' : twoSpellings.IsAnchored "@/../lib" :=
    .inr ⟨"../lib", by decide, by decide, by decide⟩
  have shown : (twoSpellings.resolve "../../../../lib" script).map
      (fun t => (t.resolvedPath, t.relativePath)) = .ok ("/lib", some "../lib") := by
    decide +kernel
  have shown' : (twoSpellings.resolve "@/../lib" script).map Resolution.resolvedPath =
      .ok "/lib" := by
    decide +kernel
  obtain ⟨t, told, both⟩ := map_eq_ok_iff.mp shown
  obtain ⟨t', told', path'⟩ := map_eq_ok_iff.mp shown'
  obtain ⟨path, relative⟩ := Prod.mk.inj both
  obtain ⟨-, trips⟩ := resolved_path_round_trips root canonical anchored
  obtain ⟨-, ⟨way, isWay, leads⟩, -, shared⟩ := trips t told
  obtain rfl : "../lib" = way := Option.some.inj (relative.symm.trans isWay)
  obtain ⟨sameRelative, sameId⟩ :=
    shared "@/../lib" script canonical anchored' t' told' (path'.trans path.symm)
  exact ⟨root, canonical, anchored, anchored', t, t', told, told', path, relative,
    leads.trans path, sameRelative, sameId⟩

end Resolver

end SiteAtlas
