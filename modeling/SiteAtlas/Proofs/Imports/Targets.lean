import SiteAtlas.Imports.Resolver
import SiteAtlas.Proofs.Files.Path
import SiteAtlas.Proofs.Success

/-! # What a source leads to

A path stands for the first file among itself, itself with an implied extension, and the index files
in it, unless one of those comes first that is too long to be looked at. What is told of a source is
either what is known of a file of the project, there or missing, or what is known of a package, and
never parts of both.
-/

namespace SiteAtlas

namespace Path

variable {p : Path} (proper : p.Proper)
include proper

theorem Proper.parent : p.parent.Proper :=
  ⟨proper.slashes, fun name member => proper.parts name (List.dropLast_subset _ member)⟩

theorem Proper.child {name : String} (isPart : IsPart name) : (p.child name).Proper := by
  refine ⟨proper.slashes, fun other member => ?_⟩
  rcases List.mem_append.mp member with above | last
  · exact proper.parts other above
  · obtain rfl := List.mem_singleton.mp last
    exact isPart

/-- A longer last name is still a name, if what is put to it is longer than a dot. -/
theorem Proper.extended {extension : String} (long : 2 ≤ extension.length)
    (free : '/' ∉ extension.toList) : (p.extended extension).Proper := by
  have filled : extension.isEmpty = false := by
    rw [← Bool.not_eq_true, String.isEmpty_iff]
    rintro rfl
    exact absurd long (by decide)
  have size : 2 ≤ (p.name ++ extension).length := by
    rw [String.length_append]
    omega
  rw [Path.extended, filled, if_neg Bool.false_ne_true]
  refine ⟨proper.slashes, fun other member => ?_⟩
  rcases List.mem_append.mp member with above | last
  · exact proper.parts other (List.dropLast_subset _ above)
  · obtain rfl := List.mem_singleton.mp last
    refine ⟨?_, ?_, ?_⟩
    · intro empty
      rw [empty] at size
      exact absurd size (by decide)
    · intro dot
      rw [dot] at size
      exact absurd size (by decide)
    · rw [String.toList_append, List.mem_append, not_or]
      exact ⟨proper.slash_notMem_name, free⟩

end Path

/-! ## Paths that are too long -/

namespace FileSystem

variable {files : FileSystem} {p : Path} {kind : FileNode → Bool}

/-- Whether the system does not look at a path. -/
def Refuses (files : FileSystem) (p : Path) : Prop := files.lookup p = .error .tooLong

/-- What is asked of a path makes no difference to whether there is an answer. -/
theorem test_eq_error_iff {error : PathError} :
    files.test kind p = .error error ↔ files.Refuses p ∧ ⟨p, .tooLong⟩ = error := by
  rw [test, Refuses]
  rcases files.lookup p with (_ | _ | _ | _ | _) | node <;> simp

theorem exists_test_iff : (∃ answer, files.test kind p = .ok answer) ↔ ¬ files.Refuses p := by
  rw [test, Refuses]
  rcases files.lookup p with (_ | _ | _ | _ | _) | node <;> simp

theorem test_eq_false_iff :
    files.test kind p = .ok false ↔ files.test kind p ≠ .ok true ∧ ¬ files.Refuses p := by
  rw [test, Refuses]
  rcases files.lookup p with (_ | _ | _ | _ | _) | node <;> simp

end FileSystem

/-! ## The file that a path stands for -/

section ActualFile

variable {files : FileSystem} {base file : Path}

/-- The paths of the files that a path can stand for. -/
inductive Candidate (files : FileSystem) (base : Path) : Path → Prop where
  | itself : Candidate files base base
  | extended (extension : String) : extension ∈ impliedExtensions →
    Candidate files base (base.extended extension)
  | index (name : String) : files.isFolder base = .ok true → name ∈ indexNames →
    Candidate files base (base.child name)

theorem Candidate.proper (candidate : Candidate files base file) (proper : base.Proper) :
    file.Proper := by
  cases candidate with
  | itself => exact proper
  | extended extension member =>
    have fits : ∀ extension ∈ impliedExtensions,
        2 ≤ extension.length ∧ '/' ∉ extension.toList := by
      decide
    exact proper.extended (fits extension member).1 (fits extension member).2
  | index name _ member =>
    have areParts : ∀ name ∈ indexNames, Path.IsPart name := by
      unfold Path.IsPart
      decide
    exact proper.child (areParts name member)

/-- The paths of the files that a path can stand for, in the order in which they are tried. -/
def FileSystem.tried (files : FileSystem) (base : Path) : List Path :=
  ("" :: impliedExtensions).map base.extended ++
    if files.isFolder base = .ok true then indexNames.map base.child else []

theorem mem_tried_iff : file ∈ files.tried base ↔ Candidate files base file := by
  rw [FileSystem.tried, List.mem_append]
  constructor
  · rintro (member | member)
    · obtain ⟨extension, given, rfl⟩ := List.mem_map.mp member
      rcases List.mem_cons.mp given with rfl | implied
      · exact .itself
      · exact .extended extension implied
    · split at member
      next isFolder =>
        obtain ⟨name, given, rfl⟩ := List.mem_map.mp member
        exact .index name isFolder given
      next => exact absurd member List.not_mem_nil
  · intro candidate
    cases candidate with
    | itself => exact .inl List.mem_cons_self
    | extended extension member => exact .inl (List.mem_cons_of_mem _ (List.mem_map_of_mem member))
    | index name isFolder member =>
      rw [if_pos isFolder]
      exact .inr (List.mem_map_of_mem member)

/-- The file that a path stands for is searched for among the paths that are tried. -/
theorem actualFile?_eq (files : FileSystem) (base : Path) :
    actualFile? files base = (files.tried base).findM? files.isFile := by
  rw [actualFile?, FileSystem.tried, findM?_append]
  rcases search : (("" :: impliedExtensions).map base.extended).findM? files.isFile with
    error | _ | first
  · rfl
  · -- The path itself was looked at, and so it can be told whether it is a folder.
    have answered : ¬ files.Refuses base :=
      FileSystem.exists_test_iff.mp ⟨_, findM?_eq_none_iff.mp search base List.mem_cons_self⟩
    obtain ⟨isFolder, answer⟩ : ∃ isFolder, files.isFolder base = .ok isFolder :=
      FileSystem.exists_test_iff.mpr answered
    dsimp only [bind, Except.bind]
    rw [answer]
    cases isFolder <;> rfl
  · rfl

/-- Whether a path stands for a file: it is the first one that is found among those tried. -/
def FileSystem.StandsFor (files : FileSystem) (base file : Path) : Prop :=
  Reaches files.isFile (files.tried base) file ∧ files.isFile file = .ok true

/-- Whether a path stands for no file, after a look at all that are tried. -/
def FileSystem.StandsForNone (files : FileSystem) (base : Path) : Prop :=
  ∀ file ∈ files.tried base, files.isFile file = .ok false

/-- Whether the search for the file that a path stands for comes to a path that is too long. -/
def FileSystem.StopsAt (files : FileSystem) (base p : Path) : Prop :=
  Reaches files.isFile (files.tried base) p ∧ files.Refuses p

theorem actualFile?_eq_some_iff :
    actualFile? files base = .ok (some file) ↔ files.StandsFor base file := by
  rw [actualFile?_eq, findM?_eq_some_iff, FileSystem.StandsFor]

theorem actualFile?_eq_none_iff : actualFile? files base = .ok none ↔ files.StandsForNone base := by
  rw [actualFile?_eq, findM?_eq_none_iff, FileSystem.StandsForNone]

theorem actualFile?_eq_error_iff {error : PathError} : actualFile? files base = .error error ↔
    ∃ p, files.StopsAt base p ∧ ⟨p, .tooLong⟩ = error := by
  simp only [actualFile?_eq, findM?_eq_error_iff, FileSystem.isFile, FileSystem.test_eq_error_iff,
    FileSystem.StopsAt, and_assoc]

theorem FileSystem.StandsFor.candidate (stands : files.StandsFor base file) :
    Candidate files base file :=
  mem_tried_iff.mp stands.1.mem

/-- A path stands for one file at most. -/
theorem FileSystem.StandsFor.unique {other : Path} (stands : files.StandsFor base file)
    (stands' : files.StandsFor base other) : file = other := by
  have same := (actualFile?_eq_some_iff.mpr stands).symm.trans (actualFile?_eq_some_iff.mpr stands')
  exact Option.some.inj (Except.ok.inj same)

/-- A search that finds a file does not stop at a path that is too long. -/
theorem FileSystem.StandsFor.not_stopsAt {p : Path} (stands : files.StandsFor base file) :
    ¬ files.StopsAt base p := by
  intro stops
  have found := actualFile?_eq_some_iff.mpr stands
  rw [actualFile?_eq_error_iff.mpr ⟨p, stops, rfl⟩] at found
  cases found

theorem FileSystem.StandsForNone.isFile_eq (none : files.StandsForNone base) :
    files.isFile base = .ok false :=
  none base (mem_tried_iff.mpr .itself)

end ActualFile

/-! ## What is told of a source -/

/-- What is told of a file of the project: the ids of its path, whether it is there, and nothing
about packages. -/
structure Resolution.OfFile (r : Resolver) (t : Resolution) : Prop where
  isLocal : t.isLocal = true
  exists? : ∃ isThere, r.files.isFile (Path.ofString t.resolvedPath) = .ok isThere ∧
    t.exists? = some isThere
  relativePath : t.relativePath = some ((Path.ofString t.resolvedPath).relativeTo r.root)
  pathId : t.pathId = some (shortId t.resolvedPath)
  packageName : t.packageName = none
  packageId : t.packageId = none

/-- What is told of a package: its name and id, and nothing about files. -/
structure Resolution.OfPackage (source : String) (t : Resolution) : Prop where
  isLocal : t.isLocal = false
  exists? : t.exists? = none
  resolvedPath : t.resolvedPath = source
  relativePath : t.relativePath = none
  pathId : t.pathId = none
  packageName : t.packageName = some (SiteAtlas.packageName source)
  packageId : t.packageId = some (shortId (SiteAtlas.packageName source))

namespace Resolver

variable {r : Resolver} {base importer : Path} {source : String} {isAlias : Bool} {t : Resolution}

theorem ofPackage_toPackage (source : String) : (toPackage source).OfPackage source :=
  ⟨rfl, rfl, rfl, rfl, rfl, rfl, rfl⟩

theorem toFile_eq_ok_iff : r.toFile base isAlias = .ok t ↔
    ∃ actual, actualFile? r.files base = .ok actual ∧ r.fileAt base actual isAlias = t :=
  map_eq_ok_iff

/-- A path is resolved to the file that it stands for, or to itself. -/
theorem exists_target_of_toFile (told : r.toFile base isAlias = .ok t) (proper : base.Proper) :
    ∃ target isThere, Candidate r.files base target ∧ target.Proper ∧
      r.files.isFile target = .ok isThere ∧ t.resolvedPath = target.toString ∧
      t.relativePath = some (target.relativeTo r.root) ∧ t.exists? = some isThere := by
  obtain ⟨actual, search, rfl⟩ := toFile_eq_ok_iff.mp told
  cases actual with
  | some file =>
    have stands := actualFile?_eq_some_iff.mp search
    exact ⟨file, true, stands.candidate, stands.candidate.proper proper, stands.2, rfl, rfl, rfl⟩
  | none =>
    have missing := (actualFile?_eq_none_iff.mp search).isFile_eq
    exact ⟨base, false, .itself, proper, missing, rfl, rfl, rfl⟩

theorem ofFile_of_toFile (told : r.toFile base isAlias = .ok t) (proper : base.Proper) :
    t.OfFile r := by
  obtain ⟨target, isThere, -, proper, answer, path, relative, known⟩ :=
    exists_target_of_toFile told proper
  have readsBack : Path.ofString t.resolvedPath = target := by
    rw [path, proper.ofString_toString]
  obtain ⟨actual, -, rfl⟩ := toFile_eq_ok_iff.mp told
  exact ⟨rfl, ⟨isThere, readsBack ▸ answer, known⟩, by rw [readsBack, relative], rfl, rfl, rfl⟩

/-- Where the file is looked for that a source means. -/
def sought (r : Resolver) (source : String) (importer : Path) : Path :=
  if source.toList.head? = some '.' then
    (importer.parent.join (Path.ofString source)).collapse
  else (r.root.join (Path.ofString ((r.afterAlias? source).getD source))).collapse

theorem proper_sought (root : r.root.Proper) (proper : importer.Proper) (source : String) :
    (r.sought source importer).Proper := by
  rw [sought]
  split
  · exact (proper.parent.join (Path.proper_ofString source)).collapse
  · exact (root.join (Path.proper_ofString _)).collapse

/-- A source that starts neither with a dot nor with the alias is one of a package if there is
nothing at its place in the project, after a look at all paths that are tried. Otherwise it is
resolved to a file there. -/
theorem resolve_of_noAlias (noDot : source.toList.head? ≠ some '.')
    (noAlias : r.afterAlias? source = none) (importer : Path) :
    let place := r.sought source importer
    (r.files.isAnything place = .ok false ∧ r.files.StandsForNone place) ∧
        r.resolve source importer = .ok (toPackage source) ∨
      ¬ (r.files.isAnything place = .ok false ∧ r.files.StandsForNone place) ∧
        r.resolve source importer = r.toFile place false := by
  rw [resolve, sought, if_neg noDot, if_neg noDot, noAlias, Option.getD_none]
  dsimp only
  generalize (r.root.join (Path.ofString source)).collapse = place
  cases anything : r.files.isAnything place with
  | error error =>
    -- The path that is too long is the first one that is tried.
    obtain ⟨refuses, rfl⟩ := FileSystem.test_eq_error_iff.mp anything
    have stops : r.files.StopsAt place place := ⟨.first _ _, refuses⟩
    have same : r.toFile place false = .error ⟨place, .tooLong⟩ := by
      rw [toFile, actualFile?_eq_error_iff.mpr ⟨place, stops, rfl⟩]
      rfl
    exact .inr ⟨by rintro ⟨⟨⟩, -⟩, same.symm⟩
  | ok isThere =>
    cases search : actualFile? r.files place with
    | error error =>
      have same : r.toFile place false = .error error := by
        rw [toFile, search]
        rfl
      refine .inr ⟨fun vacant => ?_, same.symm⟩
      rw [actualFile?_eq_none_iff.mpr vacant.2] at search
      cases search
    | ok actual =>
      rw [← actualFile?_eq_none_iff, search]
      dsimp only [bind, Except.bind]
      split
      next something =>
        refine .inr ⟨?_, rfl⟩
        rintro ⟨⟨⟩, ⟨⟩⟩
        exact absurd something Bool.false_ne_true
      next nothing =>
        rw [Bool.or_eq_true, not_or, Bool.not_eq_true, Option.not_isSome_iff_eq_none] at nothing
        obtain ⟨rfl, rfl⟩ := nothing
        exact .inl ⟨⟨rfl, rfl⟩, rfl⟩

/-- A source is resolved to a path of the project, or named as a package where there is nothing at
its place in the project. -/
theorem resolve_cases (r : Resolver) (source : String) (importer : Path) :
    (∃ isAlias, r.resolve source importer = r.toFile (r.sought source importer) isAlias) ∨
      r.resolve source importer = .ok (toPackage source) ∧
        r.files.StandsForNone (r.sought source importer) := by
  by_cases dot : source.toList.head? = some '.'
  · rw [resolve, sought, if_pos dot, if_pos dot]
    exact .inl ⟨false, rfl⟩
  · cases aliased : r.afterAlias? source with
    | some rest =>
      rw [resolve, sought, if_neg dot, if_neg dot, aliased]
      exact .inl ⟨true, rfl⟩
    | none =>
      rcases resolve_of_noAlias dot aliased importer with ⟨⟨-, none⟩, same⟩ | ⟨-, same⟩
      · exact .inr ⟨same, none⟩
      · exact .inl ⟨false, same⟩

/-- A source cannot be resolved if the search for its file comes to a path that is too long. -/
theorem resolve_eq_error_iff {error : PathError} : r.resolve source importer = .error error ↔
    ∃ p, r.files.StopsAt (r.sought source importer) p ∧ ⟨p, .tooLong⟩ = error := by
  rw [← actualFile?_eq_error_iff]
  rcases r.resolve_cases source importer with ⟨isAlias, same⟩ | ⟨same, none⟩
  · rw [same, toFile]
    cases actualFile? r.files (r.sought source importer) <;> simp [Except.map]
  · rw [same, actualFile?_eq_none_iff.mpr none]
    simp

theorem exists_resolve_iff : (∃ t, r.resolve source importer = .ok t) ↔
    ¬ ∃ p, r.files.StopsAt (r.sought source importer) p := by
  constructor
  · rintro ⟨t, told⟩ ⟨p, stops⟩
    rw [resolve_eq_error_iff.mpr ⟨p, stops, rfl⟩] at told
    cases told
  · intro goesOn
    cases result : r.resolve source importer with
    | ok t => exact ⟨t, rfl⟩
    | error error =>
      obtain ⟨p, stops, -⟩ := resolve_eq_error_iff.mp result
      exact absurd ⟨p, stops⟩ goesOn

theorem ofFile_or_ofPackage (root : r.root.Proper) (proper : importer.Proper)
    (told : r.resolve source importer = .ok t) : t.OfFile r ∨ t.OfPackage source := by
  rcases r.resolve_cases source importer with ⟨isAlias, same⟩ | ⟨same, -⟩
  · exact .inl (ofFile_of_toFile (same ▸ told) (proper_sought root proper source))
  · obtain rfl := Except.ok.inj (same.symm.trans told)
    exact .inr (ofPackage_toPackage source)

end Resolver

end SiteAtlas
