import SiteAtlas.Proofs.Imports.Spellings
import SiteAtlas.Proofs.Imports.Targets

/-! # Sources that name packages

A source that starts neither with a dot nor with the alias names a package, unless something stands
at its place. That place is seen from the project's root, but need not be under it. A folder that no
file stands for is something, too: its source is one of a missing file. To scripts only `.`, `..`
and what starts with one of them and a slash is relative, so that a name such as `.prisma/client` is
one of a package; it is seen from the importing file all the same.
-/

namespace SiteAtlas

namespace Path

/-- Whether a path lies below a folder. -/
def IsBelow (folder p : Path) : Prop :=
  p.slashes = folder.slashes ∧ ∃ name rest, p.parts = folder.parts ++ name :: rest

variable {folder p : Path}

theorem IsBelow.isWithin (below : IsBelow folder p) : folder.isWithin p = true := by
  obtain ⟨slashes, name, rest, parts⟩ := below
  rw [Path.isWithin, slashes, parts]
  simp

theorem IsBelow.child (below : IsBelow folder p) (name : String) :
    IsBelow folder (p.child name) := by
  obtain ⟨slashes, first, rest, parts⟩ := below
  refine ⟨slashes, first, rest ++ [name], ?_⟩
  rw [Path.child, parts, List.append_assoc]
  rfl

/-- More text at the end of the last name does not matter to the folders above it. -/
theorem IsBelow.extended (below : IsBelow folder p) (extension : String) :
    IsBelow folder (p.extended extension) := by
  obtain ⟨slashes, first, rest, parts⟩ := below
  unfold Path.extended
  split
  · exact ⟨slashes, first, rest, parts⟩
  · have nonempty : (first :: rest).dropLast ++ [p.name ++ extension] ≠ [] := by simp
    obtain ⟨name, names, same⟩ := List.exists_cons_of_ne_nil nonempty
    refine ⟨slashes, name, names, ?_⟩
    rw [parts, List.dropLast_append_of_ne_nil (List.cons_ne_nil _ _), List.append_assoc, same]

end Path

theorem Candidate.isBelow {files : FileSystem} {folder base file : Path}
    (candidate : Candidate files base file) (below : Path.IsBelow folder base) :
    Path.IsBelow folder file := by
  cases candidate with
  | itself => exact below
  | extended extension _ => exact below.extended extension
  | index name _ _ => exact below.child name

namespace FileSystem

/-- Whether there is nothing at a path, and no file that it stands for. -/
def IsVacant (files : FileSystem) (p : Path) : Prop :=
  files.isAnything p ≠ .ok true ∧ ∀ file ∈ files.tried p, files.isFile file ≠ .ok true

/-- Whether the system looks at the paths of all files that a path can stand for. -/
def LooksAt (files : FileSystem) (p : Path) : Prop := ∀ file ∈ files.tried p, ¬ files.Refuses file

/-- Whether there is something at a path that stands for no file, such as a folder without an index
file. -/
def IsBareEntry (files : FileSystem) (p : Path) : Prop :=
  files.isAnything p = .ok true ∧ files.StandsForNone p

variable {files : FileSystem} {p file : Path}

instance (files : FileSystem) (p : Path) : Decidable (files.IsVacant p) :=
  inferInstanceAs (Decidable (_ ∧ _))

/-- A vacant path is seen to be one if no path is too long. -/
theorem isVacant_and_looksAt_iff : files.IsVacant p ∧ files.LooksAt p ↔
    files.isAnything p = .ok false ∧ files.StandsForNone p := by
  have itself : p ∈ files.tried p := mem_tried_iff.mpr .itself
  simp only [IsVacant, LooksAt, StandsForNone, isAnything, isFile, test_eq_false_iff]
  constructor
  · rintro ⟨⟨nothing, noFile⟩, looks⟩
    exact ⟨⟨nothing, looks p itself⟩, fun file tried => ⟨noFile file tried, looks file tried⟩⟩
  · rintro ⟨⟨nothing, -⟩, none⟩
    exact ⟨⟨nothing, fun file tried => (none file tried).1⟩, fun file tried => (none file tried).2⟩

theorem StandsFor.not_isVacant (stands : files.StandsFor p file) : ¬ files.IsVacant p :=
  fun vacant => vacant.2 file stands.1.mem stands.2

theorem IsBareEntry.not_isVacant (entry : files.IsBareEntry p) : ¬ files.IsVacant p :=
  fun vacant => vacant.1 entry.1

theorem StandsFor.not_standsForNone (stands : files.StandsFor p file) :
    ¬ files.StandsForNone p := by
  intro none
  have missing := none file stands.1.mem
  rw [stands.2] at missing
  cases missing

/-- What stands for no file, after a look at all paths, but is not vacant either, is something. -/
theorem isBareEntry_of_standsForNone (none : files.StandsForNone p)
    (notVacant : ¬ (files.IsVacant p ∧ files.LooksAt p)) : files.IsBareEntry p := by
  have looked : ¬ files.Refuses p := exists_test_iff.mp ⟨_, none.isFile_eq⟩
  obtain ⟨isThere, answer⟩ : ∃ isThere, files.isAnything p = .ok isThere :=
    exists_test_iff.mpr looked
  cases isThere with
  | true => exact ⟨answer, none⟩
  | false => exact absurd (isVacant_and_looksAt_iff.mpr ⟨answer, none⟩) notVacant

end FileSystem

namespace Resolver

variable {r : Resolver} {source : String}

/-- Whether a source says nothing of where its file is: it starts neither with a dot nor with the
alias, if there is one. -/
def IsBare (r : Resolver) (source : String) : Prop :=
  source.toList.head? ≠ some '.' ∧
    (r.aliasPrefix = "" ∨ ¬ r.aliasPrefix.toList <+: source.toList)

/-- Where a bare source leads, seen from the project's root. -/
def place (r : Resolver) (source : String) : Path := (r.root.join (Path.ofString source)).collapse

theorem afterAlias?_of_isBare (bare : r.IsBare source) : r.afterAlias? source = none := by
  unfold afterAlias?
  rcases bare.2 with none | other
  · rw [none]
    rfl
  · split
    · rfl
    · rw [Option.map_eq_none_iff, Option.eq_none_iff_forall_ne_some]
      intro rest found
      exact other ⟨rest, (Text.after?_eq_some_iff.mp found).symm⟩

theorem sought_of_isBare (bare : r.IsBare source) (importer : Path) :
    r.sought source importer = r.place source := by
  rw [sought, if_neg bare.1, afterAlias?_of_isBare bare]
  rfl

/-- A bare source is one of a package if its place is vacant, one of a file if the place stands for
one, and one of a missing file if something else is there. Otherwise it is not resolved, as the
search comes to a path that is too long. -/
theorem resolve_of_isBare (bare : r.IsBare source) (importer : Path) :
    (r.files.IsVacant (r.place source) ∧ r.files.LooksAt (r.place source)) ∧
        r.resolve source importer = .ok (toPackage source) ∨
      (∃ file, r.files.StandsFor (r.place source) file ∧
        r.resolve source importer = .ok (r.fileAt (r.place source) (some file) false)) ∨
      r.files.IsBareEntry (r.place source) ∧
        r.resolve source importer = .ok (r.fileAt (r.place source) none false) ∨
      ∃ p, r.files.StopsAt (r.place source) p ∧
        r.resolve source importer = .error ⟨p, .tooLong⟩ := by
  have cases := resolve_of_noAlias bare.1 (afterAlias?_of_isBare bare) importer
  rw [sought_of_isBare bare] at cases
  dsimp only at cases
  rw [← FileSystem.isVacant_and_looksAt_iff] at cases
  rcases cases with ⟨vacant, same⟩ | ⟨notVacant, same⟩
  · exact .inl ⟨vacant, same⟩
  · rw [same, toFile]
    cases search : actualFile? r.files (r.place source) with
    | ok actual =>
      cases actual with
      | some file => exact .inr (.inl ⟨file, actualFile?_eq_some_iff.mp search, rfl⟩)
      | none =>
        have none := actualFile?_eq_none_iff.mp search
        exact .inr (.inr (.inl
          ⟨FileSystem.isBareEntry_of_standsForNone none notVacant, rfl⟩))
    | error error =>
      obtain ⟨p, stops, rfl⟩ := actualFile?_eq_error_iff.mp search
      exact .inr (.inr (.inr ⟨p, stops, rfl⟩))

theorem resolvedPath_fileAt (base : Path) (actual : Option Path) (isAlias : Bool) :
    (r.fileAt base actual isAlias).resolvedPath = (actual.getD base).toString := rfl

theorem ofString_resolvedPath_fileAt {base file : Path} (proper : base.Proper)
    (stands : r.files.StandsFor base file) (isAlias : Bool) :
    Path.ofString (r.fileAt base (some file) isAlias).resolvedPath = file :=
  (stands.candidate.proper proper).ofString_toString

theorem proper_place (root : r.root.Proper) (source : String) : (r.place source).Proper :=
  (root.join (Path.proper_ofString source)).collapse

/-- If a bare source is resolved, it names a package exactly if its place is vacant, a file exactly
if the place stands for one, and a missing file exactly if something else is there. -/
theorem state_of_isBare (bare : r.IsBare source) {importer : Path} {t : Resolution}
    (told : r.resolve source importer = .ok t) :
    (t.state = .external ↔ r.files.IsVacant (r.place source)) ∧
    (t.state = .resolved ↔ ∃ file, r.files.StandsFor (r.place source) file) ∧
    (t.state = .missing ↔ r.files.IsBareEntry (r.place source)) := by
  rcases resolve_of_isBare bare importer with
    ⟨⟨vacant, looks⟩, same⟩ | ⟨file, stands, same⟩ | ⟨entry, same⟩ | ⟨p, -, same⟩
  · obtain rfl := Except.ok.inj (same.symm.trans told)
    have noFile : ¬ ∃ file, r.files.StandsFor (r.place source) file :=
      fun ⟨_, stands⟩ => stands.not_isVacant vacant
    have noEntry : ¬ r.files.IsBareEntry (r.place source) := fun entry => entry.not_isVacant vacant
    exact ⟨iff_of_true rfl vacant, iff_of_false nofun noFile, iff_of_false nofun noEntry⟩
  · obtain rfl := Except.ok.inj (same.symm.trans told)
    have noEntry : ¬ r.files.IsBareEntry (r.place source) :=
      fun entry => stands.not_standsForNone entry.2
    exact ⟨iff_of_false nofun stands.not_isVacant, iff_of_true rfl ⟨file, stands⟩,
      iff_of_false nofun noEntry⟩
  · obtain rfl := Except.ok.inj (same.symm.trans told)
    have noFile : ¬ ∃ file, r.files.StandsFor (r.place source) file :=
      fun ⟨_, stands⟩ => stands.not_standsForNone entry.2
    exact ⟨iff_of_false nofun entry.not_isVacant, iff_of_false nofun noFile,
      iff_of_true rfl entry⟩
  · cases same.symm.trans told

/-- What is told of a file for a bare source from below the root is told of a file within it. -/
theorem isWithin_resolvedPath (root : r.root.Proper) (bare : r.IsBare source)
    (below : Path.IsBelow r.root (r.place source)) {importer : Path} {t : Resolution}
    (told : r.resolve source importer = .ok t) (isLocal : t.isLocal = true) :
    r.root.isWithin (Path.ofString t.resolvedPath) = true := by
  have proper := proper_place root source
  rcases resolve_of_isBare bare importer with
    ⟨-, same⟩ | ⟨file, stands, same⟩ | ⟨-, same⟩ | ⟨p, -, same⟩
  · obtain rfl := Except.ok.inj (same.symm.trans told)
    cases isLocal
  · obtain rfl := Except.ok.inj (same.symm.trans told)
    rw [ofString_resolvedPath_fileAt proper stands]
    exact (stands.candidate.isBelow below).isWithin
  · obtain rfl := Except.ok.inj (same.symm.trans told)
    rw [resolvedPath_fileAt, Option.getD_none, proper.ofString_toString]
    exact below.isWithin
  · cases same.symm.trans told

/-- A bare source is told of as one of a package, or of an existing file within the root, exactly if
its place is seen to be vacant or stands for a file within the root. Whatever is told of it shows
what is at its place, and a place below the root does not lead out of it. Nothing is told of it
exactly if the search comes to a path that is too long. -/
theorem bare_source_leads_iff (root : r.root.Proper) (bare : r.IsBare source) (importer : Path) :
    let place := r.place source
    ((∃ t, r.resolve source importer = .ok t ∧ (t.state = .external ∨
        t.state = .resolved ∧ r.root.isWithin (Path.ofString t.resolvedPath) = true)) ↔
      r.files.IsVacant place ∧ r.files.LooksAt place ∨
        ∃ file, r.files.StandsFor place file ∧ r.root.isWithin file = true) ∧
    (∀ t, r.resolve source importer = .ok t →
      (t.state = .external ↔ r.files.IsVacant place) ∧
      (t.state = .resolved ↔ ∃ file, r.files.StandsFor place file) ∧
      (t.state = .missing ↔ r.files.IsBareEntry place) ∧
      (Path.IsBelow r.root place → t.isLocal = true →
        r.root.isWithin (Path.ofString t.resolvedPath) = true)) ∧
    ((∃ t, r.resolve source importer = .ok t) ↔ ¬ ∃ p, r.files.StopsAt place p) := by
  intro place
  have proper : place.Proper := proper_place root source
  refine ⟨?_, fun t told => ?_, ?_⟩
  · rcases resolve_of_isBare bare importer with
      ⟨vacant, same⟩ | ⟨file, stands, same⟩ | ⟨entry, same⟩ | ⟨p, stops, same⟩
    · exact iff_of_true ⟨_, same, .inl rfl⟩ (.inl vacant)
    · have path := ofString_resolvedPath_fileAt proper stands false
      constructor
      · rintro ⟨t, told, external | ⟨-, within⟩⟩
        · obtain rfl := Except.ok.inj (same.symm.trans told)
          cases external
        · obtain rfl := Except.ok.inj (same.symm.trans told)
          exact .inr ⟨file, stands, path ▸ within⟩
      · rintro (⟨vacant, -⟩ | ⟨other, stands', within⟩)
        · exact absurd vacant stands.not_isVacant
        · obtain rfl := stands.unique stands'
          exact ⟨_, same, .inr ⟨rfl, path.symm ▸ within⟩⟩
    · refine iff_of_false ?_ ?_
      · rintro ⟨t, told, external | ⟨resolved, -⟩⟩
        · obtain rfl := Except.ok.inj (same.symm.trans told)
          cases external
        · obtain rfl := Except.ok.inj (same.symm.trans told)
          cases resolved
      · rintro (⟨vacant, -⟩ | ⟨file, stands, -⟩)
        · exact entry.not_isVacant vacant
        · exact stands.not_standsForNone entry.2
    · refine iff_of_false (fun ⟨t, told, _⟩ => nomatch same.symm.trans told) ?_
      rintro (⟨-, looks⟩ | ⟨file, stands, -⟩)
      · exact looks p stops.1.mem stops.2
      · exact stands.not_stopsAt stops
  · obtain ⟨external, resolved, missing⟩ := state_of_isBare bare told
    exact ⟨external, resolved, missing, fun below => isWithin_resolvedPath root bare below told⟩
  · rw [exists_resolve_iff, sought_of_isBare bare]

/-- A project with a script in a folder of the root that has no index file, beside another
project. -/
def unindexedFolder : Resolver where
  files := ⟨.folder [("p", .folder [
    ("lib", .folder [("db.ts", .file "x".toUTF8)]), ("a.js", .file "".toUTF8)]),
    ("outside", .folder [("secret.js", .file "x".toUTF8)])]⟩
  root := ⟨1, ["p"]⟩

/-- The file in the folder is found, and it is within the root. -/
theorem bare_source_leads_to_script :
    let script : Path := ⟨1, ["p", "a.js"]⟩
    let file : Path := ⟨1, ["p", "lib", "db.ts"]⟩
    unindexedFolder.root.Proper ∧ unindexedFolder.IsBare "lib/db" ∧
    unindexedFolder.files.StandsFor (unindexedFolder.place "lib/db") file ∧
    ∃ t, unindexedFolder.resolve "lib/db" script = .ok t ∧ t.state = .resolved ∧
      unindexedFolder.root.isWithin (Path.ofString t.resolvedPath) = true := by
  intro script file
  have root : unindexedFolder.root.Proper := by decide
  have bare : unindexedFolder.IsBare "lib/db" := ⟨by decide, .inr (by decide)⟩
  have stands : unindexedFolder.files.StandsFor (unindexedFolder.place "lib/db") file :=
    actualFile?_eq_some_iff.mp (by decide +kernel)
  obtain ⟨leads, shows, -⟩ := bare_source_leads_iff root bare script
  obtain ⟨t, told, external | ⟨resolved, within⟩⟩ := leads.mpr (.inr ⟨file, stands, by decide⟩)
  · exact absurd ((shows t told).1.mp external) stands.not_isVacant
  · exact ⟨root, bare, stands, t, told, resolved, within⟩

-- The folder itself is one of a missing file.
example : (unindexedFolder.resolve "lib" ⟨1, ["p", "a.js"]⟩).map Resolution.state =
    .ok .missing := by
  decide +kernel

/-- A bare source that goes back past the root leads to a file of the other project, which is told
of as one of this project. -/
theorem outside_file_is_resolved :
    let script : Path := ⟨1, ["p", "a.js"]⟩
    let source := "a/../../outside/secret"
    unindexedFolder.root.Proper ∧ script.Proper ∧ unindexedFolder.IsBare source ∧
    ∃ t, unindexedFolder.resolve source script = .ok t ∧ t.state = .resolved ∧
      unindexedFolder.root.isWithin (Path.ofString t.resolvedPath) = false := by
  intro script source
  have shown : (unindexedFolder.resolve source script).map (fun t =>
      (t.state, unindexedFolder.root.isWithin (Path.ofString t.resolvedPath))) =
        .ok (.resolved, false) := by
    decide +kernel
  obtain ⟨t, told, both⟩ := map_eq_ok_iff.mp shown
  obtain ⟨resolved, outside⟩ := Prod.mk.inj both
  exact ⟨by decide, by decide, ⟨by decide, .inr (by decide)⟩, t, told, resolved, outside⟩

/-! ## Packages whose names start with a dot -/

/-- Whether a source is relative to scripts. -/
def IsRelative (source : String) : Prop :=
  source = "." ∨ source = ".." ∨ "./".toList <+: source.toList ∨ "../".toList <+: source.toList

instance (source : String) : Decidable (IsRelative source) := by
  unfold IsRelative
  infer_instance

/-- Whether a source can only mean a package: it is not relative, does not start with the alias, if
there is one, and nothing stands at its place in the project. -/
structure NamesPackage (r : Resolver) (source : String) : Prop where
  notRelative : ¬ IsRelative source
  noAlias : r.aliasPrefix = "" ∨ ¬ r.aliasPrefix.toList <+: source.toList
  vacant : r.files.IsVacant (r.place source)

/-- A source that starts with a dot is seen from the importing file, whatever follows the dot. -/
theorem resolve_of_dot (dot : source.toList.head? = some '.') (importer : Path) :
    r.resolve source importer =
      r.toFile (importer.parent.join (Path.ofString source)).collapse false := by
  rw [resolve, if_pos dot]

/-- A source that can only mean a package is told of as one exactly if it does not start with a dot
and the system looks at all paths at its place. If it starts with a dot, it is taken for a file
beside the importing one. -/
theorem package_told_iff (names : r.NamesPackage source) (importer : Path) :
    ((∃ t, r.resolve source importer = .ok t ∧ t.OfPackage source) ↔
      source.toList.head? ≠ some '.' ∧ r.files.LooksAt (r.place source)) ∧
    (source.toList.head? = some '.' → r.resolve source importer =
      r.toFile (importer.parent.join (Path.ofString source)).collapse false) := by
  refine ⟨?_, fun dot => resolve_of_dot dot importer⟩
  by_cases dot : source.toList.head? = some '.'
  · refine iff_of_false ?_ fun both => both.1 dot
    rintro ⟨t, told, ofPackage⟩
    rw [resolve_of_dot dot] at told
    obtain ⟨actual, -, rfl⟩ := toFile_eq_ok_iff.mp told
    cases ofPackage.isLocal
  · rcases resolve_of_isBare ⟨dot, names.noAlias⟩ importer with
      ⟨⟨-, looks⟩, same⟩ | ⟨file, stands, -⟩ | ⟨entry, -⟩ | ⟨p, stops, same⟩
    · exact iff_of_true ⟨_, same, ofPackage_toPackage source⟩ ⟨dot, looks⟩
    · exact absurd names.vacant stands.not_isVacant
    · exact absurd names.vacant entry.not_isVacant
    · refine iff_of_false (fun ⟨t, told, _⟩ => nomatch same.symm.trans told) ?_
      exact fun both => both.2 p stops.1.mem stops.2

theorem package_told_in_unindexedFolder :
    let script : Path := ⟨1, ["p", "a.js"]⟩
    unindexedFolder.NamesPackage "@scope/pkg/sub" ∧
    (∃ t, unindexedFolder.resolve "@scope/pkg/sub" script = .ok t ∧
      t.OfPackage "@scope/pkg/sub") ∧
    packageName "@scope/pkg/sub" = "@scope/pkg" := by
  intro script
  have names : unindexedFolder.NamesPackage "@scope/pkg/sub" :=
    ⟨by decide, .inr (by decide), by decide +kernel⟩
  have looked : ∀ file ∈ unindexedFolder.files.tried (unindexedFolder.place "@scope/pkg/sub"),
      (unindexedFolder.files.isFile file).isOk = true := by
    decide +kernel
  have looks : unindexedFolder.files.LooksAt (unindexedFolder.place "@scope/pkg/sub") :=
    fun file tried => FileSystem.exists_test_iff.mp (exists_eq_ok_iff.mpr (looked file tried))
  obtain ⟨told, -⟩ := package_told_iff names script
  exact ⟨names, told.mpr ⟨by decide, looks⟩, by decide +kernel⟩

/-- The client that is generated into `.prisma` is a package, and taken for a missing file. -/
theorem dotted_package_is_missing :
    let script : Path := ⟨1, ["p", "a.js"]⟩
    unindexedFolder.NamesPackage ".prisma/client" ∧
    ∃ t, unindexedFolder.resolve ".prisma/client" script = .ok t ∧ t.state = .missing ∧
      ¬ t.OfPackage ".prisma/client" := by
  intro script
  have names : unindexedFolder.NamesPackage ".prisma/client" :=
    ⟨by decide, .inr (by decide), by decide +kernel⟩
  have shown : (unindexedFolder.resolve ".prisma/client" script).map
      (fun t => (t.state, t.isLocal)) = .ok (.missing, true) := by
    decide +kernel
  obtain ⟨t, told, both⟩ := map_eq_ok_iff.mp shown
  obtain ⟨missing, isLocal⟩ := Prod.mk.inj both
  refine ⟨names, t, told, missing, fun ofPackage => ?_⟩
  rw [ofPackage.isLocal] at isLocal
  cases isLocal

end Resolver

end SiteAtlas
