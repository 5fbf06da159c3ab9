import SiteAtlas.Proofs.Files.Path
import SiteAtlas.Proofs.Imports.Importers
import SiteAtlas.Proofs.Success
import Mathlib.Data.List.Induction
import Mathlib.Data.List.Nodup

/-! # What a scan of files depends on

Which files a scan knows, and under which keys, is settled by their paths before any of them is
read. The entry of each depends on its own path alone, and its mentions on all of them. A scan comes
to an end if all sources in its scripts can be resolved.

A scan does not depend on its order. After any files it knows the scripts among them, each once and
under its own text. A file that comes again, in whichever spelling, replaces its own entry and no
other. Importers are noted in the order of the texts, and so the map is settled by the scripts
alone.
-/

namespace SiteAtlas

namespace Resolver

/-- Whether all sources in a file can be resolved. -/
def CanAnalyze (r : Resolver) (path : Path) : Prop := ∃ result, r.analyze path = .ok result

/-- The dependencies of a file; none where a source in it cannot be resolved. -/
def knownResult (r : Resolver) (path : Path) : DependencyResult :=
  (r.analyze path).toOption.getD { filePath := path.toString }

/-- The entry of a file with its dependencies, as far as they are known. -/
def knownEntry (r : Resolver) (path : Path) : ForwardEntry :=
  .ofResult r.root path (r.knownResult path)

variable {r : Resolver} {path : Path} {result : DependencyResult}

theorem knownResult_eq (analyzed : r.analyze path = .ok result) : r.knownResult path = result := by
  rw [knownResult, analyzed]
  rfl

theorem entry_eq_knownEntry (can : r.CanAnalyze path) : r.entry path = .ok (r.knownEntry path) := by
  obtain ⟨result, analyzed⟩ := can
  rw [entry, knownEntry, knownResult_eq analyzed, analyzed]
  rfl

theorem canAnalyze_iff_entry : r.CanAnalyze path ↔ ∃ e, r.entry path = .ok e :=
  exists_map_eq_ok_iff.symm

end Resolver

/-- Take in the path of one more file, if it is a script. -/
def scanPath (workingDirectory : Path) (paths : FileMap Path) (file : Path) : FileMap Path :=
  let path := Path.absolute workingDirectory file
  if path.isScript then paths.put path.toString path else paths

/-- The paths of the scripts among some files, each under its text. -/
def scannedPaths (workingDirectory : Path) (files : List Path) : FileMap Path :=
  files.foldl (scanPath workingDirectory) .empty

/-- The scripts among some files, seen from the working directory. -/
def scriptsAmong (workingDirectory : Path) (files : List Path) : List Path :=
  (files.map (Path.absolute workingDirectory)).filter Path.isScript

section Scan

variable (r : Resolver) (workingDirectory : Path) (files : List Path)

/-- The entries of the files that a scan knows, each with the mentions in all of them. -/
def Resolver.knownMap : List MapEntry :=
  (withImporters ((scannedPaths workingDirectory files).mapEntries fun _ path =>
    r.knownEntry path)).values

variable {r workingDirectory files}

/-- A scan that goes on from some paths ends if all sources in the further scripts can be resolved,
and then it has read each of the paths that it knows. -/
theorem foldlM_entry_eq_ok_iff (paths : FileMap Path) {forward : FileMap ForwardEntry} :
    files.foldlM (fun forward file =>
        let path := Path.absolute workingDirectory file
        if path.isScript then (r.entry path).map (forward.put path.toString) else .ok forward)
        (paths.mapEntries fun _ path => r.knownEntry path) = .ok forward ↔
      (∀ path ∈ scriptsAmong workingDirectory files, r.CanAnalyze path) ∧
        (files.foldl (scanPath workingDirectory) paths).mapEntries
          (fun _ path => r.knownEntry path) = forward := by
  induction files generalizing paths with
  | nil => simp [scriptsAmong, pure, Except.pure]
  | cons file rest ih =>
    rw [List.foldlM_cons, List.foldl_cons, scriptsAmong, List.map_cons, scanPath]
    by_cases isScript : (Path.absolute workingDirectory file).isScript = true
    · dsimp only
      rw [if_pos isScript, if_pos isScript, List.filter_cons_of_pos isScript, List.forall_mem_cons]
      by_cases can : r.CanAnalyze (Path.absolute workingDirectory file)
      · have step := ih (paths.put (Path.absolute workingDirectory file).toString
          (Path.absolute workingDirectory file))
        rw [FileMap.mapEntries_put] at step
        rw [Resolver.entry_eq_knownEntry can, and_iff_right can]
        exact step
      · refine iff_of_false (fun success => can ?_) fun both => can both.1.1
        obtain ⟨forward', put, -⟩ := bind_eq_ok_iff.mp success
        obtain ⟨e, isEntry, -⟩ := map_eq_ok_iff.mp put
        exact Resolver.canAnalyze_iff_entry.mpr ⟨e, isEntry⟩
    · dsimp only
      rw [if_neg isScript, if_neg isScript, List.filter_cons_of_neg isScript]
      exact ih paths

/-- A scan ends if all sources in its scripts can be resolved. -/
theorem dependencyMap_eq_ok_iff {map : List MapEntry} :
    r.dependencyMap workingDirectory files = .ok map ↔
      (∀ path ∈ scriptsAmong workingDirectory files, r.CanAnalyze path) ∧
        r.knownMap workingDirectory files = map := by
  rw [Resolver.dependencyMap, map_eq_ok_iff, Resolver.knownMap]
  constructor
  · rintro ⟨forward, success, rfl⟩
    obtain ⟨can, rfl⟩ := (foldlM_entry_eq_ok_iff .empty).mp success
    exact ⟨can, rfl⟩
  · rintro ⟨can, rfl⟩
    exact ⟨_, (foldlM_entry_eq_ok_iff .empty).mpr ⟨can, rfl⟩, rfl⟩

theorem exists_dependencyMap_iff :
    (∃ map, r.dependencyMap workingDirectory files = .ok map) ↔
      ∀ path ∈ scriptsAmong workingDirectory files, r.CanAnalyze path := by
  simp only [dependencyMap_eq_ok_iff, exists_and_left, exists_eq', and_true]

/-- Every path stands under its text. -/
theorem toString_of_mem_scannedPaths : ∀ row ∈ (scannedPaths workingDirectory files).entries,
    row.2.toString = row.1 := by
  refine List.foldlRecOn files (scanPath workingDirectory) (motive := fun paths : FileMap Path =>
    ∀ row ∈ paths.entries, row.2.toString = row.1) ?_ fun paths known file _ row member => ?_
  · exact fun _ member => absurd member List.not_mem_nil
  · rw [scanPath] at member
    split at member
    · rcases FileMap.mem_put_iff.mp member with rfl | ⟨old, -⟩
      · rfl
      · exact known row old
    · exact known row member

/-- What a scan knows is among the scripts. -/
theorem mem_scriptsAmong_of_mem_scannedPaths {path : Path}
    (scanned : path ∈ (scannedPaths workingDirectory files).values) :
    path ∈ scriptsAmong workingDirectory files := by
  obtain ⟨row, member, rfl⟩ := List.mem_map.mp scanned
  refine List.foldlRecOn files (scanPath workingDirectory) (motive := fun paths : FileMap Path =>
    ∀ row ∈ paths.entries, row.2 ∈ scriptsAmong workingDirectory files) ?_ ?_ row member
  · exact fun _ member => absurd member List.not_mem_nil
  · intro paths known file given row member
    rw [scanPath] at member
    split at member
    next isScript =>
      rcases FileMap.mem_put_iff.mp member with rfl | ⟨old, -⟩
      · exact List.mem_filter.mpr ⟨List.mem_map_of_mem given, isScript⟩
      · exact known row old
    next => exact known row member

variable (r workingDirectory files)

theorem knownMap_eq : r.knownMap workingDirectory files =
    (scannedPaths workingDirectory files).entries.map fun row =>
      { toForwardEntry := r.knownEntry row.2
        importedBy := (scannedPaths workingDirectory files).sortedEntries.flatMap fun a =>
          (r.knownEntry a.2).mentionsOf row.1 } := by
  rw [Resolver.knownMap, FileMap.values, entries_withImporters, FileMap.sortedEntries_mapEntries]
  simp only [FileMap.mapEntries, List.map_map, List.flatMap_map, Function.comp_def]

/-- Every scanned file has an entry, under its key. -/
theorem mem_keys_scannedPaths_iff {key : String} :
    key ∈ (scannedPaths workingDirectory files).keys ↔
      ∃ e ∈ r.knownMap workingDirectory files, e.id = key := by
  rw [knownMap_eq, FileMap.keys]
  constructor
  · intro scanned
    obtain ⟨row, member, rfl⟩ := List.mem_map.mp scanned
    exact ⟨_, List.mem_map_of_mem member, toString_of_mem_scannedPaths row member⟩
  · rintro ⟨e, member, rfl⟩
    obtain ⟨row, scanned, rfl⟩ := List.mem_map.mp member
    exact List.mem_map.mpr ⟨row, scanned, (toString_of_mem_scannedPaths row scanned).symm⟩

/-- The mentions in an entry are those in all scanned files of the file with its id. -/
theorem importedBy_of_mem_knownMap {e : MapEntry}
    (member : e ∈ r.knownMap workingDirectory files) :
    e.importedBy = (scannedPaths workingDirectory files).sortedEntries.flatMap fun row =>
      (r.knownEntry row.2).mentionsOf e.id := by
  rw [knownMap_eq] at member
  obtain ⟨row, scanned, rfl⟩ := List.mem_map.mp member
  have same : row.2.toString = row.1 := toString_of_mem_scannedPaths row scanned
  exact List.flatMap_congr fun a _ =>
    congrArg (fun key => (r.knownEntry a.2).mentionsOf key) same.symm

/-- Looking a scanned file up in the map gives the mentions in all scanned files. -/
theorem importersOf_knownMap {key : String}
    (scanned : key ∈ (scannedPaths workingDirectory files).keys) :
    importersOf (r.knownMap workingDirectory files) key =
      (scannedPaths workingDirectory files).sortedEntries.flatMap fun row =>
        (r.knownEntry row.2).mentionsOf key := by
  obtain ⟨known, there, same⟩ := (mem_keys_scannedPaths_iff r workingDirectory files).mp scanned
  have found : ((r.knownMap workingDirectory files).find? fun e => e.id == key).isSome :=
    List.find?_isSome.mpr ⟨known, there, beq_iff_eq.mpr same⟩
  obtain ⟨e, first⟩ := Option.isSome_iff_exists.mp found
  obtain rfl : e.id = key := by simpa using List.find?_some first
  rw [importersOf, first, Option.map_some, Option.getD_some]
  exact importedBy_of_mem_knownMap r workingDirectory files (List.mem_of_find?_eq_some first)

/-- Looking up a file that was not scanned gives nothing. -/
theorem importersOf_knownMap_of_notMem {key : String}
    (unknown : key ∉ (scannedPaths workingDirectory files).keys) :
    importersOf (r.knownMap workingDirectory files) key = [] := by
  have absent : ((r.knownMap workingDirectory files).find? fun e => e.id == key) = none := by
    refine List.find?_eq_none.mpr fun e member same => unknown ?_
    exact (mem_keys_scannedPaths_iff r workingDirectory files).mpr ⟨e, member, beq_iff_eq.mp same⟩
  rw [importersOf, absent, Option.map_none, Option.getD_none]

end Scan

/-! ## Orders of one scan -/

section ScanOrder

variable {workingDirectory : Path} {files files' : List Path}

theorem scannedPaths_concat (workingDirectory : Path) (files : List Path) (file : Path) :
    scannedPaths workingDirectory (files ++ [file]) =
      scanPath workingDirectory (scannedPaths workingDirectory files) file :=
  List.foldl_concat ..

theorem mem_scriptsAmong_concat {file path : Path} :
    path ∈ scriptsAmong workingDirectory (files ++ [file]) ↔
      path ∈ scriptsAmong workingDirectory files ∨
        (Path.absolute workingDirectory file).isScript = true ∧
          path = Path.absolute workingDirectory file := by
  simp only [scriptsAmong, List.map_append, List.map_cons, List.map_nil, List.filter_append,
    List.mem_append, List.mem_filter, List.mem_singleton]
  constructor
  · rintro (old | ⟨rfl, isScript⟩)
    · exact .inl old
    · exact .inr ⟨isScript, rfl⟩
  · rintro (old | ⟨isScript, rfl⟩)
    · exact .inl old
    · exact .inr ⟨rfl, isScript⟩

variable (proper : workingDirectory.Proper)
include proper

theorem proper_of_mem_scriptsAmong (files_proper : ∀ file ∈ files, file.Proper) :
    ∀ path ∈ scriptsAmong workingDirectory files, path.Proper := by
  intro path member
  obtain ⟨file, given, rfl⟩ := List.mem_map.mp (List.mem_filter.mp member).1
  exact proper.absolute (files_proper file given)

/-- A scan knows the scripts among the files, each under its text. -/
theorem mem_scannedPaths_iff (files_proper : ∀ file ∈ files, file.Proper) {row : String × Path} :
    row ∈ (scannedPaths workingDirectory files).entries ↔
      row.2 ∈ scriptsAmong workingDirectory files ∧ row.1 = row.2.toString := by
  induction files using List.reverseRecOn with
  | nil =>
    constructor
    · intro member
      exact absurd member List.not_mem_nil
    · intro both
      exact absurd both.1 List.not_mem_nil
  | append_singleton files file ih =>
    obtain ⟨old_proper, new_proper⟩ := List.forall_mem_append.mp files_proper
    have known := ih old_proper
    rw [scannedPaths_concat, mem_scriptsAmong_concat, scanPath]
    split
    next isScript =>
      rw [FileMap.mem_put_iff, known]
      constructor
      · rintro (rfl | ⟨⟨old, text⟩, -⟩)
        · exact ⟨.inr ⟨isScript, rfl⟩, rfl⟩
        · exact ⟨.inl old, text⟩
      · rintro ⟨old | ⟨-, new⟩, text⟩
        · -- An old entry stays unless it is that of the new path itself.
          by_cases same : row.1 = (Path.absolute workingDirectory file).toString
          · have isNew : row.2 = Path.absolute workingDirectory file := by
              apply (Path.toString_inj _ _).mp (text.symm.trans same)
              · exact proper_of_mem_scriptsAmong proper old_proper row.2 old
              · exact proper.absolute (new_proper file List.mem_cons_self)
            exact .inl (Prod.ext same isNew)
          · exact .inr ⟨⟨old, text⟩, same⟩
        · exact .inl (Prod.ext (new ▸ text) new)
    next notScript =>
      rw [known]
      simp [notScript]

/-- Two scans of the same scripts know them in one order once they are sorted. -/
theorem perm_scannedPaths (files_proper : ∀ file ∈ files, file.Proper)
    (files_proper' : ∀ file ∈ files', file.Proper)
    (same : ∀ path, path ∈ scriptsAmong workingDirectory files ↔
      path ∈ scriptsAmong workingDirectory files') :
    (scannedPaths workingDirectory files).entries.Perm
        (scannedPaths workingDirectory files').entries ∧
      (scannedPaths workingDirectory files).sortedEntries =
        (scannedPaths workingDirectory files').sortedEntries := by
  have entries : (scannedPaths workingDirectory files).entries.Perm
      (scannedPaths workingDirectory files').entries := by
    apply (List.perm_ext_iff_of_nodup _ _).mpr
    · intro row
      rw [mem_scannedPaths_iff proper files_proper, mem_scannedPaths_iff proper files_proper', same]
    · exact List.Nodup.of_map _ (scannedPaths workingDirectory files).distinct
    · exact List.Nodup.of_map _ (scannedPaths workingDirectory files').distinct
  exact ⟨entries, FileMap.sortedEntries_eq_of_perm entries⟩

/-- The ids of a map tell which scripts were scanned. -/
theorem mem_scriptsAmong_iff_entry (r : Resolver) (files_proper : ∀ file ∈ files, file.Proper)
    {path : Path} (path_proper : path.Proper) :
    path ∈ scriptsAmong workingDirectory files ↔
      ∃ e ∈ r.knownMap workingDirectory files, e.id = path.toString := by
  rw [← mem_keys_scannedPaths_iff, FileMap.keys, List.mem_map]
  constructor
  · intro member
    exact ⟨(path.toString, path), (mem_scannedPaths_iff proper files_proper).mpr ⟨member, rfl⟩, rfl⟩
  · rintro ⟨row, member, key⟩
    obtain ⟨isScript, text⟩ := (mem_scannedPaths_iff proper files_proper).mp member
    have row_proper := proper_of_mem_scriptsAmong proper files_proper row.2 isScript
    have same : row.2 = path :=
      (Path.toString_inj row_proper path_proper).mp (text.symm.trans key)
    exact same ▸ isScript

end ScanOrder

/-- The entries of a map have different ids. -/
theorem nodup_ids_knownMap (r : Resolver) (workingDirectory : Path) (files : List Path) :
    ((r.knownMap workingDirectory files).map fun e => e.id).Nodup := by
  have ids : (r.knownMap workingDirectory files).map (fun e => e.id) =
      (scannedPaths workingDirectory files).keys := by
    rw [knownMap_eq, List.map_map]
    exact List.map_congr_left fun row member => toString_of_mem_scannedPaths row member
  rw [ids]
  exact (scannedPaths workingDirectory files).distinct

/-- Two scans give the same map exactly if they see the same scripts, in whatever order, how often
and in which spelling. As no two entries have the same id, this means the same ids, and under each
the same entry with the same importers in the same order. And two scans of the same scripts either
both give a map or both give none. -/
theorem dependencyMap_perm_iff (r : Resolver) (workingDirectory : String)
    (files files' : List String) :
    let scan (files : List String) : Except PathError (List MapEntry) :=
      r.dependencyMap (Path.ofString workingDirectory) (files.map Path.ofString)
    let scripts (files : List String) : List Path :=
      scriptsAmong (Path.ofString workingDirectory) (files.map Path.ofString)
    (∀ map, scan files = .ok map → (map.map fun e => e.id).Nodup) ∧
      (∀ map map', scan files = .ok map → scan files' = .ok map' →
        (map.Perm map' ↔ ∀ path, path ∈ scripts files ↔ path ∈ scripts files')) ∧
      ((∀ path, path ∈ scripts files ↔ path ∈ scripts files') →
        ((∃ map, scan files = .ok map) ↔ ∃ map', scan files' = .ok map')) := by
  intro scan scripts
  have proper := Path.proper_ofString workingDirectory
  have read (files : List String) : ∀ file ∈ files.map Path.ofString, file.Proper := by
    intro file member
    obtain ⟨text, -, rfl⟩ := List.mem_map.mp member
    exact Path.proper_ofString text
  refine ⟨?_, ?_, ?_⟩
  · intro map success
    obtain ⟨-, rfl⟩ := dependencyMap_eq_ok_iff.mp success
    exact nodup_ids_knownMap r _ _
  · intro map map' success success'
    obtain ⟨-, rfl⟩ := dependencyMap_eq_ok_iff.mp success
    obtain ⟨-, rfl⟩ := dependencyMap_eq_ok_iff.mp success'
    have seen {files files' : List String}
        (perm : (r.knownMap (Path.ofString workingDirectory) (files.map Path.ofString)).Perm
          (r.knownMap (Path.ofString workingDirectory) (files'.map Path.ofString))) :
        ∀ path ∈ scripts files, path ∈ scripts files' := by
      intro path member
      have path_proper := proper_of_mem_scriptsAmong proper (read files) path member
      obtain ⟨e, isEntry, id⟩ :=
        (mem_scriptsAmong_iff_entry proper r (read files) path_proper).mp member
      apply (mem_scriptsAmong_iff_entry proper r (read files') path_proper).mpr
      exact ⟨e, perm.mem_iff.mp isEntry, id⟩
    constructor
    · intro perm path
      exact ⟨seen perm path, seen perm.symm path⟩
    · intro same
      obtain ⟨entries, sorted⟩ := perm_scannedPaths proper (read files) (read files') same
      rw [knownMap_eq, knownMap_eq, sorted]
      exact entries.map _
  · intro same
    rw [exists_dependencyMap_iff, exists_dependencyMap_iff]
    exact forall_congr' fun path => imp_congr_left (same path)

end SiteAtlas
