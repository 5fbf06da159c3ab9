import SiteAtlas.Project.Analysis
import SiteAtlas.Proofs.Imports.Agreement

/-! # The search for importers beside the analysis of a project

Both scan the same files. The search takes the standard alias where the analysis takes that of the
project, so that they agree on a file exactly if nothing that is taken from it depends on the alias.
Either of them comes to nothing if a source is looked for at a path that is too long.
-/

namespace SiteAtlas.Project

/-- The scripts that an analysis of a project reads. -/
def scannedScripts (p : Project) : FileMap Path := scannedPaths p.root p.tree.scripts

/-- What the search for importers resolves sources with. -/
def searchResolver (p : Project) : Resolver := { p.resolver with aliasPrefix := "@/" }

theorem findImporters_eq_ok_iff {p : Project} {file : Path} {importers : List Importer} :
    p.findImporters file = .ok importers ↔
      ∃ map, p.searchResolver.dependencyMap p.root p.tree.scripts = .ok map ∧
        importersOf map file.toString = importers :=
  map_eq_ok_iff

theorem exists_findImporters_iff {p : Project} {file : Path} :
    (∃ importers, p.findImporters file = .ok importers) ↔
      ∀ path ∈ scriptsAmong p.root p.tree.scripts, p.searchResolver.CanAnalyze path :=
  exists_map_eq_ok_iff.trans exists_dependencyMap_iff

/-- An analysis that is asked for the map has it. -/
theorem dependencyMap_of_analyze {p : Project} {a : ProjectAnalysis}
    (analyzed : p.analyze (some true) = .ok a) :
    ∃ map, p.dependencyMap = .ok map ∧ a.dependencyMap = some map := by
  obtain ⟨_, found, made⟩ := bind_eq_ok_iff.mp analyzed
  obtain ⟨map, success, rfl⟩ := map_eq_ok_iff.mp found
  obtain rfl := Except.ok.inj made
  exact ⟨map, success, rfl⟩

/-- It comes to nothing where there is no map. -/
theorem exists_analyze_iff {p : Project} :
    (∃ a, p.analyze (some true) = .ok a) ↔ ∃ map, p.dependencyMap = .ok map := by
  constructor
  · rintro ⟨a, analyzed⟩
    obtain ⟨map, success, -⟩ := dependencyMap_of_analyze analyzed
    exact ⟨map, success⟩
  · rintro ⟨map, success⟩
    exact ⟨_, bind_eq_ok_iff.mpr ⟨some map, map_eq_ok_iff.mpr ⟨map, success, rfl⟩, rfl⟩⟩

section Map

variable {p : Project} {map : List MapEntry} (success : p.dependencyMap = .ok map) {file : Path}
include success

/-- A file without an entry has no importers. -/
theorem findImporters_eq_nil_iff (absent : ∀ e ∈ map, e.id ≠ file.toString) :
    p.findImporters file = .ok [] ↔
      ∀ path ∈ scriptsAmong p.root p.tree.scripts, p.searchResolver.CanAnalyze path := by
  obtain ⟨-, rfl⟩ := dependencyMap_eq_ok_iff.mp success
  have unknown : file.toString ∉ (scannedPaths p.root p.tree.scripts).keys := by
    intro scanned
    obtain ⟨e, member, same⟩ := (mem_keys_scannedPaths_iff p.resolver _ _).mp scanned
    exact absent e member same
  rw [← exists_findImporters_iff]
  constructor
  · exact fun found => ⟨[], found⟩
  · rintro ⟨importers, found⟩
    obtain ⟨searched, scan, none⟩ := findImporters_eq_ok_iff.mp found
    obtain ⟨-, rfl⟩ := dependencyMap_eq_ok_iff.mp scan
    rw [importersOf_knownMap_of_notMem _ _ _ unknown] at none
    rw [found, ← none]

/-- The search and an entry of the analysis agree exactly if they agree script by script. -/
theorem findImporters_eq_importedBy_of_mem {e : MapEntry} (member : e ∈ map)
    (same : e.id = file.toString) : p.findImporters file = .ok e.importedBy ↔
      (∀ path ∈ scriptsAmong p.root p.tree.scripts, p.searchResolver.CanAnalyze path) ∧
        ∀ path ∈ p.scannedScripts.values,
          p.searchResolver.namesFrom path e.id = p.resolver.namesFrom path e.id := by
  obtain ⟨can, rfl⟩ := dependencyMap_eq_ok_iff.mp success
  have scanned : e.id ∈ p.scannedScripts.keys :=
    (mem_keys_scannedPaths_iff p.resolver _ _).mpr ⟨e, member, rfl⟩
  have sameRoot : p.searchResolver.root = p.resolver.root := rfl
  have own : importersOf (p.resolver.knownMap p.root p.tree.scripts) e.id = e.importedBy := by
    rw [importersOf_knownMap _ _ _ scanned, importedBy_of_mem_knownMap p.resolver _ _ member]
  rw [findImporters_eq_ok_iff, ← exists_dependencyMap_iff, ← same, ← own]
  constructor
  · rintro ⟨searched, scan, agree⟩
    exact ⟨⟨searched, scan⟩, (importersOf_eq_iff sameRoot scan success scanned).mp agree⟩
  · rintro ⟨⟨searched, scan⟩, agree⟩
    exact ⟨searched, scan, (importersOf_eq_iff sameRoot scan success scanned).mpr agree⟩

end Map

/-- Whether all statements of the scanned scripts have sources that the standard alias and the
project's own read alike. -/
def ReadsAlike (p : Project) : Prop :=
  ∀ path ∈ scriptsAmong p.root p.tree.scripts, ∀ raw ∈ p.resolver.statements path,
    raw.source.toList.head? = some '.' ∨
      p.searchResolver.afterAlias? raw.source = p.resolver.afterAlias? raw.source

theorem ReadsAlike.analyze_eq {p : Project} (alike : p.ReadsAlike) :
    ∀ path ∈ scriptsAmong p.root p.tree.scripts,
      p.searchResolver.analyze path = p.resolver.analyze path :=
  fun path scanned => Resolver.analyze_congr fun raw given =>
    Resolver.resolve_congr path (alike path scanned raw given)

theorem ReadsAlike.canAnalyze_iff {p : Project} (alike : p.ReadsAlike) :
    (∀ path ∈ scriptsAmong p.root p.tree.scripts, p.searchResolver.CanAnalyze path) ↔
      ∀ path ∈ scriptsAmong p.root p.tree.scripts, p.resolver.CanAnalyze path := by
  refine forall₂_congr fun path scanned => ?_
  rw [Resolver.CanAnalyze, Resolver.CanAnalyze, alike.analyze_eq path scanned]

/-- The search for importers and the analysis of a project compared. If the analysis has a map, a
file without an entry has no importers. For a file with an entry the search finds the importers in
the entry exactly if in every script, under the standard alias and under the project's own, the same
names are taken from the file. In both cases the search has to come to an end. So it does, and finds
what the analysis finds, where no statement has a source that the two aliases read differently; and
there it comes to nothing if the analysis does. -/
theorem findImporters_eq_importedBy_iff (p : Project) (file : Path) :
    (∀ a, p.analyze (some true) = .ok a → ∃ map, a.dependencyMap = some map ∧
      ((∀ e ∈ map, e.id ≠ file.toString) → (p.findImporters file = .ok [] ↔
        ∀ path ∈ scriptsAmong p.root p.tree.scripts, p.searchResolver.CanAnalyze path)) ∧
      (∀ e ∈ map, e.id = file.toString → (p.findImporters file = .ok e.importedBy ↔
        (∀ path ∈ scriptsAmong p.root p.tree.scripts, p.searchResolver.CanAnalyze path) ∧
          ∀ path ∈ p.scannedScripts.values,
            p.searchResolver.namesFrom path e.id = p.resolver.namesFrom path e.id)) ∧
      (p.ReadsAlike →
        ((∀ e ∈ map, e.id ≠ file.toString) → p.findImporters file = .ok []) ∧
          ∀ e ∈ map, e.id = file.toString → p.findImporters file = .ok e.importedBy)) ∧
    (p.ReadsAlike → ((∃ a, p.analyze (some true) = .ok a) ↔
      ∃ importers, p.findImporters file = .ok importers)) := by
  constructor
  · intro a analyzed
    obtain ⟨map, success, isMap⟩ := dependencyMap_of_analyze analyzed
    refine ⟨map, isMap, findImporters_eq_nil_iff success,
      fun e member same => findImporters_eq_importedBy_of_mem success member same, fun alike => ?_⟩
    obtain ⟨can, -⟩ := dependencyMap_eq_ok_iff.mp success
    have canSearch := alike.canAnalyze_iff.mpr can
    refine ⟨fun absent => (findImporters_eq_nil_iff success absent).mpr canSearch,
      fun e member same => ?_⟩
    refine (findImporters_eq_importedBy_of_mem success member same).mpr ⟨canSearch, ?_⟩
    intro path scanned
    rw [Resolver.namesFrom, Resolver.namesFrom,
      alike.analyze_eq path (mem_scriptsAmong_of_mem_scannedPaths scanned)]
  · intro alike
    rw [exists_analyze_iff, exists_findImporters_iff, alike.canAnalyze_iff]
    exact exists_dependencyMap_iff

/-! ## A project with its own alias -/

/-- A project of two scripts, the first of which imports the second under the project's alias. -/
def aliased : Project :=
  let listing : FileNode :=
    .folder [("a.js", .file "import \"~/b\";\n".toUTF8), ("b.js", .file .empty)]
  { files := ⟨.folder [("p", listing)]⟩, root := ⟨1, ["p"]⟩, listing := listing
    settings := { aliasPrefix := "~/" } }

private theorem scripts_aliased :
    aliased.tree.scripts = [⟨1, ["p", "a.js"]⟩, ⟨1, ["p", "b.js"]⟩] := by
  have listed : aliased.walk.children aliased.root "" none aliased.listing.entries =
      [.file { name := "a.js", fullPath := "/p/a.js", relativePath := "a.js" } none,
        .file { name := "b.js", fullPath := "/p/b.js", relativePath := "b.js" } none] := rfl
  rw [tree, Walk.build, listed, Walk.folderNode, List.mergeSort_of_pairwise (by decide +kernel)]
  rfl

private theorem scannedScripts_aliased : aliased.scannedScripts.entries =
    [("/p/a.js", ⟨1, ["p", "a.js"]⟩), ("/p/b.js", ⟨1, ["p", "b.js"]⟩)] := by
  rw [scannedScripts, scripts_aliased]
  rfl

/-- The only statement of the first script stays a dependency on a package under one alias and is
one on the second script under the other. -/
private theorem namesFrom_aliased :
    aliased.searchResolver.namesFrom ⟨1, ["p", "a.js"]⟩ "/p/b.js" = .ok [] ∧
      aliased.resolver.namesFrom ⟨1, ["p", "a.js"]⟩ "/p/b.js" = .ok [[]] := by
  have analyzed (r : Resolver) (files : r.files = aliased.files)
      (parser : r.parser = Script.trees?) : r.analyze ⟨1, ["p", "a.js"]⟩ =
        r.dependencies ⟨1, ["p", "a.js"]⟩ [{ source := "~/b", form := .statement }] := by
    cases r
    cases files
    cases parser
    rfl
  constructor
  · rw [Resolver.namesFrom, analyzed _ rfl rfl]
    change Except.ok (List.map _ (List.filter _ (List.mergeSort [] _))) = .ok []
    rw [List.mergeSort_nil]
    rfl
  · rw [Resolver.namesFrom, analyzed _ rfl rfl]
    change Except.ok (List.map _ (List.filter _ (List.mergeSort [_] _))) = .ok [[]]
    rw [List.mergeSort_singleton]
    rfl

/-- Both scripts can be analysed under either alias. -/
private theorem canAnalyze_aliased : ∀ path ∈ scriptsAmong aliased.root aliased.tree.scripts,
    aliased.searchResolver.CanAnalyze path ∧ aliased.resolver.CanAnalyze path := by
  have analyzed : ∀ path ∈ scriptsAmong aliased.root
      [⟨1, ["p", "a.js"]⟩, ⟨1, ["p", "b.js"]⟩],
      (aliased.searchResolver.analyze path).isOk = true ∧
        (aliased.resolver.analyze path).isOk = true := by
    decide +kernel
  rw [scripts_aliased]
  exact fun path scanned =>
    (analyzed path scanned).imp exists_eq_ok_iff.mpr exists_eq_ok_iff.mpr

/-- The search misses a script that imports the file under the project's own alias. -/
theorem findImporters_misses_own_alias :
    ∃ a map importers, aliased.analyze (some true) = .ok a ∧ a.dependencyMap = some map ∧
      aliased.findImporters ⟨1, ["p", "b.js"]⟩ = .ok importers ∧
      ∃ e ∈ map, e.id = "/p/b.js" ∧ importers ≠ e.importedBy := by
  have canSearch path scanned := (canAnalyze_aliased path scanned).1
  obtain ⟨map, success⟩ : ∃ map, aliased.dependencyMap = .ok map :=
    exists_dependencyMap_iff.mpr fun path scanned => (canAnalyze_aliased path scanned).2
  obtain ⟨a, analyzed⟩ := exists_analyze_iff.mpr ⟨map, success⟩
  obtain ⟨_, success', isMap⟩ := dependencyMap_of_analyze analyzed
  obtain rfl := Except.ok.inj (success.symm.trans success')
  obtain ⟨importers, found⟩ : ∃ importers, aliased.findImporters ⟨1, ["p", "b.js"]⟩ =
      .ok importers := exists_findImporters_iff.mpr canSearch
  have scanned : "/p/b.js" ∈ aliased.scannedScripts.keys := by
    rw [FileMap.keys, scannedScripts_aliased]
    decide
  obtain ⟨e, member, id⟩ : ∃ e ∈ map, e.id = "/p/b.js" := by
    obtain ⟨-, rfl⟩ := dependencyMap_eq_ok_iff.mp success
    exact (mem_keys_scannedPaths_iff aliased.resolver _ _).mp scanned
  refine ⟨a, map, importers, analyzed, isMap, found, e, member, id, ?_⟩
  rintro rfl
  have first : ⟨1, ["p", "a.js"]⟩ ∈ aliased.scannedScripts.values := by
    rw [FileMap.values, scannedScripts_aliased]
    exact List.mem_cons_self
  have names := ((findImporters_eq_importedBy_of_mem success member (id.trans rfl)).mp found).2
    _ first
  rw [id, namesFrom_aliased.1, namesFrom_aliased.2] at names
  cases names

end SiteAtlas.Project
