import SiteAtlas.Proofs.Imports.Gathering
import SiteAtlas.Proofs.Imports.ScanOrder

/-! # When two resolvers find the same importers

Two resolvers of one project can differ in their alias. What they make of a file depends on the
sources of its statements only, and so does whether they make anything of it. The mentions that they
find in different files cannot make up for one another.
-/

namespace SiteAtlas

/-- The statements in the script at a path that name other modules; none if it cannot be read. -/
def Resolver.statements (r : Resolver) (path : Path) : List RawImport :=
  match r.files.text path with
  | .ok source => (Script.imports r.parser source path.extension).toOption.getD []
  | .error _ => []

namespace Resolver

variable {r : Resolver} {newAlias : String}

/-- A source is resolved alike under two aliases if it is relative or both read it alike. -/
theorem resolve_congr {source : String} (importer : Path)
    (alike : source.toList.head? = some '.' ∨
      { r with aliasPrefix := newAlias }.afterAlias? source = r.afterAlias? source) :
    { r with aliasPrefix := newAlias }.resolve source importer = r.resolve source importer := by
  unfold resolve
  rcases alike with relative | alike
  · rw [if_pos relative, if_pos relative]
    rfl
  · rw [alike]
    rfl

/-- What is made of a file depends on the sources of its statements. -/
theorem analyze_congr {path : Path}
    (alike : ∀ raw ∈ r.statements path,
      { r with aliasPrefix := newAlias }.resolve raw.source path = r.resolve raw.source path) :
    { r with aliasPrefix := newAlias }.analyze path = r.analyze path := by
  unfold analyze
  dsimp only
  unfold statements at alike
  split
  · rfl
  · cases text : r.files.text path with
    | error error => cases error <;> rfl
    | ok source =>
      rw [text] at alike
      dsimp only at alike ⊢
      cases parsed : Script.imports r.parser source path.extension with
      | error error => rfl
      | ok raws =>
        rw [parsed] at alike
        refine congrArg (Except.map (DependencyResult.ofDependencies path.toString)) ?_
        refine mapM_congr fun d member => ?_
        obtain ⟨raw, given, same⟩ := Dependency.source_of_mem_gather d member
        rw [follow, follow, same, alike raw given]

/-- A script can be analysed if the sources of all its statements can be resolved. -/
theorem canAnalyze_iff {path : Path} (isScript : path.isScript = true) : r.CanAnalyze path ↔
    ∀ raw ∈ r.statements path, ∃ t, r.resolve raw.source path = .ok t := by
  rw [CanAnalyze, analyze, statements, isScript]
  dsimp only
  rw [Bool.not_true, if_neg Bool.false_ne_true]
  cases text : r.files.text path with
  | error error => cases error <;> exact iff_of_true ⟨_, rfl⟩ (List.forall_mem_nil _)
  | ok source =>
    dsimp only
    cases parsed : Script.imports r.parser source path.extension with
    | error error => exact iff_of_true ⟨_, rfl⟩ (List.forall_mem_nil _)
    | ok raws =>
      exact exists_dependencies_iff

end Resolver

/-! ## Mentions -/

/-- The names that a file takes from the file under a key, once for each of its dependencies that
lead there. -/
def DependencyResult.namesFrom (result : DependencyResult) (key : String) :
    List (List (Specifier × String)) :=
  (result.locals.filter (Dependency.leadsTo key)).map Dependency.specifiers

/-- The names that the file at a path takes from the file under a key. -/
def Resolver.namesFrom (r : Resolver) (path : Path) (key : String) :
    Except PathError (List (List (Specifier × String))) :=
  (r.analyze path).map fun result => result.namesFrom key

namespace Resolver

variable {r : Resolver} {path : Path}

theorem namesFrom_eq (can : r.CanAnalyze path) (key : String) :
    r.namesFrom path key = .ok ((r.knownResult path).namesFrom key) := by
  obtain ⟨result, analyzed⟩ := can
  rw [namesFrom, knownResult_eq analyzed, analyzed]
  rfl

theorem mentionsOf_knownEntry (r : Resolver) (path : Path) (key : String) :
    (r.knownEntry path).mentionsOf key = ((r.knownResult path).namesFrom key).map fun names =>
      { source := path.toString, name := path.name, relativePath := path.relativeTo r.root
        specifiers := names } := by
  rw [DependencyResult.namesFrom, List.map_map]
  rfl

end Resolver

/-- Mentions tell which file they are from, so that those of different files do not mix. -/
theorem flatMap_eq_flatMap_iff {rows : List (String × Path)}
    {f g : String × Path → List Importer} (distinct : (rows.map Prod.fst).Nodup)
    (fromRow : ∀ row ∈ rows, ∀ i ∈ f row, i.source = row.1)
    (fromRow' : ∀ row ∈ rows, ∀ i ∈ g row, i.source = row.1) :
    rows.flatMap f = rows.flatMap g ↔ ∀ row ∈ rows, f row = g row := by
  induction rows with
  | nil => simp
  | cons row rest ih =>
    rw [List.map_cons, List.nodup_cons] at distinct
    rw [List.forall_mem_cons] at fromRow fromRow'
    -- Keeping what comes from the first row undoes the `flatMap` there.
    have ownOnly {h : String × Path → List Importer} (first : ∀ i ∈ h row, i.source = row.1)
        (others : ∀ other ∈ rest, ∀ i ∈ h other, i.source = other.1) :
        ((row :: rest).flatMap h).filter (fun i => i.source == row.1) = h row := by
      rw [List.flatMap_cons, List.filter_append, List.filter_eq_self.mpr (by simpa using first),
        List.filter_eq_nil_iff.mpr, List.append_nil]
      intro i member same
      obtain ⟨other, there, member⟩ := List.mem_flatMap.mp member
      have key : row.1 = other.1 := (beq_iff_eq.mp same).symm.trans (others other there i member)
      exact distinct.1 (key ▸ List.mem_map_of_mem there)
    rw [List.forall_mem_cons, ← ih distinct.2 fromRow.2 fromRow'.2]
    constructor
    · intro same
      have first : f row = g row := by
        rw [← ownOnly fromRow.1 fromRow.2, same, ownOnly fromRow'.1 fromRow'.2]
      rw [List.flatMap_cons, List.flatMap_cons, first] at same
      exact ⟨first, List.append_cancel_left same⟩
    · rintro ⟨first, same⟩
      rw [List.flatMap_cons, List.flatMap_cons, first, same]

/-- Two resolvers find the same importers of a scanned file exactly if in every scanned file they
find the same names taken from it. -/
theorem importersOf_eq_iff {r r' : Resolver} (root : r.root = r'.root) {workingDirectory : Path}
    {files : List Path} {map map' : List MapEntry}
    (success : r.dependencyMap workingDirectory files = .ok map)
    (success' : r'.dependencyMap workingDirectory files = .ok map') {key : String}
    (scanned : key ∈ (scannedPaths workingDirectory files).keys) :
    importersOf map key = importersOf map' key ↔
      ∀ path ∈ (scannedPaths workingDirectory files).values,
        r.namesFrom path key = r'.namesFrom path key := by
  obtain ⟨can, rfl⟩ := dependencyMap_eq_ok_iff.mp success
  obtain ⟨can', rfl⟩ := dependencyMap_eq_ok_iff.mp success'
  have sorted := (scannedPaths workingDirectory files).perm_sortedEntries
  have distinct : ((scannedPaths workingDirectory files).sortedEntries.map Prod.fst).Nodup :=
    (sorted.map Prod.fst).nodup_iff.mpr (scannedPaths workingDirectory files).distinct
  have fromRow (s : Resolver) : ∀ row ∈ (scannedPaths workingDirectory files).sortedEntries,
      ∀ i ∈ (s.knownEntry row.2).mentionsOf key, i.source = row.1 := by
    intro row member i mention
    obtain ⟨d, -, rfl⟩ := List.mem_map.mp mention
    exact toString_of_mem_scannedPaths row (sorted.mem_iff.mp member)
  have injective (path : Path) : Function.Injective fun names : List (Specifier × String) =>
      ({ source := path.toString, name := path.name, relativePath := path.relativeTo r'.root
         specifiers := names } : Importer) :=
    fun _ _ same => congrArg Importer.specifiers same
  have names (path : Path) (isScanned : path ∈ (scannedPaths workingDirectory files).values) :
      (r.knownResult path).namesFrom key = (r'.knownResult path).namesFrom key ↔
        r.namesFrom path key = r'.namesFrom path key := by
    have isScript := mem_scriptsAmong_of_mem_scannedPaths isScanned
    rw [Resolver.namesFrom_eq (can path isScript), Resolver.namesFrom_eq (can' path isScript),
      Except.ok.injEq]
  rw [importersOf_knownMap r _ _ scanned, importersOf_knownMap r' _ _ scanned,
    flatMap_eq_flatMap_iff distinct (fromRow r) (fromRow r'), ← forall₂_congr names]
  simp only [Resolver.mentionsOf_knownEntry, root, (injective _).list_map.eq_iff, FileMap.values,
    List.forall_mem_map, sorted.mem_iff]

end SiteAtlas
