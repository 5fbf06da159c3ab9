import SiteAtlas.Proofs.Imports.LongSources
import Mathlib.Data.List.Forall2

/-! # What the contents of one file can change

Sources are resolved by looking at which files there are, and never at what they hold. So what a
script holds shows in its own entry, and in the mentions that it makes of other files; and a script
that cannot be parsed spoils no entry but its own. Only a source that cannot be resolved spoils them
all: there is no map then.
-/

namespace SiteAtlas

/-! ## One file -/

theorem actualFile?_congr {fs fs' : FileSystem} (same : fs.SameShape fs') (base : Path) :
    actualFile? fs base = actualFile? fs' base := by
  have files : fs.isFile = fs'.isFile := funext (FileSystem.isFile_congr same)
  rw [actualFile?, actualFile?, files, FileSystem.isFolder_congr same]

namespace Resolver

variable {r : Resolver} {files' : FileSystem} {place : List String}

theorem toFile_sameShape (same : r.files.SameShape files') (base : Path) (isAlias : Bool) :
    { r with files := files' }.toFile base isAlias = r.toFile base isAlias := by
  unfold toFile
  dsimp only
  rw [actualFile?_congr same]
  rfl

/-- A source leads to the same if the same files are there, whatever they hold. -/
theorem resolve_sameShape (same : r.files.SameShape files') (source : String) (importer : Path) :
    { r with files := files' }.resolve source importer = r.resolve source importer := by
  have anything : files'.isAnything = r.files.isAnything :=
    funext fun p => (FileSystem.isAnything_congr same p).symm
  have actual : actualFile? files' = actualFile? r.files :=
    funext fun base => (actualFile?_congr same base).symm
  unfold resolve
  simp only [toFile_sameShape same, anything, actual]
  rfl

/-- What is made of a file depends on what this file holds, and on the names of all others. -/
theorem analyze_sameBut (same : r.files.SameBut place files') {path : Path}
    (elsewhere : r.files.locate path ≠ .ok place) :
    { r with files := files' }.analyze path = r.analyze path := by
  have resolved : { r with files := files' }.resolve = r.resolve :=
    funext fun source => funext fun importer => resolve_sameShape same.shape source importer
  unfold analyze dependencies follow
  rw [resolved]
  dsimp only
  rw [same.text_congr elsewhere]

theorem knownEntry_sameBut (same : r.files.SameBut place files') {path : Path}
    (elsewhere : r.files.locate path ≠ .ok place) :
    { r with files := files' }.knownEntry path = r.knownEntry path := by
  rw [knownEntry, knownEntry, knownResult, knownResult, analyze_sameBut same elsewhere]

/-- A script that cannot be parsed is analysed, and has no dependencies and one error. -/
theorem analyze_of_malformed {path : Path} (isScript : path.isScript = true) {source : String}
    (read : r.files.text path = .ok source) {error : Script.ReadError}
    (malformed : Script.imports r.parser source path.extension = .error error) :
    r.analyze path = .ok { error? := some .malformed, filePath := path.toString } := by
  rw [analyze, isScript, read]
  dsimp only
  rw [malformed]
  rfl

end Resolver

/-! ## All entries -/

/-- Whether two entries of a file agree in all that does not come from the file with an id. -/
structure MapEntry.SameBut (id : String) (e e' : MapEntry) : Prop where
  file : e.id = e'.id
  imports : e.id ≠ id → e.toForwardEntry = e'.toForwardEntry
  importers : e.importedBy.filter (fun i => i.source ≠ id) =
    e'.importedBy.filter fun i => i.source ≠ id

/-- The mentions that files make of a key agree but for those of one file, if all others have the
same entries. -/
theorem filter_mentions_congr {r r' : Resolver} {edited : String} {rows : List (String × Path)}
    (others : ∀ row ∈ rows, row.2.toString ≠ edited → r.knownEntry row.2 = r'.knownEntry row.2)
    (key : String) :
    (rows.flatMap fun row => (r.knownEntry row.2).mentionsOf key).filter
        (fun i => i.source ≠ edited) =
      (rows.flatMap fun row => (r'.knownEntry row.2).mentionsOf key).filter
        fun i => i.source ≠ edited := by
  have sources (r : Resolver) (path : Path) : ∀ i ∈ (r.knownEntry path).mentionsOf key,
      i.source = path.toString := by
    intro i mention
    obtain ⟨d, -, rfl⟩ := List.mem_map.mp mention
    rfl
  rw [List.filter_flatMap, List.filter_flatMap]
  refine List.flatMap_congr fun row member => ?_
  by_cases own : row.2.toString = edited
  · -- All mentions that the edited file makes are dropped on both sides.
    have dropped (r : Resolver) :
        ((r.knownEntry row.2).mentionsOf key).filter (fun i => i.source ≠ edited) = [] :=
      List.filter_eq_nil_iff.mpr fun i mention => by simp [sources r row.2 i mention, own]
    rw [dropped, dropped]
  · rw [others row member own]

/-- If two resolvers find the same entries of all files but one, their maps agree but for that
file. -/
theorem forall₂_sameBut {r r' : Resolver} {workingDirectory : Path} {files : List Path}
    {edited : String} (others : ∀ row ∈ (scannedPaths workingDirectory files).entries,
      row.2.toString ≠ edited → r.knownEntry row.2 = r'.knownEntry row.2) :
    List.Forall₂ (MapEntry.SameBut edited) (r.knownMap workingDirectory files)
      (r'.knownMap workingDirectory files) := by
  have sorted := (scannedPaths workingDirectory files).perm_sortedEntries
  rw [knownMap_eq, knownMap_eq, List.forall₂_map_left_iff, List.forall₂_map_right_iff,
    List.forall₂_same]
  intro row member
  have id (r : Resolver) : (r.knownEntry row.2).id = row.2.toString := rfl
  exact {
    file := (id r).trans (id r').symm
    imports := others row member
    importers := filter_mentions_congr
      (fun other isOther => others other (sorted.mem_iff.mp isOther)) row.1 }

/-- What stands under the id of a scanned script is its entry. -/
theorem entry_of_id {r : Resolver} {workingDirectory : Path} {files : List Path}
    (proper : workingDirectory.Proper) (files_proper : ∀ file ∈ files, file.Proper) {path : Path}
    (isScanned : path ∈ scriptsAmong workingDirectory files) {e : MapEntry}
    (member : e ∈ r.knownMap workingDirectory files) (id : e.id = path.toString) :
    e.toForwardEntry = r.knownEntry path := by
  rw [knownMap_eq] at member
  obtain ⟨row, isRow, rfl⟩ := List.mem_map.mp member
  obtain ⟨isScript, -⟩ := (mem_scannedPaths_iff proper files_proper).mp isRow
  have own : row.2 = path := (Path.toString_inj
    (proper_of_mem_scriptsAmong proper files_proper row.2 isScript)
    (proper_of_mem_scriptsAmong proper files_proper path isScanned)).mp id
  exact congrArg r.knownEntry own

/-- After an edit of one script there is a map again exactly if this script can be analysed. -/
theorem exists_dependencyMap_edited_iff {r : Resolver} {files' : FileSystem}
    {place : List String} (same : r.files.SameBut place files') {workingDirectory : Path}
    {files : List Path} {edited : Path}
    (only : ∀ path ∈ scriptsAmong workingDirectory files,
      r.files.locate path = .ok place → path = edited)
    (can : ∀ path ∈ scriptsAmong workingDirectory files, r.CanAnalyze path) :
    (∃ map', { r with files := files' }.dependencyMap workingDirectory files = .ok map') ↔
      (edited ∈ scriptsAmong workingDirectory files →
        { r with files := files' }.CanAnalyze edited) := by
  rw [exists_dependencyMap_iff]
  constructor
  · exact fun all scanned => all edited scanned
  · intro own path isScript
    by_cases isEdited : path = edited
    · subst isEdited
      exact own isScript
    · have elsewhere : r.files.locate path ≠ .ok place :=
        fun isPlace => isEdited (only path isScript isPlace)
      obtain ⟨result, analyzed⟩ := can path isScript
      exact ⟨result, (Resolver.analyze_sameBut same elsewhere).trans analyzed⟩

/-- An edit of one script shows in its own entry and in its own mentions of other files alone: with
the same files scanned, both maps have entries for the same files in the same order, the
dependencies and errors of all others are the same, and so are the mentions that all others make.
And a script that cannot be parsed after the edit has no dependencies and one error. There is no map
after the edit, though, if the edited script has a source then whose file is looked for at a path
that is too long, and that is the only way to lose the map. -/
theorem dependencyMap_isolated_iff {r : Resolver} {files' : FileSystem} {place : List String}
    (same : r.files.SameBut place files') (workingDirectory : String) (files : List String)
    (edited : Path)
    (only : ∀ path ∈ scriptsAmong (Path.ofString workingDirectory) (files.map Path.ofString),
      r.files.locate path = .ok place → path = edited) :
    let r' : Resolver := { r with files := files' }
    let scan (r : Resolver) : Except PathError (List MapEntry) :=
      r.dependencyMap (Path.ofString workingDirectory) (files.map Path.ofString)
    let isScanned : Prop :=
      edited ∈ scriptsAmong (Path.ofString workingDirectory) (files.map Path.ofString)
    ∀ map, scan r = .ok map →
      (∀ map', scan r' = .ok map' → List.Forall₂ (MapEntry.SameBut edited.toString) map map') ∧
      ((∃ map', scan r' = .ok map') ↔ (isScanned → ∀ raw ∈ r'.statements edited,
        ¬ ∃ p, files'.StopsAt (r'.sought raw.source edited) p)) ∧
      (isScanned → ∀ source error, files'.text edited = .ok source →
        Script.imports r.parser source edited.extension = .error error →
        ∃ map', scan r' = .ok map' ∧ (∃ e ∈ map', e.id = edited.toString) ∧
          ∀ e ∈ map', e.id = edited.toString →
            e.imports = [] ∧ e.externalImports = [] ∧
              e.errors = [AnalysisError.malformed.message]) := by
  intro r' scan isScanned map success
  obtain ⟨can, rfl⟩ := dependencyMap_eq_ok_iff.mp success
  have proper := Path.proper_ofString workingDirectory
  have files_proper : ∀ file ∈ files.map Path.ofString, file.Proper := by
    intro file member
    obtain ⟨text, -, rfl⟩ := List.mem_map.mp member
    exact Path.proper_ofString text
  have built : (∃ map', scan r' = .ok map') ↔ (isScanned → r'.CanAnalyze edited) :=
    exists_dependencyMap_edited_iff same only can
  refine ⟨?_, ?_, ?_⟩
  · intro map' success'
    obtain ⟨-, rfl⟩ := dependencyMap_eq_ok_iff.mp success'
    refine forall₂_sameBut fun row member other => ?_
    obtain ⟨isScript, -⟩ := (mem_scannedPaths_iff proper files_proper).mp member
    refine (Resolver.knownEntry_sameBut same fun isPlace => ?_).symm
    exact other (congrArg Path.toString (only row.2 isScript isPlace))
  · rw [built]
    refine forall_congr' fun scanned => ?_
    rw [Resolver.canAnalyze_iff (List.mem_filter.mp scanned).2]
    exact forall₂_congr fun raw _ => Resolver.exists_resolve_iff
  · intro scanned source error read malformed
    have edited_proper := proper_of_mem_scriptsAmong proper files_proper edited scanned
    have analyzed := Resolver.analyze_of_malformed (r := r') (List.mem_filter.mp scanned).2 read
      malformed
    obtain ⟨map', success'⟩ := built.mpr fun _ => ⟨_, analyzed⟩
    obtain ⟨-, rfl⟩ := dependencyMap_eq_ok_iff.mp success'
    refine ⟨_, success', ?_, fun e member id => ?_⟩
    · exact (mem_scriptsAmong_iff_entry proper r' files_proper edited_proper).mp scanned
    · have isEntry := entry_of_id proper files_proper scanned member id
      rw [Resolver.knownEntry, Resolver.knownResult_eq analyzed] at isEntry
      rw [isEntry]
      exact ⟨rfl, rfl, rfl⟩

/-! ## A script that breaks -/

/-- Two scripts that import each other, and a link to the second one. -/
def circular : Resolver where
  files := ⟨.folder [("p", .folder [("a.js", .file "import \"./b\";\n".toUTF8),
    ("b.js", .file "import \"./a\";\n".toUTF8), ("c.js", .link "b.js")])]⟩
  root := ⟨1, ["p"]⟩

/-- All of them can be analysed. -/
private theorem exists_dependencyMap_circular : ∃ map, circular.dependencyMap (Path.ofString "/p")
    (["a.js", "b.js", "c.js"].map Path.ofString) = .ok map := by
  have analyzed : ∀ path ∈ scriptsAmong (Path.ofString "/p")
      (["a.js", "b.js", "c.js"].map Path.ofString), (circular.analyze path).isOk = true := by
    decide +kernel
  exact exists_dependencyMap_iff.mpr fun path member => exists_eq_ok_iff.mpr (analyzed path member)

/-- The first script is cut off. There still is a map, and the entries of the others stay as they
are but for its mentions. -/
theorem dependencyMap_isolated_in_circular :
    let place : List String := ["p", "a.js"]
    let broken := circular.files.put ⟨1, place⟩ (.file "import \x7b".toUTF8)
    let files := ["a.js", "b.js", "c.js"]
    let scan (r : Resolver) : Except PathError (List MapEntry) :=
      r.dependencyMap (Path.ofString "/p") (files.map Path.ofString)
    circular.files.SameBut place broken ∧
    (∀ path ∈ scriptsAmong (Path.ofString "/p") (files.map Path.ofString),
      circular.files.locate path = .ok place → path = ⟨1, place⟩) ∧
    ∃ map map', scan circular = .ok map ∧ scan { circular with files := broken } = .ok map' ∧
      List.Forall₂ (MapEntry.SameBut "/p/a.js") map map' ∧
      (∃ e ∈ map', e.id = "/p/a.js") ∧
      ∀ e ∈ map', e.id = "/p/a.js" →
        e.imports = [] ∧ e.externalImports = [] ∧ e.errors = ["Parse error"] := by
  intro place broken files scan
  have same : circular.files.SameBut place broken := FileSystem.sameBut_put rfl _
  have only : ∀ path ∈ scriptsAmong (Path.ofString "/p") (files.map Path.ofString),
      circular.files.locate path = .ok place → path = ⟨1, place⟩ := by
    decide +kernel
  obtain ⟨map, success⟩ : ∃ map, scan circular = .ok map := exists_dependencyMap_circular
  obtain ⟨alike, -, spoilt⟩ :=
    dependencyMap_isolated_iff same "/p" files ⟨1, place⟩ only map success
  have scanned : (⟨1, place⟩ : Path) ∈ scriptsAmong (Path.ofString "/p")
      (files.map Path.ofString) := by
    decide +kernel
  have read : broken.text ⟨1, place⟩ = .ok "import \x7b" := by
    decide +kernel
  have malformed : Script.imports Script.trees? "import \x7b" (⟨1, place⟩ : Path).extension =
      .error .malformed := by
    decide +kernel
  obtain ⟨map', success', listed⟩ := spoilt scanned _ _ read malformed
  exact ⟨same, only, map, map', success, success', alike map' success', listed⟩

/-- The first script is edited to import a package with a name of 300 letters. There is a map before
the edit and none after it, though the script can be parsed. -/
theorem map_lost_in_circular :
    let place : List String := ["p", "a.js"]
    let edited := circular.files.put ⟨1, place⟩ (.file (Script.importText longName).toUTF8)
    let scan (r : Resolver) : Except PathError (List MapEntry) :=
      r.dependencyMap (Path.ofString "/p") (["a.js", "b.js", "c.js"].map Path.ofString)
    circular.files.SameBut place edited ∧
    edited.text ⟨1, place⟩ = .ok (Script.importText longName) ∧
    Script.imports Script.trees? (Script.importText longName) ".js" =
      .ok [{ source := String.ofList longName, form := .statement }] ∧
    (∃ map, scan circular = .ok map) ∧
    ¬ ∃ map, scan { circular with files := edited } = .ok map := by
  intro place edited scan
  have text (bytes : ByteArray) : (circular.files.put ⟨1, place⟩ (.file bytes)).text ⟨1, place⟩ =
      .ok (Text.ofBytes bytes) := rfl
  have read : edited.text ⟨1, place⟩ = .ok (Script.importText longName) :=
    (text _).trans (congrArg Except.ok (Script.ofBytes_importText isPlain_longName))
  have parsed := Script.imports_importText isPlain_longName
  refine ⟨FileSystem.sameBut_put rfl _, read, parsed, exists_dependencyMap_circular, ?_⟩
  have scanned : (⟨1, place⟩ : Path) ∈ scriptsAmong (Path.ofString "/p")
      (["a.js", "b.js", "c.js"].map Path.ofString) := by
    decide +kernel
  have usual : Resolver.HasShortNames { circular with files := edited } :=
    ⟨⟨by decide, by decide, by decide⟩, rfl, rfl, _, _, rfl, rfl, by decide⟩
  intro built
  exact usual.not_canAnalyze_importText (by decide +kernel) (by decide +kernel) read
    (exists_dependencyMap_iff.mp built _ scanned)

end SiteAtlas
