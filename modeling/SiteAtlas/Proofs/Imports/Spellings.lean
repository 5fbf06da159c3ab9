import SiteAtlas.Proofs.Imports.Agreement
import SiteAtlas.Proofs.Imports.Targets

/-! # The spellings of an import

A source can name one file in many ways: with `.` and doubled slashes that say nothing, with `..`
that takes names back, seen from the importing file or from the project's root. Going along its
names step by step leads to a place, and the resolver finds the file at that place under exactly its
own path. As importers are noted under the paths of files, every spelling is noted under the same
one.
-/

namespace SiteAtlas

/-! ## Going along names -/

/-- Whether names lead from a folder to a place. An empty name and `.` stay, `..` goes up, where
there is anything above, and every other name goes down. -/
inductive Leads : List String → List String → List String → Prop where
  | arrive (place : List String) : Leads place [] place
  | stay {place rest target : List String} (name : String) :
    name = "" ∨ name = "." → Leads place rest target → Leads place (name :: rest) target
  | up {place rest target : List String} :
    Leads place.dropLast rest target → Leads place (".." :: rest) target
  | down {place rest target : List String} (name : String) :
    name ≠ "" → name ≠ "." → name ≠ ".." → Leads (place ++ [name]) rest target →
      Leads place (name :: rest) target

namespace Path

/-- A path that says where a place is in the only way: from the root, and without going back. -/
structure IsNormal (p : Path) : Prop extends p.Proper where
  absolute : p.isAbsolute = true
  noUp : ".." ∉ p.parts

/-- Names without `..` are kept as they are. -/
theorem collapseParts_of_notMem {isAbsolute : Bool} {names : List String} (noUp : ".." ∉ names)
    (done : List String) : collapseParts isAbsolute done names = names.reverse ++ done := by
  induction names generalizing done with
  | nil => rfl
  | cons name rest ih =>
    have other : name ≠ ".." := (List.ne_of_not_mem_cons noUp).symm
    rw [collapseParts_keep other, ih (List.not_mem_of_not_mem_cons noUp), List.reverse_cons,
      List.append_assoc]
    rfl

/-- Taking `..` back leads to the same place as going along the names. -/
theorem collapseParts_of_leads {place names target : List String} (leads : Leads place names target)
    (noUp : ".." ∉ place) :
    collapseParts true place.reverse (names.filter fun part => part != "" && part != ".") =
      target.reverse := by
  induction leads with
  | arrive place => rfl
  | stay name nothing _ ih =>
    have dropped : (name != "" && name != ".") = false := by
      rcases nothing with rfl | rfl <;> rfl
    rw [List.filter_cons_of_neg (by simp [dropped])]
    exact ih noUp
  | @up place rest target _ ih =>
    have above : ".." ∉ place.dropLast := fun member => noUp (List.dropLast_subset _ member)
    rw [List.filter_cons_of_pos (by decide), ← ih above]
    rcases List.eq_nil_or_concat place with rfl | ⟨before, last, rfl⟩
    · rfl
    · have other : last ≠ ".." := by
        rintro rfl
        exact noUp (by simp)
      rw [List.concat_eq_append, List.reverse_append, List.dropLast_concat]
      exact collapseParts_up other
  | @down place rest target name filled notDot notUp _ ih =>
    have below : ".." ∉ place ++ [name] := by
      simpa using ⟨noUp, Ne.symm notUp⟩
    rw [List.filter_cons_of_pos (by simp [filled, notDot]), collapseParts_keep notUp, ← ih below,
      List.reverse_append]
    rfl

/-- A text that does not start at the root is read as a relative path. -/
theorem slashes_ofString_of_relative {text : String} (relative : text.toList.head? ≠ some '/') :
    (ofString text).slashes = 0 := by
  have none : text.toList.takeWhile (· == '/') = [] := by
    cases chars : text.toList with
    | nil => rfl
    | cons c rest =>
      rw [chars, List.head?_cons] at relative
      simpa using relative
  change leadingSlashes text = 0
  rw [leadingSlashes, none]
  rfl

/-- A text that is seen from a folder and collapsed is the path of the place that its names lead
to. -/
theorem collapse_join_of_leads {folder target : Path} (absolute : folder.isAbsolute = true)
    (noUp : ".." ∉ folder.parts) {text : String} (relative : text.toList.head? ≠ some '/')
    (leads : Leads folder.parts (splitSlashes text) target.parts)
    (slashes : target.slashes = folder.slashes) :
    (folder.join (ofString text)).collapse = target := by
  have isRelative : (ofString text).isAbsolute = false := by
    rw [isAbsolute, slashes_ofString_of_relative relative]
    rfl
  have isAbsolute : (folder.slashes != 0) = true := absolute
  obtain ⟨count, names⟩ := target
  obtain rfl : count = folder.slashes := slashes
  rw [Path.join, isRelative, if_neg Bool.false_ne_true, Path.collapse, Path.isAbsolute, isAbsolute,
    collapseParts_append, collapseParts_of_notMem noUp, List.append_nil, Path.ofString,
    collapseParts_of_leads leads noUp, List.reverse_reverse]

end Path

/-! ## Sources that spell a file -/

namespace Resolver

/-- Whether a source in a file spells a path: it starts with `./` or `../` and leads there from the
folder of the file, or it is the alias, which does not start with a dot, and behind it a text that
leads there from the project's root. -/
def Spells (r : Resolver) (importer : Path) (source : String) (target : Path) : Prop :=
  (("./".toList <+: source.toList ∨ "../".toList <+: source.toList) ∧
    Leads importer.parent.parts (Path.splitSlashes source) target.parts ∧
      target.slashes = importer.slashes) ∨
  ∃ rest, source = r.aliasPrefix ++ rest ∧ r.aliasPrefix ≠ "" ∧
    r.aliasPrefix.toList.head? ≠ some '.' ∧ rest.toList.head? ≠ some '/' ∧
      Leads r.root.parts (Path.splitSlashes rest) target.parts ∧
        target.slashes = r.root.slashes

section Resolve

variable {r : Resolver} {importer target : Path} {source : String}

/-- A source that leads to an existing file is resolved to that file. -/
theorem toFile_of_isFile (isFile : r.files.isFile target = .ok true) (isAlias : Bool) :
    r.toFile target isAlias = .ok (r.fileAt target (some target) isAlias) := by
  have stands : r.files.StandsFor target target := ⟨.first _ _, isFile⟩
  rw [toFile, actualFile?_eq_some_iff.mpr stands]
  rfl

theorem afterAlias?_append {rest : String} (filled : r.aliasPrefix ≠ "") :
    r.afterAlias? (r.aliasPrefix ++ rest) = some rest := by
  have nonempty : r.aliasPrefix.isEmpty = false := by simpa using filled
  have found : Text.after? r.aliasPrefix.toList (r.aliasPrefix ++ rest).toList =
      some rest.toList :=
    Text.after?_eq_some_iff.mpr String.toList_append
  rw [afterAlias?, nonempty, if_neg Bool.false_ne_true, found, Option.map_some,
    String.ofList_toList]

/-- Whatever spells a path is resolved to it. -/
theorem exists_resolve_eq_toFile (root : r.root.IsNormal) (normal : importer.IsNormal)
    (spells : r.Spells importer source target) :
    ∃ isAlias, r.resolve source importer = r.toFile target isAlias := by
  rcases spells with ⟨start, leads, slashes⟩ | ⟨rest, rfl, filled, plain, inside, leads, slashes⟩
  · have dot : source.toList.head? = some '.' := by
      rcases start with ⟨behind, chars⟩ | ⟨behind, chars⟩ <;> rw [← chars] <;> rfl
    have noUp : ".." ∉ importer.parent.parts :=
      fun member => normal.noUp (List.dropLast_subset _ member)
    have relative : source.toList.head? ≠ some '/' := by
      rw [dot]
      decide
    have absolute : importer.parent.isAbsolute = true := normal.absolute
    have place : (importer.parent.join (Path.ofString source)).collapse = target :=
      Path.collapse_join_of_leads absolute noUp relative leads slashes
    exact ⟨false, by rw [resolve, if_pos dot, place]⟩
  · have noDot : (r.aliasPrefix ++ rest).toList.head? ≠ some '.' := by
      have nonempty : r.aliasPrefix.toList ≠ [] := by simpa using filled
      rw [String.toList_append, List.head?_append_of_ne_nil _ nonempty]
      exact plain
    have place : (r.root.join (Path.ofString rest)).collapse = target :=
      Path.collapse_join_of_leads root.absolute root.noUp inside leads slashes
    refine ⟨true, ?_⟩
    rw [resolve, if_neg noDot, afterAlias?_append filled]
    dsimp only
    rw [place]

end Resolve

/-! ## Statements and their mentions -/

/-- Every statement of a script has a dependency with its source, which leads where the source
leads. -/
theorem exists_dependency_of_statement {r : Resolver} {path : Path}
    {result : DependencyResult} (analyzed : r.analyze path = .ok result)
    (isScript : path.isScript = true) {raw : RawImport} (given : raw ∈ r.statements path) :
    ∃ d ∈ result.all, r.resolve raw.source path = .ok d.target := by
  unfold statements at given
  unfold analyze at analyzed
  dsimp only at analyzed
  rw [isScript] at analyzed
  cases text : r.files.text path with
  | error error => simp [text] at given
  | ok source =>
    rw [text] at given analyzed
    dsimp only at given analyzed
    cases parsed : Script.imports r.parser source path.extension with
    | error error => simp [parsed, Except.toOption] at given
    | ok raws =>
      rw [parsed] at given analyzed
      have isStatement : raw ∈ raws := given
      obtain ⟨d, gathered, same⟩ := Dependency.exists_mem_gather path.toString isStatement
      obtain ⟨followed, success, rfl⟩ := dependencies_eq_ok_iff.mp analyzed
      obtain ⟨e, member, follows⟩ := exists_mem_results success d gathered
      obtain ⟨target, told, rfl⟩ := follow_eq_ok_iff.mp follows
      refine ⟨_, (DependencyResult.all_ofDependencies_perm _ _).mem_iff.mpr member, ?_⟩
      have source : d.source = raw.source := congrArg Prod.fst same
      rw [← source, told]

theorem isLocal_of_mem_externals {r : Resolver} {path : Path} {result : DependencyResult}
    (analyzed : r.analyze path = .ok result) {d : Dependency} (external : d ∈ result.externals) :
    d.target.isLocal = false := by
  rcases r.analyze_cases analyzed with none | ⟨raws, read⟩
  · have member : d ∈ result.all := List.mem_append_right _ external
    rw [none] at member
    exact absurd member List.not_mem_nil
  · obtain ⟨followed, -, rfl⟩ := dependencies_eq_ok_iff.mp read
    have kept := (List.mergeSort_perm _ _).mem_iff.mp external
    simpa using (List.mem_filter.mp kept).2

/-- A script notes itself as an importer of every scanned file that one of its statements leads
to. -/
theorem exists_importer_of_statement {r : Resolver} {workingDirectory : Path} {files : List Path}
    (proper : workingDirectory.Proper) (files_proper : ∀ file ∈ files, file.Proper)
    {map : List MapEntry} (success : r.dependencyMap workingDirectory files = .ok map)
    {importer target : Path} (scanned : importer ∈ scriptsAmong workingDirectory files)
    (scanned' : target ∈ scriptsAmong workingDirectory files) {raw : RawImport}
    (given : raw ∈ r.statements importer) {t : Resolution}
    (told : r.resolve raw.source importer = .ok t) (isLocal : t.isLocal = true)
    (isThere : t.exists? = some true) (leads : t.resolvedPath = target.toString) :
    ∃ e ∈ map, e.id = target.toString ∧ ∃ i ∈ e.importedBy, i.source = importer.toString := by
  obtain ⟨can, rfl⟩ := dependencyMap_eq_ok_iff.mp success
  have target_proper := proper_of_mem_scriptsAmong proper files_proper target scanned'
  obtain ⟨e, isEntry, id⟩ :=
    (mem_scriptsAmong_iff_entry proper r files_proper target_proper).mp scanned'
  obtain ⟨result, analyzed⟩ := can importer scanned
  obtain ⟨d, member, place⟩ :=
    exists_dependency_of_statement analyzed (List.mem_filter.mp scanned).2 given
  obtain rfl : t = d.target := Except.ok.inj (told.symm.trans place)
  have isImport : d ∈ (r.knownEntry importer).imports := by
    rw [knownEntry, knownResult_eq analyzed]
    rcases List.mem_append.mp member with isLocal' | external
    · exact isLocal'
    · have outside := isLocal_of_mem_externals analyzed external
      rw [isLocal] at outside
      cases outside
  have leadsTo : d.leadsTo e.id = true := by
    rw [Dependency.leadsTo, isThere, leads, id]
    simp
  have mention : (r.knownEntry importer).importer d ∈ (r.knownEntry importer).mentionsOf e.id :=
    List.mem_map_of_mem (List.mem_filter.mpr ⟨isImport, leadsTo⟩)
  have row : (importer.toString, importer) ∈
      (scannedPaths workingDirectory files).sortedEntries :=
    ((scannedPaths workingDirectory files).perm_sortedEntries).mem_iff.mpr
      ((mem_scannedPaths_iff proper files_proper).mpr ⟨scanned, rfl⟩)
  refine ⟨e, isEntry, id, (r.knownEntry importer).importer d, ?_, rfl⟩
  rw [importedBy_of_mem_knownMap r workingDirectory files isEntry]
  exact List.mem_flatMap.mpr ⟨_, row, mention⟩

/-- There is a map of scanned scripts unless the search for the file of a source comes to a path
that is too long. A source that is known to be resolved need not be looked at. -/
theorem exists_dependencyMap_iff_others {r : Resolver} {workingDirectory : Path}
    {files : List Path} {importer : Path} {source : String} {t : Resolution}
    (told : r.resolve source importer = .ok t) :
    (∃ map, r.dependencyMap workingDirectory files = .ok map) ↔
      ∀ path ∈ scriptsAmong workingDirectory files, ∀ raw ∈ r.statements path,
        (path, raw.source) ≠ (importer, source) →
          ¬ ∃ p, r.files.StopsAt (r.sought raw.source path) p := by
  rw [exists_dependencyMap_iff]
  refine forall₂_congr fun path scanned => ?_
  rw [canAnalyze_iff (List.mem_filter.mp scanned).2]
  refine forall₂_congr fun raw _ => ?_
  rw [exists_resolve_iff]
  constructor
  · exact fun goesOn _ => goesOn
  · intro goesOn
    by_cases own : (path, raw.source) = (importer, source)
    · obtain ⟨rfl, rfl⟩ := Prod.mk.inj own
      exact exists_resolve_iff.mp ⟨t, told⟩
    · exact goesOn own

/-- Every source that spells an existing file is resolved to that file, under exactly its path. So
if both are scanned and the importing script has a statement with such a source, it is noted among
the importers of the file. There is a map to note it in unless the search for the file of another
source comes to a path that is too long. -/
theorem spelling_finds_file {r : Resolver} (root : r.root.IsNormal) {importer target : Path}
    (normal : importer.IsNormal) (isFile : r.files.isFile target = .ok true) {source : String}
    (spells : r.Spells importer source target) :
    (∃ t, r.resolve source importer = .ok t ∧ t.isLocal = true ∧ t.exists? = some true ∧
      t.resolvedPath = target.toString) ∧
    ∀ (workingDirectory : String) (files : List String),
      let scan : Except PathError (List MapEntry) :=
        r.dependencyMap (Path.ofString workingDirectory) (files.map Path.ofString)
      let scripts : List Path :=
        scriptsAmong (Path.ofString workingDirectory) (files.map Path.ofString)
      ((∃ map, scan = .ok map) ↔ ∀ path ∈ scripts, ∀ raw ∈ r.statements path,
        (path, raw.source) ≠ (importer, source) →
          ¬ ∃ p, r.files.StopsAt (r.sought raw.source path) p) ∧
      ∀ map, scan = .ok map → importer ∈ scripts → target ∈ scripts →
        (∃ raw ∈ r.statements importer, raw.source = source) →
          ∃ e ∈ map, e.id = target.toString ∧
            ∃ i ∈ e.importedBy, i.source = importer.toString := by
  obtain ⟨isAlias, place⟩ := exists_resolve_eq_toFile root normal spells
  have told := place.trans (toFile_of_isFile isFile isAlias)
  refine ⟨⟨_, told, rfl, rfl, rfl⟩, fun workingDirectory files =>
    ⟨exists_dependencyMap_iff_others told, ?_⟩⟩
  rintro map success scanned scanned' ⟨raw, given, rfl⟩
  have files_proper : ∀ file ∈ files.map Path.ofString, file.Proper := by
    intro file member
    obtain ⟨text, -, rfl⟩ := List.mem_map.mp member
    exact Path.proper_ofString text
  exact exists_importer_of_statement (Path.proper_ofString workingDirectory) files_proper success
    scanned scanned' given told rfl rfl rfl

/-! ## A file with two spellings -/

/-- A project in which one script names another one twice, seen from itself and from the root. -/
def twoSpellings : Resolver where
  files := ⟨.folder [("p", .folder [
    ("src", .folder [("a.js",
      .file "import \"./..//lib/./b.js\";\nimport \"@/src/../lib/b.js\";\n".toUTF8)]),
    ("lib", .folder [("b.js", .file "".toUTF8)])])]⟩
  root := ⟨1, ["p"]⟩

/-- Both spellings are found under one path, and noted there. -/
theorem spelling_finds_file_twice :
    let importer : Path := ⟨1, ["p", "src", "a.js"]⟩
    let target : Path := ⟨1, ["p", "lib", "b.js"]⟩
    twoSpellings.root.IsNormal ∧ importer.IsNormal ∧ twoSpellings.files.isFile target = .ok true ∧
    twoSpellings.Spells importer "./..//lib/./b.js" target ∧
    twoSpellings.Spells importer "@/src/../lib/b.js" target ∧
    (∃ t, twoSpellings.resolve "./..//lib/./b.js" importer = .ok t ∧
      t.resolvedPath = "/p/lib/b.js") ∧
    (∃ t, twoSpellings.resolve "@/src/../lib/b.js" importer = .ok t ∧
      t.resolvedPath = "/p/lib/b.js") ∧
    ∃ map, twoSpellings.dependencyMap (Path.ofString "/p")
        (["src/a.js", "lib/b.js"].map Path.ofString) = .ok map ∧
      ∃ e ∈ map, e.id = "/p/lib/b.js" ∧ ∃ i ∈ e.importedBy, i.source = "/p/src/a.js" := by
  intro importer target
  have isPart : ∀ name ∈ ["p", "src", "a.js"], Path.IsPart name := by
    unfold Path.IsPart
    decide
  have root : twoSpellings.root.IsNormal := by
    refine ⟨⟨by decide, fun name member => isPart name ?_⟩, by decide, by decide⟩
    exact List.mem_cons.mpr (.inl (List.mem_singleton.mp member))
  have normal : importer.IsNormal := ⟨⟨by decide, isPart⟩, by decide, by decide⟩
  have isFile : twoSpellings.files.isFile target = .ok true := by decide +kernel
  have relative : twoSpellings.Spells importer "./..//lib/./b.js" target := by
    have names : Path.splitSlashes "./..//lib/./b.js" = [".", "..", "", "lib", ".", "b.js"] := by
      decide +kernel
    refine .inl ⟨.inl (by decide), ?_, rfl⟩
    rw [names]
    exact .stay _ (by decide) (.up (.stay _ (by decide) (.down _ (by decide) (by decide) (by decide)
      (.stay _ (by decide) (.down _ (by decide) (by decide) (by decide) (.arrive _))))))
  have aliased : twoSpellings.Spells importer "@/src/../lib/b.js" target := by
    have names : Path.splitSlashes "src/../lib/b.js" = ["src", "..", "lib", "b.js"] := by
      decide +kernel
    refine .inr ⟨"src/../lib/b.js", by decide, by decide, by decide, by decide, ?_, rfl⟩
    rw [names]
    exact .down _ (by decide) (by decide) (by decide) (.up (.down _ (by decide) (by decide)
      (by decide) (.down _ (by decide) (by decide) (by decide) (.arrive _))))
  obtain ⟨⟨t, told, -, -, path⟩, mentioned⟩ := spelling_finds_file root normal isFile relative
  obtain ⟨⟨t', told', -, -, path'⟩, -⟩ := spelling_finds_file root normal isFile aliased
  have statement : ∃ raw ∈ twoSpellings.statements importer,
      raw.source = "./..//lib/./b.js" := by
    decide +kernel
  have built : ∃ map, twoSpellings.dependencyMap (Path.ofString "/p")
      (["src/a.js", "lib/b.js"].map Path.ofString) = .ok map :=
    exists_eq_ok_iff.mpr (by decide +kernel)
  obtain ⟨map, success⟩ := built
  obtain ⟨-, notes⟩ := mentioned "/p" ["src/a.js", "lib/b.js"]
  have isNoted := notes map success (by decide +kernel) (by decide +kernel) statement
  exact ⟨root, normal, isFile, relative, aliased, ⟨t, told, path⟩, ⟨t', told', path'⟩, map, success,
    isNoted⟩

end Resolver

end SiteAtlas
