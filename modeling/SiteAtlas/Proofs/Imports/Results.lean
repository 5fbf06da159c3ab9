import SiteAtlas.Proofs.Imports.LongSources
import SiteAtlas.Proofs.Imports.Merging
import Mathlib.Data.Prod.Lex

/-! # What a result lists

The dependencies of a script that can be read are divided into those on files of the project and
those on packages. Each source and form of its statements is in one of the two lists, once, and both
lists are in strict order of source and form. There is no result at all, though, if a source is
looked for at a path that is too long.
-/

namespace SiteAtlas

theorem ImportForm.label_injective : Function.Injective ImportForm.label := by
  intro f g
  cases f <;> cases g <;> decide

namespace Dependency

/-- Whether a dependency comes before another in the order of source and name of the form. -/
def Precedes (d e : Dependency) : Prop :=
  d.source < e.source ∨ d.source = e.source ∧ d.form.label < e.form.label

instance (d e : Dependency) : Decidable (d.Precedes e) := inferInstanceAs (Decidable (_ ∨ _))

/-- The source and the name of the form, to be compared in this order. -/
def place (d : Dependency) : Lex (String × String) := toLex (d.source, d.form.label)

variable {d e : Dependency}

theorem precedes_iff : d.Precedes e ↔ d.place < e.place := by
  rw [Precedes, place, place, Prod.Lex.toLex_lt_toLex]

theorem listedBefore_iff : d.listedBefore e = true ↔ d.place ≤ e.place := by
  rw [place, place, Prod.Lex.toLex_le_toLex]
  simp [listedBefore]

theorem place_eq_iff : d.place = e.place ↔ d.key = e.key := by
  simp only [place, key, toLex_inj, Prod.mk.injEq, ImportForm.label_injective.eq_iff]

/-- Dependencies without a key twice are put in strict order. -/
theorem pairwise_mergeSort {dependencies : List Dependency}
    (distinct : (dependencies.map key).Nodup) :
    (dependencies.mergeSort listedBefore).Pairwise Precedes := by
  have inOrder : (dependencies.mergeSort listedBefore).Pairwise fun d e => d.place ≤ e.place := by
    refine (List.pairwise_mergeSort (fun a b c first second => ?_) (fun a b => ?_)
      dependencies).imp listedBefore_iff.mp
    · rw [listedBefore_iff] at first second ⊢
      exact first.trans second
    · rw [Bool.or_eq_true, listedBefore_iff, listedBefore_iff]
      exact le_total a.place b.place
  have differ : (dependencies.mergeSort listedBefore).Pairwise fun d e => d.key ≠ e.key := by
    rw [← List.pairwise_map (f := key) (R := (· ≠ ·))]
    exact ((List.mergeSort_perm dependencies listedBefore).map key).nodup_iff.mpr distinct
  refine (inOrder.and differ).imp fun {d e} both => precedes_iff.mpr ?_
  exact lt_of_le_of_ne both.1 (mt place_eq_iff.mp both.2)

end Dependency

namespace Resolver

open Dependency

variable {r : Resolver} {path : Path} {source : String} {raws : List RawImport}

/-- A script that can be read and is well-formed has the dependencies of its statements. -/
theorem analyze_eq (isScript : path.isScript = true) (read : r.files.text path = .ok source)
    (parses : Script.imports r.parser source path.extension = .ok raws) :
    r.analyze path = r.dependencies path raws := by
  unfold analyze
  dsimp only
  rw [isScript, read]
  dsimp only
  rw [parses]
  rfl

section Dependencies

variable {result : DependencyResult} (made : r.dependencies path raws = .ok result)
include made

/-- Both lists together have the sources and forms of the statements. -/
theorem perm_keys_dependencies :
    (result.all.map key).Perm (raws.map RawImport.key).eraseDups := by
  obtain ⟨followed, success, rfl⟩ := dependencies_eq_ok_iff.mp made
  rw [← keys_gather path.toString raws, ← keys_followed success]
  exact (DependencyResult.all_ofDependencies_perm _ _).map key

/-- Both lists together have every source and form of the statements once. -/
theorem count_keys_dependencies (k : String × ImportForm) :
    (result.locals.map key).count k + (result.externals.map key).count k =
      if k ∈ raws.map RawImport.key then 1 else 0 := by
  have listed := perm_keys_dependencies made
  have distinct : (raws.map RawImport.key).eraseDups.Nodup := by
    rw [← keys_gather path.toString raws]
    exact nodup_keys_gather path.toString raws
  rw [← List.count_append, ← List.map_append]
  refine (listed.count_eq k).trans ?_
  rw [distinct.count]
  simp only [List.mem_eraseDups]

/-- Both lists are in strict order. -/
theorem pairwise_dependencies :
    result.locals.Pairwise Precedes ∧ result.externals.Pairwise Precedes := by
  obtain ⟨followed, success, rfl⟩ := dependencies_eq_ok_iff.mp made
  have distinct : (followed.map key).Nodup := by
    rw [keys_followed success]
    exact nodup_keys_gather path.toString raws
  have inOrder (keep : Dependency → Bool) :
      ((followed.filter keep).mergeSort listedBefore).Pairwise Precedes :=
    pairwise_mergeSort (distinct.sublist (List.filter_sublist.map key))
  exact ⟨inOrder _, inOrder _⟩

/-- What is in the first list is told of as local, and what is in the second one is not. Both have
what their sources lead to. -/
theorem target_of_mem_dependencies {d : Dependency} :
    (d ∈ result.locals → r.resolve d.source path = .ok d.target ∧ d.target.isLocal = true) ∧
      (d ∈ result.externals →
        r.resolve d.source path = .ok d.target ∧ d.target.isLocal = false) := by
  obtain ⟨followed, success, rfl⟩ := dependencies_eq_ok_iff.mp made
  have told (member : d ∈ followed) : r.resolve d.source path = .ok d.target := by
    obtain ⟨bare, -, follows⟩ := exists_mem_items success d member
    obtain ⟨target, told, rfl⟩ := follow_eq_ok_iff.mp follows
    exact told
  constructor
  · intro member
    obtain ⟨given, isLocal⟩ := List.mem_filter.mp ((List.mergeSort_perm _ _).mem_iff.mp member)
    exact ⟨told given, isLocal⟩
  · intro member
    obtain ⟨given, external⟩ := List.mem_filter.mp ((List.mergeSort_perm _ _).mem_iff.mp member)
    exact ⟨told given, by simpa using external⟩

end Dependencies

/-- Whether a result lists each source and form of some statements in one of its two lists, once.
Both lists are in strict order, and together as long as the count that is given. The first list has
files of the project, there or missing, and the second one packages. -/
structure ListsEachOnce (r : Resolver) (raws : List RawImport) (result : DependencyResult) :
    Prop where
  once : ∀ k, (result.locals.map key).count k + (result.externals.map key).count k =
    if k ∈ raws.map RawImport.key then 1 else 0
  locals : result.locals.Pairwise Precedes
  externals : result.externals.Pairwise Precedes
  totalCount : (result.payload.get? "metadata").bind (·.get? "totalCount") =
    some (.count (result.locals.length + result.externals.length))
  ofFile : ∀ d ∈ result.locals, d.target.OfFile r
  ofPackage : ∀ d ∈ result.externals, d.target.OfPackage d.source

theorem listsEachOnce_of_dependencies (root : r.root.Proper) (proper : path.Proper)
    {result : DependencyResult} (made : r.dependencies path raws = .ok result) :
    r.ListsEachOnce raws result where
  once := count_keys_dependencies made
  locals := (pairwise_dependencies made).1
  externals := (pairwise_dependencies made).2
  totalCount := by
    rw [← List.length_append]
    rfl
  ofFile d member := by
    obtain ⟨told, isLocal⟩ := (target_of_mem_dependencies made).1 member
    rcases ofFile_or_ofPackage root proper told with ofFile | ofPackage
    · exact ofFile
    · rw [ofPackage.isLocal] at isLocal
      cases isLocal
  ofPackage d member := by
    obtain ⟨told, external⟩ := (target_of_mem_dependencies made).2 member
    rcases ofFile_or_ofPackage root proper told with ofFile | ofPackage
    · rw [ofFile.isLocal] at external
      cases external
    · exact ofPackage

/-- A script that can be read and is well-formed has a result that lists each of its dependencies
once, unless the search for the file of one of its sources comes to a path that is too long. Then it
has no result. -/
theorem analyze_lists_each_once_iff (root : r.root.Proper) (proper : path.Proper)
    (isScript : path.isScript = true) (read : r.files.text path = .ok source)
    (parses : Script.imports r.parser source path.extension = .ok raws) :
    (∃ result, r.analyze path = .ok result ∧ r.ListsEachOnce raws result) ↔
      ∀ raw ∈ raws, ¬ ∃ p, r.files.StopsAt (r.sought raw.source path) p := by
  have resolved : (∃ result, r.dependencies path raws = .ok result) ↔
      ∀ raw ∈ raws, ¬ ∃ p, r.files.StopsAt (r.sought raw.source path) p :=
    exists_dependencies_iff.trans (forall₂_congr fun raw _ => exists_resolve_iff)
  rw [analyze_eq isScript read parses, ← resolved]
  constructor
  · rintro ⟨result, made, -⟩
    exact ⟨result, made⟩
  · rintro ⟨result, made⟩
    exact ⟨result, made, listsEachOnce_of_dependencies root proper made⟩

/-- The statements of a script that names a file, a file that is not there, and a package. -/
def threeStates : List RawImport :=
  [{ source := "react", form := .statement }, { source := "./c", form := .statement },
    { source := "./b", form := .statement }]

/-- A project with such a script. -/
def threeTargets : Resolver where
  files := ⟨.folder [("p", .folder [
    ("a.js", .file "import \"react\";\nimport \"./c\";\nimport \"./b\";\n".toUTF8),
    ("b.js", .file "".toUTF8)])]⟩
  root := ⟨1, ["p"]⟩

theorem analyze_lists_each_once_threeTargets :
    let script : Path := ⟨1, ["p", "a.js"]⟩
    threeTargets.root.Proper ∧ script.Proper ∧ script.isScript = true ∧
    (∃ source, threeTargets.files.text script = .ok source ∧
      Script.imports Script.trees? source script.extension = .ok threeStates) ∧
    ∃ result, threeTargets.analyze script = .ok result ∧
      (∀ k ∈ threeStates.map RawImport.key,
        (result.locals.map key).count k + (result.externals.map key).count k = 1) ∧
      result.locals.Pairwise Precedes ∧ result.externals.Pairwise Precedes ∧
      (∀ d ∈ result.locals, d.target.OfFile threeTargets) ∧
      ∀ d ∈ result.externals, d.target.OfPackage d.source := by
  intro script
  have root : threeTargets.root.Proper := by decide
  have proper : script.Proper := by decide
  have read : threeTargets.files.text script =
      .ok "import \"react\";\nimport \"./c\";\nimport \"./b\";\n" := rfl
  have parses : Script.imports Script.trees?
      "import \"react\";\nimport \"./c\";\nimport \"./b\";\n" script.extension =
        .ok threeStates := by
    decide +kernel
  have resolved : ∀ raw ∈ threeStates, (threeTargets.resolve raw.source script).isOk = true := by
    decide +kernel
  obtain ⟨result, analyzed, lists⟩ :=
    (analyze_lists_each_once_iff root proper (by decide) read parses).mpr fun raw given =>
      exists_resolve_iff.mp (exists_eq_ok_iff.mpr (resolved raw given))
  refine ⟨root, proper, by decide, ⟨_, read, parses⟩, result, analyzed, fun k member => ?_,
    lists.locals, lists.externals, lists.ofFile, lists.ofPackage⟩
  rw [lists.once k, if_pos member]

/-- A project with a script that imports a package with a name of 300 letters. -/
def longImport : Resolver where
  files := ⟨.folder [("p", .folder [("a.js", .file (Script.importText longName).toUTF8)])]⟩
  root := ⟨1, ["p"]⟩

/-- The script can be read and is well-formed, and has no result. -/
theorem no_result_in_longImport :
    let script : Path := ⟨1, ["p", "a.js"]⟩
    longImport.root.Proper ∧ script.Proper ∧ script.isScript = true ∧
    longImport.files.text script = .ok (Script.importText longName) ∧
    Script.imports Script.trees? (Script.importText longName) script.extension =
      .ok [{ source := String.ofList longName, form := .statement }] ∧
    ¬ ∃ result, longImport.analyze script = .ok result := by
  intro script
  have text (bytes : ByteArray) :
      FileSystem.text ⟨.folder [("p", .folder [("a.js", .file bytes)])]⟩ script =
        .ok (Text.ofBytes bytes) := rfl
  have read : longImport.files.text script = .ok (Script.importText longName) :=
    (text _).trans (congrArg Except.ok (Script.ofBytes_importText isPlain_longName))
  have extension : script.extension = ".js" := by decide +kernel
  have usual : longImport.HasShortNames :=
    ⟨⟨by decide, by decide, by decide⟩, rfl, rfl, _, _, rfl, rfl, by decide⟩
  refine ⟨by decide, by decide, by decide, read, ?_,
    usual.not_canAnalyze_importText (by decide) extension read⟩
  rw [extension]
  exact Script.imports_importText isPlain_longName

end Resolver

end SiteAtlas
