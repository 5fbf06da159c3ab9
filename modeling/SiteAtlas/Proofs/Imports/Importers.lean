import SiteAtlas.Imports.Map
import SiteAtlas.Proofs.Imports.FileMap
import Mathlib.Algebra.BigOperators.Group.List.Basic
import Mathlib.Algebra.GroupWithZero.Nat

/-! # The mentions of a file are the imports that lead to it

Noting one dependency changes the mentions under one key at most. Followed through the dependencies
of a file and through the files in order, this gives the mentions under every key at once, and each
dependency that leads to a known file is counted under exactly one of them.
-/

namespace SiteAtlas

/-- Whether a dependency leads to the file under a key. -/
def Dependency.leadsTo (key : String) (d : Dependency) : Bool :=
  d.target.exists? = some true && d.target.resolvedPath == key

/-- Whether a dependency leads to a file under one of the keys. -/
def Dependency.leadsInto (keys : List String) (d : Dependency) : Bool :=
  d.target.exists? = some true && keys.contains d.target.resolvedPath

/-- The mentions in a file of the file under a key, in the order of its dependencies. -/
def ForwardEntry.mentionsOf (key : String) (e : ForwardEntry) : List Importer :=
  (e.imports.filter (Dependency.leadsTo key)).map e.importer

/-! ## What is noted under a key -/

/-- A file adds its mentions of the file under a key behind those already noted there. -/
theorem get?_noteEntry (table : FileMap (List Importer)) (e : ForwardEntry) (key : String) :
    (noteEntry table e).get? key =
      (table.get? key).map fun importers => importers ++ e.mentionsOf key := by
  unfold noteEntry ForwardEntry.mentionsOf
  generalize e.imports = dependencies
  induction dependencies generalizing table with
  | nil => simp
  | cons d rest ih =>
    rw [List.foldl_cons, ih, List.filter_cons]
    by_cases found : d.target.exists? = some true
    · rw [if_pos found, FileMap.get?_modify, Option.map_map]
      by_cases same : key = d.target.resolvedPath
      · simp [Dependency.leadsTo, found, same, Function.comp_def]
      · simp [Dependency.leadsTo, found, same, Ne.symm same, Function.comp_def]
    · simp [Dependency.leadsTo, found]

theorem get?_foldl_noteEntry (rows : List (String × ForwardEntry))
    (table : FileMap (List Importer)) (key : String) :
    (rows.foldl (fun table row => noteEntry table row.2) table).get? key =
      (table.get? key).map fun importers =>
        importers ++ rows.flatMap fun row => row.2.mentionsOf key := by
  induction rows generalizing table with
  | nil => simp
  | cons row rest ih =>
    rw [List.foldl_cons, ih, get?_noteEntry, Option.map_map]
    simp only [Function.comp_def, List.append_assoc, List.flatMap_cons]

/-- Under the key of a known file stand the mentions in all files, these in the order of their
keys. -/
theorem get?_mentions (forward : FileMap ForwardEntry) (key : String) :
    (mentions forward).get? key = (forward.get? key).map fun _ =>
      forward.sortedEntries.flatMap fun row => row.2.mentionsOf key := by
  rw [mentions, get?_foldl_noteEntry, FileMap.get?_mapEntries, Option.map_map]
  simp only [Function.comp_def, List.nil_append]

theorem entries_withImporters (forward : FileMap ForwardEntry) :
    (withImporters forward).entries = forward.entries.map fun row =>
      (row.1, { toForwardEntry := row.2
                importedBy := forward.sortedEntries.flatMap fun a => a.2.mentionsOf row.1 }) := by
  refine List.map_congr_left fun row member => ?_
  have known : forward.get? row.1 = some row.2 := FileMap.get?_eq_some_iff.mpr member
  dsimp only
  rw [get?_mentions, known, Option.map_some, Option.getD_some]

/-! ## The number of mentions -/

/-- A dependency leads to at most one of distinct keys. -/
private theorem sum_leadsTo {keys : List String} (distinct : keys.Nodup) (d : Dependency) :
    (keys.map fun key => if d.leadsTo key then 1 else 0).sum =
      if d.leadsInto keys then 1 else 0 := by
  induction keys with
  | nil => simp [Dependency.leadsInto]
  | cons key rest ih =>
    -- If the target is the first key, distinctness keeps it from being counted again.
    obtain ⟨fresh, distinct⟩ := List.nodup_cons.mp distinct
    rw [List.map_cons, List.sum_cons, ih distinct]
    by_cases same : d.target.resolvedPath = key
    · subst same
      simp [Dependency.leadsTo, Dependency.leadsInto, fresh]
    · simp [Dependency.leadsTo, Dependency.leadsInto, same]

private theorem sum_length_filter_leadsTo {keys : List String} (distinct : keys.Nodup)
    (dependencies : List Dependency) :
    (keys.map fun key => (dependencies.filter (Dependency.leadsTo key)).length).sum =
      (dependencies.filter (Dependency.leadsInto keys)).length := by
  induction dependencies with
  | nil => simp
  | cons d rest ih =>
    have first (p : Dependency → Bool) : ((d :: rest).filter p).length =
        (rest.filter p).length + if p d then 1 else 0 := by
      cases holds : p d <;> simp [holds]
    simp only [first, List.sum_map_add, ih, sum_leadsTo distinct]

/-- The mentions under all of some distinct keys are as many as the dependencies that lead there. -/
theorem sum_length_mentionsOf {keys : List String} (distinct : keys.Nodup)
    (rows : List (String × ForwardEntry)) :
    (keys.map fun key => (rows.flatMap fun row => row.2.mentionsOf key).length).sum =
      ((rows.flatMap fun row => row.2.imports).filter (Dependency.leadsInto keys)).length := by
  rw [← sum_length_filter_leadsTo distinct]
  simp only [ForwardEntry.mentionsOf, List.length_flatMap, List.length_map, List.filter_flatMap]

/-- The map with importers is the inverse of the map of imports. It has the same entries in the same
order, unchanged but for the mentions. The mentions of a file are one for each dependency of any
file that leads to it, files taken in the order of their keys and dependencies in that of their
file; and all mentions together are as many as the dependencies that lead to a file of the map. -/
theorem withImporters_inverts (forward : FileMap ForwardEntry) :
    ∃ sorted : List (String × ForwardEntry),
      sorted.Perm forward.entries ∧ sorted.Pairwise (fun a b => a.1 < b.1) ∧
      (withImporters forward).entries = (forward.entries.map fun row =>
        (row.1, { toForwardEntry := row.2
                  importedBy := sorted.flatMap fun a =>
                    (a.2.imports.filter (Dependency.leadsTo row.1)).map fun d =>
                      { source := a.2.id, name := a.2.name, relativePath := a.2.relativePath
                        specifiers := d.specifiers } })) ∧
      ((withImporters forward).entries.map fun row => row.2.importedBy.length).sum =
        ((forward.entries.flatMap fun row => row.2.imports).filter
          (Dependency.leadsInto forward.keys)).length := by
  have sorted := forward.perm_sortedEntries
  refine ⟨forward.sortedEntries, sorted, forward.pairwise_sortedEntries,
    entries_withImporters forward, ?_⟩
  rw [entries_withImporters, List.map_map]
  have count := sum_length_mentionsOf forward.distinct forward.sortedEntries
  rw [List.map_map] at count
  refine count.trans (((sorted.flatMap_right _).filter _).length_eq)

end SiteAtlas
