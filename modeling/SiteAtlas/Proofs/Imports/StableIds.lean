import SiteAtlas.Proofs.Imports.Gathering
import Mathlib.Data.String.Basic

/-! # Stable ids of the dependencies of a file

A stable id is the digest of source, form and file, joined by dashes. As sources and names of forms
have dashes of their own, the joined text can be taken apart in more than one way. There is one such
case: an import statement from `x-dynamic` reads like a dynamic import of `x`.
-/

namespace SiteAtlas

/-- The name of a form, with the dash before it, ends the name of another one in one case only. -/
theorem ImportForm.eq_of_isSuffix {f g : ImportForm}
    (ends : '-' :: f.label.toList <:+ '-' :: g.label.toList) :
    f = g ∨ f = .statement ∧ g = .dynamic := by
  revert ends
  cases f <;> cases g <;> decide

namespace Dependency

/-- The text that the stable id of a dependency of a file is the digest of. -/
def idText (file : String) (d : Dependency) : String :=
  d.source ++ "-" ++ d.form.label ++ "-" ++ file

/-- An import statement that reads like a dynamic import once source and form are joined. -/
def ReadsLike (d e : Dependency) : Prop :=
  d.form = .statement ∧ e.form = .dynamic ∧ d.source = e.source ++ "-dynamic"

instance (d e : Dependency) : Decidable (d.ReadsLike e) := inferInstanceAs (Decidable (_ ∧ _ ∧ _))

section Joined

variable (file : String) {d e : Dependency}

/-- The file is the same for all dependencies, so that the part before it decides. -/
theorem idText_eq_iff_joined : d.idText file = e.idText file ↔
    d.source.toList ++ '-' :: d.form.label.toList =
      e.source.toList ++ '-' :: e.form.label.toList := by
  have chars (d : Dependency) : (d.idText file).toList =
      (d.source.toList ++ '-' :: d.form.label.toList) ++ '-' :: file.toList := by
    simp [idText]
  rw [← String.toList_inj, chars, chars, List.append_left_inj]

theorem joined_of_readsLike (alike : d.ReadsLike e) :
    d.source.toList ++ '-' :: d.form.label.toList =
      e.source.toList ++ '-' :: e.form.label.toList := by
  obtain ⟨statement, dynamic, source⟩ := alike
  rw [statement, dynamic, source, String.toList_append, List.append_assoc]
  rfl

/-- Two joined texts are equal only if the sources differ by what one form has in front of the
other. -/
theorem key_eq_or_readsLike
    (same : d.source.toList ++ '-' :: d.form.label.toList =
      e.source.toList ++ '-' :: e.form.label.toList)
    (ends : '-' :: d.form.label.toList <:+ '-' :: e.form.label.toList) :
    d.key = e.key ∨ d.ReadsLike e := by
  rcases ImportForm.eq_of_isSuffix ends with form | ⟨statement, dynamic⟩
  · rw [form, List.append_left_inj, String.toList_inj] at same
    exact .inl (Prod.ext same form)
  · have split : '-' :: ImportForm.dynamic.label.toList =
        "-dynamic".toList ++ '-' :: ImportForm.statement.label.toList := rfl
    rw [statement, dynamic, split, ← List.append_assoc, List.append_left_inj,
      ← String.toList_append, String.toList_inj] at same
    exact .inr ⟨statement, dynamic, same⟩

/-- Two dependencies of a file have the same joined text exactly if they have the same source and
form or one is an import statement that reads like the other one, a dynamic import. -/
theorem idText_eq_iff : d.idText file = e.idText file ↔
    d.key = e.key ∨ d.ReadsLike e ∨ e.ReadsLike d := by
  rw [idText_eq_iff_joined]
  constructor
  · intro same
    rcases List.suffix_or_suffix_of_suffix ⟨_, same⟩ ⟨_, rfl⟩ with ends | ends
    · exact (key_eq_or_readsLike same ends).imp_right .inl
    · exact (key_eq_or_readsLike same.symm ends).imp Eq.symm .inr
  · rintro (same | alike | alike)
    · obtain ⟨source, form⟩ := Prod.mk.inj same
      rw [source, form]
    · exact joined_of_readsLike alike
    · exact (joined_of_readsLike alike).symm

end Joined

end Dependency

/-- Looking up its stable id gives each dependency of a result back exactly if all ids differ. -/
theorem DependencyResult.find?_eq_self_iff {result : DependencyResult}
    (distinct : result.all.Nodup) :
    (∀ d ∈ result.all, result.find? d.stableId = some d) ↔
      (result.all.map Dependency.stableId).Nodup := by
  constructor
  · intro found
    refine (List.nodup_map_iff_inj_on distinct).mpr fun d one e other same => ?_
    have first := found d one
    rw [same, found e other] at first
    exact (Option.some.inj first).symm
  · intro differ d member
    have present : (result.find? d.stableId).isSome :=
      List.find?_isSome.mpr ⟨d, member, beq_self_eq_true _⟩
    obtain ⟨e, found⟩ := Option.isSome_iff_exists.mp present
    have same : e.stableId = d.stableId := by simpa using List.find?_some found
    rw [found, List.inj_on_of_nodup_map differ (List.mem_of_find?_eq_some found) member same]

namespace Resolver

section Distinct

variable {r : Resolver} {path : Path} {result : DependencyResult}
  (analyzed : r.analyze path = .ok result)
  (digests : ∀ d ∈ result.all, ∀ e ∈ result.all,
    Md5.short 12 (d.idText path.toString) = Md5.short 12 (e.idText path.toString) →
      d.idText path.toString = e.idText path.toString)
include analyzed digests

/-- The dependencies of a file have different stable ids, unless one reads like another. -/
theorem stableId_eq_iff {d e : Dependency} (one : d ∈ result.all) (other : e ∈ result.all) :
    d.stableId = e.stableId ↔ d = e ∨ d.ReadsLike e ∨ e.ReadsLike d := by
  have id {d : Dependency} (member : d ∈ result.all) :
      d.stableId = Md5.short 12 (d.idText path.toString) :=
    stableId_of_mem_analyze analyzed d member
  have keys : d.key = e.key ↔ d = e :=
    ⟨List.inj_on_of_nodup_map (nodup_keys_analyze analyzed) one other, congrArg Dependency.key⟩
  rw [id one, id other, ← keys, ← Dependency.idText_eq_iff path.toString]
  exact ⟨digests d one e other, congrArg (Md5.short 12)⟩

/-- If the digest keeps the joined texts apart, the dependencies of a file have different stable ids
exactly if no import statement among them reads like a dynamic import, and exactly then looking up
its stable id gives each of them back. -/
theorem stableIds_distinct_iff :
    ((result.all.map Dependency.stableId).Nodup ↔
      ∀ d ∈ result.all, ∀ e ∈ result.all, ¬ d.ReadsLike e) ∧
    ((∀ d ∈ result.all, result.find? d.stableId = some d) ↔
      ∀ d ∈ result.all, ∀ e ∈ result.all, ¬ d.ReadsLike e) := by
  have distinct : result.all.Nodup := .of_map _ (nodup_keys_analyze analyzed)
  have differ : (result.all.map Dependency.stableId).Nodup ↔
      ∀ d ∈ result.all, ∀ e ∈ result.all, ¬ d.ReadsLike e := by
    rw [List.nodup_map_iff_inj_on distinct]
    constructor
    · intro injective d one e other alike
      have shared := (stableId_eq_iff analyzed digests one other).mpr (.inr (.inl alike))
      have same := injective d one e other shared
      -- A dependency does not read like itself: it would have two forms.
      rw [same] at alike
      exact ImportForm.noConfusion (alike.1.symm.trans alike.2.1)
    · intro plain d one e other same
      rcases (stableId_eq_iff analyzed digests one other).mp same with equal | alike | alike
      · exact equal
      · exact absurd alike (plain d one e other)
      · exact absurd alike (plain e other d one)
  exact ⟨differ, (DependencyResult.find?_eq_self_iff distinct).trans differ⟩

end Distinct

/-- Two dependencies whose sources are seen from the file are listed in order. -/
theorem keys_of_relative_pair {r : Resolver} {path : Path} {raws : List RawImport}
    {result : DependencyResult} {k k' : String × ImportForm}
    (made : r.dependencies path raws = .ok result)
    (keys : (Dependency.gather path.toString raws).map Dependency.key = [k, k'])
    (dot : k.1.toList.head? = some '.') (dot' : k'.1.toList.head? = some '.')
    (inOrder : (decide (k.1 < k'.1) || k.1 == k'.1 && decide (k.2.label ≤ k'.2.label)) = true) :
    result.all.map Dependency.key = [k, k'] := by
  obtain ⟨followed, success, rfl⟩ := dependencies_eq_ok_iff.mp made
  have isLocal : ∀ d ∈ followed, d.source.toList.head? = some '.' → d.target.isLocal = true := by
    intro d member dot
    obtain ⟨bare, -, follows⟩ := exists_mem_items success d member
    obtain ⟨target, told, rfl⟩ := follow_eq_ok_iff.mp follows
    rw [resolve, if_pos dot] at told
    obtain ⟨actual, -, rfl⟩ := map_eq_ok_iff.mp told
    rfl
  rw [← keys_followed success] at keys
  obtain ⟨d, others, rfl, rfl, second⟩ := List.map_eq_cons_iff.mp keys
  obtain ⟨e, last, rfl, rfl, none⟩ := List.map_eq_cons_iff.mp second
  obtain rfl := List.map_eq_nil_iff.mp none
  exact DependencyResult.keys_ofDependencies_pair (isLocal d List.mem_cons_self dot)
    (isLocal e (List.mem_cons_of_mem _ List.mem_cons_self) dot') inOrder

/-! ## Scripts with a dynamic import and an import statement -/

/-- A project with a single script. -/
def ofScript (text : String) : Resolver where
  files := ⟨.folder [("p", .folder [("a.js", .file text.toUTF8)])]⟩
  root := ⟨1, ["p"]⟩

/-- The path of that script. -/
def scriptPath : Path := ⟨1, ["p", "a.js"]⟩

/-- A script that names one source in both forms. -/
def plainScript : Resolver := ofScript "import(\"./x\");\nimport \"./x\";\n"

/-- A script with an import statement that reads like its dynamic import. -/
def ambiguousScript : Resolver := ofScript "import(\"./x\");\nimport \"./x-dynamic\";\n"

/-- The analysis of the plain script. -/
private theorem exists_analyze_plainScript : ∃ result, plainScript.analyze scriptPath = .ok result ∧
    result.all.map Dependency.key = [("./x", .dynamic), ("./x", .statement)] := by
  have read : plainScript.analyze scriptPath = plainScript.dependencies scriptPath
      [{ source := "./x", form := .dynamic }, { source := "./x", form := .statement }] := rfl
  obtain ⟨result, analyzed⟩ : ∃ result, plainScript.analyze scriptPath = .ok result :=
    exists_eq_ok_iff.mpr (by decide +kernel)
  exact ⟨result, analyzed, keys_of_relative_pair (read ▸ analyzed) rfl (by decide) (by decide)
    (by decide)⟩

/-- The analysis of the ambiguous script. -/
private theorem exists_analyze_ambiguousScript :
    ∃ result, ambiguousScript.analyze scriptPath = .ok result ∧
      result.all.map Dependency.key = [("./x", .dynamic), ("./x-dynamic", .statement)] := by
  have read : ambiguousScript.analyze scriptPath = ambiguousScript.dependencies scriptPath
      [{ source := "./x", form := .dynamic },
        { source := "./x-dynamic", form := .statement }] := rfl
  obtain ⟨result, analyzed⟩ : ∃ result, ambiguousScript.analyze scriptPath = .ok result :=
    exists_eq_ok_iff.mpr (by decide +kernel)
  exact ⟨result, analyzed, keys_of_relative_pair (read ▸ analyzed) rfl (by decide) (by decide)
    (by decide)⟩

/-- In the plain script both have their own ids. -/
theorem stableIds_distinct_plainScript :
    ∃ result, plainScript.analyze scriptPath = .ok result ∧
      (∀ d ∈ result.all, ∀ e ∈ result.all,
        Md5.short 12 (d.idText "/p/a.js") = Md5.short 12 (e.idText "/p/a.js") →
          d.idText "/p/a.js" = e.idText "/p/a.js") ∧
      result.all.length = 2 ∧ (result.all.map Dependency.stableId).Nodup ∧
      ∀ d ∈ result.all, result.find? d.stableId = some d := by
  obtain ⟨result, analyzed, keys⟩ := exists_analyze_plainScript
  have source {d : Dependency} (member : d ∈ result.all) :
      d.source = "./x" ∧ (d.form = .dynamic ∨ d.form = .statement) := by
    have listed := List.mem_map_of_mem member (f := Dependency.key)
    rw [keys] at listed
    simpa [Dependency.key, ← and_or_left] using listed
  have apart : Md5.short 12 "./x-dynamic-import-/p/a.js" ≠ Md5.short 12 "./x-import-/p/a.js" := by
    decide +kernel
  have digests : ∀ d ∈ result.all, ∀ e ∈ result.all,
      Md5.short 12 (d.idText "/p/a.js") = Md5.short 12 (e.idText "/p/a.js") →
        d.idText "/p/a.js" = e.idText "/p/a.js" := by
    intro d one e other same
    obtain ⟨name, form⟩ := source one
    obtain ⟨name', form'⟩ := source other
    unfold Dependency.idText at same ⊢
    rw [name, name'] at same ⊢
    rcases form with form | form <;> rcases form' with form' | form' <;> rw [form, form'] at same ⊢
    · exact absurd same apart
    · exact absurd same.symm apart
  have plain : ∀ d ∈ result.all, ∀ e ∈ result.all, ¬ d.ReadsLike e := by
    rintro d one e other ⟨-, -, longer⟩
    rw [(source one).1, (source other).1] at longer
    exact absurd longer (by decide)
  have distinct := stableIds_distinct_iff analyzed digests
  exact ⟨result, analyzed, digests, by rw [← List.length_map (f := Dependency.key), keys]; rfl,
    distinct.1.mpr plain, distinct.2.mpr plain⟩

/-- The import statement of the ambiguous script has the id of its dynamic import, and looking that
id up gives only one of the two back. -/
theorem stableId_shared_in_ambiguousScript :
    ∃ result, ambiguousScript.analyze scriptPath = .ok result ∧
      ∃ d ∈ result.all, ∃ e ∈ result.all, d ≠ e ∧ d.stableId = e.stableId ∧
        result.find? d.stableId ≠ some d := by
  obtain ⟨result, analyzed, keys⟩ := exists_analyze_ambiguousScript
  obtain ⟨e, rest, all, dynamic, listed⟩ := List.map_eq_cons_iff.mp keys
  obtain ⟨d, rest, rfl, statement, -⟩ := List.map_eq_cons_iff.mp listed
  have member : d ∈ result.all := by simp [all]
  have member' : e ∈ result.all := by simp [all]
  obtain ⟨source, form⟩ := Prod.mk.inj statement
  obtain ⟨source', form'⟩ := Prod.mk.inj dynamic
  have differ : d ≠ e := by
    rintro rfl
    exact absurd (form.symm.trans form') (by decide)
  have alike : d.ReadsLike e := ⟨form, form', by rw [source, source']; decide⟩
  have same : d.stableId = e.stableId := by
    rw [stableId_of_mem_analyze analyzed d member, stableId_of_mem_analyze analyzed e member']
    exact congrArg (Md5.short 12) ((Dependency.idText_eq_iff "/p/a.js").mpr (.inr (.inl alike)))
  refine ⟨result, analyzed, d, member, e, member', differ, same, ?_⟩
  have first : (e.stableId == d.stableId) = true := beq_iff_eq.mpr same.symm
  rw [DependencyResult.find?, all,
    List.find?_cons_of_pos (p := fun other : Dependency => other.stableId == d.stableId) first]
  exact fun found => differ (Option.some.inj found).symm

end Resolver

end SiteAtlas
