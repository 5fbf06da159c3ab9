import SiteAtlas.Imports.Analysis
import SiteAtlas.Proofs.Success
import Mathlib.Data.List.Nodup

/-! # Gathered dependencies

Statements with one source and one form make up one dependency, and everything that a dependency
has from its first statement stays when others are taken in. Dividing the dependencies of a file
and putting them in order loses none of them.
-/

namespace SiteAtlas

/-- What tells a dependency from the others of its file. -/
def Dependency.key (d : Dependency) : String × ImportForm := (d.source, d.form)

/-- What decides which dependency a statement belongs to. -/
def RawImport.key (raw : RawImport) : String × ImportForm := (raw.source, raw.form)

namespace Dependency

/-- Taking in a statement changes the names and whether types only are taken, and nothing else. -/
theorem exists_absorb_eq (d : Dependency) (raw : RawImport) : ∃ specifiers isTypeOnly,
    d.absorb raw = { d with specifiers := specifiers, isTypeOnly := isTypeOnly } := by
  refine List.foldlRecOn raw.specifiers addSpecifier (motive := fun known : Dependency =>
    ∃ specifiers isTypeOnly,
      known = { d with specifiers := specifiers, isTypeOnly := isTypeOnly }) ⟨_, _, rfl⟩ ?_
  rintro _ ⟨specifiers, isTypeOnly, rfl⟩ s -
  unfold addSpecifier
  split
  · exact ⟨specifiers, isTypeOnly, rfl⟩
  · exact ⟨_, isTypeOnly, rfl⟩

theorem key_absorb (d : Dependency) (raw : RawImport) : (d.absorb raw).key = d.key := by
  obtain ⟨_, _, same⟩ := exists_absorb_eq d raw
  rw [same]
  rfl

theorem key_ofImport (file : String) (raw : RawImport) : (ofImport file raw).key = raw.key :=
  key_absorb _ raw

theorem matchesImport_iff {d : Dependency} {raw : RawImport} :
    d.matchesImport raw = true ↔ d.key = raw.key := by
  simp only [matchesImport, Bool.and_eq_true, beq_iff_eq, key, RawImport.key, Prod.mk.injEq]

section Gather

/-- A statement with a key of its own comes last, and any other one changes no key. -/
theorem keys_gatherOne (file : String) (raw : RawImport) (known : List Dependency) :
    (gatherOne file known raw).map key =
      if raw.key ∈ known.map key then known.map key else known.map key ++ [raw.key] := by
  induction known with
  | nil => simp [gatherOne, key_ofImport]
  | cons d rest ih =>
    rw [gatherOne]
    by_cases same : d.key = raw.key
    · rw [if_pos (matchesImport_iff.mpr same)]
      simp [key_absorb, same]
    · rw [if_neg (mt matchesImport_iff.mp same), List.map_cons, ih, List.map_cons]
      simp only [List.mem_cons, Ne.symm same, false_or]
      split <;> rfl

/-- No two dependencies of a file have the same source and form. -/
theorem nodup_keys_gather (file : String) (raws : List RawImport) :
    ((gather file raws).map key).Nodup := by
  refine List.foldlRecOn raws (gatherOne file) (motive := fun known : List Dependency =>
    (known.map key).Nodup) List.nodup_nil fun known distinct raw _ => ?_
  rw [keys_gatherOne]
  split_ifs with old
  · exact distinct
  · rw [← List.concat_eq_append]
    exact distinct.concat old

variable {file : String} {raws : List RawImport}

/-- What holds of every first statement and survives taking in others holds of all dependencies. -/
theorem forall_mem_gather {P : Dependency → Prop} (starts : ∀ raw ∈ raws, P (ofImport file raw))
    (keeps : ∀ d, P d → ∀ raw ∈ raws, P (d.absorb raw)) : ∀ d ∈ gather file raws, P d := by
  have step (raw : RawImport) (given : raw ∈ raws) (known : List Dependency)
      (holds : ∀ d ∈ known, P d) : ∀ d ∈ gatherOne file known raw, P d := by
    induction known with
    | nil => exact List.forall_mem_singleton.mpr (starts raw given)
    | cons first rest ih =>
      obtain ⟨here, behind⟩ := List.forall_mem_cons.mp holds
      rw [gatherOne]
      split
      · exact List.forall_mem_cons.mpr ⟨keeps first here raw given, behind⟩
      · exact List.forall_mem_cons.mpr ⟨here, ih behind⟩
  exact List.foldlRecOn raws (gatherOne file) (motive := fun known : List Dependency =>
    ∀ d ∈ known, P d) (fun _ member => absurd member List.not_mem_nil)
    fun known holds raw given => step raw given known holds

/-- Every dependency has the source of a statement. -/
theorem source_of_mem_gather : ∀ d ∈ gather file raws, ∃ raw ∈ raws, d.source = raw.source := by
  refine forall_mem_gather (fun raw given => ?_) fun d ⟨raw, given, same⟩ other _ => ?_
  · exact ⟨raw, given, congrArg Prod.fst (key_ofImport file raw)⟩
  · exact ⟨raw, given, (congrArg Prod.fst (key_absorb d other)).trans same⟩

/-- Every statement is taken in by a dependency with its source and form. -/
theorem exists_mem_gather (file : String) {raw : RawImport} (given : raw ∈ raws) :
    ∃ d ∈ gather file raws, d.key = raw.key := by
  have taken (known : List Dependency) (later : List RawImport)
      (isKnown : raw.key ∈ known.map key) :
      raw.key ∈ (later.foldl (gatherOne file) known).map key := by
    refine List.foldlRecOn later (gatherOne file) (motive := fun known : List Dependency =>
      raw.key ∈ known.map key) isKnown fun known isKnown other _ => ?_
    rw [keys_gatherOne]
    split
    · exact isKnown
    · exact List.mem_append_left _ isKnown
  obtain ⟨before, after, rfl⟩ := List.append_of_mem given
  rw [gather, List.foldl_append, List.foldl_cons]
  apply List.mem_map.mp
  apply taken
  rw [keys_gatherOne]
  split
  next isKnown => exact isKnown
  next => exact List.mem_append_right _ List.mem_cons_self

/-- Every dependency has the id of its own source and form. -/
theorem stableId_of_mem_gather : ∀ d ∈ gather file raws,
    d.stableId = SiteAtlas.stableId d.source d.form.label file := by
  refine forall_mem_gather (fun raw _ => ?_) fun d own raw _ => ?_
  · obtain ⟨_, _, same⟩ := exists_absorb_eq
      { source := raw.source, form := raw.form
        stableId := SiteAtlas.stableId raw.source raw.form.label file
        nodeId := SiteAtlas.stableId raw.source raw.form.label file, isTypeOnly := true } raw
    rw [ofImport, same]
  · obtain ⟨_, _, same⟩ := exists_absorb_eq d raw
    rw [same]
    exact own

end Gather

end Dependency

/-! ## Divided and in order -/

theorem DependencyResult.all_ofDependencies_perm (filePath : String)
    (dependencies : List Dependency) :
    (DependencyResult.ofDependencies filePath dependencies).all.Perm dependencies :=
  ((List.mergeSort_perm _ _).append (List.mergeSort_perm _ _)).trans
    (List.filter_append_perm _ _)

/-- Two local dependencies that are in order stay as they are. -/
theorem DependencyResult.keys_ofDependencies_pair {filePath : String} {d e : Dependency}
    (isLocal : d.target.isLocal = true) (isLocal' : e.target.isLocal = true)
    (inOrder : d.listedBefore e = true) :
    (DependencyResult.ofDependencies filePath [d, e]).all.map Dependency.key = [d.key, e.key] := by
  have locals : [d, e].filter (fun d => d.target.isLocal) = [d, e] := by simp [isLocal, isLocal']
  have externals : [d, e].filter (fun d => !d.target.isLocal) = [] := by simp [isLocal, isLocal']
  rw [DependencyResult.all, DependencyResult.ofDependencies, locals, externals, List.mergeSort_nil,
    List.append_nil, List.mergeSort_of_pairwise (List.pairwise_pair.mpr inOrder)]
  rfl

namespace Resolver

variable {r : Resolver} {path : Path} {result : DependencyResult}

/-- Following a dependency keeps all that it had and adds what its source leads to. -/
theorem follow_eq_ok_iff {d e : Dependency} : r.follow path d = .ok e ↔
    ∃ target, r.resolve d.source path = .ok target ∧ { d with target := target } = e :=
  map_eq_ok_iff

/-- The dependencies of statements are those that the gathered ones are followed to. -/
theorem dependencies_eq_ok_iff {raws : List RawImport} : r.dependencies path raws = .ok result ↔
    ∃ followed, (Dependency.gather path.toString raws).mapM (r.follow path) = .ok followed ∧
      DependencyResult.ofDependencies path.toString followed = result :=
  map_eq_ok_iff

/-- The dependencies of statements come out if all sources of theirs can be resolved. -/
theorem exists_dependencies_iff {raws : List RawImport} :
    (∃ result, r.dependencies path raws = .ok result) ↔
      ∀ raw ∈ raws, ∃ t, r.resolve raw.source path = .ok t := by
  rw [dependencies, exists_map_eq_ok_iff, exists_mapM_eq_ok_iff]
  simp only [follow, exists_map_eq_ok_iff]
  constructor
  · intro all raw given
    obtain ⟨d, gathered, key⟩ := Dependency.exists_mem_gather path.toString given
    have source : d.source = raw.source := congrArg Prod.fst key
    rw [← source]
    exact all d gathered
  · intro all d gathered
    obtain ⟨raw, given, source⟩ := Dependency.source_of_mem_gather d gathered
    rw [source]
    exact all raw given

/-- Followed dependencies have the sources and forms of the gathered ones. -/
theorem keys_followed {gathered followed : List Dependency}
    (success : gathered.mapM (r.follow path) = .ok followed) :
    followed.map Dependency.key = gathered.map Dependency.key := by
  refine map_results_eq success fun d e follows => ?_
  obtain ⟨target, -, rfl⟩ := follow_eq_ok_iff.mp follows
  rfl

/-- A file that can be read and is well-formed has the dependencies of its statements, and any other
file has none. -/
theorem analyze_cases (analyzed : r.analyze path = .ok result) : result.all = [] ∨
    ∃ raws, r.dependencies path raws = .ok result := by
  unfold analyze at analyzed
  dsimp only at analyzed
  split at analyzed
  · cases analyzed
    exact .inl rfl
  · split at analyzed
    · cases analyzed
      exact .inl rfl
    · cases analyzed
      exact .inl rfl
    · split at analyzed
      · cases analyzed
        exact .inl rfl
      next raws _ => exact .inr ⟨raws, analyzed⟩

variable (analyzed : r.analyze path = .ok result)
include analyzed

/-- No two dependencies of a file have the same source and form. -/
theorem nodup_keys_analyze : (result.all.map Dependency.key).Nodup := by
  rcases r.analyze_cases analyzed with none | ⟨raws, read⟩
  · rw [none]
    exact List.nodup_nil
  · obtain ⟨followed, success, rfl⟩ := dependencies_eq_ok_iff.mp read
    refine ((DependencyResult.all_ofDependencies_perm _ _).map _).nodup_iff.mpr ?_
    rw [keys_followed success]
    exact Dependency.nodup_keys_gather path.toString raws

/-- Every dependency of a file has the id of its own source and form. -/
theorem stableId_of_mem_analyze : ∀ d ∈ result.all,
    d.stableId = stableId d.source d.form.label path.toString := by
  intro d member
  rcases r.analyze_cases analyzed with none | ⟨raws, read⟩
  · rw [none] at member
    exact absurd member List.not_mem_nil
  · obtain ⟨followed, success, rfl⟩ := dependencies_eq_ok_iff.mp read
    have given := (DependencyResult.all_ofDependencies_perm _ _).mem_iff.mp member
    obtain ⟨bare, gathered, follows⟩ := exists_mem_items success d given
    obtain ⟨target, -, rfl⟩ := follow_eq_ok_iff.mp follows
    exact Dependency.stableId_of_mem_gather bare gathered

end Resolver

end SiteAtlas
