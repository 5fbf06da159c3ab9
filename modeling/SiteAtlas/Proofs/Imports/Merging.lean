import SiteAtlas.Proofs.Imports.Gathering
import Mathlib.Data.List.Induction
import Mathlib.Data.String.Basic

/-! # What gathered dependencies hold

The dependencies of a file are one for each source and form, in the order in which these first come
up. Each holds the names of all its statements, with later repeats dropped and numbered for their
ids. So they are determined by the statements without their own later repeats.
-/

namespace SiteAtlas

/-! ## Dropping later repeats -/

section Repeats

variable {α β : Type} [BEq α] [LawfulBEq α] [BEq β] [LawfulBEq β]

theorem eraseDups_concat (items : List α) (item : α) : (items ++ [item]).eraseDups =
    if item ∈ items then items.eraseDups else items.eraseDups ++ [item] := by
  rw [List.eraseDups_append, List.removeAll]
  by_cases old : item ∈ items
  · simp [old]
  · rw [if_neg old, List.filter_cons_of_pos (by simpa using old), List.filter_nil]
    rfl

theorem eraseDups_filter (keep : α → Bool) (items : List α) :
    (items.filter keep).eraseDups = items.eraseDups.filter keep := by
  induction items using List.reverseRecOn with
  | nil => rfl
  | append_singleton items item ih =>
    rw [List.filter_append, eraseDups_concat]
    by_cases kept : keep item = true
    · rw [List.filter_cons_of_pos kept, List.filter_nil, eraseDups_concat, ih]
      by_cases old : item ∈ items <;> simp [old, kept]
    · rw [List.filter_cons_of_neg kept, List.filter_nil, List.append_nil, ih]
      by_cases old : item ∈ items <;> simp [old, kept]

/-- What an item repeats is dropped as well, so that the item may be dropped before. -/
theorem eraseDups_flatMap_eraseDups (f : α → List β) (items : List α) :
    (items.eraseDups.flatMap f).eraseDups = (items.flatMap f).eraseDups := by
  induction items using List.reverseRecOn with
  | nil => rfl
  | append_singleton items item ih =>
    have members (b : β) : b ∈ items.eraseDups.flatMap f ↔ b ∈ items.flatMap f := by
      simp only [List.mem_flatMap, List.mem_eraseDups]
    rw [List.flatMap_append, List.flatMap_singleton, eraseDups_concat]
    split
    next old =>
      have nothing : (f item).removeAll (items.flatMap f) = [] := by
        rw [List.removeAll, List.filter_eq_nil_iff]
        intro b member
        have there : b ∈ items.flatMap f := List.mem_flatMap.mpr ⟨item, old, member⟩
        simpa using there
      rw [List.eraseDups_append, nothing, List.eraseDups_nil, List.append_nil, ih]
    next =>
      have same : (f item).removeAll (items.eraseDups.flatMap f) =
          (f item).removeAll (items.flatMap f) := by
        refine List.filter_congr fun b _ => ?_
        rw [Bool.eq_iff_iff]
        simp [members]
      rw [List.flatMap_append, List.flatMap_singleton, List.eraseDups_append,
        List.eraseDups_append, ih, same]

theorem eraseDups_map_eraseDups (f : α → β) (items : List α) :
    (items.eraseDups.map f).eraseDups = (items.map f).eraseDups := by
  simpa only [List.map_eq_flatMap] using eraseDups_flatMap_eraseDups (fun a => [f a]) items

end Repeats

/-! ## Numbered names -/

/-- The name of a specifier in the text of its id. -/
def Specifier.idName (s : Specifier) : String :=
  ((s.localName.filter fun n => !n.isEmpty).orElse fun _ => s.exportedName).getD "None"

/-- The text that the id of the name at a place of a dependency is the digest of. -/
def Specifier.idText (owner : String) (place : Nat) (s : Specifier) : String :=
  owner ++ "-" ++ toString place ++ "-" ++ s.idName

/-- Names with their ids in the dependency with a stable id. -/
def numbered (owner : String) (names : List Specifier) : List (Specifier × String) :=
  names.zipIdx.map fun (s, place) => (s, Md5.short 12 (s.idText owner place))

/-- The texts of the ids of names in the dependency with a stable id. -/
def idTexts (owner : String) (names : List Specifier) : List String :=
  names.zipIdx.map fun (s, place) => s.idText owner place

/-- The number of a place ends at the first dash behind it. -/
theorem Specifier.idText_inj {owner : String} {place place' : Nat} {s s' : Specifier}
    (same : s.idText owner place = s'.idText owner place') : place = place' := by
  have chars (place : Nat) (s : Specifier) : (s.idText owner place).toList =
      (owner ++ "-").toList ++ (Nat.toDigits 10 place ++ '-' :: s.idName.toList) := by
    simp [idText]
  have noDash (place : Nat) : ∀ c ∈ Nat.toDigits 10 place, (c != '-') = true := by
    intro c member
    have digit := Nat.isDigit_of_mem_toDigits (by decide) (by decide) member
    rw [bne_iff_ne]
    rintro rfl
    exact absurd digit (by decide)
  have digits (place : Nat) (s : Specifier) :
      (Nat.toDigits 10 place ++ '-' :: s.idName.toList).takeWhile (· != '-') =
        Nat.toDigits 10 place := by
    rw [List.takeWhile_append_of_pos (noDash place), List.takeWhile_cons_of_neg (by simp),
      List.append_nil]
  have rest := List.append_cancel_left
    ((chars place s).symm.trans ((congrArg String.toList same).trans (chars place' s')))
  have numbers : Nat.toDigits 10 place = Nat.toDigits 10 place' := by
    rw [← digits place s, rest, digits]
  rw [← Nat.ofDigitChars_ten_toDigits (n := place), numbers, Nat.ofDigitChars_ten_toDigits]

theorem nodup_idTexts (owner : String) (names : List Specifier) : (idTexts owner names).Nodup := by
  have places : (names.zipIdx.map Prod.snd).Nodup := by
    rw [List.zipIdx_map_snd]
    exact List.nodup_range'
  rw [idTexts, List.nodup_map_iff_inj_on (.of_map _ places)]
  intro one member other member' same
  exact List.inj_on_of_nodup_map places member member' (Specifier.idText_inj same)

theorem numbered_concat (owner : String) (names : List Specifier) (s : Specifier) :
    numbered owner (names ++ [s]) =
      numbered owner names ++ [(s, Md5.short 12 (s.idText owner names.length))] := by
  simp [numbered, List.zipIdx_append]

theorem map_fst_numbered (owner : String) (names : List Specifier) :
    (numbered owner names).map Prod.fst = names := by
  rw [numbered, List.map_map]
  exact List.zipIdx_map_fst 0 names

theorem map_snd_numbered (owner : String) (names : List Specifier) :
    (numbered owner names).map Prod.snd = (idTexts owner names).map (Md5.short 12) := by
  rw [numbered, idTexts, List.map_map, List.map_map]
  rfl

theorem length_numbered (owner : String) (names : List Specifier) :
    (numbered owner names).length = names.length := by
  rw [numbered, List.length_map, List.length_zipIdx]

namespace Dependency

/-! ## The dependency of some statements -/

/-- The dependency of a file on a source in a form, as some statements make it up. -/
def ofStatements (file : String) (key : String × ImportForm) (raws : List RawImport) : Dependency :=
  let id := SiteAtlas.stableId key.1 key.2.label file
  { source := key.1, form := key.2, stableId := id, nodeId := id
    specifiers := numbered id (raws.flatMap RawImport.specifiers).eraseDups
    isTypeOnly := raws.all RawImport.isTypeOnly }

/-- A name that is new comes last, with the next number. -/
theorem addSpecifier_numbered (d : Dependency) (names : List Specifier) (s : Specifier) :
    addSpecifier { d with specifiers := numbered d.stableId names.eraseDups } s =
      { d with specifiers := numbered d.stableId (names ++ [s]).eraseDups } := by
  have isKnown : ((numbered d.stableId names.eraseDups).any fun known => known.1 == s) = true ↔
      s ∈ names := by
    have listed := congrArg (s ∈ ·) (map_fst_numbered d.stableId names.eraseDups)
    simp only [List.mem_map, List.mem_eraseDups, eq_iff_iff] at listed
    simpa using listed
  rw [addSpecifier, eraseDups_concat]
  dsimp only
  by_cases old : s ∈ names
  · rw [if_pos (isKnown.mpr old), if_pos old]
  · rw [if_neg (mt isKnown.mp old), if_neg old, numbered_concat, length_numbered]
    rfl

theorem foldl_addSpecifier_numbered (d : Dependency) (names more : List Specifier) :
    more.foldl addSpecifier { d with specifiers := numbered d.stableId names.eraseDups } =
      { d with specifiers := numbered d.stableId (names ++ more).eraseDups } := by
  induction more generalizing names with
  | nil => rw [List.append_nil, List.foldl_nil]
  | cons s rest ih =>
    rw [List.foldl_cons, addSpecifier_numbered, ih, List.append_assoc]
    rfl

variable {file : String}

theorem absorb_ofStatements (key : String × ImportForm) (raws : List RawImport) (raw : RawImport) :
    (ofStatements file key raws).absorb raw = ofStatements file key (raws ++ [raw]) := by
  have known := foldl_addSpecifier_numbered
    { ofStatements file key raws with
      isTypeOnly := raws.all RawImport.isTypeOnly && raw.isTypeOnly }
    (raws.flatMap RawImport.specifiers) raw.specifiers
  have kinds : (raws ++ [raw]).all RawImport.isTypeOnly =
      (raws.all RawImport.isTypeOnly && raw.isTypeOnly) := by
    simp
  have names : (raws ++ [raw]).flatMap RawImport.specifiers =
      raws.flatMap RawImport.specifiers ++ raw.specifiers := by
    rw [List.flatMap_append, List.flatMap_singleton]
  rw [ofStatements, ofStatements, kinds, names]
  exact known

theorem ofImport_eq (raw : RawImport) : ofImport file raw = ofStatements file raw.key [raw] :=
  absorb_ofStatements raw.key [] raw

/-- A statement with a key of its own makes up a dependency of its own, and any other one is taken
in by the dependency with its key. -/
theorem gatherOne_eq {known : List Dependency} (distinct : (known.map key).Nodup)
    (raw : RawImport) : gatherOne file known raw =
      if raw.key ∈ known.map key then known.map fun d => if d.key = raw.key then d.absorb raw else d
      else known ++ [ofImport file raw] := by
  induction known with
  | nil => rfl
  | cons d rest ih =>
    rw [List.map_cons, List.nodup_cons] at distinct
    rw [gatherOne]
    by_cases same : d.key = raw.key
    · have others : rest.map (fun d => if d.key = raw.key then d.absorb raw else d) = rest := by
        rw [List.map_congr_left (g := id), List.map_id]
        intro e member
        have other : e.key ≠ raw.key :=
          fun isKey => distinct.1 (same ▸ isKey ▸ List.mem_map_of_mem member)
        rw [if_neg other, id]
      have listed : raw.key ∈ (d :: rest).map key := List.mem_map.mpr ⟨d, List.mem_cons_self, same⟩
      rw [if_pos (matchesImport_iff.mpr same), if_pos listed, List.map_cons, others, if_pos same]
    · rw [if_neg (mt matchesImport_iff.mp same), ih distinct.2, List.map_cons]
      simp only [List.mem_cons, Ne.symm same, false_or]
      split
      · rw [List.map_cons, if_neg same]
      · rfl

/-- The dependencies of a file are those of the statements with each source and form, in the order
in which these first come up. -/
theorem gather_eq (file : String) (raws : List RawImport) : gather file raws =
    (raws.map RawImport.key).eraseDups.map fun key =>
      ofStatements file key (raws.filter fun raw => raw.key == key) := by
  induction raws using List.reverseRecOn with
  | nil => rfl
  | append_singleton raws raw ih =>
    have keys : (gather file raws).map key = (raws.map RawImport.key).eraseDups := by
      rw [ih, List.map_map]
      exact List.map_id _
    have run : gather file (raws ++ [raw]) = gatherOne file (gather file raws) raw := by
      rw [gather, List.foldl_append]
      rfl
    -- The statements of any other key stay the same.
    have others {key : String × ImportForm} (other : key ≠ raw.key) :
        (raws ++ [raw]).filter (fun raw => raw.key == key) =
          raws.filter fun raw => raw.key == key := by
      rw [List.filter_append, List.filter_cons_of_neg (by simpa using Ne.symm other),
        List.filter_nil, List.append_nil]
    have own : (raws ++ [raw]).filter (fun other => other.key == raw.key) =
        raws.filter (fun other => other.key == raw.key) ++ [raw] := by
      rw [List.filter_append, List.filter_cons_of_pos (by simp), List.filter_nil]
    rw [run, gatherOne_eq (nodup_keys_gather file raws), keys, List.map_append, List.map_singleton,
      eraseDups_concat]
    simp only [List.mem_eraseDups]
    split
    next =>
      rw [ih, List.map_map]
      refine List.map_congr_left fun key _ => ?_
      have key_ofStatements : (ofStatements file key
        (raws.filter fun raw => raw.key == key)).key = key := rfl
      rw [Function.comp_apply, key_ofStatements]
      split
      next same => rw [same, own, absorb_ofStatements]
      next other => rw [others other]
    next new =>
      have first : raws.filter (fun other => other.key == raw.key) = [] := by
        rw [List.filter_eq_nil_iff]
        intro other member same
        exact new (beq_iff_eq.mp same ▸ List.mem_map_of_mem member)
      rw [List.map_append, List.map_singleton, own, first, List.nil_append, ← ofImport_eq, ih]
      refine congrArg (· ++ [ofImport file raw]) (List.map_congr_left fun key member => ?_)
      have other : key ≠ raw.key := by
        rintro rfl
        exact new (List.mem_eraseDups.mp member)
      rw [others other]

theorem keys_gather (file : String) (raws : List RawImport) :
    (gather file raws).map key = (raws.map RawImport.key).eraseDups := by
  rw [gather_eq, List.map_map]
  exact List.map_id _

theorem eq_ofStatements_of_mem_gather {raws : List RawImport} {d : Dependency}
    (member : d ∈ gather file raws) :
    d = ofStatements file d.key (raws.filter fun raw => raw.key == d.key) := by
  rw [gather_eq] at member
  obtain ⟨key, -, rfl⟩ := List.mem_map.mp member
  rfl

/-! ## Repeated statements -/

/-- Later repeats of a statement do not show in a dependency. -/
theorem ofStatements_eraseDups (key : String × ImportForm) (raws : List RawImport) :
    ofStatements file key raws.eraseDups = ofStatements file key raws := by
  have kinds : raws.eraseDups.all RawImport.isTypeOnly = raws.all RawImport.isTypeOnly := by
    rw [Bool.eq_iff_iff, List.all_eq_true, List.all_eq_true]
    simp only [List.mem_eraseDups]
  rw [ofStatements, ofStatements, eraseDups_flatMap_eraseDups, kinds]

theorem gather_eraseDups (file : String) (raws : List RawImport) :
    gather file raws.eraseDups = gather file raws := by
  rw [gather_eq, gather_eq, eraseDups_map_eraseDups]
  refine List.map_congr_left fun key _ => ?_
  rw [← eraseDups_filter, ofStatements_eraseDups]

/-- The dependencies of a file are one for each source and form, in the order in which these first
come up. Each has the names of all its statements without later repeats, and takes types only unless
one of its statements takes a value. Its names are under ids of their own exactly if the digest
keeps the texts of the ids apart. Statements that are repeated later on change nothing. -/
theorem gather_merges (file : String) (raws : List RawImport) :
    (gather file raws).map key = (raws.map RawImport.key).eraseDups ∧
    (∀ d ∈ gather file raws,
      d.specifiers.map Prod.fst =
        ((raws.filter fun raw => raw.key == d.key).flatMap RawImport.specifiers).eraseDups ∧
      (d.isTypeOnly = false ↔ ∃ raw ∈ raws, raw.key = d.key ∧ raw.isTypeOnly = false) ∧
      ((d.specifiers.map Prod.snd).Nodup ↔
        ∀ text ∈ idTexts d.stableId (d.specifiers.map Prod.fst),
          ∀ other ∈ idTexts d.stableId (d.specifiers.map Prod.fst),
            Md5.short 12 text = Md5.short 12 other → text = other)) ∧
    ∀ again, again.eraseDups = raws.eraseDups → gather file again = gather file raws := by
  refine ⟨keys_gather file raws, fun d member => ⟨?_, ?_, ?_⟩, fun again same => ?_⟩
  · rw [eq_ofStatements_of_mem_gather member]
    exact map_fst_numbered _ _
  · have kind := congrArg Dependency.isTypeOnly (eq_ofStatements_of_mem_gather member)
    rw [kind, ofStatements]
    simp
  · have names := congrArg Dependency.specifiers (eq_ofStatements_of_mem_gather member)
    have ids : d.specifiers.map Prod.snd =
        (idTexts d.stableId (d.specifiers.map Prod.fst)).map (Md5.short 12) := by
      rw [eq_ofStatements_of_mem_gather member]
      dsimp only [ofStatements]
      rw [map_snd_numbered, map_fst_numbered]
    rw [ids, List.nodup_map_iff_inj_on (nodup_idTexts _ _)]
  · rw [← gather_eraseDups file again, same, gather_eraseDups]

/-- A name that is taken under its own name. -/
def plainName (name : String) : Specifier :=
  { form := .named, localName := some name, importedName := some name }

/-- The statements of a script that names one module in two forms, and takes one name from it
twice. -/
def mixedStatements : List RawImport :=
  [{ source := "./b", form := .statement, specifiers := [plainName "x"] },
    { source := "./b", form := .require },
    { source := "./b", form := .statement, isTypeOnly := true,
      specifiers := [plainName "y", plainName "x"] },
    { source := "./t", form := .statement, isTypeOnly := true, specifiers := [plainName "x"] }]

theorem gather_merges_mixedStatements :
    (∀ d ∈ gather "/p/a.js" mixedStatements,
      ∀ text ∈ idTexts d.stableId (d.specifiers.map Prod.fst),
        ∀ other ∈ idTexts d.stableId (d.specifiers.map Prod.fst),
          Md5.short 12 text = Md5.short 12 other → text = other) ∧
    (gather "/p/a.js" mixedStatements).map key =
      [("./b", .statement), ("./b", .require), ("./t", .statement)] ∧
    (∃ d ∈ gather "/p/a.js" mixedStatements,
      d.specifiers.map Prod.fst = [plainName "x", plainName "y"] ∧
        (d.specifiers.map Prod.snd).Nodup) ∧
    gather "/p/a.js" (mixedStatements ++ mixedStatements) = gather "/p/a.js" mixedStatements := by
  have digests : ∀ d ∈ gather "/p/a.js" mixedStatements,
      ∀ text ∈ idTexts d.stableId (d.specifiers.map Prod.fst),
        ∀ other ∈ idTexts d.stableId (d.specifiers.map Prod.fst),
          Md5.short 12 text = Md5.short 12 other → text = other := by
    decide +kernel
  obtain ⟨keys, held, repeats⟩ := gather_merges "/p/a.js" mixedStatements
  have listed : (gather "/p/a.js" mixedStatements).map key =
      [("./b", .statement), ("./b", .require), ("./t", .statement)] := keys.trans (by decide)
  obtain ⟨d, others, all, isKey, -⟩ := List.map_eq_cons_iff.mp listed
  have member : d ∈ gather "/p/a.js" mixedStatements := by simp [all]
  obtain ⟨names, -, ids⟩ := held d member
  rw [isKey] at names
  exact ⟨digests, listed, ⟨d, member, names.trans (by decide), ids.mpr (digests d member)⟩,
    repeats _ (by decide)⟩

end Dependency

end SiteAtlas
