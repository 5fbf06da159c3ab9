import SiteAtlas.Imports.FileMap
import Mathlib.Data.String.Basic

/-! # Looking up entries of a map over files

Every operation is described by what it does to the value under a key. As keys are distinct, a map
has at most one value under each.
-/

namespace SiteAtlas.FileMap

variable {β γ : Type} {m : FileMap β} {key : String} {value : β}

theorem get?_eq_some_iff : m.get? key = some value ↔ (key, value) ∈ m.entries := by
  obtain ⟨entries, distinct⟩ := m
  simp only [get?, Option.map_eq_some_iff]
  constructor
  · rintro ⟨⟨known, found⟩, first, rfl⟩
    obtain rfl : known = key := by simpa using List.find?_some first
    exact List.mem_of_find?_eq_some first
  · intro member
    induction entries with
    | nil => exact absurd member List.not_mem_nil
    | cons row rest ih =>
      rw [List.map_cons, List.nodup_cons] at distinct
      rcases List.mem_cons.mp member with rfl | member
      · exact ⟨_, List.find?_cons_of_pos (beq_self_eq_true key), rfl⟩
      · have other : row.1 ≠ key := by
          rintro rfl
          exact distinct.1 (List.mem_map.mpr ⟨_, member, rfl⟩)
        rw [List.find?_cons_of_neg (by simpa using other)]
        exact ih distinct.2 member

@[simp] theorem get?_mapEntries (f : String → β → γ) (m : FileMap β) (key : String) :
    (m.mapEntries f).get? key = (m.get? key).map (f key) := by
  refine Option.ext fun value => ?_
  simp only [get?_eq_some_iff, Option.map_eq_some_iff, mapEntries, List.mem_map, Prod.mk.injEq,
    Prod.exists]
  constructor
  · rintro ⟨known, found, member, rfl, rfl⟩
    exact ⟨found, member, rfl⟩
  · rintro ⟨found, member, rfl⟩
    exact ⟨key, found, member, rfl, rfl⟩

/-- Changing the value under one key leaves those under all others. -/
theorem get?_modify (m : FileMap β) (known key : String) (change : β → β) :
    (m.modify known change).get? key =
      (m.get? key).map fun value => if key = known then change value else value := by
  simp only [modify, get?_mapEntries, beq_iff_eq]

/-- A map is given by its entries. -/
theorem ext_entries {m m' : FileMap β} (same : m.entries = m'.entries) : m = m' := by
  cases m
  cases same
  rfl

/-- Under the key of a new value stands nothing else. -/
theorem mem_put_iff {m : FileMap β} {key : String} {value : β} {row : String × β} :
    row ∈ (m.put key value).entries ↔ row = (key, value) ∨ row ∈ m.entries ∧ row.1 ≠ key := by
  obtain ⟨entries, distinct⟩ := m
  change row ∈ putEntry key value entries ↔ row = (key, value) ∨ row ∈ entries ∧ row.1 ≠ key
  induction entries with
  | nil => simp [putEntry]
  | cons first rest ih =>
    obtain ⟨fresh, distinct⟩ := List.nodup_cons.mp distinct
    rw [putEntry]
    by_cases same : first.1 = key
    · -- The first entry goes, and as keys are distinct no other one has its key.
      have others : row ∈ rest → row.1 ≠ key := fun member known =>
        fresh (same.trans known.symm ▸ List.mem_map_of_mem member)
      have gone : row = first → row.1 = key := fun isFirst => isFirst ▸ same
      rw [if_pos (by simpa using same), List.mem_cons, List.mem_cons]
      grind
    · rw [if_neg (by simpa using same), List.mem_cons, ih distinct, List.mem_cons]
      grind

/-- It is the same to compute a value before it is put under its key or afterwards. -/
theorem mapEntries_put (f : String → β → γ) (m : FileMap β) (key : String) (value : β) :
    (m.put key value).mapEntries f = (m.mapEntries f).put key (f key value) := by
  refine ext_entries ?_
  change (putEntry key value m.entries).map _ = putEntry key (f key value) (m.entries.map _)
  generalize m.entries = entries
  induction entries with
  | nil => rfl
  | cons row rest ih =>
    simp only [putEntry, List.map_cons]
    split
    · rfl
    · rw [List.map_cons, ih]

theorem perm_sortedEntries (m : FileMap β) : m.sortedEntries.Perm m.entries :=
  List.mergeSort_perm ..

/-- No two entries have the same key, so that sorting leaves nothing open. -/
theorem pairwise_sortedEntries (m : FileMap β) :
    m.sortedEntries.Pairwise fun a b => a.1 < b.1 := by
  have ordered : m.sortedEntries.Pairwise fun a b => a.1 ≤ b.1 := by
    refine (List.pairwise_mergeSort ?_ ?_ m.entries).imp (fun le => by simpa using le)
    · intro a b c
      simpa using le_trans
    · intro a b
      simpa using le_total a.1 b.1
  have distinct : m.sortedEntries.Pairwise fun a b => a.1 ≠ b.1 :=
    List.pairwise_map.mp ((m.perm_sortedEntries.map Prod.fst).nodup_iff.mpr m.distinct)
  exact (ordered.and distinct).imp fun both => lt_of_le_of_ne both.1 both.2

/-- The order in which values were put does not show in the sorted entries. -/
theorem sortedEntries_eq_of_perm {m m' : FileMap β} (same : m.entries.Perm m'.entries) :
    m.sortedEntries = m'.sortedEntries := by
  have sorted := m.perm_sortedEntries.trans (same.trans m'.perm_sortedEntries.symm)
  refine sorted.eq_of_pairwise ?_ m.pairwise_sortedEntries m'.pairwise_sortedEntries
  intro a b _ _ before after
  exact absurd after (lt_asymm before)

/-- Sorting looks at keys only. -/
theorem sortedEntries_mapEntries (f : String → β → γ) (m : FileMap β) :
    (m.mapEntries f).sortedEntries = m.sortedEntries.map fun row => (row.1, f row.1 row.2) := by
  unfold sortedEntries mapEntries
  rw [List.map_mergeSort]
  exact fun _ _ _ _ => rfl

end SiteAtlas.FileMap
