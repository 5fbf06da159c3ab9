/-! # Maps over files

Values under distinct keys, in the order in which the keys were first set.
-/

namespace SiteAtlas

/-- Values under distinct keys. -/
structure FileMap (β : Type) where
  /-- The keys with their values, the key that was set first in front. -/
  entries : List (String × β) := []
  /-- No key has two values. -/
  distinct : (entries.map Prod.fst).Nodup := by exact .nil

namespace FileMap

variable {β γ : Type}

/-- The map without entries. -/
def empty : FileMap β := {}

/-- The keys, in order. -/
def keys (m : FileMap β) : List String := m.entries.map Prod.fst

/-- The values, in the order of their keys. -/
def values (m : FileMap β) : List β := m.entries.map Prod.snd

/-- The value under a key. -/
def get? (m : FileMap β) (key : String) : Option β :=
  (m.entries.find? fun row => row.1 == key).map Prod.snd

/-- Entries with a value under a key: in the place of the old value, or at the end. -/
def putEntry (key : String) (value : β) : List (String × β) → List (String × β)
  | [] => [(key, value)]
  | row :: rest => if row.1 == key then (key, value) :: rest else row :: putEntry key value rest

/-- A key that is there already keeps its place. -/
theorem map_fst_putEntry (key : String) (value : β) (entries : List (String × β)) :
    (putEntry key value entries).map Prod.fst =
      if key ∈ entries.map Prod.fst then entries.map Prod.fst
      else entries.map Prod.fst ++ [key] := by
  induction entries with
  | nil => rfl
  | cons row rest ih =>
    by_cases same : row.1 = key
    · simp [putEntry, same]
    · simp only [putEntry, beq_iff_eq, same, ↓reduceIte, List.map_cons, ih, List.mem_cons,
        Ne.symm same, false_or]
      split <;> rfl

/-- The map with a value under a key. -/
def put (m : FileMap β) (key : String) (value : β) : FileMap β where
  entries := putEntry key value m.entries
  distinct := by
    rw [map_fst_putEntry]
    split
    · exact m.distinct
    next absent =>
      refine List.nodup_append.mpr ⟨m.distinct, List.pairwise_singleton _ key, ?_⟩
      intro known member new isNew same
      exact absent (List.mem_singleton.mp isNew ▸ same ▸ member)

/-- The map with every value replaced by one computed from it and its key. -/
def mapEntries (f : String → β → γ) (m : FileMap β) : FileMap γ where
  entries := m.entries.map fun row => (row.1, f row.1 row.2)
  distinct := by
    rw [List.map_map]
    exact m.distinct

/-- The map with the value under a key changed, if there is one. -/
def modify (m : FileMap β) (key : String) (change : β → β) : FileMap β :=
  m.mapEntries fun known value => if known == key then change value else value

/-- The entries in the order of their keys. -/
def sortedEntries (m : FileMap β) : List (String × β) :=
  m.entries.mergeSort fun a b => a.1 ≤ b.1

end FileMap

end SiteAtlas
