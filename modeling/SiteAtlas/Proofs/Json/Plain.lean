import SiteAtlas.Value.Basic

/-! # What JSON can hold

JSON has no dates, no infinite numbers and no table with a key twice. Whatever else is said about
documents is shown once for the parts of each kind of value.
-/

namespace SiteAtlas

namespace Value

mutual

/-- Whether JSON can hold a value as it is: every number is finite, nothing is a date or a time,
and no table has a key twice. -/
def isPlain : Value → Bool
  | .null => true
  | .bool _ => true
  | .number n => n.isFinite
  | .text _ => true
  | .moment _ => false
  | .list items => arePlain items
  | .table fields => decide (fields.map Prod.fst).Nodup && fieldsPlain fields

/-- Whether JSON can hold all items of a list. -/
def arePlain : List Value → Bool
  | [] => true
  | item :: rest => item.isPlain && arePlain rest

/-- Whether JSON can hold the values of all fields. -/
def fieldsPlain : List (String × Value) → Bool
  | [] => true
  | (_, item) :: rest => item.isPlain && fieldsPlain rest

end

variable {items : List Value} {fields : Fields}

theorem arePlain_iff : arePlain items = true ↔ ∀ v ∈ items, v.isPlain = true := by
  induction items with
  | nil => simp [arePlain]
  | cons item rest ih => rw [arePlain, Bool.and_eq_true, ih, List.forall_mem_cons]

theorem fieldsPlain_iff : fieldsPlain fields = true ↔ ∀ f ∈ fields, f.2.isPlain = true := by
  induction fields with
  | nil => simp [fieldsPlain]
  | cons field rest ih => rw [fieldsPlain, Bool.and_eq_true, ih, List.forall_mem_cons]

theorem isPlain_list_iff : (list items).isPlain = true ↔ ∀ v ∈ items, v.isPlain = true := by
  rw [isPlain, arePlain_iff]

theorem isPlain_table_iff : (table fields).isPlain = true ↔
    (fields.map Prod.fst).Nodup ∧ ∀ f ∈ fields, f.2.isPlain = true := by
  rw [isPlain, Bool.and_eq_true, decide_eq_true_iff, fieldsPlain_iff]

/-- What holds for a value as soon as it holds for its items, or for the values under its keys,
holds for every value. -/
@[elab_as_elim]
theorem inductionOn {P : Value → Prop} (null : P .null) (bool : ∀ b, P (.bool b))
    (number : ∀ n, P (.number n)) (text : ∀ s, P (.text s)) (moment : ∀ s, P (.moment s))
    (list : ∀ items, (∀ v ∈ items, P v) → P (.list items))
    (table : ∀ fields : Fields, (∀ f ∈ fields, P f.2) → P (.table fields)) (v : Value) : P v :=
  @Value.rec P (fun items => ∀ v ∈ items, P v) (fun fields => ∀ f ∈ fields, P f.2)
    (fun field => P field.2) null bool number text moment list table
    (fun _ member => absurd member List.not_mem_nil)
    (fun _ _ first rest => List.forall_mem_cons.mpr ⟨first, rest⟩)
    (fun _ member => absurd member List.not_mem_nil)
    (fun _ _ first rest => List.forall_mem_cons.mpr ⟨first, rest⟩)
    (fun _ _ value => value) v

end Value

end SiteAtlas
