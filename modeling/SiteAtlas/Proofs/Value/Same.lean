import SiteAtlas.Proofs.Json.Plain
import Mathlib.Data.List.Forall2

/-! # Documents that say the same

A table says which value is under which key. In which order the keys were set is kept for writing
it, but two values say the same already if the same is found in both wherever one looks. What is
put under a key is found there, and nothing else changes.
-/

namespace SiteAtlas

/-! ## Values under keys -/

namespace Fields

theorem get?_cons (field : String × Value) (fields : Fields) (key : String) :
    Fields.get? (field :: fields) key =
      if field.1 = key then some field.2 else fields.get? key := by
  unfold Fields.get?
  by_cases same : field.1 = key <;> simp [same]

theorem get?_append (first second : Fields) (key : String) :
    Fields.get? (first ++ second) key = (first.get? key).or (second.get? key) := by
  unfold Fields.get?
  rw [List.find?_append, Option.map_or]

theorem get?_set (fields : Fields) (key other : String) (value : Value) :
    (fields.set key value).get? other = if key = other then some value else fields.get? other := by
  induction fields with
  | nil => rw [set, get?_cons]
  | cons field rest ih =>
    obtain ⟨name, old⟩ := field
    rw [set]
    by_cases here : name = key
    · subst here
      rw [if_pos (beq_self_eq_true name), get?_cons, get?_cons]
      split <;> rfl
    · rw [if_neg (by simpa using here), get?_cons, get?_cons, ih]
      by_cases same : name = other
      · rw [if_pos same, if_pos same, if_neg (same ▸ Ne.symm here)]
      · rw [if_neg same, if_neg same]

/-- Of values put over those of a table under one key, the last one is found. -/
theorem get?_merge (fields changes : Fields) (key : String) :
    (fields.merge changes).get? key = (Fields.get? changes.reverse key).or (fields.get? key) := by
  induction changes generalizing fields with
  | nil => rfl
  | cons change rest ih =>
    rw [merge, List.foldl_cons, ← merge, ih, get?_set, List.reverse_cons, get?_append,
      Option.or_assoc, get?_cons]
    split <;> rfl

theorem mem_of_get? {fields : Fields} {key : String} {value : Value}
    (found : fields.get? key = some value) : (key, value) ∈ fields := by
  obtain ⟨field, isField, rfl⟩ := Option.map_eq_some_iff.mp found
  obtain rfl : field.1 = key := by simpa using List.find?_some isField
  exact List.mem_of_find?_eq_some isField

/-- The value under a key of a section. -/
def setting? (document : Fields) (name key : String) : Option Value :=
  (document.get? name).bind fun table => table.get? key

end Fields

/-! ## Looking into values -/

namespace Value

/-- A step into a value: to a key of a table or to a place of a list. -/
inductive Step where
  | key (name : String)
  | place (index : Nat)

/-- What is found after one step into a value. -/
def step? (value : Value) : Step → Option Value
  | .key name => value.get? name
  | .place index =>
    match value with
    | list items => items[index]?
    | _ => none

/-- What is found after some steps into a value. -/
def at? (value : Value) : List Step → Option Value
  | [] => some value
  | step :: steps => (value.step? step).bind fun inner => at? inner steps

/-- A value without what is in it. A list keeps its length, and nothing is kept of a table. -/
def outline : Value → Value
  | list items => list (items.map fun _ => null)
  | table _ => table []
  | value => value

/-- Whether the same is found in two values wherever one looks. -/
def Same (v w : Value) : Prop := ∀ steps, (v.at? steps).map outline = (w.at? steps).map outline

theorem Same.refl (v : Value) : v.Same v := fun _ => rfl

theorem Same.trans {u v w : Value} (first : u.Same v) (second : v.Same w) : u.Same w :=
  fun steps => (first steps).trans (second steps)

theorem Same.symm {v w : Value} (same : v.Same w) : w.Same v := fun steps => (same steps).symm

variable {x y z : Option Value}

/-- Values that may be missing say the same if the same is found from both on. -/
theorem rel_same_iff : Option.Rel Same x y ↔
    ∀ steps, (x.bind fun v => v.at? steps).map outline =
      (y.bind fun w => w.at? steps).map outline := by
  constructor
  · rintro (same | _) steps
    · exact same steps
    · rfl
  · intro same
    have start := same []
    cases x with
    | none =>
      cases y with
      | none => exact .none
      | some w => cases start
    | some v =>
      cases y with
      | none => cases start
      | some w => exact .some same

theorem rel_same_refl (x : Option Value) : Option.Rel Same x x := rel_same_iff.mpr fun _ => rfl

theorem rel_same_trans (first : Option.Rel Same x y) (second : Option.Rel Same y z) :
    Option.Rel Same x z :=
  rel_same_iff.mpr fun steps =>
    (rel_same_iff.mp first steps).trans (rel_same_iff.mp second steps)

theorem rel_same_or (z : Option Value) (same : Option.Rel Same x y) :
    Option.Rel Same (z.or x) (z.or y) := by
  cases z with
  | none => exact same
  | some v => exact rel_same_refl (some v)

/-- Tables say the same if they do under every key. -/
theorem same_table_iff {fields others : Fields} : (table fields).Same (table others) ↔
    ∀ key, Option.Rel Same (fields.get? key) (others.get? key) := by
  constructor
  · intro same key
    exact rel_same_iff.mpr fun steps => same (.key key :: steps)
  · rintro same (_ | ⟨key | index, steps⟩)
    · rfl
    · exact rel_same_iff.mp (same key) steps
    · rfl

/-- Lists say the same if their items do, one by one. -/
theorem Same.list {items others : List Value} (same : List.Forall₂ Same items others) :
    (Value.list items).Same (.list others) := by
  rintro (_ | ⟨key | index, steps⟩)
  · have outlines : items.map (fun _ => null) = others.map fun _ => null := by
      rw [List.map_const', List.map_const', same.length_eq]
    exact congrArg (fun outlines => some (Value.list outlines)) outlines
  · rfl
  · have rel : Option.Rel Same items[index]? others[index]? := by
      induction same generalizing index with
      | nil => exact .none
      | cons first _ ih =>
        cases index with
        | zero => exact .some first
        | succ index => exact ih index
    exact rel_same_iff.mp rel steps

/-- What says the same as a table is one. -/
theorem Same.exists_table {v : Value} {fields : Fields} (same : v.Same (table fields)) :
    ∃ others, v = table others := by
  have start := same []
  cases v with
  | table others => exact ⟨others, rfl⟩
  | _ => cases start

/-- What says the same has the same under every key. -/
theorem rel_same_get? (same : Option.Rel Same x y) (key : String) :
    Option.Rel Same (x.bind fun v => v.get? key) (y.bind fun w => w.get? key) := by
  cases same with
  | some same => exact rel_same_iff.mpr fun steps => same (.key key :: steps)
  | none => exact .none

/-! ## Comparing -/

mutual

/-- A test whether two values say the same. Real numbers are never taken for the same. -/
def saysSame : Value → Value → Bool
  | null, null => true
  | bool b, bool c => b == c
  | number (.whole m), number (.whole n) => m == n
  | text s, text t => s == t
  | moment s, moment t => s == t
  | list items, list others => sayTheSame items others
  | table fields, table others =>
    fieldsSayIn others fields && others.all fun field => (Fields.get? fields field.1).isSome
  | _, _ => false

/-- A test whether two lists say the same, item by item. -/
def sayTheSame : List Value → List Value → Bool
  | [], [] => true
  | v :: rest, w :: others => saysSame v w && sayTheSame rest others
  | _, _ => false

/-- A test whether a table says the same under the keys of some fields. -/
def fieldsSayIn (others : Fields) : List (String × Value) → Bool
  | [] => true
  | (key, v) :: rest => (others.get? key).any (fun w => saysSame v w) && fieldsSayIn others rest

end

theorem sayTheSame_iff {items others : List Value} : sayTheSame items others = true ↔
    List.Forall₂ (fun v w => saysSame v w = true) items others := by
  induction items generalizing others with
  | nil => cases others <;> simp [sayTheSame]
  | cons v rest ih => cases others <;> simp [sayTheSame, ih]

theorem fieldsSayIn_iff {fields others : Fields} : fieldsSayIn others fields = true ↔
    ∀ field ∈ fields, ∃ w, others.get? field.1 = some w ∧ saysSame field.2 w = true := by
  induction fields with
  | nil => simp [fieldsSayIn]
  | cons field rest ih => simp [fieldsSayIn, ih, Option.any_eq_true]

theorem same_of_saysSame {v w : Value} (test : saysSame v w = true) : v.Same w := by
  induction v using inductionOn generalizing w with
  | list items ih =>
    cases w with
    | list others =>
      rw [saysSame, sayTheSame_iff] at test
      refine .list ?_
      induction test with
      | nil => exact .nil
      | cons first _ rest =>
        exact .cons (ih _ List.mem_cons_self first)
          (rest fun v member => ih v (List.mem_cons_of_mem _ member))
    | _ => cases test
  | table fields ih =>
    cases w with
    | table others =>
      rw [saysSame, Bool.and_eq_true, fieldsSayIn_iff, List.all_eq_true] at test
      refine same_table_iff.mpr fun key => ?_
      cases found : fields.get? key with
      | some v =>
        obtain ⟨w, found', same⟩ := test.1 _ (Fields.mem_of_get? found)
        rw [found']
        exact .some (ih _ (Fields.mem_of_get? found) same)
      | none =>
        cases found' : Fields.get? others key with
        | none => exact .none
        | some w =>
          have isThere := test.2 _ (Fields.mem_of_get? found')
          rw [found] at isThere
          cases isThere
    | _ => cases test
  | number m =>
    cases m with
    | whole m =>
      cases w with
      | number n =>
        cases n with
        | whole n => exact beq_iff_eq.mp test ▸ .refl _
        | real y => cases test
      | _ => cases test
    | real x => cases w <;> cases test
  | null =>
    cases w with
    | null => exact .refl _
    | _ => cases test
  | bool b =>
    cases w with
    | bool c => exact beq_iff_eq.mp test ▸ .refl _
    | _ => cases test
  | text s =>
    cases w with
    | text t => exact beq_iff_eq.mp test ▸ .refl _
    | _ => cases test
  | moment s =>
    cases w with
    | moment t => exact beq_iff_eq.mp test ▸ .refl _
    | _ => cases test

end Value

end SiteAtlas
