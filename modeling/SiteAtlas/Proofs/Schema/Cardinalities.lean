import SiteAtlas.Schema.Tally
import SiteAtlas.Proofs.Schema.Relations
import SiteAtlas.Proofs.Text.Pieces
import Mathlib.Algebra.GroupWithZero.Nat
import Mathlib.Algebra.Order.BigOperators.Group.List
import Mathlib.Data.List.Nodup
import Mathlib.Data.List.Perm.Subperm
import Mathlib.Data.String.Basic

/-! # Relations by cardinality

The overview counts the sides of relations key by key, the graph its relations one by one. Here are
the laws of both counts, the keys of sides, and the relations that are declared on both sides, whose
cardinality is read off the two fields.
-/

namespace SiteAtlas.Schema

open Text

/-! ## Counting by cardinality -/

/-- How often each cardinality occurs. -/
def countsOf (classes : List Cardinality) : Cardinalities :=
  ⟨classes.count .oneToOne, classes.count .oneToMany, classes.count .manyToMany⟩

/-- What some sides of a relation say together, given which of them are lists. -/
def sidesCardinality (lists : List Bool) : Cardinality :=
  if lists.all id && lists.length > 1 then .manyToMany
  else if lists.any id then .oneToMany
  else .oneToOne

/-- The keys under which sides are counted. -/
def keysOf (lines : List RelationLine) : List String := (lines.map RelationLine.key).eraseDups

/-- What the sides that were counted under a key say together. -/
def keyCardinality (lines : List RelationLine) (key : String) : Cardinality :=
  sidesCardinality ((lines.filter (·.key == key)).map (·.isList))

/-- Count one more relation. -/
def Cardinalities.add (counts : Cardinalities) : Cardinality → Cardinalities
  | .oneToOne => { counts with oneToOne := counts.oneToOne + 1 }
  | .oneToMany => { counts with oneToMany := counts.oneToMany + 1 }
  | .manyToMany => { counts with manyToMany := counts.manyToMany + 1 }

theorem foldl_add (classes : List Cardinality) (counts : Cardinalities) :
    classes.foldl Cardinalities.add counts =
      ⟨counts.oneToOne + (countsOf classes).oneToOne,
        counts.oneToMany + (countsOf classes).oneToMany,
        counts.manyToMany + (countsOf classes).manyToMany⟩ := by
  unfold countsOf
  induction classes generalizing counts with
  | nil => rfl
  | cons c rest ih =>
    rw [List.foldl_cons, ih]
    cases c <;> simp [Cardinalities.add] <;> omega

/-- The relations of an overview are counted key by key. -/
theorem cardinalities_eq (lines : List RelationLine) :
    cardinalities lines = countsOf ((keysOf lines).map (keyCardinality lines)) := by
  have step : (fun (counts : Cardinalities) (key : String) =>
      let sides := lines.filter fun r => r.key == key
      if sides.all (·.isList) && sides.length > 1 then
        { counts with manyToMany := counts.manyToMany + 1 }
      else if sides.any (·.isList) then { counts with oneToMany := counts.oneToMany + 1 }
      else { counts with oneToOne := counts.oneToOne + 1 }) =
      fun counts key => counts.add (keyCardinality lines key) := by
    funext counts key
    rw [keyCardinality, sidesCardinality, List.all_map, List.any_map, List.length_map]
    dsimp only [Function.comp_def, id]
    split_ifs <;> rfl
  rw [cardinalities, step, ← List.foldl_map, foldl_add, keysOf]
  simp

/-- The relations of a graph, counted by cardinality. -/
def graphCardinalities (schema : Schema) : Cardinalities :=
  ⟨countRelations schema .oneToOne, countRelations schema .oneToMany,
    countRelations schema .manyToMany⟩

theorem graphCardinalities_eq (schema : Schema) : graphCardinalities schema =
    countsOf ((relations schema).map (FieldAt.cardinality schema)) := by
  have each (cardinality : Cardinality) : countRelations schema cardinality =
      ((relations schema).map (FieldAt.cardinality schema)).count cardinality := by
    rw [countRelations, List.count, List.countP_map, List.countP_eq_length_filter]
    rfl
  rw [graphCardinalities, each, each, each, countsOf]

/-- Cardinalities by the number of lists. -/
def Cardinality.rank : Cardinality → Nat
  | oneToOne => 0
  | oneToMany => 1
  | manyToMany => 2

theorem Cardinality.rank_injective : Function.Injective Cardinality.rank := by
  intro a b same
  cases a <;> cases b <;> cases same <;> rfl

theorem length_eq_countsOf (classes : List Cardinality) : classes.length =
    (countsOf classes).oneToOne + (countsOf classes).oneToMany +
      (countsOf classes).manyToMany := by
  unfold countsOf
  induction classes with
  | nil => rfl
  | cons c rest ih => cases c <;> simp at ih ⊢ <;> omega

theorem sum_rank_eq_countsOf (classes : List Cardinality) : (classes.map Cardinality.rank).sum =
    (countsOf classes).oneToMany + 2 * (countsOf classes).manyToMany := by
  unfold countsOf
  induction classes with
  | nil => rfl
  | cons c rest ih => cases c <;> simp [Cardinality.rank] at ih ⊢ <;> omega

theorem countsOf_eq_of_perm {classes classes' : List Cardinality} (same : classes.Perm classes') :
    countsOf classes = countsOf classes' := by
  rw [countsOf, countsOf, same.count_eq, same.count_eq, same.count_eq]

/-- Numbers that are nowhere greater and have the same sum are the same. -/
theorem eq_of_sum_eq {α : Type} {f g : α → Nat} {items : List α}
    (below : ∀ a ∈ items, f a ≤ g a) (same : (items.map f).sum = (items.map g).sum) :
    ∀ a ∈ items, f a = g a := by
  intro a member
  by_contra differ
  have less := List.sum_lt_sum f g below ⟨a, member, lt_of_le_of_ne (below a member) differ⟩
  exact less.ne same

theorem nodup_eraseDups : (keys : List String) → keys.eraseDups.Nodup
  | [] => List.nodup_nil
  | key :: rest => by
    rw [List.eraseDups_cons, List.nodup_cons, List.mem_eraseDups]
    exact ⟨by simp, nodup_eraseDups _⟩
termination_by keys => keys.length
decreasing_by exact Nat.lt_succ_of_le (List.length_filter_le _ _)

theorem nodup_keysOf (lines : List RelationLine) : (keysOf lines).Nodup := nodup_eraseDups _

/-! ## The keys of sides -/

theorem ordered_eq_iff {a b c d : String} :
    ordered a b = ordered c d ↔ a = c ∧ b = d ∨ a = d ∧ b = c := by
  unfold ordered
  constructor
  · intro same
    split at same <;> split at same <;> obtain ⟨first, second⟩ := Prod.mk.inj same
    · exact .inl ⟨second, first⟩
    · exact .inr ⟨second, first⟩
    · exact .inr ⟨first, second⟩
    · exact .inl ⟨first, second⟩
  · rintro (⟨rfl, rfl⟩ | ⟨rfl, rfl⟩)
    · rfl
    · rcases lt_trichotomy a b with less | rfl | more
      · rw [if_neg less.asymm, if_pos less]
      · rfl
      · rw [if_pos more, if_neg more.asymm]

theorem mem_ordered_iff {a b name : String} :
    name = (ordered a b).1 ∨ name = (ordered a b).2 ↔ name = a ∨ name = b := by
  unfold ordered
  split
  · exact or_comm
  · exact Iff.rfl

/-- The keys of two sides are the same exactly if they connect the same models, as long as no name
holds the mark between the two in a key. -/
theorem key_eq_iff {r s : RelationLine}
    (plain : '-' ∉ r.model.toList ∧ '-' ∉ r.type.toList)
    (plain' : '-' ∉ s.model.toList ∧ '-' ∉ s.type.toList) :
    r.key = s.key ↔ r.model = s.model ∧ r.type = s.type ∨ r.model = s.type ∧ r.type = s.model := by
  have second {r : RelationLine} (plain : '-' ∉ r.model.toList ∧ '-' ∉ r.type.toList) :
      '-' ∉ (ordered r.model r.type).2.toList := by
    rcases mem_ordered_iff.mp (.inr rfl) with same | same <;> rw [same]
    · exact plain.1
    · exact plain.2
  have chars (r : RelationLine) : r.key.toList =
      (ordered r.model r.type).1.toList ++ '-' :: (ordered r.model r.type).2.toList := by
    simp [RelationLine.key]
  rw [← ordered_eq_iff, ← String.toList_inj, chars, chars,
    append_cons_inj (second plain) (second plain'), String.toList_inj, String.toList_inj,
    Prod.ext_iff]

/-! ## The relations of the graph -/

/-- The relation that a link shows. -/
def Link.relation? : Link → Option FieldAt
  | .relation at' => some at'
  | .enumReference _ => none

section Relations

variable {schema : Schema}

theorem mem_relations_iff {a : FieldAt} : a ∈ relations schema ↔ .relation a ∈ links schema := by
  rw [relations, List.mem_filterMap]
  constructor
  · rintro ⟨_ | _, linked, same⟩
    · exact Option.some.inj same ▸ linked
    · cases same
  · exact fun linked => ⟨_, linked, rfl⟩

theorem mem_fieldsAt_of_mem_relations {a : FieldAt} (member : a ∈ relations schema) :
    a ∈ fieldsAt schema ∧ a.field.kind = .object := by
  have first := relation_mem_links_iff.mp (mem_relations_iff.mp member)
  refine ⟨List.mem_of_find?_eq_some first, ?_⟩
  have both := List.find?_some first
  simp only [Bool.and_eq_true, beq_iff_eq] at both
  exact both.1

/-- Every field that refers to a model carries the key of a relation. -/
theorem exists_mem_relations {a : FieldAt} (member : a ∈ fieldsAt schema)
    (object : a.field.kind = .object) :
    ∃ r ∈ relations schema, r.relationKey = a.relationKey := by
  have carried : ((fieldsAt schema).find? fun b =>
      b.field.kind == .object && b.relationKey == a.relationKey).isSome :=
    List.find?_isSome.mpr ⟨a, member, by simp [object]⟩
  obtain ⟨r, first⟩ := Option.isSome_iff_exists.mp carried
  have both := List.find?_some first
  simp only [Bool.and_eq_true, beq_iff_eq] at both
  refine ⟨r, mem_relations_iff.mpr (relation_mem_links_iff.mpr ?_), both.2⟩
  rw [both.2]
  exact first

/-- No two relations of a graph have one key. -/
theorem nodup_relationKeys (schema : Schema) :
    ((relations schema).map FieldAt.relationKey).Nodup := by
  have run (fields : List FieldAt) (seen : List String) :
      (((linksFrom seen fields).filterMap Link.relation?).map FieldAt.relationKey).Nodup ∧
        ∀ key ∈ ((linksFrom seen fields).filterMap Link.relation?).map FieldAt.relationKey,
          key ∉ seen := by
    induction fields generalizing seen with
    | nil => exact ⟨List.nodup_nil, fun _ member => absurd member List.not_mem_nil⟩
    | cons a rest ih =>
      rw [linksFrom]
      cases a.field.kind with
      | scalar => exact ih seen
      | enum => exact ih seen
      | object =>
        dsimp only
        split_ifs with old
        · exact ih seen
        · obtain ⟨distinct, unseen⟩ := ih (a.relationKey :: seen)
          refine ⟨List.nodup_cons.mpr ⟨fun again => unseen _ again List.mem_cons_self, distinct⟩,
            List.forall_mem_cons.mpr ⟨by simpa using old, fun key member isSeen =>
              unseen key member (List.mem_cons_of_mem _ isSeen)⟩⟩
  have shown : relations schema = (links schema).filterMap Link.relation? :=
    List.filterMap_congr fun link _ => by cases link <;> rfl
  rw [shown]
  exact (run (fieldsAt schema) []).1

end Relations

/-! ## Places -/

section Places

variable {schema : Schema}

deriving instance DecidableEq for FieldAt

theorem mem_fieldsAt_iff {a : FieldAt} : a ∈ fieldsAt schema ↔
    schema.models[a.modelIndex]? = some a.model ∧ a.model.fields[a.fieldIndex]? = some a.field := by
  constructor
  · intro member
    obtain ⟨⟨m, i⟩, isModel, member⟩ := List.mem_flatMap.mp member
    obtain ⟨⟨f, j⟩, isField, rfl⟩ := List.mem_map.mp member
    exact ⟨List.mem_zipIdx_iff_getElem?.mp isModel, List.mem_zipIdx_iff_getElem?.mp isField⟩
  · rintro ⟨isModel, isField⟩
    exact List.mem_flatMap.mpr ⟨(a.model, a.modelIndex), List.mem_zipIdx_iff_getElem?.mpr isModel,
      List.mem_map.mpr ⟨(a.field, a.fieldIndex), List.mem_zipIdx_iff_getElem?.mpr isField, rfl⟩⟩

/-- Items with distinct images are at one place if they have one image. -/
theorem index_eq_of_nodup_map {α β : Type} {f : α → β} {items : List α}
    (distinct : (items.map f).Nodup) {i j : Nat} {x y : α} (at_i : items[i]? = some x)
    (at_j : items[j]? = some y) (same : f x = f y) : i = j := by
  have places : (items.map f)[i]? = (items.map f)[j]? := by
    rw [List.getElem?_map, List.getElem?_map, at_i, at_j, Option.map_some, Option.map_some, same]
  have bound : i < (items.map f).length := by
    rw [List.length_map]
    exact (List.getElem?_eq_some_iff.mp at_i).1
  exact (List.getElem?_inj bound distinct).mp places

/-- A field of a schema is told by its place. -/
theorem eq_of_place_eq {a b : FieldAt} (member : a ∈ fieldsAt schema)
    (member' : b ∈ fieldsAt schema) (models : a.modelIndex = b.modelIndex)
    (fields : a.fieldIndex = b.fieldIndex) : a = b := by
  obtain ⟨isModel, isField⟩ := mem_fieldsAt_iff.mp member
  obtain ⟨isModel', isField'⟩ := mem_fieldsAt_iff.mp member'
  obtain ⟨i, m, j, f⟩ := a
  obtain ⟨i', m', j', f'⟩ := b
  obtain rfl : i = i' := models
  obtain rfl : j = j' := fields
  obtain rfl : m = m' := Option.some.inj (isModel.symm.trans isModel')
  obtain rfl : f = f' := Option.some.inj (isField.symm.trans isField')
  rfl

theorem nodup_fieldsAt (schema : Schema) : (fieldsAt schema).Nodup := by
  have places {α : Type} (items : List α) : items.zipIdx.Nodup :=
    List.Nodup.of_map Prod.snd (by rw [List.zipIdx_map_snd]; exact List.nodup_range')
  refine List.nodup_flatMap.mpr ⟨fun (m, i) _ => ?_, ?_⟩
  · refine (places m.fields).map fun (f, j) (f', j') same => ?_
    obtain ⟨-, -, rfl, rfl⟩ := FieldAt.mk.inj same
    rfl
  · refine (places schema.models).imp_of_mem fun isModel isModel' differ a inFirst inSecond => ?_
    obtain ⟨_, -, rfl⟩ := List.mem_map.mp inFirst
    obtain ⟨_, -, same⟩ := List.mem_map.mp inSecond
    obtain ⟨sameIndex, sameModel, -, -⟩ := FieldAt.mk.inj same
    exact differ (Prod.ext sameModel.symm sameIndex.symm)

end Places

/-! ## Relations that are declared on both sides -/

/-- Whether two fields are the sides of one relation, which no other field carries. -/
structure Partners (schema : Schema) (a b : FieldAt) : Prop where
  other : b ≠ a
  object : b.field.kind = .object
  model : b.model.name = a.field.type
  type : b.field.type = a.model.name
  only : ∀ c ∈ fieldsAt schema, c.field.kind = .object →
    (c.field.relationName = a.field.relationName ↔ c = a ∨ c = b)

instance (schema : Schema) (a b : FieldAt) : Decidable (Partners schema a b) :=
  decidable_of_iff
    (b ≠ a ∧ b.field.kind = .object ∧ b.model.name = a.field.type ∧ b.field.type = a.model.name ∧
      ∀ c ∈ fieldsAt schema, c.field.kind = .object →
        (c.field.relationName = a.field.relationName ↔ c = a ∨ c = b))
    ⟨fun ⟨other, object, model, type, only⟩ => ⟨other, object, model, type, only⟩,
      fun ⟨other, object, model, type, only⟩ => ⟨other, object, model, type, only⟩⟩

/-- Whether every relation is declared by one field on either side. -/
def DeclaredOnBothSides (schema : Schema) : Prop :=
  ∀ a ∈ fieldsAt schema, a.field.kind = .object → ∃ b ∈ fieldsAt schema, Partners schema a b

instance (schema : Schema) : Decidable (DeclaredOnBothSides schema) :=
  inferInstanceAs (Decidable (∀ a ∈ fieldsAt schema, _))

section Partners

variable {schema : Schema} {a b : FieldAt}

theorem modelNamed?_eq (distinct : (schema.models.map (·.name)).Nodup) {m : Model} {i : Nat}
    (isModel : schema.models[i]? = some m) : modelNamed? schema m.name = some (m, i) := by
  have named : (modelNamed? schema m.name).isSome :=
    List.find?_isSome.mpr ⟨(m, i), List.mem_zipIdx_iff_getElem?.mpr isModel, by simp⟩
  obtain ⟨⟨m', i'⟩, found⟩ := Option.isSome_iff_exists.mp named
  have isModel' : schema.models[i']? = some m' :=
    List.mem_zipIdx_iff_getElem?.mp (List.mem_of_find?_eq_some found)
  have same : m'.name = m.name := by simpa using List.find?_some found
  obtain rfl := index_eq_of_nodup_map distinct isModel isModel' same.symm
  rw [found, Option.some.inj (isModel.symm.trans isModel')]

/-- Whether a field, given with its place, of the model at place `i` carries the relation of another
field back. -/
def carriesBack (a : FieldAt) (i : Nat) (p : Field × Nat) : Bool :=
  !(i == a.modelIndex && p.2 == a.fieldIndex) && p.1.kind == .object
    && p.1.type == a.model.name && p.1.relationName == a.field.relationName

theorem reverseField?_eq_bind (schema : Schema) (a : FieldAt) : reverseField? schema a =
    (modelNamed? schema a.field.type).bind fun (target, i) =>
      (target.fields.zipIdx.find? (carriesBack a i)).map (·.1) := rfl

/-- Only the other side of a relation carries it back. -/
theorem carriesBack_iff (member : a ∈ fieldsAt schema) (partners : Partners schema a b)
    {c : FieldAt} (member' : c ∈ fieldsAt schema) :
    carriesBack a c.modelIndex (c.field, c.fieldIndex) = true ↔ c = b := by
  obtain ⟨other, object, -, type, only⟩ := partners
  simp only [carriesBack, Bool.and_eq_true, Bool.not_eq_true', Bool.and_eq_false_iff,
    beq_eq_false_iff_ne, beq_iff_eq]
  constructor
  · rintro ⟨⟨⟨place, isObject⟩, -⟩, sameRelation⟩
    refine ((only c member' isObject).mp sameRelation).resolve_left ?_
    rintro rfl
    exact place.elim (fun differ => differ rfl) (fun differ => differ rfl)
  · rintro rfl
    refine ⟨⟨⟨not_and_or.mp fun both => other ?_, object⟩, type⟩,
      (only c member' object).mpr (.inr rfl)⟩
    exact eq_of_place_eq member' member both.1 both.2

/-- A field that is the only one to carry a relation back is found. -/
theorem reverseField?_eq_some (distinct : (schema.models.map (·.name)).Nodup)
    (member : b ∈ fieldsAt schema) (model : b.model.name = a.field.type)
    (only : ∀ c ∈ fieldsAt schema, c.model.name = a.field.type →
      (carriesBack a c.modelIndex (c.field, c.fieldIndex) = true ↔ c = b)) :
    reverseField? schema a = some b.field := by
  obtain ⟨isModel, isField⟩ := mem_fieldsAt_iff.mp member
  have found : (b.model.fields.zipIdx.find? (carriesBack a b.modelIndex)).isSome :=
    List.find?_isSome.mpr ⟨(b.field, b.fieldIndex), List.mem_zipIdx_iff_getElem?.mpr isField,
      (only b member model).mpr rfl⟩
  obtain ⟨⟨f, j⟩, first⟩ := Option.isSome_iff_exists.mp found
  have atPlace : b.model.fields[j]? = some f :=
    List.mem_zipIdx_iff_getElem?.mp (List.mem_of_find?_eq_some first)
  have isMember : (⟨b.modelIndex, b.model, j, f⟩ : FieldAt) ∈ fieldsAt schema :=
    mem_fieldsAt_iff.mpr ⟨isModel, atPlace⟩
  have same := (only _ isMember model).mp (List.find?_some first)
  rw [reverseField?_eq_bind, ← model, modelNamed?_eq distinct isModel, Option.bind_some]
  dsimp only
  rw [first, Option.map_some]
  exact congrArg (some ·.field) same

/-- Where no field carries a relation back, none is found. -/
theorem reverseField?_eq_none (none : ∀ c ∈ fieldsAt schema, c.model.name = a.field.type →
    carriesBack a c.modelIndex (c.field, c.fieldIndex) ≠ true) :
    reverseField? schema a = Option.none := by
  rw [reverseField?_eq_bind, Option.bind_eq_none_iff]
  rintro ⟨target, i⟩ found
  have isModel : schema.models[i]? = some target :=
    List.mem_zipIdx_iff_getElem?.mp (List.mem_of_find?_eq_some found)
  have model : target.name = a.field.type := by simpa using List.find?_some found
  rw [Option.map_eq_none_iff, List.find?_eq_none]
  rintro ⟨f, j⟩ isField
  have isMember : (⟨i, target, j, f⟩ : FieldAt) ∈ fieldsAt schema :=
    mem_fieldsAt_iff.mpr ⟨isModel, List.mem_zipIdx_iff_getElem?.mp isField⟩
  exact none _ isMember model

/-- The field that carries a relation back is the other side of it. -/
theorem reverseField?_eq (distinct : (schema.models.map (·.name)).Nodup)
    (member : a ∈ fieldsAt schema) (member' : b ∈ fieldsAt schema)
    (partners : Partners schema a b) : reverseField? schema a = some b.field :=
  reverseField?_eq_some distinct member' partners.model
    fun _ isMember _ => carriesBack_iff member partners isMember

theorem cardinality_eq (distinct : (schema.models.map (·.name)).Nodup)
    (member : a ∈ fieldsAt schema) (member' : b ∈ fieldsAt schema)
    (partners : Partners schema a b) :
    a.cardinality schema = .ofSides a.field.isList b.field.isList := by
  rw [FieldAt.cardinality, reverseField?_eq distinct member member' partners]

end Partners

end SiteAtlas.Schema
