import SiteAtlas.Proofs.Schema.Cardinalities
import Mathlib.Data.List.Forall2
import Mathlib.Data.Sym.Sym2

/-! # Schemas in another order

A relation is drawn once, for the first field that carries its name. Where the name is carried by
one field, or by two that refer to each other's models, it does not matter which of them comes
first: the arrow names the same relation, joins the same models, and is of the cardinality that all
carriers say together. So a schema with its models and fields in another order shows the same
relations.
-/

namespace SiteAtlas

/-! ## What an arrow says of a relation -/

/-- The name of the relation that an arrow shows, its two models, and its cardinality, whichever
model the arrow leads from. -/
def Edge.relation? (e : Edge) : Option (Value × Sym2 String × Value) :=
  if e.style = "relation" then do
    let name ← Fields.get? e.data "relationName"
    let cardinality ← Fields.get? e.data "relationType"
    some (name, s(e.source, e.target), cardinality)
  else none

/-- The relations that a graph shows. -/
def Graph.relationSet {α : Type} (g : Graph α) : Set (Value × Sym2 String × Value) :=
  {r | ∃ e ∈ g.edges, e.relation? = some r}

theorem Graph.mem_relationSet_iff {α : Type} {g : Graph α} {r : Value × Sym2 String × Value} :
    r ∈ g.relationSet ↔ r ∈ g.edges.filterMap Edge.relation? := List.mem_filterMap.symm

namespace Schema

/-- A field with the name of the model it stands in, wherever both are placed. -/
structure Declaration where
  /-- The name of the model. -/
  model : String
  /-- The field. -/
  field : Field

/-- What a field declares, apart from its place. -/
def FieldAt.declaration (a : FieldAt) : Declaration := ⟨a.model.name, a.field⟩

namespace Declaration

/-- Whether two declarations give their relation the same name, or both none, and refer to each
other's models. -/
def Reciprocal (d d' : Declaration) : Prop :=
  d'.field.relationName = d.field.relationName ∧ d'.model = d.field.type ∧ d'.field.type = d.model

instance : DecidableRel Reciprocal := fun _ _ => inferInstanceAs (Decidable (_ ∧ _))

theorem Reciprocal.symm {d d' : Declaration} (both : d.Reciprocal d') : d'.Reciprocal d :=
  ⟨both.1.symm, both.2.2.symm, both.2.1.symm⟩

instance : Std.Symm Reciprocal := ⟨fun _ _ => Reciprocal.symm⟩

/-- The key of the relation that is declared. It does not depend on the place of the field. -/
def relationKey (d : Declaration) : String :=
  FieldAt.relationKey ⟨0, { name := d.model }, 0, d.field⟩

/-- Whether the relation of a name is declared. -/
def carries (name : String) (d : Declaration) : Bool :=
  d.field.kind == .object && d.relationKey == name

end Declaration

/-- Whether there is one declaration, or two that refer to each other, if there are any. -/
def OneOrReciprocal (sides : List Declaration) : Prop :=
  sides.length ≤ 2 ∧ sides.Pairwise Declaration.Reciprocal

instance (sides : List Declaration) : Decidable (OneOrReciprocal sides) :=
  inferInstanceAs (Decidable (_ ∧ _))

/-- Whether a field refers to a model and so carries the relation of a name. -/
def FieldAt.carries (name : String) (a : FieldAt) : Bool :=
  a.field.kind == .object && a.relationKey == name

/-- The fields that carry a relation, in order. -/
def carriers (schema : Schema) (name : String) : List FieldAt :=
  (fieldsAt schema).filter (FieldAt.carries name)

/-- The names of the relations of a schema, in the order in which fields first carry them. -/
def relationNames (schema : Schema) : List String :=
  (((fieldsAt schema).filter (·.field.kind == .object)).map FieldAt.relationKey).eraseDups

/-- A schema with distinct model names in which each relation is carried by one field, or by two
that refer to each other's models. -/
structure Unambiguous (schema : Schema) : Prop where
  names : (schema.models.map (·.name)).Nodup
  carried : ∀ name ∈ relationNames schema,
    OneOrReciprocal ((carriers schema name).map FieldAt.declaration)

instance (schema : Schema) : Decidable (Unambiguous schema) :=
  decidable_of_iff ((schema.models.map (·.name)).Nodup ∧ ∀ name ∈ relationNames schema,
      OneOrReciprocal ((carriers schema name).map FieldAt.declaration))
    ⟨fun ⟨names, carried⟩ => ⟨names, carried⟩, fun ⟨names, carried⟩ => ⟨names, carried⟩⟩

/-- Whether a model has the fields of another, in any order. -/
structure Model.Reordered (m m' : Model) : Prop where
  name : m.name = m'.name
  fields : m.fields.Perm m'.fields

/-- Whether a schema has the models of another, in any order, with their fields in any order. -/
def Reordered (schema schema' : Schema) : Prop :=
  ∃ models, schema.models.Perm models ∧ List.Forall₂ Model.Reordered models schema'.models

/-! ## One arrow for each name -/

/-- A relation that is given a name has that as its key. -/
theorem FieldAt.relationKey_eq {a : FieldAt} {name : String}
    (named : a.field.relationName = some name) (filled : name ≠ "") : a.relationKey = name := by
  simp [relationKey, named, filled]

/-- A field of another relation is passed over in the search for the first carrier. -/
theorem find?_carries_cons {b : FieldAt} {name : String} (other : b.relationKey ≠ name)
    (rest : List FieldAt) :
    (b :: rest).find? (FieldAt.carries name) = rest.find? (FieldAt.carries name) :=
  List.find?_cons_of_neg (by simp [FieldAt.carries, other])

/-- Each name that was not seen before is linked once, by the first field that carries it. -/
theorem forall₂_linksFrom (seen : List String) (fields : List FieldAt) :
    List.Forall₂ (fun name a => name ∉ seen ∧ fields.find? (FieldAt.carries name) = some a)
      (((fields.filter (·.field.kind == .object)).map FieldAt.relationKey).filter
        (fun name => !seen.contains name)).eraseDups
      ((linksFrom seen fields).filterMap Link.relation?) := by
  induction fields generalizing seen with
  | nil => exact List.Forall₂.nil
  | cons b rest ih =>
    rw [linksFrom]
    cases kind : b.field.kind with
    | scalar => simpa [kind, FieldAt.carries] using ih seen
    | enum =>
      rw [List.filterMap_cons_none rfl]
      simpa [kind, FieldAt.carries] using ih seen
    | object =>
      have isObject : (b.field.kind == .object) = true := by simp [kind]
      rw [List.filter_cons_of_pos (p := fun b : FieldAt => b.field.kind == .object) isObject,
        List.map_cons]
      by_cases old : b.relationKey ∈ seen
      · have dropped : seen.contains b.relationKey = true := by simpa using old
        rw [List.filter_cons_of_neg (by simp [old])]
        dsimp only
        rw [if_pos dropped]
        apply (ih seen).imp
        rintro name a ⟨unseen, first⟩
        have other : b.relationKey ≠ name := fun same => unseen (same ▸ old)
        exact ⟨unseen, (find?_carries_cons other rest).trans first⟩
      · have kept : ¬ seen.contains b.relationKey = true := by simpa using old
        rw [List.filter_cons_of_pos (by simp [old]), List.eraseDups_cons, List.filter_filter]
        dsimp only
        rw [if_neg kept, List.filterMap_cons_some (f := Link.relation?) rfl]
        have here : (b :: rest).find? (FieldAt.carries b.relationKey) = some b :=
          List.find?_cons_of_pos (by simp [FieldAt.carries, kind])
        apply List.Forall₂.cons ⟨old, here⟩
        -- Further on, the name of this field counts as seen.
        have later := ih (b.relationKey :: seen)
        simp only [List.contains_cons, Bool.not_or] at later
        apply later.imp
        rintro name a ⟨unseen, first⟩
        obtain ⟨other, unseen⟩ := not_or.mp (mt List.mem_cons.mpr unseen)
        exact ⟨unseen, (find?_carries_cons (Ne.symm other) rest).trans first⟩

section Arrows

variable {schema : Schema}

theorem carriers_eq_cons_iff {name : String} {a : FieldAt} :
    (∃ later, carriers schema name = a :: later) ↔
      (fieldsAt schema).find? (FieldAt.carries name) = some a := by
  rw [← List.head?_filter, List.head?_eq_some_iff]
  rfl

theorem mem_carriers_iff {name : String} {a : FieldAt} : a ∈ carriers schema name ↔
    a ∈ fieldsAt schema ∧ a.field.kind = .object ∧ a.relationKey = name := by
  simp [carriers, FieldAt.carries]

theorem filter_relation_map_edge (schema : Schema) (links : List Link) :
    (links.map (Link.edge schema)).filter (·.style == "relation") =
      (links.filterMap Link.relation?).map (relationEdge schema) := by
  induction links with
  | nil => rfl
  | cons link rest ih =>
    cases link with
    | relation a => exact congrArg (List.cons (relationEdge schema a)) ih
    | enumReference a => exact ih

theorem filter_enumReference_map_edge (schema : Schema) (links : List Link) :
    (links.map (Link.edge schema)).filter (·.style == "enum-reference") =
      (links.filterMap Link.enumReference?).map enumEdge := by
  induction links with
  | nil => rfl
  | cons link rest ih =>
    cases link with
    | relation a => exact ih
    | enumReference a => exact congrArg (List.cons (enumEdge a)) ih

/-- Whether an arrow is drawn for a field: it leads from the model of the field to the model that
the field refers to, and tells the name of the relation and its cardinality. -/
structure IsDrawnFor (schema : Schema) (a : FieldAt) (e : Edge) : Prop where
  edge : e = relationEdge schema a
  source : e.source = "model-" ++ a.model.name
  target : e.target = "model-" ++ a.field.type
  relation : e.relation? = some (.optional a.field.relationName,
    s("model-" ++ a.model.name, "model-" ++ a.field.type), .text (a.cardinality schema).label)

theorem isDrawnFor_relationEdge (a : FieldAt) : IsDrawnFor schema a (relationEdge schema a) :=
  ⟨rfl, rfl, rfl, rfl⟩

/-- The arrows of relations are those of the first carriers, name by name. -/
theorem forall₂_relationNames (schema : Schema) : List.Forall₂
    (fun name e => ∃ a later, carriers schema name = a :: later ∧ IsDrawnFor schema a e)
    (relationNames schema) ((graph schema).edges.filter (·.style == "relation")) := by
  have linked := forall₂_linksFrom [] (fieldsAt schema)
  simp only [List.contains_nil, Bool.not_false, List.filter_true] at linked
  rw [graph, filter_relation_map_edge, List.forall₂_map_right_iff]
  refine linked.imp fun name a here => ?_
  obtain ⟨later, first⟩ := carriers_eq_cons_iff.mpr here.2
  exact ⟨a, later, first, isDrawnFor_relationEdge a⟩

end Arrows

/-! ## Declarations without places -/

/-- What the fields of a schema declare, in order. -/
def declarations (schema : Schema) : List Declaration := (fieldsAt schema).map FieldAt.declaration

theorem declarations_eq (schema : Schema) : declarations schema =
    schema.models.flatMap fun m => m.fields.map (Declaration.mk m.name) := by
  have here (m : Model) (i : Nat) :
      (m.fields.zipIdx.map fun place => (⟨i, m, place.2, place.1⟩ : FieldAt)).map
        FieldAt.declaration = m.fields.map (Declaration.mk m.name) := by
    rw [← List.zipIdx_map_fst 0 m.fields, List.map_map, List.map_map, List.zipIdx_map_fst]
    rfl
  rw [declarations, fieldsAt, List.map_flatMap, ← List.zipIdx_map_fst 0 schema.models,
    List.flatMap_map, List.zipIdx_map_fst]
  exact List.flatMap_congr fun place _ => here place.1 place.2

/-- Carrying a relation is a matter of what is declared. -/
theorem map_declaration_carriers (schema : Schema) (name : String) :
    (carriers schema name).map FieldAt.declaration =
      (declarations schema).filter (Declaration.carries name) := by
  rw [declarations, List.filter_map]
  rfl

section Models

variable {models models' : List Model} (same : List.Forall₂ Model.Reordered models models')
include same

theorem perm_declarations_of_forall₂ : (models.flatMap fun m => m.fields.map (.mk m.name)).Perm
    (models'.flatMap fun m => m.fields.map (Declaration.mk m.name)) := by
  induction same with
  | nil => exact List.Perm.refl _
  | cons here _ ih =>
    rw [List.flatMap_cons, List.flatMap_cons, here.name]
    exact (here.fields.map _).append ih

theorem map_name_eq_of_forall₂ : models.map (·.name) = models'.map (·.name) := by
  induction same with
  | nil => rfl
  | cons here _ ih => rw [List.map_cons, List.map_cons, here.name, ih]

end Models

section Reordered

variable {schema schema' : Schema} (same : Reordered schema schema')
include same

theorem Reordered.declarations_perm : (declarations schema).Perm (declarations schema') := by
  obtain ⟨models, perm, fields⟩ := same
  rw [declarations_eq, declarations_eq]
  exact (perm.flatMap_right _).trans (perm_declarations_of_forall₂ fields)

theorem Reordered.names_perm :
    (schema.models.map (·.name)).Perm (schema'.models.map (·.name)) := by
  obtain ⟨models, perm, fields⟩ := same
  rw [← map_name_eq_of_forall₂ fields]
  exact perm.map _

/-- The carriers of a relation are the same in any order. -/
theorem Reordered.carriers_perm (name : String) :
    ((carriers schema name).map FieldAt.declaration).Perm
      ((carriers schema' name).map FieldAt.declaration) := by
  rw [map_declaration_carriers, map_declaration_carriers]
  exact same.declarations_perm.filter _

end Reordered

/-! ## Relations of one side or two -/

namespace Declaration

/-- What an arrow says of a relation of some cardinality if it is drawn for a declaration. -/
def shows (d : Declaration) (cardinality : Cardinality) : Value × Sym2 String × Value :=
  (.optional d.field.relationName, s("model-" ++ d.model, "model-" ++ d.field.type),
    .text cardinality.label)

variable {d d' : Declaration} (both : d.Reciprocal d')
include both

/-- The same is said of a relation from either side. -/
theorem Reciprocal.shows_eq (cardinality : Cardinality) :
    d.shows cardinality = d'.shows cardinality := by
  obtain ⟨name, model, type⟩ := both
  rw [shows, shows, name, model, type, Sym2.eq_swap]

theorem Reciprocal.relationKey_eq : d'.relationKey = d.relationKey := by
  obtain ⟨name, model, type⟩ := both
  have pair := ordered_eq_iff.mpr (.inr ⟨model, type⟩)
  rw [relationKey, relationKey, FieldAt.relationKey, FieldAt.relationKey]
  dsimp only
  rw [name, pair]

end Declaration

section Sides

variable {sides sides' : List Declaration}

theorem OneOrReciprocal.perm (pairs : OneOrReciprocal sides) (same : sides.Perm sides') :
    OneOrReciprocal sides' :=
  ⟨same.length_eq ▸ pairs.1, pairs.2.perm same fun both => both.symm⟩

/-- The same is said of a relation whichever of its declarations an arrow is drawn for. -/
theorem OneOrReciprocal.shows_eq (pairs : OneOrReciprocal sides) {d d' : Declaration}
    (member : d ∈ sides) (member' : d' ∈ sides) (cardinality : Cardinality) :
    d.shows cardinality = d'.shows cardinality := by
  rcases eq_or_ne d d' with rfl | differ
  · rfl
  · exact (pairs.2.forall member member' differ).shows_eq cardinality

end Sides

theorem ofSides_eq : ∀ here there : Bool,
    Cardinality.ofSides here there = sidesCardinality [here, there] := by
  decide

/-- A side that is missing counts as no list. -/
theorem ofSides_false_eq : ∀ here : Bool,
    Cardinality.ofSides here false = sidesCardinality [here] := by
  decide

theorem sidesCardinality_eq_of_perm {lists lists' : List Bool} (same : lists.Perm lists') :
    sidesCardinality lists = sidesCardinality lists' := by
  rw [sidesCardinality, sidesCardinality, same.all_eq, same.any_eq, same.length_eq]

section Cardinality

variable {schema : Schema} {a : FieldAt}

/-- A relation is carried back by another field that declares it from the other side. -/
theorem carriesBack_iff_reciprocal (member : a ∈ fieldsAt schema) {c : FieldAt}
    (member' : c ∈ fieldsAt schema) (model : c.model.name = a.field.type) :
    carriesBack a c.modelIndex (c.field, c.fieldIndex) = true ↔
      c ≠ a ∧ c.field.kind = .object ∧ a.declaration.Reciprocal c.declaration := by
  have place : c = a ↔ c.modelIndex = a.modelIndex ∧ c.fieldIndex = a.fieldIndex :=
    ⟨fun equal => equal ▸ ⟨rfl, rfl⟩, fun both => eq_of_place_eq member' member both.1 both.2⟩
  simp only [carriesBack, Bool.and_eq_true, Bool.not_eq_true', beq_iff_eq, ne_eq, place,
    Declaration.Reciprocal, FieldAt.declaration, model, true_and, Bool.and_eq_false_iff,
    beq_eq_false_iff_ne, not_and_or]
  tauto

/-- So such a field carries the same relation. -/
theorem mem_carriers_of_carriesBack (member : a ∈ fieldsAt schema) {c : FieldAt}
    (member' : c ∈ fieldsAt schema) (model : c.model.name = a.field.type)
    (back : carriesBack a c.modelIndex (c.field, c.fieldIndex) = true) :
    c ≠ a ∧ c ∈ carriers schema a.relationKey := by
  obtain ⟨other, object, both⟩ := (carriesBack_iff_reciprocal member member' model).mp back
  exact ⟨other, mem_carriers_iff.mpr ⟨member', object, both.relationKey_eq⟩⟩

/-- No other field carries back a relation that one field carries alone. -/
theorem reverseField?_eq_none_of_carriers (alone : carriers schema a.relationKey = [a]) :
    reverseField? schema a = none := by
  have member := (mem_carriers_iff.mp (alone ▸ List.mem_singleton_self a)).1
  apply reverseField?_eq_none
  intro c member' model back
  obtain ⟨other, isCarrier⟩ := mem_carriers_of_carriesBack member member' model back
  rw [alone, List.mem_singleton] at isCarrier
  exact other isCarrier

/-- A relation that two fields carry is carried back by the second of them. -/
theorem reverseField?_eq_some_of_carriers {b : FieldAt}
    (names : (schema.models.map (·.name)).Nodup)
    (pair : carriers schema a.relationKey = [a, b])
    (both : a.declaration.Reciprocal b.declaration) :
    reverseField? schema a = some b.field := by
  have distinct : [a, b].Nodup := pair ▸ (nodup_fieldsAt schema).filter _
  have second : b ≠ a := by
    rintro rfl
    simp at distinct
  obtain ⟨member, -, -⟩ := mem_carriers_iff.mp (pair ▸ List.mem_cons_self)
  obtain ⟨member', object, -⟩ := mem_carriers_iff.mp
    (pair ▸ List.mem_cons_of_mem a (List.mem_singleton_self b))
  apply reverseField?_eq_some names member' both.2.1
  intro c isMember model
  constructor
  · intro back
    obtain ⟨other, isCarrier⟩ := mem_carriers_of_carriesBack member isMember model back
    rw [pair, List.mem_cons, List.mem_singleton] at isCarrier
    exact isCarrier.resolve_left other
  · rintro rfl
    exact (carriesBack_iff_reciprocal member isMember model).mpr ⟨second, object, both⟩

/-- The cardinality of a relation that one field carries, or two that refer to each other's models,
is what all carriers say together. -/
theorem cardinality_eq_sidesCardinality (names : (schema.models.map (·.name)).Nodup)
    {later : List FieldAt} (first : carriers schema a.relationKey = a :: later)
    (pairs : OneOrReciprocal ((carriers schema a.relationKey).map FieldAt.declaration)) :
    a.cardinality schema =
      sidesCardinality ((carriers schema a.relationKey).map (·.field.isList)) := by
  rw [FieldAt.cardinality, first]
  rw [first] at pairs
  cases later with
  | nil =>
    rw [reverseField?_eq_none_of_carriers first]
    exact ofSides_false_eq a.field.isList
  | cons b rest =>
    cases rest with
    | nil =>
      have both : a.declaration.Reciprocal b.declaration := by simpa using pairs.2
      rw [reverseField?_eq_some_of_carriers names first both]
      exact ofSides_eq a.field.isList b.field.isList
    | cons c rest =>
      have few := pairs.1
      simp at few

end Cardinality

/-! ## The relations of a graph in any order -/

theorem mem_relationSet_graph {schema : Schema} {r : Value × Sym2 String × Value} :
    r ∈ (graph schema).relationSet ↔ ∃ a later, carriers schema a.relationKey = a :: later ∧
      a.declaration.shows (a.cardinality schema) = r := by
  constructor
  · rintro ⟨e, member, shown⟩
    obtain ⟨link, linked, rfl⟩ := List.mem_map.mp member
    cases link with
    | relation a =>
      obtain ⟨later, first⟩ := carriers_eq_cons_iff.mpr (relation_mem_links_iff.mp linked)
      exact ⟨a, later, first, Option.some.inj shown⟩
    | enumReference a => exact absurd (show (none : Option _) = some r from shown) nofun
  · rintro ⟨a, later, first, rfl⟩
    have linked := relation_mem_links_iff.mpr (carriers_eq_cons_iff.mp ⟨later, first⟩)
    exact ⟨_, List.mem_map_of_mem linked, rfl⟩

section Unambiguous

variable {schema schema' : Schema}

theorem mem_relationNames_iff {name : String} :
    name ∈ relationNames schema ↔ carriers schema name ≠ [] := by
  rw [relationNames, List.mem_eraseDups, carriers, ne_eq, List.filter_eq_nil_iff]
  simp [FieldAt.carries, and_assoc]

/-- A name that no field carries leaves nothing to say. -/
theorem Unambiguous.oneOrReciprocal (clear : Unambiguous schema) (name : String) :
    OneOrReciprocal ((carriers schema name).map FieldAt.declaration) := by
  by_cases none : carriers schema name = []
  · rw [none]
    exact ⟨Nat.zero_le _, List.Pairwise.nil⟩
  · exact clear.carried name (mem_relationNames_iff.mpr none)

theorem Unambiguous.reordered (clear : Unambiguous schema) (same : Reordered schema schema') :
    Unambiguous schema' where
  names := same.names_perm.nodup_iff.mp clear.names
  carried name _ := (clear.oneOrReciprocal name).perm (same.carriers_perm name)

/-- Each relation of a schema is shown by any other one whose fields declare the same. -/
theorem Unambiguous.relationSet_subset (clear : Unambiguous schema) (clear' : Unambiguous schema')
    (same : ∀ name, ((carriers schema name).map FieldAt.declaration).Perm
      ((carriers schema' name).map FieldAt.declaration)) :
    (graph schema).relationSet ⊆ (graph schema').relationSet := by
  intro r shown
  obtain ⟨a, later, first, rfl⟩ := mem_relationSet_graph.mp shown
  have sides := same a.relationKey
  obtain ⟨a', later', first'⟩ : ∃ a' later', carriers schema' a.relationKey = a' :: later' := by
    refine List.exists_cons_of_ne_nil fun none => ?_
    simpa [first, none] using sides.length_eq
  obtain ⟨-, -, key⟩ := mem_carriers_iff.mp (first' ▸ List.mem_cons_self)
  have pairs := clear.oneOrReciprocal a.relationKey
  have cardinality : a.cardinality schema = a'.cardinality schema' := by
    have lists := sides.map (·.field.isList)
    rw [List.map_map, List.map_map] at lists
    rw [cardinality_eq_sidesCardinality clear.names first pairs,
      cardinality_eq_sidesCardinality clear'.names (key ▸ first') (clear'.oneOrReciprocal _), key]
    exact sidesCardinality_eq_of_perm lists
  have isSide : a.declaration ∈ (carriers schema a.relationKey).map FieldAt.declaration :=
    List.mem_map_of_mem (first ▸ List.mem_cons_self)
  have isSide' : a'.declaration ∈ (carriers schema a.relationKey).map FieldAt.declaration :=
    sides.mem_iff.mpr (List.mem_map_of_mem (first' ▸ List.mem_cons_self))
  refine mem_relationSet_graph.mpr ⟨a', later', key ▸ first', ?_⟩
  rw [← cardinality]
  exact (pairs.shows_eq isSide isSide' _).symm

/-- The relations of a schema are the same in any order. -/
theorem Unambiguous.relationSet_eq (clear : Unambiguous schema)
    (same : Reordered schema schema') :
    (graph schema).relationSet = (graph schema').relationSet := by
  have clear' := clear.reordered same
  apply Set.Subset.antisymm
  · exact clear.relationSet_subset clear' same.carriers_perm
  · exact clear'.relationSet_subset clear fun name => (same.carriers_perm name).symm

end Unambiguous

/-- A schema graph has one arrow for each name of a relation, drawn for the first field that carries
the name, and one for each field that takes the values of an enum, and no others. If each name is
carried by one field, or by two that refer to each other's models, the relations that it shows do
not depend on the order of the models and of their fields. -/
theorem relations_by_name (schema : Schema) :
    (∀ a ∈ fieldsAt schema, ∀ name ≠ "", a.field.relationName = some name →
      a.relationKey = name) ∧
    List.Forall₂
      (fun name e => ∃ a later, carriers schema name = a :: later ∧ IsDrawnFor schema a e)
      (relationNames schema) ((graph schema).edges.filter (·.style == "relation")) ∧
    (graph schema).edges.filter (·.style == "enum-reference") =
      ((fieldsAt schema).filter (·.field.kind == .enum)).map enumEdge ∧
    (∀ e ∈ (graph schema).edges, e.style = "relation" ∨ e.style = "enum-reference") ∧
    (Unambiguous schema → ∀ schema', Reordered schema schema' →
      (graph schema).relationSet = (graph schema').relationSet) := by
  refine ⟨fun a _ name filled named => a.relationKey_eq named filled,
    forall₂_relationNames schema, ?_, ?_, fun clear _ same => clear.relationSet_eq same⟩
  · rw [graph, filter_enumReference_map_edge, links, filterMap_enumReference?_linksFrom]
  · intro e member
    obtain ⟨link, -, rfl⟩ := List.mem_map.mp member
    cases link with
    | relation a => exact .inl rfl
    | enumReference a => exact .inr rfl

/-! ## A schema the other way round -/

/-- A schema with its models, and the fields of each, the other way round. -/
def reversed (schema : Schema) : Schema :=
  { schema with
    models := schema.models.reverse.map fun m => { m with fields := m.fields.reverse } }

theorem reordered_reversed (schema : Schema) : Reordered schema (reversed schema) := by
  refine ⟨schema.models.reverse, schema.models.reverse_perm.symm, ?_⟩
  refine List.forall₂_map_right_iff.mpr (List.forall₂_same.mpr fun m _ => ?_)
  exact ⟨rfl, m.fields.reverse_perm.symm⟩

/-- A schema with a relation of a model to itself, one that is declared on both sides, and one that
is declared on one side only. -/
def companyText : String :=
  modelText "Employee" ["manager Employee?", "reports Employee[]", "team Team"] ++
    modelText "Team" ["members Employee[]"] ++ modelText "Log" ["author Employee"]

theorem relations_by_name_company :
    (Unambiguous (ofText companyText) ∧
      relationNames (ofText companyText) =
        ["EmployeeToEmployee", "EmployeeToTeam", "EmployeeToLog"]) ∧
    Reordered (ofText companyText) (reversed (ofText companyText)) ∧
    (graph (ofText companyText)).relationSet =
      (graph (reversed (ofText companyText))).relationSet ∧
    (graph (reversed (ofText companyText))).relationSet = {
      (.text "EmployeeToEmployee", s("model-Employee", "model-Employee"), .text "one-to-many"),
      (.text "EmployeeToTeam", s("model-Employee", "model-Team"), .text "one-to-many"),
      (.text "EmployeeToLog", s("model-Log", "model-Employee"), .text "one-to-one")} := by
  have facts : Unambiguous (ofText companyText) ∧
      relationNames (ofText companyText) =
        ["EmployeeToEmployee", "EmployeeToTeam", "EmployeeToLog"] := by
    decide +kernel
  have same := reordered_reversed (ofText companyText)
  obtain ⟨-, -, -, -, anyOrder⟩ := relations_by_name (ofText companyText)
  have shown : (graph (ofText companyText)).edges.filterMap Edge.relation? = [
      (.text "EmployeeToEmployee", s("model-Employee", "model-Employee"), .text "one-to-many"),
      (.text "EmployeeToTeam", s("model-Employee", "model-Team"), .text "one-to-many"),
      (.text "EmployeeToLog", s("model-Log", "model-Employee"), .text "one-to-one")] := by
    set_option maxRecDepth 2000 in rfl
  have kept := anyOrder facts.1 _ same
  refine ⟨facts, same, kept, kept.symm.trans (Set.ext fun r => ?_)⟩
  rw [Graph.mem_relationSet_iff, shown]
  simp only [List.mem_cons, List.not_mem_nil, or_false, Set.mem_insert_iff,
    Set.mem_singleton_iff]

end Schema

end SiteAtlas
