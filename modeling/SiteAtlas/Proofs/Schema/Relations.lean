import SiteAtlas.Schema.GraphStatistics
import SiteAtlas.Proofs.Schema.FieldKinds
import Mathlib.Data.List.Find
import Mathlib.Data.String.Basic

/-! # The relations that a schema graph shows

A relation is recognised by its name alone and drawn for the first field that carries the name, as
an arrow between the two models which that field connects. Fields that carry the name later on are
passed over, whatever models they connect.
-/

namespace SiteAtlas

namespace Schema

/-! ## First fields -/

/-- A relation is linked exactly if its field is the first one that carries its key. -/
theorem relation_mem_linksFrom_iff {seen : List String} {fields : List FieldAt} {a : FieldAt} :
    .relation a ∈ linksFrom seen fields ↔ a.relationKey ∉ seen ∧
      fields.find? (fun b => b.field.kind == .object && b.relationKey == a.relationKey) =
        some a := by
  induction fields generalizing seen with
  | nil => simp [linksFrom]
  | cons b rest ih =>
    cases kind : b.field.kind with
    | scalar => simp [linksFrom, kind, ih]
    | enum => simp [linksFrom, kind, ih]
    | object =>
      by_cases same : b.relationKey = a.relationKey
      · by_cases old : a.relationKey ∈ seen
        · simp [linksFrom, kind, same, old, ih]
        · simp [linksFrom, kind, same, old, ih, eq_comm]
      · by_cases old : b.relationKey ∈ seen
        · simp [linksFrom, kind, same, old, ih]
        · have differ : a ≠ b := fun equal => same (equal ▸ rfl)
          simp [linksFrom, kind, same, Ne.symm same, old, ih, differ]

theorem relation_mem_links_iff {schema : Schema} {a : FieldAt} :
    .relation a ∈ links schema ↔ (fieldsAt schema).find?
      (fun b => b.field.kind == .object && b.relationKey == a.relationKey) = some a := by
  rw [links, relation_mem_linksFrom_iff]
  simp

/-! ## Fields and their links -/

/-- The field that a link is drawn for. -/
def Link.field : Link → FieldAt
  | .relation a => a
  | .enumReference a => a

/-- The field that takes the values of an enum, if a link is drawn for one. -/
def Link.enumReference? : Link → Option FieldAt
  | .relation _ => none
  | .enumReference a => some a

section LinksFrom

variable (seen : List String) (fields : List FieldAt)

/-- No field has two links, and the links keep the order of the fields. -/
theorem map_field_linksFrom_sublist : ((linksFrom seen fields).map Link.field).Sublist fields := by
  induction fields generalizing seen with
  | nil => exact List.Sublist.refl _
  | cons a rest ih =>
    rw [linksFrom]
    cases a.field.kind with
    | scalar => exact (ih seen).cons a
    | enum => exact (ih seen).cons_cons a
    | object =>
      dsimp only
      split_ifs
      · exact (ih seen).cons a
      · exact (ih _).cons_cons a

/-- Every field that takes the values of an enum is linked, whatever stands in front of it. -/
theorem filterMap_enumReference?_linksFrom : (linksFrom seen fields).filterMap
    Link.enumReference? = fields.filter (·.field.kind == .enum) := by
  induction fields generalizing seen with
  | nil => rfl
  | cons a rest ih =>
    rw [linksFrom]
    cases kind : a.field.kind with
    | scalar =>
      rw [List.filter_cons_of_neg (by simp [kind])]
      exact ih seen
    | enum =>
      rw [List.filter_cons_of_pos (by simp [kind])]
      exact congrArg (List.cons a) (ih seen)
    | object =>
      rw [List.filter_cons_of_neg (by simp [kind])]
      dsimp only
      split_ifs
      · exact ih seen
      · exact ih _

end LinksFrom

section Places

variable {schema : Schema}

theorem enumReference_mem_links_iff {a : FieldAt} :
    .enumReference a ∈ links schema ↔ a ∈ fieldsAt schema ∧ a.field.kind = .enum := by
  have member : .enumReference a ∈ links schema ↔
      a ∈ (links schema).filterMap Link.enumReference? := by
    rw [List.mem_filterMap]
    constructor
    · exact fun linked => ⟨_, linked, rfl⟩
    · rintro ⟨_ | _, linked, same⟩
      · cases same
      · exact Option.some.inj same ▸ linked
  rw [member, links, filterMap_enumReference?_linksFrom, List.mem_filter, beq_iff_eq]

theorem mem_of_mem_fieldsAt {a : FieldAt} (member : a ∈ fieldsAt schema) :
    a.model ∈ schema.models ∧ a.field ∈ a.model.fields := by
  obtain ⟨⟨m, i⟩, isModel, member⟩ := List.mem_flatMap.mp member
  obtain ⟨⟨f, j⟩, isField, rfl⟩ := List.mem_map.mp member
  exact ⟨List.fst_mem_of_mem_zipIdx isModel, List.fst_mem_of_mem_zipIdx isField⟩

theorem exists_mem_fieldsAt {m : Model} (isModel : m ∈ schema.models) {f : Field}
    (isField : f ∈ m.fields) : ∃ a ∈ fieldsAt schema, a.model = m ∧ a.field = f := by
  obtain ⟨i, at_i⟩ := List.mem_iff_getElem?.mp isModel
  obtain ⟨j, at_j⟩ := List.mem_iff_getElem?.mp isField
  refine ⟨⟨i, m, j, f⟩,
    List.mem_flatMap.mpr ⟨(m, i), ?_, List.mem_map.mpr ⟨(f, j), ?_, rfl⟩⟩, rfl, rfl⟩
  · exact List.mem_zipIdx_iff_getElem?.mpr at_i
  · exact List.mem_zipIdx_iff_getElem?.mpr at_j

end Places

/-- Whether a field connects two models: it is a field of one of them and has the other as its
type. -/
def FieldAt.Joins (a : FieldAt) (one other : String) : Prop :=
  a.model.name = one ∧ a.field.type = other ∨ a.model.name = other ∧ a.field.type = one

instance (a : FieldAt) (one other : String) : Decidable (a.Joins one other) :=
  inferInstanceAs (Decidable (_ ∨ _))

/-- The first field, in the order of the schema, that carries the name of a relation. -/
def firstCarrier? (schema : Schema) (name : String) : Option FieldAt :=
  (fieldsAt schema).find? fun a => a.field.kind == .object && a.field.relationName == some name

end Schema

/-- Whether the arrow of a relation leads from one of two models to the other. -/
def Graph.Relates {α : Type} (g : Graph α) (one other : String) : Prop :=
  ∃ e ∈ g.edges, e.style = "relation" ∧
    (e.source = "model-" ++ one ∧ e.target = "model-" ++ other ∨
      e.source = "model-" ++ other ∧ e.target = "model-" ++ one)

instance {α : Type} (g : Graph α) (one other : String) : Decidable (g.Relates one other) :=
  inferInstanceAs (Decidable (∃ e ∈ g.edges, _))

namespace Schema

/-- The arrow of a relation has the models of its field at its ends. -/
theorem relates_graph_iff {schema : Schema} {one other : String} :
    (graph schema).Relates one other ↔
      ∃ a, .relation a ∈ links schema ∧ a.Joins one other := by
  constructor
  · rintro ⟨e, member, style, ends⟩
    obtain ⟨link, linked, rfl⟩ := List.mem_map.mp member
    cases link with
    | relation a =>
      refine ⟨a, linked, ?_⟩
      simpa only [Link.edge, relationEdge, FieldAt.Joins, String.append_right_inj] using ends
    | enumReference a => exact absurd (show "enum-reference" = "relation" from style) (by decide)
  · rintro ⟨a, linked, joins⟩
    refine ⟨_, List.mem_map_of_mem linked, rfl, ?_⟩
    simpa only [Link.edge, relationEdge, FieldAt.Joins, String.append_right_inj] using joins

section Text

variable {text : String}

/-- In a schema that was read from a text, a relation is recognised by its name. -/
theorem relationName_eq {a : FieldAt} (member : a ∈ fieldsAt (ofText text))
    (object : a.field.kind = .object) : a.field.relationName = some a.relationKey := by
  obtain ⟨isModel, isField⟩ := mem_of_mem_fieldsAt member
  obtain ⟨name, filled, named⟩ := (mem_fields_ofText isModel isField).2 object
  simp [FieldAt.relationKey, named, filled]

theorem firstCarrier?_eq (text name : String) : firstCarrier? (ofText text) name =
    (fieldsAt (ofText text)).find? fun a =>
      a.field.kind == .object && a.relationKey == name := by
  refine List.find?_congr fun a member => ?_
  by_cases object : a.field.kind = .object
  · rw [relationName_eq member object, Option.some_beq_some]
  · rw [beq_false_of_ne object, Bool.false_and, Bool.false_and]

/-- The relations of a text are linked by the first fields that carry their names. -/
theorem relation_mem_links_ofText_iff {a : FieldAt} :
    .relation a ∈ links (ofText text) ↔ ∃ name, firstCarrier? (ofText text) name = some a := by
  rw [relation_mem_links_iff]
  constructor
  · intro first
    exact ⟨a.relationKey, (firstCarrier?_eq text _).trans first⟩
  · rintro ⟨name, first⟩
    rw [firstCarrier?_eq] at first
    obtain ⟨-, same⟩ : a.field.kind = .object ∧ a.relationKey = name := by
      simpa using List.find?_some first
    rwa [same]

/-- Two models are related in the graph of a text exactly if some relation name is first carried by
a field that connects them. So no relation between models is lost as long as fields that carry one
name connect the same models. -/
theorem relates_iff_firstCarrier? (text : String) :
    (∀ one other, (graph (ofText text)).Relates one other ↔
      ∃ name a, firstCarrier? (ofText text) name = some a ∧ a.Joins one other) ∧
    ((∀ a ∈ fieldsAt (ofText text), a.field.kind = .object →
        ∀ b ∈ fieldsAt (ofText text), b.field.kind = .object →
          a.field.relationName = b.field.relationName → b.Joins a.model.name a.field.type) →
      ∀ m ∈ (ofText text).models, ∀ f ∈ m.fields, f.kind = .object →
        (graph (ofText text)).Relates m.name f.type) := by
  have shown (one other : String) : (graph (ofText text)).Relates one other ↔
      ∃ name a, firstCarrier? (ofText text) name = some a ∧ a.Joins one other := by
    simp only [relates_graph_iff, relation_mem_links_ofText_iff]
    exact ⟨fun ⟨a, ⟨name, first⟩, joins⟩ => ⟨name, a, first, joins⟩,
      fun ⟨name, a, first, joins⟩ => ⟨a, ⟨name, first⟩, joins⟩⟩
  refine ⟨shown, fun agree m isModel f isField object => (shown _ _).mpr ?_⟩
  obtain ⟨a, member, rfl, rfl⟩ := exists_mem_fieldsAt isModel isField
  have named := relationName_eq member object
  have carried : (firstCarrier? (ofText text) a.relationKey).isSome :=
    List.find?_isSome.mpr ⟨a, member, by simp [object, named]⟩
  obtain ⟨b, first⟩ := Option.isSome_iff_exists.mp carried
  obtain ⟨isRelation, same⟩ :
      b.field.kind = .object ∧ b.field.relationName = some a.relationKey := by
    simpa using List.find?_some first
  exact ⟨_, b, first, agree a member object b (List.mem_of_find?_eq_some first) isRelation
    (named.trans same.symm)⟩

/-! ## Schemas with and without a loss -/

/-- The text of a model. -/
def modelText (name : String) (lines : List String) : String :=
  "model " ++ name ++ " \x7b\n" ++ "\n".intercalate lines ++ "\n\x7d\n"

/-- A schema of two models that refer to each other. -/
def blogText : String := modelText "User" ["posts Post[]"] ++ modelText "Post" ["author User"]

/-- A schema without relation names, in which two pairs of models have the same implied name. -/
def doubledText : String :=
  modelText "A" ["b BToC"] ++ modelText "BToC" ["id Int"] ++ modelText "AToB" ["c C"] ++
    modelText "C" ["id Int"]

/-- The two fields of the blog carry one name and connect the same models. -/
theorem relates_in_blogText :
    (∀ a ∈ fieldsAt (ofText blogText), a.field.kind = .object →
      ∀ b ∈ fieldsAt (ofText blogText), b.field.kind = .object →
        a.field.relationName = b.field.relationName → b.Joins a.model.name a.field.type) ∧
    (graph (ofText blogText)).Relates "Post" "User" := by
  have agree : ∀ a ∈ fieldsAt (ofText blogText), a.field.kind = .object →
      ∀ b ∈ fieldsAt (ofText blogText), b.field.kind = .object →
        a.field.relationName = b.field.relationName → b.Joins a.model.name a.field.type := by
    decide +kernel
  have author : ∃ m ∈ (ofText blogText).models, ∃ f ∈ m.fields,
      f.kind = .object ∧ m.name = "Post" ∧ f.type = "User" := by decide +kernel
  obtain ⟨m, isModel, f, isField, object, name, type⟩ := author
  have shown := (relates_iff_firstCarrier? blogText).2 agree m isModel f isField object
  rw [name, type] at shown
  exact ⟨agree, shown⟩

/-- A relation is lost to one between other models that has the same implied name. -/
theorem relation_lost_in_doubledText :
    ((ofText doubledText).models.map (·.name)).Nodup ∧
    ∃ m ∈ (ofText doubledText).models, ∃ f ∈ m.fields, f.kind = .object ∧
      ¬ (graph (ofText doubledText)).Relates m.name f.type := by
  decide +kernel

end Text

end Schema

end SiteAtlas
