import SiteAtlas.Proofs.Schema.Cardinalities

/-! # The labels of a schema graph

A box has a label of its kind and the name of what it shows, an arrow one of its kind and the names
of the model, the field and the type that it is drawn for, with dashes in between. The names of
models and fields are words, which hold no dash, so that a label can be taken apart again. And what
a field holds is settled by the names that the boxes show, so that its arrow leads to one of them.
-/

namespace SiteAtlas

/-- A graph in which every label stands for one thing and every arrow leads from a box to a box. -/
structure Graph.WellLabelled {α : Type} (g : Graph α) : Prop where
  /-- No two boxes have one label. -/
  nodes : (g.nodes.map (·.id)).Nodup
  /-- No two arrows have one label. -/
  edges : (g.edges.map (·.id)).Nodup
  /-- The ends of an arrow are labels of boxes. -/
  closed : ∀ e ∈ g.edges, e.source ∈ g.nodes.map (·.id) ∧ e.target ∈ g.nodes.map (·.id)

namespace Schema

open Text

/-! ## Boxes -/

section Boxes

variable {schema : Schema}

/-- The boxes are labelled by the names of the models and of the enums. -/
theorem map_id_nodes_graph (schema : Schema) : (graph schema).nodes.map (·.id) =
    (schema.models.map (·.name)).map ("model-" ++ ·) ++
      (schema.enums.map (·.name)).map ("enum-" ++ ·) := by
  rw [graph, List.map_append, List.map_map, List.map_map, List.map_map, List.map_map]
  rfl

theorem model_mem_nodes {name : String} (isModel : name ∈ schema.models.map (·.name)) :
    "model-" ++ name ∈ (graph schema).nodes.map (·.id) := by
  rw [map_id_nodes_graph]
  exact List.mem_append_left _ (List.mem_map_of_mem isModel)

theorem enum_mem_nodes {name : String} (isEnum : name ∈ schema.enums.map (·.name)) :
    "enum-" ++ name ∈ (graph schema).nodes.map (·.id) := by
  rw [map_id_nodes_graph]
  exact List.mem_append_right _ (List.mem_map_of_mem isEnum)

/-- A model and an enum of one name have labels of different kinds. -/
theorem nodup_nodes_graph (models : (schema.models.map (·.name)).Nodup)
    (enums : (schema.enums.map (·.name)).Nodup) : ((graph schema).nodes.map (·.id)).Nodup := by
  rw [map_id_nodes_graph]
  refine List.Nodup.append ?_ ?_ ?_
  · exact models.map fun _ _ same => (String.append_right_inj _).mp same
  · exact enums.map fun _ _ same => (String.append_right_inj _).mp same
  · intro label isModel isEnum
    obtain ⟨model, -, rfl⟩ := List.mem_map.mp isModel
    obtain ⟨enum, -, same⟩ := List.mem_map.mp isEnum
    have chars := congrArg String.toList same
    simp at chars

end Boxes

/-! ## Arrows -/

/-- What the label of an arrow begins with. -/
def Link.kindMark : Link → String
  | .relation _ => "relation-"
  | .enumReference _ => "enum-ref-"

theorem Link.id_edge (schema : Schema) (l : Link) : (l.edge schema).id =
    l.kindMark ++ l.field.model.name ++ "-" ++ l.field.field.name ++ "-" ++
      l.field.field.type := by
  cases l <;> rfl

theorem Link.toList_id_edge (schema : Schema) (l : Link) : (l.edge schema).id.toList =
    l.kindMark.toList ++ (l.field.model.name.toList ++
      '-' :: (l.field.field.name.toList ++ '-' :: l.field.field.type.toList)) := by
  rw [id_edge]
  simp

/-- The label of an arrow tells the kind of the arrow from the names behind that. -/
theorem Link.kindMark_append_inj {l l' : Link} {names names' : List Char}
    (same : l.kindMark.toList ++ names = l'.kindMark.toList ++ names') : names = names' := by
  cases l with
  | relation a =>
    cases l' with
    | relation b => exact List.append_cancel_left same
    | enumReference b => simp [kindMark] at same
  | enumReference a =>
    cases l' with
    | relation b => simp [kindMark] at same
    | enumReference b => exact List.append_cancel_left same

/-- The label of an arrow tells the model and the field it is drawn for, if their names hold no
dash. -/
theorem Link.names_eq_of_id_edge_eq {schema : Schema} {l l' : Link}
    (model : '-' ∉ l.field.model.name.toList) (field : '-' ∉ l.field.field.name.toList)
    (model' : '-' ∉ l'.field.model.name.toList) (field' : '-' ∉ l'.field.field.name.toList)
    (same : (l.edge schema).id = (l'.edge schema).id) :
    l.field.model.name = l'.field.model.name ∧ l.field.field.name = l'.field.field.name := by
  have chars := congrArg String.toList same
  rw [toList_id_edge, toList_id_edge] at chars
  obtain ⟨models, rest⟩ := (append_cons_inj_of_front model model').mp (kindMark_append_inj chars)
  obtain ⟨fields, -⟩ := (append_cons_inj_of_front field field').mp rest
  exact ⟨String.toList_inj.mp models, String.toList_inj.mp fields⟩

section Arrows

variable {schema : Schema}

theorem field_mem_fieldsAt {l : Link} (linked : l ∈ links schema) : l.field ∈ fieldsAt schema :=
  (map_field_linksFrom_sublist [] (fieldsAt schema)).subset (List.mem_map_of_mem linked)

/-- A field of a schema is told by its name and that of its model, where these are distinct. -/
theorem eq_of_names_eq (models : (schema.models.map (·.name)).Nodup)
    (fields : ∀ m ∈ schema.models, (m.fields.map (·.name)).Nodup) {a b : FieldAt}
    (member : a ∈ fieldsAt schema) (member' : b ∈ fieldsAt schema)
    (model : a.model.name = b.model.name) (field : a.field.name = b.field.name) : a = b := by
  obtain ⟨isModel, isField⟩ := mem_fieldsAt_iff.mp member
  obtain ⟨isModel', isField'⟩ := mem_fieldsAt_iff.mp member'
  have index := index_eq_of_nodup_map models isModel isModel' model
  have sameModel : a.model = b.model :=
    Option.some.inj (isModel.symm.trans (index ▸ isModel'))
  rw [← sameModel] at isField'
  have distinct := fields a.model (mem_of_mem_fieldsAt member).1
  exact eq_of_place_eq member member' index (index_eq_of_nodup_map distinct isField isField' field)

/-- No two arrows have one label, if names are distinct and hold no dash. -/
theorem nodup_edges_graph (models : (schema.models.map (·.name)).Nodup)
    (fields : ∀ m ∈ schema.models, (m.fields.map (·.name)).Nodup)
    (words : ∀ m ∈ schema.models, m.NamedByWords) :
    ((graph schema).edges.map (·.id)).Nodup := by
  have apart : ((links schema).map Link.field).Nodup :=
    (map_field_linksFrom_sublist [] (fieldsAt schema)).nodup (nodup_fieldsAt schema)
  rw [graph, List.map_map]
  refine List.pairwise_map.mpr ((List.pairwise_map.mp apart).imp_of_mem ?_)
  intro l l' linked linked' differ same
  have member := field_mem_fieldsAt linked
  have member' := field_mem_fieldsAt linked'
  obtain ⟨isModel, isField⟩ := mem_of_mem_fieldsAt member
  obtain ⟨isModel', isField'⟩ := mem_of_mem_fieldsAt member'
  have named := words _ isModel
  have named' := words _ isModel'
  obtain ⟨model, field⟩ := Link.names_eq_of_id_edge_eq named.dash_notMem_name
    (named.dash_notMem_fieldName isField) named'.dash_notMem_name
    (named'.dash_notMem_fieldName isField') same
  exact differ (eq_of_names_eq models fields member member' model field)

end Arrows

/-! ## Graphs of texts -/

section OfText

variable {text : String}

theorem model_mem_nodes_ofText {a : FieldAt} (member : a ∈ fieldsAt (ofText text)) :
    "model-" ++ a.model.name ∈ (graph (ofText text)).nodes.map (·.id) :=
  model_mem_nodes (List.mem_map_of_mem (mem_of_mem_fieldsAt member).1)

/-- A field refers to a model or an enum of the schema, and there is a box of that name. -/
theorem closed_graph_ofText (text : String) : ∀ e ∈ (graph (ofText text)).edges,
    e.source ∈ (graph (ofText text)).nodes.map (·.id) ∧
      e.target ∈ (graph (ofText text)).nodes.map (·.id) := by
  intro e member
  obtain ⟨link, linked, rfl⟩ := List.mem_map.mp member
  cases link with
  | relation a =>
    obtain ⟨isPlace, object⟩ := mem_fieldsAt_of_mem_relations (mem_relations_iff.mpr linked)
    obtain ⟨isModel, isField⟩ := mem_of_mem_fieldsAt isPlace
    have refers := (mem_fields_ofText isModel isField).1.mp object
    exact ⟨model_mem_nodes_ofText isPlace, model_mem_nodes refers⟩
  | enumReference a =>
    obtain ⟨isPlace, enum⟩ := enumReference_mem_links_iff.mp linked
    obtain ⟨isModel, isField⟩ := mem_of_mem_fieldsAt isPlace
    have refers : a.field.type ∈ (ofText text).enums.map (·.name) := by
      rw [kind_of_mem_ofText isModel isField] at enum
      split_ifs at enum with _ isEnum
      exact isEnum
    exact ⟨model_mem_nodes_ofText isPlace, enum_mem_nodes refers⟩

/-- The graph of a text with distinct names has a label for each box and arrow, and its arrows lead
from box to box, also where a model and an enum have one name. -/
theorem graph_wellLabelled (text : String)
    (models : ((ofText text).models.map (·.name)).Nodup)
    (enums : ((ofText text).enums.map (·.name)).Nodup)
    (fields : ∀ m ∈ (ofText text).models, (m.fields.map (·.name)).Nodup) :
    (graph (ofText text)).WellLabelled where
  nodes := nodup_nodes_graph models enums
  edges := nodup_edges_graph models fields fun _ isModel => namedByWords_of_mem_ofText isModel
  closed := closed_graph_ofText text

/-- A schema in which a model and an enum are both called `Role`. -/
def sharedNameText : String :=
  modelText "Role" ["peers Role[]", "mood Mood"] ++
    "enum Role \x7b\n  ADMIN\n\x7d\nenum Mood \x7b\n  CALM\n\x7d\n"

theorem graph_wellLabelled_sharedName :
    (((ofText sharedNameText).models.map (·.name)).Nodup ∧
      ((ofText sharedNameText).enums.map (·.name)).Nodup ∧
      (∀ m ∈ (ofText sharedNameText).models, (m.fields.map (·.name)).Nodup) ∧
      (∃ m ∈ (ofText sharedNameText).models, ∃ e ∈ (ofText sharedNameText).enums,
        m.name = e.name) ∧
      (graph (ofText sharedNameText)).edges.length = 2) ∧
    (graph (ofText sharedNameText)).WellLabelled := by
  have facts : ((ofText sharedNameText).models.map (·.name)).Nodup ∧
      ((ofText sharedNameText).enums.map (·.name)).Nodup ∧
      (∀ m ∈ (ofText sharedNameText).models, (m.fields.map (·.name)).Nodup) ∧
      (∃ m ∈ (ofText sharedNameText).models, ∃ e ∈ (ofText sharedNameText).enums,
        m.name = e.name) ∧
      (graph (ofText sharedNameText)).edges.length = 2 := by
    decide +kernel
  have labelled := graph_wellLabelled sharedNameText facts.1 facts.2.1 facts.2.2.1
  exact ⟨facts, labelled⟩

end OfText

end Schema

end SiteAtlas
