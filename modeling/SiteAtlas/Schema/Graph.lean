import SiteAtlas.Schema.Basic
import SiteAtlas.Schema.Attribute
import SiteAtlas.Graph.Basic

/-! # The graph of a schema

One box per model and per enum, one arrow per relation, named by the first field that carries it,
and one arrow per field that takes the values of an enum.
-/

namespace SiteAtlas.Schema

/-- How many rows a relation connects on either side. -/
inductive Cardinality where
  | oneToOne
  | oneToMany
  | manyToMany
  deriving DecidableEq

namespace Cardinality

/-- The name of a cardinality. -/
def label : Cardinality → String
  | oneToOne => "one-to-one"
  | oneToMany => "one-to-many"
  | manyToMany => "many-to-many"

/-- The sign of a cardinality. -/
def symbol : Cardinality → String
  | oneToOne => "1:1"
  | oneToMany => "1:N"
  | manyToMany => "N:N"

/-- The cardinality of a relation with a list on neither, one or both sides. -/
def ofSides (here there : Bool) : Cardinality :=
  if here && there then manyToMany else if here || there then oneToMany else oneToOne

end Cardinality

/-- The rules that a field is shown with. -/
def Field.constraints (f : Field) : List String :=
  let reference := match f.toFields with
    | [] => "id"
    | fields => ", ".intercalate fields
  (if f.isId then ["PRIMARY KEY"] else [])
    ++ (if f.isUnique then ["UNIQUE"] else [])
    ++ (if f.isRequired && f.kind == .scalar then ["NOT NULL"] else [])
    ++ (match f.default with
      | some default =>
        [String.ofList (Text.trimRight ("DEFAULT " ++ displayDefault default).toList)]
      | none => [])
    ++ (if f.kind == .object && !f.fromFields.isEmpty then
        ["FK (" ++ ", ".intercalate f.fromFields ++ ") → " ++ f.type ++ "(" ++ reference ++ ")"]
      else [])
    ++ (if f.isUpdatedAt then ["AUTO UPDATE"] else [])

/-- The type of a field as shown. -/
def Field.displayType (f : Field) : String :=
  f.type ++ (if f.isList then "[]" else "")
    ++ (if !f.isRequired && f.kind == .scalar then "?" else "")

/-- The document of an index. -/
def Index.payload (i : Index) : Value :=
  .table [("fields", .texts i.fields), ("name", .optional i.name)]

/-- The rules over several fields that a model is shown with. -/
def Model.constraints (m : Model) : List Value :=
  let row (type : String) (i : Index) : Value :=
    .table [("type", .text type), ("fields", .texts i.fields), ("name", .optional i.name)]
  (match m.primaryKey with
    | some key => if key.fields.length > 1 then [row "PRIMARY KEY" key] else []
    | none => [])
    ++ m.uniqueIndexes.map (row "UNIQUE") ++ m.indexes.map (row "INDEX")

/-- A name in the database, or the name itself where it is not given. -/
def databaseName (dbName : Option String) (name : String) : String :=
  if (dbName.getD "").isEmpty then name else dbName.getD name

/-- How many fields of a model are of a kind. -/
def Model.countKind (m : Model) (kind : FieldKind) : Nat :=
  (m.fields.filter (·.kind == kind)).length

/-- The box of a model. -/
def modelNode {α : Type} (zero : α) (m : Model) : Node α :=
  let rows := m.fields.map fun f => Value.table [
    ("name", .text f.name), ("type", .text f.displayType), ("constraints", .texts f.constraints),
    ("isId", .bool f.isId), ("isUnique", .bool f.isUnique), ("isRequired", .bool f.isRequired),
    ("isRelation", .bool (f.kind == .object)), ("isEnum", .bool (f.kind == .enum)),
    ("isList", .bool f.isList), ("handleId", .text (m.name ++ "." ++ f.name)),
    ("dbName", .text (databaseName f.dbName f.name)),
    ("hasDefaultValue", .bool f.default.isSome), ("default", .optional f.default)]
  { id := "model-" ++ m.name, kind := "model", x := zero, y := zero, width := zero, height := zero
    data := [
      ("label", .text m.name),
      ("dbName", .text (databaseName m.dbName m.name)),
      ("fields", .list rows),
      ("stats", .table [
        ("totalFields", .count m.fields.length), ("relations", .count (m.countKind .object)),
        ("indexes", .count (m.indexes.length + m.uniqueIndexes.length)),
        ("constraints", .count m.constraints.length)]),
      ("constraints", .list m.constraints),
      ("primaryKey", match m.primaryKey with
        | some key => key.payload
        | none => .null),
      ("uniqueIndexes", .list (m.uniqueIndexes.map Index.payload)),
      ("indexes", .list (m.indexes.map Index.payload))] }

/-- The box of an enum. -/
def enumNode {α : Type} (zero : α) (e : Enumeration) : Node α :=
  let rows := e.values.map fun v => Value.table [
    ("name", .text v.name), ("type", .text "enum value"),
    ("handleId", .text (e.name ++ "." ++ v.name)),
    ("dbName", .text (databaseName v.dbName v.name)), ("isEnum", .bool true)]
  { id := "enum-" ++ e.name, kind := "enum", x := zero, y := zero, width := zero, height := zero
    data := [
      ("label", .text e.name),
      ("dbName", .text (databaseName e.dbName e.name)),
      ("fields", .list rows),
      ("stats", .table [("totalFields", .count e.values.length)]),
      ("constraints", .list []),
      ("indexes", .list [])] }

/-- A field together with its place in the schema. -/
structure FieldAt where
  /-- The place of the model among the models. -/
  modelIndex : Nat
  /-- The model. -/
  model : Model
  /-- The place of the field in the model. -/
  fieldIndex : Nat
  /-- The field. -/
  field : Field

/-- All fields of a schema, in order. -/
def fieldsAt (schema : Schema) : List FieldAt :=
  schema.models.zipIdx.flatMap fun (m, i) => m.fields.zipIdx.map fun (f, j) => ⟨i, m, j, f⟩

/-- The first model of a name, with its place. -/
def modelNamed? (schema : Schema) (name : String) : Option (Model × Nat) :=
  schema.models.zipIdx.find? fun (m, _) => m.name == name

/-- The other field that carries the same relation back. -/
def reverseField? (schema : Schema) (at' : FieldAt) : Option Field :=
  (modelNamed? schema at'.field.type).bind fun (target, i) =>
    (target.fields.zipIdx.find? fun (f, j) =>
      !(i == at'.modelIndex && j == at'.fieldIndex) && f.kind == .object
        && f.type == at'.model.name && f.relationName == at'.field.relationName).map (·.1)

/-- The cardinality of the relation that a field carries; a missing field on the other side counts
as no list. -/
def FieldAt.cardinality (schema : Schema) (at' : FieldAt) : Cardinality :=
  let there := match reverseField? schema at' with
    | some f => f.isList
    | none => false
  .ofSides at'.field.isList there

/-- The key by which the two fields of a relation are recognised as one. -/
def FieldAt.relationKey (at' : FieldAt) : String :=
  match at'.field.relationName with
  | some name =>
    if name.isEmpty then
      (ordered at'.model.name at'.field.type).1 ++ "-" ++ (ordered at'.model.name at'.field.type).2
    else name
  | none =>
    (ordered at'.model.name at'.field.type).1 ++ "-" ++ (ordered at'.model.name at'.field.type).2

/-- The arrow of a relation. -/
def relationEdge (schema : Schema) (at' : FieldAt) : Edge :=
  let f := at'.field
  let m := at'.model
  let cardinality := at'.cardinality schema
  let key := ((modelNamed? schema f.type).bind fun (target, _) =>
    (target.fields.find? (·.isId)).map (·.name)).getD "id"
  let referenced := if f.toFields.isEmpty then ["id"] else f.toFields
  let name := f.relationName.getD ""
  let parts := [cardinality.symbol] ++ (if name.isEmpty then [] else [name])
    ++ (if f.fromFields.isEmpty then []
      else [",".intercalate f.fromFields ++ " → " ++ ",".intercalate referenced])
  { id := "relation-" ++ m.name ++ "-" ++ f.name ++ "-" ++ f.type
    source := "model-" ++ m.name
    target := "model-" ++ f.type
    style := "relation"
    label := " | ".intercalate parts
    data := [
      ("type", .text "relation"),
      ("relationType", .text cardinality.label),
      ("relationName", .optional f.relationName),
      ("foreignKeyFields", .texts f.fromFields),
      ("referencedFields", .texts f.toFields),
      ("onDelete", .optional f.onDelete),
      ("onUpdate", .optional f.onUpdate),
      ("sourceHandle", .text (m.name ++ "." ++ f.name ++ "-source")),
      ("targetHandle", .text (f.type ++ "." ++ key ++ "-target"))] }

/-- The arrow from a field to the enum whose values it takes. -/
def enumEdge (at' : FieldAt) : Edge :=
  let f := at'.field
  let m := at'.model
  { id := "enum-ref-" ++ m.name ++ "-" ++ f.name ++ "-" ++ f.type
    source := "model-" ++ m.name
    target := "enum-" ++ f.type
    style := "enum-reference"
    label := "uses"
    data := [
      ("type", .text "enumReference"),
      ("sourceHandle", .text (m.name ++ "." ++ f.name ++ "-source")),
      ("targetHandle", .text (f.type ++ "." ++ f.type ++ "-target"))] }

/-- What an arrow of a schema graph shows. -/
inductive Link where
  | relation (field : FieldAt)
  | enumReference (field : FieldAt)

/-- The links of a list of fields, leaving out relations whose key is among `seen`. -/
def linksFrom (seen : List String) : List FieldAt → List Link
  | [] => []
  | at' :: rest =>
    match at'.field.kind with
    | .scalar => linksFrom seen rest
    | .enum => .enumReference at' :: linksFrom seen rest
    | .object =>
      if seen.contains at'.relationKey then linksFrom seen rest
      else .relation at' :: linksFrom (at'.relationKey :: seen) rest

/-- The links of a schema: each relation once, by its first field, and each use of an enum. -/
def links (schema : Schema) : List Link := linksFrom [] (fieldsAt schema)

/-- The arrow of a link. -/
def Link.edge (schema : Schema) : Link → Edge
  | .relation at' => relationEdge schema at'
  | .enumReference at' => enumEdge at'

/-- The relations among the links. -/
def relations (schema : Schema) : List FieldAt :=
  (links schema).filterMap fun
    | .relation at' => some at'
    | .enumReference _ => none

/-- How many relations have a cardinality. -/
def countRelations (schema : Schema) (cardinality : Cardinality) : Nat :=
  ((relations schema).filter fun at' => at'.cardinality schema == cardinality).length

end SiteAtlas.Schema
