import SiteAtlas.Schema.Basic
import SiteAtlas.Schema.Graph

/-! # Schemas in answers

The document that describes a schema.
-/

namespace SiteAtlas.Schema

/-- The document of a field. -/
def Field.payload (f : Field) : Value :=
  .table [
    ("name", .text f.name), ("type", .text f.type), ("kind", .text f.kind.label),
    ("isList", .bool f.isList), ("isRequired", .bool f.isRequired),
    ("isUnique", .bool f.isUnique), ("isId", .bool f.isId), ("isUpdatedAt", .bool f.isUpdatedAt),
    ("hasDefaultValue", .bool f.default.isSome), ("default", .optional f.default),
    ("dbName", .optional f.dbName), ("relationName", .optional f.relationName),
    ("relationFromFields", .texts f.fromFields), ("relationToFields", .texts f.toFields),
    ("relationOnDelete", .optional f.onDelete), ("relationOnUpdate", .optional f.onUpdate)]

/-- The document of a model. -/
def Model.payload (m : Model) : Value :=
  .table [
    ("name", .text m.name), ("fields", .list (m.fields.map Field.payload)),
    ("dbName", .optional m.dbName),
    ("primaryKey", match m.primaryKey with
      | some key => key.payload
      | none => .null),
    ("uniqueIndexes", .list (m.uniqueIndexes.map Index.payload)),
    ("indexes", .list (m.indexes.map Index.payload))]

/-- The document of an enum. -/
def Enumeration.payload (e : Enumeration) : Value :=
  .table [
    ("name", .text e.name),
    ("values", .list (e.values.map fun v =>
      .table [("name", .text v.name), ("dbName", .optional v.dbName)])),
    ("dbName", .optional e.dbName)]

/-- The document of a schema. -/
def payload (schema : Schema) : Value :=
  .table [
    ("models", .list (schema.models.map Model.payload)),
    ("enums", .list (schema.enums.map Enumeration.payload)),
    ("datasourceProvider", .optional schema.provider),
    ("generators", .texts schema.generators)]

end SiteAtlas.Schema
