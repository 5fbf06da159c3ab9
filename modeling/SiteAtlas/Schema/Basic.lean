/-! # Database schemas

A schema is a list of models and enums. A model has fields, which hold plain values, refer to
another model, or take the values of an enum.
-/

namespace SiteAtlas.Schema

/-- What a field holds. -/
inductive FieldKind where
  | scalar
  | object
  | enum
  deriving DecidableEq, Inhabited

/-- The name of a kind of field. -/
def FieldKind.label : FieldKind → String
  | scalar => "scalar"
  | object => "object"
  | enum => "enum"

/-- A field of a model. -/
structure Field where
  /-- The name of the field. -/
  name : String
  /-- The name of its type, as written. -/
  type : String
  /-- What it holds; known once all models and enums are. -/
  kind : FieldKind := .scalar
  /-- Whether it holds a list. -/
  isList : Bool := false
  /-- Whether it must have a value. -/
  isRequired : Bool := true
  /-- Whether no two rows share its value. -/
  isUnique : Bool := false
  /-- Whether it identifies the row. -/
  isId : Bool := false
  /-- Whether each change of the row sets it to the current time. -/
  isUpdatedAt : Bool := false
  /-- The argument of its default, if it has one. -/
  default : Option String := none
  /-- Its name in the database, where that differs. -/
  dbName : Option String := none
  /-- The name of the relation it belongs to. -/
  relationName : Option String := none
  /-- The fields of this model that hold the reference. -/
  fromFields : List String := []
  /-- The fields of the other model that are referred to. -/
  toFields : List String := []
  /-- What happens when the row referred to is deleted. -/
  onDelete : Option String := none
  /-- What happens when the row referred to is updated. -/
  onUpdate : Option String := none
  deriving DecidableEq, Inhabited

/-- A list of fields that are indexed together. -/
structure Index where
  /-- The fields. -/
  fields : List String
  /-- The name of the index. -/
  name : Option String := none
  deriving DecidableEq, Inhabited

/-- A model. -/
structure Model where
  /-- The name of the model. -/
  name : String
  /-- Its fields. -/
  fields : List Field := []
  /-- Its name in the database, where that differs. -/
  dbName : Option String := none
  /-- The fields that identify a row together. -/
  primaryKey : Option Index := none
  /-- The lists of fields whose values together are unique. -/
  uniqueIndexes : List Index := []
  /-- The other indexes. -/
  indexes : List Index := []
  deriving DecidableEq, Inhabited

/-- A value of an enum. -/
structure EnumValue where
  /-- The name of the value. -/
  name : String
  /-- Its name in the database, where that differs. -/
  dbName : Option String := none
  deriving DecidableEq, Inhabited

/-- An enum. -/
structure Enumeration where
  /-- The name of the enum. -/
  name : String
  /-- Its values. -/
  values : List EnumValue := []
  /-- Its name in the database, where that differs. -/
  dbName : Option String := none
  deriving DecidableEq, Inhabited

end Schema

/-- A schema. -/
structure Schema where
  /-- Its models, in order. -/
  models : List Schema.Model := []
  /-- Its enums, in order. -/
  enums : List Schema.Enumeration := []
  /-- The kind of database it is for. -/
  provider : Option String := none
  /-- The providers of its generators, in order. -/
  generators : List String := []
  deriving DecidableEq, Inhabited

namespace Schema

/-- Two names in increasing order. -/
def ordered (a b : String) : String × String := if b < a then (b, a) else (a, b)

/-- The name of a relation that was given none: both models, in increasing order. -/
def impliedRelationName (model type : String) : String :=
  (ordered model type).1 ++ "To" ++ (ordered model type).2

/-- Settle what a field of `model` holds, given the names of all models and enums. -/
def Field.resolve (models enums : List String) (model : String) (f : Field) : Field :=
  if models.contains f.type then
    { f with
      kind := .object
      relationName :=
        if (f.relationName.getD "").isEmpty then some (impliedRelationName model f.type)
        else f.relationName }
  else if enums.contains f.type then { f with kind := .enum }
  else f

/-- Settle what the fields of all models hold. -/
def resolveKinds (schema : Schema) : Schema :=
  let models := schema.models.map (·.name)
  let enums := schema.enums.map (·.name)
  { schema with
    models := schema.models.map fun m =>
      { m with fields := m.fields.map (Field.resolve models enums m.name) } }

end Schema

end SiteAtlas
