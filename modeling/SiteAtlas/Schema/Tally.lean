import SiteAtlas.Schema.Reader
import SiteAtlas.Value.Basic

/-! # Counting a schema's lines

The overview of a schema that needs no reading of its relations: blocks, fields, constraints and
the pairs of models that relation fields connect, counted line by line.
-/

namespace SiteAtlas.Schema

open Text

/-- A field that declares a relation. -/
structure RelationLine where
  /-- The block the field stands in. -/
  model : String
  /-- The type of the field. -/
  type : String
  /-- Whether the field is a list. -/
  isList : Bool
  deriving DecidableEq

/-- What was counted so far. -/
structure Tally where
  /-- The names of the models, in order. -/
  modelNames : List String := []
  /-- The names of the enums, in order. -/
  enumNames : List String := []
  /-- The number of views. -/
  views : Nat := 0
  /-- The number of composite types. -/
  types : Nat := 0
  /-- The kind of database. -/
  provider : Option String := none
  /-- The providers of the generators. -/
  generators : List String := []
  /-- The fields that must have a value. -/
  required : Nat := 0
  /-- The fields that may be missing. -/
  optional : Nat := 0
  /-- The fields with a unique value. -/
  unique : Nat := 0
  /-- The fields named in indexes. -/
  indexed : Nat := 0
  /-- How often each type is used, in the order of first use. -/
  fieldTypes : List (String × Nat) := []
  /-- The primary keys, of fields and of blocks. -/
  primaryKeys : Nat := 0
  /-- The blocks' uniqueness constraints. -/
  uniqueConstraints : Nat := 0
  /-- The indexes. -/
  indexes : Nat := 0
  /-- The fields that declare a relation, in order. -/
  relations : List RelationLine := []
  /-- The block that the next line belongs to. -/
  context : Option (BlockKind × String) := none

/-- Count one more use of a name. -/
def bump (name : String) : List (String × Nat) → List (String × Nat)
  | [] => [(name, 1)]
  | (other, n) :: rest =>
    if other = name then (other, n + 1) :: rest else (other, n) :: bump name rest

/-- Count a block attribute. -/
def Tally.addAttribute (t : Tally) (line : List Char) : Tally :=
  let has (piece : String) : Bool := contains piece.toList line
  { t with
    uniqueConstraints := t.uniqueConstraints + if has "@@unique" then 1 else 0
    indexes := t.indexes + if has "@@index" then 1 else 0
    indexed := t.indexed + if has "@@index" then (fieldList line).length else 0
    primaryKeys := t.primaryKeys + if has "@@id" then 1 else 0 }

/-- Count a field. -/
def Tally.addField (t : Tally) (block : String) (line : List Char) (parts : FieldLine) : Tally :=
  let has (piece : String) : Bool := contains piece.toList line
  let type := String.ofList parts.type
  { t with
    required := t.required + if parts.isOptional then 0 else 1
    optional := t.optional + if parts.isOptional then 1 else 0
    fieldTypes := bump type t.fieldTypes
    primaryKeys := t.primaryKeys + if has "@id" then 1 else 0
    unique := t.unique + if has "@unique" then 1 else 0
    relations :=
      if has "@relation" then t.relations ++ [⟨block, type, parts.isList⟩] else t.relations }

/-- Count a line inside a block. -/
def Tally.addInside (t : Tally) (kind : BlockKind) (block : String) (line : List Char) : Tally :=
  match kind with
  | .datasource =>
    match provider? line with
    | some name => { t with provider := some name }
    | none => t
  | .generator =>
    match provider? line with
    | some name => { t with generators := t.generators ++ [name] }
    | none => t
  | .enum => t
  | _ =>
    if (after? ['@', '@'] line).isSome then t.addAttribute line
    else
      match fieldLine? line with
      | some parts => t.addField block line parts
      | none => t

/-- Count the header of a block. -/
def Tally.openBlock (t : Tally) (kind : BlockKind) (name : String) : Tally :=
  let t := { t with context := some (kind, name) }
  match kind with
  | .model => { t with modelNames := t.modelNames ++ [name] }
  | .enum => { t with enumNames := t.enumNames ++ [name] }
  | .view => { t with views := t.views + 1 }
  | .type => { t with types := t.types + 1 }
  | _ => t

/-- Whether a line is passed over: empty, or part of a comment. -/
def isPassedOver (line : List Char) : Bool :=
  line.isEmpty || ["//", "/*", "*"].any fun start => (after? start.toList line).isSome

/-- Count one more line, without blanks around it. -/
def Tally.addLine (t : Tally) (line : List Char) : Tally :=
  if isPassedOver line then t
  else
    match header? line with
    | some (kind, name) => t.openBlock kind name
    | none =>
      if line.head? = some '}' then { t with context := none }
      else
        match t.context with
        | some (kind, block) => t.addInside kind block line
        | none => t

/-- Count the lines of a text. -/
def tally (text : String) : Tally := ((lines text.toList).map trim).foldl Tally.addLine {}

/-- How many pairs of models are related in each way. -/
structure Cardinalities where
  /-- One on both sides. -/
  oneToOne : Nat := 0
  /-- Many on one side. -/
  oneToMany : Nat := 0
  /-- Many on both sides. -/
  manyToMany : Nat := 0
  deriving DecidableEq

/-- The key under which both sides of a relation meet. -/
def RelationLine.key (r : RelationLine) : String :=
  (ordered r.model r.type).1 ++ "-" ++ (ordered r.model r.type).2

/-- Count the relations by what the fields under one key say together. -/
def cardinalities (relations : List RelationLine) : Cardinalities :=
  (relations.map RelationLine.key).eraseDups.foldl (fun counts key =>
    let sides := relations.filter fun r => r.key == key
    if sides.all (·.isList) && sides.length > 1 then
      { counts with manyToMany := counts.manyToMany + 1 }
    else if sides.any (·.isList) then { counts with oneToMany := counts.oneToMany + 1 }
    else { counts with oneToOne := counts.oneToOne + 1 }) {}

/-- The fields of the document of a tally. -/
def Tally.payload (t : Tally) : Fields :=
  let counts := cardinalities t.relations
  let selfRelations := (t.relations.filter fun r => r.type == r.model).length
  [("stats", .table [
      ("models", .count t.modelNames.length),
      ("enums", .count t.enumNames.length),
      ("views", .count t.views),
      ("types", .count t.types),
      ("relationships", .table [
        ("total", .count t.relations.length), ("oneToOne", .count counts.oneToOne),
        ("oneToMany", .count counts.oneToMany), ("manyToMany", .count counts.manyToMany),
        ("selfRelations", .count selfRelations)]),
      ("fields", .table [
        ("total", .count (t.required + t.optional)), ("required", .count t.required),
        ("optional", .count t.optional), ("unique", .count t.unique),
        ("indexed", .count t.indexed)]),
      ("fieldTypes", .table (t.fieldTypes.map fun (name, n) => (name, .count n))),
      ("datasource", .table [("provider", .optional t.provider)]),
      ("generators", .texts t.generators),
      ("constraints", .table [
        ("primaryKeys", .count t.primaryKeys),
        ("uniqueConstraints", .count t.uniqueConstraints), ("indexes", .count t.indexes)])]),
    ("modelNames", .texts t.modelNames),
    ("enumNames", .texts t.enumNames)]

end SiteAtlas.Schema
