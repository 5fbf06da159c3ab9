import SiteAtlas.Schema.Graph
import SiteAtlas.Decimal.Fixed

/-! # Statistics of a schema graph

How the models are connected, model by model and in sum.
-/

namespace SiteAtlas.Schema

/-- What is known about one model's connections. -/
structure ModelSummary where
  /-- The model. -/
  model : Model
  /-- The relations it is the source of, by cardinality. -/
  counts : Cardinality → Nat

/-- The number of fields of a model that refer to another. -/
def Model.relationCount (m : Model) : Nat := m.countKind .object

/-- The models, the best connected first; equally connected ones keep their order. -/
def modelsByRelations (schema : Schema) : List Model :=
  schema.models.mergeSort fun a b => b.relationCount ≤ a.relationCount

/-- The relations of one cardinality that start from models of a name. -/
def countFrom (schema : Schema) (name : String) (cardinality : Cardinality) : Nat :=
  ((relations schema).filter fun at' =>
    at'.model.name == name && at'.cardinality schema == cardinality).length

/-- The summaries of all models, the best connected first. Relations are counted for the last model
of their source's name. -/
def breakdown (schema : Schema) : List ModelSummary :=
  let models := modelsByRelations schema
  models.zipIdx.map fun (m, i) =>
    let isLast := !(models.drop (i + 1)).any fun other => other.name == m.name
    ⟨m, fun cardinality => if isLast then countFrom schema m.name cardinality else 0⟩

/-- The document of a summary. -/
def ModelSummary.payload (s : ModelSummary) : Value :=
  let m := s.model
  let related := m.fields.filter (·.kind == .object)
  .table [
    ("name", .text m.name),
    ("dbName", .text (databaseName m.dbName m.name)),
    ("relations", .count m.relationCount),
    ("fields", .count m.fields.length),
    ("indexes", .count (m.indexes.length + m.uniqueIndexes.length)),
    ("relatedModels", .texts (related.map (·.type))),
    ("scalarFields", .count (m.countKind .scalar)),
    ("enumFields", .count (m.countKind .enum)),
    ("uniqueFields", .count (m.fields.filter (·.isUnique)).length),
    ("requiredFields", .count (m.fields.filter (·.isRequired)).length),
    ("fieldsWithDefaults", .count (m.fields.filter (·.default.isSome)).length),
    ("relationTypes", .table [
      ("oneToOne", .count (s.counts .oneToOne)), ("oneToMany", .count (s.counts .oneToMany)),
      ("manyToMany", .count (s.counts .manyToMany))])]

/-- The average of a total over a number of things, to two places; zero over nothing. -/
def average (total count : Nat) : Value :=
  if count = 0 then .number (.real 0)
  else .number (.real (Decimal.roundTo 2 (Binary64.nearest total count)))

/-- The statistics of a schema's graph. -/
def graphStatistics (schema : Schema) : Fields :=
  let models := schema.models
  let enums := schema.enums
  let rows := breakdown schema
  let regular := total (models.map (·.indexes.length))
  let unique := total (models.map (·.uniqueIndexes.length))
  let values := total (enums.map (·.values.length))
  let enumFields := models.flatMap fun m => m.fields.filter (·.kind == .enum)
  let used := (enumFields.map (·.type)).eraseDups
  let related := total (models.map Model.relationCount)
  let relationTotal := (relations schema).length
  let optional (row : Option ModelSummary) : Value := (row.map ModelSummary.payload).getD .null
  [("overview", .table [
      ("modelCount", .count models.length), ("enumCount", .count enums.length),
      ("totalRelations", .count relationTotal), ("totalIndexes", .count (regular + unique))]),
    ("modelBreakdown", .list (rows.map ModelSummary.payload)),
    ("relations", .table [
      ("total", .count relationTotal),
      ("oneToOne", .count (countRelations schema .oneToOne)),
      ("oneToMany", .count (countRelations schema .oneToMany)),
      ("manyToMany", .count (countRelations schema .manyToMany)),
      ("enumReferences", .count enumFields.length),
      ("averagePerModel", average related models.length)]),
    ("indexes", .table [
      ("total", .count (regular + unique)), ("regular", .count regular),
      ("unique", .count unique)]),
    ("enums", .table [
      ("total", .count enums.length), ("totalValues", .count values),
      ("usedInModels", .count used.length),
      ("averageValuesPerEnum", average values enums.length)]),
    ("insights", .table [
      ("mostConnectedModel", optional rows.head?),
      ("leastConnectedModel", optional rows.getLast?),
      ("averageRelationsPerModel", average related models.length),
      ("totalModelsWithRelations",
        .count (models.filter fun m => m.relationCount > 0).length)])]

/-- The graph of a schema, all boxes still without a place and a size. -/
def graph (schema : Schema) : Graph Number :=
  { nodes := schema.models.map (modelNode 0) ++ schema.enums.map (enumNode 0)
    edges := (links schema).map (Link.edge schema)
    stats := some (graphStatistics schema) }

end SiteAtlas.Schema
