import SiteAtlas.Proofs.Schema.Reordering
import SiteAtlas.Proofs.Value.Same

/-! # Statistics that balance

The statistics of a schema graph count the same things in several ways: relations as arrows, by
cardinality and model by model, fields by what they hold. The sums agree for every schema. Where
several models have one name, the relations of that name are counted for the last of them alone, so
that none is counted twice.
-/

namespace SiteAtlas.Schema

/-! ## What statistics say -/

/-- The sum of the counts of all cardinalities. -/
def overCardinalities (counts : Cardinality → Nat) : Nat :=
  counts .oneToOne + counts .oneToMany + counts .manyToMany

/-- The key under which relations of a cardinality are counted. -/
def Cardinality.key : Cardinality → String
  | oneToOne => "oneToOne"
  | oneToMany => "oneToMany"
  | manyToMany => "manyToMany"

/-- What statistics say of one model. -/
structure ModelFigures where
  /-- The name of the model. -/
  name : String
  /-- The number of its fields. -/
  fields : Nat
  /-- The number of those that refer to a model. -/
  relations : Nat
  /-- The number of those with a plain value. -/
  scalarFields : Nat
  /-- The number of those with a value of an enum. -/
  enumFields : Nat
  /-- The relations that are counted for the model, by cardinality. -/
  counts : Cardinality → Nat

/-- What statistics say of a schema. -/
structure Figures where
  /-- The number of relations. -/
  total : Nat
  /-- The relations by cardinality. -/
  counts : Cardinality → Nat
  /-- The number of references to enums. -/
  enumReferences : Nat
  /-- The number of enums that are referred to. -/
  usedInModels : Nat
  /-- The models, row by row. -/
  rows : List ModelFigures
  /-- The best connected model. -/
  mostConnected : Option ModelFigures
  /-- The least connected model. -/
  leastConnected : Option ModelFigures

/-- Whether a row of a document says some figures of a model. -/
structure ModelFigures.IsSaidBy (f : ModelFigures) (row : Value) : Prop where
  name : row.at? [.key "name"] = some (.text f.name)
  fields : row.at? [.key "fields"] = some (.count f.fields)
  relations : row.at? [.key "relations"] = some (.count f.relations)
  scalarFields : row.at? [.key "scalarFields"] = some (.count f.scalarFields)
  enumFields : row.at? [.key "enumFields"] = some (.count f.enumFields)
  counts : ∀ c : Cardinality,
    row.at? [.key "relationTypes", .key c.key] = some (.count (f.counts c))

/-- Whether a part of a document says some figures of a model, or nothing at all. -/
def IsSaidIfAny (f : Option ModelFigures) (row : Value) : Prop :=
  match f with
  | some f => f.IsSaidBy row
  | none => row = .null

/-- Whether a document says some figures of a schema. -/
structure Figures.IsSaidBy (f : Figures) (stats : Value) : Prop where
  total : stats.at? [.key "relations", .key "total"] = some (.count f.total)
  counts : ∀ c : Cardinality,
    stats.at? [.key "relations", .key c.key] = some (.count (f.counts c))
  enumReferences :
    stats.at? [.key "relations", .key "enumReferences"] = some (.count f.enumReferences)
  usedInModels : stats.at? [.key "enums", .key "usedInModels"] = some (.count f.usedInModels)
  rows : ∃ rows, stats.at? [.key "modelBreakdown"] = some (.list rows) ∧
    List.Forall₂ ModelFigures.IsSaidBy f.rows rows
  mostConnected : ∃ row, stats.at? [.key "insights", .key "mostConnectedModel"] = some row ∧
    IsSaidIfAny f.mostConnected row
  leastConnected : ∃ row, stats.at? [.key "insights", .key "leastConnectedModel"] = some row ∧
    IsSaidIfAny f.leastConnected row

/-- Whether figures are those of a model, as far as its fields go. -/
structure ModelFigures.Describe (f : ModelFigures) (m : Model) : Prop where
  name : f.name = m.name
  fields : f.fields = m.fields.length
  relations : f.relations = m.countKind .object
  scalarFields : f.scalarFields = m.countKind .scalar
  enumFields : f.enumFields = m.countKind .enum

/-- Models with the best connected ones first, and equally connected ones in their own order. -/
structure Ranked (models order : List Model) : Prop where
  perm : order.Perm models
  sorted : order.Pairwise fun a b => b.relationCount ≤ a.relationCount
  stable : ∀ n, order.filter (·.relationCount == n) = models.filter (·.relationCount == n)

/-- Whether the figures of a schema agree with one another and with what its graph shows. -/
structure Figures.Balance (f : Figures) (schema : Schema) : Prop where
  drawn : f.total = ((graph schema).edges.filter (·.style == "relation")).length
  byCardinality : f.total = overCardinalities f.counts
  byModel : f.total = (f.rows.map fun row => overCardinalities row.counts).sum
  drawnReferences :
    f.enumReferences = ((graph schema).edges.filter (·.style == "enum-reference")).length
  references : f.enumReferences = (f.rows.map (·.enumFields)).sum
  fields : ∀ row ∈ f.rows, row.relations + row.scalarFields + row.enumFields = row.fields
  ranked : ∃ order, Ranked schema.models order ∧ List.Forall₂ ModelFigures.Describe f.rows order
  most : f.mostConnected.isSome = !f.rows.isEmpty ∧
    ∀ best ∈ f.mostConnected, best ∈ f.rows ∧ ∀ row ∈ f.rows, row.relations ≤ best.relations
  least : f.leastConnected.isSome = !f.rows.isEmpty ∧
    ∀ last ∈ f.leastConnected, last ∈ f.rows ∧ ∀ row ∈ f.rows, last.relations ≤ row.relations
  used : f.usedInModels ≤ schema.enums.length

/-! ## What the statistics of a schema say -/

/-- The figures in a summary. -/
def ModelSummary.figures (s : ModelSummary) : ModelFigures where
  name := s.model.name
  fields := s.model.fields.length
  relations := s.model.relationCount
  scalarFields := s.model.countKind .scalar
  enumFields := s.model.countKind .enum
  counts := s.counts

/-- The fields of a schema that take the values of an enum. -/
def enumFields (schema : Schema) : List Field :=
  schema.models.flatMap fun m => m.fields.filter (·.kind == .enum)

/-- The figures of a schema. -/
def figures (schema : Schema) : Figures where
  total := (relations schema).length
  counts := countRelations schema
  enumReferences := (enumFields schema).length
  usedInModels := ((enumFields schema).map (·.type)).eraseDups.length
  rows := (breakdown schema).map ModelSummary.figures
  mostConnected := (breakdown schema).head?.map ModelSummary.figures
  leastConnected := (breakdown schema).getLast?.map ModelSummary.figures

theorem ModelSummary.figures_isSaidBy (s : ModelSummary) : s.figures.IsSaidBy s.payload where
  name := rfl
  fields := rfl
  relations := rfl
  scalarFields := rfl
  enumFields := rfl
  counts c := by cases c <;> rfl

theorem isSaidIfAny_figures (s : Option ModelSummary) :
    IsSaidIfAny (s.map ModelSummary.figures) ((s.map ModelSummary.payload).getD .null) := by
  cases s with
  | none => rfl
  | some s => exact s.figures_isSaidBy

theorem figures_isSaidBy (schema : Schema) :
    (figures schema).IsSaidBy (.table (graphStatistics schema)) where
  total := rfl
  counts c := by cases c <;> rfl
  enumReferences := rfl
  usedInModels := rfl
  rows := by
    refine ⟨(breakdown schema).map ModelSummary.payload, rfl, ?_⟩
    rw [figures, List.forall₂_map_left_iff, List.forall₂_map_right_iff]
    exact List.forall₂_same.mpr fun s _ => s.figures_isSaidBy
  mostConnected := ⟨_, rfl, isSaidIfAny_figures _⟩
  leastConnected := ⟨_, rfl, isSaidIfAny_figures _⟩

/-! ## The fields of a model -/

/-- Every field of a model is counted under one kind. -/
theorem Model.sum_countKind (m : Model) :
    m.countKind .object + m.countKind .scalar + m.countKind .enum = m.fields.length := by
  unfold countKind
  induction m.fields with
  | nil => rfl
  | cons f rest ih =>
    cases kind : f.kind <;> simp [kind] <;> omega

section Fields

variable (schema : Schema)

/-- The references to enums are those of the models together. -/
theorem length_enumFields : (enumFields schema).length =
    (schema.models.map fun m => m.countKind .enum).sum := by
  rw [enumFields, List.length_flatMap]
  rfl

/-- Every field that takes the values of an enum is drawn. -/
theorem length_enumReferences : (enumFields schema).length =
    ((graph schema).edges.filter (·.style == "enum-reference")).length := by
  have places (m : Model) (i : Nat) :
      ((m.fields.zipIdx.map fun p => (⟨i, m, p.2, p.1⟩ : FieldAt)).filter
        (·.field.kind == .enum)).length = (m.fields.filter (·.kind == .enum)).length := by
    rw [List.filter_map, List.length_map, ← List.zipIdx_map_fst 0 m.fields, List.filter_map,
      List.length_map, List.zipIdx_map_fst]
    rfl
  rw [graph, filter_enumReference_map_edge, List.length_map, links,
    filterMap_enumReference?_linksFrom, fieldsAt, List.filter_flatMap, List.length_flatMap,
    length_enumFields, ← List.zipIdx_map_fst 0 schema.models, List.map_map, List.zipIdx_map_fst]
  refine congrArg List.sum (List.map_congr_left fun p _ => ?_)
  exact (places p.1 p.2).symm

end Fields

/-- In a schema that was read from a text, the enums that are referred to are among its own. -/
theorem length_usedEnums_le (text : String) :
    ((enumFields (ofText text)).map (·.type)).eraseDups.length ≤ (ofText text).enums.length := by
  have declared : ((enumFields (ofText text)).map (·.type)).eraseDups ⊆
      (ofText text).enums.map (·.name) := by
    intro type isUsed
    obtain ⟨f, takes, rfl⟩ := List.mem_map.mp (List.mem_eraseDups.mp isUsed)
    obtain ⟨m, isModel, takes⟩ := List.mem_flatMap.mp takes
    obtain ⟨isField, enum⟩ := List.mem_filter.mp takes
    have kind := kind_of_mem_ofText isModel isField
    rw [beq_iff_eq.mp enum] at kind
    split_ifs at kind with _ isEnum
    exact isEnum
  have few := (List.subperm_of_subset (nodup_eraseDups _) declared).length_le
  rwa [List.length_map] at few

/-! ## Relations by cardinality and by model -/

theorem overCardinalities_count (classes : List Cardinality) :
    overCardinalities (fun c => classes.count c) = classes.length :=
  (length_eq_countsOf classes).symm

section Relations

variable (schema : Schema)

/-- Every relation is drawn. -/
theorem length_relations : (relations schema).length =
    ((graph schema).edges.filter (·.style == "relation")).length := by
  have shown : relations schema = (links schema).filterMap Link.relation? :=
    List.filterMap_congr fun link _ => by cases link <;> rfl
  rw [graph, filter_relation_map_edge, List.length_map, shown]

/-- Every relation has one cardinality. -/
theorem overCardinalities_countRelations :
    overCardinalities (countRelations schema) = (relations schema).length := by
  have each : countRelations schema =
      fun c => ((relations schema).map (FieldAt.cardinality schema)).count c := by
    funext c
    rw [countRelations, List.count, List.countP_map, List.countP_eq_length_filter]
    rfl
  rw [each, overCardinalities_count, List.length_map]

/-- The names of the models that relations start from. -/
def sources : List String := (relations schema).map (·.model.name)

theorem overCardinalities_countFrom (name : String) :
    overCardinalities (countFrom schema name) = (sources schema).count name := by
  have each : countFrom schema name = fun c =>
      (((relations schema).filter (·.model.name == name)).map
        (FieldAt.cardinality schema)).count c := by
    funext c
    rw [countFrom, List.count, List.countP_map, List.countP_eq_length_filter, List.filter_filter]
    refine congrArg List.length (List.filter_congr fun a _ => ?_)
    exact Bool.and_comm _ _
  rw [each, overCardinalities_count, List.length_map, sources, List.count, List.countP_map,
    List.countP_eq_length_filter]
  rfl

end Relations

/-- The summaries of models in some order, where relations are counted for the last model of their
source's name. -/
def summaries (count : String → Cardinality → Nat) : List Model → List ModelSummary
  | [] => []
  | m :: rest =>
    ⟨m, fun c => if !rest.any (·.name == m.name) then count m.name c else 0⟩ ::
      summaries count rest

theorem breakdown_eq (schema : Schema) :
    breakdown schema = summaries (countFrom schema) (modelsByRelations schema) := by
  have run (front models : List Model) :
      ((models.zipIdx front.length).map fun p =>
        (⟨p.1, fun c => if !((front ++ models).drop (p.2 + 1)).any (·.name == p.1.name) then
          countFrom schema p.1.name c else 0⟩ : ModelSummary)) =
        summaries (countFrom schema) models := by
    induction models generalizing front with
    | nil => rfl
    | cons m rest ih =>
      have behind : (front ++ m :: rest).drop (front.length + 1) = rest := by simp
      have further := ih (front ++ [m])
      rw [List.length_append, List.length_singleton, List.append_assoc,
        List.singleton_append] at further
      rw [List.zipIdx_cons, List.map_cons, further, summaries]
      dsimp only
      rw [behind]
  exact run [] (modelsByRelations schema)

section Summaries

variable {count : String → Cardinality → Nat} (models : List Model)

theorem map_model_summaries : (summaries count models).map (·.model) = models := by
  induction models with
  | nil => rfl
  | cons m rest ih => rw [summaries, List.map_cons, ih]

/-- A name that is new to some names has not been counted with them. -/
theorem countP_mem_cons {name : String} {names : List String} (isNew : name ∉ names)
    (keys : List String) : keys.countP (· ∈ name :: names) =
      keys.count name + keys.countP (· ∈ names) := by
  induction keys with
  | nil => rfl
  | cons key keys ih =>
    rw [List.countP_cons, List.countP_cons, List.count_cons, ih]
    by_cases same : key = name
    · subst same
      simp [isNew]
      omega
    · by_cases old : key ∈ names
      · simp [same, old]
        omega
      · simp [same, old]

/-- If what is counted for a name is how often it occurs among some keys, the summaries together
count every key that is the name of a model. -/
theorem sum_summaries {keys : List String}
    (counts : ∀ name, overCardinalities (count name) = keys.count name) :
    ((summaries count models).map fun s => overCardinalities s.counts).sum =
      keys.countP (· ∈ models.map (·.name)) := by
  induction models with
  | nil => simp [summaries]
  | cons m rest ih =>
    rw [summaries, List.map_cons, List.sum_cons, ih, List.map_cons]
    by_cases again : m.name ∈ rest.map (·.name)
    · have later : rest.any (·.name == m.name) = true := by simpa using again
      have same (key : String) : key ∈ m.name :: rest.map (·.name) ↔ key ∈ rest.map (·.name) :=
        ⟨fun member => (List.mem_cons.mp member).elim (· ▸ again) id, List.mem_cons_of_mem _⟩
      simp only [later, same]
      exact Nat.zero_add _
    · have last : rest.any (·.name == m.name) = false := by simpa using again
      simp only [last]
      rw [countP_mem_cons again, ← counts]
      rfl

end Summaries

/-- Every relation is counted for one model. -/
theorem sum_breakdown (schema : Schema) :
    ((breakdown schema).map fun s => overCardinalities s.counts).sum =
      (relations schema).length := by
  have isModel : ∀ name ∈ sources schema,
      decide (name ∈ (modelsByRelations schema).map (·.name)) = true := by
    intro name member
    obtain ⟨a, isRelation, rfl⟩ := List.mem_map.mp member
    obtain ⟨isPlace, -⟩ := mem_fieldsAt_of_mem_relations isRelation
    have here : a.model ∈ modelsByRelations schema :=
      List.mem_mergeSort.mpr (mem_of_mem_fieldsAt isPlace).1
    exact decide_eq_true (List.mem_map_of_mem here)
  rw [breakdown_eq, sum_summaries _ (overCardinalities_countFrom schema),
    List.countP_eq_length.mpr isModel, sources, List.length_map]

/-! ## The order of the models -/

/-- The models are ranked by their relations. -/
theorem ranked_modelsByRelations (schema : Schema) :
    Ranked schema.models (modelsByRelations schema) := by
  have trans (a b c : Model) (first : decide (b.relationCount ≤ a.relationCount) = true)
      (second : decide (c.relationCount ≤ b.relationCount) = true) :
      decide (c.relationCount ≤ a.relationCount) = true := by
    rw [decide_eq_true_iff] at *
    omega
  have total (a b : Model) : (decide (b.relationCount ≤ a.relationCount) ||
      decide (a.relationCount ≤ b.relationCount)) = true := by
    rw [Bool.or_eq_true, decide_eq_true_iff, decide_eq_true_iff]
    omega
  have perm : (modelsByRelations schema).Perm schema.models := List.mergeSort_perm _ _
  refine ⟨perm, ?_, fun n => ?_⟩
  · apply (List.pairwise_mergeSort trans total schema.models).imp
    intro a b le
    exact of_decide_eq_true le
  · -- Equally connected models are in order already, so that the sort keeps them so.
    have equal : (schema.models.filter (·.relationCount == n)).Pairwise
        (fun a b => decide (b.relationCount ≤ a.relationCount) = true) := by
      refine List.pairwise_of_forall_mem_list fun a isLeft b isRight => ?_
      have left := (List.mem_filter.mp isLeft).2
      have right := (List.mem_filter.mp isRight).2
      rw [beq_iff_eq] at left right
      rw [decide_eq_true_iff]
      omega
    have kept := List.sublist_mergeSort trans total equal List.filter_sublist
    have sublist := kept.filter (·.relationCount == n)
    rw [List.filter_filter] at sublist
    simp only [Bool.and_self] at sublist
    exact (sublist.eq_of_length (perm.filter _).length_eq.symm).symm

/-! ## The balance -/

section Rows

variable (schema : Schema)

theorem map_model_breakdown : (breakdown schema).map (·.model) = modelsByRelations schema := by
  rw [breakdown_eq, map_model_summaries]

theorem forall₂_describe :
    List.Forall₂ ModelFigures.Describe (figures schema).rows (modelsByRelations schema) := by
  rw [← map_model_breakdown, figures, List.forall₂_map_left_iff, List.forall₂_map_right_iff]
  exact List.forall₂_same.mpr fun s _ => ⟨rfl, rfl, rfl, rfl, rfl⟩

/-- The rows are in the order of their relations. -/
theorem pairwise_rows :
    (figures schema).rows.Pairwise fun row later => later.relations ≤ row.relations := by
  have sorted := (ranked_modelsByRelations schema).sorted
  rw [← map_model_breakdown, List.pairwise_map] at sorted
  exact List.pairwise_map.mpr sorted

/-- References to enums are counted model by model, in whatever order. -/
theorem sum_enumFields :
    ((figures schema).rows.map (·.enumFields)).sum = (enumFields schema).length := by
  have perm := (ranked_modelsByRelations schema).perm
  have rows : (figures schema).rows.map (·.enumFields) =
      (modelsByRelations schema).map fun m => m.countKind .enum := by
    rw [← map_model_breakdown, figures, List.map_map, List.map_map]
    rfl
  rw [rows, (perm.map _).sum_eq, length_enumFields]

end Rows

/-- In a list whose items only ever get smaller, the first one is the greatest and the last one the
least. -/
theorem ends_of_pairwise {α : Type} {size : α → Nat} {items : List α}
    (sorted : items.Pairwise fun a b => size b ≤ size a) :
    (∀ first ∈ items.head?, ∀ a ∈ items, size a ≤ size first) ∧
      ∀ last ∈ items.getLast?, ∀ a ∈ items, size last ≤ size a := by
  constructor
  · intro first isFirst a member
    obtain ⟨rest, rfl⟩ := List.head?_eq_some_iff.mp isFirst
    rcases List.mem_cons.mp member with rfl | member
    · exact le_refl _
    · exact (List.pairwise_cons.mp sorted).1 a member
  · intro last isLast a member
    obtain ⟨front, rfl⟩ := List.getLast?_eq_some_iff.mp isLast
    rcases List.mem_append.mp member with inFront | isHere
    · exact (List.pairwise_append.mp sorted).2.2 a inFront last (List.mem_singleton_self last)
    · rw [List.mem_singleton.mp isHere]

/-- The statistics in the graph of a text say figures that balance: every sum of relations, of
references and of fields comes out the same however it is taken, the models are ranked by their
relations, so that the two that are named are the best and the least connected ones, and no more
enums are referred to than there are. -/
theorem statistics_balance (text : String) :
    ∃ stats, ∃ f : Figures, (graph (ofText text)).stats = some stats ∧
      f.IsSaidBy (.table stats) ∧ f.Balance (ofText text) := by
  generalize read : ofText text = schema
  have sorted := pairwise_rows schema
  obtain ⟨greatest, least⟩ := ends_of_pairwise sorted
  refine ⟨graphStatistics schema, figures schema, rfl, figures_isSaidBy schema, ?_⟩
  exact {
    drawn := length_relations schema
    byCardinality := (overCardinalities_countRelations schema).symm
    byModel := by
      rw [figures, List.map_map]
      exact (sum_breakdown schema).symm
    drawnReferences := length_enumReferences schema
    references := (sum_enumFields schema).symm
    fields := by
      intro row isRow
      obtain ⟨s, -, rfl⟩ := List.mem_map.mp isRow
      exact s.model.sum_countKind
    ranked := ⟨modelsByRelations schema, ranked_modelsByRelations schema, forall₂_describe schema⟩
    most := by
      have first : (figures schema).mostConnected = (figures schema).rows.head? :=
        List.head?_map.symm
      rw [first]
      refine ⟨by cases (figures schema).rows <;> rfl, fun best isFirst => ?_⟩
      exact ⟨List.mem_of_mem_head? isFirst, greatest best isFirst⟩
    least := by
      have last : (figures schema).leastConnected = (figures schema).rows.getLast? :=
        List.getLast?_map.symm
      rw [last]
      refine ⟨?_, fun worst isLast => ⟨List.mem_of_getLast? isLast, least worst isLast⟩⟩
      rw [Bool.eq_iff_iff, List.getLast?_isSome]
      simp
    used := read ▸ length_usedEnums_le text }

end SiteAtlas.Schema
