import SiteAtlas.Proofs.Schema.FieldKinds
import SiteAtlas.Proofs.Text.Lines

/-! # Schemas one behind the other

A reader that is outside of any block knows nothing but the blocks that it has finished, and what it
reads from there on comes behind them. So a text put together from two is read part by part, as long
as the first part closes its blocks, and what the fields hold is settled anew over both parts.
-/

namespace SiteAtlas

/-- Two schemas, one behind the other. The provider that is set last counts. -/
def Schema.append (first second : Schema) : Schema where
  models := first.models ++ second.models
  enums := first.enums ++ second.enums
  provider := second.provider.or first.provider
  generators := first.generators ++ second.generators

instance : Append Schema := ⟨Schema.append⟩

namespace Schema

section Append

variable (a b c : Schema)

@[simp] theorem models_append : (a ++ b).models = a.models ++ b.models := rfl

@[simp] theorem enums_append : (a ++ b).enums = a.enums ++ b.enums := rfl

@[simp] theorem provider_append : (a ++ b).provider = b.provider.or a.provider := rfl

@[simp] theorem generators_append : (a ++ b).generators = a.generators ++ b.generators := rfl

@[ext] theorem ext' {a b : Schema} (models : a.models = b.models) (enums : a.enums = b.enums)
    (provider : a.provider = b.provider) (generators : a.generators = b.generators) : a = b := by
  cases a
  cases b
  simp_all

theorem append_empty : a ++ ({} : Schema) = a := by
  ext1 <;> simp

theorem append_assoc : a ++ b ++ c = a ++ (b ++ c) := by
  ext1 <;> simp [Option.or_assoc]

end Append

/-! ## Reading on -/

/-- A reader that has finished the blocks `before` more than another one, and is inside of the same
block. -/
structure ReadState.Extends (before : Schema) (s s' : ReadState) : Prop where
  schema : s.schema = before ++ s'.schema
  block : s.block = s'.block

namespace ReadState.Extends

variable {before : Schema} {s s' : ReadState}

theorem close (more : Extends before s s') : s.close = before ++ s'.close := by
  obtain ⟨schema, block, sawBlock⟩ := s'
  unfold ReadState.close
  rw [more.schema, more.block]
  cases block with
  | none => rfl
  | some block =>
    cases block with
    | model m => ext1 <;> simp
    | enum e => ext1 <;> simp
    | datasource | generator | other => rfl

/-- A line opens, closes and fills the same blocks, whatever was finished before. -/
theorem addLine (more : Extends before s s') (line : List Char) :
    Extends before (s.addLine line) (s'.addLine line) := by
  have closed (sawBlock sawBlock' : Bool) :
      Extends before ⟨s.close, none, sawBlock⟩ ⟨s'.close, none, sawBlock'⟩ := ⟨more.close, rfl⟩
  obtain ⟨schema, block, sawBlock⟩ := s
  obtain ⟨schema', block', sawBlock'⟩ := s'
  obtain rfl : schema = before ++ schema' := more.schema
  obtain rfl : block = block' := more.block
  unfold ReadState.addLine
  split
  · exact more
  · cases block with
    | none =>
      dsimp only
      split
      · exact more
      next header _ =>
        have opened : Extends before ⟨before ++ schema', some (.ofHeader header), true⟩
            ⟨schema', some (.ofHeader header), true⟩ := ⟨rfl, rfl⟩
        split
        · exact ⟨opened.close, rfl⟩
        · exact opened
    | some block =>
      dsimp only
      split
      · exact closed _ _
      · cases block with
        | model m => exact ⟨rfl, rfl⟩
        | enum e => exact ⟨rfl, rfl⟩
        | datasource =>
          dsimp only
          split
          · exact ⟨by ext1 <;> simp, rfl⟩
          · exact more
        | generator =>
          dsimp only
          split
          · exact ⟨by ext1 <;> simp, rfl⟩
          · exact more
        | other => exact more

theorem foldl_addLine (more : Extends before s s') (lines : List (List Char)) :
    Extends before (lines.foldl ReadState.addLine s) (lines.foldl ReadState.addLine s') := by
  induction lines generalizing s s' with
  | nil => exact more
  | cons line rest ih => exact ih (more.addLine line)

end ReadState.Extends

/-- A reader passes over an empty line. -/
theorem ReadState.addLine_nil (s : ReadState) : s.addLine [] = s := rfl

/-- A reader that is outside of any block reads on as if the second text were all. -/
theorem scan_append {first second : List Char} (outside : (scan first).block = none) :
    ReadState.Extends (scan first).close (scan (first ++ '\n' :: second)) (scan second) := by
  have finished : (scan first).close = (scan first).schema := by rw [ReadState.close, outside]
  have start : ReadState.Extends (scan first).close (scan first) {} :=
    ⟨by rw [finished, append_empty], outside⟩
  have whole : scan (first ++ '\n' :: second) =
      ((Text.lines second).map tidyLine).foldl ReadState.addLine (scan first) := by
    have empty : tidyLine [] = [] := rfl
    rcases Text.linesFrom_append [] first second with lines | lines
    · rw [scan, Text.lines, lines, List.map_append, List.foldl_append]
      rfl
    · rw [scan, Text.lines, lines, List.map_append, List.map_cons, List.foldl_append,
        List.foldl_cons, empty, ReadState.addLine_nil]
      rfl
  rw [whole]
  exact start.foldl_addLine _

/-! ## Settling once more -/

section Settling

variable {models enums models' enums' : List String} {model : String}

/-- What a field holds is the same whether it was settled before, with fewer names known, or not. -/
theorem Field.resolve_resolve (known : models ⊆ models') (known' : enums ⊆ enums') (f : Field) :
    (f.resolve models enums model).resolve models' enums' model =
      f.resolve models' enums' model := by
  by_cases isModel : f.type ∈ models
  · have stays : f.type ∈ models' := known isModel
    by_cases unnamed : (f.relationName.getD "").isEmpty = true
    · simp [resolve, isModel, stays, unnamed, impliedRelationName]
    · simp [resolve, isModel, stays, unnamed]
  · by_cases isEnum : f.type ∈ enums
    · have stays : f.type ∈ enums' := known' isEnum
      simp [resolve, isModel, isEnum, stays]
    · simp [resolve, isModel, isEnum]

end Settling

/-- The names in both schemas settle again what the names in one of them had settled. -/
theorem resolveKinds_append (a b : Schema) :
    (a.resolveKinds ++ b.resolveKinds).resolveKinds = (a ++ b).resolveKinds := by
  have again (part : Schema) (known : part.models.map (·.name) ⊆ (a ++ b).models.map (·.name))
      (known' : part.enums.map (·.name) ⊆ (a ++ b).enums.map (·.name)) :
      part.resolveKinds.models.map
          (Model.resolve ((a ++ b).models.map (·.name)) ((a ++ b).enums.map (·.name))) =
        part.models.map
          (Model.resolve ((a ++ b).models.map (·.name)) ((a ++ b).enums.map (·.name))) := by
    rw [models_resolveKinds, List.map_map]
    refine List.map_congr_left fun m _ => congrArg (fun fields => { m with fields := fields }) ?_
    rw [Model.resolve, List.map_map]
    exact List.map_congr_left fun f _ => Field.resolve_resolve known known' f
  have names : (a.resolveKinds ++ b.resolveKinds).models.map (·.name) =
      (a ++ b).models.map (·.name) := by
    simp only [models_append, List.map_append, map_name_resolveKinds]
  have split : (a ++ b).models.map
        (Model.resolve ((a ++ b).models.map (·.name)) ((a ++ b).enums.map (·.name))) =
      a.models.map (Model.resolve _ _) ++ b.models.map (Model.resolve _ _) := List.map_append
  ext1
  · rw [models_resolveKinds, names, models_resolveKinds, split]
    refine List.map_append.trans (congrArg₂ (· ++ ·) (again a ?_ ?_) (again b ?_ ?_)) <;> simp
  · rfl
  · rfl
  · rfl

/-- A text that closes its blocks is read independently of a text below it, and the other way round:
the blocks of both come one behind the other, the provider is that of the second text if it sets
one, and what the fields hold is settled by the names in both texts, so that a field whose type is
declared in the other text comes out right. -/
theorem ofText_append {first second : String} (outside : (scan first.toList).block = none) :
    ofText (first ++ "\n" ++ second) = (ofText first ++ ofText second).resolveKinds ∧
    ∀ m ∈ (ofText (first ++ "\n" ++ second)).models, ∀ f ∈ m.fields,
      f.kind = if f.type ∈ (ofText first ++ ofText second).models.map (·.name) then .object
        else if f.type ∈ (ofText first ++ ofText second).enums.map (·.name) then .enum
        else .scalar := by
  have whole : ofText (first ++ "\n" ++ second) =
      (ofText first ++ ofText second).resolveKinds := by
    have chars : (first ++ "\n" ++ second).toList = first.toList ++ '\n' :: second.toList := by simp
    rw [ofText, chars, (scan_append outside).close, ofText, ofText, resolveKinds_append]
  refine ⟨whole, fun m isModel f isField => ?_⟩
  have settled := kind_of_mem_ofText isModel isField
  rw [whole, map_name_resolveKinds] at settled
  exact settled

/-- A model whose fields have types that are declared elsewhere. -/
def ordersText : String := "model Order \x7b\n  buyer Buyer\n  state State\n\x7d\n"

/-- The model and the enum that it refers to, and a name of the kind of database. -/
def buyersText : String :=
  "datasource db \x7b\n  provider = \"sqlite\"\n\x7d\nmodel Buyer \x7b\n  orders Order[]\n\x7d\n" ++
    "enum State \x7b\n  OPEN\n\x7d\n"

/-- Read alone, the fields of the order are plain ones; together with the other text one refers to
a model and the other takes the values of an enum. -/
theorem ofText_orders_buyers :
    (scan ordersText.toList).block = none ∧
    ofText (ordersText ++ "\n" ++ buyersText) =
      (ofText ordersText ++ ofText buyersText).resolveKinds ∧
    (ofText ordersText).models.map (fun m => m.fields.map (·.kind)) = [[.scalar, .scalar]] ∧
    (ofText (ordersText ++ "\n" ++ buyersText)).models.map (fun m => m.fields.map (·.kind)) =
      [[.object, .enum], [.object]] := by
  have outside : (scan ordersText.toList).block = none := rfl
  have both := (@ofText_append ordersText buyersText outside).1
  exact ⟨outside, both, by decide +kernel, by rw [both]; decide +kernel⟩

end Schema

end SiteAtlas
