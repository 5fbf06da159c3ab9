import SiteAtlas.Schema.Graph
import SiteAtlas.Schema.Tally
import SiteAtlas.Proofs.Schema.Blocks

/-! # The fields that are counted as relations

The overview of a schema takes a field for the side of a relation if its line carries the tag of
relations, whatever its type. So the sides that it counts are the tagged fields of the schema, each
with the model it stands in, its type, and whether it is a list.
-/

namespace SiteAtlas.Schema

open Text

/-- Whether a line carries the tag of relations. -/
def isTagged (line : List Char) : Bool := contains "@relation".toList line

/-- The field that a line of a model's block declares, what it holds being open. -/
def declared? (line : List Char) : Option Field :=
  if (after? ['@', '@'] line).isSome then none else field? line

namespace Block

/-- The lines of a block that declare fields. -/
def fieldLines (b : Block) : List (List Char) := b.body.filter fun line => (declared? line).isSome

/-- A block that closes itself and in which no line reads like the header of another one. -/
structure Plain (b : Block) : Prop extends b.Closes where
  noHeader : ∀ line ∈ b.body, header? line = none

instance (b : Block) : Decidable b.Plain :=
  decidable_of_iff (b.Closes ∧ ∀ line ∈ b.body, header? line = none)
    ⟨fun ⟨closes, noHeader⟩ => ⟨closes, noHeader⟩, fun plain => ⟨plain.toCloses, plain.noHeader⟩⟩

end Block

/-- The blocks of models. -/
def modelBlocks (blocks : List Block) : List Block := blocks.filter (·.kind = .model)

/-- The line that declares a field. -/
def lineOf? (blocks : List Block) (a : FieldAt) : Option (List Char) :=
  (modelBlocks blocks)[a.modelIndex]?.bind (·.fieldLines[a.fieldIndex]?)

/-- Whether the line that declares a field carries the tag of relations. -/
def taggedAt (blocks : List Block) (a : FieldAt) : Bool := (lineOf? blocks a).any isTagged

/-! ## Lines that begin with a word -/

section Halts

variable {line : List Char}

theorem after?_eq_none_of_halts (halts : Halts isWord line) {start : List Char}
    (first : start.head?.any isWord = true) : after? start line = none := by
  obtain ⟨c, isFirst, word⟩ := (Option.any_eq_true _ _).mp first
  obtain ⟨rest, rfl⟩ : ∃ rest, start = c :: rest := List.head?_eq_some_iff.mp isFirst
  cases line with
  | nil => rfl
  | cons d line =>
    refine if_neg ?_
    rintro rfl
    simp [halts_cons.mp halts] at word

theorem header?_eq_none_of_halts (halts : Halts isWord line) : header? line = none := by
  refine List.findSome?_eq_none_iff.mpr fun (kind, keyword) member => ?_
  have first : keyword.toList.head?.any isWord = true := by
    revert member
    simp only [BlockKind.keywords, List.mem_cons, Prod.mk.injEq, List.not_mem_nil, or_false]
    rintro (⟨-, rfl⟩ | ⟨-, rfl⟩ | ⟨-, rfl⟩ | ⟨-, rfl⟩ | ⟨-, rfl⟩ | ⟨-, rfl⟩) <;> decide
  dsimp only
  rw [after?_eq_none_of_halts halts first]

theorem fieldLine?_eq_none_of_halts (halts : Halts isWord line) : fieldLine? line = none := by
  rw [fieldLine?, halts.takeWhile_eq]
  rfl

/-- A line that is passed over does not begin with a word. -/
theorem halts_of_isPassedOver (passed : isPassedOver line = true) : Halts isWord line := by
  simp only [isPassedOver, Bool.or_eq_true, List.isEmpty_iff, List.any_eq_true, List.mem_cons,
    List.not_mem_nil, or_false, exists_eq_or_imp, exists_eq_left, Option.isSome_iff_exists,
    after?_eq_some_iff] at passed
  rcases passed with rfl | ⟨rest, rfl⟩ | ⟨rest, rfl⟩ | ⟨rest, rfl⟩
  · exact halts_nil
  · exact (halts_cons (c := '/')).mpr (by decide)
  · exact (halts_cons (c := '/')).mpr (by decide)
  · exact (halts_cons (c := '*')).mpr (by decide)

end Halts

/-! ## Counting a block -/

/-- The side of a relation that a line of a model's block declares. -/
def relationLine? (block : String) (line : List Char) : Option RelationLine :=
  if isTagged line then (declared? line).map fun f => ⟨block, f.type, f.isList⟩ else none

theorem Tally.relations_addField (t : Tally) (block : String) (line : List Char)
    (parts : FieldLine) : (t.addField block line parts).relations =
      if isTagged line then
        t.relations ++ [⟨block, String.ofList parts.type, parts.isList⟩]
      else t.relations := rfl

/-- Counting a line of a model's block adds the side that it declares. -/
theorem Tally.relations_addInside (t : Tally) (block : String) (line : List Char) :
    (t.addInside .model block line).relations =
        t.relations ++ (relationLine? block line).toList ∧
      (t.addInside .model block line).context = t.context := by
  unfold addInside relationLine? declared?
  dsimp only
  by_cases isBlock : (after? ['@', '@'] line).isSome = true
  · rw [if_pos isBlock, if_pos isBlock, Option.map_none, ite_self, Option.toList_none,
      List.append_nil]
    exact ⟨rfl, rfl⟩
  · rw [if_neg isBlock, if_neg isBlock, field?]
    cases fieldLine? line with
    | none => simp
    | some parts =>
      refine ⟨?_, rfl⟩
      dsimp only
      rw [relations_addField]
      cases isTagged line <;> simp

theorem relationLine?_eq_none_of_halts {line : List Char} (halts : Halts isWord line)
    (block : String) : relationLine? block line = none := by
  have noField : field? line = none := by
    rw [field?, fieldLine?_eq_none_of_halts halts, Option.map_none]
  unfold relationLine? declared?
  rw [noField]
  split_ifs <;> rfl

/-- The sides of relations that a block declares. -/
def Block.relationLines (b : Block) : List RelationLine :=
  if b.kind = .model then b.body.filterMap (relationLine? b.name) else []

section Inside

variable {lines : List (List Char)} (goesOn : ∀ line ∈ lines, line.head? ≠ some '\x7d')
  (noHeader : ∀ line ∈ lines, header? line = none) {t : Tally} {name : String}
include goesOn noHeader

theorem foldl_addLine_inside_model (inside : t.context = some (.model, name)) :
    (lines.foldl Tally.addLine t).relations =
      t.relations ++ lines.filterMap (relationLine? name) := by
  induction lines generalizing t with
  | nil => simp
  | cons line rest ih =>
    obtain ⟨here, goesOn⟩ := List.forall_mem_cons.mp goesOn
    obtain ⟨noHeaderHere, noHeader⟩ := List.forall_mem_cons.mp noHeader
    have step : (t.addLine line).relations = t.relations ++ (relationLine? name line).toList ∧
        (t.addLine line).context = t.context := by
      rw [Tally.addLine, noHeaderHere]
      cases passed : isPassedOver line with
      | true =>
        rw [relationLine?_eq_none_of_halts (halts_of_isPassedOver passed)]
        simp
      | false =>
        dsimp only
        rw [if_neg Bool.false_ne_true, if_neg here]
        have added := t.relations_addInside name line
        rw [inside] at added ⊢
        exact added
    rw [List.foldl_cons, ih goesOn noHeader (step.2.trans inside), step.1, List.append_assoc,
      List.filterMap_cons]
    cases relationLine? name line <;> rfl

theorem foldl_addLine_inside_enum (inside : t.context = some (.enum, name)) :
    lines.foldl Tally.addLine t = t := by
  induction lines with
  | nil => rfl
  | cons line rest ih =>
    obtain ⟨here, goesOn⟩ := List.forall_mem_cons.mp goesOn
    obtain ⟨noHeaderHere, noHeader⟩ := List.forall_mem_cons.mp noHeader
    have step : t.addLine line = t := by
      rw [Tally.addLine, noHeaderHere]
      dsimp only
      rw [if_neg here, inside]
      exact ite_self t
    rw [List.foldl_cons, step, ih goesOn noHeader]

end Inside

theorem Tally.addLine_header {line : List Char} {kind : BlockKind} {name : String}
    (opens : header? line = some (kind, name)) (t : Tally) :
    t.addLine line = t.openBlock kind name := by
  have counts : isPassedOver line = false := by
    refine Bool.eq_false_iff.mpr fun passed => ?_
    rw [header?_eq_none_of_halts (halts_of_isPassedOver passed)] at opens
    cases opens
  rw [addLine, counts, opens]
  rfl

theorem Tally.addLine_closing {line : List Char} (closing : line.head? = some '\x7d') (t : Tally) :
    (t.addLine line).relations = t.relations := by
  obtain ⟨rest, rfl⟩ := List.head?_eq_some_iff.mp closing
  rw [addLine, header?_eq_none_of_halts (halts_cons.mpr (by decide))]
  split <;> rfl

/-- Counting the lines of a block adds the sides that it declares. -/
theorem Block.Plain.relations_foldl {b : Block} (plain : b.Plain) (t : Tally) :
    (b.lines.foldl Tally.addLine t).relations = t.relations ++ b.relationLines := by
  have goesOn : ∀ line ∈ b.body, line.head? ≠ some '\x7d' :=
    fun line member => (plain.inside line member).2
  rw [lines, List.foldl_cons, List.foldl_append, List.foldl_cons, List.foldl_nil,
    Tally.addLine_closing plain.closing, Tally.addLine_header plain.header, relationLines]
  rcases plain.kind with kind | kind
  · rw [kind, if_pos rfl, foldl_addLine_inside_model goesOn plain.noHeader rfl]
    rfl
  · rw [kind, if_neg (by decide), foldl_addLine_inside_enum goesOn plain.noHeader rfl,
      List.append_nil]
    rfl

/-- Empty lines are not counted. -/
theorem foldl_addLine_filled (lines : List (List Char)) (t : Tally) :
    (lines.filter (· ≠ [])).foldl Tally.addLine t = lines.foldl Tally.addLine t := by
  induction lines generalizing t with
  | nil => rfl
  | cons line rest ih =>
    by_cases empty : line = []
    · rw [List.filter_cons_of_neg (by simpa using empty), List.foldl_cons, empty, ih]
      rfl
    · rw [List.filter_cons_of_pos (by simpa using empty), List.foldl_cons, List.foldl_cons, ih]

/-- In a text of blocks the sides are counted block by block. -/
theorem IsMadeOf.relations_tally {text : String} {blocks : List Block}
    (made : IsMadeOf text blocks) (plain : ∀ b ∈ blocks, b.Plain) :
    (tally text).relations = blocks.flatMap Block.relationLines := by
  have run (blocks : List Block) (plain : ∀ b ∈ blocks, b.Plain) (t : Tally) :
      ((blocks.flatMap Block.lines).foldl Tally.addLine t).relations =
        t.relations ++ blocks.flatMap Block.relationLines := by
    induction blocks generalizing t with
    | nil => exact (List.append_nil _).symm
    | cons b rest ih =>
      obtain ⟨here, below⟩ := List.forall_mem_cons.mp plain
      rw [List.flatMap_cons, List.foldl_append, ih below, here.relations_foldl, List.flatMap_cons,
        List.append_assoc]
  rw [tally, ← foldl_addLine_filled, made.lines, run blocks plain]
  rfl

/-! ## The fields of the schema -/

theorem Model.fields_addLine (m : Model) (line : List Char) :
    (m.addLine line).fields = m.fields ++ (declared? line).toList := by
  unfold addLine declared?
  split
  · rw [fields_addAttribute, Option.toList_none, List.append_nil]
  · cases field? line <;> simp

namespace Block

variable (b : Block)

theorem name_model : b.model.name = b.name :=
  List.foldlRecOn b.body Model.addLine (motive := fun m => m.name = b.name) rfl
    fun m same line _ => (m.name_addLine line).trans same

theorem fields_model : b.model.fields = b.body.filterMap declared? := by
  have run (lines : List (List Char)) (m : Model) :
      (lines.foldl Model.addLine m).fields = m.fields ++ lines.filterMap declared? := by
    induction lines generalizing m with
    | nil => simp
    | cons line rest ih =>
      rw [List.foldl_cons, ih, Model.fields_addLine, List.append_assoc, List.filterMap_cons]
      cases declared? line <;> rfl
  exact run b.body { name := b.name }

/-- The field that a line declares. -/
def fieldOf (line : List Char) : Field := (declared? line).getD default

/-- The side of a relation that a line declares. -/
def sideOf (line : List Char) : RelationLine := ⟨b.name, (fieldOf line).type, (fieldOf line).isList⟩

theorem fields_model_eq_map : b.model.fields = b.fieldLines.map fieldOf := by
  rw [fields_model, fieldLines]
  induction b.body with
  | nil => rfl
  | cons line rest ih =>
    cases declared : declared? line <;> simp [declared, ih, fieldOf]

theorem relationLines_eq_map (kind : b.kind = .model) :
    b.relationLines = (b.fieldLines.filter isTagged).map b.sideOf := by
  rw [relationLines, if_pos kind, fieldLines]
  induction b.body with
  | nil => rfl
  | cons line rest ih =>
    cases tagged : isTagged line <;> cases declared : declared? line <;>
      simp [relationLine?, tagged, declared, sideOf, fieldOf] <;> simpa using ih

end Block

/-- Only models declare sides of relations. -/
theorem flatMap_relationLines (blocks : List Block) : blocks.flatMap Block.relationLines =
    (modelBlocks blocks).flatMap Block.relationLines := by
  unfold modelBlocks
  induction blocks with
  | nil => rfl
  | cons b rest ih =>
    by_cases kind : b.kind = .model
    · rw [List.flatMap_cons, List.filter_cons_of_pos (by simpa using kind), List.flatMap_cons, ih]
    · rw [List.flatMap_cons, List.filter_cons_of_neg (by simpa using kind), Block.relationLines,
        if_neg kind, List.nil_append, ih]

/-- The side of a relation that a field is. -/
def FieldAt.side (a : FieldAt) : RelationLine := ⟨a.model.name, a.field.type, a.field.isList⟩

/-- The sides that the tagged fields of a schema are. -/
def taggedSides (schema : Schema) (tagged : FieldAt → Bool) : List RelationLine :=
  ((fieldsAt schema).filter tagged).map FieldAt.side

theorem Field.isList_resolve (f : Field) (models enums : List String) (model : String) :
    (f.resolve models enums model).isList = f.isList := by
  unfold resolve
  split_ifs <;> rfl

section Sides

variable {text : String} {blocks : List Block} (made : IsMadeOf text blocks)
include made

/-- The models of a text of blocks come block by block. -/
theorem IsMadeOf.exists_models : ∃ models enums : List String, (ofText text).models =
    (modelBlocks blocks).map fun b => b.model.resolve models enums := by
  refine ⟨(modelsOf blocks).map (·.name), (enumsOf blocks).map (·.name), ?_⟩
  rw [ofText, made.close_scan, models_resolveKinds, schemaOf, modelsOf, modelBlocks, List.map_map]
  rfl

/-- The sides that are counted are the tagged fields of the schema. -/
theorem IsMadeOf.relations_tally_eq_taggedSides (plain : ∀ b ∈ blocks, b.Plain) :
    (tally text).relations = taggedSides (ofText text) (taggedAt blocks) := by
  obtain ⟨models, enums, same⟩ := made.exists_models
  have counted : blocks.flatMap Block.relationLines =
      (modelBlocks blocks).zipIdx.flatMap fun (b, _) =>
        (b.fieldLines.filter isTagged).map b.sideOf := by
    rw [flatMap_relationLines, ← List.zipIdx_map_fst 0 (modelBlocks blocks), List.flatMap_map,
      List.zipIdx_map_fst]
    refine List.flatMap_congr fun (b, i) member => b.relationLines_eq_map ?_
    exact of_decide_eq_true (List.mem_filter.mp (List.fst_mem_of_mem_zipIdx member)).2
  rw [made.relations_tally plain, counted, taggedSides, fieldsAt, same, List.zipIdx_map,
    List.flatMap_map, List.filter_flatMap, List.map_flatMap]
  refine List.flatMap_congr fun (b, i) isBlock => ?_
  have atBlock : (modelBlocks blocks)[i]? = some b := List.mem_zipIdx_iff_getElem?.mp isBlock
  have fields : (b.model.resolve models enums).fields =
      b.fieldLines.map fun line => (Block.fieldOf line).resolve models enums b.name := by
    rw [Model.resolve, b.fields_model_eq_map, b.name_model, List.map_map]
    rfl
  have tags : ∀ p ∈ b.fieldLines.zipIdx, isTagged p.1 =
      taggedAt blocks ⟨i, b.model.resolve models enums, p.2,
        (Block.fieldOf p.1).resolve models enums b.name⟩ := by
    intro p isLine
    rw [taggedAt, lineOf?, atBlock, Option.bind_some, List.mem_zipIdx_iff_getElem?.mp isLine,
      Option.any_some]
  have sides (p : List Char × Nat) : b.sideOf p.1 =
      FieldAt.side ⟨i, b.model.resolve models enums, p.2,
        (Block.fieldOf p.1).resolve models enums b.name⟩ := by
    rw [FieldAt.side, Field.type_resolve, Field.isList_resolve, Model.resolve, b.name_model,
      Block.sideOf]
  dsimp only [Prod.map, id]
  rw [fields, List.zipIdx_map, List.map_map, List.filter_map, List.map_map,
    ← List.zipIdx_map_fst 0 b.fieldLines, List.filter_map, List.map_map, List.zipIdx_map_fst]
  exact (congrArg (List.map _) (List.filter_congr tags)).trans
    (List.map_congr_left fun p _ => sides p)

end Sides

end SiteAtlas.Schema
