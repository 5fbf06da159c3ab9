import SiteAtlas.Schema.Reader
import Mathlib.Data.List.TakeWhile

/-! # What the fields of a schema hold

Reading the lines of a text leaves every field a plain one, and the names of models and fields are
words. What a field holds is settled once all blocks are known, and by the names of the models and
enums alone: a field refers to a model exactly if its type is the name of one, and then the relation
that it belongs to has a name.
-/

namespace SiteAtlas.Schema

open Text

/-! ## Reading -/

/-- The name of a block is a word. -/
theorem isWord_of_header? {line : List Char} {kind : BlockKind} {name : String}
    (opens : header? line = some (kind, name)) : ∀ c ∈ name.toList, isWord c = true := by
  obtain ⟨⟨_, keyword⟩, -, found⟩ := List.exists_of_findSome?_eq_some opens
  dsimp only at found
  split at found
  · split at found
    · obtain ⟨-, rfl⟩ := Prod.mk.inj (Option.some.inj found)
      intro c member
      rw [String.toList_ofList] at member
      exact List.mem_takeWhile_imp member
    · cases found
  · cases found

theorem name_of_fieldLine? {line : List Char} {parts : FieldLine}
    (declares : fieldLine? line = some parts) : parts.name = line.takeWhile isWord := by
  unfold fieldLine? at declares
  dsimp only at declares
  split at declares
  · cases declares
  · rw [← Option.some.inj declares]

/-- The name of a field is a word. -/
theorem isWord_of_field? {line : List Char} {f : Field} (declares : field? line = some f) :
    ∀ c ∈ f.name.toList, isWord c = true := by
  obtain ⟨parts, split, rfl⟩ := Option.map_eq_some_iff.mp declares
  intro c member
  rw [String.toList_ofList, name_of_fieldLine? split] at member
  exact List.mem_takeWhile_imp member

/-- A block attribute says nothing about the fields. -/
theorem Model.fields_addAttribute (m : Model) (line : List Char) :
    (m.addAttribute line).fields = m.fields := by
  unfold addAttribute
  split
  · rfl
  · rfl
  · rfl
  · split <;> rfl
  · rfl

theorem Model.name_addLine (m : Model) (line : List Char) : (m.addLine line).name = m.name := by
  unfold addLine addAttribute
  split
  · split
    · rfl
    · rfl
    · rfl
    · split <;> rfl
    · rfl
  · split <;> rfl

/-- A line of a model's block adds the field that it declares, if any. -/
theorem Model.mem_fields_addLine {m : Model} {line : List Char} {f : Field}
    (member : f ∈ (m.addLine line).fields) : f ∈ m.fields ∨ field? line = some f := by
  unfold addLine at member
  split at member
  · rw [fields_addAttribute] at member
    exact .inl member
  · split at member
    next g declared =>
      rcases List.mem_append.mp member with old | isNew
      · exact .inl old
      · obtain rfl := List.mem_singleton.mp isNew
        exact .inr declared
    next => exact .inl member

section Run

variable {P : Model → Prop}
  (empty : ∀ line name, header? line = some (.model, name) → P { name := name })
  (keeps : ∀ m line, P m → P (m.addLine line))

include empty in
/-- A block that was just opened is a model without fields, if it is a model at all. -/
theorem forall_models_open {schema : Schema} (sawBlock : Bool) {line : List Char}
    {header : BlockKind × String} (opens : header? line = some header)
    (holds : ∀ m ∈ schema.models, P m) :
    ∀ m ∈ (ReadState.close ⟨schema, some (.ofHeader header), sawBlock⟩).models, P m := by
  obtain ⟨kind, name⟩ := header
  cases kind with
  | model =>
    have here := empty line name opens
    exact List.forall_mem_append.mpr ⟨holds, List.forall_mem_singleton.mpr here⟩
  | enum | view | type | datasource | generator => exact holds

include empty keeps in
/-- What holds of every model that a header opens and survives every line of a block holds of all
models that a reader has read, the one it is inside of among them. -/
theorem forall_models_addLine (s : ReadState) (line : List Char)
    (holds : ∀ m ∈ s.close.models, P m) : ∀ m ∈ (s.addLine line).close.models, P m := by
  obtain ⟨schema, block, sawBlock⟩ := s
  unfold ReadState.addLine
  split
  · exact holds
  · cases block with
    | none =>
      dsimp only
      split
      · exact holds
      next header opens =>
        have opened := forall_models_open empty true opens holds
        split <;> exact opened
    | some block =>
      dsimp only
      split
      · exact holds
      · cases block with
        | model m =>
          obtain ⟨before, here⟩ := List.forall_mem_append.mp holds
          refine List.forall_mem_append.mpr ⟨before, List.forall_mem_singleton.mpr ?_⟩
          exact keeps m line (List.forall_mem_singleton.mp here)
        | datasource | generator => dsimp only; split <;> exact holds
        | enum e | other => exact holds

include empty keeps in
/-- The same for all lines of a text. -/
theorem forall_models_scan (text : List Char) : ∀ m ∈ (scan text).close.models, P m :=
  List.foldlRecOn _ ReadState.addLine (motive := fun s : ReadState => ∀ m ∈ s.close.models, P m)
    (fun _ member => absurd member List.not_mem_nil)
    fun s holds line _ => forall_models_addLine empty keeps s line holds

end Run

/-- Every field is a plain one when it is read. -/
theorem kind_of_mem_scan (text : List Char) :
    ∀ m ∈ (scan text).close.models, ∀ f ∈ m.fields, f.kind = .scalar := by
  refine forall_models_scan (fun _ _ _ _ member => absurd member List.not_mem_nil) ?_ text
  intro m line plain f member
  rcases Model.mem_fields_addLine member with old | declared
  · exact plain f old
  · obtain ⟨parts, -, rfl⟩ := Option.map_eq_some_iff.mp declared
    rfl

/-- Whether the name of a model and the names of its fields are words. -/
structure Model.NamedByWords (m : Model) : Prop where
  name : ∀ c ∈ m.name.toList, isWord c = true
  fields : ∀ f ∈ m.fields, ∀ c ∈ f.name.toList, isWord c = true

namespace Model.NamedByWords

variable {m : Model} (named : m.NamedByWords)
include named

theorem dash_notMem_name : '-' ∉ m.name.toList :=
  fun member => absurd (named.name _ member) (by decide)

theorem dash_notMem_fieldName {f : Field} (isField : f ∈ m.fields) : '-' ∉ f.name.toList :=
  fun member => absurd (named.fields f isField _ member) (by decide)

end Model.NamedByWords

/-- Every name is a word when it is read. -/
theorem namedByWords_of_mem_scan (text : List Char) :
    ∀ m ∈ (scan text).close.models, m.NamedByWords := by
  refine forall_models_scan (fun _ _ opens => ?_) (fun m line named => ?_) text
  · exact ⟨isWord_of_header? opens, fun _ member => absurd member List.not_mem_nil⟩
  · refine ⟨(m.name_addLine line).symm ▸ named.name, fun f member => ?_⟩
    rcases Model.mem_fields_addLine member with old | declared
    · exact named.fields f old
    · exact isWord_of_field? declared

/-! ## Settling -/

theorem impliedRelationName_ne_empty (model type : String) :
    impliedRelationName model type ≠ "" := by
  intro same
  have chars := congrArg String.toList same
  simp [impliedRelationName] at chars

section Settled

variable {models enums : List String} {model : String} {f : Field}

theorem Field.type_resolve : (f.resolve models enums model).type = f.type := by
  unfold resolve
  split_ifs <;> rfl

theorem Field.name_resolve : (f.resolve models enums model).name = f.name := by
  unfold resolve
  split_ifs <;> rfl

/-- The names of the models and enums alone tell what a field holds. A name that both a model and
an enum have is taken for that of the model. -/
theorem Field.kind_resolve (plain : f.kind = .scalar) :
    (f.resolve models enums model).kind =
      if f.type ∈ models then .object else if f.type ∈ enums then .enum else .scalar := by
  unfold resolve
  by_cases isModel : f.type ∈ models
  · simp [isModel]
  · by_cases isEnum : f.type ∈ enums <;> simp [isModel, isEnum, plain]

theorem Field.kind_resolve_eq_object_iff (plain : f.kind = .scalar) :
    (f.resolve models enums model).kind = .object ↔ f.type ∈ models := by
  rw [kind_resolve plain]
  split_ifs with isModel isEnum <;> simp [isModel]

/-- A relation has the name that it was given, or one made from the names of both models. -/
theorem Field.exists_relationName_resolve (object : f.type ∈ models) :
    ∃ name, name ≠ "" ∧ (f.resolve models enums model).relationName = some name := by
  unfold resolve
  rw [if_pos (by simpa using object)]
  dsimp only
  split_ifs with unnamed
  · exact ⟨_, impliedRelationName_ne_empty _ _, rfl⟩
  · cases given : f.relationName with
    | none => simp [given] at unnamed
    | some name => exact ⟨name, by simpa [given] using unnamed, rfl⟩

end Settled

/-- Settle what the fields of a model hold, given the names of all models and enums. -/
def Model.resolve (models enums : List String) (m : Model) : Model :=
  { m with fields := m.fields.map (Field.resolve models enums m.name) }

theorem models_resolveKinds (schema : Schema) : schema.resolveKinds.models =
    schema.models.map (Model.resolve (schema.models.map (·.name)) (schema.enums.map (·.name))) :=
  rfl

theorem enums_resolveKinds (schema : Schema) : schema.resolveKinds.enums = schema.enums := rfl

/-- Settling what the fields hold changes no name. -/
theorem map_name_resolveKinds (schema : Schema) :
    schema.resolveKinds.models.map (·.name) = schema.models.map (·.name) := List.map_map

/-- In a schema that was read from a text, every name is a word. -/
theorem namedByWords_of_mem_ofText {text : String} {m : Model}
    (isModel : m ∈ (ofText text).models) : m.NamedByWords := by
  obtain ⟨bare, read, rfl⟩ := List.mem_map.mp isModel
  obtain ⟨name, fields⟩ := namedByWords_of_mem_scan text.toList bare read
  refine ⟨name, fun f isField => ?_⟩
  obtain ⟨f, declared, rfl⟩ := List.mem_map.mp isField
  rw [Field.name_resolve]
  exact fields f declared

section OfText

variable {text : String} {m : Model} (isModel : m ∈ (ofText text).models)
  {f : Field} (isField : f ∈ m.fields)
include isModel isField

/-- In a schema that was read from a text, the names of its models and enums tell what a field
holds. -/
theorem kind_of_mem_ofText : f.kind =
    if f.type ∈ (ofText text).models.map (·.name) then .object
    else if f.type ∈ (ofText text).enums.map (·.name) then .enum else .scalar := by
  obtain ⟨bare, read, rfl⟩ := List.mem_map.mp isModel
  obtain ⟨f, declared, rfl⟩ := List.mem_map.mp isField
  have plain := kind_of_mem_scan text.toList bare read f declared
  rw [ofText, map_name_resolveKinds, Field.kind_resolve plain, Field.type_resolve]
  rfl

/-- A field refers to a model exactly if its type is the name of one, and then it carries the name
of a relation. -/
theorem mem_fields_ofText :
    (f.kind = .object ↔ f.type ∈ (ofText text).models.map (·.name)) ∧
      (f.kind = .object → ∃ name, name ≠ "" ∧ f.relationName = some name) := by
  obtain ⟨bare, read, rfl⟩ := List.mem_map.mp isModel
  obtain ⟨f, declared, rfl⟩ := List.mem_map.mp isField
  have plain := kind_of_mem_scan text.toList bare read f declared
  rw [ofText, map_name_resolveKinds, Field.kind_resolve_eq_object_iff plain, Field.type_resolve]
  exact ⟨Iff.rfl, Field.exists_relationName_resolve⟩

end OfText

end SiteAtlas.Schema
