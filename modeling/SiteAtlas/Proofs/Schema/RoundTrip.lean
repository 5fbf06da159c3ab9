import SiteAtlas.Proofs.Schema.ArgumentSearch
import SiteAtlas.Proofs.Schema.Written

/-! # Reading back what is written

A written schema is read back as it was meant: every block in its place, with all its fields,
indexes and values. The order of the attributes of a field does not matter, and what a field holds
depends on all blocks, also on those that come later.
-/

namespace SiteAtlas.Schema

open Text

/-! ## What is meant -/

namespace RelationArgument

def fields? : RelationArgument → Option (List String)
  | .fields names => some (names.map Word.text)
  | _ => none

def references? : RelationArgument → Option (List String)
  | .references names => some (names.map Word.text)
  | _ => none

def onDelete? : RelationArgument → Option String
  | .onDelete action => some action.text
  | _ => none

def onUpdate? : RelationArgument → Option String
  | .onUpdate action => some action.text
  | _ => none

end RelationArgument

namespace FieldAttribute

def default? : FieldAttribute → Option String
  | .default value isCall => some (value.text ++ if isCall then "()" else "")
  | _ => none

def map? : FieldAttribute → Option String
  | .map name => some name.text
  | _ => none

def relation? : FieldAttribute → Option (Option Word × List RelationArgument)
  | .relation name arguments => some (name, arguments)
  | _ => none

end FieldAttribute

/-- A field, what it holds being open. Of several attributes of one name the first one counts. -/
def WrittenField.bare (f : WrittenField) : Field :=
  let relation := f.attributes.findSome? FieldAttribute.relation?
  let arguments := (relation.map (·.2)).getD []
  { name := f.name.text
    type := f.type.text
    isList := f.isList
    isRequired := !f.isOptional
    isUnique := FieldAttribute.unique ∈ f.attributes
    isId := FieldAttribute.id ∈ f.attributes
    isUpdatedAt := FieldAttribute.updatedAt ∈ f.attributes
    default := f.attributes.findSome? FieldAttribute.default?
    dbName := f.attributes.findSome? FieldAttribute.map?
    relationName := (relation.bind (·.1)).map Word.text
    fromFields := (arguments.findSome? RelationArgument.fields?).getD []
    toFields := (arguments.findSome? RelationArgument.references?).getD []
    onDelete := arguments.findSome? RelationArgument.onDelete?
    onUpdate := arguments.findSome? RelationArgument.onUpdate? }

/-- A field of a model, given the names of all models and enums. A relation without a name is named
by both models. -/
def WrittenField.field (models enums : List String) (model : Word) (f : WrittenField) : Field :=
  { f.bare with
    kind :=
      if f.type.text ∈ models then .object
      else if f.type.text ∈ enums then .enum
      else .scalar
    relationName := f.bare.relationName.or
      (if f.type.text ∈ models then some (impliedRelationName model.text f.type.text) else none) }

namespace ModelAttribute

def id? : ModelAttribute → Option Index
  | .id fields name => some ⟨fields.map Word.text, name.map Word.text⟩
  | _ => none

def unique? : ModelAttribute → Option Index
  | .unique fields name => some ⟨fields.map Word.text, name.map Word.text⟩
  | _ => none

def index? : ModelAttribute → Option Index
  | .index fields name => some ⟨fields.map Word.text, name.map Word.text⟩
  | _ => none

def map? : ModelAttribute → Option String
  | .map name => some name.text
  | _ => none

end ModelAttribute

/-- A model with the given fields. Of several primary keys or names in the database the last one
counts. -/
def WrittenModel.withFields (m : WrittenModel) (fields : List Field) : Model :=
  { name := m.name.text
    fields := fields
    dbName := m.attributes.reverse.findSome? ModelAttribute.map?
    primaryKey := m.attributes.reverse.findSome? ModelAttribute.id?
    uniqueIndexes := m.attributes.filterMap ModelAttribute.unique?
    indexes := m.attributes.filterMap ModelAttribute.index? }

/-- A model, given the names of all models and enums. -/
def WrittenModel.model (models enums : List String) (m : WrittenModel) : Model :=
  m.withFields (m.fields.map (WrittenField.field models enums m.name))

/-- An enum. -/
def WrittenEnum.enumeration (e : WrittenEnum) : Enumeration :=
  { name := e.name.text
    values := e.values.map fun v => ⟨v.name.text, v.dbName.map Word.text⟩
    dbName := e.dbName.map Word.text }

namespace WrittenBlock

def model? : WrittenBlock → Option WrittenModel
  | .model m => some m
  | .enum _ => none

def enum? : WrittenBlock → Option WrittenEnum
  | .model _ => none
  | .enum e => some e

end WrittenBlock

/-- The schema that written blocks stand for. -/
def writtenSchema (blocks : List WrittenBlock) : Schema :=
  let models := blocks.filterMap WrittenBlock.model?
  let enums := blocks.filterMap WrittenBlock.enum?
  { models := models.map
      (WrittenModel.model (models.map (·.name.text)) (enums.map (·.name.text)))
    enums := enums.map WrittenEnum.enumeration }

/-! ## Reading attributes -/

/-- The attributes of a field as they are written. -/
def fieldAttributesText (attributes : List FieldAttribute) : List Char :=
  writtenAttributes (attributes.map fun a => (a.name.toList, argumentsText a.arguments))

section FieldAttributes

variable (attributes : List FieldAttribute)

theorem attributeArgs?_fieldAttributesText {name : String}
    (word : ∀ c ∈ name.toList, isWord c = true) :
    attributeArgs? name (fieldAttributesText attributes) =
      (attributes.find? (·.name = name)).map fun a => argumentsText a.arguments := by
  have names : ∀ a ∈ attributes.map fun a => (a.name.toList, argumentsText a.arguments),
      ∀ c ∈ a.1, isWord c = true := List.forall_mem_map.mpr fun a _ => a.word
  have arguments : ∀ a ∈ attributes.map fun a => (a.name.toList, argumentsText a.arguments),
      IsArguments a.2 := List.forall_mem_map.mpr fun a _ => isArguments_argumentsText a.arguments
  rw [fieldAttributesText, attributeArgs?_writtenAttributes names arguments word, List.find?_map,
    Option.map_map]
  simp only [Function.comp_def, String.toList_inj]

/-- An attribute without arguments is there or not. -/
theorem isSome_attributeArgs? {name : String} (word : ∀ c ∈ name.toList, isWord c = true)
    {a : FieldAttribute} (only : ∀ b, b.name = name ↔ b = a) :
    (attributeArgs? name (fieldAttributesText attributes)).isSome = decide (a ∈ attributes) := by
  rw [attributeArgs?_fieldAttributesText attributes word, Option.isSome_map, List.isSome_find?,
    Bool.eq_iff_iff, List.any_eq_true, decide_eq_true_iff]
  simp only [only, decide_eq_true_eq]
  exact ⟨fun ⟨b, member, same⟩ => same ▸ member, fun member => ⟨a, member, rfl⟩⟩

/-- The first attribute of a name is the first one that gives what only those of the name give. -/
theorem findSome?_eq_map_find? {β : Type} {name : String} {get : FieldAttribute → Option β}
    {read : FieldAttribute → β}
    (gives : ∀ a, get a = if a.name = name then some (read a) else none) :
    attributes.findSome? get = (attributes.find? (·.name = name)).map read := by
  induction attributes with
  | nil => rfl
  | cons a rest ih =>
    rw [List.findSome?_cons, gives]
    by_cases same : a.name = name
    · rw [if_pos same, List.find?_cons_of_pos (by simpa using same), Option.map_some]
    · rw [if_neg same, List.find?_cons_of_neg (by simpa using same), ih]

theorem argumentsText_singleton (a : Argument) : argumentsText [a] = a.chars := by
  rw [argumentsText, List.map_singleton, joined, List.intercalate_singleton]

theorem map_ofList_default : (attributeArgs? "default" (fieldAttributesText attributes)).map
    String.ofList = attributes.findSome? FieldAttribute.default? := by
  rw [attributeArgs?_fieldAttributesText attributes (List.all_eq_true.mp (by decide)),
    Option.map_map]
  refine (findSome?_eq_map_find? attributes fun a => ?_).symm
  cases a with
  | default value isCall =>
    cases isCall <;> simp [FieldAttribute.default?, FieldAttribute.name, FieldAttribute.arguments,
      argumentsText_singleton, Argument.chars, ArgumentValue.chars, Word.text]
  | id | unique | updatedAt | map | relation => rfl

theorem mappedName?_quoted (name : Word) :
    mappedName? (some (argumentsText [⟨none, .quoted name⟩])) = some name.text := by
  rw [mappedName?, if_neg (by simpa using argumentsText_ne_nil (List.cons_ne_nil _ _)),
    leadingQuoted?_argumentsText]
  rfl

theorem mappedName?_fieldAttributesText :
    mappedName? (attributeArgs? "map" (fieldAttributesText attributes)) =
      attributes.findSome? FieldAttribute.map? := by
  rw [attributeArgs?_fieldAttributesText attributes (List.all_eq_true.mp (by decide))]
  induction attributes with
  | nil => rfl
  | cons a rest ih =>
    cases a with
    | map name => exact mappedName?_quoted name
    | id | unique | updatedAt | default | relation => exact ih

/-- The arguments of the relation of a field, the name among them. -/
def relationArguments : List Argument :=
  ((attributes.findSome? FieldAttribute.relation?).map fun (name, arguments) =>
    (FieldAttribute.relation name arguments).arguments).getD []

theorem getD_attributeArgs?_relation :
    (attributeArgs? "relation" (fieldAttributesText attributes)).getD [] =
      argumentsText (relationArguments attributes) := by
  rw [attributeArgs?_fieldAttributesText attributes (List.all_eq_true.mp (by decide))]
  induction attributes with
  | nil => rfl
  | cons a rest ih =>
    cases a with
    | relation name arguments => rfl
    | id | unique | updatedAt | default | map => exact ih

end FieldAttributes

/-! ## Reading the arguments of a relation -/

section Relation

variable (name : Option Word) (arguments : List RelationArgument)

/-- The name of a relation has no key, so that only the arguments behind it are looked up. -/
theorem argument?_relation {β : Type} {key : Key} {get : ArgumentValue → Option β}
    {read : RelationArgument → Option β}
    (gives : ∀ a : RelationArgument,
      (if a.argument.key = some key then get a.argument.value else none) = read a) :
    argument? key get (FieldAttribute.relation name arguments).arguments =
      arguments.findSome? read := by
  have behind : argument? key get (arguments.map RelationArgument.argument) =
      arguments.findSome? read := by
    rw [argument?, List.findSome?_map]
    exact congrArg (List.findSome? · arguments) (funext gives)
  cases name with
  | none => exact behind
  | some name => exact behind

theorem leadingQuoted?_relation :
    leadingQuoted? (argumentsText (FieldAttribute.relation name arguments).arguments) =
      name.map Word.text := by
  rw [leadingQuoted?_argumentsText]
  cases name with
  | some name => rfl
  | none =>
    cases arguments with
    | nil => rfl
    | cons a rest => cases a <;> rfl

/-- No argument of a relation is looked up as its name. -/
theorem quotedArg?_relation :
    quotedArg? "name" (argumentsText (FieldAttribute.relation name arguments).arguments) =
      none := by
  have looked := quotedArg?_argumentsText .name (FieldAttribute.relation name arguments).arguments
  have noName : argument? .name ArgumentValue.quoted?
      (FieldAttribute.relation name arguments).arguments = arguments.findSome? fun _ => none :=
    argument?_relation name arguments fun a => by cases a <;> rfl
  rw [noName, List.findSome?_eq_none_iff.mpr fun _ _ => rfl] at looked
  exact looked

end Relation

theorem Word.text_ne_empty (w : Word) : w.text.isEmpty = false := by
  have filled : w.text ≠ "" := fun same => w.filled <| by
    rw [← String.toList_ofList (l := w.chars), ← text, same]
    rfl
  simpa using filled

/-- What is read of the relation of a field. -/
theorem relation_fieldAttributesText (attributes : List FieldAttribute) :
    let args := argumentsText (relationArguments attributes)
    let relation := attributes.findSome? FieldAttribute.relation?
    let arguments := (relation.map (·.2)).getD []
    (if ((leadingQuoted? args).getD "").isEmpty then quotedArg? "name" args
        else leadingQuoted? args) = (relation.bind (·.1)).map Word.text ∧
      keyedFieldList "fields" args = (arguments.findSome? RelationArgument.fields?).getD [] ∧
      keyedFieldList "references" args =
        (arguments.findSome? RelationArgument.references?).getD [] ∧
      wordArg? "onDelete" args = arguments.findSome? RelationArgument.onDelete? ∧
      wordArg? "onUpdate" args = arguments.findSome? RelationArgument.onUpdate? := by
  dsimp only
  unfold relationArguments
  cases attributes.findSome? FieldAttribute.relation? with
  | none => decide
  | some relation =>
    obtain ⟨name, arguments⟩ := relation
    rw [Option.map_some, Option.getD_some, leadingQuoted?_relation, quotedArg?_relation]
    refine ⟨?_, ?_, ?_, ?_, ?_⟩
    · cases name with
      | none => rfl
      | some name => exact if_neg (by simp [name.text_ne_empty])
    · exact (keyedFieldList_argumentsText .fields _).trans
        (congrArg (Option.getD · [])
          (argument?_relation name arguments fun a => by cases a <;> rfl))
    · exact (keyedFieldList_argumentsText .references _).trans
        (congrArg (Option.getD · [])
          (argument?_relation name arguments fun a => by cases a <;> rfl))
    · exact (wordArg?_argumentsText .onDelete _).trans
        (argument?_relation name arguments fun a => by cases a <;> rfl)
    · exact (wordArg?_argumentsText .onUpdate _).trans
        (argument?_relation name arguments fun a => by cases a <;> rfl)

/-! ## Reading a field -/

/-- Two words and what stands behind them are the parts of a field's line. -/
theorem fieldLine?_words (name type : Word) {rest : List Char} (halts : Halts isWord rest)
    (noArgument : typeArgument? rest = none) :
    fieldLine? (name.chars ++ ' ' :: (type.chars ++ rest)) =
      some ⟨name.chars, type.chars, (takeMark ['[', ']'] rest).1,
        (takeMark ['?'] (takeMark ['[', ']'] rest).2).1,
        (takeMark ['?'] (takeMark ['[', ']'] rest).2).2⟩ := by
  have space : Halts isWord (' ' :: (type.chars ++ rest)) := halts_cons.mpr (by decide)
  have tail : trimLeft (' ' :: (type.chars ++ rest)) = type.chars ++ rest := by
    rw [trimLeft_space, trimLeft_of_halts (type.halts.append_of_ne_nil type.filled)]
  have filled : (name.chars.isEmpty || decide ((type.chars ++ rest).length =
      (' ' :: (type.chars ++ rest)).length) || type.chars.isEmpty) = false := by
    simp [name.filled, type.filled]
  rw [fieldLine?]
  dsimp only
  rw [takeWhile_append_of_halts name.word space, dropWhile_append_of_halts name.word space, tail,
    takeWhile_append_of_halts type.word halts, dropWhile_append_of_halts type.word halts, filled,
    noArgument]
  rfl

/-- The attributes of a field are behind a space, if there are any. -/
theorem fieldAttributesText_cases (attributes : List FieldAttribute) :
    fieldAttributesText attributes = [] ∨
      ∃ rest, fieldAttributesText attributes = ' ' :: rest := by
  cases attributes with
  | nil => exact .inl rfl
  | cons a rest => exact .inr ⟨_, rfl⟩

/-- The brackets and the question mark behind a type are told apart from the attributes. -/
theorem WrittenField.fieldLine?_line (f : WrittenField) : fieldLine? f.line =
    some ⟨f.name.chars, f.type.chars, f.isList, f.isOptional,
      fieldAttributesText f.attributes⟩ := by
  have marks : Halts isWord ((if f.isList then ['[', ']'] else []) ++
      ((if f.isOptional then ['?'] else []) ++ fieldAttributesText f.attributes)) ∧
      typeArgument? ((if f.isList then ['[', ']'] else []) ++
        ((if f.isOptional then ['?'] else []) ++ fieldAttributesText f.attributes)) = none ∧
      takeMark ['[', ']'] ((if f.isList then ['[', ']'] else []) ++
        ((if f.isOptional then ['?'] else []) ++ fieldAttributesText f.attributes)) =
        (f.isList, (if f.isOptional then ['?'] else []) ++ fieldAttributesText f.attributes) ∧
      takeMark ['?'] ((if f.isOptional then ['?'] else []) ++ fieldAttributesText f.attributes) =
        (f.isOptional, fieldAttributesText f.attributes) := by
    rcases fieldAttributesText_cases f.attributes with attributes | ⟨rest, attributes⟩ <;>
      rw [attributes] <;> cases f.isList <;> cases f.isOptional <;>
      exact ⟨halts_of_all rfl, rfl, rfl, rfl⟩
  obtain ⟨halts, noArgument, list, optional⟩ := marks
  rw [line, ← fieldAttributesText, fieldLine?_words f.name f.type halts noArgument, list, optional]

/-- A field is read as it was written, whatever the order of its attributes. -/
theorem WrittenField.field?_line (f : WrittenField) : field? f.line = some f.bare := by
  have unique : (attributeArgs? "unique" (fieldAttributesText f.attributes)).isSome =
      decide (FieldAttribute.unique ∈ f.attributes) :=
    isSome_attributeArgs? f.attributes (List.all_eq_true.mp (by decide))
      fun b => by cases b <;> simp [FieldAttribute.name]
  have id : (attributeArgs? "id" (fieldAttributesText f.attributes)).isSome =
      decide (FieldAttribute.id ∈ f.attributes) :=
    isSome_attributeArgs? f.attributes (List.all_eq_true.mp (by decide))
      fun b => by cases b <;> simp [FieldAttribute.name]
  have updatedAt : (attributeArgs? "updatedAt" (fieldAttributesText f.attributes)).isSome =
      decide (FieldAttribute.updatedAt ∈ f.attributes) :=
    isSome_attributeArgs? f.attributes (List.all_eq_true.mp (by decide))
      fun b => by cases b <;> simp [FieldAttribute.name]
  obtain ⟨name, fields, references, onDelete, onUpdate⟩ := relation_fieldAttributesText f.attributes
  rw [field?, f.fieldLine?_line, Option.map_some]
  dsimp only
  rw [getD_attributeArgs?_relation, name, fields, references, onDelete, onUpdate,
    map_ofList_default, mappedName?_fieldAttributesText, unique, id, updatedAt]
  rfl

/-! ## Reading a model -/

/-- An attribute of a whole block is found by its name with the second `@` in front. -/
theorem attributeArgs?_blockAttributeLine {called name other : String}
    (isName : called.toList = '@' :: name.toList) (word : ∀ c ∈ name.toList, isWord c = true)
    (word' : ∀ c ∈ other.toList, isWord c = true) (arguments : List Argument) :
    attributeArgs? called (blockAttributeLine other arguments) =
      if other = name then some (argumentsText arguments) else none := by
  rw [blockAttributeLine,
    attributeArgs?_block isName word word' (isArguments_argumentsText arguments)]
  simp only [String.toList_inj]

/-- An index is read as it was written. -/
theorem index_argumentsText (fields : List Word) (name : Option Word) :
    index (argumentsText (⟨none, .names fields⟩ :: name.toList.map (⟨some .name, .quoted ·⟩))) =
      ⟨fields.map Word.text, name.map Word.text⟩ := by
  have named := quotedArg?_argumentsText .name
    (⟨none, .names fields⟩ :: name.toList.map (⟨some .name, .quoted ·⟩))
  rw [index, fieldList_argumentsText]
  refine congrArg (Index.mk _) (named.trans ?_)
  cases name <;> rfl

/-- A model with one more attribute. -/
theorem Model.addAttribute_line (m : Model) (a : ModelAttribute) : m.addAttribute a.line =
    { m with
      dbName := a.map?.or m.dbName
      primaryKey := a.id?.or m.primaryKey
      uniqueIndexes := m.uniqueIndexes ++ a.unique?.toList
      indexes := m.indexes ++ a.index?.toList } := by
  have id : attributeArgs? "@id" a.line =
      if a.name = "id" then some (argumentsText a.arguments) else none :=
    attributeArgs?_blockAttributeLine rfl (List.all_eq_true.mp (by decide)) a.word a.arguments
  have unique : attributeArgs? "@unique" a.line =
      if a.name = "unique" then some (argumentsText a.arguments) else none :=
    attributeArgs?_blockAttributeLine rfl (List.all_eq_true.mp (by decide)) a.word a.arguments
  have isIndex : attributeArgs? "@index" a.line =
      if a.name = "index" then some (argumentsText a.arguments) else none :=
    attributeArgs?_blockAttributeLine rfl (List.all_eq_true.mp (by decide)) a.word a.arguments
  have map : attributeArgs? "@map" a.line =
      if a.name = "map" then some (argumentsText a.arguments) else none :=
    attributeArgs?_blockAttributeLine rfl (List.all_eq_true.mp (by decide)) a.word a.arguments
  rw [addAttribute, id, unique, isIndex, map]
  cases a with
  | id fields name | unique fields name | index fields name =>
    simp [ModelAttribute.name, ModelAttribute.arguments, index_argumentsText, ModelAttribute.map?,
      ModelAttribute.id?, ModelAttribute.unique?, ModelAttribute.index?]
  | map name =>
    have filled := argumentsText_ne_nil (List.cons_ne_nil (⟨none, .quoted name⟩ : Argument) [])
    simp [ModelAttribute.name, ModelAttribute.arguments, ModelAttribute.map?, ModelAttribute.id?,
      ModelAttribute.unique?, ModelAttribute.index?, filled, leadingQuoted?_argumentsText,
      ArgumentValue.quoted?]

/-- A line that begins with a word is not taken for an attribute of the block. -/
theorem Word.after?_at (w : Word) (rest : List Char) :
    after? ['@', '@'] (w.chars ++ rest) = none := by
  obtain ⟨c, chars, same, word⟩ := w.exists_cons
  have differ : '@' ≠ c := by
    rintro rfl
    exact absurd word (by decide)
  rw [same]
  exact if_neg differ

theorem Model.addLine_attribute (m : Model) (a : ModelAttribute) :
    m.addLine a.line = m.addAttribute a.line := if_pos rfl

theorem Model.addLine_field (m : Model) (f : WrittenField) :
    m.addLine f.line = { m with fields := m.fields ++ [f.bare] } := by
  rw [addLine, if_neg (by rw [WrittenField.line, f.name.after?_at]; simp), f.field?_line]

theorem foldl_addLine_fields (fields : List WrittenField) (m : Model) :
    (fields.map WrittenField.line).foldl Model.addLine m =
      { m with fields := m.fields ++ fields.map WrittenField.bare } := by
  induction fields generalizing m with
  | nil => simp
  | cons f rest ih =>
    rw [List.map_cons, List.foldl_cons, Model.addLine_field, ih]
    simp

theorem foldl_addLine_attributes (attributes : List ModelAttribute) (m : Model) :
    (attributes.map ModelAttribute.line).foldl Model.addLine m =
      { m with
        dbName := (attributes.reverse.findSome? ModelAttribute.map?).or m.dbName
        primaryKey := (attributes.reverse.findSome? ModelAttribute.id?).or m.primaryKey
        uniqueIndexes := m.uniqueIndexes ++ attributes.filterMap ModelAttribute.unique?
        indexes := m.indexes ++ attributes.filterMap ModelAttribute.index? } := by
  have filterMap_cons {β : Type} (get : ModelAttribute → Option β) (a : ModelAttribute)
      (rest : List ModelAttribute) :
      (a :: rest).filterMap get = (get a).toList ++ rest.filterMap get := by
    rw [List.filterMap_cons]
    cases get a <;> rfl
  induction attributes generalizing m with
  | nil => simp
  | cons a rest ih =>
    rw [List.map_cons, List.foldl_cons, Model.addLine_attribute, Model.addAttribute_line, ih]
    simp [List.findSome?_append, filterMap_cons, Option.or_assoc]

theorem WrittenModel.model_block (m : WrittenModel) :
    m.block.model = m.withFields (m.fields.map WrittenField.bare) := by
  rw [Block.model, block, List.foldl_append, foldl_addLine_fields, foldl_addLine_attributes]
  simp [withFields]

/-! ## Reading an enum -/

/-- The name in the database of a value is written like that of a field. -/
theorem WrittenValue.line_eq (v : WrittenValue) : v.line =
    v.name.chars ++ fieldAttributesText (v.dbName.toList.map FieldAttribute.map) := by
  obtain ⟨name, dbName⟩ := v
  cases dbName <;> rfl

theorem Enumeration.addLine_value (e : Enumeration) (v : WrittenValue) : e.addLine v.line =
    { e with values := e.values ++ [⟨v.name.text, v.dbName.map Word.text⟩] } := by
  have halts : Halts isWord (fieldAttributesText (v.dbName.toList.map FieldAttribute.map)) := by
    rcases fieldAttributesText_cases (v.dbName.toList.map FieldAttribute.map) with
      nothing | ⟨rest, space⟩
    · rw [nothing]
      exact halts_nil
    · rw [space]
      exact halts_cons.mpr (by decide)
  have mapped : (v.dbName.toList.map FieldAttribute.map).findSome? FieldAttribute.map? =
      v.dbName.map Word.text := by cases v.dbName <;> rfl
  rw [addLine, v.line_eq, if_neg (by rw [v.name.after?_at]; simp)]
  dsimp only
  rw [takeWhile_append_of_halts v.name.word halts, dropWhile_append_of_halts v.name.word halts,
    mappedName?_fieldAttributesText, mapped]
  simp [v.name.filled, Word.text]

theorem foldl_addLine_values (values : List WrittenValue) (e : Enumeration) :
    (values.map WrittenValue.line).foldl Enumeration.addLine e =
      { e with
        values := e.values ++ values.map fun v => ⟨v.name.text, v.dbName.map Word.text⟩ } := by
  induction values generalizing e with
  | nil => simp
  | cons v rest ih =>
    rw [List.map_cons, List.foldl_cons, Enumeration.addLine_value, ih]
    simp

theorem Enumeration.addLine_map (e : Enumeration) (name : Word) :
    e.addLine (blockAttributeLine "map" [⟨none, .quoted name⟩]) =
      { e with dbName := some name.text } := by
  have filled := argumentsText_ne_nil (List.cons_ne_nil (⟨none, .quoted name⟩ : Argument) [])
  have word : ∀ c ∈ "map".toList, isWord c = true := List.all_eq_true.mp (by decide)
  have map : attributeArgs? "@map" (blockAttributeLine "map" [⟨none, .quoted name⟩]) =
      some (argumentsText [⟨none, .quoted name⟩]) :=
    (attributeArgs?_blockAttributeLine rfl word word _).trans (if_pos rfl)
  have isBlock : (after? ['@', '@'] (blockAttributeLine "map" [⟨none, .quoted name⟩])).isSome =
    true := rfl
  rw [addLine, if_pos isBlock, map]
  simp [filled, leadingQuoted?_argumentsText, ArgumentValue.quoted?]

theorem WrittenEnum.enumeration_block (e : WrittenEnum) :
    e.block.enumeration = e.enumeration := by
  rw [Block.enumeration, block, List.foldl_append, foldl_addLine_values, enumeration]
  cases e.dbName with
  | none => rfl
  | some name => exact Enumeration.addLine_map _ name

/-! ## Settling what the fields hold -/

theorem WrittenField.relationName_bare (f : WrittenField) :
    f.bare.relationName = none ∨ ∃ w : Word, f.bare.relationName = some w.text := by
  unfold bare
  dsimp only
  cases (f.attributes.findSome? FieldAttribute.relation?).bind (·.1) with
  | none => exact .inl rfl
  | some w => exact .inr ⟨w, rfl⟩

theorem WrittenField.resolve_bare (f : WrittenField) (models enums : List String) (model : Word) :
    f.bare.resolve models enums model.text = f.field models enums model := by
  have type : f.bare.type = f.type.text := rfl
  rw [Field.resolve, field, type]
  by_cases isModel : f.type.text ∈ models
  · rcases f.relationName_bare with unnamed | ⟨w, named⟩
    · simp [isModel, unnamed]
    · simp [isModel, named, w.text_ne_empty]
  · by_cases isEnum : f.type.text ∈ enums
    · simp [isModel, isEnum]
    · rw [if_neg (by simpa using isModel), if_neg (by simpa using isEnum), if_neg isModel,
        if_neg isModel, if_neg isEnum, Option.or_none]
      rfl

theorem WrittenModel.resolve_withFields (m : WrittenModel) (models enums : List String) :
    (m.withFields (m.fields.map WrittenField.bare)).resolve models enums =
      m.model models enums := by
  rw [Model.resolve, withFields, List.map_map, model, withFields]
  exact congrArg (Model.mk _ · _ _ _ _)
    (List.map_congr_left fun f _ => f.resolve_bare models enums m.name)

section Blocks

variable (blocks : List WrittenBlock)

theorem modelsOf_blocks : modelsOf (blocks.map WrittenBlock.block) =
    (blocks.filterMap WrittenBlock.model?).map fun m =>
      m.withFields (m.fields.map WrittenField.bare) := by
  induction blocks with
  | nil => rfl
  | cons b rest ih =>
    cases b with
    | model m => exact congrArg₂ List.cons m.model_block ih
    | enum e => exact ih

theorem enumsOf_blocks : enumsOf (blocks.map WrittenBlock.block) =
    (blocks.filterMap WrittenBlock.enum?).map WrittenEnum.enumeration := by
  induction blocks with
  | nil => rfl
  | cons b rest ih =>
    cases b with
    | model m => exact ih
    | enum e => exact congrArg₂ List.cons e.enumeration_block ih

end Blocks

/-- A written schema is read back as it was meant, whatever the order of the blocks and of the
attributes. -/
theorem ofText_writtenText (indent : Nat) (blocks : List WrittenBlock) :
    ofText (writtenText indent blocks) = writtenSchema blocks := by
  have names : (modelsOf (blocks.map WrittenBlock.block)).map (·.name) =
      (blocks.filterMap WrittenBlock.model?).map (·.name.text) := by
    rw [modelsOf_blocks, List.map_map]
    rfl
  have enums : (enumsOf (blocks.map WrittenBlock.block)).map (·.name) =
      (blocks.filterMap WrittenBlock.enum?).map (·.name.text) := by
    rw [enumsOf_blocks, List.map_map]
    rfl
  rw [ofText, (isMadeOf_writtenText indent blocks).close_scan]
  ext1
  · rw [models_resolveKinds, schemaOf, names, enums, modelsOf_blocks, List.map_map]
    exact List.map_congr_left fun m _ => m.resolve_withFields _ _
  · rw [enums_resolveKinds, schemaOf, enumsOf_blocks]
    rfl
  · rfl
  · rfl

/-- A post with its author, as it is written. -/
example :
    let word (text : String) (filled : text.toList ≠ [] := by decide)
        (isWords : text.toList.all isWord = true := by decide) : Word :=
      ⟨text.toList, filled, List.all_eq_true.mp isWords⟩
    writtenText 2 [.model ⟨word "Post",
      [⟨word "id", word "Int", false, false, [.id, .default (word "autoincrement") true]⟩,
        ⟨word "author", word "User", false, true,
          [.relation (some (word "Wrote")) [.fields [word "authorId"], .references [word "id"],
            .onDelete (word "Cascade")]]⟩],
      [.index [word "id", word "author"] (some (word "byAuthor")), .map (word "posts")]⟩] =
    "model Post \x7b\n" ++
    "  id Int @id @default(autoincrement())\n" ++
    "  author User? @relation(\"Wrote\", fields: [authorId], references: [id], " ++
    "onDelete: Cascade)\n" ++
    "  @@index([id, author], name: \"byAuthor\")\n" ++
    "  @@map(\"posts\")\n" ++
    "\x7d\n" := by
  decide +kernel

end SiteAtlas.Schema
