import SiteAtlas.Proofs.Schema.Arguments
import SiteAtlas.Proofs.Schema.Blocks
import SiteAtlas.Proofs.Text.Lines

/-! # Schemas as they are written

The written form of a schema has one item on each line: a field with its attributes in any order, a
block attribute, or the value of an enum. Every written block is a block that closes itself, so the
text of a list of blocks is made of them.
-/

namespace SiteAtlas.Schema

open Text

/-! ## Attributes -/

/-- An argument of a relation. -/
inductive RelationArgument where
  /-- The fields that hold the reference. -/
  | fields (names : List Word)
  /-- The fields that are referred to. -/
  | references (names : List Word)
  /-- What happens when the row referred to is deleted. -/
  | onDelete (action : Word)
  /-- What happens when the row referred to is updated. -/
  | onUpdate (action : Word)
  deriving DecidableEq

def RelationArgument.argument : RelationArgument → Argument
  | .fields names => ⟨some .fields, .names names⟩
  | .references names => ⟨some .references, .names names⟩
  | .onDelete action => ⟨some .onDelete, .word action⟩
  | .onUpdate action => ⟨some .onUpdate, .word action⟩

/-- An attribute of a field. -/
inductive FieldAttribute where
  | id
  | unique
  | updatedAt
  /-- A default, which is a word or a call. -/
  | default (value : Word) (isCall : Bool)
  /-- The name in the database. -/
  | map (name : Word)
  /-- A relation, with the name that it begins with if it is given one. -/
  | relation (name : Option Word) (arguments : List RelationArgument)
  deriving DecidableEq

namespace FieldAttribute

def name : FieldAttribute → String
  | .id => "id"
  | .unique => "unique"
  | .updatedAt => "updatedAt"
  | .default _ _ => "default"
  | .map _ => "map"
  | .relation _ _ => "relation"

def arguments : FieldAttribute → List Argument
  | .id | .unique | .updatedAt => []
  | .default value isCall => [⟨none, if isCall then .call value else .word value⟩]
  | .map name => [⟨none, .quoted name⟩]
  | .relation name arguments =>
    name.toList.map (⟨none, .quoted ·⟩) ++ arguments.map RelationArgument.argument

end FieldAttribute

/-- An attribute of a model. -/
inductive ModelAttribute where
  /-- The fields that identify a row together. -/
  | id (fields : List Word) (name : Option Word)
  /-- Fields whose values together are unique. -/
  | unique (fields : List Word) (name : Option Word)
  /-- Fields that are indexed together. -/
  | index (fields : List Word) (name : Option Word)
  /-- The name in the database. -/
  | map (name : Word)

namespace ModelAttribute

def name : ModelAttribute → String
  | .id _ _ => "id"
  | .unique _ _ => "unique"
  | .index _ _ => "index"
  | .map _ => "map"

def arguments : ModelAttribute → List Argument
  | .id fields name | .unique fields name | .index fields name =>
    ⟨none, .names fields⟩ :: name.toList.map (⟨some .name, .quoted ·⟩)
  | .map name => [⟨none, .quoted name⟩]

end ModelAttribute

/-- The line of an attribute of a whole block. -/
def blockAttributeLine (name : String) (arguments : List Argument) : List Char :=
  '@' :: '@' :: writtenAttribute name.toList (argumentsText arguments)

def ModelAttribute.line (a : ModelAttribute) : List Char := blockAttributeLine a.name a.arguments

/-! ## Items -/

/-- A field. -/
structure WrittenField where
  name : Word
  type : Word
  isList : Bool
  isOptional : Bool
  attributes : List FieldAttribute

def WrittenField.line (f : WrittenField) : List Char :=
  f.name.chars ++ ' ' :: (f.type.chars ++ ((if f.isList then ['[', ']'] else []) ++
    ((if f.isOptional then ['?'] else []) ++
      writtenAttributes (f.attributes.map fun a => (a.name.toList, argumentsText a.arguments)))))

/-- A value of an enum, with its name in the database if that is given. -/
structure WrittenValue where
  name : Word
  dbName : Option Word

def WrittenValue.line (v : WrittenValue) : List Char :=
  v.name.chars ++ writtenAttributes
    (v.dbName.toList.map fun name => ("map".toList, argumentsText [⟨none, .quoted name⟩]))

/-! ## Blocks -/

/-- A model. -/
structure WrittenModel where
  name : Word
  fields : List WrittenField
  attributes : List ModelAttribute

/-- An enum. -/
structure WrittenEnum where
  name : Word
  values : List WrittenValue
  dbName : Option Word

def WrittenModel.block (m : WrittenModel) : Block where
  kind := .model
  name := m.name.text
  header := "model".toList ++ ' ' :: (m.name.chars ++ [' ', '\x7b'])
  body := m.fields.map WrittenField.line ++ m.attributes.map ModelAttribute.line
  closing := ['\x7d']

def WrittenEnum.block (e : WrittenEnum) : Block where
  kind := .enum
  name := e.name.text
  header := "enum".toList ++ ' ' :: (e.name.chars ++ [' ', '\x7b'])
  body := e.values.map WrittenValue.line ++
    e.dbName.toList.map fun name => blockAttributeLine "map" [⟨none, .quoted name⟩]
  closing := ['\x7d']

/-- A model or an enum. -/
inductive WrittenBlock where
  | model (m : WrittenModel)
  | enum (e : WrittenEnum)

def WrittenBlock.block : WrittenBlock → Block
  | .model m => m.block
  | .enum e => e.block

/-- The lines of a block, those inside behind some spaces. -/
def Block.indented (b : Block) (indent : Nat) : List (List Char) :=
  b.header :: (b.body.map (List.replicate indent ' ' ++ ·) ++ [b.closing])

/-- The text of blocks, line by line. -/
def writtenText (indent : Nat) (blocks : List WrittenBlock) : String :=
  String.ofList ((blocks.flatMap (·.block.indented indent)).flatMap (· ++ ['\n']))

/-! ## What the lines are made of -/

/-- The marks that a schema is written with. -/
def lineMarks : List Char := '\x7b' :: '\x7d' :: '?' :: '@' :: ':' :: valueMarks

theorem onlyMarks_singleton {marks : List Char} {c : Char} (mark : c ∈ marks) :
    OnlyMarks marks [c] := onlyMarks_cons.mpr ⟨.inr mark, onlyMarks_nil⟩

theorem onlyMarks_writtenAttribute {name : List Char} (word : ∀ c ∈ name, isWord c = true)
    (arguments : List Argument) :
    OnlyMarks lineMarks (writtenAttribute name (argumentsText arguments)) := by
  have inside : OnlyMarks lineMarks (argumentsText arguments) :=
    (onlyMarks_argumentsText arguments).mono (by decide)
  refine onlyMarks_append.mpr ⟨fun c member => .inl (word c member), ?_⟩
  unfold inParens
  split
  · exact onlyMarks_nil
  · exact onlyMarks_cons.mpr ⟨.inr (by decide),
      onlyMarks_append.mpr ⟨inside, onlyMarks_singleton (by decide)⟩⟩

theorem onlyMarks_writtenAttributes {α : Type} {attributes : List α} {name : α → List Char}
    {arguments : α → List Argument} (word : ∀ a ∈ attributes, ∀ c ∈ name a, isWord c = true) :
    OnlyMarks lineMarks
      (writtenAttributes (attributes.map fun a => (name a, argumentsText (arguments a)))) := by
  induction attributes with
  | nil => exact onlyMarks_nil
  | cons a rest ih =>
    obtain ⟨here, behind⟩ := List.forall_mem_cons.mp word
    exact onlyMarks_cons.mpr ⟨.inr (by decide), onlyMarks_cons.mpr ⟨.inr (by decide),
      onlyMarks_append.mpr ⟨onlyMarks_writtenAttribute here _, ih behind⟩⟩⟩

theorem FieldAttribute.word (a : FieldAttribute) : ∀ c ∈ a.name.toList, isWord c = true := by
  cases a <;> simp only [name] <;> exact List.all_eq_true.mp (by decide)

theorem ModelAttribute.word (a : ModelAttribute) : ∀ c ∈ a.name.toList, isWord c = true := by
  cases a <;> simp only [name] <;> exact List.all_eq_true.mp (by decide)

theorem WrittenField.onlyMarks_line (f : WrittenField) : OnlyMarks lineMarks f.line := by
  have list : OnlyMarks lineMarks (if f.isList then ['[', ']'] else []) := by
    split
    · exact onlyMarks_cons.mpr ⟨.inr (by decide), onlyMarks_singleton (by decide)⟩
    · exact onlyMarks_nil
  have optional : OnlyMarks lineMarks (if f.isOptional then ['?'] else []) := by
    split
    · exact onlyMarks_singleton (by decide)
    · exact onlyMarks_nil
  exact onlyMarks_append.mpr ⟨f.name.onlyMarks, onlyMarks_cons.mpr ⟨.inr (by decide),
    onlyMarks_append.mpr ⟨f.type.onlyMarks, onlyMarks_append.mpr ⟨list, onlyMarks_append.mpr
      ⟨optional, onlyMarks_writtenAttributes fun a _ => a.word⟩⟩⟩⟩⟩

theorem WrittenValue.onlyMarks_line (v : WrittenValue) : OnlyMarks lineMarks v.line :=
  onlyMarks_append.mpr ⟨v.name.onlyMarks, onlyMarks_writtenAttributes fun _ _ =>
    List.all_eq_true.mp (by decide)⟩

theorem onlyMarks_blockAttributeLine {name : String} (word : ∀ c ∈ name.toList, isWord c = true)
    (arguments : List Argument) : OnlyMarks lineMarks (blockAttributeLine name arguments) :=
  onlyMarks_cons.mpr ⟨.inr (by decide),
    onlyMarks_cons.mpr ⟨.inr (by decide), onlyMarks_writtenAttribute word arguments⟩⟩

/-! ### Where the lines begin and end -/

theorem halts_reverse_inParens (arguments : List Char) :
    Halts isBlank (inParens arguments).reverse := by
  unfold inParens
  split
  · exact halts_nil
  · rw [List.reverse_cons, List.reverse_append]
    exact (halts_cons (c := ')')).mpr (by decide)

theorem halts_reverse_at {name : List Char} (word : ∀ c ∈ name, isWord c = true)
    (arguments : List Char) : Halts isBlank ('@' :: writtenAttribute name arguments).reverse := by
  have halts : Halts isBlank name.reverse := fun c first =>
    isBlank_of_isWord (word c (List.mem_reverse.mp (List.mem_of_mem_head? first)))
  rw [List.reverse_cons, writtenAttribute, List.reverse_append]
  exact ((halts_reverse_inParens arguments).append halts).append (halts_cons.mpr (by decide))

theorem halts_reverse_writtenAttributes {attributes : List (List Char × List Char)}
    (word : ∀ a ∈ attributes, ∀ c ∈ a.1, isWord c = true) :
    Halts isBlank (writtenAttributes attributes).reverse := by
  induction attributes with
  | nil => exact halts_nil
  | cons a rest ih =>
    obtain ⟨here, behind⟩ := List.forall_mem_cons.mp word
    have line : writtenAttributes (a :: rest) =
        (' ' :: '@' :: writtenAttribute a.1 a.2) ++ writtenAttributes rest := rfl
    rw [line, List.reverse_append, List.reverse_cons]
    exact (ih behind).append ((halts_reverse_at here a.2).append_of_ne_nil (by simp))

/-- A line as it is written, without blanks around it and without a comment. -/
structure IsLine (line : List Char) : Prop where
  only : OnlyMarks lineMarks line
  filled : line ≠ []
  first : Halts isBlank line
  last : Halts isBlank line.reverse

/-- A line inside of a block, which does not close it. -/
structure IsItem (line : List Char) : Prop extends IsLine line where
  goesOn : line.head? ≠ some '\x7d'

theorem WrittenField.isItem_line (f : WrittenField) : IsItem f.line := by
  have list : Halts isBlank (if f.isList then ['[', ']'] else []).reverse := by
    cases f.isList
    · exact halts_nil
    · exact (halts_cons (c := ']')).mpr (by decide)
  have optional : Halts isBlank (if f.isOptional then ['?'] else []).reverse := by
    cases f.isOptional
    · exact halts_nil
    · exact halts_cons.mpr (by decide)
  refine ⟨⟨f.onlyMarks_line, ?_, ?_, ?_⟩, ?_⟩
  · exact List.append_ne_nil_of_left_ne_nil f.name.filled _
  · exact f.name.halts.append_of_ne_nil f.name.filled
  · have attributes : Halts isBlank (writtenAttributes
        (f.attributes.map fun a => (a.name.toList, argumentsText a.arguments))).reverse := by
      refine halts_reverse_writtenAttributes fun a member => ?_
      obtain ⟨a, -, rfl⟩ := List.mem_map.mp member
      exact a.word
    -- What can be missing comes behind the type, which ends with a word.
    have type : Halts isBlank ((f.name.chars ++ [' ']) ++ f.type.chars).reverse := by
      rw [List.reverse_append]
      exact f.type.halts_reverse.append_of_ne_nil (by simpa using f.type.filled)
    have whole := ((attributes.append optional).append list).append type
    simpa [line] using whole
  · exact f.name.head?_append_ne (by decide) _

theorem WrittenValue.isItem_line (v : WrittenValue) : IsItem v.line := by
  refine ⟨⟨v.onlyMarks_line, ?_, ?_, ?_⟩, ?_⟩
  · exact List.append_ne_nil_of_left_ne_nil v.name.filled _
  · exact v.name.halts.append_of_ne_nil v.name.filled
  · rw [line, List.reverse_append]
    refine (halts_reverse_writtenAttributes fun a member => ?_).append v.name.halts_reverse
    obtain ⟨name, -, rfl⟩ := List.mem_map.mp member
    exact List.all_eq_true.mp (show "map".toList.all isWord = true by decide)
  · exact v.name.head?_append_ne (by decide) _

theorem isItem_blockAttributeLine {name : String} (word : ∀ c ∈ name.toList, isWord c = true)
    (arguments : List Argument) : IsItem (blockAttributeLine name arguments) := by
  refine ⟨⟨onlyMarks_blockAttributeLine word arguments, List.cons_ne_nil _ _,
    halts_cons.mpr (by decide), ?_⟩, ?_⟩
  · rw [blockAttributeLine, List.reverse_cons]
    exact (halts_reverse_at word _).append (halts_cons.mpr (by decide))
  · rw [blockAttributeLine, List.head?_cons]
    decide

/-! ## Blocks that close themselves -/

/-- A block as it is written: a header, items, and a brace. -/
structure Block.IsWritten (b : Block) : Prop where
  kind : b.kind = .model ∨ b.kind = .enum
  opens : header? b.header = some (b.kind, b.name)
  header : IsLine b.header
  more : b.header.getLast? ≠ some '\x7d'
  items : ∀ line ∈ b.body, IsItem line
  closing : b.closing = ['\x7d']

section Header

variable {keyword : List Char} (word : ∀ c ∈ keyword, isWord c = true) (filled : keyword ≠ [])
  (name : Word)
include word filled

theorem isLine_header : IsLine (keyword ++ ' ' :: (name.chars ++ [' ', '\x7b'])) where
  only := onlyMarks_append.mpr ⟨fun c member => .inl (word c member),
    onlyMarks_cons.mpr ⟨.inr (by decide), onlyMarks_append.mpr ⟨name.onlyMarks,
      onlyMarks_cons.mpr ⟨.inr (by decide), onlyMarks_singleton (by decide)⟩⟩⟩⟩
  filled := List.append_ne_nil_of_left_ne_nil filled _
  first := Halts.append_of_ne_nil
    (fun c first => isBlank_of_isWord (word c (List.mem_of_mem_head? first))) filled
  last := by
    have ends : (keyword ++ ' ' :: (name.chars ++ [' ', '\x7b'])).reverse =
        '\x7b' :: ' ' :: (keyword ++ ' ' :: name.chars).reverse := by simp
    rw [ends]
    exact halts_cons.mpr (by decide)

omit word filled in
theorem getLast?_header : (keyword ++ ' ' :: (name.chars ++ [' ', '\x7b'])).getLast? =
    some '\x7b' := by
  have ends : keyword ++ ' ' :: (name.chars ++ [' ', '\x7b']) =
      (keyword ++ ' ' :: (name.chars ++ [' '])) ++ ['\x7b'] := by simp
  rw [ends, List.getLast?_concat]

end Header

/-- The kind and the name of the block that a line opens with one of the words for that. -/
def opening? (line : List Char) (word : BlockKind × String) : Option (BlockKind × String) :=
  match after? word.2.toList line with
  | some (c :: rest) =>
    let tail := trimLeft rest
    let name := tail.takeWhile isWord
    if isBlank c && !name.isEmpty && (trimLeft (tail.dropWhile isWord)).head? = some '\x7b' then
      some (word.1, String.ofList name)
    else none
  | _ => none

theorem header?_eq (line : List Char) :
    header? line = BlockKind.keywords.findSome? (opening? line) := rfl

theorem opening?_header (kind : BlockKind) (keyword : String) (name : Word) :
    opening? (keyword.toList ++ ' ' :: (name.chars ++ [' ', '\x7b'])) (kind, keyword) =
      some (kind, name.text) := by
  have opened : after? keyword.toList (keyword.toList ++ ' ' :: (name.chars ++ [' ', '\x7b'])) =
      some (' ' :: (name.chars ++ [' ', '\x7b'])) := after?_eq_some_iff.mpr rfl
  have start : trimLeft (name.chars ++ [' ', '\x7b']) = name.chars ++ [' ', '\x7b'] :=
    trimLeft_of_halts (name.halts.append_of_ne_nil name.filled)
  have behind : Halts isWord [' ', '\x7b'] := halts_cons.mpr (by decide)
  have brace : trimLeft [' ', '\x7b'] = ['\x7b'] := by decide
  rw [opening?, opened]
  dsimp only
  rw [start, takeWhile_append_of_halts name.word behind, dropWhile_append_of_halts name.word behind,
    brace, if_pos, Word.text]
  simpa [isBlank] using name.filled

theorem WrittenModel.isWritten_block (m : WrittenModel) : m.block.IsWritten where
  kind := .inl rfl
  opens := by
    rw [header?_eq, BlockKind.keywords, List.findSome?_cons, block, opening?_header]
  header := isLine_header (List.all_eq_true.mp (by decide)) (by decide) m.name
  more := by
    rw [block, getLast?_header]
    decide
  items := List.forall_mem_append.mpr
    ⟨List.forall_mem_map.mpr fun f _ => f.isItem_line,
      List.forall_mem_map.mpr fun a _ => isItem_blockAttributeLine a.word a.arguments⟩
  closing := rfl

theorem WrittenEnum.isWritten_block (e : WrittenEnum) : e.block.IsWritten where
  kind := .inr rfl
  opens := by
    have other : opening? e.block.header (.model, "model") = none := rfl
    rw [header?_eq, BlockKind.keywords, List.findSome?_cons, other]
    dsimp only
    rw [List.findSome?_cons, block, opening?_header]
  header := isLine_header (List.all_eq_true.mp (by decide)) (by decide) e.name
  more := by
    rw [block, getLast?_header]
    decide
  items := List.forall_mem_append.mpr
    ⟨List.forall_mem_map.mpr fun v _ => v.isItem_line,
      List.forall_mem_map.mpr fun _ _ =>
        isItem_blockAttributeLine (List.all_eq_true.mp (by decide)) _⟩
  closing := rfl

theorem WrittenBlock.isWritten_block (b : WrittenBlock) : b.block.IsWritten := by
  cases b with
  | model m => exact m.isWritten_block
  | enum e => exact e.isWritten_block

namespace Block.IsWritten

variable {b : Block} (written : b.IsWritten)
include written

theorem closes : b.Closes where
  kind := written.kind
  header := written.opens
  opens := written.more
  inside line member := ⟨(written.items line member).filled, (written.items line member).goesOn⟩
  closing := congrArg List.head? written.closing

theorem isLine : ∀ line ∈ b.lines, IsLine line := by
  refine List.forall_mem_cons.mpr ⟨written.header, List.forall_mem_append.mpr
    ⟨fun line member => (written.items line member).toIsLine, List.forall_mem_singleton.mpr ?_⟩⟩
  rw [written.closing]
  exact ⟨onlyMarks_singleton (by decide), by decide, halts_cons.mpr (by decide),
    halts_cons.mpr (by decide)⟩

/-- Without the blanks around them the lines are those of the block. -/
theorem map_trim_indented (indent : Nat) : (b.indented indent).map trim = b.lines := by
  have spaces : ∀ c ∈ List.replicate indent ' ', isBlank c = true := fun c member =>
    List.eq_of_mem_replicate member ▸ by decide
  obtain ⟨header, below⟩ := List.forall_mem_cons.mp written.isLine
  obtain ⟨-, closing⟩ := List.forall_mem_append.mp below
  have closing := List.forall_mem_singleton.mp closing
  have inside : b.body.map (trim ∘ (List.replicate indent ' ' ++ ·)) = b.body :=
    (List.map_congr_left fun line member => trim_indented spaces (written.items line member).first
      (written.items line member).last).trans (List.map_id _)
  rw [indented, List.map_cons, List.map_append, List.map_map, inside, List.map_singleton,
    trim_of_halts header.first header.last, trim_of_halts closing.first closing.last, lines]

theorem onlyMarks_indented (indent : Nat) :
    ∀ line ∈ b.indented indent, OnlyMarks lineMarks line := by
  have spaces : OnlyMarks lineMarks (List.replicate indent ' ') := fun c member =>
    .inr (List.eq_of_mem_replicate member ▸ by decide)
  obtain ⟨header, below⟩ := List.forall_mem_cons.mp written.isLine
  obtain ⟨items, closing⟩ := List.forall_mem_append.mp below
  refine List.forall_mem_cons.mpr ⟨header.only, List.forall_mem_append.mpr
    ⟨List.forall_mem_map.mpr fun line member => ?_, fun line member => (closing line member).only⟩⟩
  exact onlyMarks_append.mpr ⟨spaces, (items line member).only⟩

end Block.IsWritten

/-! ## The text of blocks -/

/-- A line without slashes has no comment. -/
theorem beforeComment_eq_self {line : List Char} (free : '/' ∉ line) (before : Option Char)
    (quoted : Bool) : beforeComment before quoted line = line := by
  induction line generalizing before quoted with
  | nil => rfl
  | cons c line ih =>
    obtain ⟨other, free⟩ := not_or.mp (mt List.mem_cons.mpr free)
    rw [beforeComment, if_neg (fun opens : c = '/' ∧ _ => other opens.1.symm), ih free, ih free,
      ite_self]

theorem isLineBreak_of_onlyMarks {line : List Char} (only : OnlyMarks lineMarks line) :
    ∀ c ∈ line, isLineBreak c = false := by
  have marks : ∀ c ∈ lineMarks, (!isLineBreak c) = true :=
    List.all_eq_true.mp (by decide)
  intro c member
  rcases only c member with word | mark
  · refine Bool.eq_false_iff.mpr fun ends => ?_
    exact absurd (isBlank_of_isLineBreak ends) (by simp [isBlank_of_isWord word])
  · simpa using marks c mark

section Text

variable (indent : Nat) (blocks : List WrittenBlock)

theorem onlyMarks_lines : ∀ line ∈ blocks.flatMap (·.block.indented indent),
    OnlyMarks lineMarks line := by
  intro line member
  obtain ⟨b, -, member⟩ := List.mem_flatMap.mp member
  exact b.isWritten_block.onlyMarks_indented indent line member

theorem lines_writtenText : Text.lines (writtenText indent blocks).toList =
    blocks.flatMap (·.block.indented indent) := by
  rw [writtenText, String.toList_ofList, lines_flatMap_lineFeed]
  exact fun line member => isLineBreak_of_onlyMarks (onlyMarks_lines indent blocks line member)

/-- The text of written blocks is made of them. -/
theorem isMadeOf_writtenText :
    IsMadeOf (writtenText indent blocks) (blocks.map WrittenBlock.block) where
  bare := by
    rw [lines_writtenText]
    exact fun line member => beforeComment_eq_self
      ((onlyMarks_lines indent blocks line member).notMem (by decide) (by decide)) none false
  lines := by
    have trimmed : (blocks.flatMap (·.block.indented indent)).map trim =
        (blocks.map WrittenBlock.block).flatMap Block.lines := by
      rw [List.map_flatMap, List.flatMap_map]
      exact List.flatMap_congr fun b _ => b.isWritten_block.map_trim_indented indent
    have filled : ∀ line ∈ (blocks.map WrittenBlock.block).flatMap Block.lines,
        decide (line ≠ []) = true := by
      intro line member
      obtain ⟨b, isBlock, member⟩ := List.mem_flatMap.mp member
      obtain ⟨b, -, rfl⟩ := List.mem_map.mp isBlock
      exact decide_eq_true (b.isWritten_block.isLine line member).filled
    rw [lines_writtenText, trimmed, List.filter_eq_self.mpr filled]
  closes := by
    intro b member
    obtain ⟨b, -, rfl⟩ := List.mem_map.mp member
    exact b.isWritten_block.closes

end Text

end SiteAtlas.Schema
