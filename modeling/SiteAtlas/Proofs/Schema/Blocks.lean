import SiteAtlas.Proofs.Schema.Composition
import SiteAtlas.Proofs.Text.Pieces
import SiteAtlas.Proofs.Text.Words

/-! # Texts that are made of blocks

A block is written as a header, the lines inside, and a closing line. A reader that comes to it from
outside of any block reads the lines inside one after the other into what the header opened, and is
outside again behind it. So the schema of a text without comments is read off its blocks.
-/

namespace SiteAtlas.Schema

open Text

/-- A block of a schema as it is written, all lines without blanks around them. -/
structure Block where
  /-- The kind of block. -/
  kind : BlockKind
  /-- Its name. -/
  name : String
  /-- The line that opens it. -/
  header : List Char
  /-- The lines inside. -/
  body : List (List Char)
  /-- The line that closes it. -/
  closing : List Char

namespace Block

/-- The lines of a block. -/
def lines (b : Block) : List (List Char) := b.header :: (b.body ++ [b.closing])

/-- A block of a model or an enum that its closing line closes, and no other. -/
structure Closes (b : Block) : Prop where
  kind : b.kind = .model ∨ b.kind = .enum
  header : header? b.header = some (b.kind, b.name)
  opens : b.header.getLast? ≠ some '}'
  inside : ∀ line ∈ b.body, line ≠ [] ∧ line.head? ≠ some '}'
  closing : b.closing.head? = some '}'

instance (b : Block) : Decidable b.Closes :=
  decidable_of_iff
    ((b.kind = .model ∨ b.kind = .enum) ∧ header? b.header = some (b.kind, b.name) ∧
      b.header.getLast? ≠ some '}' ∧ (∀ line ∈ b.body, line ≠ [] ∧ line.head? ≠ some '}') ∧
      b.closing.head? = some '}')
    ⟨fun ⟨kind, header, opens, inside, closing⟩ => ⟨kind, header, opens, inside, closing⟩,
      fun ⟨kind, header, opens, inside, closing⟩ => ⟨kind, header, opens, inside, closing⟩⟩

/-- The model that a block describes, what its fields hold being open. -/
def model (b : Block) : Model := b.body.foldl Model.addLine { name := b.name }

/-- The enum that a block describes. -/
def enumeration (b : Block) : Enumeration := b.body.foldl Enumeration.addLine { name := b.name }

/-- The schema of a single block. -/
def schema (b : Block) : Schema :=
  match b.kind with
  | .model => { models := [b.model] }
  | .enum => { enums := [b.enumeration] }
  | _ => {}

end Block

/-- The models that blocks describe. -/
def modelsOf (blocks : List Block) : List Model :=
  (blocks.filter (·.kind = .model)).map Block.model

/-- The enums that blocks describe. -/
def enumsOf (blocks : List Block) : List Enumeration :=
  (blocks.filter (·.kind = .enum)).map Block.enumeration

/-- A text without comments whose lines are those of some blocks, with any blanks around them and
empty lines between them. -/
structure IsMadeOf (text : String) (blocks : List Block) : Prop where
  bare : ∀ line ∈ Text.lines text.toList, beforeComment none false line = line
  lines : ((Text.lines text.toList).map trim).filter (· ≠ []) = blocks.flatMap Block.lines
  closes : ∀ b ∈ blocks, b.Closes

/-! ## Reading a block -/

section Inside

variable {schema : Schema} {lines : List (List Char)}
  (inside : ∀ line ∈ lines, line ≠ [] ∧ line.head? ≠ some '}')
include inside

theorem foldl_addLine_model (m : Model) :
    lines.foldl ReadState.addLine ⟨schema, some (.model m), true⟩ =
      ⟨schema, some (.model (lines.foldl Model.addLine m)), true⟩ := by
  induction lines generalizing m with
  | nil => rfl
  | cons line rest ih =>
    obtain ⟨⟨filled, goesOn⟩, inside⟩ := List.forall_mem_cons.mp inside
    rw [List.foldl_cons, List.foldl_cons, ← ih inside, ReadState.addLine,
      if_neg (by simpa using filled)]
    exact congrArg (rest.foldl ReadState.addLine) (if_neg goesOn)

theorem foldl_addLine_enum (e : Enumeration) :
    lines.foldl ReadState.addLine ⟨schema, some (.enum e), true⟩ =
      ⟨schema, some (.enum (lines.foldl Enumeration.addLine e)), true⟩ := by
  induction lines generalizing e with
  | nil => rfl
  | cons line rest ih =>
    obtain ⟨⟨filled, goesOn⟩, inside⟩ := List.forall_mem_cons.mp inside
    rw [List.foldl_cons, List.foldl_cons, ← ih inside, ReadState.addLine,
      if_neg (by simpa using filled)]
    exact congrArg (rest.foldl ReadState.addLine) (if_neg goesOn)

end Inside

/-- Outside of any block a header opens one. -/
theorem ReadState.addLine_header {schema : Schema} {sawBlock : Bool} {line : List Char}
    {header : BlockKind × String} (opens : header? line = some header)
    (more : line.getLast? ≠ some '}') :
    (⟨schema, none, sawBlock⟩ : ReadState).addLine line =
      ⟨schema, some (.ofHeader header), true⟩ := by
  have filled : line ≠ [] := by
    rintro rfl
    cases opens
  rw [addLine, if_neg (by simpa using filled), opens]
  exact if_neg more

theorem ReadState.addLine_closing {schema : Schema} {block : OpenBlock} {sawBlock : Bool}
    {line : List Char} (closing : line.head? = some '}') :
    (⟨schema, some block, sawBlock⟩ : ReadState).addLine line =
      ⟨ReadState.close ⟨schema, some block, sawBlock⟩, none, sawBlock⟩ := by
  obtain ⟨c, rest, rfl⟩ : ∃ c rest, line = c :: rest := by
    cases line with
    | nil => cases closing
    | cons c rest => exact ⟨c, rest, rfl⟩
  exact if_pos closing

/-- Reading the lines of a block from outside of any block adds what it describes. -/
theorem Block.Closes.foldl_addLine {b : Block} (closes : b.Closes) (schema : Schema)
    (sawBlock : Bool) : b.lines.foldl ReadState.addLine ⟨schema, none, sawBlock⟩ =
      ⟨schema ++ b.schema, none, true⟩ := by
  rw [lines, List.foldl_cons, List.foldl_append,
    ReadState.addLine_header closes.header closes.opens]
  rcases closes.kind with kind | kind
  · have added : ReadState.close ⟨schema, some (.model b.model), true⟩ = schema ++ b.schema := by
      rw [Block.schema, kind]
      ext1 <;> simp [ReadState.close]
    rw [kind, OpenBlock.ofHeader, foldl_addLine_model closes.inside, List.foldl_cons,
      ReadState.addLine_closing closes.closing]
    exact congrArg (ReadState.mk · none true) added
  · have added : ReadState.close ⟨schema, some (.enum b.enumeration), true⟩ =
        schema ++ b.schema := by
      rw [Block.schema, kind]
      ext1 <;> simp [ReadState.close]
    rw [kind, OpenBlock.ofHeader, foldl_addLine_enum closes.inside, List.foldl_cons,
      ReadState.addLine_closing closes.closing]
    exact congrArg (ReadState.mk · none true) added

/-! ## Reading a text -/

/-- The schema that blocks describe, what the fields hold being open. -/
def schemaOf (blocks : List Block) : Schema :=
  { models := modelsOf blocks, enums := enumsOf blocks }

theorem schemaOf_cons {b : Block} (kind : b.kind = .model ∨ b.kind = .enum) (rest : List Block) :
    schemaOf (b :: rest) = b.schema ++ schemaOf rest := by
  rcases kind with kind | kind <;>
    ext1 <;> simp [schemaOf, modelsOf, enumsOf, Block.schema, kind]

/-- Reading the lines of blocks one behind the other adds what they describe. -/
theorem close_foldl_addLine {blocks : List Block} (closes : ∀ b ∈ blocks, b.Closes)
    (schema : Schema) (sawBlock : Bool) :
    ((blocks.flatMap Block.lines).foldl ReadState.addLine ⟨schema, none, sawBlock⟩).close =
      schema ++ schemaOf blocks := by
  induction blocks generalizing schema sawBlock with
  | nil => exact (append_empty schema).symm
  | cons b rest ih =>
    obtain ⟨here, below⟩ := List.forall_mem_cons.mp closes
    rw [List.flatMap_cons, List.foldl_append, here.foldl_addLine, ih below,
      schemaOf_cons here.kind, append_assoc]

/-- A reader passes over empty lines. -/
theorem foldl_addLine_filter (lines : List (List Char)) (s : ReadState) :
    (lines.filter (· ≠ [])).foldl ReadState.addLine s = lines.foldl ReadState.addLine s := by
  induction lines generalizing s with
  | nil => rfl
  | cons line rest ih =>
    by_cases empty : line = []
    · rw [List.filter_cons_of_neg (by simpa using empty), List.foldl_cons, empty,
        ReadState.addLine_nil, ih]
    · rw [List.filter_cons_of_pos (by simpa using empty), List.foldl_cons, List.foldl_cons, ih]

/-- What a text of blocks describes is read off its blocks. -/
theorem IsMadeOf.close_scan {text : String} {blocks : List Block} (made : IsMadeOf text blocks) :
    (scan text.toList).close = schemaOf blocks := by
  have tidy : (Text.lines text.toList).map tidyLine = (Text.lines text.toList).map trim := by
    refine List.map_congr_left fun line member => ?_
    rw [tidyLine, stripComment, made.bare line member, trim_trimRight]
  have empty : ({} : Schema) ++ schemaOf blocks = schemaOf blocks := by
    ext1 <;> simp [schemaOf]
  rw [scan, tidy, ← foldl_addLine_filter, made.lines]
  exact (close_foldl_addLine made.closes {} false).trans empty

end SiteAtlas.Schema
