import SiteAtlas.Schema.Basic
import SiteAtlas.Schema.Attribute

/-! # Reading schemas

A schema text is read line by line. A line that opens a block decides how the lines up to the
closing brace are understood; lines outside any block, and lines that no rule fits, are passed
over.
-/

namespace SiteAtlas.Schema

open Text

/-- The kinds of block. -/
inductive BlockKind where
  | model
  | enum
  | view
  | type
  | datasource
  | generator
  deriving DecidableEq

/-- The words that open a block. -/
def BlockKind.keywords : List (BlockKind × String) :=
  [(.model, "model"), (.enum, "enum"), (.view, "view"), (.type, "type"),
    (.datasource, "datasource"), (.generator, "generator")]

/-- The kind and the name of the block that a line opens. -/
def header? (line : List Char) : Option (BlockKind × String) :=
  BlockKind.keywords.findSome? fun (kind, keyword) =>
    match after? keyword.toList line with
    | some (c :: rest) =>
      let tail := trimLeft rest
      let name := tail.takeWhile isWord
      if isBlank c && !name.isEmpty && (trimLeft (tail.dropWhile isWord)).head? = some '{' then
        some (kind, String.ofList name)
      else none
    | _ => none

/-- The provider that a line sets. -/
def provider? (line : List Char) : Option String :=
  let isQuote (c : Char) : Bool := c == '"' || c.toNat == 39
  (findMap? (fun text =>
    match after? "provider".toList text with
    | none => none
    | some rest =>
      match trimLeft rest with
      | '=' :: tail =>
        match trimLeft tail with
        | opening :: inside =>
          let name := inside.takeWhile (!isQuote ·)
          if isQuote opening && !name.isEmpty && !(inside.dropWhile (!isQuote ·)).isEmpty then
            some name
          else none
        | [] => none
      | _ => none) line).map String.ofList

/-- The parts of a line that declares a field. -/
structure FieldLine where
  /-- The name of the field. -/
  name : List Char
  /-- The name of its type, with the argument in quotes that it may have. -/
  type : List Char
  /-- Whether the type is followed by `[]`. -/
  isList : Bool
  /-- Whether the type is followed by `?`. -/
  isOptional : Bool
  /-- The attributes. -/
  rest : List Char

/-- A parenthesis around a text in quotes at the very front, and what follows it. -/
def typeArgument? (text : List Char) : Option (List Char × List Char) :=
  match text with
  | '(' :: '"' :: inside =>
    match upTo? '"' inside with
    | some (quoted, ')' :: after) => some ('(' :: '"' :: quoted ++ ['"', ')'], after)
    | _ => none
  | _ => none

/-- The parts of a line that begins with two words. -/
def fieldLine? (line : List Char) : Option FieldLine :=
  let name := line.takeWhile isWord
  let behind := line.dropWhile isWord
  let tail := trimLeft behind
  let word := tail.takeWhile isWord
  if name.isEmpty || tail.length = behind.length || word.isEmpty then none
  else
    let afterWord := tail.dropWhile isWord
    let (type, afterType) := match typeArgument? afterWord with
      | some (argument, after) => (word ++ argument, after)
      | none => (word, afterWord)
    let (isList, afterList) := match after? ['[', ']'] afterType with
      | some after => (true, after)
      | none => (false, afterType)
    let (isOptional, rest) := match after? ['?'] afterList with
      | some after => (true, after)
      | none => (false, afterList)
    some ⟨name, type, isList, isOptional, rest⟩

/-- The name in the database that a mapping attribute gives. -/
def mappedName? (args : Option (List Char)) : Option String :=
  match args with
  | none => none
  | some args => if args.isEmpty then none else leadingQuoted? args

/-- The field that a line declares, its kind still open. -/
def field? (line : List Char) : Option Field :=
  (fieldLine? line).map fun parts =>
    let has (name : String) : Bool := (attributeArgs? name parts.rest).isSome
    let relation := (attributeArgs? "relation" parts.rest)
    let args := relation.getD []
    let leading := leadingQuoted? args
    { name := String.ofList parts.name
      type := String.ofList parts.type
      isList := parts.isList
      isRequired := !parts.isOptional
      isUnique := has "unique"
      isId := has "id"
      isUpdatedAt := has "updatedAt"
      default := (attributeArgs? "default" parts.rest).map String.ofList
      dbName := mappedName? (attributeArgs? "map" parts.rest)
      relationName := if (leading.getD "").isEmpty then quotedArg? "name" args else leading
      fromFields := keyedFieldList "fields" args
      toFields := keyedFieldList "references" args
      onDelete := wordArg? "onDelete" args
      onUpdate := wordArg? "onUpdate" args }

/-- The index that the arguments of a block attribute describe. -/
def index (args : List Char) : Index := ⟨fieldList args, quotedArg? "name" args⟩

/-- A model with one more block attribute. -/
def Model.addAttribute (m : Model) (line : List Char) : Model :=
  match attributeArgs? "@id" line, attributeArgs? "@unique" line, attributeArgs? "@index" line,
    attributeArgs? "@map" line with
  | some args, _, _, _ => { m with primaryKey := some (index args) }
  | none, some args, _, _ => { m with uniqueIndexes := m.uniqueIndexes ++ [index args] }
  | none, none, some args, _ => { m with indexes := m.indexes ++ [index args] }
  | none, none, none, some args =>
    if args.isEmpty then m else { m with dbName := leadingQuoted? args }
  | none, none, none, none => m

/-- A model with one more line of its block. -/
def Model.addLine (m : Model) (line : List Char) : Model :=
  if (after? ['@', '@'] line).isSome then m.addAttribute line
  else
    match field? line with
    | some f => { m with fields := m.fields ++ [f] }
    | none => m

/-- An enum with one more line of its block. -/
def Enumeration.addLine (e : Enumeration) (line : List Char) : Enumeration :=
  if (after? ['@', '@'] line).isSome then
    match attributeArgs? "@map" line with
    | some args => if args.isEmpty then e else { e with dbName := leadingQuoted? args }
    | none => e
  else
    let name := line.takeWhile isWord
    if name.isEmpty then e
    else
      let value : EnumValue :=
        ⟨String.ofList name, mappedName? (attributeArgs? "map" (line.dropWhile isWord))⟩
      { e with values := e.values ++ [value] }

/-- The block that a reader is inside of, with what it read of it. -/
inductive OpenBlock where
  | model (m : Model)
  | enum (e : Enumeration)
  | datasource
  | generator
  | other

/-- The block that a header opens, still empty. -/
def OpenBlock.ofHeader : BlockKind × String → OpenBlock
  | (.model, name) => .model { name := name }
  | (.enum, name) => .enum { name := name }
  | (.datasource, _) => .datasource
  | (.generator, _) => .generator
  | _ => .other

/-- What a reader knows between two lines. -/
structure ReadState where
  /-- The finished blocks. -/
  schema : Schema := {}
  /-- The block it is inside of. -/
  block : Option OpenBlock := none
  /-- Whether any block was opened so far. -/
  sawBlock : Bool := false

/-- The finished blocks together with the one that is still open. -/
def ReadState.close (s : ReadState) : Schema :=
  match s.block with
  | some (.model m) => { s.schema with models := s.schema.models ++ [m] }
  | some (.enum e) => { s.schema with enums := s.schema.enums ++ [e] }
  | _ => s.schema

/-- A reader after a line without comment and blanks around it. -/
def ReadState.addLine (s : ReadState) (line : List Char) : ReadState :=
  if line.isEmpty then s
  else
    match s.block with
    | none =>
      match header? line with
      | none => s
      | some header =>
        let opened : ReadState := ⟨s.schema, some (.ofHeader header), true⟩
        if line.getLast? = some '}' then ⟨opened.close, none, true⟩ else opened
    | some block =>
      if line.head? = some '}' then ⟨s.close, none, s.sawBlock⟩
      else
        match block with
        | .model m => { s with block := some (.model (m.addLine line)) }
        | .enum e => { s with block := some (.enum (e.addLine line)) }
        | .datasource =>
          match provider? line with
          | some name => { s with schema := { s.schema with provider := some name } }
          | none => s
        | .generator =>
          match provider? line with
          | some name =>
            { s with schema := { s.schema with generators := s.schema.generators ++ [name] } }
          | none => s
        | .other => s

/-- The line that counts: without its comment and without blanks around it. -/
def tidyLine (line : List Char) : List Char := trim (stripComment line)

/-- A reader after all lines of a text. -/
def scan (text : List Char) : ReadState :=
  ((lines text).map tidyLine).foldl ReadState.addLine {}

/-- The schema that a text describes. -/
def ofText (text : String) : Schema := (scan text.toList).close.resolveKinds

/-- Why a text is refused as a schema. -/
inductive ReadError where
  | noBlocks
  deriving DecidableEq

/-- The words of a refusal. -/
def ReadError.message : ReadError → String
  | noBlocks => "No model, enum, datasource or generator blocks found"

/-- The schema that a text describes, if it opens any block. -/
def ofTextStrict (text : String) : Except ReadError Schema :=
  if (scan text.toList).sawBlock then .ok (ofText text) else .error .noBlocks

end SiteAtlas.Schema
