import SiteAtlas.Value.Literal
import SiteAtlas.Text.Basic

/-! # Writing TOML

A table is written with its own settings first, then the lists of tables in it, each under a double
header, and last a header with its full name before each table in it, level by level. Nothing
stands for a missing value.
-/

namespace SiteAtlas.Toml

/-- The text of a key: quotes are only set around what is no plain word. -/
def isPlainKey (key : String) : Bool :=
  !key.isEmpty && key.toList.all fun c => c.isAlphanum || c = '_' || c = '-'

/-- A character between double quotes. A character without a picture is written by its code. -/
def textChar (c : Char) : List Char :=
  if c = '"' then ['\\', '"']
  else
    match Value.quotedChar '"' c with
    | '\\' :: 'x' :: digits => 'x' :: digits
    | chars => chars

/-- A text in double quotes. -/
def textLiteral (text : String) : String :=
  String.ofList ('"' :: text.toList.flatMap textChar ++ ['"'])

/-- The text of a number; an exponent has no zeros in front. -/
def numberLiteral (n : Number) : String :=
  match n with
  | .whole n => toString n
  | .real _ =>
    String.ofList (match (Value.numberText n).toList.splitOn 'e' with
      | [mantissa, sign :: '0' :: power] => mantissa ++ 'e' :: sign :: power
      | _ => (Value.numberText n).toList)

/-- A date as it is written. -/
def momentLiteral (text : String) : String :=
  let chars := text.toList.map fun c => if c = ' ' then 'T' else c
  let zone := "+00:00".toList
  String.ofList
    (if Text.endsWith zone chars then chars.take (chars.length - zone.length) ++ ['Z'] else chars)

/-- The text of a key. -/
def keyLiteral (key : String) : String := if isPlainKey key then key else textLiteral key

mutual

/-- The text of a value. -/
def valueLiteral : Value → String
  | .null => textLiteral "None"
  | .bool b => if b then "true" else "false"
  | .number n => numberLiteral n
  | .text s => textLiteral s
  | .moment s => momentLiteral s
  | .list items => "[" ++ itemLiterals items ++ "]"
  | .table fields => textLiteral (Value.display (.table fields))

/-- The texts of the items of a list, each with a blank before and a comma after it. -/
def itemLiterals : List Value → String
  | [] => ""
  | value :: rest => " " ++ valueLiteral value ++ "," ++ itemLiterals rest

end

/-- The tables among some fields, by their full names. -/
def innerTables (above : String) (fields : Fields) : List (String × Fields) :=
  fields.filterMap fun (key, value) =>
    match value with
    | .table inner => some (above ++ keyLiteral key, inner)
    | _ => none

/-- The lines of the settings of a table. -/
def ownLines (fields : Fields) : String :=
  String.join (fields.map fun (key, value) =>
    match value with
    | .table _ | .null => ""
    | .list items =>
      if items.any Value.isTable then "" else keyLiteral key ++ " = " ++ valueLiteral value ++ "\n"
    | value => keyLiteral key ++ " = " ++ valueLiteral value ++ "\n")

/-- The lists of tables among some fields, by their full names. -/
def tableLists (above : String) (fields : Fields) : List (String × List Fields) :=
  fields.filterMap fun (key, value) =>
    match value with
    | .list items =>
      if items.any Value.isTable then
        some (above ++ keyLiteral key, items.filterMap fun
          | .table inner => some inner
          | _ => none)
      else none
    | _ => none

mutual

/-- The lines of a table but for the tables in it: its settings, then its lists of tables. -/
def body : (levels : Nat) → (above : String) → Fields → String
  | 0, _, fields => ownLines fields
  | levels + 1, above, fields =>
    ownLines fields ++ String.join ((tableLists above fields).flatMap fun (name, items) =>
      items.map fun item => listItem levels name item)

/-- The lines of one table of a list. -/
def listItem : (levels : Nat) → (name : String) → Fields → String
  | 0, _, _ => ""
  | levels + 1, name, item =>
    let own := body levels (name ++ ".") item
    let inner := innerBodies levels (innerTables (name ++ ".") item)
    if own.startsWith "[" then "[[" ++ name ++ "]]\n" ++ "\n" ++ own ++ inner
    else "[[" ++ name ++ "]]\n" ++ own ++ "\n" ++ inner

/-- The lines of tables in a table of a list, level by level. -/
def innerBodies : (levels : Nat) → List (String × Fields) → String
  | 0, _ => ""
  | _, [] => ""
  | levels + 1, tables =>
    String.join (tables.map fun (name, fields) =>
      let own := body levels (name ++ ".") fields
      if own.isEmpty then "" else "[" ++ name ++ "]\n" ++ own)
    ++ innerBodies levels (tables.flatMap fun (name, fields) => innerTables (name ++ ".") fields)

end

/-- Add a table to a text. A table that has nothing but further tables gets no header. -/
def addTable (levels : Nat) (text : String) (name : String) (fields : Fields) : String :=
  let own := body levels (name ++ ".") fields
  if own.isEmpty && !(innerTables "" fields).isEmpty then text
  else
    let gap := if text.isEmpty || Text.endsWith ['\n', '\n'] text.toList then "" else "\n"
    text ++ gap ++ "[" ++ name ++ "]\n" ++ own

/-- Add tables to a text, and then those in them, down to so many levels. -/
def addTables (text : String) : (levels : Nat) → List (String × Fields) → String
  | 0, _ => text
  | _, [] => text
  | levels + 1, tables =>
    addTables (tables.foldl (fun text (name, fields) => addTable levels text name fields) text)
      levels (tables.flatMap fun (name, fields) => innerTables (name ++ ".") fields)

mutual

/-- How deep tables and lists lie in each other in a value. -/
def depth : Value → Nat
  | .table fields => depthOf fields + 1
  | .list items => depthIn items + 1
  | _ => 0

/-- How deep tables and lists lie in each other in some fields. -/
def depthOf : List (String × Value) → Nat
  | [] => 0
  | (_, value) :: rest => max (depth value) (depthOf rest)

/-- How deep tables and lists lie in each other in some items. -/
def depthIn : List Value → Nat
  | [] => 0
  | value :: rest => max (depth value) (depthIn rest)

end

/-- The text of a document. -/
def render (fields : Fields) : String :=
  let levels := 2 * depthOf fields + 2
  addTables (body levels "" fields) levels (innerTables "" fields)

end SiteAtlas.Toml
