import SiteAtlas.Value.Basic
import SiteAtlas.Decimal.Shortest
import SiteAtlas.Text.Class

/-! # Values as plain text

Where a value is shown rather than written to a file, texts stand as they are on the outside and in
quotes inside lists and tables; nothing, truth values and numbers have fixed spellings.
-/

namespace SiteAtlas.Value

/-- A number in hexadecimal with at least `width` digits. -/
def hexadecimal (width n : Nat) : List Char := (Nat.toDigits 16 n).leftpad width '0'

/-- A character inside the given quotes. -/
def quotedChar (mark c : Char) : List Char :=
  if c = mark ∨ c = '\\' then ['\\', c]
  else if c = '\n' then ['\\', 'n']
  else if c = '\r' then ['\\', 'r']
  else if c = '\t' then ['\\', 't']
  else if Text.isPrintable c then [c]
  else if c.toNat < 0x100 then '\\' :: 'x' :: hexadecimal 2 c.toNat
  else if c.toNat < 0x10000 then '\\' :: 'u' :: hexadecimal 4 c.toNat
  else '\\' :: 'U' :: hexadecimal 8 c.toNat

/-- A text in single quotes, or in double ones if it holds single and no double quotes. -/
def quoted (text : String) : String :=
  let chars := text.toList
  let single := Char.ofNat 39
  let mark := if chars.contains single && !chars.contains '"' then '"' else single
  String.ofList (mark :: chars.flatMap (quotedChar mark) ++ [mark])

/-- The text of a number. -/
def numberText : Number → String
  | .whole n => toString n
  | .real x => Decimal.shortest x

mutual

/-- A value as it stands inside another. -/
def literal : Value → String
  | .null => "None"
  | .bool b => if b then "True" else "False"
  | .number n => numberText n
  | .text s => quoted s
  | .moment s => s
  | .list items => "[" ++ ", ".intercalate (literals items) ++ "]"
  | .table fields => "\x7b" ++ ", ".intercalate (fieldLiterals fields) ++ "\x7d"

/-- The items of a list. -/
def literals : List Value → List String
  | [] => []
  | item :: rest => literal item :: literals rest

/-- The fields of a table. -/
def fieldLiterals : List (String × Value) → List String
  | [] => []
  | (key, item) :: rest => (quoted key ++ ": " ++ literal item) :: fieldLiterals rest

end

/-- The name of a value's kind. -/
def kindName : Value → String
  | .null => "NoneType"
  | .bool _ => "bool"
  | .number (.whole _) => "int"
  | .number (.real _) => "float"
  | .text _ => "str"
  | .moment _ => "datetime.datetime"
  | .list _ => "list"
  | .table _ => "dict"

/-- How many decimal digits a whole number may have that is read or written. -/
def digitLimit : Nat := 4300

mutual

/-- Whether no whole number in a value has too many digits to be written. -/
def isWritable : Value → Bool
  | .number (.whole n) => n.natAbs < tenTo digitLimit
  | .list items => areWritable items
  | .table fields => fieldsWritable fields
  | _ => true

/-- Whether the items of a list can be written. -/
def areWritable : List Value → Bool
  | [] => true
  | item :: rest => isWritable item && areWritable rest

/-- Whether the fields of a table can be written. -/
def fieldsWritable : List (String × Value) → Bool
  | [] => true
  | (_, item) :: rest => isWritable item && fieldsWritable rest

end

/-- A value as it stands on its own. -/
def display : Value → String
  | .text s => s
  | .moment s => s.map fun c => if c = 'T' then ' ' else c
  | value => literal value

end SiteAtlas.Value
