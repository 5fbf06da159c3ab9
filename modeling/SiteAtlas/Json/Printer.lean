import SiteAtlas.Value.Basic
import SiteAtlas.Decimal.Shortest

/-! # Writing JSON

Texts are written in ASCII, every other character as one or two `\u` escapes. `render` writes one
line with a blank after each comma and colon, `renderIndented` one line per item.
-/

namespace SiteAtlas.Json

/-- A digit of a `\u` escape. -/
def hexDigit (n : Nat) : Char := Nat.digitChar (n % 16)

/-- The escape of one UTF-16 unit. -/
def escapeUnit (unit : Nat) : List Char :=
  ['\\', 'u', hexDigit (unit / 4096), hexDigit (unit / 256), hexDigit (unit / 16), hexDigit unit]

/-- The text of one character inside quotes. -/
def escapeChar (c : Char) : List Char :=
  if c = '"' then ['\\', '"']
  else if c = '\\' then ['\\', '\\']
  else if c = '\n' then ['\\', 'n']
  else if c = '\r' then ['\\', 'r']
  else if c = '\t' then ['\\', 't']
  else if c.toNat = 8 then ['\\', 'b']
  else if c.toNat = 12 then ['\\', 'f']
  else if 32 ≤ c.toNat ∧ c.toNat < 127 then [c]
  else if c.toNat = 127 then [c]
  else if c.toNat < 0x10000 then escapeUnit c.toNat
  else
    let rest := c.toNat - 0x10000
    escapeUnit (0xD800 + rest / 1024) ++ escapeUnit (0xDC00 + rest % 1024)

/-- A text in quotes. -/
def quote (text : String) : String :=
  String.ofList ('"' :: text.toList.flatMap escapeChar ++ ['"'])

/-- The text of a number: whole numbers by their digits, others by the fewest that read back. -/
def renderNumber : Number → String
  | .whole n => toString n
  | .real x =>
    if x.isNaN then "NaN" else if x.isInf then (if x < 0 then "-Infinity" else "Infinity")
    else Decimal.shortest x

mutual

/-- A value on one line. -/
def render : Value → String
  | .null => "null"
  | .bool b => if b then "true" else "false"
  | .number n => renderNumber n
  | .text s => quote s
  | .moment s => quote s
  | .list items => "[" ++ ", ".intercalate (renderItems items) ++ "]"
  | .table fields => "\x7b" ++ ", ".intercalate (renderFields fields) ++ "\x7d"

/-- The items of a list, each on its own. -/
def renderItems : List Value → List String
  | [] => []
  | item :: rest => render item :: renderItems rest

/-- The fields of a table, each with its key. -/
def renderFields : List (String × Value) → List String
  | [] => []
  | (key, item) :: rest => (quote key ++ ": " ++ render item) :: renderFields rest

end

/-- A line break followed by two blanks for each level. -/
def newLine (level : Nat) : String := "\n" ++ String.ofList (List.replicate (2 * level) ' ')

mutual

/-- A value over several lines, inside `level` others. -/
def renderAt (level : Nat) : Value → String
  | .list [] => "[]"
  | .table [] => "\x7b\x7d"
  | .list (item :: items) =>
    "[" ++ newLine (level + 1)
      ++ ("," ++ newLine (level + 1)).intercalate (renderItemsAt (level + 1) (item :: items))
      ++ newLine level ++ "]"
  | .table (field :: fields) =>
    "\x7b" ++ newLine (level + 1)
      ++ ("," ++ newLine (level + 1)).intercalate (renderFieldsAt (level + 1) (field :: fields))
      ++ newLine level ++ "\x7d"
  | value => render value

/-- The items of a list at a level. -/
def renderItemsAt (level : Nat) : List Value → List String
  | [] => []
  | item :: rest => renderAt level item :: renderItemsAt level rest

/-- The fields of a table at a level. -/
def renderFieldsAt (level : Nat) : List (String × Value) → List String
  | [] => []
  | (key, item) :: rest => (quote key ++ ": " ++ renderAt level item) :: renderFieldsAt level rest

end

/-- A value over several lines, two blanks per level. -/
def renderIndented (value : Value) : String := renderAt 0 value

end SiteAtlas.Json
