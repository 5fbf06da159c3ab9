import SiteAtlas.Number

/-! # Documents

A `Value` is what a settings file, a request body or an answer is made of. Tables keep the order in
which their keys were first set.
-/

namespace SiteAtlas

/-- A value of a document. -/
inductive Value where
  | null
  | bool (value : Bool)
  | number (value : Number)
  | text (value : String)
  /-- A date or a time of day, by its text. -/
  | moment (value : String)
  | list (items : List Value)
  | table (fields : List (String × Value))
  deriving Inhabited

/-- The keys and values of a table, in the order of the keys' first appearance. -/
abbrev Fields := List (String × Value)

/-- The value under a key. -/
def Fields.get? (fields : Fields) (key : String) : Option Value :=
  (fields.find? fun field => field.1 == key).map (·.2)

/-- Put a value under a key: in its old place, or at the end if the key is new. -/
def Fields.set : (fields : Fields) → (key : String) → (value : Value) → Fields
  | [], key, value => [(key, value)]
  | (name, old) :: rest, key, value =>
    if name == key then (name, value) :: rest else (name, old) :: Fields.set rest key value

/-- Put all of a table's values over those of another. -/
def Fields.merge (fields changes : Fields) : Fields :=
  changes.foldl (fun merged change => merged.set change.1 change.2) fields

namespace Value

/-- A count. -/
def count (n : Nat) : Value := .number (.whole n)

/-- A text that may be missing. -/
def optional : Option String → Value
  | some s => .text s
  | none => .null

/-- A list of texts. -/
def texts (items : List String) : Value := .list (items.map .text)

/-- The value under a key of a table; nothing for any other value. -/
def get? (value : Value) (key : String) : Option Value :=
  match value with
  | table fields => Fields.get? fields key
  | _ => none

/-- Whether a value counts as given: not null, false, zero or empty. -/
def isGiven : Value → Bool
  | null => false
  | bool b => b
  | number n => !Scalar.isZero n
  | text s => !s.isEmpty
  | moment _ => true
  | list items => !items.isEmpty
  | table fields => !fields.isEmpty

/-- Whether a value is a table. -/
def isTable : Value → Bool
  | table _ => true
  | _ => false

end Value

end SiteAtlas
