import SiteAtlas.Files.FileSystem
import SiteAtlas.Settings.Sections
import SiteAtlas.Settings.Toml.Printer
import SiteAtlas.Settings.Toml.Reader

/-! # Stored settings

Settings are kept in sections of a file of the user and, for the options of a walk, of a file of the
project. What a text of sections looks like is left to a format. A file that is missing or is not
written as settings are has no sections; bytes that are no text, and a section that is no table, are
errors.
-/

namespace SiteAtlas.Settings

/-- What kind of mistake an error is about. -/
inductive ErrorClass where
  /-- Bytes are no text. -/
  | undecodable
  /-- A value is of the wrong type. -/
  | wrongType
  /-- A value is of the right type, and no value that is wanted. -/
  | wrongValue
  /-- A number is out of range. -/
  | overflow
  deriving DecidableEq

/-- Why stored settings cannot be read. -/
inductive StoreError where
  /-- The bytes of the file are no text. -/
  | notText (mistake : Text.Mistake)
  /-- A section, of the named kind, has no items. -/
  | noItems (kind : String)
  /-- An item of a row, by its place, has no items of its own. -/
  | noPair (place : Nat)
  /-- An item of a row, by its place, has not two items but another number. -/
  | notTwo (place count : Nat)
  /-- A key of the named kind can stand for nothing. -/
  | noKey (kind : String)
  /-- A section of the named kind cannot be looked into. -/
  | notSearchable (kind : String)
  /-- A row holds a key but no values by keys. -/
  | noLookup (isText : Bool)
  | reading (error : ReadError)
  deriving DecidableEq

/-- The text of an error. -/
def StoreError.message : StoreError → String
  | notText mistake => mistake.message
  | noItems kind => Value.quoted kind ++ " object is not iterable"
  | noPair place =>
    "cannot convert dictionary update sequence element #" ++ toString place ++ " to a sequence"
  | notTwo place count =>
    "dictionary update sequence element #" ++ toString place ++ " has length " ++ toString count
      ++ "; 2 is required"
  | noKey kind => "unhashable type: " ++ Value.quoted kind
  | notSearchable kind => "argument of type " ++ Value.quoted kind ++ " is not iterable"
  | noLookup true => "string indices must be integers, not " ++ Value.quoted "str"
  | noLookup false => "list indices must be integers or slices, not str"
  | reading error => error.message

/-- The class of an error. -/
def StoreError.errorClass : StoreError → ErrorClass
  | notText _ => .undecodable
  | notTwo _ _ => .wrongValue
  | reading _ => .overflow
  | noItems _ | noPair _ | noKey _ | notSearchable _ | noLookup _ => .wrongType

/-- How sections are read from a text, and written as one. -/
structure Format where
  /-- The sections of a text, or nothing where it is not written as settings are. -/
  read? : (text : String) → Option Fields
  /-- The text of sections. -/
  render : (document : Fields) → String

/-- Settings are written as TOML. -/
def Format.toml : Format := ⟨Toml.read?, Toml.render⟩

/-! ## Sections -/

/-- All sections of a file. -/
def load (format : Format) (files : FileSystem) (path : Path) : Except StoreError Fields :=
  match files.content path with
  | .error _ => .ok []
  | .ok content =>
    match Text.ofBytesStrict content with
    | .error mistake => .error (.notText mistake)
    | .ok text => .ok ((format.read? text).getD [])

/-- The key and the value that an item of a row is, if its key is a text. -/
def pairOfItem (place : Nat) (item : Value) : Except StoreError (Option (String × Value)) :=
  let ofItems : List Value → Except StoreError (Option (String × Value))
    | [.text key, value] => .ok (some (key, value))
    | [key, _] =>
      match key with
      | .list _ | .table _ => .error (.noKey key.kindName)
      | _ => .ok none
    | items => .error (.notTwo place items.length)
  match item with
  | .text s => ofItems (s.toList.map fun c => .text (String.singleton c))
  | .list items => ofItems items
  | .table fields => ofItems (fields.map fun field => .text field.1)
  | _ => .error (.noPair place)

/-- A section as a table. A row of pairs makes one too, and so does an empty text. -/
def tableOf : Value → Except StoreError Fields
  | .table fields => .ok fields
  | .text s => if s.isEmpty then .ok [] else .error (.notTwo 0 1)
  | .list items => do
    let pairs ← items.zipIdx.mapM fun (item, place) => pairOfItem place item
    return Fields.merge [] (pairs.filterMap id)
  | value => .error (.noItems value.kindName)

/-- A section of a document as a table. -/
def sectionTable (document : Fields) (name : String) : Except StoreError Fields :=
  match document.get? name with
  | none => .ok []
  | some value => tableOf value

/-- A section of a document, looked into for the given keys. A text or a list without any of them
has no settings. -/
def sectionWith (document : Fields) (name : String) (keys : List String) :
    Except StoreError Fields :=
  match document.get? name with
  | none => .ok []
  | some (.table fields) => .ok fields
  | some (.text s) =>
    if keys.any fun key => Text.contains key.toList s.toList then .error (.noLookup true)
    else .ok []
  | some (.list items) =>
    let isKey : Value → Bool
      | .text s => keys.contains s
      | _ => false
    if items.any isKey then .error (.noLookup false) else .ok []
  | some value => .error (.notSearchable value.kindName)

/-! ## Files of settings -/

section Files

variable (format : Format)

/-- Write sections to a file. Answers whether it was written; nothing can be written to a folder. -/
def store (files : FileSystem) (path : Path) (document : Fields) : FileSystem × Bool :=
  if files.hasFolder path then (files, false)
  else (files.write path (format.render document), true)

/-- Set some values of a section and keep all others. -/
def saveSection (files : FileSystem) (path : Path) (name : String) (values : Fields) :
    Except StoreError (FileSystem × Bool) := do
  let document ← load format files path
  let merged := (← sectionTable document name).merge values
  return store format files path (document.set name (.table merged))

/-- The name of a project's own settings file. -/
def projectFileName : String := "nextgraph.toml"

/-- The options of a walk: those of the user, and over them those of the project. -/
def loadAnalysis (files : FileSystem) (userFile : Path) (root : Option Path) :
    Except StoreError AnalysisSettings := do
  let own ← sectionTable (← load format files userFile) "analysis"
  match root with
  | none => return .ofFields own
  | some root =>
    let project ← sectionTable (← load format files (root.child projectFileName)) "analysis"
    return .ofFields (own.merge project)

/-- The measures of the tree layout. -/
def loadTreeSpacing (files : FileSystem) (userFile : Path) :
    Except StoreError (TreeSpacing Number) := do
  let keys := (TreeSpacing.toFields .standard).map (·.1)
  let fields ← sectionWith (← load format files userFile) "layout" keys
  (TreeSpacing.ofFields fields).mapError .reading

/-- The measures of the force layout. -/
def loadForceSettings (files : FileSystem) (userFile : Path) :
    Except StoreError (ForceSettings Number) := do
  let keys := (ForceSettings.toFields .standard).map (·.1)
  let fields ← sectionWith (← load format files userFile) "schema_layout" keys
  (ForceSettings.ofFields fields).mapError .reading

end Files

end SiteAtlas.Settings
