import SiteAtlas.Command.Options
import SiteAtlas.Files.Path
import SiteAtlas.Settings.Convert

/-! # Commands

What can be asked for on a command line.
-/

namespace SiteAtlas

/-- How a graph is written. -/
inductive GraphFormat where
  | json
  | dot
  | html
  deriving DecidableEq

/-- What is asked for. -/
inductive Command where
  /-- The options of the command named, or of all commands. -/
  | help (name : Option String)
  | version
  /-- The numbers of a project, or its whole analysis. -/
  | analyze (path : Path) (dependencies asJson : Bool) (output : Option Path)
  /-- The tree of a project. -/
  | outline (path : Path)
  /-- The routes of a project. -/
  | routes (path : Path) (asJson : Bool)
  /-- What a file imports. -/
  | dependencies (file : Path) (root : Option Path) (asJson : Bool)
  /-- Where a file is imported. -/
  | importers (file root : Path)
  /-- The tree layout of a project. -/
  | layout (path : Path) (expanded : List String) (expandAll dependencies : Bool)
      (format : GraphFormat) (output : Option Path)
  /-- The graph of a schema, or its numbers where no format is given. -/
  | schema (path : Path) (format : Option GraphFormat) (output : Option Path) (arranged : Bool)
  /-- The user's settings. -/
  | showSettings
  /-- A change to the user's settings. -/
  | setSetting (group name : String) (value : Value)

namespace Command

/-! ## The parts of a command line -/

/-- Asks for help. -/
def helpFlag : Flag := { key := "help", names := ["--help"] }

/-- Asks for JSON. -/
def jsonFlag : Flag := { key := "json", names := ["--json"] }

/-- Asks for dependencies. -/
def dependenciesFlag : Flag := { key := "deps", names := ["--deps", "-d"] }

/-- Names the file to be written. -/
def outputFlag : Flag := { key := "output", names := ["--output", "-o"], takesValue := true }

/-- Names the root of the project. -/
def rootFlag : Flag := { key := "root", names := ["--root", "-r"], takesValue := true }

/-- Names the format of a graph. -/
def formatFlag : Flag := { key := "format", names := ["--format", "-f"], takesValue := true }

/-- What can stand before the name of a command. -/
def globalFlags : List Flag :=
  [{ key := "version", names := ["--version", "-v"] },
    { key := "verbose", names := ["--verbose", "-V"] }, helpFlag]

/-- The names of a command's arguments, and its options. -/
structure Form where
  arguments : List String
  flags : List Flag

/-- The commands by their names. -/
def commandForms : List (String × Form) :=
  [("analyze", ⟨["PROJECT_PATH"], [dependenciesFlag, jsonFlag, outputFlag]⟩),
    ("show", ⟨["PROJECT_PATH"], []⟩),
    ("routes", ⟨["PROJECT_PATH"], [jsonFlag]⟩),
    ("deps", ⟨["FILE_PATH"], [rootFlag, jsonFlag]⟩),
    ("importers", ⟨["FILE_PATH"], [rootFlag]⟩),
    ("layout", ⟨["PROJECT_PATH"],
      [{ key := "expand", names := ["--expand", "-e"], takesValue := true },
        { key := "all", names := ["--expand-all"] }, dependenciesFlag, formatFlag, outputFlag]⟩),
    ("schema", ⟨["SCHEMA_PATH"],
      [formatFlag, outputFlag, { key := "bare", names := ["--no-layout"] }]⟩)]

/-- The commands on settings by their names. -/
def settingForms : List (String × Form) := [("show", ⟨[], []⟩), ("set", ⟨["KEY", "VALUE"], []⟩)]

/-! ## Values -/

/-- The format with a name, whatever the case of its letters. -/
def formatOf (name : String) : Except UsageError GraphFormat :=
  match Text.lower name with
  | "json" => .ok .json
  | "dot" => .ok .dot
  | "html" => .ok .html
  | _ => .error .unknownFormat

/-- The value that a text on a command line stands for: a truth value, a number, or itself. -/
def settingValue (text : String) : Value :=
  match Text.lower text with
  | "true" => .bool true
  | "false" => .bool false
  | _ =>
    match Settings.wholeOfText? text, Settings.realOfText? text with
    | some n, _ => .number (.whole n)
    | none, some x => .number (.real x)
    | none, none => .text text

/-- The change of the setting with a name like `layout.root_x`. The patterns to ignore are given
between commas. -/
def setting (key text : String) : Except UsageError Command :=
  match key.toList.dropWhile (· ≠ '.') with
  | [] => .error .noSection
  | _ :: name =>
    let group := String.ofList (key.toList.takeWhile (· ≠ '.'))
    let name := String.ofList name
    if ["analysis", "layout", "schema_layout"].contains group then
      .ok (.setSetting group name
        (if group = "analysis" ∧ name = "extra_ignores" then
          .texts (Settings.splitItems text)
        else settingValue text))
    else .error .unknownSection

/-! ## Reading -/

/-- The words for a command's arguments, of which there have to be as many as it has. -/
def checkWords : (names words : List String) → Except UsageError Unit
  | [], [] => .ok ()
  | name :: _, [] => .error (.missingArgument name)
  | [], word :: _ => .error (.extraArgument word)
  | _ :: names, _ :: words => checkWords names words

/-- The path that an option names. -/
def Arguments.path? (a : Arguments) (key : String) : Option Path :=
  (a.value? key).map Path.ofString

/-- The command with a name and the given arguments. -/
def ofArguments (name : String) (a : Arguments) : Except UsageError Command := do
  let path := Path.ofString (a.words.getD 0 "")
  let output := a.path? "output"
  let json := a.has "json"
  match name with
  | "analyze" => return .analyze path (a.has "deps") json output
  | "show" => return .outline path
  | "routes" => return .routes path json
  | "deps" => return .dependencies path (a.path? "root") json
  | "importers" => return .importers path ((a.path? "root").getD (Path.ofString "."))
  | "layout" =>
    let format ← formatOf ((a.value? "format").getD "json")
    return .layout path (a.values "expand") (a.has "all") (a.has "deps") format output
  | "schema" =>
    let format ← match (a.value? "format").filter fun name => !name.isEmpty with
      | none => pure none
      | some name => (formatOf name).map some
    return .schema path format output (!a.has "bare")
  | _ => throw (.unknownCommand name)

/-- The command on settings with a name and the given arguments. -/
def ofSettingArguments (name : String) (a : Arguments) : Except UsageError Command :=
  match name with
  | "show" => .ok .showSettings
  | "set" => setting (a.words.getD 0 "") (a.words.getD 1 "")
  | _ => .error (.unknownCommand name)

/-- Read the words of one of some commands: its name and what stands behind it. -/
def readForm (forms : List (String × Form))
    (command : (name : String) → Arguments → Except UsageError Command) :
    (words : List String) → Except UsageError Command
  | [] => .error .noCommand
  | name :: rest => do
    let some (_, form) := forms.find? fun f => f.1 == name | throw (.unknownCommand name)
    let a ← readArguments (helpFlag :: form.flags) true rest
    if a.has "help" then return .help (some name)
    checkWords form.arguments a.words
    command name a

/-- Read what stands behind `config`. -/
def readConfig (words : List String) : Except UsageError Command := do
  let a ← readArguments [helpFlag] false words
  if a.has "help" then return .help (some "config")
  readForm settingForms ofSettingArguments a.words

/-- Read a command line. -/
def read (words : List String) : Except UsageError Command := do
  let a ← readArguments globalFlags false words
  match a.options.find? fun o => o.1 != "verbose" with
  | some ("version", _) => return .version
  | some _ => return .help none
  | none =>
    match a.words with
    | "config" :: rest => readConfig rest
    | words => readForm commandForms ofArguments words

end Command

end SiteAtlas
