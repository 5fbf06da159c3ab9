/-! # Options on a command line

Words that start with a dash are options. Those with two dashes take a value behind an equals sign
or in the next word; those with one dash and one letter can share a word, and the last of them takes
the rest of it as its value. After a word of two dashes alone nothing is an option.
-/

namespace SiteAtlas.Command

/-- An option that a command has. -/
structure Flag where
  /-- What it is called when it was read. -/
  key : String
  /-- How it is written. -/
  names : List String
  /-- Whether it is followed by a value. -/
  takesValue : Bool := false

/-- Why words make up no command. -/
inductive UsageError where
  | unknownOption (name : String)
  /-- An option lacks its value. -/
  | missingValue (name : String)
  /-- An option that takes no value has one. -/
  | unexpectedValue (name : String)
  | missingArgument (name : String)
  | extraArgument (text : String)
  | noCommand
  | unknownCommand (name : String)
  | unknownFormat
  /-- The name of a setting has no section. -/
  | noSection
  | unknownSection
  | noSchema (path : String)
  deriving DecidableEq

/-- The text of an error. -/
def UsageError.message : UsageError → String
  | unknownOption name => "No such option: " ++ name
  | missingValue name => "Option " ++ name ++ " requires an argument."
  | unexpectedValue name => "Option " ++ name ++ " does not take a value."
  | missingArgument name => "Missing argument " ++ name ++ "."
  | extraArgument text => "Got unexpected extra argument (" ++ text ++ ")"
  | noCommand => "Missing command."
  | unknownCommand name => "No such command " ++ name ++ "."
  | unknownFormat => "Format must be one of: json, dot, html"
  | noSection => "Key must look like section.name"
  | unknownSection => "Section must be one of: analysis, layout, schema_layout"
  | noSchema path => "Schema file not found: " ++ path

/-- What words say. -/
structure Arguments where
  /-- The options, by their keys, in order; those that take no value have an empty one. -/
  options : List (String × String) := []
  /-- The words that are no options, in order. -/
  words : List String := []

namespace Arguments

/-- One more word in front. -/
def withWord (word : String) (a : Arguments) : Arguments := { a with words := word :: a.words }

/-- Whether an option was given. -/
def has (a : Arguments) (key : String) : Bool := a.options.any fun o => o.1 == key

/-- All values that an option was given. -/
def values (a : Arguments) (key : String) : List String :=
  (a.options.filter fun o => o.1 == key).map (·.2)

/-- The value that an option was given last. -/
def value? (a : Arguments) (key : String) : Option String := (a.values key).getLast?

end Arguments

/-- The option with a name. -/
def flag? (flags : List Flag) (name : String) : Option Flag :=
  flags.find? fun f => f.names.contains name

/-- What a word of options says. -/
inductive OptionWord where
  /-- All its options are complete. -/
  | complete (options : List (String × String))
  /-- The value of the last option is the next word. -/
  | open (options : List (String × String)) (key name : String)

/-- Read the letters of a word with one dash. -/
def readLetters (flags : List Flag) : List Char → Except UsageError OptionWord
  | [] => .ok (.complete [])
  | c :: rest => do
    let name := String.ofList ['-', c]
    let some f := flag? flags name | throw (.unknownOption name)
    if f.takesValue then
      if rest.isEmpty then return .open [] f.key name
      else return .complete [(f.key, String.ofList rest)]
    else
      match ← readLetters flags rest with
      | .complete options => return .complete ((f.key, "") :: options)
      | .open options key name => return .open ((f.key, "") :: options) key name

/-- A word cut at its first equals sign. -/
def splitAtEquals (word : List Char) : List Char × Option (List Char) :=
  match word.dropWhile (· ≠ '=') with
  | [] => (word, none)
  | _ :: value => (word.takeWhile (· ≠ '='), some value)

/-- Read a word with two dashes. -/
def readName (flags : List Flag) (word : List Char) : Except UsageError OptionWord :=
  let (before, value?) := splitAtEquals word
  let name := String.ofList before
  match flag? flags name, value? with
  | none, _ => .error (.unknownOption name)
  | some f, some value =>
    if f.takesValue then .ok (.complete [(f.key, String.ofList value)])
    else .error (.unexpectedValue name)
  | some f, none => .ok (if f.takesValue then .open [] f.key name else .complete [(f.key, "")])

/-- Read a word that starts with a dash. -/
def readOptionWord (flags : List Flag) (word : List Char) : Except UsageError OptionWord :=
  match word with
  | '-' :: '-' :: _ => readName flags word
  | _ => readLetters flags word.tail

/-- Whether a word is one of options. -/
def isOptionWord (word : String) : Bool :=
  match word.toList with
  | '-' :: _ :: _ => true
  | _ => false

/-- Read words. If `mixed`, options can stand behind other words. -/
def readArguments (flags : List Flag) (mixed : Bool) : List String → Except UsageError Arguments
  | [] => .ok {}
  | word :: rest =>
    if word = "--" then .ok { words := rest }
    else if isOptionWord word then
      match readOptionWord flags word.toList with
      | .error e => .error e
      | .ok (.complete options) =>
        (readArguments flags mixed rest).map fun a => { a with options := options ++ a.options }
      | .ok (.open options key name) =>
        match rest with
        | [] => .error (.missingValue name)
        | value :: rest =>
          (readArguments flags mixed rest).map fun a =>
            { a with options := options ++ (key, value) :: a.options }
    else if mixed then (readArguments flags mixed rest).map (Arguments.withWord word)
    else .ok { words := word :: rest }

end SiteAtlas.Command
