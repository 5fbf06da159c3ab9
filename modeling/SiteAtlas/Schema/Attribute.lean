import SiteAtlas.Text.Basic

/-! # Attributes

The parts of a schema line: comments, attributes such as `@default(now())` with their arguments,
and the named and bracketed arguments inside them.
-/

namespace SiteAtlas.Schema

open Text

/-- The line up to a `//` outside quotes. `before` is the character just read, and `quoted` says
whether it stands inside quotes; a quote after a backslash neither opens nor closes. -/
def beforeComment (before : Option Char) (quoted : Bool) : List Char → List Char
  | [] => []
  | c :: rest =>
    if c = '"' ∧ before ≠ some '\\' then c :: beforeComment (some c) (!quoted) rest
    else if c = '/' ∧ quoted = false ∧ rest.head? = some '/' then []
    else c :: beforeComment (some c) quoted rest

/-- A line without its comment and without blanks at its end. -/
def stripComment (line : List Char) : List Char := trimRight (beforeComment none false line)

/-- The text inside the parenthesis that was opened `depth` deep before it, and nothing of what
follows the closing one. Parentheses inside quotes do not count. -/
def insideParens (before : Char) (quoted : Bool) (depth : Nat) : List Char → List Char
  | [] => []
  | c :: rest =>
    if c = '"' ∧ before ≠ '\\' then c :: insideParens c (!quoted) depth rest
    else if quoted then c :: insideParens c quoted depth rest
    else if c = '(' then c :: insideParens c quoted (depth + 1) rest
    else if c = ')' then
      match depth with
      | 0 => []
      | depth + 1 => c :: insideParens c quoted depth rest
    else c :: insideParens c quoted depth rest

/-- Whether a text goes on with a word or a dot, so that what stands before it is only the start
of a longer name. -/
def goesOn : List Char → Bool
  | c :: _ => isWord c || c == '.'
  | [] => false

/-- What follows the attribute called `name`, at its first place that is neither part of a longer
name nor preceded by another `@`. -/
def afterAttribute? (name : List Char) (before : Option Char) : List Char → Option (List Char)
  | [] => none
  | c :: rest =>
    let here :=
      if c = '@' ∧ before ≠ some '@' then
        match after? name rest with
        | some tail => if goesOn tail then none else some tail
        | none => none
      else none
    match here with
    | some tail => some tail
    | none => afterAttribute? name (some c) rest

/-- The arguments of the attribute called `name`, without blanks at their ends: empty for a bare
attribute, nothing where the line does not have it. Attributes of a whole block are looked up with
the second `@` in the name. -/
def attributeArgs? (name : String) (text : List Char) : Option (List Char) :=
  (afterAttribute? name.toList none text).map fun tail =>
    match tail with
    | '(' :: rest => trim (insideParens '(' false 0 rest)
    | _ => []

/-- The text up to the next `closing`, and what follows it; nothing where it never comes. -/
def upTo? (closing : Char) : List Char → Option (List Char × List Char)
  | [] => none
  | c :: rest =>
    if c = closing then some ([], rest)
    else (upTo? closing rest).map fun (inside, after) => (c :: inside, after)

/-- A text in quotes at the very front. -/
def quoted? : List Char → Option (List Char)
  | '"' :: rest => (upTo? '"' rest).map (·.1)
  | _ => none

/-- What follows `key`, blanks, a colon and blanks at the very front. -/
def afterKey? (key : String) (text : List Char) : Option (List Char) :=
  match after? key.toList text with
  | none => none
  | some rest =>
    match trimLeft rest with
    | ':' :: value => some (trimLeft value)
    | _ => none

/-- The text between brackets at the very front. -/
def bracketed? : List Char → Option (List Char)
  | '[' :: rest => (upTo? ']' rest).map (·.1)
  | _ => none

/-- An item of a list of fields without the parentheses after its name. -/
def dropParens (item : List Char) : List Char :=
  let start := item.takeWhile (· != '(')
  let tail := item.dropWhile (· != '(')
  let behind := (tail.reverse.takeWhile (· != ')')).reverse
  if tail.contains ')' then start ++ behind else item

/-- The names in a list of fields. -/
def fieldNames (inside : List Char) : List String :=
  ((inside.splitOn ',').map fun item => trim (dropParens item)).filterMap fun name =>
    if name.isEmpty then none else some (String.ofList name)

/-- The names between the first pair of brackets. -/
def fieldList (args : List Char) : List String :=
  match findMap? bracketed? args with
  | some inside => fieldNames inside
  | none => []

/-- The names between the brackets after `key:`. -/
def keyedFieldList (key : String) (args : List Char) : List String :=
  match findMap? (fun text => (afterKey? key text).bind bracketed?) args with
  | some inside => fieldNames inside
  | none => []

/-- The text in quotes after `key:`. -/
def quotedArg? (key : String) (args : List Char) : Option String :=
  (findMap? (fun text => (afterKey? key text).bind quoted?) args).map String.ofList

/-- The word after `key:`. -/
def wordArg? (key : String) (args : List Char) : Option String :=
  (findMap? (fun text => (afterKey? key text).bind fun value =>
    let word := value.takeWhile isWord
    if word.isEmpty then none else some word) args).map String.ofList

/-- The text in quotes that the arguments begin with. -/
def leadingQuoted? (args : List Char) : Option String :=
  (quoted? (trimLeft args)).map String.ofList

/-- A default as shown: a function without its arguments. -/
def displayDefault (default : String) : String :=
  let chars := default.toList
  let word := chars.takeWhile isWord
  if !word.isEmpty && (trimLeft (chars.dropWhile isWord)).head? = some '(' then
    String.ofList word ++ "()"
  else default

end SiteAtlas.Schema
