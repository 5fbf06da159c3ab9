import SiteAtlas.Settings.Toml.Scalar
import SiteAtlas.Json.Reader

/-! # Reading TOML

A text is a row of lines: headers that name a table, and settings that put a value under a key of
the table named last. A key is set once and a table named once; a list holds values of one kind.
-/

namespace SiteAtlas.Toml

/-- The text after the blanks in front, line ends not counted. -/
def skipBlanks (text : List Char) : List Char := text.dropWhile fun c => c = ' ' || c = '\t'

/-- The text after blanks, line ends and comments. -/
def skipLines (inComment : Bool) : List Char → List Char
  | [] => []
  | c :: rest =>
    if c = '\n' then skipLines false rest
    else if inComment then skipLines true rest
    else if c = '#' then skipLines true rest
    else if c = ' ' || c = '\t' || c = '\r' then skipLines false rest
    else c :: rest

/-- What follows a line that has nothing more to say. -/
def endLine? (text : List Char) : Option (List Char) :=
  match skipBlanks text with
  | [] => some []
  | '\n' :: rest => some rest
  | '#' :: rest => some (rest.dropWhile (· != '\n'))
  | _ => none

/-! ## Texts -/

/-- The character that a mark stands for behind a backslash. -/
def escapedChar? (mark : Char) : Option Char :=
  match mark with
  | '0' => some (Char.ofNat 0)
  | 'b' => some (Char.ofNat 8)
  | 'f' => some (Char.ofNat 12)
  | 'n' => some '\n'
  | 'r' => some '\r'
  | 't' => some '\t'
  | '"' => some '"'
  | '\\' => some '\\'
  | _ => none

/-- The character with a code point written in so many hexadecimal digits, and the rest. -/
def takeCodePoint? (width : Nat) (text : List Char) : Option (Char × List Char) := do
  let code ← if text.length < width then none else wholeIn? 16 (text.take width)
  if code < 0xD800 || (0xE000 ≤ code && code < 0x110000) then
    some (Char.ofNat code, text.drop width)
  else none

/-- Read up to the closing quotes, `marks` of them in a row. `done` is what was read, last character
first; the first number bounds how much there is to read. -/
def readQuoted? (mark : Char) (marks : Nat) (done : List Char) :
    Nat → List Char → Option (String × List Char)
  | 0, _ => none
  | _, [] => none
  | bound + 1, c :: rest =>
    if c = mark && (c :: rest).take marks = List.replicate marks mark then
      some (String.ofList done.reverse, (c :: rest).drop marks)
    else if c = '\n' && marks = 1 then none
    else if c = '\\' && mark = '"' then
      match rest with
      | '\n' :: after =>
        if marks = 1 then none
        else readQuoted? mark marks done bound (after.dropWhile Text.isBlank)
      | 'u' :: after =>
        match takeCodePoint? 4 after with
        | some (d, after) => readQuoted? mark marks (d :: done) bound after
        | none => none
      | 'U' :: after =>
        match takeCodePoint? 8 after with
        | some (d, after) => readQuoted? mark marks (d :: done) bound after
        | none => none
      | e :: after =>
        match escapedChar? e with
        | some d => readQuoted? mark marks (d :: done) bound after
        | none => none
      | [] => none
    else readQuoted? mark marks (c :: done) bound rest

/-- Read a text in quotes from its first quote on. Three quotes enclose a text of several lines,
and a line end right after them does not count. -/
def readText? (text : List Char) : Option (String × List Char) :=
  match text with
  | a :: b :: c :: rest =>
    if a = b && b = c then
      let inside := match rest with
        | '\n' :: rest => rest
        | _ => rest
      readQuoted? a 3 [] (text.length + 1) inside
    else readQuoted? a 1 [] (text.length + 1) (b :: c :: rest)
  | a :: rest => readQuoted? a 1 [] (text.length + 1) rest
  | [] => none

/-- Whether a character opens a text. -/
def isQuote (c : Char) : Bool := c = '"' || c.toNat = 39

/-! ## Keys -/

/-- Whether a character can stand in a key without quotes. -/
def isKeyChar (c : Char) : Bool := Text.isWord c || c = '-'

/-- One name of a key: a word, or anything between quotes. -/
def readKeyName? (text : List Char) : Option (String × List Char) :=
  match skipBlanks text with
  | c :: rest =>
    if isQuote c then
      match rest.dropWhile fun d => d != c && d != '\n' with
      | d :: after =>
        if d = c then some (String.ofList (rest.takeWhile (· != c)), after) else none
      | [] => none
    else if isKeyChar c then
      some (String.ofList (c :: rest.takeWhile isKeyChar), rest.dropWhile isKeyChar)
    else none
  | [] => none

/-- The names of a key, with points between them, in front of a text. -/
def readKey? : (bound : Nat) → List Char → Option (List String × List Char)
  | 0, _ => none
  | bound + 1, text => do
    let (name, rest) ← readKeyName? text
    match skipBlanks rest with
    | '.' :: rest => (readKey? bound rest).map fun (names, rest) => (name :: names, rest)
    | rest => some ([name], rest)

/-! ## Tables -/

/-- Put a value under a key that is not set yet; names before the last lead into inner tables,
which are made where they are missing. -/
def setNew? (fields : Fields) : (names : List String) → Value → Option Fields
  | [], _ => none
  | [name], value => if (fields.get? name).isSome then none else some (fields.set name value)
  | name :: rest, value =>
    match fields.get? name with
    | none => (setNew? [] rest value).map fun inner => fields.set name (.table inner)
    | some (.table inner) =>
      (setNew? inner rest value).map fun inner => fields.set name (.table inner)
    | some _ => none

/-- Change the table at a path. A list on the way stands for its last table. -/
def changeAt? (fields : Fields) : (path : List String) → (Fields → Option Fields) → Option Fields
  | [], change => change fields
  | name :: rest, change =>
    match fields.get? name with
    | none => (changeAt? [] rest change).map fun inner => fields.set name (.table inner)
    | some (.table inner) =>
      (changeAt? inner rest change).map fun inner => fields.set name (.table inner)
    | some (.list items) =>
      match items.getLast? with
      | some (.table inner) =>
        (changeAt? inner rest change).map fun inner =>
          fields.set name (.list (items.dropLast ++ [.table inner]))
      | _ => none
    | some _ => none

/-! ## Values -/

/-- The word in front of a text that is a value without quotes. -/
def takeWord (text : List Char) : List Char × List Char :=
  let stops (c : Char) : Bool := c = ',' || c = ']' || c = '}' || c = '#' || c = '\n'
  (Text.trimRight (text.takeWhile fun c => !stops c), text.dropWhile fun c => !stops c)

mutual

/-- Read a value. -/
def readValue? : (bound : Nat) → List Char → Option ((Value × Kind) × List Char)
  | 0, _ => none
  | bound + 1, text =>
    match text with
    | '[' :: rest =>
      (readItems? bound none [] rest).map fun (items, rest) => ((.list items, .list), rest)
    | '{' :: rest =>
      match skipBlanks rest with
      | '}' :: rest => some ((.table [], .table), rest)
      | rest => (readPairs? bound [] rest).map fun (fields, rest) => ((.table fields, .table), rest)
    | c :: _ =>
      if isQuote c then (readText? text).map fun (s, rest) => ((.text s, .text), rest)
      else
        let (word, rest) := takeWord text
        (valueOfWord? word).map fun value => (value, rest)
    | [] => none

/-- Read the items of a list up to its end. All are of one kind; empty places are passed over. -/
def readItems? : (bound : Nat) → Option Kind → List Value → List Char →
    Option (List Value × List Char)
  | 0, _, _, _ => none
  | bound + 1, kind?, done, text =>
    match skipLines false text with
    | ']' :: rest => some (done, rest)
    | ',' :: rest => readItems? bound kind? done rest
    | rest =>
      match readValue? bound rest with
      | none => none
      | some ((value, kind), rest) =>
        if kind?.any (· != kind) then none
        else
          match skipLines false rest with
          | ',' :: rest => readItems? bound (some kind) (done ++ [value]) rest
          | ']' :: rest => some (done ++ [value], rest)
          | _ => none

/-- Read the settings of a table in braces up to its end. -/
def readPairs? : (bound : Nat) → Fields → List Char → Option (Fields × List Char)
  | 0, _, _ => none
  | bound + 1, fields, text =>
    match readKey? text.length text with
    | some (names, '=' :: rest) =>
      match readValue? bound (skipBlanks rest) with
      | none => none
      | some ((value, _), rest) =>
        match setNew? fields names value with
        | none => none
        | some fields =>
          match skipBlanks rest with
          | ',' :: rest => readPairs? bound fields rest
          | '}' :: rest => some (fields, rest)
          | _ => none
    | _ => none

end

/-! ## Lines -/

/-- A text that is being read. -/
structure Document where
  /-- What was read. -/
  fields : Fields := []
  /-- The table that settings go to. -/
  here : List String := []
  /-- Tables that only a longer name has made. -/
  implied : List (List String) := []

/-- Whether there is something at a path. -/
def Document.knows (d : Document) (path : List String) : Bool :=
  (changeAt? d.fields path.dropLast fun inner =>
    if (inner.get? (path.getLastD "")).isSome then some inner else none).isSome

/-- The implied tables once a header with a path is read. -/
def Document.impliedBy (d : Document) (path : List String) : List (List String) :=
  let parents := (List.range path.length).filterMap fun n =>
    if n = 0 then none else some (path.take n)
  d.implied ++ parents.filter fun parent => !d.knows parent

/-- Open the table that a header names. A table that is there already may only have been implied
so far. -/
def Document.openTable? (d : Document) (path : List String) : Option Document :=
  if d.knows path then
    if d.implied.contains path then some { d with here := path, implied := d.implied.erase path }
    else none
  else
    (changeAt? d.fields path some).map fun fields =>
      { fields := fields, here := path, implied := d.impliedBy path }

/-- Open a further table of the list of tables that a header names. -/
def Document.openItem? (d : Document) (path : List String) : Option Document :=
  let last := path.getLastD ""
  (changeAt? d.fields path.dropLast fun inner =>
    match inner.get? last with
    | none => some (inner.set last (.list [.table []]))
    | some (.list items) => some (inner.set last (.list (items ++ [.table []])))
    | some _ => none).map fun fields =>
      { fields := fields, here := path, implied := d.impliedBy path }

/-- Read one line from its first character that is no blank. -/
def readLine? (d : Document) (text : List Char) : Option (Document × List Char) :=
  match text with
  | '[' :: '[' :: rest => do
    let (names, rest) ← readKey? rest.length rest
    let rest ← Text.after? [']', ']'] rest
    return (← d.openItem? names, ← endLine? rest)
  | '[' :: rest => do
    let (names, rest) ← readKey? rest.length rest
    let rest ← Text.after? [']'] rest
    return (← d.openTable? names, ← endLine? rest)
  | _ => do
    let (names, rest) ← readKey? text.length text
    let rest ← Text.after? ['='] rest
    let ((value, _), rest) ← readValue? (text.length + 1) (skipBlanks rest)
    let fields ← changeAt? d.fields d.here fun inner => setNew? inner names value
    return ({ d with fields := fields }, ← endLine? rest)

/-- Read all lines. -/
def readLines? : (bound : Nat) → Document → List Char → Option Fields
  | 0, _, _ => none
  | bound + 1, d, text =>
    match skipLines false text with
    | [] => some d.fields
    | rest =>
      match readLine? d rest with
      | some (d, rest) => readLines? bound d rest
      | none => none

/-- Read a text. -/
def read? (text : String) : Option Fields := readLines? (text.length + 1) {} text.toList

end SiteAtlas.Toml
