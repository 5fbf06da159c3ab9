import SiteAtlas.Script.Tree
import SiteAtlas.Script.Dialect

/-! # Reading words and signs

A reader goes through a script from left to right and collects the trees it has finished. Each
step either moves it on or refuses. Blanks and comments are passed over before every word and sign;
whether a line ended on the way is remembered until the next one is taken.
-/

namespace SiteAtlas.Script

/-- A place in a script. -/
structure Reader where
  /-- The text from here on. -/
  rest : List Char
  /-- The finished trees, last first. -/
  out : List Tree
  /-- Whether a line ended since the last word or sign. -/
  newLine : Bool

/-- A step of a reader. -/
abbrev Step := Reader → Option Reader

/-- Whether a character ends a line. -/
def isLineEnd (c : Char) : Bool := c = '\n' || c = '\r' || c.toNat = 0x2028 || c.toNat = 0x2029

/-- Whether a character separates words. -/
def isSpace (c : Char) : Bool :=
  let n := c.toNat
  (9 ≤ n && n ≤ 13) || n = 32 || n = 0xA0 || n = 0x1680 || (0x2000 ≤ n && n ≤ 0x200B)
    || n = 0x2028 || n = 0x2029 || n = 0x202F || n = 0x205F || n = 0x2060 || n = 0x3000
    || n = 0xFEFF

/-- Whether a character can begin a name. -/
def isNameStart (c : Char) : Bool :=
  if c.toNat < 128 then c.isAlpha || c = '_' || c = '$' || c = '\\' else !isSpace c

/-- Whether a character can go on with a name. -/
def isNamePart (c : Char) : Bool := isNameStart c || c.isDigit

/-- What a reader is inside of while it passes over blanks and comments. -/
inductive Blank where
  | between
  | line
  /-- Inside a block comment that begins at the given text. -/
  | block (start : List Char)

/-- Pass over blanks and comments. Answers the text after them, the number of comments, and whether
a line ended. A block comment without an end is not passed over. -/
def passBlanks (inside : Blank) (comments : Nat) (newLine : Bool) :
    List Char → List Char × Nat × Bool
  | [] =>
    match inside with
    | .block start => (start, comments - 1, newLine)
    | _ => ([], comments, newLine)
  | '*' :: '/' :: rest =>
    match inside with
    | .between => ('*' :: '/' :: rest, comments, newLine)
    | .line => passBlanks .line comments newLine rest
    | .block _ => passBlanks .between comments newLine rest
  | '/' :: '/' :: rest =>
    match inside with
    | .between => passBlanks .line (comments + 1) newLine rest
    | .line => passBlanks .line comments newLine rest
    | .block start => passBlanks (.block start) comments newLine ('/' :: rest)
  | '/' :: '*' :: rest =>
    match inside with
    | .between => passBlanks (.block ('/' :: '*' :: rest)) (comments + 1) newLine rest
    | .line => passBlanks .line comments newLine rest
    | .block start => passBlanks (.block start) comments newLine ('*' :: rest)
  | c :: rest =>
    match inside with
    | .between =>
      if isSpace c then passBlanks .between comments (newLine || isLineEnd c) rest
      else (c :: rest, comments, newLine)
    | .line =>
      if isLineEnd c then passBlanks .between comments true rest
      else passBlanks .line comments newLine rest
    | .block start => passBlanks (.block start) comments (newLine || isLineEnd c) rest

/-- Pass over blanks and comments. -/
def Reader.skip (s : Reader) : Reader :=
  match s.rest with
  | c :: _ =>
    if c = '/' || isSpace c then
      let (rest, comments, newLine) := passBlanks .between 0 s.newLine s.rest
      ⟨rest, List.replicate comments (.leaf .comment "") ++ s.out, newLine⟩
    else s
  | [] => s

/-- Whether a text comes next. -/
def Reader.sees (s : Reader) (text : String) : Bool := text.toList.isPrefixOf s.skip.rest

/-- The name that comes next, empty if none does. -/
def Reader.word (s : Reader) : String :=
  match s.skip.rest with
  | c :: rest => if isNameStart c then String.ofList (c :: rest.takeWhile isNamePart) else ""
  | [] => ""

/-- Whether a word comes next. -/
def Reader.seesWord (s : Reader) (w : String) : Bool := s.word == w

/-- Whether a line ends before the next word or sign. -/
def Reader.endsLine (s : Reader) : Bool := s.skip.newLine

/-- Whether nothing comes any more. -/
def Reader.atEnd (s : Reader) : Bool := s.skip.rest.isEmpty

/-- The place after a number of characters that belong together. -/
def Reader.advance (s : Reader) (count : Nat) : Reader := ⟨s.rest.drop count, s.out, false⟩

/-- The place after a number of characters that make up a leaf. -/
def Reader.takeLeaf (s : Reader) (kind : LeafKind) (count : Nat) : Reader :=
  ⟨s.rest.drop count, .leaf kind (String.ofList (s.rest.take count)) :: s.out, false⟩

/-- Refuse. -/
def refuse : Step := fun _ => none

/-- Several steps, one after the other. -/
def inOrder (steps : List Step) : Step := fun s => steps.foldlM (fun s step => step s) s

/-- A step that is taken only if a test holds. -/
def whenSeen (test : Reader → Bool) (step : Step) : Step := fun s =>
  if test s then step s else some s

/-- Take a sign. -/
def eat (sign : String) : Step := fun s =>
  let s := s.skip
  if sign.toList.isPrefixOf s.rest then some (s.advance sign.length) else none

/-- Take a sign if it comes next. -/
def eatIf (sign : String) : Step := fun s => if s.sees sign then eat sign s else some s

/-- Take a word. -/
def eatWord (w : String) : Step := fun s =>
  if s.seesWord w then some (s.skip.advance w.length) else none

/-- Take a word if it comes next. -/
def eatWordIf (w : String) : Step := fun s => if s.seesWord w then eatWord w s else some s

/-- Words that are never names. -/
def reservedWords : List String :=
  ["break", "case", "catch", "class", "const", "continue", "debugger", "default", "delete", "do",
    "else", "export", "extends", "finally", "for", "function", "if", "import", "in", "instanceof",
    "new", "return", "super", "switch", "this", "throw", "try", "typeof", "var", "void", "while",
    "with", "null", "true", "false", "enum"]

/-- Take any word as a leaf. -/
def takeWord (kind : LeafKind) : Step := fun s =>
  let w := s.word
  if w.isEmpty then none else some (s.skip.takeLeaf kind w.length)

/-- Take a name as a leaf. -/
def takeName : Step := fun s => if reservedWords.contains s.word then none else takeWord .name s

/-- Collect the trees of a step under one node. -/
def asNode (kind : NodeKind) (step : Step) : Step := fun s =>
  let s := s.skip
  (step ⟨s.rest, [], s.newLine⟩).map fun t =>
    ⟨t.rest, .node kind t.out.reverse :: s.out, t.newLine⟩

/-- Take a step on trees of its own, which then follow those before. -/
def apart (step : Step) : Step := fun s =>
  let s := s.skip
  (step ⟨s.rest, [], s.newLine⟩).map fun t => ⟨t.rest, t.out ++ s.out, t.newLine⟩

/-- Take a step and put everything collected so far under one node. -/
def wrapAs (kind : NodeKind) (step : Step) : Step := fun s =>
  (step s).map fun t => ⟨t.rest, [.node kind t.out.reverse], t.newLine⟩

/-- Repeat a step until a test holds, at most `bound` times. -/
def repeatUntil (stop : Reader → Bool) (step : Step) : (bound : Nat) → Step
  | 0, _ => none
  | bound + 1, s =>
    let s := s.skip
    if stop s then some s
    else
      match step s with
      | some t => repeatUntil stop step bound t
      | none => none

/-- Repeat a step while a test holds, at most `bound` times. -/
def repeatWhile (go : Reader → Bool) (step : Step) (bound : Nat) : Step :=
  repeatUntil (fun s => !go s) step bound

/-- Items with commas between them up to a closing sign, which is taken. A comma may follow the
last item. -/
def listUntil (closing : String) (item : Step) (bound : Nat) : Step := fun s =>
  (repeatUntil (fun s => s.sees closing) (fun s =>
    match item s with
    | some t => if t.sees "," then eat "," t else if t.sees closing then some t else none
    | none => none) bound s).bind (eat closing)

/-- Items with commas between them, at least one. -/
def oneOrMore (item : Step) (bound : Nat) : Step := fun s =>
  (item s).bind (repeatWhile (fun s => s.sees ",") (inOrder [eat ",", item]) bound)

/-- The end of a statement: a semicolon, a line end, a closing brace or the end of the text. -/
def endStatement : Step := fun s =>
  let s := s.skip
  match s.rest with
  | ';' :: _ => some (s.advance 1)
  | '}' :: _ => some s
  | [] => some s
  | _ => if s.newLine then some s else none

/-- The length of a text in quotes from its first character on, or nothing if it does not end. A
backslash takes the next character with it, and only so can a line end be inside. -/
def quotedLength? (mark : Char) (length : Nat) : List Char → Option Nat
  | [] => none
  | '\\' :: '\r' :: '\n' :: rest => quotedLength? mark (length + 3) rest
  | '\\' :: _ :: rest => quotedLength? mark (length + 2) rest
  | c :: rest =>
    if c = mark then some (length + 1)
    else if c = '\n' || c = '\r' then none
    else quotedLength? mark (length + 1) rest

/-- Whether a text in quotes comes next. -/
def Reader.seesString (s : Reader) : Bool :=
  match s.skip.rest with
  | c :: _ => c = '"' || c.toNat = 39
  | [] => false

/-- Take a text in quotes as a leaf. -/
def takeString : Step := fun s =>
  let s := s.skip
  match s.rest with
  | mark :: rest =>
    if mark = '"' || mark.toNat = 39 then
      (quotedLength? mark 1 rest).map fun length => s.takeLeaf .string length
    else none
  | [] => none

/-- Whether a number comes next. -/
def Reader.seesNumber (s : Reader) : Bool :=
  match s.skip.rest with
  | '.' :: d :: _ => d.isDigit
  | d :: _ => d.isDigit
  | [] => false

/-- The length of a number: digits, letters, points and underscores, and a sign after an `e` unless
the number is hexadecimal. -/
def numberLength (hexadecimal : Bool) (before : Char) (length : Nat) : List Char → Nat
  | [] => length
  | c :: rest =>
    if c.isAlphanum || c = '_' || c = '.' then numberLength hexadecimal c (length + 1) rest
    else if (c = '+' || c = '-') && !hexadecimal && (before = 'e' || before = 'E') then
      numberLength hexadecimal c (length + 1) rest
    else length

/-- Take a number as a leaf. -/
def takeNumber : Step := fun s =>
  let s := s.skip
  let hexadecimal := match s.rest with
    | '0' :: x :: _ => x = 'x' || x = 'X'
    | _ => false
  if s.seesNumber then some (s.takeLeaf .other (numberLength hexadecimal ' ' 0 s.rest)) else none

/-- The length of a regular expression from its first character on. -/
def patternLength? (inClass : Bool) (length : Nat) : List Char → Option Nat
  | [] => none
  | '\\' :: c :: rest => if isLineEnd c then none else patternLength? inClass (length + 2) rest
  | c :: rest =>
    if isLineEnd c then none
    else if c = '/' && !inClass then
      some (length + 1 + (rest.takeWhile isNamePart).length)
    else if c = '[' then patternLength? true (length + 1) rest
    else if c = ']' then patternLength? false (length + 1) rest
    else patternLength? inClass (length + 1) rest

/-- Take a regular expression as a leaf. -/
def takePattern : Step := fun s =>
  let s := s.skip
  match s.rest with
  | '/' :: c :: rest =>
    if c = '*' || c = '/' then none
    else (patternLength? false 1 (c :: rest)).map fun length => s.takeLeaf .other length
  | _ => none

/-- The text of a template up to an inserted expression or to its end. Answers the text from there
on. -/
def passTemplate : List Char → Option (List Char)
  | [] => none
  | '\\' :: _ :: rest => passTemplate rest
  | '$' :: '{' :: rest => some ('$' :: '{' :: rest)
  | c :: rest => if c.toNat = 0x60 then some (c :: rest) else passTemplate rest

/-- The backquote that encloses templates. -/
def backquote : String := String.singleton (Char.ofNat 0x60)

/-- Take a template; `inserted` takes an inserted expression. -/
def takeTemplate (inserted : Step) (bound : Nat) : Step :=
  let text : Step := fun s => (passTemplate s.rest).map fun rest => ⟨rest, s.out, false⟩
  let part : Step := fun s =>
    match s.rest with
    | '$' :: '{' :: rest =>
      (inOrder [inserted, eat "\x7d"] ⟨rest, s.out, false⟩).bind text
    | _ => none
  let rec parts : Nat → Step
    | 0, _ => none
    | bound + 1, s =>
      match s.rest with
      | '$' :: _ =>
        match part s with
        | some t => parts bound t
        | none => none
      | _ :: rest => some ⟨rest, s.out, false⟩
      | [] => none
  asNode .group (inOrder [eat backquote, text, parts bound])

end SiteAtlas.Script
