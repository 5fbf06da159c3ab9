import SiteAtlas.Text.Basic

/-! # Path patterns

A pattern is tried on a path from its first character on; what may be long is taken as long as
possible. A pattern can name a path itself or only a folder above it, and matching tells which: the
order of rules depends on it.
-/

namespace SiteAtlas.Ignore

/-- What one character has to be. -/
inductive CharTest where
  | literal (c : Char)
  | notSlash
  /-- In one of the ranges, or in none of them. -/
  | range (negated : Bool) (ranges : List (Char × Char))
  deriving DecidableEq

/-- Whether a character passes a test. -/
def CharTest.passes (c : Char) : CharTest → Bool
  | literal d => c == d
  | notSlash => c != '/'
  | range negated ranges => (ranges.any fun r => r.1 ≤ c && c ≤ r.2) != negated

/-- A part of a pattern. -/
inductive Part where
  /-- One character. -/
  | one (test : CharTest)
  /-- Any text within a name. -/
  | anyText
  /-- Any text within a name that is not empty. -/
  | someText
  /-- Nothing, or folders with the slash after them. -/
  | foldersBefore
  /-- Nothing, or folders with the slash before them. -/
  | foldersAfter
  deriving DecidableEq

/-- What has to follow the last part of a pattern. -/
inductive Ending where
  /-- The end of the path, or a slash after the folder that is named. -/
  | itself
  /-- A slash after the folder that is named. -/
  | folder
  /-- A slash; what is named is what follows it. -/
  | contents
  deriving DecidableEq

/-- How a pattern fits a path. -/
inductive Fit where
  /-- It names a folder that the path is or lies in. -/
  | folder
  /-- It names the path. -/
  | path
  deriving DecidableEq

/-- A pattern of paths. -/
inductive Pattern where
  /-- Every path. -/
  | everything
  /-- Every path with a slash in it. -/
  | everyFolder (fit : Fit)
  | parts (parts : List Part) (ending : Ending)
  deriving DecidableEq

/-- Take as many characters as possible that pass a test, so that `rest` succeeds. -/
def takeLongest {β : Type} (test : Char → Bool) (rest : List Char → Option β) :
    List Char → Option β
  | [] => rest []
  | c :: text =>
    if test c then
      match takeLongest test rest text with
      | some found => some found
      | none => rest (c :: text)
    else rest (c :: text)

/-- Whether a character can belong to a row of folders. -/
def isRowChar (c : Char) : Bool := c != '\n'

/-- Take a slash, so that `rest` succeeds. -/
def takeSlash {β : Type} (rest : List Char → Option β) : List Char → Option β
  | '/' :: text => rest text
  | _ => none

/-- How what follows the last part fits. A line feed at the very end counts as the end. -/
def Ending.fit? (ending : Ending) (text : List Char) : Option Fit :=
  match text, ending with
  | '/' :: _, .itself => some .folder
  | '/' :: _, .folder => some .folder
  | '/' :: _, .contents => some .path
  | [], .itself => some .path
  | ['\n'], .itself => some .path
  | _, _ => none

/-- How the parts of a pattern fit a text, as the first way to read it tells. -/
def fitParts? : List Part → Ending → List Char → Option Fit
  | [], ending, text => ending.fit? text
  | .one test :: parts, ending, text =>
    match text with
    | c :: rest => if test.passes c then fitParts? parts ending rest else none
    | [] => none
  | .anyText :: parts, ending, text => takeLongest (· != '/') (fitParts? parts ending) text
  | .someText :: parts, ending, text =>
    match text with
    | c :: rest =>
      if c != '/' then takeLongest (· != '/') (fitParts? parts ending) rest else none
    | [] => none
  | .foldersBefore :: parts, ending, text =>
    let withFolders := match text with
      | c :: rest =>
        if isRowChar c then takeLongest isRowChar (takeSlash (fitParts? parts ending)) rest
        else none
      | [] => none
    withFolders.orElse fun _ => fitParts? parts ending text
  | .foldersAfter :: parts, ending, text =>
    let withFolders := match text with
      | '/' :: c :: rest =>
        if isRowChar c then takeLongest isRowChar (fitParts? parts ending) rest else none
      | _ => none
    withFolders.orElse fun _ => fitParts? parts ending text

/-- How a pattern fits a path; the path of a folder ends in a slash. -/
def Pattern.fit? (pattern : Pattern) (path : List Char) : Option Fit :=
  match pattern with
  | everything => if path.any isRowChar then some .path else none
  | everyFolder fit => if path.contains '/' then some fit else none
  | parts ps ending => fitParts? ps ending path

/-! ## Reading patterns -/

/-- Why a text is no pattern. -/
inductive PatternError where
  /-- An opening bracket has no closing one. -/
  | openBracket
  /-- A name ends in a backslash, which has nothing to stand before. -/
  | loneBackslash
  /-- There is nothing in it. -/
  | empty
  deriving DecidableEq

/-- The ranges between brackets. A dash between two characters makes a range of them. -/
def readRanges : List Char → List (Char × Char)
  | low :: '-' :: high :: rest => (low, high) :: readRanges rest
  | c :: rest => (c, c) :: readRanges rest
  | [] => []

/-- Cut off what stands between brackets, from behind the opening one; a closing bracket right at
the start belongs to it. -/
def cutBrackets? (text : List Char) : Option (List Char × List Char) :=
  let (first, rest) := match text with
    | ']' :: rest => ([']'], rest)
    | _ => ([], text)
  match rest.dropWhile (· != ']') with
  | _ :: after => some (first ++ rest.takeWhile (· != ']'), after)
  | [] => none

/-- The test that brackets make, and the text behind them. -/
def readBrackets? (text : List Char) : Option (CharTest × List Char) :=
  let (negated, inside) := match text with
    | '!' :: rest => (true, rest)
    | '^' :: rest => (true, rest)
    | _ => (false, text)
  (cutBrackets? inside).map fun (content, after) => (.range negated (readRanges content), after)

/-- The parts of one name of a pattern. The number bounds how many characters are read. -/
def readName : Nat → List Char → Except PatternError (List Part)
  | 0, _ | _, [] => .ok []
  | _, ['\\'] => .error .loneBackslash
  | bound + 1, '\\' :: c :: rest => (readName bound rest).map (.one (.literal c) :: ·)
  | bound + 1, '*' :: rest => (readName bound rest).map (.anyText :: ·)
  | bound + 1, '?' :: rest => (readName bound rest).map (.one .notSlash :: ·)
  | bound + 1, '[' :: rest =>
    match readBrackets? rest with
    | some (test, after) => (readName bound after).map (.one test :: ·)
    | none => .error .openBracket
  | bound + 1, c :: rest => (readName bound rest).map (.one (.literal c) :: ·)

/-- The name that stands for any number of folders. -/
def anyFolders : List Char := ['*', '*']

/-- The names of a pattern with no two rows of folders next to each other. -/
def mergeRows : List (List Char) → List (List Char)
  | a :: b :: rest =>
    if a = anyFolders && b = anyFolders then mergeRows (b :: rest) else a :: mergeRows (b :: rest)
  | names => names

/-- The names of a pattern as seen from the root. A single name may stand in any folder, and a
slash at the end stands for all that is in the folder. -/
def anchorNames (names : List (List Char)) : List (List Char) :=
  let names := match names with
    | [] :: rest => rest
    | [name] | [name, []] => if name = anyFolders then names else anyFolders :: names
    | _ => names
  match names.getLast? with
  | some [] => mergeRows (names.dropLast ++ [anyFolders])
  | _ => mergeRows names

/-- The parts of names that come after the first one. -/
def readNames (isFolder : Bool) : (needSlash : Bool) → List (List Char) →
    Except PatternError (List Part × Ending)
  | _, [] => .ok ([], .itself)
  | needSlash, name :: rest =>
    if name = anyFolders then
      if rest.isEmpty then .ok ([], if isFolder then .folder else .contents)
      else
        (readNames isFolder true rest).map fun (parts, ending) => (.foldersAfter :: parts, ending)
    else do
      let own ← if name = ['*'] then .ok [.someText] else readName name.length name
      let (parts, ending) ← readNames isFolder true rest
      let slash : List Part := if needSlash then [.one (.literal '/')] else []
      return (slash ++ own ++ parts, ending)

/-- The pattern of names as seen from the root. -/
def Pattern.ofNames (isFolder : Bool) (names : List (List Char)) : Except PatternError Pattern :=
  let fit : Fit := if isFolder then .folder else .path
  match names with
  | [] => .error .empty
  | first :: rest =>
    if first = anyFolders then
      if rest.isEmpty then .ok (if isFolder then .everyFolder .folder else .everything)
      else if rest = [['*']] then .ok .everything
      else if rest = [['*'], anyFolders] then .ok (.everyFolder fit)
      else
        (readNames isFolder false rest).map fun (ps, ending) =>
          .parts (.foldersBefore :: ps) ending
    else (readNames isFolder false names).map fun (ps, ending) => .parts ps ending

/-- Read a pattern, without the mark that turns its rule round. -/
def Pattern.ofText (text : List Char) : Except PatternError Pattern :=
  let names := text.splitOn '/'
  Pattern.ofNames (names.getLast? = some []) (anchorNames names)

end SiteAtlas.Ignore
