import SiteAtlas.Ignore.Pattern
import SiteAtlas.Value.Literal

/-! # Ignore rules

A list of rules, each of which ignores or keeps what its pattern fits. A rule that names the path
itself counts more than one that names a folder above it; of two that count alike the later one
decides.
-/

namespace SiteAtlas.Ignore

/-- One rule. -/
structure Rule where
  /-- What the rule is about. -/
  pattern : Pattern
  /-- Whether it ignores; otherwise it keeps. -/
  ignores : Bool
  deriving DecidableEq

/-- A line without the blanks at its end, except for one that a backslash stands before. -/
def trimLine (line : List Char) : List Char :=
  match line.reverse with
  | ' ' :: '\\' :: _ => line
  | _ => Text.trimRight line

/-- A line that makes no sense as a rule. -/
structure InvalidLine where
  line : String
  deriving DecidableEq

/-- The text of the error. -/
def InvalidLine.message (e : InvalidLine) : String := "Invalid git pattern: " ++ Value.quoted e.line

/-- Read a line. Blank lines, comments and a slash alone make no rule, and neither does a pattern
with an open bracket; any other mistake in a pattern is an error. -/
def Rule.ofLine (line : List Char) : Except InvalidLine (Option Rule) :=
  let rule (ignores : Bool) (text : List Char) : Except InvalidLine (Option Rule) :=
    match Pattern.ofText text with
    | .ok pattern => .ok (some ⟨pattern, ignores⟩)
    | .error .openBracket => .ok none
    | .error _ => .error ⟨String.ofList line⟩
  match trimLine line with
  | [] | '#' :: _ | ['/'] => .ok none
  | '!' :: text => rule false text
  | text => rule true text

/-- The rules of some lines. -/
def rulesOfLines : List (List Char) → Except InvalidLine (List Rule)
  | [] => .ok []
  | line :: rest => do
    let rule ← Rule.ofLine line
    let rules ← rulesOfLines rest
    return rule.toList ++ rules

/-- What the last rule says whose pattern fits a path in a way. -/
def lastVerdict? (rules : List Rule) (path : List Char) (fit : Fit) : Option Bool :=
  (rules.reverse.find? fun rule => rule.pattern.fit? path == some fit).map Rule.ignores

/-- Whether rules ignore a path; the path of a folder ends in a slash. -/
def ignores (rules : List Rule) (path : List Char) : Bool :=
  ((lastVerdict? rules path .path).orElse fun _ => lastVerdict? rules path .folder).getD false

/-- The rules that always come first. -/
def standardLines : List String := ["node_modules", ".next", ".git", "dist", "build"]

/-- The rules of a project: the standard ones, those of its ignore file and those of its
settings. -/
def projectRules (ignoreFile : Option String) (extra : List String) :
    Except InvalidLine (List Rule) :=
  rulesOfLines (standardLines.map String.toList
    ++ Text.lines ((ignoreFile.getD "").toList) ++ extra.map String.toList)

end SiteAtlas.Ignore
