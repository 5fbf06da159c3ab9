import SiteAtlas.Script.Elements
import SiteAtlas.Script.Statements
import SiteAtlas.Script.Imports

/-! # Script sources

The rules of the grammar are closed here: each of them is read with a bound on how deep rules call
each other, which the length of the text gives, so that no text reaches it. A text that the rules
do not take to its end has no tree.
-/

namespace SiteAtlas.Script

/-- The step of a rule in a grammar. -/
def Grammar.step (g : Grammar) : Rule → Step
  | .statement => statementRule g
  | .block => blockRule g
  | .expression noIn => expressionRule g noIn
  | .assignment noIn inCondition => assignmentRule g noIn inCondition
  | .operand => operandRule g
  | .created => createdRule g
  | .type => typeRule g
  | .element => elementRule g

/-- The step of a rule whose inner rules go at most `depth` deep. -/
def parse (dialect : Dialect) (bound : Nat) : (depth : Nat) → Rule → Step
  | 0, _ => refuse
  | depth + 1, rule => Grammar.step ⟨dialect, bound, parse dialect bound depth⟩ rule

/-- All statements of a text. -/
def statements (dialect : Dialect) (bound : Nat) : Step :=
  repeatUntil (·.atEnd) (parse dialect bound (bound * 16) .statement) bound

/-- The text without a first line that names the program to run it. -/
def withoutInterpreter (text : List Char) : List Char :=
  match text with
  | '#' :: '!' :: rest => rest.dropWhile fun c => c != '\n'
  | _ => text

/-- The trees of a script, or nothing where it is not well formed. -/
def trees? (dialect : Dialect) (source : String) : Option (List Tree) :=
  let text := withoutInterpreter source.toList
  (statements dialect (text.length + 16) ⟨text, [], false⟩).map fun s => s.skip.out.reverse

/-- A parser of scripts tells the trees of a source, or nothing where it is not well formed. -/
abbrev Parser := (dialect : Dialect) → (source : String) → Option (List Tree)

/-- Why a source has no imports to tell. -/
inductive ReadError where
  /-- No language goes with the extension. -/
  | unknownExtension (extension : String)
  /-- The source is not well formed. -/
  | malformed
  deriving DecidableEq

/-- The imports of a script in the order of its text. -/
def imports (parser : Parser) (source extension : String) : Except ReadError (List RawImport) :=
  match Dialect.ofExtension? extension with
  | none => .error (.unknownExtension extension)
  | some dialect =>
    match parser dialect source with
    | none => .error .malformed
    | some trees => .ok (importsOfAll trees)

end SiteAtlas.Script
