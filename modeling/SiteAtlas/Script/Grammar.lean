import SiteAtlas.Script.Reading

/-! # The parts of the grammar

Each rule of the grammar is a step that may call any other rule. The rules are written over a table
of all of them, and the table is closed in the last module of the grammar.
-/

namespace SiteAtlas.Script

/-- The rules that others call. -/
inductive Rule where
  | statement
  | block
  /-- Expressions with commas between them; with `noIn`, an `in` ends them. -/
  | expression (noIn : Bool)
  /-- One expression; with `inCondition`, a colon after a list in parentheses is not the mark of a
  result type. -/
  | assignment (noIn : Bool) (inCondition : Bool)
  /-- A value with the members, calls and texts that follow it. -/
  | operand
  /-- What `new` creates: a value with the members that follow it. -/
  | created
  | type
  | element

/-- A grammar of scripts. -/
structure Grammar where
  /-- The language of the scripts. -/
  dialect : Dialect
  /-- How often a loop may go round. -/
  bound : Nat
  /-- The rules. -/
  parse : Rule → Step

namespace Grammar

/-- Whether there are type annotations. -/
def types (g : Grammar) : Bool := g.dialect.hasTypes

/-- Expressions with commas between them. -/
def expression (g : Grammar) : Step := g.parse (.expression false)

/-- One expression. -/
def assignment (g : Grammar) : Step := g.parse (.assignment false false)

/-- A type. -/
def type (g : Grammar) : Step := g.parse .type

/-- A block of statements. -/
def block (g : Grammar) : Step := g.parse .block

end Grammar

/-- The place after a step, or the same place if it refuses. -/
def Reader.after (s : Reader) (step : Step) : Reader := (step s).getD s

/-- The place after the next word. -/
def Reader.afterWord (s : Reader) : Reader := s.after (takeWord .other)

/-- Whether a word comes next, and then, on the same line, another word. -/
def Reader.seesWordBeforeName (s : Reader) (w : String) : Bool :=
  s.seesWord w && !s.afterWord.endsLine && s.afterWord.word != ""

/-- Whether one of several signs comes next. -/
def Reader.seesAny (s : Reader) (signs : List String) : Bool := signs.any s.sees

/-- Arguments of a call. -/
def callArguments (g : Grammar) : Step :=
  asNode .arguments (inOrder [eat "(", listUntil ")" (inOrder [eatIf "...", g.assignment]) g.bound])

/-- The call of a module by the word `import`. -/
def importCall (g : Grammar) : Step :=
  asNode .call (inOrder [takeWord .importWord, callArguments g])

/-- What is named after the sign of a decorator: a name with points in it, which may be called, or
an expression in parentheses. -/
def decoratorBody (g : Grammar) : Step := fun s =>
  if s.sees "(" then asNode .group (inOrder [eat "(", g.expression, eat ")"]) s
  else
    apart (inOrder
      [takeWord .name,
        repeatWhile (·.sees ".") (wrapAs .group (inOrder [eat ".", takeWord .other])) g.bound,
        whenSeen (·.sees "(") (wrapAs .call (callArguments g))]) s

/-- Decorators. -/
def decorators (g : Grammar) : Step :=
  repeatWhile (·.sees "@") (inOrder [eat "@", decoratorBody g]) g.bound

/-- Whether the name of a member can begin here. -/
def Reader.seesMemberName (s : Reader) : Bool :=
  s.word != "" || s.seesString || s.seesNumber || s.seesAny ["[", "#"]

/-- The name of a member. -/
def memberName (g : Grammar) : Step := fun s =>
  if s.seesString then takeString s
  else if s.seesNumber then takeNumber s
  else if s.sees "[" then inOrder [eat "[", g.assignment, eat "]"] s
  else if s.sees "#" then inOrder [eat "#", takeWord .other] s
  else takeWord .other s

/-- Words before the name of a member that say what kind of member it is. -/
def memberModifiers : List String :=
  ["static", "async", "get", "set", "public", "private", "protected", "readonly", "abstract",
    "override", "declare", "accessor"]

/-- Whether a word that says what kind of member follows comes next. -/
def Reader.seesModifier (s : Reader) : Bool :=
  memberModifiers.contains s.word
    && (s.afterWord.seesMemberName || s.afterWord.seesAny ["*", "\x7b"])

/-- The words and the star before the name of a member. -/
def modifiers (g : Grammar) : Step :=
  inOrder [repeatWhile (fun s => s.seesModifier) (takeWord .other) g.bound, eatIf "*"]

end SiteAtlas.Script
