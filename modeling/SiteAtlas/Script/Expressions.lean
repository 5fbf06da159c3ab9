import SiteAtlas.Script.Types

/-! # Expressions

Operators are read as a flat row, since how they group does not matter for what a script imports.
Every expression becomes one tree: a single word or text stays a leaf, a call becomes a call, and
all else becomes a group.
-/

namespace SiteAtlas.Script

/-- The body of an arrow function, from the arrow on. -/
def arrowBody (g : Grammar) (noIn : Bool) : Step := fun s =>
  if s.endsLine then none
  else
    inOrder [eat "=>",
      fun s => if s.sees "\x7b" then g.block s else g.parse (.assignment noIn false) s] s

/-- What follows the parameters of an arrow function. -/
def arrowAfter (g : Grammar) (noIn inCondition : Bool) : Step := fun s =>
  if s.sees "=>" then arrowBody g noIn s
  else if g.types && !inCondition && s.sees ":" then
    inOrder [eat ":", returnType g, arrowBody g noIn] s
  else none

/-- Whether the parameters of a generic arrow function may begin here. Where elements can be
written, a comma or a bound has to tell the parameters from an element. -/
def seesGenericArrow (g : Grammar) (s : Reader) : Bool :=
  g.types && s.sees "<" &&
    (!g.dialect.hasElements ||
      let inside := (s.after (eat "<")).afterWord
      inside.sees "," || inside.seesWord "extends" && !inside.afterWord.seesAny ["=", ">"])

/-- A generic arrow function. -/
def genericArrow (g : Grammar) (noIn : Bool) : Step :=
  inOrder [typeParameters g, parameters g, arrowAfter g noIn false]

/-- The items of a list in brackets, where places may be left empty. -/
def arrayLiteral (g : Grammar) : Step :=
  asNode .group (inOrder [eat "[",
    repeatUntil (·.sees "]") (fun s =>
      if s.sees "," then eat "," s
      else inOrder [eatIf "...", g.assignment,
        fun s => if s.sees "]" then some s else eat "," s] s) g.bound,
    eat "]"])

/-- The parameters, the result type and the body of a function. -/
def functionRest (g : Grammar) : Step :=
  inOrder [typeParametersIf g, parameters g, annotationIf g, g.block]

/-- One member of an object. -/
def objectMember (g : Grammar) : Step := fun s =>
  if s.sees "..." then inOrder [eat "...", g.assignment] s
  else
    let isPlainName := s.word != "" && !reservedWords.contains s.word
    inOrder [modifiers g, memberName g, fun t =>
      if t.sees "(" || g.types && t.sees "<" then functionRest g t
      else if t.sees ":" then inOrder [eat ":", g.assignment] t
      else if isPlainName then valueIf g t
      else none] s

/-- An object. -/
def objectLiteral (g : Grammar) : Step :=
  asNode .group (inOrder [eat "\x7b", listUntil "\x7d" (objectMember g) g.bound])

/-- A function with or without a name. -/
def functionExpression (g : Grammar) : Step :=
  asNode .group (inOrder [eatWordIf "async", eatWord "function", eatIf "*",
    whenSeen (fun s => s.word != "") (takeWord .other), functionRest g])

/-- Whether a function begins here. -/
def Reader.seesFunction (s : Reader) : Bool :=
  s.seesWord "function"
    || s.seesWord "async" && s.afterWord.seesWord "function" && !s.afterWord.endsLine

/-- An expression in parentheses. -/
def inParentheses (g : Grammar) : Step :=
  asNode .group (inOrder [eat "(", g.expression, annotationIf g, eat ")"])

/-- One member of a class after its decorators. -/
def classMember (g : Grammar) : Step := fun s =>
  if s.seesWord "static" && s.afterWord.sees "\x7b" then
    inOrder [eatWord "static", g.block] s
  else
    inOrder
      [modifiers g,
        fun s =>
          let inside := s.after (eat "[")
          if g.types && s.sees "[" && inside.word != "" && inside.afterWord.sees ":" then
            typeIndex g s
          else memberName g s,
        whenSeen (fun s => g.types && s.seesAny ["?", "!"]) (fun s => some (s.skip.advance 1)),
        fun s =>
          if s.sees "(" || g.types && s.sees "<" then
            inOrder [typeParametersIf g, parameters g, annotationIf g,
              fun s => if g.types && !s.sees "\x7b" then endStatement s else g.block s] s
          else inOrder [annotationIf g, valueIf g, endStatement] s] s

/-- The members of a class. -/
def classBody (g : Grammar) : Step :=
  inOrder [eat "\x7b",
    repeatUntil (·.sees "\x7d") (fun s =>
      if s.sees ";" then eat ";" s
      else inOrder [decorators g, asNode .group (classMember g)] s) g.bound,
    eat "\x7d"]

/-- Whether type arguments that end here belong to an expression: a call, a template or the end of
the expression has to follow. -/
def Reader.mayFollowTypeArguments (s : Reader) : Bool :=
  s.atEnd || s.endsLine || s.seesAny ["(", ")", "]", ",", ";", ":", ".", "\x7d", "?", backquote]

/-- Type arguments in an expression, if what looks like them can be nothing else. -/
def typeArgumentsIf (g : Grammar) (s : Reader) : Option Reader :=
  if g.types && s.sees "<" then
    (typeArguments g s).bind fun t => if t.mayFollowTypeArguments then some t else none
  else none

/-- What may follow an operand and makes one operand of both. -/
def suffix? (g : Grammar) (s : Reader) : Option Step :=
  if s.sees "?." && !((s.after (eat "?.")).rest.head?.any Char.isDigit) then
    some (inOrder [eat "?.", fun s =>
      if s.sees "(" then wrapAs .call (callArguments g) s
      else if s.sees "[" then wrapAs .group (inOrder [eat "[", g.expression, eat "]"]) s
      else if s.sees backquote then wrapAs .group (takeTemplate g.expression g.bound) s
      else
        match typeArgumentsIf g s with
        | some t => wrapAs .call (callArguments g) t
        | none => wrapAs .group (inOrder [eatIf "#", takeWord .other]) s])
  else if s.sees "." && !s.sees "..." then
    some (wrapAs .group (inOrder [eat ".", eatIf "#", takeWord .other]))
  else if s.sees "[" then some (wrapAs .group (inOrder [eat "[", g.expression, eat "]"]))
  else if s.sees "(" then some (wrapAs .call (callArguments g))
  else if s.sees backquote then some (wrapAs .group (takeTemplate g.expression g.bound))
  else if g.types && s.sees "!" && !s.sees "!=" && !s.endsLine then some (wrapAs .group (eat "!"))
  else
    (typeArgumentsIf g s).map fun t _ =>
      if t.sees "(" then wrapAs .call (callArguments g) t else wrapAs .group some t

/-- All that follows an operand and makes one operand of both. -/
def suffixes (g : Grammar) : (bound : Nat) → Step
  | 0, _ => none
  | bound + 1, s =>
    match suffix? g s with
    | some step =>
      match step s with
      | some t => suffixes g bound t
      | none => none
    | none => some s

/-- The members that are taken of what `new` creates. -/
def newSuffixes (g : Grammar) : Step :=
  repeatWhile (fun s => s.sees "." && !s.sees "..." || s.sees "[") (fun s =>
    if s.sees "[" then wrapAs .group (inOrder [eat "[", g.expression, eat "]"]) s
    else wrapAs .group (inOrder [eat ".", eatIf "#", takeWord .other]) s) g.bound

/-- The head and the members of a class. -/
def classRest (g : Grammar) : Step :=
  inOrder
    [eatWord "class",
      whenSeen (fun s => s.word != "" && !s.seesWord "extends"
        && !(g.types && s.seesWord "implements")) takeName,
      typeParametersIf g,
      whenSeen (·.seesWord "extends") (inOrder [eatWord "extends", g.parse .operand,
        whenSeen (fun s => g.types && s.sees "<") (typeArguments g)]),
      whenSeen (fun s => g.types && s.seesWord "implements")
        (inOrder [eatWord "implements", oneOrMore g.type g.bound]),
      classBody g]

/-- Words that are values by themselves. -/
def valueWords : List String := ["this", "null", "true", "false", "super"]

/-- A value that begins with a word. -/
def wordOperand (g : Grammar) : Step := fun s =>
  let w := s.word
  if s.seesFunction then functionExpression g s
  else if w = "class" then asNode .group (classRest g) s
  else if w = "new" then
    asNode .group (inOrder [eatWord "new", fun s =>
      if s.sees "." then inOrder [eat ".", takeWord .other] s
      else
        inOrder [g.parse .created, fun s => (typeArgumentsIf g s).getD s |> some,
          whenSeen (·.sees "(") (callArguments g)] s]) s
  else if w = "import" then
    if s.afterWord.sees "(" then takeWord .importWord s
    else asNode .group (inOrder [eatWord "import", eat ".", takeWord .other]) s
  else if valueWords.contains w then takeWord .other s
  else takeName s

/-- A value without what follows it. -/
def primary (g : Grammar) : Step := fun s =>
  if s.seesString then takeString s
  else if s.seesNumber then takeNumber s
  else if s.sees backquote then takeTemplate g.expression g.bound s
  else if s.sees "(" then inParentheses g s
  else if s.sees "[" then arrayLiteral g s
  else if s.sees "\x7b" then objectLiteral g s
  else if s.sees "/" then takePattern s
  else if s.sees "<" then if g.dialect.hasElements then g.parse .element s else none
  else if s.sees "#" then inOrder [eat "#", takeWord .other] s
  else if s.sees "@" then asNode .group (inOrder [decorators g, classRest g]) s
  else wordOperand g s

/-- A value with the members, calls and texts that follow it. -/
def operandRule (g : Grammar) : Step := apart (inOrder [primary g, suffixes g g.bound])

/-- What `new` creates: a value with the members that follow it. -/
def createdRule (g : Grammar) : Step := apart (inOrder [primary g, newSuffixes g])

/-- Signs before an operand. -/
def prefixSigns : List String := ["!", "~", "+", "-"]

/-- Words before an operand. -/
def prefixWords : List String := ["typeof", "void", "delete", "await"]

/-- Whether an operator that stands before its operand comes next. -/
def seesPrefix (g : Grammar) (s : Reader) : Bool :=
  s.seesAny prefixSigns || prefixWords.contains s.word || g.dialect = .typescript && s.sees "<"

/-- An operator that stands before its operand; a type in angle brackets is one. -/
def takePrefix (g : Grammar) : Step := fun s =>
  if s.word != "" then takeWord .other s
  else if s.sees "<" then inOrder [eat "<", g.type, eat ">"] s
  else some (s.skip.advance 1)

/-- Whether a doubled sign that follows its operand comes next. -/
def Reader.seesDoubled (s : Reader) : Bool := s.seesAny ["++", "--"]

/-- What may follow a first operand: a doubled sign on the same line. -/
def doubledIf : Step :=
  whenSeen (fun s => s.seesDoubled && !s.endsLine)
    (wrapAs .group fun s => some (s.skip.advance 2))

/-- An operand with the operators before it. -/
def unary (g : Grammar) : Step := fun s =>
  if seesPrefix g s then
    asNode .group
      (inOrder [repeatWhile (seesPrefix g) (takePrefix g) g.bound, operandRule g, doubledIf]) s
  else apart (inOrder [operandRule g, doubledIf]) s

/-- Operators that assign, the longest first. -/
def assigningSigns : List String :=
  [">>>=", "<<=", ">>=", "**=", "&&=", "||=", "??=", "+=", "-=", "*=", "/=", "%=", "&=", "|=", "^="]

/-- Operators between two operands, the longest first. -/
def binarySigns : List String :=
  ["===", "!==", ">>>", "==", "!=", "<=", ">=", "<<", ">>", "&&", "||", "??", "**", "+", "-", "*",
    "/", "%", "&", "|", "^", "<", ">"]

/-- The operator that assigns and comes next. -/
def Reader.assigningSign? (s : Reader) : Option String :=
  if s.sees "=" && !s.seesAny ["==", "=>"] then some "=" else assigningSigns.find? s.sees

/-- Whether a question mark comes next that asks for one of two values. -/
def Reader.seesQuestion (s : Reader) : Bool :=
  s.sees "?" && !s.sees "??" && !((s.after (eat "?")).seesAny [":", ",", ")", "="])

/-- All operators after the first operand, with their other operands. -/
def operators (g : Grammar) (noIn : Bool) : (bound : Nat) → Step
  | 0, _ => none
  | bound + 1, s =>
    let other (step : Step) : Option Reader :=
      match wrapAs .group step s with
      | some t => operators g noIn bound t
      | none => none
    if s.seesDoubled then some s
    else
      match s.assigningSign? with
      | some sign => wrapAs .group (inOrder [eat sign, g.parse (.assignment noIn false)]) s
      | none =>
        if s.seesQuestion then
          wrapAs .group (inOrder [eat "?", g.parse (.assignment false true), eat ":",
            g.parse (.assignment noIn false)]) s
        else
          match binarySigns.find? s.sees with
          | some sign => other (inOrder [eat sign, unary g])
          | none =>
            let w := s.word
            if w = "instanceof" || w = "in" && !noIn then other (inOrder [eatWord w, unary g])
            else if g.types && (w = "as" || w = "satisfies") && !s.endsLine then
              other (inOrder [eatWord w, g.type])
            else some s

/-- What follows the word `yield`. -/
def yieldRest (g : Grammar) (noIn : Bool) : Step := fun s =>
  if s.endsLine || s.atEnd || s.seesAny [")", "]", "\x7d", ",", ";", ":"] then some s
  else inOrder [eatIf "*", g.parse (.assignment noIn false)] s

/-- Whether the word `async` comes next in front of the parameters of an arrow function. -/
def Reader.seesAsync (s : Reader) : Bool :=
  s.seesWord "async" && !s.afterWord.endsLine
    && (s.afterWord.seesAny ["(", "<"]
      || s.afterWord.word != "" && s.afterWord.afterWord.sees "=>")

/-- Whether an empty list in parentheses comes next. -/
def Reader.seesEmptyList (s : Reader) : Bool := s.sees "(" && (s.after (eat "(")).sees ")"

/-- One expression, read from its first word or sign. -/
def assignmentFrom (g : Grammar) (noIn inCondition : Bool) : Step := fun s =>
  let continued (t : Reader) : Option Reader :=
    inOrder [suffixes g g.bound, doubledIf, operators g noIn g.bound] t
  let plain (s : Reader) : Option Reader := inOrder [unary g, operators g noIn g.bound] s
  if s.seesWord "yield" then wrapAs .group (inOrder [eatWord "yield", yieldRest g noIn]) s
  else
    let start := if s.seesAsync then s.afterWord else s
    if seesGenericArrow g start then
      match wrapAs .group (genericArrow g noIn) start with
      | some t => some t
      | none => plain s
    else if start.sees "(" then
      match parameters g start with
      | some t =>
        match wrapAs .group (arrowAfter g noIn inCondition) t with
        | some u => some u
        | none =>
          if s.seesAsync then (wrapAs .group some t).bind continued
          else if s.seesEmptyList then none
          else continued t
      | none => none
    else if start.word != "" && start.afterWord.sees "=>" then
      wrapAs .group (inOrder [takeName, arrowBody g noIn]) start
    else plain s

/-- One expression. -/
def assignmentRule (g : Grammar) (noIn inCondition : Bool) : Step :=
  apart (assignmentFrom g noIn inCondition)

/-- Expressions with commas between them. -/
def expressionRule (g : Grammar) (noIn : Bool) : Step :=
  apart (inOrder [g.parse (.assignment noIn false),
    whenSeen (·.sees ",")
      (wrapAs .group (repeatWhile (·.sees ",")
        (inOrder [eat ",", g.parse (.assignment noIn false)]) g.bound))])

end SiteAtlas.Script
