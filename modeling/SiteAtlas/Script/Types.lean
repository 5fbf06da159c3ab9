import SiteAtlas.Script.Grammar

/-! # Types

Types are read for the modules that they name; all else in them only has to be well formed.
-/

namespace SiteAtlas.Script

/-- The arguments of a generic type. -/
def typeArguments (g : Grammar) : Step :=
  asNode .group (inOrder [eat "<", listUntil ">" g.type g.bound])

/-- One parameter of a generic declaration. -/
def typeParameter (g : Grammar) : Step :=
  inOrder
    [repeatWhile (fun s => ["const", "in", "out"].contains s.word && s.afterWord.word != "")
      (takeWord .other) g.bound,
      takeWord .other,
      whenSeen (·.seesWord "extends") (inOrder [eatWord "extends", g.type]),
      whenSeen (·.sees "=") (inOrder [eat "=", g.type])]

/-- The parameters of a generic declaration. -/
def typeParameters (g : Grammar) : Step :=
  inOrder [eat "<", listUntil ">" (typeParameter g) g.bound]

/-- The parameters of a generic declaration, where there are any. -/
def typeParametersIf (g : Grammar) : Step :=
  whenSeen (fun s => g.types && s.sees "<") (typeParameters g)

/-- A result type, which may state what the call proves. -/
def returnType (g : Grammar) : Step :=
  inOrder
    [whenSeen (fun s => s.seesWordBeforeName "asserts" && s.afterWord.word != "is")
      (eatWord "asserts"),
      g.type,
      whenSeen (fun s => s.seesWord "is" && !s.endsLine) (inOrder [eatWord "is", g.type])]

/-- The type after a colon, where there is one. -/
def annotationIf (g : Grammar) : Step :=
  whenSeen (fun s => g.types && s.sees ":") (inOrder [eat ":", returnType g])

/-- The value after an equals sign, where there is one. -/
def valueIf (g : Grammar) : Step :=
  whenSeen (fun s => s.sees "=" && !s.sees "=>") (inOrder [eat "=", g.assignment])

/-- Words before a parameter that make it a member as well. -/
def parameterModifiers : List String := ["public", "private", "protected", "readonly", "override"]

/-- One parameter of a function. A pattern is read as the expression that looks like it. -/
def parameter (g : Grammar) : Step :=
  inOrder
    [decorators g,
      whenSeen (fun _ => g.types)
        (repeatWhile (fun s => parameterModifiers.any s.seesWordBeforeName) (takeWord .other)
          g.bound),
      eatIf "...", g.assignment, whenSeen (fun _ => g.types) (eatIf "?"), annotationIf g, valueIf g]

/-- The parameters of a function. -/
def parameters (g : Grammar) : Step :=
  asNode .group (inOrder [eat "(", listUntil ")" (parameter g) g.bound])

/-- A function type. -/
def functionType (g : Grammar) : Step :=
  inOrder [typeParametersIf g, parameters g, eat "=>", returnType g]

/-- A name with points in it, and its arguments. -/
def namedType (g : Grammar) : Step :=
  inOrder
    [repeatWhile (fun s => s.sees "." && !s.sees "...") (inOrder [eat ".", takeWord .other])
        g.bound,
      whenSeen (fun s => s.sees "<" && !s.endsLine) (typeArguments g)]

/-- The mark of a member that may be left out, which a sign can add or take away. -/
def optionalMark : Step :=
  inOrder [whenSeen (fun s => s.seesAny ["-?", "+?"]) (fun s => some (s.skip.advance 1)), eatIf "?"]

/-- What stands in brackets in front of a member: an index, a range of names or a name. -/
def typeIndex (g : Grammar) : Step := fun s =>
  let inside := s.after (eat "[")
  if inside.word != "" && inside.afterWord.seesWord "in" then
    inOrder [eat "[", takeWord .other, eatWord "in", g.type,
      whenSeen (·.seesWord "as") (inOrder [eatWord "as", g.type]), eat "]"] s
  else if inside.word != "" && inside.afterWord.sees ":" then
    inOrder [eat "[", takeWord .other, eat ":", g.type, eat "]"] s
  else inOrder [eat "[", g.assignment, eat "]"] s

/-- One member of an object type. -/
def typeMember (g : Grammar) : Step :=
  inOrder
    [whenSeen (fun s => s.seesAny ["-readonly", "+readonly"]) (fun s => some (s.skip.advance 1)),
      repeatWhile (fun s => s.seesModifier
          || s.seesWord "new" && s.afterWord.seesAny ["(", "<"]) (takeWord .other) g.bound,
      fun s =>
        if s.sees "[" then typeIndex g s
        else if s.seesAny ["(", "<"] then some s
        else memberName g s,
      optionalMark,
      typeParametersIf g,
      whenSeen (·.sees "(") (parameters g),
      annotationIf g]

/-- The end of a member of an object type. -/
def endTypeMember : Step := fun s =>
  if s.sees ";" then eat ";" s
  else if s.sees "," then eat "," s
  else if s.sees "\x7d" || s.endsLine then some s
  else none

/-- An object type. -/
def objectType (g : Grammar) : Step :=
  inOrder [eat "\x7b",
    repeatUntil (·.sees "\x7d") (inOrder [typeMember g, endTypeMember]) g.bound, eat "\x7d"]

/-- One place of a tuple type, which may have a name. -/
def tuplePlace (g : Grammar) : Step :=
  inOrder [eatIf "...", g.type, eatIf "?", whenSeen (·.sees ":") (inOrder [eat ":", g.type])]

/-- A type without operators before or after it. -/
def primaryType (g : Grammar) : Step := fun s =>
  let w := s.word
  if s.sees "(" then
    match functionType g s with
    | some t => some t
    | none => inOrder [eat "(", g.type, eat ")"] s
  else if s.sees "<" then functionType g s
  else if s.sees "\x7b" then objectType g s
  else if s.sees "[" then inOrder [eat "[", listUntil "]" (tuplePlace g) g.bound] s
  else if s.seesString then takeString s
  else if s.seesNumber then takeNumber s
  else if s.sees "-" then inOrder [eat "-", takeNumber] s
  else if s.sees backquote then takeTemplate g.type g.bound s
  else if w = "import" then inOrder [importCall g, namedType g] s
  else if w = "typeof" then
    inOrder [eatWord "typeof",
      fun s => if s.seesWord "import" then importCall g s else takeWord .other s, namedType g] s
  else if w = "new" || w = "abstract" && s.afterWord.seesWord "new" then
    inOrder [eatWordIf "abstract", eatWord "new", functionType g] s
  else inOrder [takeWord .other, namedType g] s

/-- Words that may stand before a type. -/
def typeOperators : List String := ["keyof", "readonly", "unique", "infer"]

/-- Whether a word that belongs before a type comes next. -/
def Reader.seesTypeOperator (s : Reader) : Bool :=
  typeOperators.contains s.word
    && (s.afterWord.word != "" || s.afterWord.seesAny ["(", "[", "\x7b", backquote])

/-- A type with the words before it and the brackets after it. -/
def operandType (g : Grammar) : Step :=
  inOrder
    [repeatWhile (·.seesTypeOperator) (takeWord .other) g.bound,
      primaryType g,
      repeatWhile (fun s => s.sees "[" && !s.endsLine)
        (inOrder [eat "[", whenSeen (fun s => !s.sees "]") g.type, eat "]"]) g.bound]

/-- Whether a sign between the members of a union or an intersection comes next. -/
def Reader.seesTypeSign (s : Reader) : Bool := s.seesAny ["|", "&"] && !s.seesAny ["||", "&&"]

/-- A sign between the members of a union or an intersection. -/
def takeTypeSign : Step := fun s => some (s.skip.advance 1)

/-- A type. -/
def typeRule (g : Grammar) : Step :=
  inOrder
    [whenSeen (·.seesTypeSign) takeTypeSign,
      operandType g,
      repeatWhile (·.seesTypeSign) (inOrder [takeTypeSign, operandType g]) g.bound,
      whenSeen (·.seesWord "extends") (inOrder [eatWord "extends", g.type,
        whenSeen (·.sees "?") (inOrder [eat "?", g.type, eat ":", g.type])])]

end SiteAtlas.Script
