import SiteAtlas.Script.Expressions

/-! # Statements

Import and export statements keep their parts; every other statement becomes a group.
-/

namespace SiteAtlas.Script

/-- An expression in parentheses after a word of a statement. -/
def condition (g : Grammar) : Step := inOrder [eat "(", g.expression, eat ")"]

/-- A statement inside another. -/
def Grammar.statement (g : Grammar) : Step := g.parse .statement

/-- A block of statements. -/
def blockRule (g : Grammar) : Step :=
  asNode .group (inOrder [eat "\x7b", repeatUntil (·.sees "\x7d") g.statement g.bound, eat "\x7d"])

/-! ## Imports and exports -/

/-- The attributes of an import. -/
def importAttributesIf (g : Grammar) : Step :=
  whenSeen (fun s => s.seesWord "with" && !s.endsLine)
    (asNode .group (inOrder [eatWord "with", objectLiteral g]))

/-- A name in a list of imports or exports: a word or a text in quotes. -/
def listedName : Step := fun s => if s.seesString then takeString s else takeWord .name s

/-- Whether a word for types comes next in front of a listed name. -/
def seesListedType (g : Grammar) (s : Reader) : Bool :=
  g.types && (s.seesWord "type" || s.seesWord "typeof")
    && (s.afterWord.word != "" && !s.afterWord.seesWord "as" || s.afterWord.seesString)

/-- One name of a list, which may get another name. -/
def listedNames (g : Grammar) (kind : NodeKind) : Step :=
  asNode kind (inOrder [whenSeen (seesListedType g) (takeWord .typeWord), listedName,
    whenSeen (·.seesWord "as") (inOrder [eatWord "as", listedName])])

/-- A list of names in braces. -/
def nameList (g : Grammar) (list item : NodeKind) : Step :=
  asNode list (inOrder [eat "\x7b", listUntil "\x7d" (listedNames g item) g.bound])

/-- All of a module under one name. -/
def namespaceImport : Step :=
  asNode .namespaceImport (inOrder [eat "*", eatWord "as", takeName])

/-- What an import statement takes from the module. -/
def importClause (g : Grammar) : Step :=
  let named : Step := fun s =>
    if s.sees "*" then namespaceImport s else nameList g .namedImports .importSpecifier s
  asNode .importClause fun s =>
    if s.word != "" then
      inOrder [takeName, whenSeen (·.sees ",") (inOrder [eat ",", named])] s
    else named s

/-- Whether an import is one of types only. The word that says so could also be the name that the
module gets. -/
def seesTypeImport (g : Grammar) (s : Reader) : Bool :=
  g.types && (s.seesWord "type" || s.seesWord "typeof")
    && (s.afterWord.seesAny ["\x7b", "*"]
      || s.afterWord.word != ""
        && !(s.afterWord.seesWord "from" && s.afterWord.afterWord.seesString))

/-- An import of another module by the name of a namespace, without a statement of its source. -/
def importAlias (g : Grammar) : Step :=
  asNode .group (inOrder [takeName, eat "=", fun s =>
    if s.seesWord "require" && s.afterWord.sees "(" then
      inOrder [eatWord "require", eat "(", takeString, eat ")"] s
    else
      inOrder
        [takeWord .other, repeatWhile (·.sees ".") (inOrder [eat ".", takeWord .other]) g.bound] s])

/-- An import statement. -/
def importStatement (g : Grammar) : Step :=
  asNode .importStatement (inOrder
    [eatWord "import",
      whenSeen (seesTypeImport g) (takeWord .typeWord),
      fun s =>
        if s.seesString then takeString s
        else if g.types && s.word != "" && s.afterWord.sees "=" then importAlias g s
        else inOrder [importClause g, eatWord "from", takeString] s,
      importAttributesIf g, endStatement])

/-- The source of an export statement. -/
def exportSource (g : Grammar) : Step :=
  inOrder [eatWord "from", takeString, importAttributesIf g]

/-- The name that all of a module is passed on under. Where types are known the word `default` is
a name like others. -/
def namespaceExport (g : Grammar) : Step :=
  asNode .namespaceExport (inOrder [eat "*", eatWord "as", fun s =>
    if s.seesWord "default" && !g.types then takeWord .other s else listedName s])

/-- What an export statement passes on, from its braces or star on. -/
def exportList (g : Grammar) : Step := fun s =>
  if s.sees "*" then
    let next := s.after (eat "*")
    if next.seesWord "as" then inOrder [namespaceExport g, exportSource g] s
    else inOrder [fun s => some (s.skip.takeLeaf .star 1), exportSource g] s
  else
    inOrder [nameList g .exportClause .exportSpecifier,
      whenSeen (·.seesWord "from") (exportSource g)] s

/-! ## Declarations -/

/-- The items of a declaration of variables. -/
def declarators (g : Grammar) (noIn : Bool) : Step :=
  oneOrMore (inOrder
    [fun s => if s.sees "[" then arrayLiteral g s
        else if s.sees "\x7b" then objectLiteral g s else takeName s,
      whenSeen (fun s => g.types && s.sees "!") (eat "!"),
      annotationIf g,
      whenSeen (·.sees "=") (inOrder [eat "=", g.parse (.assignment noIn false)])]) g.bound

/-- Whether a declaration of variables comes next. -/
def Reader.seesVariables (s : Reader) : Bool :=
  s.seesWord "var" || s.seesWord "const"
    || s.seesWord "let" && (s.afterWord.word != "" && !s.afterWord.seesWord "in"
        && !s.afterWord.seesWord "instanceof" || s.afterWord.seesAny ["[", "\x7b"])

/-- A function, which may be a bare signature where types are known. -/
def functionDeclaration (g : Grammar) : Step :=
  inOrder [eatWordIf "async", eatWord "function", eatIf "*", takeName, typeParametersIf g,
    parameters g, annotationIf g,
    fun s => if g.types && !s.sees "\x7b" then endStatement s else g.block s]

/-- The members of an enumeration. -/
def enumeration (g : Grammar) : Step :=
  inOrder [eatWordIf "const", eatWord "enum", takeName, eat "\x7b",
    listUntil "\x7d" (inOrder [memberName g, valueIf g]) g.bound]

/-- An interface. -/
def interfaceDeclaration (g : Grammar) : Step :=
  inOrder [eatWord "interface", takeName, typeParametersIf g,
    whenSeen (·.seesWord "extends") (inOrder [eatWord "extends", oneOrMore g.type g.bound]),
    objectType g]

/-- A namespace, or a module with the name in quotes. -/
def namespaceDeclaration (g : Grammar) : Step :=
  inOrder [takeWord .other,
    fun s =>
      if s.seesString then takeString s
      else
        inOrder [takeName, repeatWhile (·.sees ".") (inOrder [eat ".", takeWord .other]) g.bound] s,
    fun s => if s.sees "\x7b" then g.block s else endStatement s]

/-- A name for a type. -/
def typeDeclaration (g : Grammar) : Step :=
  inOrder [eatWord "type", takeName, typeParametersIf g, eat "=", g.type, endStatement]

/-- The declaration that comes next where types are known. -/
def typedDeclaration? (g : Grammar) (s : Reader) : Option Step :=
  if !g.types then none
  else if s.seesWordBeforeName "interface" then some (interfaceDeclaration g)
  else if s.seesWordBeforeName "type" then some (typeDeclaration g)
  else if s.seesWord "enum" || s.seesWord "const" && s.afterWord.seesWord "enum" then
    some (enumeration g)
  else if s.seesWordBeforeName "namespace" || s.seesWordBeforeName "module"
      || s.seesWord "module" && s.afterWord.seesString then
    some (namespaceDeclaration g)
  else if s.seesWord "abstract" && s.afterWord.seesWord "class" then
    some (inOrder [eatWord "abstract", classRest g])
  else if s.seesWord "declare" && s.afterWord.seesWord "global" then
    some (inOrder [eatWord "declare", eatWord "global", g.block])
  else if s.seesWordBeforeName "declare" then some (inOrder [eatWord "declare", g.statement])
  else none

/-- The declaration that comes next. -/
def declaration? (g : Grammar) (s : Reader) : Option Step :=
  match typedDeclaration? g s with
  | some step => some step
  | none =>
    if s.seesVariables then some (inOrder [takeWord .other, declarators g false, endStatement])
    else if s.seesFunction then some (functionDeclaration g)
    else if s.seesWord "class" then some (classRest g)
    else if s.sees "@" then
      some (inOrder [decorators g, whenSeen (·.seesWord "abstract") (eatWord "abstract"),
        classRest g])
    else none

/-- What is exported without a name. -/
def exportDefault (g : Grammar) : Step :=
  inOrder [eatWord "default", fun s =>
    if s.seesFunction then
      inOrder [eatWordIf "async", eatWord "function", eatIf "*",
        whenSeen (fun s => s.word != "") takeName, typeParametersIf g, parameters g, annotationIf g,
        fun s => if g.types && !s.sees "\x7b" then endStatement s else g.block s] s
    else if s.seesWord "class" then classRest g s
    else
      match typedDeclaration? g s with
      | some step => step s
      | none => inOrder [g.assignment, endStatement] s]

/-- An export statement after its decorators. -/
def exportRest (g : Grammar) : Step := fun s =>
  let next := s.afterWord
  if next.seesAny ["*", "\x7b"] then inOrder [eatWord "export", exportList g, endStatement] s
  else if g.types && next.seesWord "type" && next.afterWord.seesAny ["*", "\x7b"] then
    inOrder [eatWord "export", takeWord .typeWord, exportList g, endStatement] s
  else if next.seesWord "default" then
    inOrder [eatWord "export", asNode .group (exportDefault g)] s
  else if g.types && next.sees "=" then
    inOrder [eatWord "export", asNode .group (inOrder [eat "=", g.assignment]), endStatement] s
  else if g.types && next.seesWord "as" then
    inOrder [eatWord "export", eatWord "as", eatWord "namespace", takeName, endStatement] s
  else if g.types && next.seesWord "import" then
    inOrder [eatWord "export", eatWord "import", whenSeen (seesTypeImport g) (takeWord .other),
      importAlias g, endStatement] s
  else
    match declaration? g next with
    | some step => inOrder [eatWord "export", asNode .group step] s
    | none => none

/-- An export statement. -/
def exportStatement (g : Grammar) : Step :=
  asNode .exportStatement (inOrder [decorators g, exportRest g])

/-! ## Control -/

/-- The first part of the head of a loop. -/
def loopStart (g : Grammar) : Step := fun s =>
  if s.sees ";" then some s
  else if s.seesVariables then inOrder [takeWord .other, declarators g true] s
  else g.parse (.expression true) s

/-- An expression that may be missing in the head of a loop. -/
def loopPart (g : Grammar) (closing : String) : Step :=
  inOrder [whenSeen (fun s => !s.sees closing) g.expression, eat closing]

/-- A counting loop or a loop over the parts of a value. -/
def forStatement (g : Grammar) : Step :=
  inOrder [eatWord "for", eatWordIf "await", eat "(", loopStart g,
    fun s =>
      if s.seesWord "of" || s.seesWord "in" then
        inOrder [takeWord .other, g.expression, eat ")"] s
      else inOrder [eat ";", loopPart g ";", loopPart g ")"] s,
    g.statement]

/-- One case of a choice. -/
def switchCase (g : Grammar) : Step :=
  inOrder
    [fun s =>
        if s.seesWord "default" then eatWord "default" s
        else inOrder [eatWord "case", g.expression] s,
      eat ":",
      repeatUntil (fun s => s.sees "\x7d" || s.seesWord "case" || s.seesWord "default") g.statement
        g.bound]

/-- A choice between cases. -/
def switchStatement (g : Grammar) : Step :=
  inOrder [eatWord "switch", condition g, eat "\x7b",
    repeatUntil (·.sees "\x7d") (switchCase g) g.bound, eat "\x7d"]

/-- A block whose failures are caught. -/
def tryStatement (g : Grammar) : Step :=
  inOrder [eatWord "try", g.block, fun s =>
    if s.seesWord "catch" then
      inOrder [eatWord "catch",
        whenSeen (·.sees "(") (inOrder [eat "(", parameter g, eat ")"]), g.block,
        whenSeen (·.seesWord "finally") (inOrder [eatWord "finally", g.block])] s
    else inOrder [eatWord "finally", g.block] s]

/-- A statement that begins with a word of its own. -/
def wordStatement? (g : Grammar) (w : String) : Option Step :=
  match w with
  | "if" =>
    some (inOrder [eatWord "if", condition g, g.statement,
      whenSeen (·.seesWord "else") (inOrder [eatWord "else", g.statement])])
  | "for" => some (forStatement g)
  | "while" => some (inOrder [eatWord "while", condition g, g.statement])
  | "do" =>
    some (inOrder [eatWord "do", g.statement, eatWord "while", condition g, eatIf ";"])
  | "switch" => some (switchStatement g)
  | "try" => some (tryStatement g)
  | "with" => some (inOrder [eatWord "with", condition g, g.statement])
  | "throw" => some (inOrder [eatWord "throw", g.expression, endStatement])
  | "return" =>
    some (inOrder [eatWord "return",
      whenSeen (fun s => (endStatement s).isNone) g.expression, endStatement])
  | "break" | "continue" =>
    some (inOrder [takeWord .other,
      whenSeen (fun s => s.word != "" && !s.endsLine) takeName, endStatement])
  | "debugger" => some (inOrder [eatWord "debugger", endStatement])
  | _ => none

/-- Whether a label comes next. -/
def Reader.seesLabel (s : Reader) : Bool :=
  s.word != "" && !reservedWords.contains s.word && s.afterWord.sees ":"

/-- A statement that is neither an import nor an export. -/
def plainStatement (g : Grammar) : Step := fun s =>
  if s.sees "\x7b" then g.block s
  else if s.sees ";" then eat ";" s
  else if s.seesLabel then inOrder [takeWord .other, eat ":", g.statement] s
  else
    match wordStatement? g s.word with
    | some step => step s
    | none =>
      match declaration? g s with
      | some step => step s
      | none => inOrder [g.expression, endStatement] s

/-- A statement. -/
def statementRule (g : Grammar) : Step := fun s =>
  if s.seesWord "import" && !s.afterWord.seesAny ["(", "."] then importStatement g s
  else if s.seesWord "export" || s.sees "@" && (s.after (decorators g)).seesWord "export" then
    exportStatement g s
  else asNode .group (plainStatement g) s

end SiteAtlas.Script
