import SiteAtlas.Script.Tree
import SiteAtlas.Imports.Basic

/-! # Imports in a syntax tree

Every statement and call that names another module by a text in quotes, in the order of the source.
What is imported from is the text between the quotes as it stands; sources that have to be computed
are passed over.
-/

namespace SiteAtlas.Script

/-- The text between the quotes of a string. -/
def unquote? (tree : Tree) : Option String :=
  match tree with
  | .leaf .string text =>
    let chars := text.toList
    match chars with
    | mark :: rest => if rest.getLast? = some mark then some (String.ofList rest.dropLast) else none
    | [] => none
  | _ => none

/-- The source of an import or export statement: the string that is its own child. -/
def source? (children : List Tree) : Option String :=
  (children.find? (Tree.isLeaf .string)).bind unquote?

/-- The texts of the names in a specifier, the word `type` left out. -/
def specifierNames (tree : Tree) : List String :=
  tree.children.filterMap fun
    | .leaf .name text | .leaf .string text | .leaf .other text => some text
    | _ => none

/-- The name that a specifier of an import clause takes. -/
def importSpecifier? (tree : Tree) : Option Specifier :=
  if tree.isNode .importSpecifier then
    match specifierNames tree with
    | [] => none
    | [name] => some { form := .named, localName := some name, importedName := some name }
    | name :: other :: _ =>
      some { form := .named, localName := some other, importedName := some name }
  else none

/-- The names that a part of an import clause takes. -/
def clauseSpecifiers (tree : Tree) : List Specifier :=
  match tree with
  | .leaf .name name =>
    [{ form := .default, localName := some name, importedName := some name }]
  | .node .namespaceImport children =>
    match children.find? (Tree.isLeaf .name) with
    | some name =>
      [{ form := .wholeModule, localName := some name.text, importedName := some name.text }]
    | none => []
  | .node .namedImports children => children.filterMap importSpecifier?
  | _ => []

/-- The import of an import statement. -/
def importStatement? (children : List Tree) : Option RawImport :=
  (source? children).map fun source =>
    { source := source, form := .statement, isTypeOnly := children.any (Tree.isLeaf .typeWord)
      specifiers := children.flatMap fun child =>
        if child.isNode .importClause then child.children.flatMap clauseSpecifiers else [] }

/-- The name that a specifier of an export clause passes on. -/
def exportSpecifier? (tree : Tree) : Option Specifier :=
  if tree.isNode .exportSpecifier then
    match specifierNames tree with
    | [] => none
    | [name] => some { form := .passedOn, localName := some name, exportedName := some name }
    | name :: other :: _ =>
      some { form := .passedOn, localName := some name, exportedName := some other }
  else none

/-- The names that a part of an export statement passes on. -/
def exportSpecifiers (tree : Tree) : List Specifier :=
  match tree with
  | .node .namespaceExport children =>
    match children.find? fun c => c.isLeaf .name || c.isLeaf .string with
    | some name => [{ form := .namespaceExport, exportedName := some name.text }]
    | none => []
  | .node .exportClause children => children.filterMap exportSpecifier?
  | _ => []

/-- The import of an export statement. -/
def exportStatement? (children : List Tree) : Option RawImport :=
  (source? children).map fun source =>
    { source := source
      form := if children.any (Tree.isLeaf .star) then .exportAll else .exportFrom
      isTypeOnly := children.any (Tree.isLeaf .typeWord)
      specifiers := children.flatMap exportSpecifiers }

/-- The form of the import that a call of this callee is. -/
def callForm? (callee : Tree) : Option ImportForm :=
  match callee with
  | .leaf .importWord _ => some .dynamic
  | .leaf .name "require" => some .require
  | _ => none

/-- The import of a call: its first argument, comments counted, has to be a string. -/
def call? (children : List Tree) : Option RawImport := do
  let callee ← children.find? fun child => !child.isComment
  let form ← callForm? callee
  let arguments ← children.find? (Tree.isNode .arguments)
  let first ← arguments.children.head?
  let source ← unquote? first
  return { source := source, form := form }

/-- The import that a node itself is. -/
def importOf? (tree : Tree) : Option RawImport :=
  match tree with
  | .node .importStatement children => importStatement? children
  | .node .exportStatement children => exportStatement? children
  | .node .call children => call? children
  | _ => none

mutual

/-- The imports of a tree, each node before its children. -/
def importsOf : Tree → List RawImport
  | .leaf .. => []
  | .node kind children => (importOf? (.node kind children)).toList ++ importsOfAll children

/-- The imports of a list of trees. -/
def importsOfAll : List Tree → List RawImport
  | [] => []
  | tree :: rest => importsOf tree ++ importsOfAll rest

end

end SiteAtlas.Script
