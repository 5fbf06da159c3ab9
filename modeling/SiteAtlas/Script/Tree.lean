/-! # Syntax trees of scripts

As much of a script's structure as imports are read from. A comment is a child of the innermost
node that it stands in, like any other part of it; punctuation leaves no trace.
-/

namespace SiteAtlas.Script

/-- The kinds of leaves. -/
inductive LeafKind where
  | name
  | string
  | comment
  | importWord
  | typeWord
  | star
  | other
  deriving DecidableEq

/-- The kinds of inner nodes. -/
inductive NodeKind where
  | importStatement
  | importClause
  | namespaceImport
  | namedImports
  | importSpecifier
  | exportStatement
  | exportClause
  | exportSpecifier
  | namespaceExport
  | call
  | arguments
  | group
  deriving DecidableEq

/-- A syntax tree. -/
inductive Tree where
  | leaf (kind : LeafKind) (text : String)
  | node (kind : NodeKind) (children : List Tree)

namespace Tree

/-- Whether a tree is a comment. -/
def isComment : Tree → Bool
  | leaf .comment _ => true
  | _ => false

/-- Whether a tree is a node of a kind. -/
def isNode (kind : NodeKind) : Tree → Bool
  | node k _ => k == kind
  | leaf .. => false

/-- Whether a tree is a leaf of a kind. -/
def isLeaf (kind : LeafKind) : Tree → Bool
  | leaf k _ => k == kind
  | node .. => false

/-- The children of a node. -/
def children : Tree → List Tree
  | node _ children => children
  | leaf .. => []

/-- The text of a leaf. -/
def text : Tree → String
  | leaf _ text => text
  | node .. => ""

end Tree

end SiteAtlas.Script
