import SiteAtlas.Files.Path

/-! # Script languages

Which files are scripts, and in which language they are written.
-/

namespace SiteAtlas

namespace Script

/-- The languages that scripts are written in. -/
inductive Dialect where
  | javascript
  | typescript
  | tsx
  deriving DecidableEq

/-- Whether a dialect has type annotations. -/
def Dialect.hasTypes (d : Dialect) : Bool := d != .javascript

/-- Whether a dialect has elements in angle brackets. -/
def Dialect.hasElements (d : Dialect) : Bool := d != .typescript

/-- The dialect of a file by its extension. -/
def Dialect.ofExtension? : String → Option Dialect
  | ".js" | ".jsx" | ".mjs" | ".cjs" => some .javascript
  | ".ts" => some .typescript
  | ".tsx" => some .tsx
  | _ => none

end Script

/-- Whether a path has the extension of a script. -/
def Path.isScript (p : Path) : Bool := (Script.Dialect.ofExtension? p.extension).isSome

end SiteAtlas
