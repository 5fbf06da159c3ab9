import SiteAtlas.Files.Path
import SiteAtlas.Text.Case

/-! # File names as roles

A file below the router root is route metadata, one of the reserved route files, another script, or
something the router does not look at. Its name decides; the text of a `route` file adds the HTTP
methods it answers and its server actions.
-/

namespace SiteAtlas.Routing

/-- The reserved route files. -/
inductive RouteFile where
  | layout
  | page
  | loading
  | notFound
  | error
  | globalError
  | endpoint
  | template
  | default
  deriving DecidableEq

namespace RouteFile

/-- All reserved route files. -/
def all : List RouteFile :=
  [layout, page, loading, notFound, error, globalError, endpoint, template, default]

/-- The base name that is reserved. -/
def baseName : RouteFile → String
  | layout => "layout"
  | page => "page"
  | loading => "loading"
  | notFound => "not-found"
  | error => "error"
  | globalError => "global-error"
  | endpoint => "route"
  | template => "template"
  | default => "default"

/-- The name of the role. -/
def label : RouteFile → String
  | endpoint => "api-route-file"
  | file => file.baseName ++ "-file"

/-- The role as a title. -/
def purpose : RouteFile → String
  | layout => "Layout Component"
  | page => "Page Component"
  | loading => "Loading UI"
  | notFound => "Not Found UI"
  | error => "Error UI"
  | globalError => "Global Error UI"
  | endpoint => "API Route"
  | template => "Template Component"
  | default => "Default Component"

/-- The role in a sentence. -/
def description : RouteFile → String
  | layout => "Shared UI that wraps child pages and layouts"
  | page => "Unique UI for a route and makes routes publicly accessible"
  | loading => "Loading UI for page or layout (React Suspense boundary)"
  | notFound => "Not found UI for a route segment"
  | error => "Error UI for a route segment (React Error Boundary)"
  | globalError => "Global error UI for the entire application"
  | endpoint => "Server-side API endpoint"
  | template => "Re-rendered layout that creates new state on navigation"
  | default => "Fallback UI for parallel routes"

end RouteFile

/-- What an ordinary script next to a route seems to hold. -/
inductive Colocated where
  | component
  | utility
  | hook
  | types
  | constants
  | module
  deriving DecidableEq

/-- The name of the kind of script. -/
def Colocated.label : Colocated → String
  | component => "component"
  | utility => "utility"
  | hook => "hook"
  | types => "types"
  | constants => "constants"
  | module => "module"

/-- The role of a file for the router. -/
inductive FileRole where
  | metadata (kind : String)
  | routeFile (file : RouteFile)
  | script (kind : Colocated)
  | asset
  deriving DecidableEq

/-- A file's role, and what its text adds to it. -/
structure FileAnalysis where
  /-- The role. -/
  role : FileRole
  /-- The file name without its extension. -/
  baseName : String
  /-- The HTTP methods that an API route answers, in alphabetical order. -/
  methods : List String := []
  /-- The server actions that an API route exports, in order. -/
  actions : List String := []
  deriving DecidableEq

/-- Extensions of the files in which routes are written. -/
def routeExtensions : List String := [".js", ".jsx", ".ts", ".tsx"]

/-- Base names of route metadata. -/
def metadataNames : List String :=
  ["opengraph-image", "twitter-image", "icon", "apple-icon", "manifest", "sitemap", "robots",
    "favicon.ico"]

/-- Cut a file name into its base name and its extension. -/
def splitFileName (fileName : String) : String × String :=
  let path := Path.ofString fileName
  (path.stem, path.extension)

/-- The kind of route metadata that a file holds. -/
def metadataKind? (fileName : String) : Option String :=
  if fileName = "favicon.ico" then some "favicon"
  else
    let base := (splitFileName fileName).1
    if metadataNames.contains base then some base else none

/-- One blank or more in front of a text: what follows them all. -/
def afterBlanks? (text : List Char) : Option (List Char) :=
  match text with
  | c :: rest => if Text.isBlank c then some (Text.trimLeft rest) else none
  | [] => none

/-- A word followed by blanks in front of a text: what follows. -/
def afterKeyword? (word : String) (text : List Char) : Option (List Char) :=
  (Text.after? word.toList text).bind afterBlanks?

/-- The text after `export function` or `export async function` and its blanks. -/
def afterExportFunction? (text : List Char) : Option (List Char) := do
  let exported ← afterKeyword? "export" text
  match afterKeyword? "async" exported with
  | some rest => afterKeyword? "function" rest
  | none => afterKeyword? "function" exported

/-- Whether an exported function of that name starts here, up to its opening parenthesis. -/
def exportsMethod (method : String) (text : List Char) : Bool :=
  match (afterExportFunction? text).bind (Text.after? method.toList) with
  | some rest => (Text.trimLeft rest).head? = some '('
  | none => false

/-- The HTTP methods, in alphabetical order. -/
def httpMethods : List String := ["DELETE", "GET", "HEAD", "OPTIONS", "PATCH", "POST", "PUT"]

/-- Whether a test holds at some place of a text. -/
def somewhere (test : List Char → Bool) : List Char → Bool
  | [] => test []
  | c :: rest => test (c :: rest) || somewhere test rest

/-- The HTTP methods for which a text exports a function. -/
def exportedMethods (content : String) : List String :=
  httpMethods.filter fun method => somewhere (exportsMethod method) content.toList

/-- The name of an exported asynchronous function that starts here, and what follows it. -/
def actionName? (text : List Char) : Option (List Char × List Char) := do
  let rest ← afterKeyword? "export" text
  let rest ← afterKeyword? "async" rest
  let rest ← afterKeyword? "function" rest
  let name := rest.takeWhile Text.isWord
  if name.isEmpty then none else some (name, rest.dropWhile Text.isWord)

/-- The names of all exported asynchronous functions, the first `skip` characters left out. The
next one is looked for behind the name of the last. -/
def actionNames : (skip : Nat) → List Char → List String
  | _, [] => []
  | skip + 1, _ :: rest => actionNames skip rest
  | 0, c :: rest =>
    match actionName? (c :: rest) with
    | some (name, after) => String.ofList name :: actionNames (rest.length - after.length) rest
    | none => actionNames 0 rest

/-- The server actions of a text that declares itself to run on the server. -/
def serverActions (content : String) : List String :=
  let chars := content.toList
  if Text.contains "'use server'".toList chars || Text.contains "\"use server\"".toList chars then
    actionNames 0 chars
  else []

/-- Guess what an ordinary script holds, from its name and then from its text. -/
def Colocated.ofFile (fileName : String) (content : Option String) : Colocated :=
  let base := Text.lowerChars (splitFileName fileName).1.toList
  let named (piece : String) : Bool := Text.contains piece.toList base
  if named "component" then .component
  else if named "util" || named "helper" then .utility
  else if named "hook" || "use".toList.isPrefixOf base then .hook
  else if named "type" || named "interface" then .types
  else if named "constant" || named "config" then .constants
  else
    let text := (content.getD "").toList
    let holds (piece : String) : Bool := Text.contains piece.toList text
    if holds "export default" && holds "return" then .component
    else if holds "useState" || holds "useEffect" then .hook
    else .module

/-- The role of a file and what its text adds. -/
def FileAnalysis.ofFile (fileName : String) (content : Option String) : FileAnalysis :=
  let (base, extension) := splitFileName fileName
  match metadataKind? fileName with
  | some kind => { role := .metadata kind, baseName := base }
  | none =>
    if routeExtensions.contains extension then
      match RouteFile.all.find? fun file => file.baseName == base with
      | none => { role := .script (.ofFile fileName content), baseName := base }
      | some .endpoint =>
        let text := content.getD ""
        { role := .routeFile .endpoint, baseName := base, methods := exportedMethods text,
          actions := serverActions text }
      | some file => { role := .routeFile file, baseName := base }
    else { role := .asset, baseName := base }

namespace FileAnalysis

/-- The reserved route file that a file is. -/
def routeFile? (analysis : FileAnalysis) : Option RouteFile :=
  match analysis.role with
  | .routeFile file => some file
  | _ => none

/-- The name of the role. -/
def label (analysis : FileAnalysis) : String :=
  match analysis.role with
  | .metadata _ => "metadata-file"
  | .routeFile file => file.label
  | .script _ => "component-file"
  | .asset => "regular-file"

/-- The role as a title. -/
def purpose (analysis : FileAnalysis) : String :=
  match analysis.role with
  | .metadata _ => "Metadata"
  | .routeFile file => file.purpose
  | .script _ => "Component/Utility"
  | .asset => "Asset/Config"

/-- The role in a sentence. -/
def description (analysis : FileAnalysis) : String :=
  match analysis.role with
  | .metadata kind => "Route metadata (" ++ kind ++ ")"
  | .routeFile file =>
    if analysis.methods.isEmpty then file.description
    else "API endpoint: " ++ ", ".intercalate analysis.methods
  | .script _ => "React component or utility file"
  | .asset => "Non-route file"

end FileAnalysis

end SiteAtlas.Routing
