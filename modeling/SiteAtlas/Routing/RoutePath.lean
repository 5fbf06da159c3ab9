import SiteAtlas.Routing.Segment

/-! # Route paths

The URL of a folder grows from that of its parent: transparent folders add nothing, the router root
adds nothing while nothing was added before it, and every other folder adds a slash and its name.
-/

namespace SiteAtlas.Routing

/-- The folder whose contents are routed, unless settings name another. -/
def defaultRouterRoot : String := "app"

/-- What a folder called `name` is written as in a URL, a parameter back between its brackets;
nothing if the folder leaves no trace there. -/
def Segment.written? (name : String) : Segment → Option String
  | static => some name
  | dynamic param => some ("[" ++ param ++ "]")
  | catchAll param => some ("[..." ++ param ++ "]")
  | optionalCatchAll param => some ("[[..." ++ param ++ "]]")
  | group _ | privateFolder | parallel _ | intercepting _ _ => none

/-- The URL of the folder called `name` under a folder whose URL is `base`. -/
def extendRoute (routerRoot base name : String) : String :=
  let segment := Segment.ofName name
  match segment.written? name with
  | none => base
  | some text =>
    if segment = .static ∧ name = routerRoot ∧ base = "" then "" else base ++ "/" ++ text

/-- A relative path with forward slashes only, and none at its ends. -/
def tidyPath (relative : String) : String :=
  String.ofList (Text.stripChar '/' (relative.toList.map fun c => if c = '\\' then '/' else c))

/-- Whether a relative path is the router root or lies below it. -/
def isInScope (routerRoot relative : String) : Bool :=
  let path := (tidyPath relative).toList
  path == routerRoot.toList || (routerRoot.toList ++ ['/']).isPrefixOf path

/-- A text cut at every slash. -/
def segments (path : String) : List String := (path.toList.splitOn '/').map String.ofList

/-- The last of the names of the router root. -/
def rootName (routerRoot : String) : String := (segments routerRoot).getLastD ""

/-- The URL of a folder, from its path in the project alone; nothing outside the router root. -/
def routePath? (routerRoot relative : String) : Option String :=
  let path := tidyPath relative
  if isInScope routerRoot path then
    let depth := (segments (String.ofList (Text.stripChar '/' routerRoot.toList))).length
    some (((segments path).drop (depth - 1)).foldl (extendRoute (rootName routerRoot)) "")
  else none

/-- The URL as shown: that of the router root is a slash. -/
def displayRoute (route : String) : String := if route = "" then "/" else route

/-- How an API route answers: at one URL, at one URL per parameter, or at everything below. -/
inductive EndpointKind where
  | static
  | dynamic
  | catchAll
  deriving DecidableEq

/-- The kind of API route at a URL. -/
def EndpointKind.ofRoute (route : String) : EndpointKind :=
  let chars := route.toList
  if chars.contains '[' && chars.contains ']' then
    if Text.contains "[...".toList chars then .catchAll else .dynamic
  else .static

/-- The name of a kind of API route. -/
def EndpointKind.label : EndpointKind → String
  | static => "static-api"
  | dynamic => "dynamic-api"
  | catchAll => "catch-all-api"

end SiteAtlas.Routing
