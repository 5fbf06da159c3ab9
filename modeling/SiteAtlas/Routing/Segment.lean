import SiteAtlas.Text.Basic

/-! # Folder names as route segments

The name of a folder below the router root decides what it means for the URLs below it. The
spelling rules are tried in a fixed order, and every other name is a static segment.
-/

namespace SiteAtlas.Routing

/-- How far above its own place an intercepting folder looks for the route it shows. -/
inductive InterceptLevel where
  | sameLevel
  | oneLevelUp
  | twoLevelsUp
  | fromRoot
  deriving DecidableEq

/-- What a folder means for the routes below it. -/
inductive Segment where
  | static
  | group (inner : String)
  | privateFolder
  | dynamic (param : String)
  | catchAll (param : String)
  | optionalCatchAll (param : String)
  | parallel (slot : String)
  | intercepting (level : InterceptLevel) (target : String)
  deriving DecidableEq

namespace InterceptLevel

/-- The level of a run of markers; an unusual run counts as the same level. -/
def ofMarkers (markers : List Nat) : InterceptLevel :=
  match markers with
  | [2] => oneLevelUp
  | [2, 2] => twoLevelsUp
  | [3] => fromRoot
  | _ => sameLevel

/-- The name of a level. -/
def label : InterceptLevel → String
  | sameLevel => "same-level"
  | oneLevelUp => "one-level-up"
  | twoLevelsUp => "two-levels-up"
  | fromRoot => "from-root"

/-- What a level means, in words. -/
def description : InterceptLevel → String
  | sameLevel => "Intercepts routes at the same level"
  | oneLevelUp => "Intercepts routes one level above"
  | twoLevelsUp => "Intercepts routes two levels above"
  | fromRoot => "Intercepts routes from the root"

end InterceptLevel

/-- The markers `(.)`, `(..)` and `(...)` in front of a name, by their number of dots, and the
rest. -/
def spanMarkers : List Char → List Nat × List Char
  | '(' :: '.' :: ')' :: rest => let (more, tail) := spanMarkers rest; (1 :: more, tail)
  | '(' :: '.' :: '.' :: ')' :: rest => let (more, tail) := spanMarkers rest; (2 :: more, tail)
  | '(' :: '.' :: '.' :: '.' :: ')' :: rest =>
    let (more, tail) := spanMarkers rest; (3 :: more, tail)
  | rest => ([], rest)

/-- A name in one line, without the line feed that may end it; nothing if it has several lines. -/
def singleLine? (name : List Char) : Option (List Char) :=
  match name.dropWhile (· != '\n') with
  | [] => some name
  | ['\n'] => some name.dropLast
  | _ => none

/-- What stands between an opening and a closing character that enclose the whole name. -/
def enclosed? (opening closing : Char) (name : List Char) : Option (List Char) :=
  match name with
  | [] => none
  | first :: rest =>
    if first = opening ∧ rest.getLast? = some closing then some rest.dropLast else none

/-- The meaning of a folder name inside square brackets. -/
def ofBrackets (inner : List Char) : Segment :=
  match Text.after? ['[', '.', '.', '.'] inner with
  | some rest =>
    if rest.getLast? = some ']' then .optionalCatchAll (String.ofList rest.dropLast)
    else .dynamic (String.ofList inner)
  | none =>
    match Text.after? ['.', '.', '.'] inner with
    | some param => .catchAll (String.ofList param)
    | none => .dynamic (String.ofList inner)

/-- The meaning of a folder name that starts with no intercept marker. -/
def ofPlain (name : List Char) : Segment :=
  match enclosed? '(' ')' name with
  | some inner => .group (String.ofList inner)
  | none =>
    if name.head? = some '_' then .privateFolder
    else
      match enclosed? '[' ']' name with
      | some inner => ofBrackets inner
      | none =>
        match name with
        | '@' :: slot => .parallel (String.ofList slot)
        | _ => .static

/-- The meaning of a folder name. -/
def Segment.ofName (name : String) : Segment :=
  let chars := name.toList
  match spanMarkers chars with
  | ([], _) => ofPlain chars
  | (markers, rest) =>
    match singleLine? rest with
    | some target => .intercepting (.ofMarkers markers) (String.ofList target)
    | none => ofPlain chars

namespace Segment

/-- Whether a folder leaves no trace in the URL. -/
def isTransparent : Segment → Bool
  | group _ | privateFolder | parallel _ | intercepting _ _ => true
  | _ => false

/-- Whether a folder stands for a parameter. -/
def isParameter : Segment → Bool
  | dynamic _ | catchAll _ | optionalCatchAll _ => true
  | _ => false

/-- The name of the kind of segment. -/
def label : Segment → String
  | static => "static-route"
  | group _ => "route-group"
  | privateFolder => "private-folder"
  | dynamic _ => "dynamic-route"
  | catchAll _ => "catch-all-route"
  | optionalCatchAll _ => "optional-catch-all-route"
  | parallel _ => "parallel-route"
  | intercepting _ _ => "intercepting-route"

/-- The kind of segment, as a title. -/
def title : Segment → String
  | static => "Static Route"
  | group _ => "Route Group"
  | privateFolder => "Private Folder"
  | dynamic _ => "Dynamic Route"
  | catchAll _ => "Catch-all Route"
  | optionalCatchAll _ => "Optional Catch-all Route"
  | parallel _ => "Parallel Route"
  | intercepting _ _ => "Intercepting Route"

/-- What the folder called `name` does to URLs. -/
def urlEffect (name : String) : Segment → String
  | static => "Matches /route/" ++ name
  | group _ => "No URL impact"
  | privateFolder => "Not routable"
  | dynamic _ => "Matches /route/123, /route/abc"
  | catchAll _ => "Matches /route/a/b/c"
  | optionalCatchAll _ => "Matches /route and /route/a/b/c"
  | parallel _ => "Named slot"
  | intercepting _ _ => "Modal/overlay behavior"

/-- The kind of segment in a sentence. -/
def description : Segment → String
  | static => "Static path segment"
  | group _ => "Groups routes for organization without affecting URL structure"
  | privateFolder => "Private implementation detail, excluded from routing"
  | dynamic _ => "Matches a single dynamic path segment"
  | catchAll _ => "Matches one or more path segments"
  | optionalCatchAll _ => "Matches zero or more path segments"
  | parallel _ => "Renders content in parallel with the main page"
  | intercepting level _ => level.description

/-- The name under which the folder called `name` is shown. -/
def displayName (name : String) : Segment → String
  | group inner => inner
  | _ => name

/-- The parameter that the folder stands for. -/
def paramName? : Segment → Option String
  | dynamic param | catchAll param | optionalCatchAll param => some param
  | _ => none

/-- The slot that the folder fills. -/
def slotName? : Segment → Option String
  | parallel slot => some slot
  | _ => none

end Segment

end SiteAtlas.Routing
