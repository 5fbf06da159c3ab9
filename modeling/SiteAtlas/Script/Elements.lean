import SiteAtlas.Script.Types

/-! # Elements in angle brackets

Between its tags an element holds text as it stands, expressions in braces and other elements.
-/

namespace SiteAtlas.Script

/-- Whether a character belongs to the name of an element or an attribute. -/
def isElementNamePart (c : Char) : Bool := isNamePart c || c = '-' || c = ':' || c = '.'

/-- The name of an element or an attribute. -/
def elementName : Step := fun s =>
  let s := s.skip
  let name := s.rest.takeWhile isElementNamePart
  if name.isEmpty then none else some (s.takeLeaf .other name.length)

/-- A text in quotes in a tag, where a backslash has no meaning. -/
def elementString : Step := fun s =>
  let s := s.skip
  match s.rest with
  | mark :: rest =>
    let length := (rest.takeWhile (· != mark)).length
    if (rest.drop length).isEmpty then none else some (s.takeLeaf .string (length + 2))
  | [] => none

/-- An expression in braces, which may be missing. -/
def inBraces (g : Grammar) : Step :=
  asNode .group (inOrder [eat "\x7b",
    whenSeen (fun s => !s.sees "\x7d") (inOrder [eatIf "...", g.expression]), eat "\x7d"])

/-- The value of an attribute. -/
def attributeValue (g : Grammar) : Step := fun s =>
  if s.seesString then elementString s
  else if s.sees "\x7b" then inBraces g s
  else g.parse .element s

/-- An attribute. -/
def elementAttribute (g : Grammar) : Step := fun s =>
  if s.sees "\x7b" then inBraces g s
  else
    inOrder [elementName, whenSeen (·.sees "=") (inOrder [eat "=", attributeValue g])] s

/-- What stands between the tags of an element, up to the closing tag. -/
def elementContent (g : Grammar) : (bound : Nat) → Step
  | 0, _ => none
  | bound + 1, s =>
    let s : Reader := ⟨s.rest.dropWhile fun c => !"\x7b\x7d<>".toList.contains c, s.out, false⟩
    if s.rest.head? = some '<' then
      if (s.after (eat "<")).sees "/" then some s
      else
        match g.parse .element s with
        | some t => elementContent g bound t
        | none => none
    else
      match inBraces g s with
      | some t => elementContent g bound t
      | none => none

/-- An element. -/
def elementRule (g : Grammar) : Step :=
  asNode .group (inOrder
    [eat "<",
      whenSeen (fun s => !s.sees ">") (inOrder [elementName,
        whenSeen (fun s => g.types && s.sees "<") (typeArguments g),
        repeatUntil (fun s => s.seesAny [">", "/"]) (elementAttribute g) g.bound]),
      fun s =>
        if s.sees "/" then inOrder [eat "/", eat ">"] s
        else
          inOrder [eat ">", elementContent g g.bound, eat "<", eat "/",
            whenSeen (fun s => !s.sees ">") elementName, eat ">"] s])

end SiteAtlas.Script
