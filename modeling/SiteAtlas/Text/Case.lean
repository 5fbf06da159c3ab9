import SiteAtlas.Text.CaseTable
import SiteAtlas.Text.Class

/-! # Small letters

`lowerChars` writes a text in small letters. Each character is mapped by itself, except that a
capital sigma at the end of a word becomes a final sigma.
-/

namespace SiteAtlas.Text

/-- The small form of a character, other than a capital sigma. -/
def lowerChar (c : Char) : List Char :=
  if c.toNat < 128 then [c.toLower]
  else if c.toNat = 0x130 then ['i', Char.ofNat 0x307]
  else
    match lowerRuns.find? fun (first, last, _) => first ≤ c.toNat && c.toNat ≤ last with
    | some (first, last, step, small) =>
      if (c.toNat - first) % step = 0 then [Char.ofNat (small - (last - c.toNat))] else [c]
    | none => [c]

/-- Whether a character has a case. -/
def isCased (c : Char) : Bool :=
  if c.toNat < 128 then c.isAlpha else inRanges casedRanges c.toNat

/-- Whether the case of a word passes over a character, as over an apostrophe. -/
def isCaseIgnorable (c : Char) : Bool :=
  if c.toNat < 128 then [Char.ofNat 39, '.', ':', '^', Char.ofNat 0x60].contains c
  else inRanges caseIgnorableRanges c.toNat

/-- Whether a word goes on: the next character that counts has a case. -/
def wordGoesOn (rest : List Char) : Bool :=
  match rest.dropWhile isCaseIgnorable with
  | c :: _ => isCased c
  | [] => false

/-- Small letters of a text that follows a cased character or not. -/
def lowerFrom (afterCased : Bool) : List Char → List Char
  | [] => []
  | c :: rest =>
    let small :=
      if c.toNat = 0x3A3 then
        if afterCased && !wordGoesOn rest then [Char.ofNat 0x3C2] else [Char.ofNat 0x3C3]
      else lowerChar c
    let next := if isCaseIgnorable c then afterCased else isCased c
    small ++ lowerFrom next rest

/-- A text in small letters. -/
def lowerChars (text : List Char) : List Char := lowerFrom false text

/-- A text in small letters. -/
def lower (text : String) : String := String.ofList (lowerChars text.toList)

end SiteAtlas.Text
