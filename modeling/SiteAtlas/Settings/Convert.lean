import SiteAtlas.Value.Literal
import SiteAtlas.Text.Basic
import SiteAtlas.Text.Case
import SiteAtlas.Text.Class

/-! # Reading settings

A setting has a declared kind, and a value of another kind is converted where that makes sense. A
value that cannot be converted is passed over and the setting keeps its default. Only a number too
large for the kind asked for stops the reading.
-/

namespace SiteAtlas.Settings

/-- Why a table cannot be read as settings. -/
inductive ReadError where
  /-- A whole number is too large for a binary64 one. -/
  | numberTooLarge
  /-- An infinite number is asked for as a whole one. -/
  | infinite
  deriving DecidableEq

/-- The text of an error. -/
def ReadError.message : ReadError → String
  | numberTooLarge => "int too large to convert to float"
  | infinite => "cannot convert float infinity to integer"

/-- A converted value, nothing if the value does not fit, or an error. -/
abbrev Converted (β : Type) := Except ReadError (Option β)

/-- The digits of a text of decimal digits, with single underscores only between two of them, and
what follows. `after` says whether a digit came just before. -/
def spanDigits (after : Bool) : List Char → List Nat × List Char
  | [] => ([], [])
  | '_' :: c :: rest =>
    match after, Text.digitValue? c with
    | true, some d => let (more, tail) := spanDigits true rest; (d :: more, tail)
    | _, _ => ([], '_' :: c :: rest)
  | c :: rest =>
    match Text.digitValue? c with
    | some d => let (more, tail) := spanDigits true rest; (d :: more, tail)
    | none => ([], c :: rest)

/-- The number that a list of digits spells. -/
def ofDigits (digits : List Nat) : Nat := digits.foldl (fun n d => n * 10 + d) 0

/-- A sign in front of a text, and the rest. -/
def readSign : List Char → Bool × List Char
  | '-' :: rest => (true, rest)
  | '+' :: rest => (false, rest)
  | text => (false, text)

/-- Whether a character may stand around a number: a blank that is no information separator. -/
def isNumberBlank (c : Char) : Bool := Text.isBlank c && !(28 ≤ c.toNat && c.toNat ≤ 31)

/-- A text without what may stand around a number. -/
def trimNumber (text : List Char) : List Char :=
  ((text.dropWhile isNumberBlank).reverse.dropWhile isNumberBlank).reverse

/-- The whole number that a text spells, if it has not too many digits. -/
def wholeOfText? (text : String) : Option Int :=
  let (negative, unsigned) := readSign (trimNumber text.toList)
  let (digits, rest) := spanDigits false unsigned
  if digits.isEmpty || !rest.isEmpty || digits.length > Value.digitLimit then none
  else some (if negative then -(ofDigits digits : Int) else ofDigits digits)

/-- The exponent that a text spells, which must end there; zero for no text. -/
def exponentOfText? (text : List Char) : Option Int :=
  match text with
  | [] => some 0
  | e :: rest =>
    if e = 'e' ∨ e = 'E' then
      let (negative, unsigned) := readSign rest
      let (digits, tail) := spanDigits false unsigned
      if digits.isEmpty || !tail.isEmpty then none
      else some (if negative then -(ofDigits digits : Int) else ofDigits digits)
    else none

/-- The binary64 number that a text spells. -/
def realOfText? (text : String) : Option Float :=
  let (negative, unsigned) := readSign (trimNumber text.toList)
  let word := Text.lowerChars unsigned
  if word = "inf".toList ∨ word = "infinity".toList then
    some (if negative then -1.0 / 0.0 else 1.0 / 0.0)
  else if word = "nan".toList then some (0.0 / 0.0)
  else
    let (digits, rest) := spanDigits false unsigned
    let (fraction, tail) := match rest with
      | '.' :: rest => spanDigits false rest
      | rest => ([], rest)
    if digits.isEmpty && fraction.isEmpty then none
    else (exponentOfText? tail).map fun power =>
      Binary64.ofDecimal negative (ofDigits (digits ++ fraction)) (power - fraction.length)

/-- The binary64 number nearest to a whole one, if there is one in range. -/
def realOfWhole (n : Int) : Converted Float :=
  let x := Binary64.ofInt n
  if x.isInf then .error .numberTooLarge else .ok (some x)

/-- The whole part of a binary64 number. -/
def wholeOfReal (x : Float) : Converted Int :=
  match Dyadic.ofFloat x with
  | none => if x.isNaN then .ok none else .error .infinite
  | some d =>
    let (top, bottom) := d.ratio
    .ok (some (if d.negative then -(top / bottom : Nat) else (top / bottom : Nat)))

/-- A value as a binary64 number. -/
def toReal : Value → Converted Float
  | .number (.whole n) => realOfWhole n
  | .number (.real x) => .ok (some x)
  | .text s => .ok (realOfText? s)
  | _ => .ok none

/-- A value as a whole number. -/
def toWhole : Value → Converted Int
  | .number (.whole n) => .ok (some n)
  | .number (.real x) => wholeOfReal x
  | .text s => .ok (wholeOfText? s)
  | _ => .ok none

/-- A value as a truth value. -/
def toBool? : Value → Option Bool
  | .bool b => some b
  | .number (.whole n) => some (n != 0)
  | .text s =>
    let word := String.ofList (Text.lowerChars (Text.trim s.toList))
    if ["true", "yes", "on", "1"].contains word then some true
    else if ["false", "no", "off", "0"].contains word then some false
    else none
  | _ => none

/-- The items of a text separated by commas, without blanks around them and without empty ones. -/
def splitItems (text : String) : List String :=
  ((text.toList.splitOn ',').map Text.trim).filterMap fun item =>
    if item.isEmpty then none else some (String.ofList item)

/-- A value as a text; a number with too many digits has none. -/
def toText? (value : Value) : Option String :=
  if value.isWritable then some value.display else none

/-- A value as a list of texts. -/
def toTexts? : Value → Option (List String)
  | .text s => some (splitItems s)
  | .list items => items.mapM toText?
  | _ => none

/-- The number under a key, or the default. -/
def number (fields : Fields) (key : String) (default : Number) : Except ReadError Number :=
  match fields.get? key with
  | none => .ok default
  | some value => (toReal value).map fun x => (x.map Number.real).getD default

/-- The whole number under a key, or the default. -/
def whole (fields : Fields) (key : String) (default : Int) : Except ReadError Int :=
  match fields.get? key with
  | none => .ok default
  | some value => (toWhole value).map fun n => n.getD default

/-- The truth value under a key, or the default. -/
def flag (fields : Fields) (key : String) (default : Bool) : Bool :=
  ((fields.get? key).bind toBool?).getD default

/-- The text under a key, or the default. -/
def text (fields : Fields) (key : String) (default : String) : String :=
  ((fields.get? key).bind toText?).getD default

/-- The list of texts under a key, or the default. -/
def texts (fields : Fields) (key : String) (default : List String) : List String :=
  ((fields.get? key).bind toTexts?).getD default

end SiteAtlas.Settings
