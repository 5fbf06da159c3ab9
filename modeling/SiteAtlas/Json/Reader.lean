import SiteAtlas.Value.Basic

/-! # Reading JSON

`read?` accepts one value with blanks around it. Beyond the standard it knows `NaN`, `Infinity` and
`-Infinity`; a number without a fraction and an exponent is whole. A key that is written twice
keeps its first place and its last value.
-/

namespace SiteAtlas.Json

/-- The text after the blanks in front. -/
def skipBlanks (text : List Char) : List Char :=
  text.dropWhile fun c => c = ' ' || c = '\t' || c = '\n' || c = '\r'

/-- The value of a hexadecimal digit. -/
def hexValue? (c : Char) : Option Nat :=
  if '0' ≤ c ∧ c ≤ '9' then some (c.toNat - 48)
  else if 'a' ≤ c ∧ c ≤ 'f' then some (c.toNat - 87)
  else if 'A' ≤ c ∧ c ≤ 'F' then some (c.toNat - 55)
  else none

/-- The value of four hexadecimal digits. -/
def unit? (a b c d : Char) : Option Nat := do
  return (← hexValue? a) * 4096 + (← hexValue? b) * 256 + (← hexValue? c) * 16 + (← hexValue? d)

/-- The character of one UTF-16 unit; half of a pair on its own has none and is replaced. -/
def charOfUnit (unit : Nat) : Char :=
  if 0xD800 ≤ unit ∧ unit < 0xE000 then Char.ofNat 0xFFFD else Char.ofNat unit

/-- The text up to the closing quote, given what was read of it in reverse, and what follows. -/
def readQuoted (done : List Char) : List Char → Option (String × List Char)
  | [] => none
  | '"' :: rest => some (String.ofList done.reverse, rest)
  | '\\' :: 'u' :: a :: b :: c :: d :: '\\' :: 'u' :: e :: f :: g :: h :: rest =>
    match unit? a b c d, unit? e f g h with
    | some high, some low =>
      if 0xD800 ≤ high ∧ high < 0xDC00 ∧ 0xDC00 ≤ low ∧ low < 0xE000 then
        readQuoted (Char.ofNat (0x10000 + (high - 0xD800) * 1024 + (low - 0xDC00)) :: done) rest
      else readQuoted (charOfUnit high :: done) ('\\' :: 'u' :: e :: f :: g :: h :: rest)
    | _, _ => none
  | '\\' :: 'u' :: a :: b :: c :: d :: rest =>
    match unit? a b c d with
    | some unit => readQuoted (charOfUnit unit :: done) rest
    | none => none
  | '\\' :: mark :: rest =>
    match mark with
    | '"' => readQuoted ('"' :: done) rest
    | '\\' => readQuoted ('\\' :: done) rest
    | '/' => readQuoted ('/' :: done) rest
    | 'b' => readQuoted (Char.ofNat 8 :: done) rest
    | 'f' => readQuoted (Char.ofNat 12 :: done) rest
    | 'n' => readQuoted ('\n' :: done) rest
    | 'r' => readQuoted ('\r' :: done) rest
    | 't' => readQuoted ('\t' :: done) rest
    | _ => none
  | c :: rest => if c.toNat < 32 then none else readQuoted (c :: done) rest

/-- The number that a list of decimal digits spells. -/
def digitsValue (digits : List Char) : Nat :=
  digits.foldl (fun n c => n * 10 + (c.toNat - 48)) 0

/-- The digits in front of a text, and the rest. -/
def spanDigits (text : List Char) : List Char × List Char :=
  (text.takeWhile Char.isDigit, text.dropWhile Char.isDigit)

/-- The digits after a point, if there are any. -/
def readFraction (text : List Char) : List Char × List Char :=
  match text with
  | '.' :: rest => if (spanDigits rest).1.isEmpty then ([], text) else spanDigits rest
  | _ => ([], text)

/-- The exponent, if there is one. -/
def readExponent (text : List Char) : Option Int × List Char :=
  match text with
  | e :: rest =>
    if e = 'e' ∨ e = 'E' then
      let (negative, unsigned) := match rest with
        | '-' :: unsigned => (true, unsigned)
        | '+' :: unsigned => (false, unsigned)
        | unsigned => (false, unsigned)
      let (digits, after) := spanDigits unsigned
      if digits.isEmpty then (none, text)
      else (some (if negative then -(digitsValue digits : Int) else digitsValue digits), after)
    else (none, text)
  | [] => (none, text)

/-- A number and what follows. -/
def readNumber (text : List Char) : Option (Number × List Char) :=
  let (negative, unsigned) := match text with
    | '-' :: unsigned => (true, unsigned)
    | unsigned => (false, unsigned)
  let leading := match unsigned with
    | '0' :: rest => some (['0'], rest)
    | _ => if (spanDigits unsigned).1.isEmpty then none else some (spanDigits unsigned)
  match leading with
  | none => none
  | some (digits, afterDigits) =>
    let (fraction, afterFraction) := readFraction afterDigits
    let (power, rest) := readExponent afterFraction
    if fraction.isEmpty && power.isNone then
      some (.whole (if negative then -(digitsValue digits : Int) else digitsValue digits), rest)
    else
      let exponent := power.getD 0 - fraction.length
      some (.real (Binary64.ofDecimal negative (digitsValue (digits ++ fraction)) exponent), rest)

/-- A word that stands for a value. -/
def readWord (text : List Char) : Option (Value × List Char) :=
  let words : List (String × Value) :=
    [("null", .null), ("true", .bool true), ("false", .bool false),
      ("NaN", .number (.real (0.0 / 0.0))), ("Infinity", .number (.real (1.0 / 0.0))),
      ("-Infinity", .number (.real (-1.0 / 0.0)))]
  words.findSome? fun (word, value) =>
    if word.toList.isPrefixOf text then some (value, text.drop word.length) else none

mutual

/-- A value at the front of a text, and what follows. The first argument bounds the nesting. -/
def readValue : Nat → List Char → Option (Value × List Char)
  | 0, _ => none
  | fuel + 1, text =>
    match text with
    | '"' :: rest => (readQuoted [] rest).map fun (s, after) => (.text s, after)
    | '[' :: rest =>
      match skipBlanks rest with
      | ']' :: after => some (.list [], after)
      | first => (readItems fuel [] first).map fun (items, after) => (.list items, after)
    | '{' :: rest =>
      match skipBlanks rest with
      | '}' :: after => some (.table [], after)
      | first => (readFields fuel [] first).map fun (fields, after) => (.table fields, after)
    | _ =>
      match readWord text with
      | some found => some found
      | none => (readNumber text).map fun (n, after) => (.number n, after)

/-- The items of a list from the one at the front of the text on, and what follows the bracket. -/
def readItems : Nat → List Value → List Char → Option (List Value × List Char)
  | 0, _, _ => none
  | fuel + 1, done, text =>
    match readValue fuel text with
    | none => none
    | some (item, after) =>
      match skipBlanks after with
      | ',' :: rest => readItems fuel (item :: done) (skipBlanks rest)
      | ']' :: rest => some ((item :: done).reverse, rest)
      | _ => none

/-- The fields of a table from the one at the front of the text on, and what follows the brace. -/
def readFields : Nat → Fields → List Char → Option (Fields × List Char)
  | 0, _, _ => none
  | fuel + 1, done, text =>
    match text with
    | '"' :: rest =>
      match readQuoted [] rest with
      | none => none
      | some (key, afterKey) =>
        match skipBlanks afterKey with
        | ':' :: afterColon =>
          match readValue fuel (skipBlanks afterColon) with
          | none => none
          | some (item, after) =>
            match skipBlanks after with
            | ',' :: rest => readFields fuel (done.set key item) (skipBlanks rest)
            | '}' :: rest => some (done.set key item, rest)
            | _ => none
        | _ => none
    | _ => none

end

/-- The value that a text holds, with nothing but blanks around it. -/
def read? (text : String) : Option Value :=
  let chars := skipBlanks text.toList
  match readValue (chars.length + 1) chars with
  | some (value, rest) => if (skipBlanks rest).isEmpty then some value else none
  | none => none

end SiteAtlas.Json
