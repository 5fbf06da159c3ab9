import SiteAtlas.Settings.Convert

/-! # Numbers, dates and flags of TOML

A word that stands for a value without quotes. Flags are written in lower case; all items of one
list have to be of one kind, so every value has a kind here.
-/

namespace SiteAtlas.Toml

/-- The kinds of values that a list may hold. -/
inductive Kind where
  | flag
  | text
  | list
  | table
  | time
  | date
  | whole
  | real
  deriving DecidableEq

/-- The digits in front of a text, exactly `count` of them, and the rest. -/
def takeDigits? (count : Nat) (text : List Char) : Option (Nat × List Char) :=
  let front := text.take count
  if front.length = count && front.all Char.isDigit then
    some (Settings.ofDigits (front.map fun c => c.toNat - 48), text.drop count)
  else none

/-- The length of a month. -/
def daysIn (year month : Nat) : Nat :=
  if month = 2 then if year % 4 = 0 && (year % 100 != 0 || year % 400 = 0) then 29 else 28
  else if [4, 6, 9, 11].contains month then 30
  else 31

/-- A date in front of a text: year, month and day with dashes between them. -/
def takeDate? (text : List Char) : Option (List Char × List Char) := do
  let (year, rest) ← takeDigits? 4 text
  let (month, rest) ← takeDigits? 2 (← Text.after? ['-'] rest)
  let (day, rest) ← takeDigits? 2 (← Text.after? ['-'] rest)
  if 1 ≤ year && 1 ≤ month && month ≤ 12 && 1 ≤ day && day ≤ daysIn year month then
    some (text.take 10, rest)
  else none

/-- A time of day in front of a text: hour, minute and second with colons between them. -/
def takeTime? (text : List Char) : Option (List Char × List Char) := do
  let (hour, rest) ← takeDigits? 2 text
  let (minute, rest) ← takeDigits? 2 (← Text.after? [':'] rest)
  let (second, rest) ← takeDigits? 2 (← Text.after? [':'] rest)
  if hour < 24 && minute < 60 && second < 60 then some (text.take 8, rest) else none

/-- The fraction of a second in front of a text, as six digits behind a point; nothing is written
for a whole second. -/
def takeFraction (text : List Char) : List Char × List Char :=
  match text with
  | '.' :: rest =>
    let digits := (rest.takeWhile Char.isDigit).take 6
    let padded := digits ++ List.replicate (6 - digits.length) '0'
    (if padded.all (· = '0') then [] else '.' :: padded, rest.dropWhile Char.isDigit)
  | _ => ([], text)

/-- The offset from universal time that a text is. -/
def offset? (text : List Char) : Option (List Char) :=
  match text with
  | [] => some []
  | ['Z'] | ['z'] => some "+00:00".toList
  | sign :: rest => do
    let (_, after) ← takeDigits? 2 rest
    let (_, tail) ← takeDigits? 2 (← Text.after? [':'] after)
    if tail.isEmpty && (sign = '+' || sign = '-') then some text else none

/-- The text of a date with or without a time of day. -/
def dateOfWord? (word : List Char) : Option String := do
  let (date, rest) ← takeDate? word
  match rest with
  | [] => some (String.ofList date)
  | _ :: rest =>
    let (time, rest) ← takeTime? rest
    let (fraction, rest) := takeFraction rest
    let offset ← offset? rest
    some (String.ofList (date ++ [' '] ++ time ++ fraction ++ offset))

/-- The text of a time of day. -/
def timeOfWord? (word : List Char) : Option String := do
  let (time, rest) ← takeTime? word
  let (fraction, _) := takeFraction rest
  some (String.ofList (time ++ fraction))

/-- The value of a digit in a base. -/
def digitIn? (base : Nat) (c : Char) : Option Nat :=
  let value :=
    if c.isDigit then some (c.toNat - 48)
    else if 'a' ≤ c && c ≤ 'f' then some (c.toNat - 87)
    else if 'A' ≤ c && c ≤ 'F' then some (c.toNat - 55)
    else none
  value.filter (· < base)

/-- The number that digits in a base spell. -/
def wholeIn? (base : Nat) (digits : List Char) : Option Nat :=
  if digits.isEmpty then none
  else (digits.mapM (digitIn? base)).map fun values => values.foldl (fun n d => n * base + d) 0

/-- The whole number that a word without a sign spells. In base ten there must not be too many
digits, and only zero starts with a zero. -/
def wholeOfWord? (word : List Char) : Option Nat :=
  match word with
  | '0' :: mark :: digits =>
    if mark = 'x' || mark = 'X' then wholeIn? 16 digits
    else if mark = 'o' || mark = 'O' then wholeIn? 8 digits
    else if mark = 'b' || mark = 'B' then wholeIn? 2 digits
    else if word.all (· = '0') && word.length ≤ Value.digitLimit then some 0
    else none
  | _ => if word.length ≤ Value.digitLimit then wholeIn? 10 word else none

/-- The number that a word spells. -/
def numberOfWord? (word : List Char) : Option (Number × Kind) :=
  let (negative, rest) := Settings.readSign word
  let digits := rest.filter (· != '_')
  let lower := Text.lowerChars digits
  let real (x : Float) : Number × Kind := (.real (if negative then 0 - x else x), .real)
  if digits.contains '.' || (!digits.contains 'x' && (digits.contains 'e' || digits.contains 'E'))
  then
    let isComplete := match digits.dropWhile (· != '.') with
      | ['.'] => false
      | _ => (digits.head?.map Char.isDigit).getD false
    if isComplete then (Settings.realOfText? (String.ofList digits)).map real else none
  else if lower = "inf".toList || lower = "nan".toList then
    (Settings.realOfText? (String.ofList digits)).map real
  else
    (wholeOfWord? digits).map fun n => (.whole (if negative then -(n : Int) else n), .whole)

/-- The value of a word without quotes. -/
def valueOfWord? (word : List Char) : Option (Value × Kind) :=
  if word = "true".toList then some (.bool true, .flag)
  else if word = "false".toList then some (.bool false, .flag)
  else
    match timeOfWord? word with
    | some time => some (.moment time, .time)
    | none =>
      match dateOfWord? word with
      | some date => some (.moment date, .date)
      | none => (numberOfWord? word).map fun (n, kind) => (.number n, kind)

end SiteAtlas.Toml
