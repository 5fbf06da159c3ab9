/-! # Bytes and texts

Reading UTF-8. A piece of bytes that begins a character but does not complete it is one mistake;
so is every byte that can begin none.
-/

namespace SiteAtlas.Text

/-- What is known of a character whose bytes have not all been read. -/
structure PartialChar where
  /-- How many bytes are missing. -/
  missing : Nat
  /-- The bits so far. -/
  bits : Nat
  /-- The least next byte. -/
  low : Nat
  /-- The greatest next byte. -/
  high : Nat

/-- What a first byte says. -/
inductive FirstByte where
  | char (c : Char)
  | partly (p : PartialChar)
  | none

/-- What a byte says that is read as the first one of a character. -/
def FirstByte.ofByte (byte : UInt8) : FirstByte :=
  let n := byte.toNat
  if n < 0x80 then .char (Char.ofNat n)
  else if n < 0xC2 then .none
  else if n < 0xE0 then .partly ⟨1, n - 0xC0, 0x80, 0xBF⟩
  else if n < 0xF0 then
    .partly ⟨2, n - 0xE0, if n = 0xE0 then 0xA0 else 0x80, if n = 0xED then 0x9F else 0xBF⟩
  else if n < 0xF5 then
    .partly ⟨3, n - 0xF0, if n = 0xF0 then 0x90 else 0x80, if n = 0xF4 then 0x8F else 0xBF⟩
  else .none

/-- What stands for a mistake. -/
def replacement : Char := Char.ofNat 0xFFFD

/-- Read the first byte of a character, behind the characters `done`, last first. -/
def readFirst (done : List Char) (byte : UInt8) : List Char × Option PartialChar :=
  match FirstByte.ofByte byte with
  | .char c => (c :: done, none)
  | .partly p => (done, some p)
  | .none => (replacement :: done, none)

/-- Read the next byte. -/
def readNext (done : List Char) (open? : Option PartialChar) (byte : UInt8) :
    List Char × Option PartialChar :=
  match open? with
  | none => readFirst done byte
  | some p =>
    let n := byte.toNat
    if p.low ≤ n && n ≤ p.high then
      let bits := p.bits * 64 + (n - 0x80)
      match p.missing with
      | 0 | 1 => (Char.ofNat bits :: done, none)
      | missing + 1 => (done, some ⟨missing, bits, 0x80, 0xBF⟩)
    else readFirst (replacement :: done) byte

/-- The characters of bytes, last first. -/
def decode (bytes : List UInt8) : List Char :=
  let (done, open?) := bytes.foldl (fun (done, open?) byte => readNext done open? byte) ([], none)
  if open?.isSome then replacement :: done else done

/-- Put what is left of a text, with the line ends of any system as plain line feeds, before what
is already read; the text comes last character first. -/
def unifyLineEnds (done : List Char) : List Char → List Char
  | [] => done
  | '\n' :: '\r' :: rest => unifyLineEnds ('\n' :: done) rest
  | '\r' :: rest => unifyLineEnds ('\n' :: done) rest
  | c :: rest => unifyLineEnds (c :: done) rest

/-- The text of bytes; a mistake becomes the replacement character. -/
def ofBytes (bytes : ByteArray) : String :=
  String.ofList (unifyLineEnds [] (decode bytes.data.toList))

/-! ## Mistakes -/

/-- What is wrong with a piece of bytes. -/
inductive MistakeKind where
  /-- No character begins with it. -/
  | start
  /-- The byte behind it does not go on with its character. -/
  | continuation
  /-- The bytes end within its character. -/
  | unfinished
  deriving DecidableEq

/-- A piece of bytes that is no character. -/
structure Mistake where
  /-- How many bytes stand before it. -/
  start : Nat
  /-- The number of its bytes. -/
  size : Nat
  /-- Its first byte. -/
  byte : UInt8
  /-- What is wrong with it. -/
  kind : MistakeKind
  deriving DecidableEq

/-- The text of a mistake. -/
def Mistake.message (m : Mistake) : String :=
  let place :=
    if m.size = 1 then
      "byte 0x" ++ String.ofList ((Nat.toDigits 16 m.byte.toNat).leftpad 2 '0')
        ++ " in position " ++ toString m.start
    else "bytes in position " ++ toString m.start ++ "-" ++ toString (m.start + m.size - 1)
  let reason := match m.kind with
    | .start => "invalid start byte"
    | .continuation => "invalid continuation byte"
    | .unfinished => "unexpected end of data"
  let mark := String.singleton (Char.ofNat 39)
  mark ++ "utf-8" ++ mark ++ " codec can" ++ mark ++ "t decode " ++ place ++ ": " ++ reason

/-- The first mistake in bytes, of which `place` were read before; `open?` is the character that is
being read, with its place and its first byte. -/
def mistakeFrom (place : Nat) (open? : Option (Nat × UInt8 × PartialChar)) :
    List UInt8 → Option Mistake
  | [] => open?.map fun (start, first, _) => ⟨start, place - start, first, .unfinished⟩
  | byte :: rest =>
    match open? with
    | none =>
      match FirstByte.ofByte byte with
      | .char _ => mistakeFrom (place + 1) none rest
      | .partly p => mistakeFrom (place + 1) (some (place, byte, p)) rest
      | .none => some ⟨place, 1, byte, .start⟩
    | some (start, first, p) =>
      if p.low ≤ byte.toNat && byte.toNat ≤ p.high then
        if p.missing ≤ 1 then mistakeFrom (place + 1) none rest
        else mistakeFrom (place + 1) (some (start, first, ⟨p.missing - 1, 0, 0x80, 0xBF⟩)) rest
      else some ⟨start, place - start, first, .continuation⟩

/-- The text of bytes without mistakes, or the first mistake. -/
def ofBytesStrict (bytes : ByteArray) : Except Mistake String :=
  match mistakeFrom 0 none bytes.data.toList with
  | some mistake => .error mistake
  | none => .ok (ofBytes bytes)

end SiteAtlas.Text
