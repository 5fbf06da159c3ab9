/-! # MD5

Ids are cut from the MD5 digest of a text, in hexadecimal. A digest has 32 digits, whatever the text
is, and so many of them as are asked for go into an id.
-/

namespace SiteAtlas.Md5

/-- The 64 additive constants, the integer parts of `2 ^ 32 · |sin i|`. -/
def constants : Array UInt32 := #[
  0xd76aa478, 0xe8c7b756, 0x242070db, 0xc1bdceee, 0xf57c0faf, 0x4787c62a, 0xa8304613, 0xfd469501,
  0x698098d8, 0x8b44f7af, 0xffff5bb1, 0x895cd7be, 0x6b901122, 0xfd987193, 0xa679438e, 0x49b40821,
  0xf61e2562, 0xc040b340, 0x265e5a51, 0xe9b6c7aa, 0xd62f105d, 0x02441453, 0xd8a1e681, 0xe7d3fbc8,
  0x21e1cde6, 0xc33707d6, 0xf4d50d87, 0x455a14ed, 0xa9e3e905, 0xfcefa3f8, 0x676f02d9, 0x8d2a4c8a,
  0xfffa3942, 0x8771f681, 0x6d9d6122, 0xfde5380c, 0xa4beea44, 0x4bdecfa9, 0xf6bb4b60, 0xbebfbc70,
  0x289b7ec6, 0xeaa127fa, 0xd4ef3085, 0x04881d05, 0xd9d4d039, 0xe6db99e5, 0x1fa27cf8, 0xc4ac5665,
  0xf4292244, 0x432aff97, 0xab9423a7, 0xfc93a039, 0x655b59c3, 0x8f0ccc92, 0xffeff47d, 0x85845dd1,
  0x6fa87e4f, 0xfe2ce6e0, 0xa3014314, 0x4e0811a1, 0xf7537e82, 0xbd3af235, 0x2ad7d2bb, 0xeb86d391]

/-- The amounts of rotation of each of the four rounds, used in turn. -/
def rotations : Array (Array UInt32) := #[
  #[7, 12, 17, 22], #[5, 9, 14, 20], #[4, 11, 16, 23], #[6, 10, 15, 21]]

/-- The four words of the running digest. -/
structure Words where
  /-- First word. -/
  a : UInt32
  /-- Second word. -/
  b : UInt32
  /-- Third word. -/
  c : UInt32
  /-- Fourth word. -/
  d : UInt32

/-- The words a digest starts from. -/
def Words.start : Words := ⟨0x67452301, 0xefcdab89, 0x98badcfe, 0x10325476⟩

/-- Rotate a word to the left. -/
def rotateLeft (x amount : UInt32) : UInt32 := (x <<< amount) ||| (x >>> (32 - amount))

/-- The mixing function of a step, and the place in the block of the word it takes in. -/
def mix (w : Words) (i : Nat) : UInt32 × Nat :=
  if i < 16 then ((w.b &&& w.c) ||| (~~~w.b &&& w.d), i)
  else if i < 32 then ((w.d &&& w.b) ||| (~~~w.d &&& w.c), (5 * i + 1) % 16)
  else if i < 48 then (w.b ^^^ w.c ^^^ w.d, (3 * i + 5) % 16)
  else (w.c ^^^ (w.b ||| ~~~w.d), (7 * i) % 16)

/-- One of the 64 steps over a block. -/
def step (block : Array UInt32) (w : Words) (i : Nat) : Words :=
  let (f, place) := mix w i
  let sum := w.a + f + constants.getD i 0 + block.getD place 0
  let amount := (rotations.getD (i / 16) #[]).getD (i % 4) 0
  ⟨w.d, w.b + rotateLeft sum amount, w.b, w.c⟩

/-- The digest after one more block. -/
def addBlock (w : Words) (block : Array UInt32) : Words :=
  let mixed := (List.range 64).foldl (step block) w
  ⟨w.a + mixed.a, w.b + mixed.b, w.c + mixed.c, w.d + mixed.d⟩

/-- The bytes of a number, lowest first. -/
def littleEndian (n : Nat) : Nat → List UInt8
  | 0 => []
  | count + 1 => (n % 256).toUInt8 :: littleEndian (n / 256) count

/-- The message with its padding: one set bit, zeros, and the length in bits. -/
def pad (message : List UInt8) : List UInt8 :=
  let zeros := (119 - message.length % 64) % 64
  message ++ 0x80 :: List.replicate zeros 0 ++ littleEndian (8 * message.length) 8

/-- Group bytes into words, lowest byte first. -/
def words : List UInt8 → List UInt32
  | a :: b :: c :: d :: rest =>
    (a.toUInt32 ||| (b.toUInt32 <<< 8) ||| (c.toUInt32 <<< 16) ||| (d.toUInt32 <<< 24))
      :: words rest
  | _ => []

/-- The digest of a list of words, sixteen at a time; the first argument bounds the blocks. -/
def digestWords : Nat → Words → List UInt32 → Words
  | 0, w, _ => w
  | fuel + 1, w, input =>
    if input.isEmpty then w
    else digestWords fuel (addBlock w (input.take 16).toArray) (input.drop 16)

/-- The sixteen bytes of the digest. -/
def digest (message : List UInt8) : List UInt8 :=
  let input := words (pad message)
  let w := digestWords (input.length / 16 + 1) Words.start input
  [w.a, w.b, w.c, w.d].flatMap fun word => littleEndian word.toNat 4

/-- Bytes in hexadecimal. -/
def hex (bytes : List UInt8) : List Char :=
  bytes.flatMap fun b => [Nat.digitChar (b.toNat / 16), Nat.digitChar (b.toNat % 16)]

/-- The first `length` hexadecimal digits of the digest of a text. -/
def short (length : Nat) (text : String) : String :=
  String.ofList ((hex (digest text.toUTF8.toList)).take length)

/-! ## The digits of a digest -/

theorem length_littleEndian (n count : Nat) : (littleEndian n count).length = count := by
  induction count generalizing n with
  | zero => rfl
  | succ count ih => rw [littleEndian, List.length_cons, ih]

theorem length_digest (message : List UInt8) : (digest message).length = 16 := by
  simp [digest, length_littleEndian]

theorem length_hex (bytes : List UInt8) : (hex bytes).length = 2 * bytes.length := by
  induction bytes with
  | nil => rfl
  | cons b rest ih =>
    have step : (hex (b :: rest)).length = (hex rest).length + 2 := rfl
    rw [step, ih, List.length_cons, Nat.mul_add_one]

theorem isAlphanum_of_mem_hex {bytes : List UInt8} {c : Char} (member : c ∈ hex bytes) :
    c.isAlphanum = true := by
  have digits : ∀ d < 16, (Nat.digitChar d).isAlphanum = true := by decide
  obtain ⟨b, -, member⟩ := List.mem_flatMap.mp member
  have small := b.toNat_lt
  obtain rfl | rfl : c = Nat.digitChar (b.toNat / 16) ∨ c = Nat.digitChar (b.toNat % 16) := by
    simpa using member
  · exact digits _ (by omega)
  · exact digits _ (by omega)

/-- The digits asked for are there, up to all 32 of them. -/
theorem length_short {length : Nat} (short : length ≤ 32) (text : String) :
    (Md5.short length text).toList.length = length := by
  rw [Md5.short, String.toList_ofList, List.length_take, length_hex, length_digest]
  exact Nat.min_eq_left short

theorem isAlphanum_of_mem_short {length : Nat} {text : String} {c : Char}
    (member : c ∈ (short length text).toList) : c.isAlphanum = true := by
  rw [short, String.toList_ofList] at member
  exact isAlphanum_of_mem_hex (List.mem_of_mem_take member)

end SiteAtlas.Md5
