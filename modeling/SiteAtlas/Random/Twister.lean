/-! # The Mersenne twister

The random source of the force layout: 624 words of state, seeded by a whole number.
-/

namespace SiteAtlas

/-- The state of the generator: its words, and how many of them were used since the last turn. -/
structure Twister where
  /-- The 624 words. -/
  words : Array UInt32
  /-- The next word to use; 624 when a turn is due. -/
  next : Nat

namespace Twister

/-- The number of words of state. -/
def size : Nat := 624

/-- The state that a single word spreads into. -/
def ofWord (seed : UInt32) : Array UInt32 :=
  (List.range (size - 1)).foldl (fun words i =>
    let last := words.getD i 0
    words.push ((1812433253 : UInt32) * (last ^^^ (last >>> 30)) + (i + 1).toUInt32)) #[seed]

/-- The words of a natural number, lowest first; zero has one. -/
def wordsOf (n : Nat) : List UInt32 :=
  if n < 4294967296 then [n.toUInt32]
  else (n % 4294967296).toUInt32 :: wordsOf (n / 4294967296)
termination_by n

/-- One step of mixing a key into the state, at place `i`. -/
def stir (words : Array UInt32) (i : Nat) (factor : UInt32) (add : UInt32 → UInt32) :
    Array UInt32 × Nat :=
  let last := words.getD (i - 1) 0
  let mixed := add ((words.getD i 0) ^^^ ((last ^^^ (last >>> 30)) * factor))
  let stirred := words.setIfInBounds i mixed
  if i + 1 ≥ size then (stirred.setIfInBounds 0 mixed, 1) else (stirred, i + 1)

/-- The state for a seed. Its sign does not matter. -/
def ofSeed (seed : Int) : Twister :=
  let n := seed.natAbs
  let key := (wordsOf n).toArray
  let first := (List.range (max size key.size)).foldl (fun (words, i) k =>
      let j := k % key.size
      stir words i 1664525 fun x => x + key.getD j 0 + j.toUInt32) (ofWord 19650218, 1)
  let (words, _) := (List.range (size - 1)).foldl (fun (words, i) _ =>
      stir words i 1566083941 fun x => x - i.toUInt32) first
  ⟨words.setIfInBounds 0 0x80000000, size⟩

/-- Renew all words. -/
def turn (words : Array UInt32) : Array UInt32 :=
  (List.range size).foldl (fun words i =>
    let joined := (words.getD i 0 &&& 0x80000000) ||| (words.getD ((i + 1) % size) 0 &&& 0x7fffffff)
    let odd : UInt32 := if joined &&& 1 = 0 then 0 else 0x9908b0df
    words.setIfInBounds i ((words.getD ((i + 397) % size) 0) ^^^ (joined >>> 1) ^^^ odd)) words

/-- The next word. -/
def nextWord (t : Twister) : UInt32 × Twister :=
  let words := if t.next ≥ size then turn t.words else t.words
  let place := if t.next ≥ size then 0 else t.next
  let y := words.getD place 0
  let y := y ^^^ (y >>> 11)
  let y := y ^^^ ((y <<< 7) &&& 0x9d2c5680)
  let y := y ^^^ ((y <<< 15) &&& 0xefc60000)
  (y ^^^ (y >>> 18), ⟨words, place + 1⟩)

/-- The next number of 53 random bits, at least zero and below one. -/
def nextUnit (t : Twister) : Float × Twister :=
  let (high, t) := t.nextWord
  let (low, t) := t.nextWord
  let bits := (high >>> 5).toNat * 67108864 + (low >>> 6).toNat
  (Float.ofNat bits / 9007199254740992.0, t)

end Twister

end SiteAtlas
