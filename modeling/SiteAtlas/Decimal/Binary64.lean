import SiteAtlas.Natural

/-! # Values of binary64 numbers

A finite binary64 number is an integer times a power of two. `Dyadic.ofFloat` reads that value off
the bits, `nearest` goes back from any quotient of natural numbers, ties to even, and
`nearestRoot` from the square root of one.
-/

namespace SiteAtlas

/-- The finite value `± mantissa · 2 ^ exponent`. -/
structure Dyadic where
  /-- Whether the sign bit is set; a zero keeps its sign. -/
  negative : Bool
  /-- The integer factor. -/
  mantissa : Nat
  /-- The power of two. -/
  exponent : Int
  deriving DecidableEq

namespace Dyadic

/-- The value that the bits of `x` stand for; nothing for an infinity and for a non-number. -/
def ofFloat (x : Float) : Option Dyadic :=
  let bits := x.toBits.toNat
  let negative := bits / twoTo 63 == 1
  let biased : Nat := bits / twoTo 52 % twoTo 11
  let fraction : Nat := bits % twoTo 52
  if biased = 2047 then none
  else if biased = 0 then some ⟨negative, fraction, -1074⟩
  else some ⟨negative, twoTo 52 + fraction, (biased : Int) - 1075⟩

/-- The size of the value as a quotient of natural numbers. -/
def ratio (d : Dyadic) : Nat × Nat :=
  if d.exponent < 0 then (d.mantissa, twoTo d.exponent.natAbs)
  else (d.mantissa * twoTo d.exponent.toNat, 1)

end Dyadic

namespace Binary64

/-- `num / den` rounded to a whole number, a half going to the even neighbour. -/
def roundHalfEven (num den : Nat) : Nat :=
  let quotient := num / den
  let twice := 2 * (num % den)
  if twice < den then quotient
  else if den < twice then quotient + 1
  else quotient + quotient % 2

/-- The number whose bits hold `mantissa · 2 ^ (step - 1074)`, infinity when that is out of range.
A mantissa of `2 ^ 53` carries into the exponent by itself. -/
def assemble (mantissa step : Nat) : Float :=
  let bits := step * twoTo 52 + mantissa
  Float.ofBits (min bits (2047 * twoTo 52)).toUInt64

/-- The binary64 number nearest to `num / den`, a tie going to the even one. -/
def nearest (num den : Nat) : Float :=
  if num = 0 ∨ den = 0 then Float.ofBits 0
  else
    let estimate : Int := (num.log2 : Int) - den.log2
    let scale : Int → Nat × Nat := fun shift =>
      if shift < 0 then (num, den * twoTo shift.natAbs) else (num * twoTo shift.toNat, den)
    let reaches : Bool :=
      let (top, bottom) := scale (52 - estimate)
      twoTo 52 * bottom ≤ top
    let leading := if reaches then estimate else estimate - 1
    if leading > 1024 then assemble 0 2047
    else
      let shift : Int := min (52 - leading) 1074
      let (top, bottom) := scale shift
      assemble (roundHalfEven top bottom) (1074 - shift).toNat

/-- The binary64 number nearest to the square root of `num / 4 ^ halvings`. The root is taken with
enough digits, and one more that only says whether something was left. -/
def nearestRoot (num halvings : Nat) : Float :=
  let root := Nat.sqrt (num * twoTo (2 * 64))
  let rest := if root * root = num * twoTo (2 * 64) then 0 else 1
  nearest (2 * root + rest) (twoTo (halvings + 65))

/-- The length of the hypotenuse over two legs, rounded once. -/
def hypotenuse (x y : Float) : Float :=
  match Dyadic.ofFloat x, Dyadic.ofFloat y with
  | some a, some b =>
    let low := min a.exponent b.exponent
    let whole (d : Dyadic) : Nat := d.mantissa * twoTo (d.exponent - low).toNat
    let square := whole a * whole a + whole b * whole b
    if low < 0 then nearestRoot square low.natAbs
    else nearestRoot (square * twoTo (2 * low.toNat)) 0
  | _, _ =>
    if x.isInf || y.isInf then Float.ofBits (2047 * twoTo 52).toUInt64 else x + y

/-- The binary64 number nearest to an integer. -/
def ofInt (n : Int) : Float :=
  if n.natAbs < twoTo 53 then Float.ofInt n
  else if n < 0 then -(nearest n.natAbs 1) else nearest n.natAbs 1

/-- The binary64 number nearest to `± digits · 10 ^ exponent`. An exponent far outside the range
is cut, which does not change the answer. -/
def ofDecimal (negative : Bool) (digits : Nat) (exponent : Int) : Float :=
  let size := (digits.log2 : Int)
  let magnitude :=
    if digits = 0 then Float.ofBits 0
    else if exponent > 400 then assemble 0 2047
    else if exponent < -(400 + size) then Float.ofBits 0
    else if exponent < 0 then nearest digits (tenTo exponent.natAbs)
    else nearest (digits * tenTo exponent.toNat) 1
  if negative then -magnitude else magnitude

end Binary64

end SiteAtlas
