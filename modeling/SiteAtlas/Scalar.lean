/-! # Coordinates

Layouts place boxes by adding, halving and comparing coordinates. They are written once, over any
type with these operations, and run on `Number`; on `Rat` the same definitions are exact, so that
statements about distances hold without a word about rounding.
-/

namespace SiteAtlas

/-- The arithmetic a layout needs from its coordinates. -/
class Scalar (α : Type) extends Add α, Sub α, Mul α, Div α, Neg α, NatCast α, LT α, LE α where
  /-- Strict comparison can be tested. -/
  decidableLT : DecidableLT α
  /-- Weak comparison can be tested. -/
  decidableLE : DecidableLE α
  /-- Whether a coordinate is zero, of either sign. -/
  isZero : α → Bool

instance (priority := low) Scalar.instDecidableLT {α : Type} [Scalar α] : DecidableLT α :=
  Scalar.decidableLT

instance (priority := low) Scalar.instDecidableLE {α : Type} [Scalar α] : DecidableLE α :=
  Scalar.decidableLE

namespace Scalar

variable {α : Type} [Scalar α]

/-- The larger of two; the first one where they compare equal or not at all. -/
@[inline] def larger (a b : α) : α := if a < b then b else a

/-- The smaller of two; the first one where they compare equal or not at all. -/
@[inline] def smaller (a b : α) : α := if b < a then b else a

/-- Zero as a coordinate. -/
@[inline] def zero : α := ((0 : Nat) : α)

/-- Half of a coordinate. -/
@[inline] def half (a : α) : α := a / ((2 : Nat) : α)

/-- The distance of a coordinate from zero. -/
@[inline] def size (a : α) : α := if a < zero then -a else a

/-- The sum of a list, from the left and starting at zero. -/
def sum (values : List α) : α := values.foldl (· + ·) zero

end Scalar

instance : Scalar Rat where
  toAdd := Rat.instAdd
  toSub := Rat.instSub
  toMul := Rat.instMul
  toDiv := Rat.instDiv
  toNeg := Rat.instNeg
  toNatCast := Rat.instNatCast
  toLT := Rat.instLT
  toLE := Rat.instLE
  decidableLT := Rat.instDecidableLt
  decidableLE := Rat.instDecidableLe
  isZero a := a.num == 0

end SiteAtlas
