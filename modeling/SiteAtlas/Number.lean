import SiteAtlas.Scalar
import SiteAtlas.Decimal.Binary64

/-! # Numbers of a document

A number in a settings file, in a request or in a layout is either whole, and then exact, or a
binary64 number. Sums of whole numbers stay whole, so that a box 260 wide is written `260`; as soon
as one operand is binary64 the result is.
-/

namespace SiteAtlas

/-- A whole number of any size, or a binary64 number. -/
inductive Number where
  | whole (value : Int)
  | real (value : Float)
  deriving Inhabited

namespace Number

/-- Two to the power 53: all whole numbers of a smaller size are binary64 numbers too. -/
def exactLimit : Nat := 9007199254740992

/-- The nearest binary64 number. -/
def toFloat : Number → Float
  | whole n => Binary64.ofInt n
  | real x => x

/-- Whether a whole number is below a binary64 number, compared exactly. -/
def wholeBelow (n : Int) (x : Float) : Bool :=
  match Dyadic.ofFloat x with
  | none => x > 0
  | some d =>
    let (top, bottom) := d.ratio
    n * bottom < (if d.negative then -(top : Int) else top)

/-- Whether a binary64 number is below a whole number, compared exactly. -/
def belowWhole (x : Float) (n : Int) : Bool :=
  match Dyadic.ofFloat x with
  | none => x < 0
  | some d =>
    let (top, bottom) := d.ratio
    (if d.negative then -(top : Int) else top) < n * bottom

/-- Strict order; a non-number is below nothing and above nothing. -/
def below : Number → Number → Bool
  | whole a, whole b => a < b
  | whole a, real b => if a.natAbs < exactLimit then Float.ofInt a < b else wholeBelow a b
  | real a, whole b => if b.natAbs < exactLimit then a < Float.ofInt b else belowWhole a b
  | real a, real b => a < b

/-- Whether two numbers have the same value. -/
def same : Number → Number → Bool
  | whole a, whole b => a == b
  | real a, real b => a == b
  | whole a, real b => !b.isNaN && !wholeBelow a b && !belowWhole b a
  | real a, whole b => !a.isNaN && !wholeBelow b a && !belowWhole a b

/-- Weak order. -/
def notAbove (a b : Number) : Bool := a.below b || a.same b

/-- Apply one of two operations, on whole numbers only when both operands are whole. -/
@[inline] def combine (onWhole : Int → Int → Int) (onReal : Float → Float → Float) :
    Number → Number → Number
  | whole a, whole b => whole (onWhole a b)
  | a, b => real (onReal a.toFloat b.toFloat)

/-- Quotient, always binary64: that of two whole numbers is rounded once. -/
def quotient : Number → Number → Number
  | whole a, whole b =>
    if a.natAbs < exactLimit && b.natAbs < exactLimit then real (Float.ofInt a / Float.ofInt b)
    else
      let size := Binary64.nearest a.natAbs b.natAbs
      real (if (a < 0) == (b < 0) then size else -size)
  | a, b => real (a.toFloat / b.toFloat)

/-- The negative. -/
def negative : Number → Number
  | whole a => whole (-a)
  | real x => real (-x)

instance : Scalar Number where
  add := combine (· + ·) (· + ·)
  sub := combine (· - ·) (· - ·)
  mul := combine (· * ·) (· * ·)
  div := quotient
  neg := negative
  natCast n := whole n
  lt a b := a.below b = true
  le a b := a.notAbove b = true
  decidableLT a b := inferInstanceAs (Decidable (a.below b = true))
  decidableLE a b := inferInstanceAs (Decidable (a.notAbove b = true))
  isZero
    | whole n => n == 0
    | real x => x == 0

instance (n : Nat) : OfNat Number n := ⟨whole n⟩

/-- Whether the number is neither infinite nor a non-number. -/
def isFinite : Number → Bool
  | whole _ => true
  | real x => x.isFinite

end Number

end SiteAtlas
