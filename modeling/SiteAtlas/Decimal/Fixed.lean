import SiteAtlas.Decimal.Binary64

/-! # Numbers with a fixed number of places

The value of a binary64 number is rounded once, exactly, to the places asked for; a half goes to
the even neighbour.
-/

namespace SiteAtlas.Decimal

/-- The decimal digits of a natural number. -/
def digits (n : Nat) : String := String.ofList (Nat.toDigits 10 n)

/-- `scaled / 10 ^ places` in positional notation, with exactly that many places. -/
def positional (places scaled : Nat) : String :=
  if places = 0 then digits scaled
  else
    let fraction := (Nat.toDigits 10 (scaled % tenTo places)).leftpad places '0'
    digits (scaled / tenTo places) ++ "." ++ String.ofList fraction

/-- The value rounded to a whole number of units of `10 ^ -places`. -/
def scaledTo (places : Nat) (d : Dyadic) : Nat :=
  let (top, bottom) := d.ratio
  Binary64.roundHalfEven (top * tenTo places) bottom

/-- Fixed notation, the sign kept also when every digit is zero. -/
def fixed (places : Nat) (x : Float) : String :=
  match Dyadic.ofFloat x with
  | none => if x.isNaN then "nan" else if x < 0 then "-inf" else "inf"
  | some d => (if d.negative then "-" else "") ++ positional places (scaledTo places d)

/-- The number nearest to the value rounded to that many places. -/
def roundTo (places : Nat) (x : Float) : Float :=
  match Dyadic.ofFloat x with
  | none => x
  | some d =>
    let size := Binary64.nearest (scaledTo places d) (tenTo places)
    if d.negative then -size else size

end SiteAtlas.Decimal
