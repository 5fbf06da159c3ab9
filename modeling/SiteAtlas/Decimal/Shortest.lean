import SiteAtlas.Decimal.Fixed

/-! # The fewest digits that read back

Every binary64 number is the nearest one to an interval of values. `shortest` takes the smallest
number of digits for which some decimal lies in that interval, and of those the one nearest to the
number itself.
-/

namespace SiteAtlas.Decimal

/-- A decimal `digits · 10 ^ exponent`. -/
structure Scientific where
  /-- The digits, as one number. -/
  digits : Nat
  /-- The power of ten of the last digit. -/
  exponent : Int
  deriving DecidableEq

/-- The largest `k` with `10 ^ k ≤ top / bottom`. The number of binary digits gives it to within
one, so that three candidates are enough. -/
def leadingPower (top bottom : Nat) : Int :=
  let reaches (k : Int) : Bool :=
    if k < 0 then bottom ≤ top * tenTo k.natAbs else bottom * tenTo k.toNat ≤ top
  let estimate : Int := (((top.log2 : Int) - bottom.log2) * 30103).fdiv 100000
  if reaches (estimate + 1) then estimate + 1
  else if reaches estimate then estimate
  else if reaches (estimate - 1) then estimate - 1
  else estimate - 2

/-- The interval of values that read back as `mantissa · 2 ^ exponent`, as numerators over one
denominator, the value itself in the middle, and whether its ends belong to it. -/
def readBackInterval (d : Dyadic) : (Nat × Nat × Nat) × Nat × Bool :=
  let narrowBelow := d.mantissa = twoTo 52 && d.exponent > -1074
  let low := if narrowBelow then 4 * d.mantissa - 1 else 4 * d.mantissa - 2
  let scale (n : Nat) : Nat :=
    if d.exponent - 2 < 0 then n else n * twoTo (d.exponent - 2).toNat
  let bottom := if d.exponent - 2 < 0 then twoTo (d.exponent - 2).natAbs else 1
  ((scale low, scale (4 * d.mantissa), scale (4 * d.mantissa + 2)), bottom, d.mantissa % 2 = 0)

/-- The nearest point inside the interval on the first grid that has one, from `count` digits on.
The first number bounds how many grids are tried. -/
def searchGrid (interval : Nat × Nat × Nat) (bottom : Nat) (closed : Bool) (power : Int) :
    Nat → Nat → Scientific
  | 0, count =>
    let (_, value, _) := interval
    let unit : Int := power - count + 1
    if unit < 0 then ⟨value * tenTo unit.natAbs / bottom, unit⟩
    else ⟨value / (bottom * tenTo unit.toNat), unit⟩
  | fuel + 1, count =>
    let (low, value, high) := interval
    let unit : Int := power - count + 1
    -- all numerators over the denominator `bottom · 10 ^ unit`
    let lift (n : Nat) : Nat := if unit < 0 then n * tenTo unit.natAbs else n
    let grid := if unit < 0 then bottom else bottom * tenTo unit.toNat
    let below := lift value / grid
    let inside (k : Nat) : Bool :=
      if closed then lift low ≤ k * grid && k * grid ≤ lift high
      else lift low < k * grid && k * grid < lift high
    let above := below + 1
    match below != 0 && inside below, inside above with
    | true, true =>
      let toBelow := lift value - below * grid
      let toAbove := above * grid - lift value
      let pick := if toBelow < toAbove then below else if toAbove < toBelow then above
        else if below % 2 = 0 then below else above
      ⟨pick, unit⟩
    | true, false => ⟨below, unit⟩
    | false, true => ⟨above, unit⟩
    | false, false => searchGrid interval bottom closed power fuel (count + 1)

/-- The shortest decimal that reads back as a positive value. -/
def shortestOf (d : Dyadic) : Scientific :=
  let (interval, bottom, closed) := readBackInterval d
  searchGrid interval bottom closed (leadingPower interval.2.1 bottom) 17 1

/-- How a decimal is spread out in text. -/
structure Spread where
  /-- The least power of ten of the first digit that is written positionally. -/
  positionalFrom : Int
  /-- The first power of ten of the first digit that is no longer written positionally. -/
  positionalBelow : Int

/-- Positional from `0.0001` up to below `10 ^ 16`, otherwise an exponent with a sign and at least
two digits; a whole value keeps `.0`. -/
def Spread.standard : Spread := ⟨-4, 16⟩

/-- Write a decimal: `1.5`, `0.001`, `1e+16`, `2.5e-07`. -/
def Spread.render (spread : Spread) (s : Scientific) : String :=
  let figures := Nat.toDigits 10 s.digits
  let lead : Int := s.exponent + figures.length - 1
  if spread.positionalFrom ≤ lead ∧ lead < spread.positionalBelow then
    if s.exponent ≥ 0 then
      String.ofList (figures ++ List.replicate s.exponent.toNat '0') ++ ".0"
    else positional s.exponent.natAbs s.digits
  else
    let mantissa := match figures with
      | [] => ""
      | [d] => String.ofList [d]
      | d :: rest => String.ofList (d :: '.' :: rest)
    let power := String.ofList ((Nat.toDigits 10 lead.natAbs).leftpad 2 '0')
    mantissa ++ (if lead < 0 then "e-" else "e+") ++ power

/-- Drop zeros at the end of the digits, at most as many as the number says. -/
def Scientific.trim (s : Scientific) : Nat → Scientific
  | 0 => s
  | fuel + 1 =>
    if s.digits != 0 && s.digits % 10 = 0 then
      Scientific.trim ⟨s.digits / 10, s.exponent + 1⟩ fuel
    else s

/-- The shortest text of a number that reads back as the same number. -/
def shortest (x : Float) : String :=
  match Dyadic.ofFloat x with
  | none => if x.isNaN then "nan" else if x < 0 then "-inf" else "inf"
  | some d =>
    let size := if d.mantissa = 0 then "0.0"
      else Spread.standard.render ((shortestOf d).trim 20)
    (if d.negative then "-" else "") ++ size

end SiteAtlas.Decimal
