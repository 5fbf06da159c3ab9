/-! # Natural numbers

Powers of the two bases that numbers are written in, and totals.
-/

namespace SiteAtlas

/-- Two to a power. -/
@[inline] def twoTo (n : Nat) : Nat := Nat.pow 2 n

/-- Ten to a power. -/
@[inline] def tenTo (n : Nat) : Nat := Nat.pow 10 n

/-- The sum of some counts. -/
def total (counts : List Nat) : Nat := counts.foldl (fun sum n => sum + n) 0

end SiteAtlas
