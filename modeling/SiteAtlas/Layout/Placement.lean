import SiteAtlas.Layout.Box
import SiteAtlas.Layout.Spacing

/-! # Finding a free place

A box that collides at its first place is moved: downward at first, then sideways to either side,
then both. If no place tried is free, the box goes below everything else.
-/

namespace SiteAtlas.Placement

variable {α : Type} [Scalar α]

/-- The place tried after the attempt number `k` (from zero) at `(x, y)`. -/
def nextPlace (s : TreeSpacing α) (k : Nat) (place : α × α) : α × α :=
  let (x, y) := place
  if k < 5 then (x, y + s.verticalIncrement)
  else if k < 10 then
    (x + if k % 2 = 0 then s.horizontalIncrement else -s.horizontalIncrement, y)
  else
    let aside := Scalar.half s.horizontalIncrement
    (x + if k % 2 = 0 then aside else -aside, y + Scalar.half s.verticalIncrement)

/-- Whether a box of the given size is free at a place. -/
def isFree (s : TreeSpacing α) (width height : α) (existing : List (Box α)) (place : α × α) :
    Bool :=
  !existing.any fun other => Box.collides s.collisionPadding ⟨place.1, place.2, width, height⟩ other

/-- The first free place from the attempt number `k` on; the first number says how many attempts
are left. -/
def search (s : TreeSpacing α) (free : α × α → Bool) : (fuel k : Nat) → α × α → Option (α × α)
  | 0, _, _ => none
  | fuel + 1, k, place =>
    if free place then some place else search s free fuel (k + 1) (nextPlace s k place)

/-- The lowest bottom edge of all boxes. -/
def lowest (start : α) : List (Box α) → α
  | [] => start
  | b :: rest => rest.foldl (fun low b => Scalar.larger low (b.y + b.height)) (b.y + b.height)

/-- The place below everything else. -/
def fallback (s : TreeSpacing α) (existing : List (Box α)) (start : α × α) : α × α :=
  let attempts := s.maxAttempts.toNat
  (start.1 + (if attempts % 2 = 0 then s.horizontalIncrement else -s.horizontalIncrement),
    Scalar.larger (start.2 + (attempts : α) * s.verticalIncrement)
      (lowest start.2 existing + ((2 : Nat) : α) * s.collisionPadding + ((1 : Nat) : α)))

/-- Where a box of the given size goes that should stand at `start`. -/
def find (s : TreeSpacing α) (width height : α) (existing : List (Box α)) (start : α × α) :
    α × α :=
  (search s (isFree s width height existing) s.maxAttempts.toNat 0 start).getD
    (fallback s existing start)

end SiteAtlas.Placement
