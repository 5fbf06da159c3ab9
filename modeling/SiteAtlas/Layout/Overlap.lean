import SiteAtlas.Layout.Pairs
import SiteAtlas.Scalar

/-! # Pushing overlapping boxes apart

Boxes given by their centres are pushed apart in pairs along the shallower axis, in up to two
hundred passes. What still overlaps then is stacked below the lowest box.
-/

namespace SiteAtlas

/-- A box of the force layout: its size, the place of its centre and its velocity. -/
structure Body (α : Type) where
  /-- The name by which links refer to it. -/
  id : String
  /-- Its width. -/
  width : α
  /-- Its height. -/
  height : α
  /-- The horizontal place of its centre. -/
  x : α
  /-- The vertical place of its centre. -/
  y : α
  /-- Its horizontal velocity. -/
  vx : α
  /-- Its vertical velocity. -/
  vy : α

namespace Overlap

variable {α : Type} [Scalar α]

/-- How far two boxes reach into each other, widened by a gap, along both axes. -/
def depth (gap : α) (a b : Body α) : α × α :=
  (Scalar.half (a.width + b.width) + gap - Scalar.size (a.x - b.x),
    Scalar.half (a.height + b.height) + gap - Scalar.size (a.y - b.y))

/-- The amount with the sign that moves `a` away from `b`. -/
def away (a b amount : α) : α := if b ≤ a then amount else -amount

/-- Push two boxes apart if they are closer than the gap along both axes. The state says whether
anything was moved. -/
def push (gap : α) (a b : Body α) (moved : Bool) : Body α × Body α × Bool :=
  let (dx, dy) := depth gap a b
  if dx ≤ Scalar.zero ∨ dy ≤ Scalar.zero then (a, b, moved)
  else if dx < dy then
    let shift := away a.x b.x (Scalar.half dx)
    ({ a with x := a.x + shift }, { b with x := b.x - shift }, true)
  else
    let shift := away a.y b.y (Scalar.half dy)
    ({ a with y := a.y + shift }, { b with y := b.y - shift }, true)

/-- One pass over all pairs, and whether it moved anything. -/
def pass (gap : α) (bodies : List (Body α)) : List (Body α) × Bool :=
  match forPairs (ε := Empty) (fun _ => ()) (fun _ a b moved => .ok (push gap a b moved)) bodies
      false with
  | .ok result => result

/-- The greatest number of passes. -/
def maxPasses : Nat := 200

/-- Passes from the number `done` on until one moves nothing: the boxes, the number of passes, and
whether the last one moved nothing. -/
def passes (gap : α) : (fuel done : Nat) → List (Body α) → List (Body α) × Nat × Bool
  | 0, done, bodies => (bodies, done, false)
  | fuel + 1, done, bodies =>
    let (next, moved) := pass gap bodies
    if moved then passes gap fuel (done + 1) next else (next, done + 1, true)

/-- The lowest bottom edge of a list of boxes. -/
def lowest : List (Body α) → Option α
  | [] => none
  | b :: rest =>
    some (rest.foldl (fun low b => Scalar.larger low (b.y + Scalar.half b.height))
      (b.y + Scalar.half b.height))

/-- Put the box number `j` below all others if it overlaps the box number `i`. -/
def stackPair (gap : α) (bodies : List (Body α)) (pair : Nat × Nat) : List (Body α) :=
  match bodies[pair.1]?, bodies[pair.2]? with
  | some a, some b =>
    let (dx, dy) := depth Scalar.zero a b
    if Scalar.zero < dx ∧ Scalar.zero < dy then
      match lowest (bodies.eraseIdx pair.2) with
      | some low => bodies.set pair.2 { b with y := low + gap + Scalar.half b.height }
      | none => bodies
    else bodies
  | _, _ => bodies

/-- All pairs of places below `n`, each with the smaller one first, in order. -/
def placePairs (n : Nat) : List (Nat × Nat) :=
  (List.range n).flatMap fun i => (List.range (n - (i + 1))).map fun k => (i, i + 1 + k)

/-- Stack every box that overlaps one before it. -/
def stack (gap : α) (bodies : List (Body α)) : List (Body α) :=
  (placePairs bodies.length).foldl (stackPair gap) bodies

/-- Push boxes apart, and the number of passes that took. -/
def resolve (gap : α) (bodies : List (Body α)) : List (Body α) × Nat :=
  let (pushed, count, settled) := passes gap maxPasses 0 bodies
  if settled then (pushed, count) else (stack gap pushed, count)

end Overlap

end SiteAtlas
