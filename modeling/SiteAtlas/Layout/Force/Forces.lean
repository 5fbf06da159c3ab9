import SiteAtlas.Layout.Force.Basic

/-! # The five forces

Centering, the pull of links, the push of boxes that are too close, the repulsion of all boxes, and
a weak pull to the centre.
-/

namespace SiteAtlas.Force

variable {α ρ : Type} [Scalar α]

/-- A coordinate difference, or a tiny random number in place of zero. -/
@[inline]
def nonZero (arith : ForceArithmetic α ρ) (x : α) (random : ρ) : α × ρ :=
  if Scalar.isZero x then arith.jiggle random else (x, random)

/-- Move all boxes so that their mean is the middle of the picture. -/
@[specialize]
def centering (arith : ForceArithmetic α ρ) (s : ForceSettings α) (state : Simulation α ρ) :
    Except Fault (Simulation α ρ) :=
  let count : α := ((state.bodies.length : Nat) : α)
  match arith.divide (Scalar.sum (state.bodies.map (·.x))) count,
    arith.divide (Scalar.sum (state.bodies.map (·.y))) count with
  | .ok meanX, .ok meanY =>
    let dx := meanX - (center s).1
    let dy := meanY - (center s).2
    .ok { state with bodies := state.bodies.map fun b => { b with x := b.x - dx, y := b.y - dy } }
  | .error e, _ => .error e
  | _, .error e => .error e

/-- Change the velocity of the box at a place. -/
@[inline]
def accelerate (bodies : List (Body α)) (i : Nat) (dx dy : α) : List (Body α) :=
  bodies.modify i fun b => { b with vx := b.vx + dx, vy := b.vy + dy }

/-- Let one link pull. -/
@[specialize]
def pull (arith : ForceArithmetic α ρ) (s : ForceSettings α) (alpha : α)
    (state : List (Body α) × ρ) (spring : Spring α) : Except Fault (List (Body α) × ρ) :=
  let (bodies, random) := state
  match bodies[spring.source]?, bodies[spring.target]? with
  | some source, some target =>
    let (x, random) := nonZero arith (target.x + target.vx - source.x - source.vx) random
    let (y, random) := nonZero arith (target.y + target.vy - source.y - source.vy) random
    let length := arith.root (x * x + y * y)
    match arith.divide (length - s.linkDistance) length with
    | .error e => .error e
    | .ok ratio =>
      let strength := ratio * alpha * s.linkStrength
      let dx := x * strength
      let dy := y * strength
      let rest := ((1 : Nat) : α) - spring.bias
      let bodies := accelerate bodies spring.target (-(dx * spring.bias)) (-(dy * spring.bias))
      .ok (accelerate bodies spring.source (dx * rest) (dy * rest), random)
  | _, _ => .ok state

/-- Let all links pull, one after the other. -/
@[specialize]
def linking (arith : ForceArithmetic α ρ) (s : ForceSettings α) (state : Simulation α ρ) :
    Except Fault (Simulation α ρ) :=
  (state.springs.foldlM (pull arith s state.alpha) (state.bodies, state.random)).map
    fun (bodies, random) => { state with bodies := bodies, random := random }

/-- Half of a box's diagonal. -/
def radius (arith : ForceArithmetic α ρ) (b : Body α) : α :=
  Scalar.half (arith.diagonal b.width b.height)

/-- Push two boxes apart that are closer than the sum of their radii. `anchor` is where the first
one was going before it met any other. -/
@[specialize]
def collide (arith : ForceArithmetic α ρ) (strength : α) (anchor : α × α)
    (a b : Body α × α) (random : ρ) : Except Fault ((Body α × α) × (Body α × α) × ρ) :=
  let (node, ri) := a
  let (other, rj) := b
  let r := ri + rj
  let x := anchor.1 - other.x - other.vx
  let y := anchor.2 - other.y - other.vy
  let distance2 := x * x + y * y
  if r * r ≤ distance2 then .ok (a, b, random)
  else
    let (x', random) := nonZero arith x random
    let distance2 := if Scalar.isZero x then distance2 + x' * x' else distance2
    let (y', random) := nonZero arith y random
    let distance2 := if Scalar.isZero y then distance2 + y' * y' else distance2
    let distance := arith.root distance2
    match arith.divide (r - distance) distance, arith.divide (rj * rj) (ri * ri + rj * rj) with
    | .error e, _ => .error e
    | _, .error e => .error e
    | .ok ratio, .ok share =>
      let push := ratio * strength
      let dx := x' * push
      let dy := y' * push
      let rest := ((1 : Nat) : α) - share
      .ok (({ node with vx := node.vx + dx * share, vy := node.vy + dy * share }, ri),
        ({ other with vx := other.vx - dx * rest, vy := other.vy - dy * rest }, rj), random)

/-- Let every pair of boxes push, `count` times over. -/
@[specialize]
def collisions (arith : ForceArithmetic α ρ) (s : ForceSettings α) :
    (count : Nat) → List (Body α × α) → ρ → Except Fault (List (Body α × α) × ρ)
  | 0, bodies, random => .ok (bodies, random)
  | count + 1, bodies, random =>
    match forPairs (fun (b, _) => (b.x + b.vx, b.y + b.vy)) (collide arith s.collisionStrength)
        bodies random with
    | .error e => .error e
    | .ok (bodies, random) => collisions arith s count bodies random

/-- Push apart all boxes that are too close. -/
@[specialize]
def colliding (arith : ForceArithmetic α ρ) (s : ForceSettings α) (state : Simulation α ρ) :
    Except Fault (Simulation α ρ) :=
  let bodies := state.bodies.map fun b => (b, radius arith b + s.collisionPadding)
  (collisions arith s s.collisionIterations.toNat bodies state.random).map
    fun (bodies, random) => { state with bodies := bodies.map (·.1), random := random }

/-- Let one box be repelled by another. -/
@[specialize]
def repel (arith : ForceArithmetic α ρ) (s : ForceSettings α) (alpha max2 min2 : α)
    (node : Body α) (other : Body α) (random : ρ) : Except Fault (Body α × ρ) :=
  let x := other.x - node.x
  let y := other.y - node.y
  let distance2 := x * x + y * y
  if max2 ≤ distance2 then .ok (node, random)
  else
    let (x', random) := nonZero arith x random
    let distance2 := if Scalar.isZero x then distance2 + x' * x' else distance2
    let (y', random) := nonZero arith y random
    let distance2 := if Scalar.isZero y then distance2 + y' * y' else distance2
    let distance2 := if distance2 < min2 then arith.root (min2 * distance2) else distance2
    match arith.divide (x' * s.chargeStrength * alpha) distance2,
      arith.divide (y' * s.chargeStrength * alpha) distance2 with
    | .error e, _ => .error e
    | _, .error e => .error e
    | .ok dx, .ok dy => .ok ({ node with vx := node.vx + dx, vy := node.vy + dy }, random)

/-- Let one box be repelled by all others of a list, its own place left out. -/
@[specialize]
def repelAll (arith : ForceArithmetic α ρ) (s : ForceSettings α) (alpha max2 min2 : α) (i : Nat) :
    (j : Nat) → List (Body α) → Body α → ρ → Except Fault (Body α × ρ)
  | _, [], node, random => .ok (node, random)
  | j, other :: rest, node, random =>
    if i = j then repelAll arith s alpha max2 min2 i (j + 1) rest node random
    else
      match repel arith s alpha max2 min2 node other random with
      | .error e => .error e
      | .ok (node, random) => repelAll arith s alpha max2 min2 i (j + 1) rest node random

/-- Let each box from the place `i` on be repelled by all others. Places do not change meanwhile. -/
@[specialize]
def repelEach (arith : ForceArithmetic α ρ) (s : ForceSettings α) (alpha max2 min2 : α)
    (all : List (Body α)) : (i : Nat) → List (Body α) → ρ → Except Fault (List (Body α) × ρ)
  | _, [], random => .ok ([], random)
  | i, node :: rest, random =>
    match repelAll arith s alpha max2 min2 i 0 all node random with
    | .error e => .error e
    | .ok (node, random) =>
      match repelEach arith s alpha max2 min2 all (i + 1) rest random with
      | .error e => .error e
      | .ok (rest, random) => .ok (node :: rest, random)

/-- Let all boxes repel each other. -/
@[specialize]
def repelling (arith : ForceArithmetic α ρ) (s : ForceSettings α) (state : Simulation α ρ) :
    Except Fault (Simulation α ρ) :=
  match arith.square s.chargeDistanceMax, arith.square s.chargeDistanceMin with
  | .error e, _ => .error e
  | _, .error e => .error e
  | .ok max2, .ok min2 =>
    (repelEach arith s state.alpha max2 min2 state.bodies 0 state.bodies state.random).map
      fun (bodies, random) => { state with bodies := bodies, random := random }

/-- Draw all boxes to the centre. -/
@[specialize]
def drawing (s : ForceSettings α) (state : Simulation α ρ) : Simulation α ρ :=
  let k := s.axisStrength * state.alpha
  { state with
    bodies := state.bodies.map fun b =>
      { b with vx := b.vx + ((center s).1 - b.x) * k, vy := b.vy + ((center s).2 - b.y) * k } }

end SiteAtlas.Force
