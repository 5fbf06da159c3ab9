import SiteAtlas.Layout.Force.Forces
import SiteAtlas.Number
import SiteAtlas.Random.Twister

/-! # Running the simulation

A tick applies the five forces in a fixed order and moves the boxes. The layout runs a fixed number
of ticks and then pushes apart what still overlaps.
-/

namespace SiteAtlas.Force

variable {α ρ : Type} [Scalar α]

/-- Slow all boxes down and move them by their velocity. -/
def moving (s : ForceSettings α) (state : Simulation α ρ) : Simulation α ρ :=
  let keep := ((1 : Nat) : α) - s.velocityDecay
  { state with
    bodies := state.bodies.map fun b =>
      let vx := b.vx * keep
      let vy := b.vy * keep
      { b with vx := vx, vy := vy, x := b.x + vx, y := b.y + vy } }

/-- One tick. -/
@[specialize]
def tick (arith : ForceArithmetic α ρ) (s : ForceSettings α) (decay : α)
    (state : Simulation α ρ) : Except Fault (Simulation α ρ) := do
  let state := { state with alpha := state.alpha + (Scalar.zero - state.alpha) * decay }
  let state ← centering arith s state
  let state ← linking arith s state
  let state ← colliding arith s state
  let state ← repelling arith s state
  let state := moving s (drawing s state)
  return { state with ticks := state.ticks + 1 }

/-- A number of ticks. -/
@[specialize]
def tickTimes (arith : ForceArithmetic α ρ) (s : ForceSettings α) (decay : α) :
    Nat → Simulation α ρ → Except Fault (Simulation α ρ)
  | 0, state => .ok state
  | n + 1, state =>
    match tick arith s decay state with
    | .error e => .error e
    | .ok state => tickTimes arith s decay n state

/-- The gap that the boxes of a finished layout keep. -/
def finalGap : α := ((20 : Nat) : α)

/-- All ticks, and then no overlaps. -/
@[specialize]
def run (arith : ForceArithmetic α ρ) (s : ForceSettings α) (decay : α)
    (state : Simulation α ρ) : Except Fault (Simulation α ρ) :=
  (tickTimes arith s decay s.ticks.toNat state).map fun state =>
    { state with bodies := (Overlap.resolve finalGap state.bodies).1 }

/-- A node with the size and the place of its box. -/
def settle (n : Node α) (b : Body α) : Node α :=
  { n with
    width := b.width, height := b.height, x := b.x - Scalar.half b.width
    y := b.y - Scalar.half b.height }

/-- The nodes of a graph with their sizes and places. -/
@[specialize]
def layout (arith : ForceArithmetic α ρ) (s : ForceSettings α) (random : ρ)
    (nodes : List (Node α)) (edges : List Edge) : Except Fault (List (Node α)) := do
  let decay ← arith.decay s
  if nodes.isEmpty then return nodes
  let state ← run arith s decay (start arith s random nodes edges)
  return List.zipWith settle nodes state.bodies

/-! ## Binary64 arithmetic -/

/-- The distance of the first box from the centre, and the unit of the others'. -/
def spiralRadius : Float := 10.0

/-- The angle between a box and the next at the start. -/
def spiralAngle : Float := 3.141592653589793 * (3.0 - Float.sqrt 5.0)

/-- A power, which must exist and be in range. -/
def powerOf (base exponent : Float) : Except Fault Float :=
  let result := Float.pow base exponent
  if !base.isFinite || !exponent.isFinite then .ok result
  else if result.isNaN then .error .outsideDomain
  else if result.isInf then .error (if base == 0 then .outsideDomain else .outOfRange)
  else .ok result

/-- The part of the strength that is lost in a tick, so that it comes down to the least strength in
the number of ticks set. -/
def binaryDecay (s : ForceSettings Number) : Except Fault Number :=
  if s.alphaDecayTicks = 0 then .error .noTicks
  else
    let share := (((1 : Nat) : Number) / .whole s.alphaDecayTicks).toFloat
    (powerOf s.alphaMin.toFloat share).map fun kept => .real (1.0 - kept)

/-- The arithmetic that layouts are computed with. -/
def binaryArithmetic : ForceArithmetic Number Twister where
  divide a b := if Scalar.isZero b then .error .divisionByZero else .ok (a / b)
  square
    | .whole n => .ok (.whole (n * n))
    | .real x =>
      let result := Float.pow x 2.0
      if x.isFinite && result.isInf then .error .outOfRange else .ok (.real result)
  root x := .real (Float.sqrt x.toFloat)
  diagonal a b := .real (Binary64.hypotenuse a.toFloat b.toFloat)
  jiggle t :=
    let (x, t) := t.nextUnit
    (.real ((x - 0.5) * 1e-6), t)
  spiral i :=
    let r := spiralRadius * Float.sqrt (0.5 + Float.ofNat i)
    let angle := Float.ofNat i * spiralAngle
    (.real (r * Float.cos angle), .real (r * Float.sin angle))
  decay := binaryDecay

/-- A graph laid out by force. -/
def layoutGraph (s : ForceSettings Number) (g : Graph Number) : Except Fault (Graph Number) :=
  (layout binaryArithmetic s (Twister.ofSeed s.seed) g.nodes g.edges).map fun nodes =>
    { g with nodes := nodes }

end SiteAtlas.Force
