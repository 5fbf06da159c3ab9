import SiteAtlas.Layout.Overlap
import SiteAtlas.Layout.Spacing
import SiteAtlas.Graph.Basic

/-! # Simulated forces

The state of the force layout: boxes with velocities, links that pull at them, the strength that
fades from tick to tick, and a source of tiny random numbers for boxes that lie exactly on each
other.
-/

namespace SiteAtlas

/-- Why a simulation cannot go on. -/
inductive Fault where
  /-- The strength is to come down within no ticks. -/
  | noTicks
  | divisionByZero
  | outOfRange
  | outsideDomain
  deriving DecidableEq

/-- The text of a fault. -/
def Fault.message : Fault → String
  | noTicks => "division by zero"
  | divisionByZero => "float division by zero"
  | outOfRange =>
    let mark := String.singleton (Char.ofNat 39)
    "(34, " ++ mark ++ "Numerical result out of range" ++ mark ++ ")"
  | outsideDomain => "math domain error"

/-- A link between two boxes, by their places in the list. -/
structure Spring (α : Type) where
  /-- The place of the box it starts from. -/
  source : Nat
  /-- The place of the box it leads to. -/
  target : Nat
  /-- The share of its pull that the target takes. -/
  bias : α

/-- The state of a simulation. -/
structure Simulation (α ρ : Type) where
  /-- The boxes. -/
  bodies : List (Body α)
  /-- The links. -/
  springs : List (Spring α)
  /-- The present strength of the forces. -/
  alpha : α
  /-- The number of ticks so far. -/
  ticks : Nat
  /-- The random source. -/
  random : ρ

/-- The operations beyond the four basic ones that the forces need. -/
structure ForceArithmetic (α ρ : Type) where
  /-- A quotient, which fails for a divisor of zero. -/
  divide : α → α → Except Fault α
  /-- The square of a setting. -/
  square : α → Except Fault α
  /-- The square root. -/
  root : α → α
  /-- The length of a box's diagonal. -/
  diagonal : α → α → α
  /-- A tiny random number. -/
  jiggle : ρ → α × ρ
  /-- Where the box of a number starts, seen from the centre. -/
  spiral : Nat → α × α
  /-- The part of its strength that the simulation loses in a tick. -/
  decay : ForceSettings α → Except Fault α

namespace Force

variable {α ρ : Type} [Scalar α]

/-- The middle of the picture. -/
def center (s : ForceSettings α) : α × α :=
  (Scalar.half s.viewportWidth, Scalar.half s.viewportHeight)

/-- The number of items listed under a key. -/
def listed (data : Fields) (key : String) : Nat :=
  match data.get? key with
  | some (.list items) => items.length
  | _ => 0

/-- The height of a box with a head, a row for each field, further sections for constraints and
indexes, and a foot. -/
def nodeHeight (s : ForceSettings α) (data : Fields) : α :=
  let section_ (rows : Nat) (height : α) : α :=
    if rows = 0 then height
    else height + (s.sectionDividerHeight + (rows : α) * s.sectionRowHeight)
  let fields := s.headerHeight + s.footerHeight + (listed data "fields" : α) * s.fieldRowHeight
  let constraints := section_ (listed data "constraints") fields
  let indexes := section_ (listed data "indexes" + listed data "uniqueIndexes") constraints
  Scalar.smaller (Scalar.larger (indexes + s.heightPadding) s.minHeight) s.maxHeight

/-- The box of a node at the start. -/
def startBody (arith : ForceArithmetic α ρ) (s : ForceSettings α) (i : Nat) (n : Node α) : Body α :=
  let (x, y) := arith.spiral i
  { id := n.id, width := s.nodeWidth, height := nodeHeight s n.data, x := (center s).1 + x
    y := (center s).2 + y, vx := Scalar.zero, vy := Scalar.zero }

/-- The place of the last box with an id. -/
def placeOf? (ids : List String) (id : String) : Option Nat :=
  (ids.zipIdx.reverse.find? fun (other, _) => other == id).map (·.2)

/-- The ends of the links between boxes that are there, in order. -/
def springEnds (ids : List String) (edges : List Edge) : List (Nat × Nat) :=
  edges.filterMap fun e =>
    match placeOf? ids e.source, placeOf? ids e.target with
    | some source, some target => some (source, target)
    | _, _ => none

/-- The number of link ends at a box. -/
def degree (ends : List (Nat × Nat)) (i : Nat) : Nat :=
  total (ends.map fun (source, target) =>
    (if source = i then 1 else 0) + if target = i then 1 else 0)

/-- The links between boxes that are there. The target takes the larger share of the pull, the more
link ends there are at the source. -/
def springs (ids : List String) (edges : List Edge) : List (Spring α) :=
  let ends := springEnds ids edges
  ends.map fun (source, target) =>
    let out : α := ((degree ends source : Nat) : α)
    ⟨source, target, out / (((degree ends source + degree ends target : Nat)) : α)⟩

/-- The state before the first tick. -/
def start (arith : ForceArithmetic α ρ) (s : ForceSettings α) (random : ρ) (nodes : List (Node α))
    (edges : List Edge) : Simulation α ρ :=
  { bodies := nodes.zipIdx.map fun (n, i) => startBody arith s i n
    springs := springs (nodes.map (·.id)) edges, alpha := ((1 : Nat) : α), ticks := 0
    random := random }

end Force

end SiteAtlas
