import SiteAtlas.Layout.Force.Run
import SiteAtlas.Proofs.Layout.ExactForces
import SiteAtlas.Proofs.Layout.Overlap
import SiteAtlas.Proofs.Success

/-! # Boxes of a finished force layout

The forces change velocities and places only, so that the boxes of a simulation keep their names
and sizes through any number of ticks, whatever the arithmetic. The boxes that are written back are
those of the last state after they have been pushed and stacked apart.
-/

namespace SiteAtlas.Force

variable {α ρ : Type} [Scalar α] {arith : ForceArithmetic α ρ} {s : ForceSettings α}

/-- The names and sizes of the boxes of a state. -/
def shapes (state : Simulation α ρ) : List (String × α × α) := state.bodies.map Body.shape

section Forces

theorem accelerate_shapes (bodies : List (Body α)) (i : Nat) (dx dy : α) :
    (accelerate bodies i dx dy).map Body.shape = bodies.map Body.shape := by
  induction bodies generalizing i with
  | nil => cases i <;> rfl
  | cons b rest ih =>
    cases i with
    | zero => rfl
    | succ i => exact congrArg (List.cons b.shape) (ih i)

theorem centering_shapes {state next : Simulation α ρ}
    (success : centering arith s state = .ok next) : shapes next = shapes state := by
  simp only [centering] at success
  split at success
  · cases success
    exact List.map_map
  · cases success
  · cases success

theorem pull_shapes {strength : α} {state next : List (Body α) × ρ} {spring : Spring α}
    (success : pull arith s strength state spring = .ok next) :
    next.1.map Body.shape = state.1.map Body.shape := by
  simp only [pull] at success
  split at success
  · split at success
    · cases success
    · cases success
      exact (accelerate_shapes _ _ _ _).trans (accelerate_shapes _ _ _ _)
  · cases success
    rfl

theorem linking_shapes {state next : Simulation α ρ}
    (success : linking arith s state = .ok next) : shapes next = shapes state := by
  obtain ⟨last, run, rfl⟩ := map_eq_ok_iff.mp success
  have kept (springs : List (Spring α)) (first : List (Body α) × ρ)
      (run : springs.foldlM (pull arith s state.alpha) first = .ok last) :
      last.1.map Body.shape = first.1.map Body.shape := by
    induction springs generalizing first with
    | nil =>
      cases run
      rfl
    | cons spring rest ih =>
      obtain ⟨middle, step, run⟩ := bind_eq_ok_iff.mp run
      exact (ih middle run).trans (pull_shapes step)
  exact kept _ _ run

theorem collide_keeps (strength : α) : MeetKeeps (fun b : Body α × α => (b.1.shape, b.2))
    (collide arith strength) := by
  intro c a b random a' b' random' met
  simp only [collide] at met
  split at met
  · cases met
    exact ⟨rfl, rfl⟩
  · split at met
    · cases met
    · cases met
    · cases met
      exact ⟨rfl, rfl⟩

theorem map_collisions {τ : Type} {reading : Body α × α → τ}
    (keeps : MeetKeeps reading (collide arith s.collisionStrength)) {count : Nat}
    {bodies last : List (Body α × α)} {random final : ρ}
    (success : collisions arith s count bodies random = .ok (last, final)) :
    last.map reading = bodies.map reading := by
  induction count generalizing bodies random with
  | zero =>
    cases success
    rfl
  | succ count ih =>
    simp only [collisions] at success
    split at success
    · cases success
    · rename_i middle state met
      exact (ih success).trans (map_forPairs keeps met)

theorem colliding_shapes {state next : Simulation α ρ}
    (success : colliding arith s state = .ok next) : shapes next = shapes state := by
  obtain ⟨⟨last, final⟩, run, rfl⟩ := map_eq_ok_iff.mp success
  have kept := map_collisions ((collide_keeps _).comp Prod.fst) run
  rw [List.map_map] at kept
  exact List.map_map.trans kept

theorem repel_shape {strength max2 min2 : α} {node other moved : Body α} {random final : ρ}
    (success : repel arith s strength max2 min2 node other random = .ok (moved, final)) :
    moved.shape = node.shape := by
  simp only [repel] at success
  split at success
  · cases success
    rfl
  · split at success
    · cases success
    · cases success
    · cases success
      rfl

theorem repelAll_shape {strength max2 min2 : α} {i j : Nat} {others : List (Body α)}
    {node moved : Body α} {random final : ρ}
    (success : repelAll arith s strength max2 min2 i j others node random = .ok (moved, final)) :
    moved.shape = node.shape := by
  induction others generalizing j node random with
  | nil =>
    cases success
    rfl
  | cons other rest ih =>
    simp only [repelAll] at success
    split at success
    · exact ih success
    · split at success
      · cases success
      · rename_i next state step
        exact (ih success).trans (repel_shape step)

theorem repelEach_shapes {strength max2 min2 : α} {all bodies last : List (Body α)} {i : Nat}
    {random final : ρ}
    (success : repelEach arith s strength max2 min2 all i bodies random = .ok (last, final)) :
    last.map Body.shape = bodies.map Body.shape := by
  induction bodies generalizing i random last with
  | nil =>
    cases success
    rfl
  | cons node rest ih =>
    simp only [repelEach] at success
    split at success
    · cases success
    · rename_i moved state step
      split at success
      · cases success
      · rename_i others final run
        cases success
        rw [List.map_cons, List.map_cons, repelAll_shape step, ih run]

theorem repelling_shapes {state next : Simulation α ρ}
    (success : repelling arith s state = .ok next) : shapes next = shapes state := by
  simp only [repelling] at success
  split at success
  · cases success
  · cases success
  · obtain ⟨⟨last, final⟩, run, rfl⟩ := map_eq_ok_iff.mp success
    exact repelEach_shapes run

theorem drawing_shapes (s : ForceSettings α) (state : Simulation α ρ) :
    shapes (drawing s state) = shapes state := List.map_map

theorem moving_shapes (s : ForceSettings α) (state : Simulation α ρ) :
    shapes (moving s state) = shapes state := List.map_map

end Forces

section Ticks

variable {decay : α}

/-- No force and no move changes the name or the size of a box. -/
theorem tick_shapes {state next : Simulation α ρ} (success : tick arith s decay state = .ok next) :
    shapes next = shapes state := by
  obtain ⟨centered, step, success⟩ := bind_eq_ok_iff.mp success
  obtain ⟨linked, link, success⟩ := bind_eq_ok_iff.mp success
  obtain ⟨collided, collision, success⟩ := bind_eq_ok_iff.mp success
  obtain ⟨repelled, repulsion, success⟩ := bind_eq_ok_iff.mp success
  cases success
  calc shapes (moving s (drawing s repelled))
      = shapes repelled := (moving_shapes s _).trans (drawing_shapes s _)
    _ = shapes collided := repelling_shapes repulsion
    _ = shapes linked := colliding_shapes collision
    _ = shapes centered := linking_shapes link
    _ = shapes { state with alpha := state.alpha + (Scalar.zero - state.alpha) * decay } :=
      centering_shapes step
    _ = shapes state := rfl

theorem tickTimes_shapes {count : Nat} {state next : Simulation α ρ}
    (success : tickTimes arith s decay count state = .ok next) : shapes next = shapes state := by
  induction count generalizing state with
  | zero =>
    cases success
    rfl
  | succ count ih =>
    simp only [tickTimes] at success
    split at success
    · cases success
    · rename_i middle step
      exact (ih success).trans (tick_shapes step)

end Ticks

section Layout

variable {random : ρ} {nodes : List (Node α)} {edges : List Edge}

theorem start_shapes (arith : ForceArithmetic α ρ) (s : ForceSettings α) (random : ρ)
    (nodes : List (Node α)) (edges : List Edge) :
    shapes (start arith s random nodes edges)
      = nodes.map fun n => (n.id, s.nodeWidth, nodeHeight s n.data) := by
  have first := congrArg (List.map fun n : Node α => (n.id, s.nodeWidth, nodeHeight s n.data))
    (List.zipIdx_map_fst 0 nodes)
  rw [List.map_map] at first
  simp only [shapes, start, List.map_map]
  exact first

/-- What a layout writes back is read off the boxes of its last state, which have the names and
sizes that the nodes call for. -/
theorem exists_of_layout {laid : List (Node α)}
    (success : layout arith s random nodes edges = .ok laid) :
    ∃ bodies : List (Body α), laid = List.zipWith settle nodes (Overlap.resolve finalGap bodies).1 ∧
      bodies.map Body.shape = nodes.map fun n => (n.id, s.nodeWidth, nodeHeight s n.data) := by
  obtain ⟨decay, -, success⟩ := bind_eq_ok_iff.mp success
  split at success
  · rename_i empty
    cases success
    rw [List.isEmpty_iff.mp empty]
    exact ⟨[], rfl, rfl⟩
  · obtain ⟨last, ran, success⟩ := bind_eq_ok_iff.mp success
    obtain ⟨before, ticks, rfl⟩ := map_eq_ok_iff.mp ran
    cases success
    exact ⟨before.bodies, rfl, (tickTimes_shapes ticks).trans (start_shapes _ _ _ _ _)⟩

/-- Nodes that take the places of as many boxes with their names have the rectangles of these
boxes. -/
theorem map_zipWith_settle {nodes : List (Node Rat)} {bodies : List (Body Rat)}
    {size : Node Rat → Rat × Rat}
    (same : bodies.map Body.shape = nodes.map fun n => (n.id, size n)) :
    (List.zipWith settle nodes bodies).map Node.box = bodies.map Body.box ∧
      (List.zipWith settle nodes bodies).map (fun n => (n.id, n.width, n.height))
        = nodes.map fun n => (n.id, size n) := by
  induction nodes generalizing bodies with
  | nil =>
    rw [List.map_eq_nil_iff.mp same]
    exact ⟨rfl, rfl⟩
  | cons n rest ih =>
    cases bodies with
    | nil => cases same
    | cons b bodies =>
      obtain ⟨first, others⟩ := List.cons.inj same
      obtain ⟨boxes, sizes⟩ := ih others
      refine ⟨congrArg (List.cons b.box) boxes, congrArg₂ List.cons ?_ sizes⟩
      exact congrArg (Prod.mk n.id) (congrArg Prod.snd first)

end Layout

section Apart

/-- Over exact coordinates no two boxes overlap after they have been resolved, at whatever places
they were before, and they are spaced by the whole gap if one of the passes moved nothing. So the
boxes that a layout writes back, which have the sizes that the nodes call for, never overlap,
whatever the forces did to them. -/
theorem boxes_never_overlap (gap : Rat) (wide : 0 ≤ gap) (bodies : List (Body Rat))
    (arith : ForceArithmetic Rat ρ) (s : ForceSettings Rat) (random : ρ) (nodes : List (Node Rat))
    (edges : List Edge) :
    ((Overlap.resolve gap bodies).1.map Body.shape = bodies.map Body.shape ∧
      (Overlap.resolve gap bodies).1.Pairwise (fun a b => ¬ a.box.Overlaps b.box) ∧
      ∀ k < Overlap.maxPasses, (Overlap.pass gap (Overlap.afterPasses gap k bodies)).2 = false →
        (Overlap.resolve gap bodies).1.Pairwise fun a b => a.box.Spaced gap b.box) ∧
    ∀ laid, layout arith s random nodes edges = .ok laid →
      laid.map (fun n => (n.id, n.width, n.height))
          = nodes.map (fun n => (n.id, s.nodeWidth, nodeHeight s n.data)) ∧
        laid.Pairwise fun a b => ¬ a.box.Overlaps b.box := by
  refine ⟨⟨Overlap.resolve_shapes wide bodies, ?_, ?_⟩, ?_⟩
  · exact (Overlap.spaced_resolve wide bodies).imp Box.Spaced.not_overlaps
  · intro k inTime unmoved
    exact Overlap.spaced_resolve_of_unmoved inTime unmoved
  · intro laid success
    have wide : (0 : Rat) ≤ finalGap := Nat.cast_nonneg 20
    obtain ⟨last, rfl, sizes⟩ := exists_of_layout success
    have kept := (Overlap.resolve_shapes wide last).trans sizes
    obtain ⟨boxes, written⟩ := map_zipWith_settle kept
    have apart : ((Overlap.resolve finalGap last).1.map Body.box).Pairwise
        fun a b => ¬ a.Overlaps b :=
      List.pairwise_map.mpr ((Overlap.spaced_resolve wide last).imp Box.Spaced.not_overlaps)
    rw [← boxes] at apart
    exact ⟨written, List.pairwise_map.mp apart⟩

/-- Two boxes of the same size at the same place. -/
private def pile : List (Body Rat) :=
  [⟨"A", 100, 50, 0, 0, 0, 0⟩, ⟨"B", 100, 50, 0, 0, 0, 0⟩]

/-- The usual measures, and a single tick. -/
private def oneTick : ForceSettings Rat := { ForceSettings.usual with ticks := 1 }

/-- Two models with a relation between them, not placed yet. -/
private def twoModels : Graph Rat where
  nodes := [⟨"A", "model", 0, 0, 0, 0, []⟩, ⟨"B", "model", 0, 0, 0, 0, []⟩]
  edges := [{ id := "A-B", source := "A", target := "B" }]

/-- The second pass over the pile moves nothing, and the two models are laid out apart. -/
theorem pile_and_models_never_overlap :
    (Overlap.resolve 20 pile).1.Pairwise (fun a b => a.box.Spaced 20 b.box) ∧
      ∃ laid, layout .ofSquares oneTick () twoModels.nodes twoModels.edges = .ok laid ∧
        laid.map (fun n => (n.id, n.width, n.height)) = [("A", 320, 180), ("B", 320, 180)] ∧
        laid.Pairwise fun a b => ¬ a.box.Overlaps b.box := by
  obtain ⟨⟨-, -, resolved⟩, laidOut⟩ := boxes_never_overlap 20 (by decide) pile .ofSquares oneTick
    () twoModels.nodes twoModels.edges
  have second := resolved 1 (by decide) (by decide +kernel)
  refine ⟨second, ?_⟩
  cases outcome : layout .ofSquares oneTick () twoModels.nodes twoModels.edges with
  | error fault =>
    have success : (layout .ofSquares oneTick () twoModels.nodes twoModels.edges).isOk = true := by
      decide +kernel
    rw [outcome] at success
    cases success
  | ok laid =>
    obtain ⟨sizes, apart⟩ := laidOut laid outcome
    exact ⟨laid, rfl, sizes.trans (by decide +kernel), apart⟩

end Apart

end SiteAtlas.Force
