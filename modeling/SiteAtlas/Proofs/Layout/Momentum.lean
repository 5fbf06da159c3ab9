import SiteAtlas.Proofs.Layout.ExactForces
import SiteAtlas.Proofs.Layout.Force
import Mathlib.Algebra.BigOperators.Group.List.Basic
import Mathlib.Algebra.BigOperators.Ring.List
import Mathlib.Algebra.Group.Prod
import Mathlib.Tactic.Abel
import Mathlib.Tactic.LinearCombination

/-! # What the forces keep

Over exact arithmetic a collision pushes two boxes apart by shares that weigh as much on either
side, and two boxes repel each other alike, so that the sum of all velocities does not change.
Centering moves all boxes alike.
-/

namespace SiteAtlas.Force

variable {ρ : Type} {arith : ForceArithmetic Rat ρ} {s : ForceSettings Rat}

/-- The velocity of a box. -/
def velocity (b : Body Rat) : Rat × Rat := (b.vx, b.vy)

/-- The place of a box. -/
def place (b : Body Rat) : Rat × Rat := (b.x, b.y)

/-! ## Collisions -/

section Colliding

/-- How far a box keeps others away. -/
def reach (arith : ForceArithmetic Rat ρ) (s : ForceSettings Rat) (b : Body Rat) : Rat :=
  radius arith b + s.collisionPadding

/-- The velocity of a box, weighed by the square of a reach. -/
def weighted (r : Rat) (b : Body Rat) : Rat × Rat := (r * r * b.vx, r * r * b.vy)

variable {strength : Rat} {anchor : Rat × Rat} {a b a' b' : Body Rat × Rat} {random random' : ρ}

/-- Two boxes that meet do nothing or are pushed apart, each by the other's share. -/
theorem collide_cases (exact : arith.IsExact)
    (met : collide arith strength anchor a b random = .ok (a', b', random')) :
    (a' = a ∧ b' = b) ∨ a.2 * a.2 + b.2 * b.2 ≠ 0 ∧ ∃ dx dy share : Rat,
      share = b.2 * b.2 / (a.2 * a.2 + b.2 * b.2) ∧
      a' = ({ a.1 with vx := a.1.vx + dx * share, vy := a.1.vy + dy * share }, a.2) ∧
      b' = ({ b.1 with vx := b.1.vx - dx * (1 - share), vy := b.1.vy - dy * (1 - share) },
        b.2) := by
  simp only [collide] at met
  split at met
  · cases met
    exact .inl ⟨rfl, rfl⟩
  · split at met
    · cases met
    · cases met
    · rename_i ratio share _ divided
      obtain ⟨divisor, shared⟩ := exact.divide_eq_ok_iff.mp divided
      cases met
      exact .inr ⟨divisor, _, _, share, shared, rfl, rfl⟩

theorem collide_balances (exact : arith.IsExact) (strength : Rat) :
    MeetBalances (fun p : Body Rat × Rat => weighted p.2 p.1) (collide arith strength) := by
  intro anchor a b random a' b' random' met
  obtain ⟨rfl, rfl⟩ | ⟨divisor, dx, dy, share, shared, rfl, rfl⟩ := collide_cases exact met
  · rfl
  · -- either way the box takes the push times the product of the two squares
    have equal (push : Rat) :
        a.2 * a.2 * (push * share) = b.2 * b.2 * (push * (1 - share)) := by
      have whole : share * (a.2 * a.2 + b.2 * b.2) = b.2 * b.2 := by
        rw [shared, div_mul_cancel₀ _ divisor]
      linear_combination push * whole
    refine Prod.ext ?_ ?_
    · simp only [weighted, Prod.fst_add]
      linear_combination equal dx
    · simp only [weighted, Prod.snd_add]
      linear_combination equal dy

theorem sum_collisions (exact : arith.IsExact) {count : Nat} {bodies last : List (Body Rat × Rat)}
    {final : ρ} (success : collisions arith s count bodies random = .ok (last, final)) :
    (last.map fun p => weighted p.2 p.1).sum = (bodies.map fun p => weighted p.2 p.1).sum := by
  induction count generalizing bodies random with
  | zero =>
    cases success
    rfl
  | succ count ih =>
    simp only [collisions] at success
    split at success
    · cases success
    · rename_i middle state met
      exact (ih success).trans (sum_forPairs (collide_balances exact _) met)

theorem sum_colliding (exact : arith.IsExact) {state next : Simulation Rat ρ}
    (success : colliding arith s state = .ok next) :
    (next.bodies.map fun b => weighted (reach arith s b) b).sum
      = (state.bodies.map fun b => weighted (reach arith s b) b).sum := by
  obtain ⟨⟨last, final⟩, run, rfl⟩ := map_eq_ok_iff.mp success
  -- no box changes its size or the reach that it was given at first
  have kept : last.map (fun p => (p.2, reach arith s p.1))
      = state.bodies.map fun b => (reach arith s b, reach arith s b) :=
    (map_collisions ((collide_keeps _).comp fun read : (String × Rat × Rat) × Rat =>
      (read.2, Scalar.half (arith.diagonal read.1.2.1 read.1.2.2) + s.collisionPadding)) run).trans
      List.map_map
  have reached (p : Body Rat × Rat) (member : p ∈ last) : p.2 = reach arith s p.1 := by
    have read := List.mem_map_of_mem (f := fun p => (p.2, reach arith s p.1)) member
    rw [kept] at read
    obtain ⟨b, -, same⟩ := List.mem_map.mp read
    obtain ⟨ownReach, reach⟩ := Prod.mk.inj same
    exact ownReach.symm.trans reach
  have summed := sum_collisions exact run
  rw [List.map_map] at summed
  rw [List.map_map]
  refine Eq.trans (congrArg List.sum (List.map_congr_left fun p member => ?_)) summed
  rw [Function.comp_apply, reached p member]

theorem exists_collide (exact : arith.IsExact) (never : arith.NeverZero) (strength : Rat)
    (anchor : Rat × Rat) (a b : Body Rat × Rat) (random : ρ) :
    ∃ result, collide arith strength anchor a b random = .ok result := by
  simp only [collide]
  split
  · exact ⟨_, rfl⟩
  · rename_i close
    -- the boxes are closer than the sum of their reaches, which is not zero then
    have divisor : a.2 * a.2 + b.2 * b.2 ≠ 0 := by
      intro zero
      obtain ⟨noReach, noOther⟩ := mul_self_add_mul_self_eq_zero.mp zero
      rw [noReach, noOther] at close
      have none : (0 + 0) * (0 + 0) ≤ (0 : Rat) := by rw [add_zero, mul_zero]
      exact close (none.trans (add_nonneg (mul_self_nonneg _) (mul_self_nonneg _)))
    simp only [square_nonZero]
    rw [exact.divide_of_ne_zero (never.root _ (replaced_pos never _ _ _ _)),
      exact.divide_of_ne_zero divisor]
    exact ⟨_, rfl⟩

theorem exists_collisions (exact : arith.IsExact) (never : arith.NeverZero)
    (s : ForceSettings Rat) (count : Nat) (bodies : List (Body Rat × Rat)) (random : ρ) :
    ∃ result, collisions arith s count bodies random = .ok result := by
  induction count generalizing bodies random with
  | zero => exact ⟨_, rfl⟩
  | succ count ih =>
    obtain ⟨⟨middle, passed⟩, met⟩ := exists_forPairs
      (fun p : Body Rat × Rat => (p.1.x + p.1.vx, p.1.y + p.1.vy))
      (exists_collide exact never s.collisionStrength) bodies random
    obtain ⟨result, run⟩ := ih middle passed
    exact ⟨result, by simp only [collisions, met, run]⟩

theorem exists_colliding (exact : arith.IsExact) (never : arith.NeverZero)
    (s : ForceSettings Rat) (state : Simulation Rat ρ) :
    ∃ next, colliding arith s state = .ok next :=
  exists_map_eq_ok_iff.mpr (exists_collisions exact never s _ _ _)

end Colliding

/-! ## Repulsion -/

section Repelling

variable {alpha max2 min2 : Rat} {node other moved : Body Rat} {random final : ρ}

/-- The velocity that a box takes from another one that is as far away as given. -/
def kick (arith : ForceArithmetic Rat ρ) (s : ForceSettings Rat) (alpha max2 min2 : Rat)
    (offset : Rat × Rat) : Rat × Rat :=
  let distance2 := offset.1 * offset.1 + offset.2 * offset.2
  if max2 ≤ distance2 then 0
  else
    let distance2 := if distance2 < min2 then arith.root (min2 * distance2) else distance2
    (offset.1 * s.chargeStrength * alpha / distance2,
      offset.2 * s.chargeStrength * alpha / distance2)

theorem kick_zero : kick arith s alpha max2 min2 0 = 0 := by
  simp only [kick]
  split
  · rfl
  · refine Prod.ext ?_ ?_ <;> simp only [Prod.fst_zero, Prod.snd_zero, zero_mul, zero_div]

theorem kick_neg (offset : Rat × Rat) :
    kick arith s alpha max2 min2 (-offset) = -kick arith s alpha max2 min2 offset := by
  simp only [kick, Prod.fst_neg, Prod.snd_neg, neg_mul_neg]
  split
  · exact neg_zero.symm
  · refine Prod.ext ?_ ?_ <;> simp only [Prod.fst_neg, Prod.snd_neg, neg_mul, neg_div]

/-- A box in neither the row nor the column of another one is kicked by it, and stays in place. -/
theorem velocity_repel (exact : arith.IsExact) (beside : other.x ≠ node.x)
    (stacked : other.y ≠ node.y)
    (success : repel arith s alpha max2 min2 node other random = .ok (moved, final)) :
    place moved = place node ∧ velocity moved
      = velocity node + kick arith s alpha max2 min2 (place other - place node) := by
  have across := Scalar.isZero_eq_false (sub_ne_zero.mpr beside)
  have down := Scalar.isZero_eq_false (sub_ne_zero.mpr stacked)
  simp only [repel, nonZero, across, down, Bool.false_eq_true, if_false] at success
  split at success
  · rename_i far
    cases success
    refine ⟨rfl, ?_⟩
    have still : kick arith s alpha max2 min2 (place other - place node) = 0 := if_pos far
    rw [still, add_zero]
  · rename_i near
    split at success
    · cases success
    · cases success
    · rename_i dx dy first second
      obtain ⟨-, rfl⟩ := exact.divide_eq_ok_iff.mp first
      obtain ⟨-, rfl⟩ := exact.divide_eq_ok_iff.mp second
      cases success
      refine ⟨rfl, ?_⟩
      have kicked : kick arith s alpha max2 min2 (place other - place node) = _ := if_neg near
      rw [kicked]
      rfl

/-- The box of a place is in neither the row nor the column of the box of any other place. -/
def Apart (i j : Nat) (node other : Body Rat) : Prop :=
  if i = j then place other = place node else other.x ≠ node.x ∧ other.y ≠ node.y

/-- A box is kicked by all of a list. One that is left out lies at its own place, from where
nothing is kicked. -/
theorem velocity_repelAll (exact : arith.IsExact) {i j : Nat} {others : List (Body Rat)}
    (apart : ∀ k other, others[k]? = some other → Apart i (j + k) node other)
    (success : repelAll arith s alpha max2 min2 i j others node random = .ok (moved, final)) :
    velocity moved = velocity node
      + (others.map fun other => kick arith s alpha max2 min2 (place other - place node)).sum := by
  induction others generalizing j node random with
  | nil =>
    cases success
    exact (add_zero _).symm
  | cons other rest ih =>
    have first : Apart i j node other := apart 0 other rfl
    have others (k : Nat) (b : Body Rat) (here : rest[k]? = some b) :
        Apart i (j + 1 + k) node b := by
      rw [Nat.add_right_comm]
      exact apart (k + 1) b here
    rw [List.map_cons, List.sum_cons]
    simp only [repelAll] at success
    split at success
    · rename_i own
      rw [Apart, if_pos own] at first
      rw [first, sub_self, kick_zero, zero_add]
      exact ih others success
    · rename_i different
      rw [Apart, if_neg different] at first
      split at success
      · cases success
      · rename_i kicked passed step
        obtain ⟨stays, faster⟩ := velocity_repel exact first.1 first.2 step
        have x : kicked.x = node.x := congrArg Prod.fst stays
        have y : kicked.y = node.y := congrArg Prod.snd stays
        simp only [Apart, ← stays, ← x, ← y] at others
        rw [ih others success, faster, stays, add_assoc]

theorem sum_repelEach (exact : arith.IsExact) {i : Nat} {all nodes last : List (Body Rat)}
    (apart : ∀ k node, nodes[k]? = some node →
      ∀ l other, all[l]? = some other → Apart (i + k) l node other)
    (success : repelEach arith s alpha max2 min2 all i nodes random = .ok (last, final)) :
    (last.map velocity).sum = (nodes.map velocity).sum + (nodes.map fun node =>
      (all.map fun other => kick arith s alpha max2 min2 (place other - place node)).sum).sum := by
  induction nodes generalizing i random last with
  | nil =>
    cases success
    exact (add_zero _).symm
  | cons node rest ih =>
    have first (l : Nat) (other : Body Rat) (here : all[l]? = some other) :
        Apart i (0 + l) node other := by
      rw [Nat.zero_add]
      exact apart 0 node rfl l other here
    have others (k : Nat) (b : Body Rat) (here : rest[k]? = some b) (l : Nat) (other : Body Rat)
        (there : all[l]? = some other) : Apart (i + 1 + k) l b other := by
      rw [Nat.add_right_comm]
      exact apart (k + 1) b here l other there
    simp only [repelEach] at success
    split at success
    · cases success
    · rename_i moved passed step
      split at success
      · cases success
      · rename_i behind final run
        cases success
        simp only [List.map_cons, List.sum_cons, ih others run, velocity_repelAll exact first step]
        abel

/-- Where any two are opposed and each is neutral to itself, all of a list add up to zero. -/
theorem sum_sum_eq_zero {β M : Type} [AddCommGroup M] {f : β → β → M} (neutral : ∀ a, f a a = 0)
    (opposed : ∀ a b, f b a = -f a b) (items : List β) :
    (items.map fun a => (items.map (f a)).sum).sum = 0 := by
  induction items with
  | nil => rfl
  | cons x rest ih =>
    have column : (rest.map fun a => f a x) = (rest.map (f x)).map Neg.neg := by
      rw [List.map_map]
      exact List.map_congr_left fun a _ => opposed x a
    simp only [List.map_cons, List.sum_cons, neutral, zero_add, List.sum_map_add, ih, add_zero,
      column, ← List.sum_neg, add_neg_cancel]

theorem apart_of_pairwise {bodies : List (Body Rat)}
    (apart : bodies.Pairwise fun a b => a.x ≠ b.x ∧ a.y ≠ b.y) (i : Nat) (a : Body Rat)
    (here : bodies[i]? = some a) (j : Nat) (b : Body Rat) (there : bodies[j]? = some b) :
    Apart i j a b := by
  obtain ⟨inside, rfl⟩ := List.getElem?_eq_some_iff.mp here
  obtain ⟨within, rfl⟩ := List.getElem?_eq_some_iff.mp there
  have ordered := List.pairwise_iff_getElem.mp apart
  rw [Apart]
  split
  · rename_i same
    subst same
    rfl
  · rename_i different
    obtain before | behind := Nat.lt_or_gt_of_ne different
    · exact (ordered i j inside within before).imp Ne.symm Ne.symm
    · exact ordered j i within inside behind

/-- Boxes no two of which share a row or a column repel each other alike. -/
theorem sum_repelling (exact : arith.IsExact) {state next : Simulation Rat ρ}
    (apart : state.bodies.Pairwise fun a b => a.x ≠ b.x ∧ a.y ≠ b.y)
    (success : repelling arith s state = .ok next) :
    (next.bodies.map velocity).sum = (state.bodies.map velocity).sum := by
  simp only [repelling, exact.square] at success
  obtain ⟨⟨last, final⟩, run, rfl⟩ := map_eq_ok_iff.mp success
  have kicked := sum_repelEach exact (fun k node here l other there => by
    rw [Nat.zero_add]
    exact apart_of_pairwise apart k node here l other there) run
  refine (kicked.trans (congrArg _ (sum_sum_eq_zero (fun b => ?_) (fun a b => ?_) _))).trans
    (add_zero _)
  · rw [sub_self, kick_zero]
  · rw [← neg_sub (place b), kick_neg]

theorem exists_repel (exact : arith.IsExact) (never : arith.NeverZero) (s : ForceSettings Rat)
    (alpha max2 min2 : Rat) (node other : Body Rat) (random : ρ) :
    ∃ result, repel arith s alpha max2 min2 node other random = .ok result := by
  -- a distance below the least one is replaced by the root of a positive number
  have divisor {distance2 : Rat} (positive : 0 < distance2) :
      (if distance2 < min2 then arith.root (min2 * distance2) else distance2) ≠ 0 := by
    split
    · rename_i close
      exact never.root _ (mul_pos (positive.trans close) positive)
    · exact positive.ne'
  simp only [repel]
  split
  · exact ⟨_, rfl⟩
  · simp only [square_nonZero]
    have nonzero := divisor (replaced_pos never (other.x - node.x) (other.y - node.y) random
      (nonZero arith (other.x - node.x) random).2)
    rw [exact.divide_of_ne_zero nonzero, exact.divide_of_ne_zero nonzero]
    exact ⟨_, rfl⟩

theorem exists_repelAll (exact : arith.IsExact) (never : arith.NeverZero) (s : ForceSettings Rat)
    (alpha max2 min2 : Rat) (i j : Nat) (others : List (Body Rat)) (node : Body Rat) (random : ρ) :
    ∃ result, repelAll arith s alpha max2 min2 i j others node random = .ok result := by
  induction others generalizing j node random with
  | nil => exact ⟨_, rfl⟩
  | cons other rest ih =>
    obtain ⟨⟨kicked, passed⟩, step⟩ :=
      exists_repel exact never s alpha max2 min2 node other random
    simp only [repelAll, step]
    split
    · exact ih _ _ _
    · exact ih _ _ _

theorem exists_repelEach (exact : arith.IsExact) (never : arith.NeverZero) (s : ForceSettings Rat)
    (alpha max2 min2 : Rat) (all : List (Body Rat)) (i : Nat) (nodes : List (Body Rat))
    (random : ρ) :
    ∃ result, repelEach arith s alpha max2 min2 all i nodes random = .ok result := by
  induction nodes generalizing i random with
  | nil => exact ⟨_, rfl⟩
  | cons node rest ih =>
    obtain ⟨⟨moved, passed⟩, step⟩ :=
      exists_repelAll exact never s alpha max2 min2 i 0 all node random
    obtain ⟨⟨behind, final⟩, run⟩ := ih (i + 1) passed
    exact ⟨(moved :: behind, final), by simp only [repelEach, step, run]⟩

theorem exists_repelling (exact : arith.IsExact) (never : arith.NeverZero)
    (s : ForceSettings Rat) (state : Simulation Rat ρ) :
    ∃ next, repelling arith s state = .ok next := by
  simp only [repelling, exact.square]
  exact exists_map_eq_ok_iff.mpr (exists_repelEach exact never s _ _ _ _ _ _ _)

end Repelling

/-! ## Centering -/

section Centering

variable {state : Simulation Rat ρ}

/-- The mean of the places of boxes. -/
def mean (bodies : List (Body Rat)) : Rat × Rat :=
  ((bodies.map (·.x)).sum / bodies.length, (bodies.map (·.y)).sum / bodies.length)

/-- How far each box is away from each other one. -/
def offsets (bodies : List (Body Rat)) : List (List (Rat × Rat)) :=
  bodies.map fun a => bodies.map fun b => place b - place a

/-- A box at some distance from where it was. -/
def shift (d : Rat × Rat) (b : Body Rat) : Body Rat := { b with x := b.x - d.1, y := b.y - d.2 }

theorem centering_eq (exact : arith.IsExact) (boxes : state.bodies ≠ []) :
    centering arith s state = .ok { state with
      bodies := state.bodies.map (shift (mean state.bodies - center s)) } := by
  have count : (state.bodies.length : Rat) ≠ 0 :=
    Nat.cast_ne_zero.mpr (mt List.length_eq_zero_iff.mp boxes)
  simp only [centering, Scalar.sum_eq]
  rw [exact.divide_of_ne_zero count, exact.divide_of_ne_zero count]
  rfl

theorem sum_map_sub_const (coordinate : Body Rat → Rat) (d : Rat) (bodies : List (Body Rat)) :
    (bodies.map fun b => coordinate b - d).sum
      = (bodies.map coordinate).sum - bodies.length * d := by
  simp only [sub_eq_add_neg, List.sum_map_add, List.map_const', List.sum_replicate, nsmul_eq_mul,
    mul_neg]

theorem mean_shift (d : Rat × Rat) {bodies : List (Body Rat)} (boxes : bodies ≠ []) :
    mean (bodies.map (shift d)) = mean bodies - d := by
  have count : (bodies.length : Rat) ≠ 0 :=
    Nat.cast_ne_zero.mpr (mt List.length_eq_zero_iff.mp boxes)
  have moved (coordinate : Body Rat → Rat) (d : Rat) :
      (bodies.map fun b => coordinate b - d).sum / bodies.length
        = (bodies.map coordinate).sum / bodies.length - d := by
    rw [sum_map_sub_const, sub_div, mul_div_cancel_left₀ _ count]
  simp only [mean, List.map_map, List.length_map]
  exact Prod.ext (moved (·.x) d.1) (moved (·.y) d.2)

theorem offsets_shift (d : Rat × Rat) (bodies : List (Body Rat)) :
    offsets (bodies.map (shift d)) = offsets bodies := by
  simp only [offsets, List.map_map]
  refine List.map_congr_left fun a _ => List.map_congr_left fun b _ => ?_
  exact sub_sub_sub_cancel_right (place b) (place a) d

end Centering

/-- Over exact arithmetic collisions keep the sum of all velocities weighed by the squares of the
reaches, and repulsion keeps the sum of all velocities where no two boxes share a row or a column,
whatever the roots are. Centering moves the mean to the middle of the picture and no box relative
to another, and does nothing the second time. Collisions and repulsion never fail if no root of a
positive number and no random number is zero. -/
theorem forces_conserve (exact : arith.IsExact) (s : ForceSettings Rat) (state : Simulation Rat ρ)
    (boxes : state.bodies ≠ []) :
    (∀ next, colliding arith s state = .ok next →
      (next.bodies.map fun b => weighted (reach arith s b) b).sum
        = (state.bodies.map fun b => weighted (reach arith s b) b).sum) ∧
    ((state.bodies.Pairwise fun a b => a.x ≠ b.x ∧ a.y ≠ b.y) →
      ∀ next, repelling arith s state = .ok next →
        (next.bodies.map velocity).sum = (state.bodies.map velocity).sum) ∧
    (∃ next, centering arith s state = .ok next ∧ mean next.bodies = center s ∧
      offsets next.bodies = offsets state.bodies ∧ centering arith s next = .ok next) ∧
    (arith.NeverZero →
      (∃ next, colliding arith s state = .ok next) ∧
      ∃ next, repelling arith s state = .ok next) := by
  refine ⟨fun next => sum_colliding exact, fun apart next => sum_repelling exact apart, ?_,
    fun never => ⟨exists_colliding exact never s state, exists_repelling exact never s state⟩⟩
  have moved : (state.bodies.map (shift (mean state.bodies - center s))) ≠ [] :=
    mt List.map_eq_nil_iff.mp boxes
  have centered : mean (state.bodies.map (shift (mean state.bodies - center s))) = center s := by
    rw [mean_shift _ boxes, sub_sub_cancel]
  refine ⟨_, centering_eq exact boxes, centered, offsets_shift _ _, ?_⟩
  rw [centering_eq exact moved, centered, sub_self]
  have still : shift 0 = id := funext fun b => by
    simp only [shift, Prod.fst_zero, Prod.snd_zero, sub_zero, id_eq]
  rw [still, List.map_id]

/-- Two boxes of thirty by forty, the first of which moves. -/
private def twoBoxes : Simulation Rat Unit where
  bodies := [⟨"A", 30, 40, -3, 0, 3, 0⟩, ⟨"B", 30, 40, 60, 80, 0, 0⟩]
  springs := []
  alpha := 1
  ticks := 0
  random := ()

/-- The two boxes have a reach of eighty-five each, push each other apart and repel each other. -/
theorem twoBoxes_conserved : ∃ pushed repelled centered,
    colliding .ofSquares .usual twoBoxes = .ok pushed ∧
    (pushed.bodies.map fun b => weighted (reach .ofSquares .usual b) b).sum = (85 * 85 * 3, 0) ∧
    repelling .ofSquares .usual twoBoxes = .ok repelled ∧
    (repelled.bodies.map velocity).sum = (3, 0) ∧
    centering .ofSquares .usual twoBoxes = .ok centered ∧
    mean centered.bodies = (960, 540) ∧ centering .ofSquares .usual centered = .ok centered := by
  obtain ⟨collision, repulsion, ⟨centered, centering, middle, -, again⟩, returns⟩ :=
    forces_conserve ForceArithmetic.isExact_ofSquares .usual twoBoxes (List.cons_ne_nil _ _)
  obtain ⟨⟨pushed, colliding⟩, repelled, repelling⟩ := returns ForceArithmetic.neverZero_ofSquares
  have weights := collision pushed colliding
  have velocities := repulsion (by decide +kernel) repelled repelling
  exact ⟨pushed, repelled, centered, colliding, weights.trans (by decide +kernel), repelling,
    velocities.trans (by decide +kernel), centering, middle.trans (by decide +kernel), again⟩

end SiteAtlas.Force
