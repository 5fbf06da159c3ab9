import SiteAtlas.Proofs.Layout.Overlap
import Mathlib.Algebra.BigOperators.Group.List.Basic

/-! # What pushing and stacking keep

A push moves its two boxes by opposite amounts, so that the passes keep the sums of the places along
both axes. They end as soon as all boxes are spaced, and never otherwise before the last one: what
they leave is not changed by a second run. Boxes that are stacked afterwards only go down.
-/

namespace SiteAtlas

namespace Overlap

variable {gap : Rat} {bodies : List (Body Rat)}

section Conservation

/-- A quantity that parting boxes only pass on to each other. -/
def Passed (gap : Rat) (weight : Body Rat → Rat) : Prop :=
  ∀ a b a' b', Parted gap a b a' b' → weight a' + weight b' = weight a + weight b

theorem passed_x (gap : Rat) : Passed gap Body.x := by
  intro a b a' b' parted
  cases parted with
  | across shift _ first second =>
    rw [first, second]
    change a.x + shift + (b.x - shift) = a.x + b.x
    ring
  | down shift _ first second =>
    rw [first, second]

theorem passed_y (gap : Rat) : Passed gap Body.y := by
  intro a b a' b' parted
  cases parted with
  | across shift _ first second =>
    rw [first, second]
  | down shift _ first second =>
    rw [first, second]
    change a.y + shift + (b.y - shift) = a.y + b.y
    ring

variable {weight : Body Rat → Rat}

theorem Passed.balances (passed : Passed gap weight) : MeetBalances weight (pushing gap) := by
  intro _ a b moved a' b' moved' met
  obtain ⟨-, stays⟩ | ⟨-, first, second, pushed, parted⟩ := push_cases gap a b moved
  · cases stays.symm.trans (Except.ok.inj met)
    rfl
  · cases pushed.symm.trans (Except.ok.inj met)
    exact passed a b a' b' parted

theorem sum_pass (passed : Passed gap weight) (bodies : List (Body Rat)) :
    ((pass gap bodies).1.map weight).sum = (bodies.map weight).sum :=
  sum_forPairs passed.balances (forPairs_pass gap bodies)

/-- What parting boxes pass on to each other has the same sum after any number of passes. -/
theorem sum_passes (passed : Passed gap weight) (fuel done : Nat) (bodies : List (Body Rat)) :
    ((passes gap fuel done bodies).1.map weight).sum = (bodies.map weight).sum := by
  induction fuel generalizing done bodies with
  | zero => rfl
  | succ fuel ih =>
    simp only [passes]
    split
    · exact (ih _ _).trans (sum_pass passed bodies)
    · exact sum_pass passed bodies

end Conservation

section Rest

/-- A pass over spaced boxes moves nothing. -/
theorem pass_of_spaced (spaced : bodies.Pairwise (Body.Spaced gap)) :
    pass gap bodies = (bodies, false) := by
  have rests : bodies.Pairwise fun a b => pushing gap () a b false = .ok (a, b, false) := by
    refine spaced.imp fun {a b} near => ?_
    obtain ⟨-, stays⟩ | ⟨close, -⟩ := push_cases gap a b false
    · exact congrArg Except.ok stays
    · exact absurd near close
  have run : forPairs (fun _ => ()) (pushing gap) bodies false = .ok (bodies, false) :=
    forPairs_eq_self rests
  exact Except.ok.inj ((forPairs_pass gap bodies).symm.trans run)

/-- The first pass over spaced boxes is the last one. -/
theorem passes_of_spaced {fuel done : Nat} (spaced : bodies.Pairwise (Body.Spaced gap)) :
    passes gap (fuel + 1) done bodies = (bodies, done + 1, true) := by
  simp only [passes, pass_of_spaced spaced, Bool.false_eq_true, ↓reduceIte]

theorem resolve_of_spaced (spaced : bodies.Pairwise (Body.Spaced gap)) :
    resolve gap bodies = (bodies, 1) := by
  have run : passes gap maxPasses 0 bodies = (bodies, 1, true) := passes_of_spaced spaced
  simp only [resolve, run, ↓reduceIte]

end Rest

section Counting

/-- With passes left, at least one more is made, and no more than are left. -/
theorem count_passes (gap : Rat) (fuel done : Nat) (bodies : List (Body Rat)) :
    done < (passes gap (fuel + 1) done bodies).2.1 ∧
      (passes gap (fuel + 1) done bodies).2.1 ≤ done + (fuel + 1) := by
  -- A pass that moves nothing ends the count, and so does the last one, whatever it moves.
  induction fuel generalizing done bodies with
  | zero =>
    simp only [passes]
    split <;> exact ⟨Nat.lt_succ_self done, Nat.le_refl _⟩
  | succ fuel ih =>
    rw [passes]
    dsimp only
    split
    · obtain ⟨more, within⟩ := ih (done + 1) (pass gap bodies).1
      omega
    · dsimp only
      omega

theorem count_resolve (gap : Rat) (bodies : List (Body Rat)) :
    (resolve gap bodies).2 = (passes gap maxPasses 0 bodies).2.1 := by
  simp only [resolve]
  split <;> rfl

end Counting

section Stages

/-- One of the passes moves nothing, so that no box is stacked. -/
def Settles (gap : Rat) (bodies : List (Body Rat)) : Prop :=
  (passes gap maxPasses 0 bodies).2.2 = true

instance (gap : Rat) (bodies : List (Body Rat)) : Decidable (Settles gap bodies) :=
  inferInstanceAs (Decidable (_ = _))

theorem Settles.resolve_eq (settles : Settles gap bodies) :
    (resolve gap bodies).1 = (passes gap maxPasses 0 bodies).1 := by
  have stays : (passes gap maxPasses 0 bodies).2.2 = true := settles
  simp only [resolve, stays, ↓reduceIte]

theorem resolve_eq_stack (unsettled : ¬ Settles gap bodies) :
    (resolve gap bodies).1 = stack gap (passes gap maxPasses 0 bodies).1 := by
  have moves : (passes gap maxPasses 0 bodies).2.2 = false := Bool.eq_false_iff.mpr unsettled
  simp only [resolve, moves, Bool.false_eq_true, ↓reduceIte]

/-- A second run after passes that came to rest changes nothing. -/
theorem Settles.resolve_resolve (settles : Settles gap bodies) :
    resolve gap (resolve gap bodies).1 = ((resolve gap bodies).1, 1) := by
  rw [settles.resolve_eq]
  exact resolve_of_spaced (spaced_of_settled settles)

end Stages

/-- Between one and two hundred passes push the boxes apart, and only their places change. A push
leaves its two boxes exactly the gap apart along its axis. Passes that come to rest have kept the
sums of the places, and a second run does nothing; after passes that do not, boxes are only put
further down. Boxes that are spaced already stay. -/
theorem boxes_pushed_then_stacked (wide : 0 ≤ gap) (bodies : List (Body Rat)) :
    (1 ≤ (resolve gap bodies).2 ∧ (resolve gap bodies).2 ≤ 200) ∧
    (resolve gap bodies).1.map Body.shape = bodies.map Body.shape ∧
    (∀ a b moved, ¬ a.Spaced gap b →
      ∃ a' b', push gap a b moved = (a', b', true) ∧ Parted gap a b a' b') ∧
    (Settles gap bodies →
      ((resolve gap bodies).1.map Body.x).sum = (bodies.map Body.x).sum ∧
      ((resolve gap bodies).1.map Body.y).sum = (bodies.map Body.y).sum ∧
      resolve gap (resolve gap bodies).1 = ((resolve gap bodies).1, 1)) ∧
    (¬ Settles gap bodies →
      List.Forall₂ Body.Sinks (passes gap maxPasses 0 bodies).1 (resolve gap bodies).1) ∧
    (bodies.Pairwise (Body.Spaced gap) → resolve gap bodies = (bodies, 1)) := by
  refine ⟨?counted, resolve_shapes wide bodies, ?parted, ?kept, ?sunk, resolve_of_spaced⟩
  case counted =>
    rw [count_resolve]
    have bounds := count_passes gap 199 0 bodies
    exact ⟨bounds.1, bounds.2⟩
  case parted =>
    intro a b moved close
    obtain ⟨spaced, -⟩ | ⟨-, parts⟩ := push_cases gap a b moved
    · exact absurd spaced close
    · exact parts
  case kept =>
    intro settles
    refine ⟨?_, ?_, settles.resolve_resolve⟩ <;> rw [settles.resolve_eq]
    · exact sum_passes (passed_x gap) _ _ _
    · exact sum_passes (passed_y gap) _ _ _
  case sunk =>
    intro unsettled
    rw [resolve_eq_stack unsettled]
    exact sinks_stack wide _

/-- A nameless box at rest, at a place on one line. -/
def block (width height x : Rat) : Body Rat := ⟨"", width, height, x, 0, 0, 0⟩

/-- Two boxes on the same place part and come to rest. Of three that stand too close together every
pass leaves a part of the overlap, so that they are stacked. Two that are spaced stay. -/
theorem boxes_pushed_then_stacked_of_blocks :
    let pile := [block 2 2 0, block 2 2 0]
    let crowd := [block 2 100 0, block 2 100 1, block 2 100 2]
    let pair := [block 2 2 0, block 2 2 3]
    (∃ a b, push 1 (block 2 2 0) (block 2 2 0) false = (a, b, true) ∧
      Parted 1 (block 2 2 0) (block 2 2 0) a b) ∧
    (Settles 1 pile ∧ ((resolve 1 pile).1.map Body.y).sum = (pile.map Body.y).sum ∧
      resolve 1 (resolve 1 pile).1 = ((resolve 1 pile).1, 1)) ∧
    (¬ Settles 1 crowd ∧
      List.Forall₂ Body.Sinks (passes 1 maxPasses 0 crowd).1 (resolve 1 crowd).1) ∧
    pair.Pairwise (Body.Spaced 1) ∧ resolve 1 pair = (pair, 1) := by
  intro pile crowd pair
  have wide : (0 : Rat) ≤ 1 := by decide +kernel
  have close : ¬ (block 2 2 0).Spaced 1 (block 2 2 0) := by decide +kernel
  have settles : Settles 1 pile := by decide +kernel
  have unsettled : ¬ Settles 1 crowd := by decide +kernel
  have spaced : pair.Pairwise (Body.Spaced 1) := by decide +kernel
  obtain ⟨-, -, parted, kept, -, -⟩ := boxes_pushed_then_stacked wide pile
  obtain ⟨-, -, -, -, sunk, -⟩ := boxes_pushed_then_stacked wide crowd
  obtain ⟨-, -, -, -, -, stays⟩ := boxes_pushed_then_stacked wide pair
  obtain ⟨-, sum, again⟩ := kept settles
  exact ⟨parted _ _ false close, ⟨settles, sum, again⟩, ⟨unsettled, sunk unsettled⟩, spaced,
    stays spaced⟩

end Overlap

end SiteAtlas
