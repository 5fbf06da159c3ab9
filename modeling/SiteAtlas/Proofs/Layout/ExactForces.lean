import SiteAtlas.Layout.Force.Forces
import Mathlib.Algebra.Order.Field.Basic
import Mathlib.Algebra.Order.Ring.Rat
import Mathlib.Data.Nat.Sqrt
import Mathlib.Tactic.Ring

/-! # Forces over exact arithmetic

Exact arithmetic takes quotients and squares as they are and refuses a divisor of zero only. Roots
and random numbers remain arbitrary. A force over exact arithmetic divides by a number that is not
zero if no positive number has the root zero and no random number is zero: a difference of zero is
replaced by a random number, so that the square of a distance is positive.
-/

namespace SiteAtlas

variable {ρ : Type} {arith : ForceArithmetic Rat ρ}

/-- Quotients and squares are exact, and a quotient fails for a divisor of zero only. -/
structure ForceArithmetic.IsExact (arith : ForceArithmetic Rat ρ) : Prop where
  divide (a b : Rat) : arith.divide a b = if b = 0 then .error .divisionByZero else .ok (a / b)
  square (a : Rat) : arith.square a = .ok (a * a)

/-- No positive number has the root zero, and no random number is zero. -/
structure ForceArithmetic.NeverZero (arith : ForceArithmetic Rat ρ) : Prop where
  root (a : Rat) : 0 < a → arith.root a ≠ 0
  jiggle (random : ρ) : (arith.jiggle random).1 ≠ 0

theorem ForceArithmetic.IsExact.divide_of_ne_zero (exact : arith.IsExact) {a b : Rat}
    (divisor : b ≠ 0) : arith.divide a b = .ok (a / b) := by
  rw [exact.divide, if_neg divisor]

theorem ForceArithmetic.IsExact.divide_eq_ok_iff (exact : arith.IsExact) {a b quotient : Rat} :
    arith.divide a b = .ok quotient ↔ b ≠ 0 ∧ quotient = a / b := by
  rw [exact.divide]
  split <;> grind

/-- Exact arithmetic in which the roots of squares are right. -/
def ForceArithmetic.ofSquares : ForceArithmetic Rat Unit :=
  let root (a : Rat) : Rat := (Nat.sqrt a.num.toNat : Rat) / (Nat.sqrt a.den : Rat)
  { divide a b := if b = 0 then .error .divisionByZero else .ok (a / b)
    square a := .ok (a * a)
    root := root
    diagonal a b := root (a * a + b * b)
    jiggle random := (1 / 1000000, random)
    spiral i := (30 * i, 40 * i)
    decay _ := .ok (1 / 100) }

theorem ForceArithmetic.isExact_ofSquares : ofSquares.IsExact := ⟨fun _ _ => rfl, fun _ => rfl⟩

theorem ForceArithmetic.neverZero_ofSquares : ofSquares.NeverZero where
  root a positive := by
    have numerator : 0 < Nat.sqrt a.num.toNat := by
      have whole := Rat.num_pos.mpr positive
      exact Nat.sqrt_pos.mpr (by omega)
    have denominator : 0 < Nat.sqrt a.den := Nat.sqrt_pos.mpr a.den_pos
    exact (div_pos (Nat.cast_pos.mpr numerator) (Nat.cast_pos.mpr denominator)).ne'
  jiggle _ := one_div_ne_zero (by decide)

/-- The usual measures of the force layout as fractions. -/
def ForceSettings.usual : ForceSettings Rat :=
  { viewportWidth := 1920, viewportHeight := 1080, nodeWidth := 320, headerHeight := 56
    footerHeight := 48, fieldRowHeight := 44, sectionDividerHeight := 40, sectionRowHeight := 32
    heightPadding := 20, minHeight := 180, maxHeight := 1200, linkDistance := 350
    linkStrength := 2 / 5, chargeStrength := -1500, chargeDistanceMax := 1000
    chargeDistanceMin := 1, collisionPadding := 60, collisionStrength := 1
    collisionIterations := 3, axisStrength := 3 / 100, ticks := 400, alphaMin := 1 / 1000
    alphaDecayTicks := 300, velocityDecay := 2 / 5, seed := 0 }

theorem Scalar.isZero_iff {a : Rat} : Scalar.isZero a = true ↔ a = 0 := by
  change (a.num == 0) = true ↔ a = 0
  rw [beq_iff_eq, Rat.num_eq_zero]

theorem Scalar.isZero_eq_false {a : Rat} (nonzero : a ≠ 0) : Scalar.isZero a = false :=
  Bool.eq_false_iff.mpr fun zero => nonzero (Scalar.isZero_iff.mp zero)

theorem Scalar.sum_eq (values : List Rat) : Scalar.sum values = values.sum :=
  List.sum_eq_foldl.symm

namespace Force

variable {x y : Rat} {random : ρ}

theorem nonZero_of_ne_zero (nonzero : x ≠ 0) : nonZero arith x random = (x, random) := by
  rw [nonZero, Scalar.isZero_eq_false nonzero]
  rfl

theorem ne_zero_nonZero (never : arith.NeverZero) (x : Rat) (random : ρ) :
    (nonZero arith x random).1 ≠ 0 := by
  by_cases zero : x = 0
  · rw [nonZero, if_pos (Scalar.isZero_iff.mpr zero)]
    exact never.jiggle random
  · rwa [nonZero_of_ne_zero zero]

/-- The square of a random number is added to that of a distance where it replaces a difference of
zero. -/
theorem square_nonZero (arith : ForceArithmetic Rat ρ) (x square : Rat) (random : ρ) :
    (if Scalar.isZero x then
        square + (nonZero arith x random).1 * (nonZero arith x random).1
      else square)
      = square - x * x + (nonZero arith x random).1 * (nonZero arith x random).1 := by
  by_cases zero : x = 0
  · rw [if_pos (Scalar.isZero_iff.mpr zero), zero]
    ring
  · rw [Scalar.isZero_eq_false zero, nonZero_of_ne_zero zero]
    simp only [Bool.false_eq_true, if_false]
    ring

theorem square_pos (nonzero : x ≠ 0) (y : Rat) : 0 < x * x + y * y :=
  add_pos_of_pos_of_nonneg (mul_self_pos.mpr nonzero) (mul_self_nonneg y)

/-- The square of a distance is positive once differences of zero have been replaced. -/
theorem replaced_pos (never : arith.NeverZero) (x y : Rat) (first second : ρ) :
    0 < x * x + y * y - x * x + (nonZero arith x first).1 * (nonZero arith x first).1
      - y * y + (nonZero arith y second).1 * (nonZero arith y second).1 := by
  have replaced := square_pos (ne_zero_nonZero never x first) (nonZero arith y second).1
  rwa [add_sub_cancel_left, add_sub_right_comm, sub_self, zero_add]

end Force

end SiteAtlas
