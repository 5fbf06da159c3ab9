import SiteAtlas.Layout.Placement
import Mathlib.Algebra.Order.Field.Rat
import Mathlib.Tactic.Linarith

/-! # The place found is free

Either the search stops at a place that it has tested, or the box goes below the lowest edge of all
boxes there are. The second place is never tested; that it is free follows from the clearance that
is added to the lowest edge, whatever the padding and the sizes are.
-/

namespace SiteAtlas

section Scalar

theorem Scalar.le_larger_left (a b : Rat) : a ≤ Scalar.larger a b := by
  unfold Scalar.larger
  split <;> linarith

theorem Scalar.le_larger_right (a b : Rat) : b ≤ Scalar.larger a b := by
  unfold Scalar.larger
  split <;> linarith

theorem Scalar.larger_le {a b c : Rat} (left : a ≤ c) (right : b ≤ c) :
    Scalar.larger a b ≤ c := by
  unfold Scalar.larger
  split
  · exact right
  · exact left

/-- The running maximum is at least its start and every edge that it has seen. -/
theorem Scalar.le_foldl_larger {β : Type} (edge : β → Rat) (rest : List β) (low : Rat) :
    low ≤ rest.foldl (fun low b => Scalar.larger low (edge b)) low ∧
      ∀ b ∈ rest, edge b ≤ rest.foldl (fun low b => Scalar.larger low (edge b)) low := by
  induction rest generalizing low with
  | nil => exact ⟨le_refl low, fun _ member => absurd member List.not_mem_nil⟩
  | cons first rest ih =>
    obtain ⟨start, seen⟩ := ih (Scalar.larger low (edge first))
    refine ⟨(Scalar.le_larger_left _ _).trans start, fun b member => ?_⟩
    rcases List.mem_cons.mp member with rfl | member
    · exact (Scalar.le_larger_right _ _).trans start
    · exact seen b member

end Scalar

namespace Box

section Collision

variable {α : Type} [Scalar α] {padding : α} {a b : Box α}

/-- Boxes are apart when one lies beyond an edge of the other, both grown. -/
theorem collides_eq_false_iff : collides padding a b = false ↔
    b.right padding < a.left padding ∨ a.right padding < b.left padding ∨
      b.bottom padding < a.top padding ∨ a.bottom padding < b.top padding := by
  simp only [collides, Bool.not_eq_false', Bool.or_eq_true, decide_eq_true_eq, or_assoc]

/-- It does not matter which of two boxes is named first. -/
theorem collides_comm (a b : Box α) : collides padding a b = collides padding b a := by
  simp only [collides, Bool.or_comm, Bool.or_assoc, Bool.or_left_comm]

end Collision

/-- A box that starts more than two paddings below another one is apart from it. -/
theorem collides_eq_false_of_below {padding : Rat} {a b : Box Rat}
    (below : b.y + b.height + 2 * padding < a.y) : collides padding a b = false := by
  refine collides_eq_false_iff.mpr (.inr (.inr (.inl ?_)))
  simp only [bottom, top]
  linarith

/-- A box that starts more than two paddings right of another one is apart from it. -/
theorem collides_eq_false_of_right {padding : Rat} {a b : Box Rat}
    (right : b.x + b.width + 2 * padding < a.x) : collides padding a b = false := by
  refine collides_eq_false_iff.mpr (.inl ?_)
  simp only [Box.right, left]
  linarith

end Box

namespace Placement

section Search

variable {α : Type} [Scalar α] {s : TreeSpacing α}

theorem isFree_iff {width height : α} {existing : List (Box α)} {place : α × α} :
    isFree s width height existing place = true ↔ ∀ other ∈ existing,
      Box.collides s.collisionPadding ⟨place.1, place.2, width, height⟩ other = false := by
  simp only [isFree, Bool.not_eq_true', List.any_eq_false, Bool.not_eq_true]

/-- The search answers with a place only after testing it. -/
theorem free_of_search {free : α × α → Bool} {fuel k : Nat} {place found : α × α}
    (success : search s free fuel k place = some found) : free found = true := by
  induction fuel generalizing k place with
  | zero => cases success
  | succ fuel ih =>
    simp only [search] at success
    split_ifs at success with tested
    · cases success
      exact tested
    · exact ih success

/-- A box that is free at its first place stays there, if there is an attempt at all. -/
theorem find_eq_self {width height : α} {existing : List (Box α)} {start : α × α}
    (attempts : 1 ≤ s.maxAttempts) (free : isFree s width height existing start = true) :
    find s width height existing start = start := by
  obtain ⟨fuel, isFuel⟩ := Nat.exists_eq_add_one.mpr (show 0 < s.maxAttempts.toNat by omega)
  rw [find, isFuel, search, if_pos free, Option.getD_some]

end Search

/-- No box reaches below the lowest edge. -/
theorem bottom_le_lowest (start : Rat) {existing : List (Box Rat)} {b : Box Rat}
    (member : b ∈ existing) : b.y + b.height ≤ lowest start existing := by
  cases existing with
  | nil => exact absurd member List.not_mem_nil
  | cons first rest =>
    obtain ⟨start, seen⟩ := Scalar.le_foldl_larger (fun b : Box Rat => b.y + b.height) rest
      (first.y + first.height)
    rcases List.mem_cons.mp member with rfl | member
    · exact start
    · exact seen b member

variable (s : TreeSpacing Rat) (width height : Rat) (existing : List (Box Rat)) (start : Rat × Rat)

/-- The place below everything else clears every box by one more than two paddings. -/
theorem clearance_of_fallback {b : Box Rat} (member : b ∈ existing) :
    b.y + b.height + 2 * s.collisionPadding + 1 ≤ (fallback s existing start).2 := by
  have deep := Scalar.le_larger_right (start.2 + (s.maxAttempts.toNat : Rat) * s.verticalIncrement)
    (lowest start.2 existing + ((2 : Nat) : Rat) * s.collisionPadding + ((1 : Nat) : Rat))
  have low := bottom_le_lowest start.2 member
  change _ ≤ (fallback s existing start).2 at deep
  push_cast at deep
  linarith

/-- A box of any size is free at the place found for it, however few places were tried. -/
theorem isFree_find :
    isFree s width height existing (find s width height existing start) = true := by
  unfold find
  cases found : search s (isFree s width height existing) s.maxAttempts.toNat 0 start with
  | some place => exact free_of_search found
  | none =>
    refine isFree_iff.mpr fun b member => Box.collides_eq_false_of_below ?_
    have clear := clearance_of_fallback s existing start member
    change b.y + b.height + 2 * s.collisionPadding < (fallback s existing start).2
    linarith

end Placement

end SiteAtlas
