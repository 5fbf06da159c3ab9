import SiteAtlas.Proofs.Layout.Placement
import Mathlib.Algebra.Order.Field.Basic
import Mathlib.Data.List.Nodup
import Mathlib.Tactic.Ring

/-! # The places tried

The search for a free place goes straight down at first. Then it steps aside and back, time and
again at the same height, and always to the left; from there on it goes down in half steps, between
the column on the left and the one half a step to its right. So the eighth place that it tests was
tested before, as were the three behind it, and nothing to the right of the start is ever tested.
-/

namespace SiteAtlas.Placement

/-! ## What is tested -/

section Order

variable {α : Type} [Scalar α] {s : TreeSpacing α} {free : α × α → Bool} {start : α × α}

/-- The place tried by the attempt of a number, if all attempts before it fail. -/
def tried (s : TreeSpacing α) (start : α × α) : Nat → α × α
  | 0 => start
  | k + 1 => nextPlace s k (tried s start k)

/-- The places that the search tests, in order. -/
def tested (s : TreeSpacing α) (free : α × α → Bool) : (fuel k : Nat) → α × α → List (α × α)
  | 0, _, _ => []
  | fuel + 1, k, place =>
    place :: if free place then [] else tested s free fuel (k + 1) (nextPlace s k place)

/-- The places that are tested for a box of the given size that should stand at `start`. -/
def testedFor (s : TreeSpacing α) (width height : α) (existing : List (Box α)) (start : α × α) :
    List (α × α) :=
  tested s (isFree s width height existing) s.maxAttempts.toNat 0 start

/-- The search answers with the first place that passes the test. -/
theorem search_eq_find? (free : α × α → Bool) (fuel k : Nat) (place : α × α) :
    search s free fuel k place = (tested s free fuel k place).find? free := by
  induction fuel generalizing k place with
  | zero => rfl
  | succ fuel ih =>
    rw [search, tested]
    split_ifs with passed
    · rw [List.find?_cons_of_pos passed]
    · rw [List.find?_cons_of_neg passed, ih]

theorem exists_tried_of_mem_tested {fuel k : Nat} {place : α × α}
    (member : place ∈ tested s free fuel k (tried s start k)) : ∃ l, place = tried s start l := by
  induction fuel generalizing k with
  | zero => exact absurd member List.not_mem_nil
  | succ fuel ih =>
    rw [tested] at member
    rcases List.mem_cons.mp member with rfl | member
    · exact ⟨k, rfl⟩
    · split_ifs at member
      · exact absurd member List.not_mem_nil
      · exact ih member

/-- If no test is passed, each attempt tests its place. -/
theorem tested_eq_map_tried (start : α × α) {fuel k : Nat}
    (blocked : ∀ place ∈ tested s free fuel k (tried s start k), free place = false) :
    tested s free fuel k (tried s start k) = (List.range' k fuel).map (tried s start) := by
  induction fuel generalizing k with
  | zero => rfl
  | succ fuel ih =>
    have failed : ¬ free (tried s start k) = true :=
      Bool.eq_false_iff.mp (blocked _ List.mem_cons_self)
    rw [tested, if_neg failed] at blocked ⊢
    rw [List.range'_succ, List.map_cons]
    exact congrArg _ (ih fun place member => blocked place (List.mem_cons_of_mem _ member))

end Order

/-! ## Where the attempts lie -/

/-- How far left of the start an attempt lies, in halves of the horizontal increment. -/
def aside (k : Nat) : Int :=
  if k ≤ 5 then 0 else if k % 2 = 0 then 2 else if k ≤ 10 then 0 else 1

/-- How far below the start an attempt lies, in halves of the vertical increment. -/
def drop (k : Nat) : Int := if k ≤ 5 then 2 * k else if k ≤ 10 then 10 else k

section Attempts

variable {s : TreeSpacing Rat} {start : Rat × Rat} {k l : Nat}

theorem nextPlace_eq (s : TreeSpacing Rat) (k : Nat) (place : Rat × Rat) :
    nextPlace s k place =
      (place.1 - (aside (k + 1) - aside k : Int) * (s.horizontalIncrement / 2),
        place.2 + (drop (k + 1) - drop k : Int) * (s.verticalIncrement / 2)) := by
  have half (a : Rat) : Scalar.half a = a / 2 := rfl
  have across : aside (k + 1) - aside k =
      if k < 5 then 0 else if k < 10 then if k % 2 = 0 then -2 else 2
      else if k % 2 = 0 then -1 else 1 := by
    unfold aside
    split_ifs <;> omega
  have down : drop (k + 1) - drop k = if k < 5 then 2 else if k < 10 then 0 else 1 := by
    unfold drop
    split_ifs <;> omega
  rw [across, down]
  unfold nextPlace
  split_ifs <;> simp only [half, Prod.mk.injEq] <;> constructor <;> push_cast <;> ring

theorem tried_eq (s : TreeSpacing Rat) (start : Rat × Rat) (k : Nat) : tried s start k =
    (start.1 - aside k * (s.horizontalIncrement / 2),
      start.2 + drop k * (s.verticalIncrement / 2)) := by
  induction k with
  | zero => simp [tried, aside, drop]
  | succ k ih =>
    rw [tried, ih, nextPlace_eq, Prod.mk.injEq]
    push_cast
    constructor <;> ring

/-- Two attempts try the same place exactly if both are among those that step aside and back, an
even number of steps apart. -/
theorem tried_eq_tried_iff (wide : 0 < s.horizontalIncrement) (high : 0 < s.verticalIncrement)
    (before : k < l) :
    tried s start k = tried s start l ↔ 5 ≤ k ∧ l ≤ 10 ∧ k % 2 = l % 2 := by
  have across (a b : Int) : start.1 - a * (s.horizontalIncrement / 2) =
      start.1 - b * (s.horizontalIncrement / 2) ↔ a = b := by
    rw [sub_right_inj, mul_left_inj' (half_pos wide).ne', Int.cast_inj]
  have down (a b : Int) : start.2 + a * (s.verticalIncrement / 2) =
      start.2 + b * (s.verticalIncrement / 2) ↔ a = b := by
    rw [add_right_inj, mul_left_inj' (half_pos high).ne', Int.cast_inj]
  rw [tried_eq, tried_eq, Prod.mk.injEq, across, down]
  unfold aside drop
  split_ifs <;> omega

theorem nodup_map_tried_iff (wide : 0 < s.horizontalIncrement) (high : 0 < s.verticalIncrement)
    (n : Nat) : ((List.range n).map (tried s start)).Nodup ↔ n ≤ 7 := by
  rw [List.nodup_map_iff_inj_on List.nodup_range]
  simp only [List.mem_range]
  constructor
  · intro distinct
    by_contra many
    have again : tried s start 5 = tried s start 7 :=
      (tried_eq_tried_iff wide high (by omega)).mpr (by omega)
    exact absurd (distinct 5 (by omega) 7 (by omega) again) (by omega)
  · intro few k below l below' same
    rcases lt_trichotomy k l with before | rfl | before
    · obtain ⟨late, -, parity⟩ := (tried_eq_tried_iff wide high before).mp same
      omega
    · rfl
    · obtain ⟨late, -, parity⟩ := (tried_eq_tried_iff wide high before).mp same.symm
      omega

/-- No attempt is made to the right of the start. -/
theorem tried_fst_le (wide : 0 ≤ s.horizontalIncrement) (k : Nat) :
    (tried s start k).1 ≤ start.1 := by
  have left : 0 ≤ aside k := by
    unfold aside
    split_ifs <;> omega
  rw [tried_eq]
  exact sub_le_self _ (mul_nonneg (Int.cast_nonneg left) (div_nonneg wide zero_le_two))

/-- The first attempt to the left of the start is the seventh one. -/
theorem tried_fst_lt_iff (wide : 0 < s.horizontalIncrement) :
    (tried s start k).1 < start.1 ↔ k = 6 ∨ k = 8 ∨ 10 ≤ k := by
  have left : 0 < aside k ↔ k = 6 ∨ k = 8 ∨ 10 ≤ k := by
    unfold aside
    split_ifs <;> omega
  rw [tried_eq, sub_lt_self_iff, mul_pos_iff_of_pos_right (half_pos wide), Int.cast_pos, left]

end Attempts

/-- Where every place tested for a box is taken, a place is tested a second time exactly by the
attempts with the numbers 7 to 10 (counted from zero), so the places are distinct only for up to
seven attempts. Both sides of the start are never tested: no place lies to its right, and from the
seventh attempt on there is one to its left. -/
theorem tested_places_distinct_iff {s : TreeSpacing Rat} (wide : 0 < s.horizontalIncrement)
    (high : 0 < s.verticalIncrement) {width height : Rat} {existing : List (Box Rat)}
    {start : Rat × Rat}
    (blocked : ∀ place ∈ testedFor s width height existing start,
      isFree s width height existing place = false) :
    let places := testedFor s width height existing start
    places.length = s.maxAttempts.toNat ∧
    (∀ i j, i < j → j < places.length →
      (places[i]? = places[j]? ↔ 5 ≤ i ∧ j ≤ 10 ∧ i % 2 = j % 2)) ∧
    (places.Nodup ↔ s.maxAttempts ≤ 7) ∧
    (∀ place ∈ places, place.1 ≤ start.1) ∧
    ((∃ place ∈ places, place.1 < start.1) ↔ 7 ≤ s.maxAttempts) := by
  intro places
  have order : places = (List.range s.maxAttempts.toNat).map (tried s start) := by
    rw [List.range_eq_range']
    exact tested_eq_map_tried start (k := 0) blocked
  have length : places.length = s.maxAttempts.toNat := by
    rw [order, List.length_map, List.length_range]
  refine ⟨length, ?_, ?_, ?_, ?_⟩
  · intro i j before inside
    have place (k : Nat) (below : k < s.maxAttempts.toNat) :
        places[k]? = some (tried s start k) := by
      rw [order, List.getElem?_map, List.getElem?_range below, Option.map_some]
    rw [place i (by omega), place j (by omega), Option.some_inj]
    exact tried_eq_tried_iff wide high before
  · rw [order, nodup_map_tried_iff wide high]
    omega
  · intro place member
    rw [order] at member
    obtain ⟨k, -, rfl⟩ := List.mem_map.mp member
    exact tried_fst_le wide.le k
  · rw [order]
    constructor
    · rintro ⟨place, member, left⟩
      obtain ⟨k, below, rfl⟩ := List.mem_map.mp member
      have late := (tried_fst_lt_iff wide).mp left
      rw [List.mem_range] at below
      omega
    · intro enough
      have below : 6 ∈ List.range s.maxAttempts.toNat := List.mem_range.mpr (by omega)
      exact ⟨_, List.mem_map_of_mem below, (tried_fst_lt_iff wide).mpr (.inl rfl)⟩

/-- Two high walls with a gap between them that is right of the place where a box should stand. -/
def twoWalls : List (Box Rat) := [⟨-1000, -1000, 1050, 6000⟩, ⟨200, -1000, 1000, 6000⟩]

/-- Seven attempts between the walls test seven places, one of them to the left. -/
theorem tested_places_distinct_between_walls :
    let s : TreeSpacing Rat := { TreeSpacing.standard with maxAttempts := 7 }
    0 < s.horizontalIncrement ∧ 0 < s.verticalIncrement ∧
    (∀ place ∈ testedFor s 10 10 twoWalls (0, 0), isFree s 10 10 twoWalls place = false) ∧
    (testedFor s 10 10 twoWalls (0, 0)).Nodup ∧
    ∃ place ∈ testedFor s 10 10 twoWalls (0, 0), place.1 < 0 := by
  intro s
  have wide : 0 < s.horizontalIncrement := by decide +kernel
  have high : 0 < s.verticalIncrement := by decide +kernel
  have blocked : ∀ place ∈ testedFor s 10 10 twoWalls (0, 0),
      isFree s 10 10 twoWalls place = false := by decide +kernel
  obtain ⟨-, -, distinct, -, left⟩ := tested_places_distinct_iff wide high blocked
  exact ⟨wide, high, blocked, distinct.mpr (by decide), left.mpr (by decide)⟩

/-- With the standard measures the box is tested twenty times between the walls, several times at
one place and never to the right, where the gap is; so it goes below the walls. -/
theorem gap_missed_between_walls :
    let s : TreeSpacing Rat := .standard
    0 < s.horizontalIncrement ∧ 0 < s.verticalIncrement ∧ 10 ≤ s.maxAttempts ∧
    (∀ place ∈ testedFor s 10 10 twoWalls (0, 0), isFree s 10 10 twoWalls place = false) ∧
    ¬ (testedFor s 10 10 twoWalls (0, 0)).Nodup ∧
    (∀ place ∈ testedFor s 10 10 twoWalls (0, 0), ¬ 0 < place.1) ∧
    isFree s 10 10 twoWalls (120, 750) = true ∧
    find s 10 10 twoWalls (0, 0) = (120, 5041) := by
  decide +kernel

end SiteAtlas.Placement
