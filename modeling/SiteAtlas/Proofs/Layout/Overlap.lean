import SiteAtlas.Layout.Box
import SiteAtlas.Layout.Overlap
import SiteAtlas.Proofs.Layout.Pairs
import SiteAtlas.Proofs.Layout.Placement
import Mathlib.Data.List.Forall2
import Mathlib.Tactic.Ring

/-! # Boxes pushed and stacked are apart

A pass that moves nothing has seen that every two boxes are further apart than the gap. When all
passes are used up, boxes may still overlap; then each overlapping box goes below all others. That
place is at least the gap below everything else, so no pair that was apart before comes together
again, and one sweep over all pairs is enough.
-/

namespace SiteAtlas

section Scalar

theorem Scalar.half_eq (a : Rat) : Scalar.half a = a / 2 := rfl

theorem Scalar.size_eq (a : Rat) : Scalar.size a = |a| := by
  change (if a < 0 then -a else a) = |a|
  split
  · rename_i negative
    rw [abs_of_neg negative]
  · rename_i positive
    rw [abs_of_nonneg (not_lt.mp positive)]

end Scalar

namespace Box

/-- The part common to two boxes has a positive area. -/
def Overlaps (a b : Box Rat) : Prop :=
  max a.x b.x < min (a.x + a.width) (b.x + b.width) ∧
    max a.y b.y < min (a.y + a.height) (b.y + b.height)

/-- One box lies beyond an edge of the other, by at least a gap. -/
def Spaced (gap : Rat) (a b : Box Rat) : Prop :=
  (a.x + a.width + gap ≤ b.x ∨ b.x + b.width + gap ≤ a.x) ∨
    (a.y + a.height + gap ≤ b.y ∨ b.y + b.height + gap ≤ a.y)

/-- One box lies beside the other, exactly a gap away. -/
def Beside (gap : Rat) (a b : Box Rat) : Prop :=
  a.x + a.width + gap = b.x ∨ b.x + b.width + gap = a.x

/-- One box lies above the other, exactly a gap away. -/
def Stacked (gap : Rat) (a b : Box Rat) : Prop :=
  a.y + a.height + gap = b.y ∨ b.y + b.height + gap = a.y

instance (a b : Box Rat) : Decidable (Overlaps a b) := inferInstanceAs (Decidable (_ ∧ _))

instance (gap : Rat) (a b : Box Rat) : Decidable (Spaced gap a b) :=
  inferInstanceAs (Decidable (_ ∨ _))

variable {gap : Rat} {a b : Box Rat}

theorem Spaced.symm (apart : Spaced gap a b) : Spaced gap b a :=
  apart.imp Or.symm Or.symm

theorem Spaced.mono {less : Rat} (smaller : less ≤ gap) (apart : Spaced gap a b) :
    Spaced less a b := by
  refine apart.imp (Or.imp ?_ ?_) (Or.imp ?_ ?_) <;> intro beyond <;> linarith

/-- Boxes that are spaced do not overlap. -/
theorem Spaced.not_overlaps (apart : Spaced 0 a b) : ¬ Overlaps a b := by
  rintro ⟨across, down⟩
  simp only [lt_min_iff, max_lt_iff] at across down
  obtain ⟨⟨-, left⟩, right, -⟩ := across
  obtain ⟨⟨-, top⟩, bottom, -⟩ := down
  obtain (beyond | beyond) | beyond | beyond := apart <;> linarith

end Box

namespace Body

/-- The rectangle around a centre. -/
def box (b : Body Rat) : Box Rat :=
  ⟨b.x - Scalar.half b.width, b.y - Scalar.half b.height, b.width, b.height⟩

/-- What a box is whatever its place: its name and its size. -/
def shape {α : Type} (b : Body α) : String × α × α := (b.id, b.width, b.height)

/-- The second box is the first one, at its place or further down. -/
def Sinks (b b' : Body Rat) : Prop := b' = { b with y := b'.y } ∧ b.y ≤ b'.y

theorem Sinks.refl (b : Body Rat) : b.Sinks b := ⟨rfl, le_refl _⟩

theorem Sinks.trans {a b c : Body Rat} (first : a.Sinks b) (second : b.Sinks c) : a.Sinks c := by
  refine ⟨?_, first.2.trans second.2⟩
  rw [second.1, first.1]

theorem Sinks.shape_eq {b b' : Body Rat} (sinks : b.Sinks b') : b'.shape = b.shape := by
  rw [sinks.1]
  rfl

/-- Boxes given by their centres are apart by a gap. -/
def Spaced (gap : Rat) (a b : Body Rat) : Prop := a.box.Spaced gap b.box

instance (gap : Rat) (a b : Body Rat) : Decidable (a.Spaced gap b) :=
  inferInstanceAs (Decidable (Box.Spaced gap a.box b.box))

end Body

namespace Overlap

variable {gap : Rat}

/-- Two centres are so far apart along one axis that halves and gap fit between them. -/
theorem spaced_iff_depth {a b : Body Rat} :
    a.Spaced gap b ↔ (depth gap a b).1 ≤ 0 ∨ (depth gap a b).2 ≤ 0 := by
  have along (v w c d : Rat) : (c - v / 2 + v + gap ≤ d - w / 2 ∨ d - w / 2 + w + gap ≤ c - v / 2) ↔
      (v + w) / 2 + gap - |c - d| ≤ 0 := by
    rw [sub_nonpos, le_abs, or_comm]
    refine or_congr ?_ ?_ <;> constructor <;> intro beyond <;> linarith
  simp only [Body.Spaced, Box.Spaced, Body.box, depth, Scalar.half_eq, Scalar.size_eq]
  exact or_congr (along _ _ _ _) (along _ _ _ _)

section Passes

/-- The meeting of a pass: two boxes push each other. -/
def pushing (gap : Rat) (_ : Unit) (a b : Body Rat) (moved : Bool) :
    Except Empty (Body Rat × Body Rat × Bool) := .ok (push gap a b moved)

/-- What is between two edges once their centres have been moved away from each other by half of
what was missing is exactly the gap. -/
theorem edges_apart (gap v w c d : Rat) :
    let shift := away c d (((v + w) / 2 + gap - |c - d|) / 2)
    c + shift - v / 2 + v + gap = d - shift - w / 2 ∨
      d - shift - w / 2 + w + gap = c + shift - v / 2 := by
  intro shift
  by_cases before : d ≤ c
  · right
    have far : |c - d| = c - d := abs_of_nonneg (by linarith)
    have moved : shift = ((v + w) / 2 + gap - (c - d)) / 2 := by
      rw [← far]
      exact if_pos before
    rw [moved]
    ring
  · left
    have far : |c - d| = -(c - d) := abs_of_neg (by linarith)
    have moved : shift = -(((v + w) / 2 + gap - -(c - d)) / 2) := by
      rw [← far]
      exact if_neg before
    rw [moved]
    ring

/-- Two boxes are moved by the same amount in opposite directions, along the axis on which they
reach less far into each other, and are exactly the gap apart along it then. -/
inductive Parted (gap : Rat) (a b : Body Rat) : Body Rat → Body Rat → Prop
  | across (shift : Rat) {a' b' : Body Rat} (shallower : (depth gap a b).1 < (depth gap a b).2)
      (first : a' = { a with x := a.x + shift }) (second : b' = { b with x := b.x - shift })
      (apart : a'.box.Beside gap b'.box) : Parted gap a b a' b'
  | down (shift : Rat) {a' b' : Body Rat} (shallower : (depth gap a b).2 ≤ (depth gap a b).1)
      (first : a' = { a with y := a.y + shift }) (second : b' = { b with y := b.y - shift })
      (apart : a'.box.Stacked gap b'.box) : Parted gap a b a' b'

/-- What two boxes do to each other: nothing if they are spaced, otherwise they part. -/
theorem push_cases (gap : Rat) (a b : Body Rat) (moved : Bool) :
    (a.Spaced gap b ∧ push gap a b moved = (a, b, moved)) ∨
      ¬ a.Spaced gap b ∧ ∃ a' b', push gap a b moved = (a', b', true) ∧ Parted gap a b a' b' := by
  rw [spaced_iff_depth]
  simp only [push]
  split_ifs with spaced shallower
  · exact .inl ⟨spaced, rfl⟩
  · refine .inr ⟨spaced, _, _, rfl, .across _ shallower rfl rfl ?_⟩
    simp only [Box.Beside, Body.box, depth, Scalar.half_eq, Scalar.size_eq]
    exact edges_apart gap a.width b.width a.x b.x
  · refine .inr ⟨spaced, _, _, rfl, .down _ (not_lt.mp shallower) rfl rfl ?_⟩
    simp only [Box.Stacked, Body.box, depth, Scalar.half_eq, Scalar.size_eq]
    exact edges_apart gap a.height b.height a.y b.y

theorem Parted.shapes_eq {a b a' b' : Body Rat} (parted : Parted gap a b a' b') :
    a'.shape = a.shape ∧ b'.shape = b.shape := by
  cases parted with
  | across shift _ first second => exact ⟨first ▸ rfl, second ▸ rfl⟩
  | down shift _ first second => exact ⟨first ▸ rfl, second ▸ rfl⟩

theorem push_shapes (gap : Rat) (a b : Body Rat) (moved : Bool) :
    (push gap a b moved).1.shape = a.shape ∧ (push gap a b moved).2.1.shape = b.shape := by
  obtain ⟨-, stays⟩ | ⟨-, a', b', pushed, parted⟩ := push_cases gap a b moved
  · rw [stays]
    exact ⟨rfl, rfl⟩
  · rw [pushed]
    exact parted.shapes_eq

/-- Nothing has been moved only if the two boxes were spaced, and then they stay. -/
theorem unmoved_push {a b a' b' : Body Rat} {moved : Bool}
    (unmoved : push gap a b moved = (a', b', false)) :
    moved = false ∧ a.Spaced gap b ∧ a' = a ∧ b' = b := by
  obtain ⟨spaced, stays⟩ | ⟨-, _, _, pushed, -⟩ := push_cases gap a b moved
  · cases stays.symm.trans unmoved
    exact ⟨rfl, spaced, rfl, rfl⟩
  · cases pushed.symm.trans unmoved

private theorem unmoved_meetAll {a last : Body Rat} {rest all : List (Body Rat)} {moved : Bool}
    (unmoved : meetAll (pushing gap) () a rest moved = .ok (last, all, false)) :
    moved = false ∧ (∀ b ∈ rest, a.Spaced gap b) ∧ last = a ∧ all = rest := by
  induction rest generalizing a moved all with
  | nil =>
    cases unmoved
    exact ⟨rfl, fun b member => absurd member List.not_mem_nil, rfl, rfl⟩
  | cons b rest ih =>
    obtain ⟨first, other, state, others, met, run, rfl⟩ := exists_of_meetAll_cons unmoved
    obtain ⟨rfl, spaced, rfl, rfl⟩ := ih run
    obtain ⟨rfl, near, rfl, rfl⟩ := unmoved_push (Except.ok.inj met)
    refine ⟨rfl, fun c member => ?_, rfl, rfl⟩
    rcases List.mem_cons.mp member with rfl | member
    · exact near
    · exact spaced c member

private theorem unmoved_forPairsFrom {count : Nat} {bodies all : List (Body Rat)} {moved : Bool}
    (unmoved : forPairsFrom (fun _ => ()) (pushing gap) count bodies moved = .ok (all, false)) :
    moved = false ∧ all = bodies ∧ (bodies.length ≤ count → bodies.Pairwise (Body.Spaced gap)) := by
  induction count generalizing bodies moved all with
  | zero =>
    cases unmoved
    refine ⟨rfl, rfl, fun short => ?_⟩
    rw [List.eq_nil_of_length_eq_zero (Nat.le_zero.mp short)]
    exact List.Pairwise.nil
  | succ count ih =>
    cases bodies with
    | nil =>
      cases unmoved
      exact ⟨rfl, rfl, fun _ => List.Pairwise.nil⟩
    | cons a rest =>
      obtain ⟨first, others, state, last, met, run, rfl⟩ := exists_of_forPairsFrom_cons unmoved
      -- The later rows come first: they moved nothing, so the flag was still unset before them.
      obtain ⟨rfl, rfl, later⟩ := ih run
      obtain ⟨rfl, spaced, rfl, rfl⟩ := unmoved_meetAll met
      refine ⟨rfl, rfl, fun short => List.Pairwise.cons spaced (later ?_)⟩
      exact Nat.le_of_succ_le_succ short

theorem forPairs_pass (gap : Rat) (bodies : List (Body Rat)) :
    forPairs (fun _ => ()) (pushing gap) bodies false = .ok (pass gap bodies) := by
  unfold pass
  split
  rename_i result success
  exact success

/-- A pass changes neither the names nor the sizes of the boxes. -/
theorem pass_shapes (gap : Rat) (bodies : List (Body Rat)) :
    (pass gap bodies).1.map Body.shape = bodies.map Body.shape := by
  refine map_forPairs ?_ (forPairs_pass gap bodies)
  intro _ a b moved a' b' moved' met
  have kept := push_shapes gap a b moved
  rw [Except.ok.inj met] at kept
  exact kept

/-- A pass that moves nothing leaves the boxes as they are, and they are spaced. -/
theorem unmoved_pass {bodies : List (Body Rat)} (unmoved : (pass gap bodies).2 = false) :
    (pass gap bodies).1 = bodies ∧ bodies.Pairwise (Body.Spaced gap) := by
  have run := forPairs_pass gap bodies
  rw [← Prod.eta (pass gap bodies), unmoved] at run
  obtain ⟨-, same, spaced⟩ := unmoved_forPairsFrom run
  exact ⟨same, spaced (Nat.le_refl _)⟩

/-- The boxes after a number of passes. -/
def afterPasses (gap : Rat) (count : Nat) (bodies : List (Body Rat)) : List (Body Rat) :=
  (fun b => (pass gap b).1)^[count] bodies

theorem passes_shapes (gap : Rat) (fuel done : Nat) (bodies : List (Body Rat)) :
    (passes gap fuel done bodies).1.map Body.shape = bodies.map Body.shape := by
  induction fuel generalizing done bodies with
  | zero => rfl
  | succ fuel ih =>
    simp only [passes]
    split
    · exact (ih _ _).trans (pass_shapes gap bodies)
    · exact pass_shapes gap bodies

/-- When the passes end because one moved nothing, the boxes are spaced. -/
theorem spaced_of_settled {fuel done : Nat} {bodies : List (Body Rat)}
    (settled : (passes gap fuel done bodies).2.2 = true) :
    (passes gap fuel done bodies).1.Pairwise (Body.Spaced gap) := by
  induction fuel generalizing done bodies with
  | zero => cases settled
  | succ fuel ih =>
    simp only [passes] at settled ⊢
    split at settled
    · rename_i moved
      rw [if_pos moved]
      exact ih settled
    · rename_i moved
      obtain ⟨same, spaced⟩ := unmoved_pass (Bool.eq_false_iff.mpr moved)
      rw [if_neg moved, same]
      exact spaced

/-- The passes end as soon as one of them moves nothing. -/
theorem settled_of_unmoved {fuel done k : Nat} {bodies : List (Body Rat)} (inTime : k < fuel)
    (unmoved : (pass gap (afterPasses gap k bodies)).2 = false) :
    (passes gap fuel done bodies).2.2 = true := by
  induction fuel generalizing done k bodies with
  | zero => omega
  | succ fuel ih =>
    simp only [passes]
    split
    · rename_i moved
      cases k with
      | zero => exact absurd moved (Bool.eq_false_iff.mp unmoved)
      | succ k => exact ih (Nat.lt_of_succ_lt_succ inTime) unmoved
    · rfl

end Passes

section Stacking

/-- No box other than the one left out reaches below the lowest edge. -/
theorem bottom_le_lowest {bodies : List (Body Rat)} {low : Rat} (found : lowest bodies = some low)
    {b : Body Rat} (member : b ∈ bodies) : b.y + Scalar.half b.height ≤ low := by
  cases bodies with
  | nil => exact absurd member List.not_mem_nil
  | cons first rest =>
    obtain ⟨start, seen⟩ := Scalar.le_foldl_larger (fun b : Body Rat => b.y + Scalar.half b.height)
      rest (first.y + Scalar.half first.height)
    cases found
    rcases List.mem_cons.mp member with rfl | member
    · exact start
    · exact seen b member

/-- The boxes at two places are apart, where there are any. -/
def Apart (bodies : List (Body Rat)) (i j : Nat) : Prop :=
  ∀ a b, bodies[i]? = some a → bodies[j]? = some b → a.Spaced 0 b

theorem Apart.symm {bodies : List (Body Rat)} {i j : Nat} (apart : Apart bodies i j) :
    Apart bodies j i := fun a b first second => (apart b a second first).symm

/-- One stacking step either finds two boxes apart and changes nothing, or puts the second one
further down, at a place where it is apart from all others. -/
theorem stackPair_cases (wide : 0 ≤ gap) (bodies : List (Body Rat)) {i j : Nat}
    (distinct : i ≠ j) :
    (stackPair gap bodies (i, j) = bodies ∧ Apart bodies i j) ∨
      ∃ b moved, bodies[j]? = some b ∧ b.Sinks moved ∧
        stackPair gap bodies (i, j) = bodies.set j moved ∧
        ∀ k c, k ≠ j → bodies[k]? = some c → c.Spaced 0 moved := by
  simp only [stackPair]
  split
  · rename_i a b first second
    have pair (c d : Body Rat) (isFirst : bodies[i]? = some c) (isSecond : bodies[j]? = some d) :
        c = a ∧ d = b :=
      ⟨Option.some.inj (isFirst.symm.trans first), Option.some.inj (isSecond.symm.trans second)⟩
    split_ifs with overlap
    · have other : a ∈ bodies.eraseIdx j := List.mem_eraseIdx_iff_getElem?.mpr ⟨i, distinct, first⟩
      split
      · rename_i low found
        refine .inr
          ⟨b, { b with y := low + gap + Scalar.half b.height }, second, ⟨rfl, ?_⟩, rfl, ?_⟩
        · -- It reached into the first box, so it did not lie as low as that box reaches.
          have above := bottom_le_lowest found other
          have deep : 0 < (depth 0 a b).2 := overlap.2
          have near := le_abs_self (b.y - a.y)
          rw [abs_sub_comm] at near
          simp only [depth, Scalar.half_eq, Scalar.size_eq] at above deep ⊢
          linarith
        intro k c away place
        have above := bottom_le_lowest found (List.mem_eraseIdx_iff_getElem?.mpr ⟨k, away, place⟩)
        refine .inr (.inl ?_)
        simp only [Body.box, Scalar.half_eq] at above ⊢
        linarith
      · rename_i missing
        cases rest : bodies.eraseIdx j with
        | nil => exact absurd (rest ▸ other) List.not_mem_nil
        | cons head tail => rw [rest] at missing; cases missing
    · refine .inl ⟨rfl, fun c d isFirst isSecond => ?_⟩
      obtain ⟨rfl, rfl⟩ := pair c d isFirst isSecond
      rw [spaced_iff_depth]
      by_contra deep
      rw [not_or, not_le, not_le] at deep
      exact overlap deep
  · rename_i missing
    exact .inl ⟨rfl, fun a b first second => absurd second (missing a b first)⟩

/-- A list with one box further down. -/
theorem sinks_set {bodies : List (Body Rat)} {b moved : Body Rat} {j : Nat}
    (place : bodies[j]? = some b) (sinks : b.Sinks moved) :
    List.Forall₂ Body.Sinks bodies (bodies.set j moved) := by
  rw [List.forall₂_iff_get]
  refine ⟨List.length_set.symm, fun k inside _ => ?_⟩
  simp only [List.get_eq_getElem, List.getElem_set]
  split
  · -- This is the box that was put down; everywhere else the list is as it was.
    rename_i same
    subst same
    obtain ⟨_, rfl⟩ := List.getElem?_eq_some_iff.mp place
    exact sinks
  · exact .refl _

theorem sinks_trans {first second third : List (Body Rat)}
    (earlier : List.Forall₂ Body.Sinks first second)
    (later : List.Forall₂ Body.Sinks second third) : List.Forall₂ Body.Sinks first third := by
  induction earlier generalizing third with
  | nil => exact later
  | cons head _ ih =>
    cases later with
    | cons next others => exact .cons (head.trans next) (ih others)

theorem shapes_eq_of_sinks {first second : List (Body Rat)}
    (sinks : List.Forall₂ Body.Sinks first second) :
    second.map Body.shape = first.map Body.shape := by
  induction sinks with
  | nil => rfl
  | cons head _ ih => rw [List.map_cons, List.map_cons, head.shape_eq, ih]

theorem sinks_stackPair (wide : 0 ≤ gap) (bodies : List (Body Rat)) {i j : Nat}
    (distinct : i ≠ j) : List.Forall₂ Body.Sinks bodies (stackPair gap bodies (i, j)) := by
  obtain ⟨same, -⟩ | ⟨b, moved, place, sinks, changed, -⟩ := stackPair_cases wide bodies distinct
  · rw [same]
    exact List.forall₂_same.mpr fun b _ => .refl b
  · rw [changed]
    exact sinks_set place sinks

/-- What is apart stays apart when a further pair is stacked, and that pair is apart then. -/
theorem apart_stackPair (wide : 0 ≤ gap) (bodies : List (Body Rat)) {i j : Nat}
    (distinct : i ≠ j) :
    Apart (stackPair gap bodies (i, j)) i j ∧
      ∀ k l, k ≠ l → Apart bodies k l → Apart (stackPair gap bodies (i, j)) k l := by
  obtain ⟨same, apart⟩ | ⟨b, moved, second, -, changed, clear⟩ :=
    stackPair_cases wide bodies distinct
  · rw [same]
    exact ⟨apart, fun k l _ apart => apart⟩
  · rw [changed]
    -- A pair with the moved box is apart because of its new place, any other pair is as it was.
    have aside (k : Nat) (other : k ≠ j) : Apart (bodies.set j moved) k j := by
      intro a c first last
      rw [List.getElem?_set_ne (Ne.symm other)] at first
      rw [List.getElem?_set_self (List.getElem?_eq_some_iff.mp second).1] at last
      cases last
      exact clear k a other first
    refine ⟨aside i distinct, fun k l other apart => ?_⟩
    by_cases isLast : l = j
    · subst isLast
      exact aside k other
    by_cases isFirst : k = j
    · subst isFirst
      exact (aside l (Ne.symm other)).symm
    intro a c first last
    rw [List.getElem?_set_ne (Ne.symm isFirst)] at first
    rw [List.getElem?_set_ne (Ne.symm isLast)] at last
    exact apart a c first last

/-- After a run over pairs of places, the boxes of every pair are apart. -/
theorem apart_foldl_stackPair (wide : 0 ≤ gap) (pairs : List (Nat × Nat))
    (distinct : ∀ pair ∈ pairs, pair.1 ≠ pair.2) (bodies : List (Body Rat)) :
    (∀ pair ∈ pairs, Apart (pairs.foldl (stackPair gap) bodies) pair.1 pair.2) ∧
      ∀ k l, k ≠ l → Apart bodies k l → Apart (pairs.foldl (stackPair gap) bodies) k l := by
  induction pairs generalizing bodies with
  | nil => exact ⟨fun pair member => absurd member List.not_mem_nil, fun k l _ apart => apart⟩
  | cons pair rest ih =>
    have differ := distinct pair List.mem_cons_self
    obtain ⟨now, kept⟩ := apart_stackPair wide bodies differ
    obtain ⟨later, stays⟩ := ih (fun other member => distinct other (List.mem_cons_of_mem _ member))
      (stackPair gap bodies pair)
    constructor
    · intro other member
      rcases List.mem_cons.mp member with rfl | member
      · exact stays _ _ differ now
      · exact later other member
    · intro k l differ apart
      exact stays k l differ (kept k l differ apart)

theorem sinks_foldl_stackPair (wide : 0 ≤ gap) (pairs : List (Nat × Nat))
    (distinct : ∀ pair ∈ pairs, pair.1 ≠ pair.2) (bodies : List (Body Rat)) :
    List.Forall₂ Body.Sinks bodies (pairs.foldl (stackPair gap) bodies) := by
  induction pairs generalizing bodies with
  | nil => exact List.forall₂_same.mpr fun b _ => .refl b
  | cons pair rest ih =>
    have step := sinks_stackPair wide bodies (distinct pair List.mem_cons_self)
    have run := ih (fun other member => distinct other (List.mem_cons_of_mem _ member))
      (stackPair gap bodies pair)
    exact sinks_trans step run

theorem mem_placePairs {n i j : Nat} : (i, j) ∈ placePairs n ↔ i < j ∧ j < n := by
  simp only [placePairs, List.mem_flatMap, List.mem_map, List.mem_range, Prod.mk.injEq]
  constructor
  · rintro ⟨first, below, k, later, rfl, rfl⟩
    omega
  · rintro ⟨before, below⟩
    exact ⟨i, by omega, j - (i + 1), by omega, rfl, by omega⟩

theorem distinct_of_mem_placePairs {n : Nat} {pair : Nat × Nat} (member : pair ∈ placePairs n) :
    pair.1 ≠ pair.2 := Nat.ne_of_lt (mem_placePairs.mp member).1

/-- Boxes that are stacked only go down: nothing else about them changes. -/
theorem sinks_stack (wide : 0 ≤ gap) (bodies : List (Body Rat)) :
    List.Forall₂ Body.Sinks bodies (stack gap bodies) :=
  sinks_foldl_stackPair wide _ (fun _ => distinct_of_mem_placePairs) bodies

theorem stack_shapes (wide : 0 ≤ gap) (bodies : List (Body Rat)) :
    (stack gap bodies).map Body.shape = bodies.map Body.shape :=
  shapes_eq_of_sinks (sinks_stack wide bodies)

/-- One sweep over all pairs sets every two boxes apart. -/
theorem spaced_stack (wide : 0 ≤ gap) (bodies : List (Body Rat)) :
    (stack gap bodies).Pairwise (Body.Spaced 0) := by
  have length := congrArg List.length (stack_shapes wide bodies)
  rw [List.length_map, List.length_map] at length
  obtain ⟨apart, -⟩ := apart_foldl_stackPair wide (placePairs bodies.length)
    (fun _ => distinct_of_mem_placePairs) bodies
  rw [List.pairwise_iff_getElem]
  intro i j first second before
  exact apart (i, j) (mem_placePairs.mpr ⟨before, length ▸ second⟩) _ _
    (List.getElem?_eq_getElem first) (List.getElem?_eq_getElem second)

end Stacking

section Resolving

/-- Boxes are only moved: their names and sizes stay. -/
theorem resolve_shapes (wide : 0 ≤ gap) (bodies : List (Body Rat)) :
    (resolve gap bodies).1.map Body.shape = bodies.map Body.shape := by
  have pushed := passes_shapes gap maxPasses 0 bodies
  simp only [resolve]
  split
  · exact pushed
  · exact (stack_shapes wide _).trans pushed

/-- No two boxes overlap in the end, whether the last pass moved something or not. -/
theorem spaced_resolve (wide : 0 ≤ gap) (bodies : List (Body Rat)) :
    (resolve gap bodies).1.Pairwise (Body.Spaced 0) := by
  simp only [resolve]
  split
  · rename_i settled
    exact (spaced_of_settled settled).imp (Box.Spaced.mono wide)
  · exact spaced_stack wide _

/-- When one of the passes moves nothing, the boxes are even spaced by the gap. -/
theorem spaced_resolve_of_unmoved {bodies : List (Body Rat)} {k : Nat} (inTime : k < maxPasses)
    (unmoved : (pass gap (afterPasses gap k bodies)).2 = false) :
    (resolve gap bodies).1.Pairwise (Body.Spaced gap) := by
  have settled : (passes gap maxPasses 0 bodies).2.2 = true := settled_of_unmoved inTime unmoved
  simp only [resolve]
  rw [if_pos settled]
  exact spaced_of_settled settled

end Resolving

end Overlap

end SiteAtlas
