import SiteAtlas.Proofs.Layout.DependencyBoxes
import SiteAtlas.Proofs.Layout.TidySlots
import SiteAtlas.Proofs.Layout.TriedPlaces

/-! # Dependencies stand right of their file

The search for a free place moves a box to one side by a horizontal increment at most, and never
upwards, whatever stands in the way. A file's column of dependencies begins further right of it than
its width and that increment, so its dependencies stay on its right.
-/

namespace SiteAtlas

/-! ## How far a box is moved -/

namespace Placement

section Moves

variable {s : TreeSpacing Rat} {width height : Rat} {existing : List (Box Rat)} {start : Rat × Rat}

/-- A box goes to the place of an attempt, or below everything else. -/
theorem find_cases (s : TreeSpacing Rat) (width height : Rat) (existing : List (Box Rat))
    (start : Rat × Rat) :
    (∃ k, find s width height existing start = tried s start k) ∨
      find s width height existing start = fallback s existing start := by
  unfold find
  cases found : search s (isFree s width height existing) s.maxAttempts.toNat 0 start with
  | some place =>
    rw [search_eq_find?] at found
    exact .inl (exists_tried_of_mem_tested (k := 0) (List.mem_of_find?_eq_some found))
  | none => exact .inr rfl

/-- A box stays at its start exactly if it is free there. -/
theorem find_eq_self_iff (attempts : 1 ≤ s.maxAttempts) :
    find s width height existing start = start ↔ isFree s width height existing start = true := by
  constructor
  · intro stays
    have free := isFree_find s width height existing start
    rwa [stays] at free
  · exact find_eq_self attempts

theorem tried_fst_sub_mem (k : Nat) : (tried s start k).1 - start.1 ∈
    [0, -s.horizontalIncrement, -(s.horizontalIncrement / 2)] := by
  have offsets : aside k = 0 ∨ aside k = 2 ∨ aside k = 1 := by
    unfold aside
    split_ifs <;> omega
  rw [tried_eq]
  simp only [List.mem_cons, List.not_mem_nil, or_false]
  rcases offsets with offset | offset | offset
  · left
    rw [offset]
    ring
  · right; left
    rw [offset]
    push_cast
    ring
  · right; right
    rw [offset]
    push_cast
    ring

theorem le_tried_snd (high : 0 ≤ s.verticalIncrement) (k : Nat) :
    start.2 ≤ (tried s start k).2 := by
  have down : 0 ≤ drop k := by
    unfold drop
    split_ifs <;> omega
  rw [tried_eq]
  exact le_add_of_nonneg_right (mul_nonneg (Int.cast_nonneg down) (div_nonneg high zero_le_two))

theorem fallback_fst_sub (s : TreeSpacing Rat) (existing : List (Box Rat)) (start : Rat × Rat) :
    (fallback s existing start).1 - start.1 = s.horizontalIncrement ∨
      (fallback s existing start).1 - start.1 = -s.horizontalIncrement := by
  simp only [fallback]
  split_ifs
  · exact .inl (add_sub_cancel_left _ _)
  · exact .inr (add_sub_cancel_left _ _)

theorem le_fallback_snd (high : 0 ≤ s.verticalIncrement) :
    start.2 ≤ (fallback s existing start).2 :=
  (le_add_of_nonneg_right (mul_nonneg (Nat.cast_nonneg _) high)).trans (Scalar.le_larger_left _ _)

theorem find_fst_sub_mem (s : TreeSpacing Rat) (width height : Rat) (existing : List (Box Rat))
    (start : Rat × Rat) : (find s width height existing start).1 - start.1 ∈
      [0, -s.horizontalIncrement, -(s.horizontalIncrement / 2), s.horizontalIncrement] := by
  rcases find_cases s width height existing start with ⟨k, isTried⟩ | last
  · rw [isTried]
    exact List.mem_append_left [s.horizontalIncrement] (tried_fst_sub_mem k)
  · rw [last]
    rcases fallback_fst_sub s existing start with offset | offset <;> simp [offset]

theorem le_find_snd (high : 0 ≤ s.verticalIncrement) :
    start.2 ≤ (find s width height existing start).2 := by
  rcases find_cases s width height existing start with ⟨k, isTried⟩ | last
  · rw [isTried]
    exact le_tried_snd high k
  · rw [last]
    exact le_fallback_snd high

/-- To the left a box is moved by one horizontal increment at most. -/
theorem sub_le_find_fst (wide : 0 ≤ s.horizontalIncrement) (width height : Rat)
    (existing : List (Box Rat)) (start : Rat × Rat) :
    start.1 - s.horizontalIncrement ≤ (find s width height existing start).1 := by
  have offset := find_fst_sub_mem s width height existing start
  simp only [List.mem_cons, List.not_mem_nil, or_false] at offset
  rcases offset with offset | offset | offset | offset <;> linarith

end Moves

end Placement

namespace TreeLayout

/-! ## The widths of placed boxes -/

section Widths

variable {s : TreeSpacing Rat} {expanded : List String}

/-- Moving boxes to free places leaves their widths. -/
theorem widths_foldl_addNode (nodes placed : List (Node Rat)) :
    (nodes.foldl (addNode s) placed).map Node.width =
      placed.map Node.width ++ nodes.map Node.width := by
  induction nodes generalizing placed with
  | nil => exact (List.append_nil _).symm
  | cons n rest ih =>
    rw [List.foldl_cons, ih, addNode, List.map_append, List.append_assoc]
    rfl

theorem IsSlot.width {c : Slot Rat} (slot : IsSlot s expanded c) :
    c.node.width = s.folderWidth ∨ c.node.width = s.fileWidth := by
  cases slot with
  | folder names center tree column =>
    rw [slot_node]
    exact .inl rfl
  | file names index row isFile column => exact .inr rfl

/-- The boxes of a layout have the widths of folders and files. -/
theorem width_of_mem_layout {tree : StructureNode} {n : Node Rat}
    (member : n ∈ (layout s expanded tree).nodes) :
    n.width = s.folderWidth ∨ n.width = s.fileWidth := by
  have width : n.width ∈ (layout s expanded tree).nodes.map Node.width :=
    List.mem_map_of_mem member
  rw [nodes_layout, widths_foldl_addNode, List.map_nil, List.nil_append, List.map_map] at width
  obtain ⟨c, isSlot, same⟩ := List.mem_map.mp width
  rw [← same]
  exact (isSlot_of_mem_slot tree [] s.rootX Scalar.zero (by simp) isSlot).width

end Widths

/-! ## The column of a file -/

/-- What holds of the box and the arrow of every dependency holds of the boxes and the arrows of a
layout, pair by pair. -/
theorem Drawn.forall₂ {s : TreeSpacing Rat} {base nodes : List (Node Rat)} {edges : List Edge}
    {rows : List (String × Dependency)} {related : Node Rat → Edge → Prop}
    (each : ∀ row n e, Depicts s base row n e → related n e)
    (drawn : Drawn s base rows nodes edges) : List.Forall₂ related nodes edges := by
  induction drawn with
  | nil => exact .nil
  | cons first _ ih => exact .cons (each _ _ _ first) ih

/-- A box is the target of an arrow, and it lies strictly to the right of the box that the arrow
starts from, if that is the box that a layout with the standard measures gave a file or folder. -/
def RightOfFile (base : List (Node Rat)) (n : Node Rat) (e : Edge) : Prop :=
  e.target = n.id ∧ ∃ file, boxOf? base e.source = some file ∧
    ∀ expanded tree, file ∈ (layout .standard expanded tree).nodes → file.x + file.width < n.x

theorem rightOfFile_of_depicts {base : List (Node Rat)} {row : String × Dependency} {n : Node Rat}
    {e : Edge} (depicts : Depicts .standard base row n e) : RightOfFile base n e := by
  obtain ⟨file, existing, top, found, place⟩ := depicts.place
  obtain rfl := depicts.arrow
  refine ⟨rfl, file, found, fun expanded tree member => ?_⟩
  have width : file.width = 260 := (width_of_mem_layout member).elim id id
  have wide : (0 : Rat) ≤ TreeSpacing.standard.horizontalIncrement := by decide +kernel
  have far := Placement.sub_le_find_fst wide TreeSpacing.standard.dependencyWidth
    TreeSpacing.standard.dependencyHeight existing
    (file.x + TreeSpacing.standard.dependencyDistance, top)
  rw [← place] at far
  -- The column begins 450 to the right of the file, which is 260 wide, and loses 120 at most.
  have column : file.x + 450 - 120 ≤ n.x := far
  linarith

/-- A box stays where it should stand exactly if it is free there. Otherwise it is moved sideways by
nothing, by one increment or by half of one to the left, or by one increment to the right, and never
upwards. So, with the standard measures, each dependency's box lies strictly to the right of the box
that a layout gave its file, whatever other boxes there are. -/
theorem box_moves_within_column :
    (∀ (s : TreeSpacing Rat) (width height : Rat) (existing : List (Box Rat)) (start : Rat × Rat),
      0 ≤ s.horizontalIncrement → 0 ≤ s.verticalIncrement → 1 ≤ s.maxAttempts →
      let place := Placement.find s width height existing start
      (place = start ↔ ∀ other ∈ existing,
        Box.collides s.collisionPadding ⟨start.1, start.2, width, height⟩ other = false) ∧
      place.1 - start.1 ∈
        [0, -s.horizontalIncrement, -(s.horizontalIncrement / 2), s.horizontalIncrement] ∧
      start.2 ≤ place.2) ∧
    ∀ (base : List (Node Rat)) (results : FileMap DependencyResult),
      List.Forall₂ (RightOfFile base) (layoutResults .standard base results).nodes
        (layoutResults .standard base results).edges := by
  constructor
  · intro s width height existing start _ high attempts
    refine ⟨?_, Placement.find_fst_sub_mem s width height existing start,
      Placement.le_find_snd high⟩
    rw [Placement.find_eq_self_iff attempts, Placement.isFree_iff]
  · intro base results
    have drawn := drawn_layoutResults .standard base results
    exact drawn.forall₂ fun _ _ _ => rightOfFile_of_depicts

/-- A project of one script. -/
def scriptSite : StructureNode :=
  .folder ⟨"site", "/site", "site", false, none⟩ none
    [.file ⟨"a.js", "/site/a.js", "a.js", false, none⟩ none]

/-- The result for that script, which imports one package. -/
def scriptResult : FileMap DependencyResult where
  entries :=
    [("root:file-0",
      { externals := [{ source := "react", nodeId := "r" }], filePath := "/site/a.js" })]
  distinct := by decide

/-- The box between the walls leaves its start, and the package stands to the right of the script
that imports it. -/
theorem box_moves_within_column_of_script :
    let s : TreeSpacing Rat := .standard
    let place := Placement.find s 10 10 Placement.twoWalls (0, 0)
    let base := (layout s [NodeId.root] scriptSite).nodes
    0 ≤ s.horizontalIncrement ∧ 0 ≤ s.verticalIncrement ∧ 1 ≤ s.maxAttempts ∧
    place ≠ (0, 0) ∧ place.1 - 0 ∈ [0, -120, -(120 / 2), 120] ∧ 0 ≤ place.2 ∧
    (layoutResults s base scriptResult).nodes.map Node.id = ["root:file-0-dep-r"] ∧
    List.Forall₂ (fun n e => ∃ file ∈ base, file.id = e.source ∧ file.x + file.width < n.x)
      (layoutResults s base scriptResult).nodes (layoutResults s base scriptResult).edges := by
  intro s place base
  have wide : 0 ≤ s.horizontalIncrement := by decide +kernel
  have high : 0 ≤ s.verticalIncrement := by decide +kernel
  have attempts : 1 ≤ s.maxAttempts := by decide
  obtain ⟨moves, right⟩ := box_moves_within_column
  obtain ⟨stays, aside, down⟩ := moves s 10 10 Placement.twoWalls (0, 0) wide high attempts
  have taken : ¬ ∀ other ∈ Placement.twoWalls,
      Box.collides s.collisionPadding ⟨0, 0, 10, 10⟩ other = false := by decide +kernel
  have sorted : (scriptResult.mapEntries fun _ result => result.all).sortedEntries =
      (scriptResult.mapEntries fun _ result => result.all).entries :=
    List.mergeSort_singleton _
  refine ⟨wide, high, attempts, mt stays.mp taken, aside, down, ?_, ?_⟩
  · rw [layoutResults_eq, grown, sorted]
    decide +kernel
  · refine (right base scriptResult).imp fun n e related => ?_
    obtain ⟨-, file, found, apart⟩ := related
    obtain ⟨member, id⟩ := mem_of_boxOf? found
    exact ⟨file, member, id, apart _ _ member⟩

end TreeLayout

end SiteAtlas
