import SiteAtlas.Proofs.Layout.TidySlots
import SiteAtlas.Proofs.Layout.Separation
import Mathlib.Tactic.NormNum

/-! # Where there is room, no box is moved

Tidy slots are nested, and the boxes in them are apart: that of a folder from those below it by the
columns, those of different contents by the rows. Both go by induction on the slots. So under roomy
measures the search finds every box free at its first place, and a layout is the picture that its
slots give.
-/

namespace SiteAtlas.TreeLayout

namespace Slot

variable {s : TreeSpacing Rat} {expanded : List String}

/-- A slot lies in another one, and its box not left of that one's. -/
structure Holds (c d : Slot Rat) : Prop where
  begins : c.top ≤ d.top
  ends : d.bottom ≤ c.bottom
  above : c.high ≤ d.high
  below : d.low ≤ c.low
  right : c.node.x ≤ d.node.x

theorem Holds.refl (c : Slot Rat) : c.Holds c :=
  ⟨le_refl _, le_refl _, le_refl _, le_refl _, le_refl _⟩

theorem Holds.trans {c d e : Slot Rat} (outer : c.Holds d) (inner : d.Holds e) : c.Holds e where
  begins := outer.begins.trans inner.begins
  ends := inner.ends.trans outer.ends
  above := outer.above.trans inner.above
  below := inner.below.trans outer.below
  right := outer.right.trans inner.right

/-- A tidy slot holds those of its contents. -/
theorem Tidy.holds (padding : 0 ≤ s.collisionPadding) {c d : Slot Rat} (tidy : c.Tidy s expanded)
    (tidy' : d.Tidy s expanded) (member : d ∈ c.contents) : c.Holds d where
  begins := tidy.framed.1.1.trans (tidy.inside d member).1
  ends := (tidy.inside d member).2.trans tidy.framed.2.2
  above := (tidy.inside d member).1.trans tidy'.framed.1.1
  below := tidy'.framed.2.2.trans (tidy.inside d member).2
  right := by linarith [tidy.rightward d member, tidy.wide]

theorem mem_allOf_of_mem {c : Slot Rat} {slots : List (Slot Rat)} (member : c ∈ slots) :
    c ∈ allOf slots := by
  induction slots with
  | nil => exact absurd member List.not_mem_nil
  | cons first rest ih =>
    rcases List.mem_cons.mp member with rfl | member
    · exact List.mem_append_left _ (all_eq c ▸ List.mem_cons_self)
    · exact List.mem_append_right _ (ih member)

mutual

/-- A slot holds all slots below it. -/
theorem holds_of_mem_all (padding : 0 ≤ s.collisionPadding) {d : Slot Rat} :
    (c : Slot Rat) → (∀ e ∈ c.all, e.Tidy s expanded) → d ∈ c.all → c.Holds d
  | ⟨address, source, node, top, room, contents⟩, tidy, member => by
    rw [all] at tidy member
    rcases List.mem_cons.mp member with rfl | member
    · exact .refl _
    · have tidyBelow := fun e below => tidy e (List.mem_cons_of_mem _ below)
      obtain ⟨child, isChild, holds⟩ :=
        exists_holds_of_mem_allOf padding contents tidyBelow member
      have own := tidy _ List.mem_cons_self
      exact (own.holds padding (tidyBelow child (mem_allOf_of_mem isChild)) isChild).trans holds

/-- Each slot at or below those of a list is held by one of these. -/
theorem exists_holds_of_mem_allOf (padding : 0 ≤ s.collisionPadding) {d : Slot Rat} :
    (slots : List (Slot Rat)) → (∀ e ∈ allOf slots, e.Tidy s expanded) → d ∈ allOf slots →
      ∃ c ∈ slots, c.Holds d
  | [], tidy, member => absurd member List.not_mem_nil
  | first :: rest, tidy, member => by
    rw [allOf] at tidy member
    rcases List.mem_append.mp member with member | member
    · exact ⟨first, List.mem_cons_self, holds_of_mem_all padding first
        (fun e below => tidy e (List.mem_append_left _ below)) member⟩
    · obtain ⟨c, isSlot, holds⟩ := exists_holds_of_mem_allOf padding rest
        (fun e below => tidy e (List.mem_append_right _ below)) member
      exact ⟨c, List.mem_cons_of_mem _ isSlot, holds⟩

end

mutual

/-- The boxes of a slot and of those below it are apart: a folder's from those below it by the
columns, others by the rows. -/
theorem pairwise_apart_all (padding : 0 ≤ s.collisionPadding) :
    (c : Slot Rat) → (∀ e ∈ c.all, e.Tidy s expanded) →
      c.all.Pairwise fun a b => Apart s.collisionPadding a.node b.node
  | ⟨address, source, node, top, room, contents⟩, tidy => by
    rw [all] at tidy ⊢
    have own := tidy _ List.mem_cons_self
    have tidyBelow := fun e below => tidy e (List.mem_cons_of_mem _ below)
    refine List.pairwise_cons.mpr ⟨fun d member => ?_,
      pairwise_apart_allOf padding contents tidyBelow (own.stacked.imp And.right)⟩
    obtain ⟨child, isChild, holds⟩ := exists_holds_of_mem_allOf padding contents tidyBelow member
    have right := (own.rightward child isChild).trans_le holds.right
    exact (apart_of_not_collides (Box.collides_eq_false_of_right right)).symm

theorem pairwise_apart_allOf (padding : 0 ≤ s.collisionPadding) :
    (slots : List (Slot Rat)) → (∀ e ∈ allOf slots, e.Tidy s expanded) →
      slots.Pairwise (fun a b => a.low + 2 * s.collisionPadding < b.high) →
      (allOf slots).Pairwise fun a b => Apart s.collisionPadding a.node b.node
  | [], tidy, stacked => .nil
  | first :: rest, tidy, stacked => by
    rw [allOf] at tidy ⊢
    have tidyFirst := fun e below => tidy e (List.mem_append_left _ below)
    have tidyRest := fun e below => tidy e (List.mem_append_right _ below)
    obtain ⟨after, stacked⟩ := List.pairwise_cons.mp stacked
    refine List.pairwise_append.mpr ⟨pairwise_apart_all padding first tidyFirst,
      pairwise_apart_allOf padding rest tidyRest stacked, fun d inFirst e inRest => ?_⟩
    obtain ⟨c, isSlot, holds'⟩ := exists_holds_of_mem_allOf padding rest tidyRest inRest
    have holds := holds_of_mem_all padding first tidyFirst inFirst
    have gap := after c isSlot
    have ends := (tidyFirst d inFirst).framed.2.1
    have begins := (tidyRest e inRest).framed.1.2
    have below : d.node.y + d.node.height + 2 * s.collisionPadding < e.node.y := by
      linarith [holds.below, holds'.above]
    exact (apart_of_not_collides (Box.collides_eq_false_of_below below)).symm

end

end Slot

section Run

variable {s : TreeSpacing Rat}

theorem isFree_of_apart {n : Node Rat} {placed : List (Node Rat)}
    (apart : ∀ b ∈ placed, Apart s.collisionPadding b n) :
    Placement.isFree s n.width n.height (placed.map Node.box) (n.x, n.y) = true := by
  refine Placement.isFree_iff.mpr fun other member => ?_
  obtain ⟨b, isPlaced, rfl⟩ := List.mem_map.mp member
  exact (apart b isPlaced).2

/-- A run over boxes that are apart at their first places leaves them there. -/
theorem foldl_addNode_eq (attempts : 1 ≤ s.maxAttempts) (placed nodes : List (Node Rat))
    (apart : (placed ++ nodes).Pairwise (Apart s.collisionPadding)) :
    nodes.foldl (addNode s) placed = placed ++ nodes := by
  induction nodes generalizing placed with
  | nil => exact (List.append_nil placed).symm
  | cons n rest ih =>
    have before : ∀ b ∈ placed, Apart s.collisionPadding b n := fun b isPlaced =>
      (List.pairwise_append.mp apart).2.2 b isPlaced n List.mem_cons_self
    have step : addNode s placed n = placed ++ [n] := by
      rw [addNode, Placement.find_eq_self attempts (isFree_of_apart before)]
    rw [List.foldl_cons, step, ih, List.append_assoc, List.singleton_append]
    rw [List.append_assoc, List.singleton_append]
    exact apart

end Run

/-- A layout searches a place for the box of each slot in turn. With roomy measures the search finds
it free at its first place, so that the layout consists of the boxes of the slots as they are, one
for each visible node. The nodes of a level have their column, contents stand right of their folder,
a folder stands in the middle of its extent, and everything visible below it lies in that extent,
folders and files one below the other in the order of the tree. -/
theorem layout_eq_nested_slots (s : TreeSpacing Rat) (roomy : s.Roomy) (expanded : List String)
    (tree : StructureNode) :
    (layout s expanded tree).nodes =
      ((rootSlot s expanded tree).all.map Slot.node).foldl (addNode s) [] ∧
    (∀ before c after, (rootSlot s expanded tree).all = before ++ c :: after →
      Placement.find s c.node.width c.node.height (before.map fun b => b.node.box)
        (c.node.x, c.node.y) = (c.node.x, c.node.y)) ∧
    (layout s expanded tree).nodes = (rootSlot s expanded tree).all.map Slot.node ∧
    (rootSlot s expanded tree).all.map Slot.address = visible expanded [] tree ∧
    ∀ c ∈ (rootSlot s expanded tree).all, c.Tidy s expanded ∧
      ∀ d ∈ c.all, (c.top ≤ d.top ∧ d.bottom ≤ c.bottom) ∧
        c.top ≤ d.node.y ∧ d.node.y + d.node.height ≤ c.bottom := by
  have tidy : ∀ c ∈ (rootSlot s expanded tree).all, c.Tidy s expanded := by
    refine fun c member => tidy_of_mem_slot roomy tree [] s.rootX Scalar.zero ?_ member
    rw [List.length_nil, Nat.cast_zero, zero_mul, add_zero]
  have apart := Slot.pairwise_apart_all roomy.padding (rootSlot s expanded tree) tidy
  refine ⟨nodes_layout expanded tree, fun before c after split => ?_, ?_,
    addresses_slot expanded [] _ _ tree, fun c member => ⟨tidy c member, fun d below => ?_⟩⟩
  · rw [split] at apart
    have free : ∀ b ∈ before.map Slot.node, Apart s.collisionPadding b c.node := by
      intro n member
      obtain ⟨b, isBefore, rfl⟩ := List.mem_map.mp member
      exact (List.pairwise_append.mp apart).2.2 b isBefore c List.mem_cons_self
    have stays := Placement.find_eq_self roomy.attempts (isFree_of_apart free)
    rwa [List.map_map] at stays
  · rw [nodes_layout, foldl_addNode_eq roomy.attempts]
    · rfl
    · exact List.pairwise_map.mpr apart
  · have tidyBelow := fun e isBelow => tidy e (Slot.mem_all_trans _ member isBelow)
    have holds := Slot.holds_of_mem_all roomy.padding c tidyBelow below
    obtain ⟨⟨begins, above⟩, reaches, ends⟩ := (tidyBelow d below).framed
    exact ⟨⟨holds.begins, holds.ends⟩, (holds.begins.trans begins).trans above,
      reaches.trans (ends.trans holds.ends)⟩

/-- A project with two levels of expanded folders. -/
def nestedTree : StructureNode :=
  folderOf "site" [
    folderOf "app" [folderOf "blog" [], .file ⟨"page.tsx", "/site/app/page.tsx", "app/page.tsx",
      true, none⟩ none],
    folderOf "lib" [],
    .file ⟨"next.config.js", "/site/next.config.js", "next.config.js", false, none⟩ none]

/-- With the standard measures, which are roomy, that project is laid out in three columns. -/
theorem layout_nestedTree :
    (TreeSpacing.standard : TreeSpacing Rat).Roomy ∧
    ((layout (TreeSpacing.standard : TreeSpacing Rat) NodeId.initiallyExpanded nestedTree).nodes.map
      fun n => (n.id, n.x, n.y)) =
      [("root", 100, -40), ("root-app", 700, -180), ("root-app-blog", 1300, -255),
        ("root-app:file-0", 1300, -90), ("root-lib", 700, 60), ("root:file-0", 700, 225)] := by
  have roomy : (TreeSpacing.standard : TreeSpacing Rat).Roomy := by
    constructor <;> simp only [TreeSpacing.standard] <;> norm_num
  refine ⟨roomy, ?_⟩
  rw [(layout_eq_nested_slots _ roomy NodeId.initiallyExpanded nestedTree).2.2.1]
  decide +kernel

end SiteAtlas.TreeLayout
