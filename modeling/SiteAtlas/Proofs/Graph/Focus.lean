import SiteAtlas.Graph.Focus
import SiteAtlas.Proofs.Text.Pieces

/-! # The part of a graph around a focus

Nothing is added or moved: boxes and arrows of the part are some of the graph's, in their order. The
arrows are those at the boxes that the focus holds for, and the boxes are these and the ones at the
other ends. A box that was only kept for its arrow does not hold the focus, and so brings in nothing
when the part is looked at again.
-/

namespace SiteAtlas

/-- Whether a focus stands in the id of a box or in what is written on it. -/
def Node.Holds {α : Type} (focus : String) (n : Node α) : Prop :=
  focus.toList <:+: n.id.toList ∨ focus.toList <:+: n.label.toList

instance {α : Type} (focus : String) (n : Node α) : Decidable (n.Holds focus) :=
  inferInstanceAs (Decidable (_ ∨ _))

theorem Node.matchesFocus_iff {α : Type} {focus : String} {n : Node α} :
    n.matchesFocus focus = true ↔ n.Holds focus := by
  rw [matchesFocus, Bool.or_eq_true, Text.contains_iff, Text.contains_iff, Holds]

namespace Graph

variable {α : Type} (g : Graph α) (focus : String)

theorem focused_sublist :
    ((g.focused focus).nodes.Sublist g.nodes) ∧ (g.focused focus).edges.Sublist g.edges := by
  simp only [focused]
  generalize (if focus.isEmpty then [] else g.focusIds focus) = ids
  split
  · exact ⟨List.Sublist.refl _, List.Sublist.refl _⟩
  · exact ⟨List.filter_sublist, List.filter_sublist⟩

theorem nodes_focused_subset : (g.focused focus).nodes ⊆ g.nodes :=
  (g.focused_sublist focus).1.subset

theorem edges_focused_subset : (g.focused focus).edges ⊆ g.edges :=
  (g.focused_sublist focus).2.subset

/-! ## What the part is made of -/

/-- Whether an id is that of a box which a focus holds for. -/
def InFocus (id : String) : Prop := ∃ n ∈ g.nodes, n.Holds focus ∧ n.id = id

instance (id : String) : Decidable (g.InFocus focus id) :=
  inferInstanceAs (Decidable (∃ n ∈ g.nodes, _))

/-- Whether an arrow starts from or leads to a box which a focus holds for. -/
def ReachesFocus (e : Edge) : Prop := g.InFocus focus e.source ∨ g.InFocus focus e.target

instance (e : Edge) : Decidable (g.ReachesFocus focus e) := inferInstanceAs (Decidable (_ ∨ _))

/-- Whether an id is that of a box in focus, or an end of an arrow at one. -/
def NearFocus (id : String) : Prop :=
  g.InFocus focus id ∨ ∃ e ∈ g.edges, g.ReachesFocus focus e ∧ (id = e.source ∨ id = e.target)

instance (id : String) : Decidable (g.NearFocus focus id) := inferInstanceAs (Decidable (_ ∨ _))

/-- Whether every arrow leads from a box to a box. -/
def IsClosed : Prop :=
  ∀ e ∈ g.edges, (∃ n ∈ g.nodes, n.id = e.source) ∧ ∃ n ∈ g.nodes, n.id = e.target

instance : Decidable g.IsClosed := inferInstanceAs (Decidable (∀ e ∈ g.edges, _))

variable {g focus}

theorem mem_focusIds_iff {id : String} : id ∈ g.focusIds focus ↔ g.InFocus focus id := by
  simp only [focusIds, InFocus, List.mem_map, List.mem_filter, Node.matchesFocus_iff, and_assoc]

theorem touches_focusIds_iff {e : Edge} :
    touches (g.focusIds focus) e = true ↔ g.ReachesFocus focus e := by
  rw [touches, Bool.or_eq_true, List.contains_iff_mem, List.contains_iff_mem, mem_focusIds_iff,
    mem_focusIds_iff, ReachesFocus]

/-- A focus that is empty or holds for no box narrows nothing. -/
theorem focused_eq_self (nothing : focus = "" ∨ ∀ n ∈ g.nodes, ¬ n.Holds focus) :
    g.focused focus = g := by
  have noIds : (if focus.isEmpty then [] else g.focusIds focus) = [] := by
    split_ifs with empty
    · rfl
    · have others := nothing.resolve_left fun same => empty (by simp [same])
      refine List.eq_nil_iff_forall_not_mem.mpr fun id member => ?_
      obtain ⟨n, isNode, holds, -⟩ := mem_focusIds_iff.mp member
      exact others n isNode holds
  rw [focused, noIds]
  rfl

/-- Otherwise the arrows at boxes in focus stay, and the boxes near it. -/
theorem focused_eq_filter (filled : focus ≠ "") (found : ∃ n ∈ g.nodes, n.Holds focus) :
    g.focused focus = { g with
      nodes := g.nodes.filter fun n => g.NearFocus focus n.id
      edges := g.edges.filter fun e => g.ReachesFocus focus e } := by
  have isFilled : focus.isEmpty = false := by simpa using filled
  obtain ⟨n, isNode, holds⟩ := found
  have ids : (g.focusIds focus).isEmpty = false := by
    rw [List.isEmpty_eq_false_iff]
    exact List.ne_nil_of_mem (mem_focusIds_iff.mpr ⟨n, isNode, holds, rfl⟩)
  have edges : g.edges.filter (touches (g.focusIds focus)) =
      g.edges.filter fun e => g.ReachesFocus focus e := by
    refine List.filter_congr fun e _ => ?_
    rw [Bool.eq_iff_iff, touches_focusIds_iff, decide_eq_true_iff]
  have near (id : String) : id ∈ g.focusIds focus ++
        (g.edges.filter fun e => g.ReachesFocus focus e).flatMap (fun e => [e.source, e.target]) ↔
      g.NearFocus focus id := by
    simp only [List.mem_append, mem_focusIds_iff, List.mem_flatMap, List.mem_filter,
      decide_eq_true_iff, List.mem_cons, List.not_mem_nil, or_false, and_assoc, NearFocus]
  have nodes : (g.nodes.filter fun n => (g.focusIds focus ++
        (g.edges.filter fun e => g.ReachesFocus focus e).flatMap
          (fun e => [e.source, e.target])).contains n.id) =
      g.nodes.filter fun n => g.NearFocus focus n.id := by
    refine List.filter_congr fun n _ => ?_
    rw [Bool.eq_iff_iff, List.contains_iff_mem, near, decide_eq_true_iff]
  rw [focused, isFilled]
  dsimp only
  rw [if_neg Bool.false_ne_true, ids, if_neg Bool.false_ne_true, edges, nodes]

/-! ## Looking again -/

/-- Whatever holds the focus stays, so the same boxes are in focus again. -/
theorem inFocus_focused_iff {id : String} :
    (g.focused focus).InFocus focus id ↔ g.InFocus focus id := by
  constructor
  · rintro ⟨n, isNode, holds, same⟩
    exact ⟨n, g.nodes_focused_subset focus isNode, holds, same⟩
  · rintro ⟨n, isNode, holds, same⟩
    refine ⟨n, ?_, holds, same⟩
    by_cases filled : focus = ""
    · rwa [focused_eq_self (.inl filled)]
    · rw [focused_eq_filter filled ⟨n, isNode, holds⟩, List.mem_filter, decide_eq_true_iff]
      exact ⟨isNode, .inl ⟨n, isNode, holds, rfl⟩⟩

theorem reachesFocus_focused_iff {e : Edge} :
    (g.focused focus).ReachesFocus focus e ↔ g.ReachesFocus focus e :=
  or_congr inFocus_focused_iff inFocus_focused_iff

/-- The arrows that are left are at boxes in focus, so the same boxes are near it again. -/
theorem nearFocus_focused_iff (filled : focus ≠ "") (found : ∃ n ∈ g.nodes, n.Holds focus)
    {id : String} : (g.focused focus).NearFocus focus id ↔ g.NearFocus focus id := by
  simp only [NearFocus, inFocus_focused_iff, reachesFocus_focused_iff]
  rw [focused_eq_filter filled found]
  simp only [List.mem_filter, decide_eq_true_iff, and_assoc, and_self_left]

theorem focused_focused : (g.focused focus).focused focus = g.focused focus := by
  by_cases nothing : focus = "" ∨ ∀ n ∈ g.nodes, ¬ n.Holds focus
  · rw [focused_eq_self nothing, focused_eq_self nothing]
  · obtain ⟨filled, others⟩ := not_or.mp nothing
    obtain ⟨n, isNode, holds⟩ : ∃ n ∈ g.nodes, n.Holds focus := by simpa using others
    have found : ∃ n ∈ g.nodes, n.Holds focus := ⟨n, isNode, holds⟩
    have again : ∃ n ∈ (g.focused focus).nodes, n.Holds focus := by
      obtain ⟨m, isKept, holds, -⟩ := inFocus_focused_iff.mpr ⟨n, isNode, holds, rfl⟩
      exact ⟨m, isKept, holds⟩
    rw [focused_eq_filter filled again]
    simp only [nearFocus_focused_iff filled found, reachesFocus_focused_iff]
    rw [focused_eq_filter filled found]
    simp only [List.filter_filter, Bool.and_self]

/-- The ends of an arrow that stays are near the focus, so that their boxes stay. -/
theorem IsClosed.focused (closed : g.IsClosed) : (g.focused focus).IsClosed := by
  by_cases nothing : focus = "" ∨ ∀ n ∈ g.nodes, ¬ n.Holds focus
  · rwa [focused_eq_self nothing]
  · obtain ⟨filled, others⟩ := not_or.mp nothing
    have found : ∃ n ∈ g.nodes, n.Holds focus := by simpa using others
    rw [focused_eq_filter filled found]
    intro e member
    obtain ⟨isEdge, reaches⟩ := List.mem_filter.mp member
    have stays {id : String} (isEnd : id = e.source ∨ id = e.target)
        (box : ∃ n ∈ g.nodes, n.id = id) :
        ∃ n ∈ g.nodes.filter (fun n => g.NearFocus focus n.id), n.id = id := by
      obtain ⟨n, isNode, rfl⟩ := box
      refine ⟨n, List.mem_filter.mpr ⟨isNode, ?_⟩, rfl⟩
      exact decide_eq_true (.inr ⟨e, isEdge, of_decide_eq_true reaches, isEnd⟩)
    obtain ⟨source, target⟩ := closed e isEdge
    exact ⟨stays (.inl rfl) source, stays (.inr rfl) target⟩

/-- An empty focus, and one that no box holds, leave the graph as it is. Any other leaves exactly
the arrows at a box that holds it, and exactly the boxes that have the id of such a box or stand at
an end of such an arrow, in their order. No arrow loses its end, and to look again changes
nothing. -/
theorem focused_keeps_near (g : Graph α) (focus : String) :
    (focus = "" ∨ (∀ n ∈ g.nodes, ¬ n.Holds focus) → g.focused focus = g) ∧
    (focus ≠ "" → (∃ n ∈ g.nodes, n.Holds focus) → g.focused focus = { g with
      nodes := g.nodes.filter fun n => g.NearFocus focus n.id
      edges := g.edges.filter fun e => g.ReachesFocus focus e }) ∧
    (g.IsClosed → (g.focused focus).IsClosed) ∧
    (g.focused focus).focused focus = g.focused focus :=
  ⟨focused_eq_self, focused_eq_filter, IsClosed.focused, focused_focused⟩

/-- A graph of four boxes in a row, with an arrow from the second one to itself. The label of the
first one holds the id of the second one, and the third id is given twice. -/
def rowGraph : Graph Unit :=
  let box (id label : String) : Node Unit :=
    { id := id, kind := "folder", x := (), y := (), width := (), height := ()
      data := [("label", .text label)] }
  let arrow (source target : String) : Edge :=
    { id := source ++ target, source := source, target := target }
  { nodes := [box "a" "see b", box "b" "", box "c" "one", box "c" "two", box "d" ""]
    edges := [arrow "c" "d", arrow "b" "b", arrow "b" "c", arrow "a" "b"] }

/-- Both boxes of the id at the other end of an arrow stay, and the arrow between boxes that do not
hold the focus goes. -/
theorem focused_keeps_near_rowGraph :
    "b" ≠ "" ∧ (∃ n ∈ rowGraph.nodes, n.Holds "b") ∧ rowGraph.IsClosed ∧
    (rowGraph.focused "b").nodes.map (·.label) = ["see b", "b", "one", "two"] ∧
    (rowGraph.focused "b").edges.map (·.id) = ["bb", "bc", "ab"] ∧
    (rowGraph.focused "b").IsClosed ∧
    (rowGraph.focused "none" = rowGraph) := by
  have found : ∃ n ∈ rowGraph.nodes, n.Holds "b" := by decide +kernel
  have missing : ∀ n ∈ rowGraph.nodes, ¬ n.Holds "none" := by decide +kernel
  have closed : rowGraph.IsClosed := by decide +kernel
  obtain ⟨-, part, keeps, -⟩ := focused_keeps_near rowGraph "b"
  obtain ⟨same, -⟩ := focused_keeps_near rowGraph "none"
  refine ⟨by decide, found, closed, ?_, ?_, keeps closed, same (.inr missing)⟩
  · rw [part (by decide) found]
    decide +kernel
  · rw [part (by decide) found]
    decide +kernel

end Graph

end SiteAtlas
