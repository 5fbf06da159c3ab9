import SiteAtlas.Graph.Html
import SiteAtlas.Proofs.Graph.Figures
import SiteAtlas.Proofs.Graph.Focus

/-! # The markup of pages

Angle brackets open and close the tags of a page. Whatever comes from the graph or from the title
is escaped, made of figures, or the kind of a box; so the brackets are those of the page itself, of
the lines and of the boxes, and their number tells nothing but how many of these are drawn.
-/

namespace SiteAtlas.Graph

/-- The kinds of boxes that the graphs of projects and of schemas have. -/
def knownKinds : List String := ["folder", "file", "dependency", "model", "enum"]

/-- The arrows that are drawn: those between two boxes that are there. -/
def drawnEdges (g : Graph Number) : List Edge :=
  g.edges.filter fun e =>
    (nodeById? g.nodes e.source).isSome && (nodeById? g.nodes e.target).isSome

/-- Whether a character is one of the two brackets of a tag. -/
def IsAngle (c : Char) : Prop := c = '<' ∨ c = '>'

/-- How often a character occurs in a text. -/
def occurrences (c : Char) (text : String) : Nat := text.toList.count c

variable {mark c : Char} {text : String}

theorem occurrences_ofList (mark : Char) (chars : List Char) :
    occurrences mark (String.ofList chars) = chars.count mark := by
  rw [occurrences, String.toList_ofList]

theorem occurrences_append (mark : Char) (first second : String) :
    occurrences mark (first ++ second) = occurrences mark first + occurrences mark second := by
  rw [occurrences, String.toList_append, List.count_append]
  rfl

/-- Joined texts hold what the texts and the separators between them hold. -/
theorem occurrences_intercalate {separator : String} (free : occurrences mark separator = 0)
    (texts : List String) :
    occurrences mark (separator.intercalate texts) = (texts.map (occurrences mark)).sum := by
  rw [occurrences, String.toList_intercalate]
  induction texts with
  | nil => rfl
  | cons first rest ih =>
    cases rest with
    | nil => simp [occurrences]
    | cons second rest =>
      rw [List.map_cons, List.map_cons, List.intercalate_cons_cons, List.count_append,
        List.count_append, ← List.map_cons, ih, List.map_cons, List.sum_cons]
      simpa [occurrences] using free

/-! ## What comes from the graph -/

theorem occurrences_of_figures (angle : IsAngle mark)
    (figures : ∀ c ∈ text.toList, isFigure c = true) : occurrences mark text = 0 := by
  apply List.count_eq_zero_of_not_mem
  intro member
  obtain rfl | rfl := angle
  · exact absurd (figures _ member) (by decide)
  · exact absurd (figures _ member) (by decide)

theorem occurrences_fixed (angle : IsAngle mark) (places : Nat) (x : Float) :
    occurrences mark (Decimal.fixed places x) = 0 :=
  occurrences_of_figures angle fun _ => Decimal.isFigure_of_mem_fixed

theorem occurrences_onePlace (angle : IsAngle mark) (n : Number) :
    occurrences mark (onePlace n) = 0 :=
  occurrences_of_figures angle fun _ => isFigure_of_mem_onePlace

theorem occurrences_nodeFill (angle : IsAngle mark) (kind : String) :
    occurrences mark (nodeFill kind) = 0 :=
  occurrences_of_figures angle fun _ => isFigure_of_mem_nodeFill

theorem occurrences_edgeColor (angle : IsAngle mark) (style : String) :
    occurrences mark (edgeColor style) = 0 :=
  occurrences_of_figures angle fun _ => isFigure_of_mem_edgeColor

theorem notMem_escapeHtmlChar (angle : IsAngle mark) (quotes : Bool) (c : Char) :
    mark ∉ escapeHtmlChar quotes c := by
  have entities : ∀ entity ∈ ["&amp;", "&lt;", "&gt;", "&quot;", "&#x27;"],
      mark ∉ entity.toList := by
    obtain rfl | rfl := angle
    · decide
    · decide
  rw [escapeHtmlChar]
  split
  · exact entities _ (by decide)
  · split
    · exact entities _ (by decide)
    next notLess =>
      split
      · exact entities _ (by decide)
      next notGreater =>
        split
        · exact entities _ (by decide)
        · split
          · exact entities _ (by decide)
          · intro member
            obtain rfl := List.mem_singleton.mp member
            exact angle.elim notLess notGreater

/-- No bracket is left in an escaped text, whatever it was and whether quotes are escaped or not. -/
theorem occurrences_escapeHtml (angle : IsAngle mark) (quotes : Bool) (text : String) :
    occurrences mark (escapeHtml quotes text) = 0 := by
  apply List.count_eq_zero_of_not_mem
  rw [escapeHtml, String.toList_ofList]
  intro member
  obtain ⟨c, -, member⟩ := List.mem_flatMap.mp member
  exact notMem_escapeHtmlChar angle quotes c member

theorem occurrences_kind (angle : IsAngle mark) {kind : String} (known : kind ∈ knownKinds) :
    occurrences mark kind = 0 := by
  revert kind
  obtain rfl | rfl := angle
  · decide
  · decide

/-! ## What is drawn -/

theorem occurrences_svgLine (angle : IsAngle mark) (e : Edge) (source target : Node Number) :
    occurrences mark (svgLine e source target) = 4 := by
  delta svgLine
  simp only [occurrences_append, occurrences_onePlace angle, occurrences_edgeColor angle,
    occurrences_escapeHtml angle]
  obtain rfl | rfl := angle
  · rfl
  · rfl

theorem occurrences_svgBox (angle : IsAngle mark) {n : Node Number} (known : n.kind ∈ knownKinds) :
    occurrences mark (svgBox n) = 5 := by
  delta svgBox
  simp only [occurrences_append, occurrences_onePlace angle, occurrences_nodeFill angle,
    occurrences_escapeHtml angle, occurrences_kind angle known]
  obtain rfl | rfl := angle
  · rfl
  · rfl

/-- The drawing of an arrow, if both of its boxes are there. -/
def line? (nodes : List (Node Number)) (e : Edge) : Option String :=
  match nodeById? nodes e.source, nodeById? nodes e.target with
  | some source, some target => some (svgLine e source target)
  | _, _ => none

theorem line?_isSome (nodes : List (Node Number)) (e : Edge) : (line? nodes e).isSome =
    ((nodeById? nodes e.source).isSome && (nodeById? nodes e.target).isSome) := by
  rw [line?]
  cases nodeById? nodes e.source with
  | none => rfl
  | some source =>
    cases nodeById? nodes e.target with
    | none => rfl
    | some target => rfl

theorem occurrences_line? (angle : IsAngle mark) {nodes : List (Node Number)} {e : Edge}
    {line : String} (drawn : line? nodes e = some line) : occurrences mark line = 4 := by
  rw [line?] at drawn
  split at drawn
  · obtain rfl := Option.some.inj drawn
    exact occurrences_svgLine angle _ _ _
  · exact absurd drawn (by simp)

theorem sum_occurrences {count : Nat} {shapes : List String}
    (each : ∀ shape ∈ shapes, occurrences mark shape = count) :
    (shapes.map (occurrences mark)).sum = count * shapes.length := by
  rw [List.map_congr_left each, List.map_const', List.sum_replicate_nat, Nat.mul_comm]

theorem occurrences_svgShapes (angle : IsAngle mark) {g : Graph Number}
    (known : ∀ n ∈ g.nodes, n.kind ∈ knownKinds) :
    ((svgShapes g).map (occurrences mark)).sum =
      4 * (drawnEdges g).length + 5 * g.nodes.length := by
  have shapes : svgShapes g = g.edges.filterMap (line? g.nodes) ++ g.nodes.map svgBox := rfl
  have lines : (g.edges.filterMap (line? g.nodes)).length = (drawnEdges g).length := by
    rw [List.length_filterMap_eq_countP, drawnEdges, ← List.countP_eq_length_filter]
    exact List.countP_congr fun e _ => by rw [line?_isSome]
  have eachLine : ∀ line ∈ g.edges.filterMap (line? g.nodes), occurrences mark line = 4 := by
    intro line member
    obtain ⟨e, -, drawn⟩ := List.mem_filterMap.mp member
    exact occurrences_line? angle drawn
  have eachBox : ∀ box ∈ g.nodes.map svgBox, occurrences mark box = 5 := by
    intro box member
    obtain ⟨n, here, rfl⟩ := List.mem_map.mp member
    exact occurrences_svgBox angle (known n here)
  rw [shapes, List.map_append, List.sum_append, sum_occurrences eachLine, sum_occurrences eachBox,
    lines, List.length_map]

theorem occurrences_toHtml (g : Graph Number) (title focus : String)
    (known : ∀ n ∈ g.nodes, n.kind ∈ knownKinds) (angle : IsAngle mark) :
    occurrences mark (g.toHtml title focus) =
      18 + 4 * (drawnEdges (g.focused focus)).length + 5 * (g.focused focus).nodes.length := by
  have shapes := occurrences_svgShapes angle
    (fun n member => known n (g.nodes_focused_subset focus member))
  delta toHtml
  obtain ⟨left, top, right, bottom⟩ := frame (g.focused focus).nodes
  have newLine : occurrences mark "\n" = 0 := by
    obtain rfl | rfl := angle
    · rfl
    · rfl
  have nothing : occurrences mark "" = 0 := rfl
  simp only [occurrences_intercalate newLine, List.map_cons, List.sum_cons, List.map_nil,
    List.sum_nil, occurrences_append, occurrences_onePlace angle, occurrences_fixed angle,
    occurrences_escapeHtml angle, occurrences_intercalate nothing, shapes]
  clear newLine nothing shapes
  -- what is left is the text of the page itself, piece by piece
  repeat rw [occurrences_ofList]
  obtain rfl | rfl := angle
  · simp only [List.count_cons, List.count_nil, Char.reduceBEq, reduceIte, Bool.false_eq_true]
    omega
  · simp only [List.count_cons, List.count_nil, Char.reduceBEq, reduceIte, Bool.false_eq_true]
    omega

/-- No markup gets into a page: for the kinds that projects and schemas have, the number of either
bracket follows from how many boxes and arrows are drawn, whatever they are called, say or hold. -/
theorem angles_of_toHtml (g : Graph Number) (title focus : String)
    (known : ∀ n ∈ g.nodes, n.kind ∈ knownKinds) :
    occurrences '<' (g.toHtml title focus) =
        18 + 4 * (drawnEdges (g.focused focus)).length + 5 * (g.focused focus).nodes.length ∧
      occurrences '>' (g.toHtml title focus) =
        18 + 4 * (drawnEdges (g.focused focus)).length + 5 * (g.focused focus).nodes.length :=
  ⟨occurrences_toHtml g title focus known (.inl rfl),
    occurrences_toHtml g title focus known (.inr rfl)⟩

/-- Names, labels and data that look like tags, and an arrow that leads nowhere. -/
def hostileNames : Graph Number where
  nodes := [{ id := "</script><b>", kind := "file", x := 0, y := 0, width := 260, height := 80 },
    { id := "m", kind := "model", x := 300, y := 40, width := 250, height := 51,
      data := [("label", .text "<!--"), ("default", .list [.table [(">", .text "]]>")]])] },
    { id := "other", kind := "folder", x := 0, y := 0, width := 1, height := 1 }]
  edges := [{ id := "1", source := "m", target := "</script><b>", label := "</title>" },
    { id := "2", source := "m", target := "<nowhere>", style := "\"><hr>" }]

theorem angles_of_toHtml_hostileNames :
    (∀ n ∈ hostileNames.nodes, n.kind ∈ knownKinds) ∧
      occurrences '<' (hostileNames.toHtml "</h1><h2>" "<") = 18 + 4 * 1 + 5 * 2 ∧
      occurrences '>' (hostileNames.toHtml "</h1><h2>" "<") = 18 + 4 * 1 + 5 * 2 := by
  have known : ∀ n ∈ hostileNames.nodes, n.kind ∈ knownKinds := by decide
  have drawn : (drawnEdges (hostileNames.focused "<")).length = 1 ∧
      (hostileNames.focused "<").nodes.length = 2 := by decide +kernel
  have page := angles_of_toHtml hostileNames "</h1><h2>" "<" known
  rw [drawn.1, drawn.2] at page
  exact ⟨known, page⟩

end SiteAtlas.Graph
