import SiteAtlas.Proofs.Graph.EscapedDocument
import SiteAtlas.Proofs.Text.Pieces

/-! # The document inside a page

A page carries the document of its graph in an element for scripts. Entities stand for characters in
text and in attributes, but not in such an element, where a reader finds the texts and keys of the
document as they were escaped. So what is read is the document itself as long as none of them holds
a character that is escaped, and another document otherwise.
-/

namespace SiteAtlas

/-! ## Finding the document -/

namespace Graph

open Text (after? findMap?)

/-- The tag in front of the document of a page. -/
def openingTag : String := "<script id=\"graph-data\" type=\"application/json\">"

/-- The tag behind the document of a page. -/
def closingTag : String := "</script>"

/-- The text in front of the first place where a tag stands. -/
def upTo? (tag : String) : List Char → Option (List Char)
  | [] => none
  | c :: rest =>
    if (after? tag.toList (c :: rest)).isSome then some [] else (upTo? tag rest).map (c :: ·)

/-- What follows the first opening tag. -/
def behindTag? (text : List Char) : Option (List Char) :=
  findMap? (after? openingTag.toList) text

/-- The text between the first opening tag and the next closing one, as it stands there. -/
def embeddedText? (page : String) : Option String :=
  ((behindTag? page.toList).bind (upTo? closingTag)).map String.ofList

/-- What a reader of a page finds as the document of its graph. -/
def embedded? (page : String) : Option Value := (embeddedText? page).bind Json.read?

theorem exists_openingTag : ∃ rest, openingTag.toList = '<' :: 's' :: 'c' :: rest :=
  ⟨_, String.toList_ofList⟩

theorem exists_closingTag : ∃ rest, closingTag.toList = '<' :: rest :=
  ⟨_, String.toList_ofList⟩

theorem behindTag?_openingTag (rest : List Char) :
    behindTag? (openingTag.toList ++ rest) = some rest := by
  obtain ⟨tag, start⟩ := exists_openingTag
  have found : after? openingTag.toList (openingTag.toList ++ rest) = some rest :=
    Text.after?_eq_some_iff.mpr rfl
  rw [behindTag?]
  generalize after? openingTag.toList = read at found ⊢
  rw [start, List.cons_append] at found ⊢
  rw [findMap?, found]

/-- A text without angle brackets ends at the closing tag. -/
theorem upTo?_closingTag {data : List Char} (free : '<' ∉ data) (rest : List Char) :
    upTo? closingTag (data ++ (closingTag.toList ++ rest)) = some data := by
  obtain ⟨tag, start⟩ := exists_closingTag
  induction data with
  | nil =>
    have found : after? closingTag.toList (closingTag.toList ++ rest) = some rest :=
      Text.after?_eq_some_iff.mpr rfl
    rw [List.nil_append]
    rw [start, List.cons_append] at found ⊢
    rw [upTo?, start, found]
    rfl
  | cons c data ih =>
    obtain ⟨other, others⟩ := List.ne_and_not_mem_of_not_mem_cons free
    have unread (text : List Char) : after? closingTag.toList (c :: text) = none := by
      rw [start, after?, if_neg other]
    rw [List.cons_append, upTo?, unread, ih others]
    rfl

/-! ## What stands in front of the document -/

/-- Whether what follows an angle bracket may go on as the opening tag does. -/
def mayOpen : List Char → Bool
  | [] => true
  | [c] => c == 's'
  | c :: d :: _ => c == 's' && d == 'c'

/-- Whether no bracket of a text may begin the opening tag. -/
def opensNothing : List Char → Bool
  | [] => true
  | c :: rest => !(c == '<' && mayOpen rest) && opensNothing rest

/-- Whether no opening tag begins in a text, whatever follows it. -/
def HasNoTag (piece : String) : Prop :=
  ∀ rest, behindTag? (piece.toList ++ rest) = behindTag? rest

variable {piece first second : String} {chars rest : List Char}

theorem after?_of_closed (closed : mayOpen chars = false) (tag : List Char) :
    after? ('s' :: 'c' :: tag) (chars ++ rest) = none := by
  cases chars with
  | nil => exact absurd closed (by decide)
  | cons c more =>
    rw [List.cons_append, after?]
    split
    next isS =>
      subst isS
      cases more with
      | nil => exact absurd closed (by decide)
      | cons d more =>
        rw [List.cons_append, after?, if_neg]
        rintro rfl
        exact absurd closed (by simp [mayOpen])
    · rfl

theorem hasNoTag_ofList (closed : opensNothing chars = true) : HasNoTag (String.ofList chars) := by
  intro rest
  obtain ⟨tag, start⟩ := exists_openingTag
  rw [String.toList_ofList]
  induction chars with
  | nil => rfl
  | cons c more ih =>
    obtain ⟨here, later⟩ := Bool.and_eq_true_iff.mp closed
    have unread : after? openingTag.toList (c :: (more ++ rest)) = none := by
      rw [start, after?]
      split
      next bracket =>
        subst bracket
        exact after?_of_closed (by simpa using here) tag
      · rfl
    rw [List.cons_append, behindTag?, findMap?, unread]
    exact ih later

theorem hasNoTag_of_occurrences (free : occurrences '<' piece = 0) : HasNoTag piece := by
  have noBracket : '<' ∉ piece.toList := List.count_eq_zero.mp free
  have closed : opensNothing piece.toList = true := by
    generalize piece.toList = chars at noBracket
    induction chars with
    | nil => rfl
    | cons c rest ih =>
      obtain ⟨other, others⟩ := List.ne_and_not_mem_of_not_mem_cons noBracket
      rw [opensNothing, ih others, beq_false_of_ne other.symm]
      rfl
  rw [← String.ofList_toList (s := piece)]
  exact hasNoTag_ofList closed

namespace HasNoTag

theorem append (one : HasNoTag first) (other : HasNoTag second) : HasNoTag (first ++ second) := by
  intro rest
  rw [String.toList_append, List.append_assoc, one, other]

/-- Lines without an opening tag are passed over. -/
theorem behindTag?_lines {front : List String} (line : String) (back : List String)
    (each : ∀ piece ∈ front, HasNoTag piece) :
    behindTag? ("\n".intercalate (front ++ line :: back)).toList =
      behindTag? ("\n".intercalate (line :: back)).toList := by
  have newLine : HasNoTag "\n" := hasNoTag_ofList rfl
  induction front with
  | nil => rfl
  | cons piece front ih =>
    obtain ⟨here, others⟩ := List.forall_mem_cons.mp each
    obtain ⟨next, lines, more⟩ : ∃ next lines, front ++ line :: back = next :: lines := by
      cases front with
      | nil => exact ⟨_, _, rfl⟩
      | cons next lines => exact ⟨_, _, rfl⟩
    rw [← ih others, List.cons_append, more, String.toList_intercalate, String.toList_intercalate,
      List.map_cons, List.map_cons, List.intercalate_cons_cons, List.append_assoc, here, newLine]

theorem joined {pieces : List String} (each : ∀ piece ∈ pieces, HasNoTag piece) :
    HasNoTag ("".intercalate pieces) := by
  intro rest
  rw [String.toList_intercalate]
  induction pieces with
  | nil => rfl
  | cons piece pieces ih =>
    obtain ⟨here, others⟩ := List.forall_mem_cons.mp each
    have parts : "".toList.intercalate ((piece :: pieces).map String.toList) =
        piece.toList ++ "".toList.intercalate (pieces.map String.toList) := by
      cases pieces with
      | nil => simp
      | cons next pieces =>
        rw [List.map_cons, List.map_cons, List.intercalate_cons_cons]
        simp
    rw [parts, List.append_assoc, here, ih others]

theorem onePlace (n : Number) : HasNoTag (onePlace n) :=
  hasNoTag_of_occurrences (occurrences_onePlace (.inl rfl) n)

theorem fixed (places : Nat) (x : Float) : HasNoTag (Decimal.fixed places x) :=
  hasNoTag_of_occurrences (occurrences_fixed (.inl rfl) places x)

theorem escapeHtml (quotes : Bool) (text : String) : HasNoTag (escapeHtml quotes text) :=
  hasNoTag_of_occurrences (occurrences_escapeHtml (.inl rfl) quotes text)

theorem svgLine (e : Edge) (source target : Node Number) :
    HasNoTag (svgLine e source target) := by
  have color := hasNoTag_of_occurrences (occurrences_edgeColor (.inl rfl) e.style)
  delta Graph.svgLine
  repeat' with_reducible apply append
  all_goals
    first
    | with_reducible exact color
    | with_reducible exact onePlace _
    | with_reducible exact escapeHtml true _
    | exact hasNoTag_ofList rfl

theorem svgBox {n : Node Number} (kind : '<' ∉ n.kind.toList) : HasNoTag (svgBox n) := by
  have kind := hasNoTag_of_occurrences (List.count_eq_zero.mpr kind)
  have fill := hasNoTag_of_occurrences (occurrences_nodeFill (.inl rfl) n.kind)
  delta Graph.svgBox
  repeat' with_reducible apply append
  all_goals
    first
    | with_reducible exact kind
    | with_reducible exact fill
    | with_reducible exact onePlace _
    | with_reducible exact escapeHtml true _
    | exact hasNoTag_ofList rfl

theorem svgShapes {g : Graph Number} (kinds : ∀ n ∈ g.nodes, '<' ∉ n.kind.toList) :
    ∀ shape ∈ svgShapes g, HasNoTag shape := by
  have shapes : Graph.svgShapes g = g.edges.filterMap (line? g.nodes) ++ g.nodes.map Graph.svgBox :=
    rfl
  intro shape member
  obtain line | box := List.mem_append.mp (shapes ▸ member)
  · obtain ⟨e, -, drawn⟩ := List.mem_filterMap.mp line
    rw [line?] at drawn
    split at drawn
    · obtain rfl := Option.some.inj drawn
      exact svgLine e _ _
    · exact absurd drawn (by simp)
  · obtain ⟨n, here, rfl⟩ := List.mem_map.mp box
    exact svgBox (kinds n here)

end HasNoTag

/-! ## What is read -/

/-- Between the two tags of a page stands what was written there. -/
theorem embeddedText?_lines (front back : List String) {data : String} (free : '<' ∉ data.toList)
    (each : ∀ piece ∈ front, HasNoTag piece) :
    embeddedText? ("\n".intercalate (front ++
      ("  <script id=\"graph-data\" type=\"application/json\">" ++ data ++ "</script>") :: back)) =
      some data := by
  have blanks : HasNoTag "  " := hasNoTag_ofList rfl
  have tag : "  <script id=\"graph-data\" type=\"application/json\">" = "  " ++ openingTag :=
    String.toList_inj.mp (String.toList_ofList.trans (by rw [String.toList_append]; rfl))
  obtain ⟨behind, text⟩ : ∃ behind, ("\n".intercalate
      (("  " ++ openingTag ++ data ++ closingTag) :: back)).toList =
        "  ".toList ++ (openingTag.toList ++ (data.toList ++ (closingTag.toList ++ behind))) := by
    rw [String.toList_intercalate, List.map_cons]
    cases back with
    | nil => exact ⟨[], by simp⟩
    | cons line back =>
      rw [List.map_cons, List.intercalate_cons_cons]
      exact ⟨_, by simp only [String.toList_append, List.append_assoc]; rfl⟩
  rw [embeddedText?, HasNoTag.behindTag?_lines _ _ each, tag]
  change ((behindTag? ("\n".intercalate
    (("  " ++ openingTag ++ data ++ closingTag) :: back)).toList).bind _).map _ = _
  rw [text, blanks, behindTag?_openingTag, Option.bind_some, upTo?_closingTag free, Option.map_some,
    String.ofList_toList]

variable {g : Graph Number} {focus : String}

theorem embeddedText?_toHtml (title : String)
    (kinds : ∀ n ∈ (g.focused focus).nodes, '<' ∉ n.kind.toList) :
    embeddedText? (g.toHtml title focus) =
      some (escapeHtml false (Json.render (g.focused focus).payload)) := by
  have shapes := HasNoTag.joined (HasNoTag.svgShapes kinds)
  have free : '<' ∉ (escapeHtml false (Json.render (g.focused focus).payload)).toList :=
    List.count_eq_zero.mp (occurrences_escapeHtml (.inl rfl) false _)
  delta toHtml
  obtain ⟨left, top, right, bottom⟩ := frame (g.focused focus).nodes
  dsimp only
  generalize escapeHtml false (Json.render (g.focused focus).payload) = data at free ⊢
  refine embeddedText?_lines [_, _, _, _, _, _, _, _, _, _, _, _, _, _, _, _, _] _ free ?_
  repeat' refine List.forall_mem_cons.mpr ⟨?_, ?_⟩
  all_goals
    repeat' with_reducible apply HasNoTag.append
  all_goals
    first
    | with_reducible exact shapes
    | with_reducible exact HasNoTag.onePlace _
    | with_reducible exact HasNoTag.fixed _ _
    | with_reducible exact HasNoTag.escapeHtml true _
    | with_reducible exact fun _ member => absurd member List.not_mem_nil
    | exact hasNoTag_ofList rfl

theorem kind_mem_words {n : Node Number} (member : n ∈ g.nodes) : n.kind ∈ g.payload.words := by
  have own : n.kind ∈ n.payload.words := by simp [Node.payload, Value.words, Value.fieldWords]
  have listed : n.kind ∈ Value.itemWords (g.nodes.map Node.payload) := by
    rw [Value.itemWords_eq, List.flatMap_map]
    exact List.mem_flatMap.mpr ⟨n, member, own⟩
  simp [Graph.payload, Value.words, Value.fieldWords, listed]

theorem embedded?_eq_escaped (title : String) (plain : (g.focused focus).payload.isPlain = true)
    (kinds : ∀ n ∈ (g.focused focus).nodes, '<' ∉ n.kind.toList) :
    embedded? (g.toHtml title focus) = some (g.focused focus).payload.escaped := by
  rw [embedded?, embeddedText?_toHtml title kinds, Option.bind_some, Json.escapeHtml_render plain]
  exact Json.read?_render (Value.isPlain_escaped plain)

/-- A page gives back the document of the graph around the focus if nothing in it is escaped. If a
text or key holds an escaped character, and no bracket in a kind makes a tag of its own, the reader
finds the escaped document instead. -/
theorem embedded?_toHtml (g : Graph Number) (title focus : String)
    (plain : (g.focused focus).payload.isPlain = true) :
    ((g.focused focus).payload.IsUnmarked →
        embedded? (g.toHtml title focus) = some (g.focused focus).payload) ∧
      ((∀ n ∈ (g.focused focus).nodes, '<' ∉ n.kind.toList) →
        embedded? (g.toHtml title focus) = some (g.focused focus).payload.escaped ∧
          (embedded? (g.toHtml title focus) = some (g.focused focus).payload →
            (g.focused focus).payload.IsUnmarked)) := by
  constructor
  · intro unmarked
    have kinds : ∀ n ∈ (g.focused focus).nodes, '<' ∉ n.kind.toList := by
      intro n member bracket
      exact absurd (unmarked n.kind (kind_mem_words member) '<' bracket) (by decide)
    rw [embedded?_eq_escaped title plain kinds, (Value.escaped_eq_self_iff _).mpr unmarked]
  · intro kinds
    have read := embedded?_eq_escaped title plain kinds
    refine ⟨read, fun same => ?_⟩
    rw [read, Option.some_inj] at same
    exact (Value.escaped_eq_self_iff _).mp same

/-- A name in quotes with a line break, places between whole numbers, and nested data. -/
def spacedNames : Graph Number where
  nodes := [
    { id := "\"a\"\n", kind := "model", x := .real 0.5, y := 40, width := 250, height := 51,
      data := [("label", .text "a\\"), ("fields", .list [.table [("id", .bool true)], .null])] }]
  edges := [{ id := "1", source := "\"a\"\n", target := "b" }]
  stats := some [("modelCount", .number 1)]

theorem embedded?_toHtml_spacedNames :
    (spacedNames.focused "").payload.isPlain = true ∧
      (spacedNames.focused "").payload.IsUnmarked ∧
      embedded? (spacedNames.toHtml "<b>" "") = some (spacedNames.focused "").payload := by
  have plain : (spacedNames.focused "").payload.isPlain = true := by decide +kernel
  have unmarked : (spacedNames.focused "").payload.IsUnmarked := by decide +kernel
  exact ⟨plain, unmarked, (embedded?_toHtml spacedNames "<b>" "" plain).1 unmarked⟩

/-- A graph with one box, whose name holds an ampersand. -/
def ampersandName : Graph Number where
  nodes := [{ id := "a&b", kind := "folder", x := 0, y := 0, width := 0, height := 0 }]

/-- The name comes back changed. -/
theorem embedded?_ampersandName :
    (ampersandName.focused "").payload.isPlain = true ∧
      embedded? (ampersandName.toHtml "NextGraph Export" "") ≠
        some (ampersandName.focused "").payload := by
  have plain : (ampersandName.focused "").payload.isPlain = true := by decide +kernel
  have kinds : ∀ n ∈ (ampersandName.focused "").nodes, '<' ∉ n.kind.toList := by decide +kernel
  have marked : ¬(ampersandName.focused "").payload.IsUnmarked := by decide +kernel
  refine ⟨plain, fun same => marked ?_⟩
  rw [embedded?_eq_escaped _ plain kinds, Option.some_inj] at same
  exact (Value.escaped_eq_self_iff _).mp same

end Graph

end SiteAtlas
