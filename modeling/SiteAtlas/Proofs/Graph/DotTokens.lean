import Mathlib.Data.List.Forall2
import SiteAtlas.Proofs.Graph.Figures
import SiteAtlas.Proofs.Graph.Focus

/-! # Reading DOT text back

Outside quotes every character stands for itself; inside, a backslash takes the next character with
it. Written and read texts meet at the tokens of a document: the quoted texts as they were before
they were escaped, between the fixed marks of the lines.
-/

namespace SiteAtlas.Dot

/-- A piece of a DOT text: a character outside quotes, or what a quoted text reads as. -/
inductive Token where
  | mark (c : Char)
  | text (value : String)
  deriving DecidableEq

/-- The text of a quoted token. -/
def Token.text? : Token → Option String
  | mark _ => none
  | text value => some value

/-- What a character behind a backslash is read as. -/
def escaped? (c : Char) : Option Char :=
  if c = 'n' then some '\n' else if c = '"' ∨ c = '\\' then some c else none

/-- The tokens of a text. Inside quotes, the first argument is what was read since they opened,
last character first. There are none if a quoted text does not end, or if a backslash stands in
front of any other character. -/
def scan : Option (List Char) → List Char → Option (List Token)
  | none, [] => some []
  | some _, [] => none
  | none, c :: rest =>
    if c = '"' then scan (some []) rest else (scan none rest).map (Token.mark c :: ·)
  | some done, '\\' :: c :: rest => (escaped? c).bind fun c => scan (some (c :: done)) rest
  | some done, c :: rest =>
    if c = '"' then (scan none rest).map (Token.text (String.ofList done.reverse) :: ·)
    else scan (some (c :: done)) rest

/-- The tokens of a whole text. -/
def tokens? (text : String) : Option (List Token) := scan none text.toList

/-- The characters of a text outside quotes. -/
def marks (text : String) : List Token := text.toList.map .mark

/-! ## Documents as tokens -/

/-- The label of a box: its kind and, on a line of its own, what is written on it. -/
def nodeLabel (n : Node Number) : String := n.kind ++ "\n" ++ n.label

/-- Where a box is pinned: its centre, with the vertical axis upward. -/
def nodePosition (n : Node Number) : String :=
  Graph.onePlace (n.x + Scalar.half n.width) ++ "," ++
    Graph.onePlace (-(n.y + Scalar.half n.height)) ++ "!"

/-- The line of a box. -/
def nodeTokens (n : Node Number) : List Token :=
  marks "  " ++ [.text n.id] ++ marks " [label=" ++ [.text (nodeLabel n)] ++ marks ", pos=" ++
    [.text (nodePosition n)] ++ marks ", fillcolor=" ++ [.text (Graph.nodeFill n.kind)] ++
    marks "];"

/-- The line of an arrow. -/
def edgeTokens (e : Edge) : List Token :=
  marks "  " ++ [.text e.source] ++ marks " -> " ++ [.text e.target] ++ marks " [label=" ++
    [.text e.label] ++ marks ", color=" ++ [.text (Graph.edgeColor e.style)] ++ marks ", class=" ++
    [.text e.style] ++ marks "];"

/-- The lines of a document. -/
def lineTokens (g : Graph Number) : List (List Token) :=
  [marks "digraph NextGraph \x7b", marks "  rankdir=LR;",
      marks "  node [shape=box, style=filled, fontname=Helvetica];"] ++
    g.nodes.map nodeTokens ++ g.edges.map edgeTokens ++ [marks "\x7d"]

/-- A document: its lines with a line break between two. -/
def documentTokens (g : Graph Number) : List Token :=
  [Token.mark '\n'].intercalate (lineTokens g)

/-- The texts of a box: its id, its label, where it is pinned and how it is filled. -/
def nodeTexts (n : Node Number) : List String :=
  [n.id, nodeLabel n, nodePosition n, Graph.nodeFill n.kind]

/-- The texts of an arrow: both ends, its label and how it is drawn. -/
def edgeTexts (e : Edge) : List String :=
  [e.source, e.target, e.label, Graph.edgeColor e.style, e.style]

/-! ## Reading -/

/-- Whether a text is read as these tokens, whatever follows it. -/
def ReadsAs (text : List Char) (tokens : List Token) : Prop :=
  ∀ rest, scan none (text ++ rest) = (scan none rest).map (tokens ++ ·)

/-- Whether a text inside quotes is read as these characters, whatever was read before it and
whatever follows it. -/
def Spells (text value : List Char) : Prop :=
  ∀ done rest, scan (some done) (text ++ rest) = scan (some (value.reverse ++ done)) rest

/-- Whether a character may stand inside quotes as it is. -/
def IsPlain (c : Char) : Prop := c ≠ '"' ∧ c ≠ '\\'

instance (c : Char) : Decidable (IsPlain c) := inferInstanceAs (Decidable (_ ∧ _))

variable {text text' value value' : List Char} {tokens tokens' : List Token}
  {c c' : Char}

theorem scan_plain (done rest : List Char) (plain : IsPlain c) :
    scan (some done) (c :: rest) = scan (some (c :: done)) rest := by
  rw [scan, if_neg plain.1]
  intro _ _ backslash
  exact absurd backslash plain.2

theorem scan_close (done rest : List Char) :
    scan (some done) ('"' :: rest) =
      (scan none rest).map (Token.text (String.ofList done.reverse) :: ·) := by
  simp [scan]

theorem Spells.nil : Spells [] [] := by
  intro done rest
  rfl

theorem Spells.append (first : Spells text value) (second : Spells text' value') :
    Spells (text ++ text') (value ++ value') := by
  intro done rest
  rw [List.append_assoc, first, second, List.reverse_append, List.append_assoc]

theorem Spells.escaped (found : escaped? c = some c') : Spells ['\\', c] [c'] := by
  intro done rest
  simp [scan, found]

theorem Spells.plain (plain : ∀ c ∈ text, IsPlain c) : Spells text text := by
  induction text with
  | nil => exact .nil
  | cons c rest ih =>
    have first : Spells [c] [c] := by
      intro done rest
      exact scan_plain done rest (plain c List.mem_cons_self)
    exact first.append (ih fun c member => plain c (List.mem_cons_of_mem _ member))

/-- Escaping is undone, whatever mix of quotes, backslashes and line breaks a text has. -/
theorem Spells.escapeDot (text : List Char) :
    Spells (text.flatMap Graph.escapeDotChar) text := by
  induction text with
  | nil => exact .nil
  | cons c rest ih =>
    have first : Spells (Graph.escapeDotChar c) [c] := by
      rw [Graph.escapeDotChar]
      split
      next backslash =>
        subst backslash
        exact .escaped rfl
      next noBackslash =>
        split
        next quote =>
          subst quote
          exact .escaped rfl
        next noQuote =>
          exact .plain fun c member => by
            obtain rfl := List.mem_singleton.mp member
            exact ⟨noQuote, noBackslash⟩
    exact first.append ih

theorem ReadsAs.append (first : ReadsAs text tokens) (second : ReadsAs text' tokens') :
    ReadsAs (text ++ text') (tokens ++ tokens') := by
  intro rest
  rw [List.append_assoc, first, second, Option.map_map]
  congr 1
  funext rest
  simp

theorem ReadsAs.marks (text : String) (unquoted : '"' ∉ text.toList) :
    ReadsAs text.toList (marks text) := by
  rw [Dot.marks]
  generalize text.toList = chars at unquoted ⊢
  induction chars with
  | nil => exact fun rest => by simp
  | cons c chars ih =>
    obtain ⟨other, others⟩ := List.ne_and_not_mem_of_not_mem_cons unquoted
    have first : ReadsAs [c] [.mark c] := fun rest => by simp [scan, Ne.symm other]
    exact first.append (ih others)

/-- A quoted text ends at the quote that closes it. -/
theorem ReadsAs.quoted (value : String) (spelled : Spells text value.toList) :
    ReadsAs ('"' :: text ++ ['"']) [.text value] := by
  intro rest
  have opened : scan none ('"' :: text ++ ['"'] ++ rest) =
      scan (some []) (text ++ '"' :: rest) := by
    simp [scan]
  rw [opened, spelled, scan_close]
  simp

/-! ## Lines -/

theorem Spells.figures (figures : ∀ c ∈ text, isFigure c = true) : Spells text text := by
  apply Spells.plain
  intro c member
  constructor
  · rintro rfl
    exact absurd (figures _ member) (by decide)
  · rintro rfl
    exact absurd (figures _ member) (by decide)

theorem Spells.nodeLabel (n : Node Number) :
    Spells (n.kind.toList.flatMap Graph.escapeDotChar ++ ['\\', 'n'] ++
      n.label.toList.flatMap Graph.escapeDotChar) (nodeLabel n).toList := by
  have newLine : Spells ['\\', 'n'] ['\n'] := .escaped rfl
  have label := ((Spells.escapeDot n.kind.toList).append newLine).append
    (Spells.escapeDot n.label.toList)
  simpa [Dot.nodeLabel] using label

theorem Spells.nodePosition (n : Node Number) :
    Spells (nodePosition n).toList (nodePosition n).toList := by
  have coordinate (n : Number) : Spells (Graph.onePlace n).toList (Graph.onePlace n).toList :=
    .figures fun _ => Graph.isFigure_of_mem_onePlace
  have comma : Spells [','] [','] := .plain (List.forall_mem_singleton.mpr (by decide))
  have pin : Spells ['!'] ['!'] := .plain (List.forall_mem_singleton.mpr (by decide))
  have position := (((coordinate (n.x + Scalar.half n.width)).append comma).append
    (coordinate (-(n.y + Scalar.half n.height)))).append pin
  simpa [Dot.nodePosition] using position

theorem ReadsAs.dotNode (n : Node Number) : ReadsAs (Graph.dotNode n).toList (nodeTokens n) := by
  have id := (marks "  " (by decide)).append (.quoted n.id (.escapeDot _))
  have label := (marks " [label=" (by decide)).append (.quoted (Dot.nodeLabel n) (.nodeLabel n))
  have position := (marks ", pos=" (by decide)).append
    (.quoted (Dot.nodePosition n) (.nodePosition n))
  have fill := (marks ", fillcolor=" (by decide)).append
    (.quoted (Graph.nodeFill n.kind) (.figures fun _ => Graph.isFigure_of_mem_nodeFill))
  have line := (((id.append label).append position).append fill).append
    (marks "];" (by decide))
  delta Graph.dotNode
  simpa [Graph.escapeDot, Dot.nodePosition, nodeTokens] using line

theorem ReadsAs.dotEdge {e : Edge} (plain : ∀ c ∈ e.style.toList, IsPlain c) :
    ReadsAs (Graph.dotEdge e).toList (edgeTokens e) := by
  have source := (marks "  " (by decide)).append (.quoted e.source (.escapeDot _))
  have target := (marks " -> " (by decide)).append (.quoted e.target (.escapeDot _))
  have label := (marks " [label=" (by decide)).append
    (.quoted e.label (.escapeDot _))
  have color := (marks ", color=" (by decide)).append
    (.quoted (Graph.edgeColor e.style) (.figures fun _ => Graph.isFigure_of_mem_edgeColor))
  have style := (marks ", class=" (by decide)).append (.quoted e.style (.plain plain))
  have line := ((((source.append target).append label).append color).append style).append
    (marks "];" (by decide))
  delta Graph.dotEdge
  simpa [Graph.escapeDot, edgeTokens] using line

/-! ## Whole documents -/

theorem ReadsAs.joined {lines : List (List Char)} {tokens : List (List Token)}
    (each : List.Forall₂ ReadsAs lines tokens) :
    ReadsAs (['\n'].intercalate lines) ([Token.mark '\n'].intercalate tokens) := by
  have newLine : ReadsAs ['\n'] [.mark '\n'] := marks "\n" (by decide)
  induction each with
  | nil => exact fun rest => by simp
  | cons first others ih =>
    cases others with
    | nil => simpa using first
    | cons second others =>
      rw [List.intercalate_cons_cons, List.intercalate_cons_cons]
      exact (first.append newLine).append ih

/-- The texts of the lines are the texts of the document they are joined to. -/
theorem texts_joined (lines : List (List Token)) :
    ([Token.mark '\n'].intercalate lines).filterMap Token.text? =
      lines.flatMap (List.filterMap Token.text?) := by
  induction lines with
  | nil => rfl
  | cons first rest ih =>
    cases rest with
    | nil => simp
    | cons second rest =>
      rw [List.intercalate_cons_cons, List.filterMap_append, List.filterMap_append, ih]
      simp [Token.text?]

@[simp] theorem texts_marks (text : String) : (marks text).filterMap Token.text? = [] := by
  simp [marks, Token.text?, List.filterMap_eq_nil_iff]

theorem texts_nodeTokens (n : Node Number) :
    (nodeTokens n).filterMap Token.text? = nodeTexts n := by
  simp [nodeTokens, nodeTexts, Token.text?]

theorem texts_edgeTokens (e : Edge) : (edgeTokens e).filterMap Token.text? = edgeTexts e := by
  simp [edgeTokens, edgeTexts, Token.text?]

theorem texts_lineTokens (g : Graph Number) :
    (lineTokens g).flatMap (List.filterMap Token.text?) =
      g.nodes.flatMap nodeTexts ++ g.edges.flatMap edgeTexts := by
  simp [lineTokens, List.flatMap_map, texts_nodeTokens, texts_edgeTokens]

/-- The DOT text of a graph reads back: every text of the boxes and arrows around the focus ends at
the quote that was written behind it, and nothing but the marks of the lines stands between them. -/
theorem toDot_reads_back (g : Graph Number) (focus : String)
    (plain : ∀ e ∈ g.edges, ∀ c ∈ e.style.toList, c ≠ '"' ∧ c ≠ '\\') :
    tokens? (g.toDot focus) = some (documentTokens (g.focused focus)) ∧
      (documentTokens (g.focused focus)).filterMap Token.text? =
        (g.focused focus).nodes.flatMap nodeTexts ++ (g.focused focus).edges.flatMap edgeTexts := by
  refine ⟨?_, (texts_joined _).trans (texts_lineTokens _)⟩
  have head : List.Forall₂ ReadsAs
      (["digraph NextGraph \x7b", "  rankdir=LR;",
        "  node [shape=box, style=filled, fontname=Helvetica];"].map String.toList)
      [marks "digraph NextGraph \x7b", marks "  rankdir=LR;",
        marks "  node [shape=box, style=filled, fontname=Helvetica];"] :=
    .cons (.marks _ (by decide)) (.cons (.marks _ (by decide)) (.cons (.marks _ (by decide)) .nil))
  have nodes : List.Forall₂ ReadsAs
      (((g.focused focus).nodes.map Graph.dotNode).map String.toList)
      ((g.focused focus).nodes.map nodeTokens) := by
    rw [List.map_map, List.forall₂_map_left_iff, List.forall₂_map_right_iff, List.forall₂_same]
    exact fun n _ => .dotNode n
  have edges : List.Forall₂ ReadsAs
      (((g.focused focus).edges.map Graph.dotEdge).map String.toList)
      ((g.focused focus).edges.map edgeTokens) := by
    rw [List.map_map, List.forall₂_map_left_iff, List.forall₂_map_right_iff, List.forall₂_same]
    exact fun e member => .dotEdge (plain e (g.edges_focused_subset focus member))
  have foot : List.Forall₂ ReadsAs (["\x7d"].map String.toList) [marks "\x7d"] :=
    .cons (.marks _ (by decide)) .nil
  have lines := ReadsAs.joined
    (List.rel_append (List.rel_append (List.rel_append head nodes) edges) foot) []
  simpa [tokens?, Graph.toDot, String.toList_intercalate, documentTokens, lineTokens, scan]
    using lines

/-- Names with a quote, with a backslash at the end and with a line break. -/
def quotedNames : Graph Number where
  nodes := [{ id := "a\"b", kind := "file", x := 0, y := 0, width := 260, height := 80 },
    { id := "c\\", kind := "folder", x := 300, y := 40, width := 250, height := 51,
      data := [("label", .text "\\n\n\"")] },
    { id := "d", kind := "file", x := 0, y := 0, width := 1, height := 1 }]
  edges := [{ id := "1", source := "c\\", target := "a\"b", label := "\\\"" }]

theorem toDot_reads_back_quotedNames :
    (∀ e ∈ quotedNames.edges, ∀ c ∈ e.style.toList, c ≠ '"' ∧ c ≠ '\\') ∧
      (tokens? (quotedNames.toDot "a")).map (List.filterMap Token.text?) =
        some ["a\"b", "file\na\"b", "130.0,-40.0!", "#f9fafb", "c\\", "folder\n\\n\n\"",
          "425.0,-65.5!", "#eff6ff", "c\\", "a\"b", "\\\"", "#9ca3af", "structural"] := by
  have plain : ∀ e ∈ quotedNames.edges, ∀ c ∈ e.style.toList, c ≠ '"' ∧ c ≠ '\\' := by
    have style : "structural".toList.all (fun c => c != '"' && c != '\\') = true := by decide
    intro e member c inside
    obtain rfl := List.mem_singleton.mp member
    simpa using List.all_eq_true.mp style c inside
  obtain ⟨read, texts⟩ := toDot_reads_back quotedNames "a" plain
  refine ⟨plain, ?_⟩
  rw [read, Option.map_some, texts]
  decide +kernel

end SiteAtlas.Dot
