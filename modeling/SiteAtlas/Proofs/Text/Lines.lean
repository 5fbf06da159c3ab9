import SiteAtlas.Text.Basic

/-! # The lines of texts put together

A line break between two texts keeps their lines apart: the lines of the whole are those of the
first text and those of the second, with at most an empty line between them. So the lines that hold
something are exactly those of both, and a text between two line breaks is one of them.
-/

namespace SiteAtlas.Text

theorem linesFrom_lineFeed (line rest : List Char) :
    linesFrom line ('\n' :: rest) = line.reverse :: linesFrom [] rest := by
  rw [linesFrom, if_pos (by decide)]
  exact fun _ => by simp

/-- An empty line comes in between where the first text is empty or ends with a line break. -/
theorem linesFrom_append (line first second : List Char) :
    linesFrom line (first ++ '\n' :: second) = linesFrom line first ++ linesFrom [] second ∨
      linesFrom line (first ++ '\n' :: second) =
        linesFrom line first ++ [] :: linesFrom [] second := by
  fun_induction linesFrom line first with
  | case1 line empty =>
    rw [List.isEmpty_iff.mp empty]
    exact .inr (linesFrom_lineFeed [] second)
  | case2 line filled => exact .inl (linesFrom_lineFeed line second)
  | case3 line rest ih =>
    have step : linesFrom line ('\r' :: '\n' :: rest ++ '\n' :: second) =
        line.reverse :: linesFrom [] (rest ++ '\n' :: second) := by
      rw [List.cons_append, List.cons_append, linesFrom]
    rw [step]
    exact ih.imp (congrArg (line.reverse :: ·)) (congrArg (line.reverse :: ·))
  | case4 line c rest alone ends ih =>
    by_cases joins : c = '\r' ∧ rest = []
    · -- A carriage return at the end is one line break with the line feed that follows it.
      obtain ⟨rfl, rfl⟩ := joins
      refine .inl ?_
      rw [List.singleton_append, linesFrom]
      rfl
    · have step : linesFrom line (c :: rest ++ '\n' :: second) =
          line.reverse :: linesFrom [] (rest ++ '\n' :: second) := by
        rw [List.cons_append, linesFrom, if_pos ends]
        intro tail isReturn same
        cases rest with
        | nil => exact joins ⟨isReturn, rfl⟩
        | cons d rest => exact alone rest isReturn (congrArg (· :: rest) (List.cons.inj same).1)
      rw [step]
      exact ih.imp (congrArg (line.reverse :: ·)) (congrArg (line.reverse :: ·))
  | case5 line c rest alone goesOn ih =>
    have step : linesFrom line (c :: rest ++ '\n' :: second) =
        linesFrom (c :: line) (rest ++ '\n' :: second) := by
      rw [List.cons_append, linesFrom, if_neg goesOn]
      rintro tail rfl
      exact absurd (by decide) goesOn
    rw [step]
    exact ih

section Unbroken

/-- A text without line breaks that is followed by one is a line. -/
theorem linesFrom_unbroken {piece : List Char} (unbroken : ∀ c ∈ piece, isLineBreak c = false)
    (line rest : List Char) :
    linesFrom line (piece ++ '\n' :: rest) = (line.reverse ++ piece) :: linesFrom [] rest := by
  induction piece generalizing line with
  | nil => rw [List.nil_append, linesFrom_lineFeed, List.append_nil]
  | cons c piece ih =>
    obtain ⟨here, behind⟩ := List.forall_mem_cons.mp unbroken
    have step : linesFrom line (c :: piece ++ '\n' :: rest) =
        linesFrom (c :: line) (piece ++ '\n' :: rest) := by
      rw [List.cons_append, linesFrom, if_neg (by simp [here])]
      rintro tail rfl
      exact absurd here (by decide)
    rw [step, ih behind, List.reverse_cons, List.append_assoc, List.singleton_append]

/-- Texts written one under the other are the lines of the whole. -/
theorem lines_flatMap_lineFeed {pieces : List (List Char)}
    (unbroken : ∀ piece ∈ pieces, ∀ c ∈ piece, isLineBreak c = false) :
    lines (pieces.flatMap (· ++ ['\n'])) = pieces := by
  induction pieces with
  | nil => rfl
  | cons piece rest ih =>
    obtain ⟨here, below⟩ := List.forall_mem_cons.mp unbroken
    rw [List.flatMap_cons, List.append_assoc, List.singleton_append, lines,
      linesFrom_unbroken here]
    exact congrArg (piece :: ·) (ih below)

end Unbroken

/-! ## Lines that hold something -/

/-- The lines of a text that are not empty. -/
def filledLines (text : List Char) : List (List Char) := (lines text).filter (· ≠ [])

/-- A line break ends what was read of a line before it. -/
theorem filter_linesFrom_break {c : Char} (ends : isLineBreak c = true) (line rest : List Char) :
    (linesFrom line (c :: rest)).filter (· ≠ []) =
      [line.reverse].filter (· ≠ []) ++ filledLines rest := by
  by_cases joins : c = '\r' ∧ rest.head? = some '\n'
  · -- The line feed belongs to the same line break, and on its own only ends an empty line.
    obtain ⟨rfl, first⟩ := joins
    obtain ⟨rest, rfl⟩ := List.head?_eq_some_iff.mp first
    have lineFeed : filledLines ('\n' :: rest) = (linesFrom [] rest).filter (· ≠ []) := by
      rw [filledLines, lines, linesFrom_lineFeed]
      rfl
    rw [linesFrom, lineFeed, ← List.singleton_append, List.filter_append]
  · rw [linesFrom, if_pos ends, ← List.singleton_append, List.filter_append]
    · rfl
    · rintro tail rfl rfl
      exact joins ⟨rfl, rfl⟩

/-- Whatever line break stands between two texts keeps the lines that hold something apart. -/
theorem filledLines_append_break {c : Char} (ends : isLineBreak c = true)
    (first second : List Char) :
    filledLines (first ++ c :: second) = filledLines first ++ filledLines second := by
  have from_any (line : List Char) : (linesFrom line (first ++ c :: second)).filter (· ≠ []) =
      (linesFrom line first).filter (· ≠ []) ++ filledLines second := by
    fun_induction linesFrom line first with
    | case1 line empty =>
      rw [List.nil_append, filter_linesFrom_break ends, List.isEmpty_iff.mp empty]
      rfl
    | case2 line filled => rw [List.nil_append, filter_linesFrom_break ends]
    | case3 line rest ih =>
      rw [List.cons_append, List.cons_append, linesFrom, ← List.singleton_append,
        List.filter_append, ih, ← List.append_assoc, ← List.filter_append]
      rfl
    | case4 line d rest alone breaks ih =>
      rw [List.cons_append, filter_linesFrom_break breaks, filledLines, lines, ih,
        ← List.append_assoc, ← List.filter_append]
      rfl
    | case5 line d rest alone goesOn ih =>
      rw [List.cons_append, linesFrom, if_neg goesOn]
      · exact ih
      · rintro tail rfl
        exact absurd (by decide) goesOn
  exact from_any []

/-- Whether a text between two others is a line of the whole, if there is no line break in it. -/
structure IsLineFrame (before after : List Char) : Prop where
  before : ∀ c ∈ before.getLast?, isLineBreak c = true
  after : ∀ c ∈ after.head?, isLineBreak c = true

instance (before after : List Char) : Decidable (IsLineFrame before after) :=
  decidable_of_iff (before.getLast?.all isLineBreak = true ∧ after.head?.all isLineBreak = true)
    (by
      rw [Option.all_eq_true, Option.all_eq_true]
      exact ⟨fun both => ⟨both.1, both.2⟩, fun frame => ⟨frame.before, frame.after⟩⟩)

/-- The lines of the whole are those in front, the line between, and those behind. -/
theorem IsLineFrame.filledLines_eq {before after line : List Char}
    (frame : IsLineFrame before after) (unbroken : ∀ c ∈ line, isLineBreak c = false) :
    filledLines (before ++ line ++ after) =
      filledLines before ++ [line].filter (· ≠ []) ++ filledLines after := by
  have isLine : filledLines line = [line].filter (· ≠ []) := by
    have ended : filledLines (line ++ ['\n']) = [line].filter (· ≠ []) := by
      rw [filledLines, lines, linesFrom_unbroken unbroken]
      rfl
    rw [← ended, filledLines_append_break (by decide)]
    exact (List.append_nil _).symm
  have front (rest : List Char) :
      filledLines (before ++ rest) = filledLines before ++ filledLines rest := by
    rcases List.eq_nil_or_concat before with rfl | ⟨start, c, rfl⟩
    · rfl
    · have ends : isLineBreak c = true := frame.before c (by simp)
      have alone := filledLines_append_break ends start []
      rw [List.concat_eq_append, alone, List.append_assoc, List.singleton_append,
        filledLines_append_break ends, List.append_assoc]
      rfl
  have behind : filledLines (line ++ after) = filledLines line ++ filledLines after := by
    cases after with
    | nil =>
      rw [List.append_nil]
      exact (List.append_nil _).symm
    | cons c rest =>
      have ends : isLineBreak c = true := frame.after c rfl
      have alone := filledLines_append_break ends [] rest
      rw [List.nil_append] at alone
      rw [filledLines_append_break ends, alone]
      rfl
  rw [List.append_assoc, front, behind, isLine, List.append_assoc]

/-! ## Reading line by line -/

section Reading

variable {σ : Type} (step : σ → List Char → σ) (skips : ∀ s, step s [] = s)
include skips

/-- Where empty lines do not matter, only the lines that hold something are read. -/
theorem foldl_lines_eq (s : σ) (text : List Char) :
    (lines text).foldl step s = (filledLines text).foldl step s := by
  have filled : step = fun s line => if decide (line ≠ []) = true then step s line else s := by
    funext s line
    by_cases empty : line = []
    · rw [empty]
      exact skips s
    · rw [if_pos (decide_eq_true empty)]
  rw [filledLines, List.foldl_filter, ← filled]

/-- A line is read between the lines in front of it and those behind it. -/
theorem IsLineFrame.foldl_lines {before after line : List Char} (frame : IsLineFrame before after)
    (unbroken : ∀ c ∈ line, isLineBreak c = false) (s : σ) :
    (lines (before ++ line ++ after)).foldl step s =
      (lines after).foldl step (step ((lines before).foldl step s) line) := by
  have alone (s : σ) : ([line].filter (· ≠ [])).foldl step s = step s line := by
    by_cases empty : line = []
    · rw [empty]
      exact (skips s).symm
    · rw [List.filter_cons_of_pos (by simpa using empty)]
      rfl
  rw [foldl_lines_eq step skips, frame.filledLines_eq unbroken, List.foldl_append,
    List.foldl_append, alone, ← foldl_lines_eq step skips, ← foldl_lines_eq step skips]

end Reading

end SiteAtlas.Text
