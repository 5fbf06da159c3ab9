import SiteAtlas.Schema.Reader
import SiteAtlas.Proofs.Schema.Blocks
import SiteAtlas.Proofs.Schema.Quotations
import SiteAtlas.Proofs.Text.Lines
import SiteAtlas.Proofs.Text.Words
import Mathlib.Algebra.Ring.Parity

/-! # Comments at the end of a line

A comment is left out from the first two slashes on that stand outside of quotes. Whether they do is
told by looking back one character from each quote: they are taken to stand inside if an odd number
of bare quotes is in front. So a comment at the end of a line is left out exactly if the number of
bare quotes is even there, or already at two slashes before. That holds of every line whose quotes
are closed, unless one that opens or closes stands behind a backslash, as in `"C:\\"`.
-/

namespace SiteAtlas.Schema

open Text

/-! ## What is left of a line -/

/-- Whether two slashes would be taken to stand inside quotes behind a line, and are everywhere in
it, if `count` bare quotes are in front of it. -/
structure OpenBehind (count : Nat) (before : Option Char) (line : List Char) : Prop where
  atEnd : Odd (count + bareQuotes before line)
  atSlashes : ∀ front behind, line = front ++ '/' :: '/' :: behind →
    Odd (count + bareQuotes before front)

/-- Whether a line is taken to end inside quotes. -/
def LeftOpen (line : List Char) : Prop := OpenBehind 0 none line

theorem openBehind_nil {count : Nat} {before : Option Char} :
    OpenBehind count before [] ↔ Odd count :=
  ⟨fun opened => opened.atEnd, fun odd => ⟨odd, fun front behind whole => by simp at whole⟩⟩

/-- The character at the front decides about the slashes there, and the rest about those behind. -/
theorem openBehind_cons {count : Nat} {before : Option Char} {c : Char} {rest : List Char} :
    OpenBehind count before (c :: rest) ↔ (c = '/' → rest.head? = some '/' → Odd count) ∧
      OpenBehind (count + if c = '"' ∧ before ≠ some '\\' then 1 else 0) (some c) rest := by
  have counts (text : List Char) : count + bareQuotes before (c :: text) =
      (count + if c = '"' ∧ before ≠ some '\\' then 1 else 0) + bareQuotes (some c) text := by
    rw [bareQuotes, Nat.add_assoc]
  constructor
  · intro opened
    refine ⟨?_, ?_, ?_⟩
    · rintro rfl next
      obtain ⟨behind, rfl⟩ := List.head?_eq_some_iff.mp next
      exact opened.atSlashes [] behind rfl
    · rw [← counts]
      exact opened.atEnd
    · rintro front behind rfl
      rw [← counts]
      exact opened.atSlashes (c :: front) behind rfl
  · rintro ⟨here, opened⟩
    refine ⟨?_, ?_⟩
    · rw [counts]
      exact opened.atEnd
    · intro front behind whole
      cases front with
      | nil =>
        obtain ⟨rfl, rfl⟩ := List.cons.inj whole
        exact here rfl rfl
      | cons d front =>
        obtain ⟨rfl, rfl⟩ := List.cons.inj whole
        rw [counts]
        exact opened.atSlashes front behind rfl

theorem beforeComment_cons (before : Option Char) (quoted : Bool) (c : Char) (rest : List Char) :
    beforeComment before quoted (c :: rest) =
      if c = '"' ∧ before ≠ some '\\' then c :: beforeComment (some c) (!quoted) rest
      else if c = '/' ∧ quoted = false ∧ rest.head? = some '/' then []
      else c :: beforeComment (some c) quoted rest := rfl

theorem not_decide_odd (count : Nat) : (!decide (Odd count)) = decide (Odd (count + 1)) := by
  simp only [Nat.odd_add_one, decide_not]

/-- Nothing of an open line is left out, and what follows it is read as if inside quotes. -/
theorem OpenBehind.exists_beforeComment {count : Nat} {before : Option Char} {line : List Char}
    (opened : OpenBehind count before line) : ∃ last, ∀ tail : List Char, tail.head? ≠ some '/' →
      beforeComment before (decide (Odd count)) (line ++ tail) =
        line ++ beforeComment last true tail := by
  induction line generalizing count before with
  | nil =>
    refine ⟨before, fun tail _ => ?_⟩
    rw [decide_eq_true (openBehind_nil.mp opened)]
    rfl
  | cons c rest ih =>
    obtain ⟨here, opened⟩ := openBehind_cons.mp opened
    obtain ⟨last, passes⟩ := ih opened
    refine ⟨last, fun tail goesOn => ?_⟩
    rw [List.cons_append, beforeComment_cons, List.cons_append, ← passes tail goesOn]
    by_cases bare : c = '"' ∧ before ≠ some '\\'
    · rw [if_pos bare, if_pos bare, not_decide_odd]
    · have inside : ¬ (c = '/' ∧ decide (Odd count) = false ∧ (rest ++ tail).head? = some '/') := by
        rintro ⟨slash, even, next⟩
        cases rest with
        | nil => exact goesOn next
        | cons d rest => exact of_decide_eq_false even (here slash next)
      rw [if_neg bare, if_neg inside, if_neg bare, Nat.add_zero]

/-- Behind a line that is not open, a comment is left out, but for the space in front of it. -/
theorem trimRight_beforeComment_commented {count : Nat} {before : Option Char} {line : List Char}
    (settled : ¬ OpenBehind count before line) (comment : List Char) :
    trimRight (beforeComment before (decide (Odd count)) (line ++ ' ' :: '/' :: '/' :: comment)) =
      trimRight (beforeComment before (decide (Odd count)) line) := by
  induction line generalizing count before with
  | nil =>
    rw [openBehind_nil] at settled
    rw [decide_eq_false settled]
    rfl
  | cons c rest ih =>
    rw [openBehind_cons, not_and] at settled
    have sameHead : (rest ++ ' ' :: '/' :: '/' :: comment).head? = some '/' ↔
        rest.head? = some '/' := by
      cases rest with
      | nil => simp
      | cons d rest => rfl
    rw [List.cons_append, beforeComment_cons, beforeComment_cons]
    simp only [sameHead]
    by_cases bare : c = '"' ∧ before ≠ some '\\'
    · have behind := settled fun slash => by
        rw [bare.1] at slash
        exact absurd slash (by decide)
      rw [if_pos bare] at behind
      rw [if_pos bare, if_pos bare, trimRight_cons, trimRight_cons, not_decide_odd, ih behind]
    · rw [if_neg bare, if_neg bare]
      by_cases cut : c = '/' ∧ decide (Odd count) = false ∧ rest.head? = some '/'
      · rw [if_pos cut, if_pos cut]
      · have behind := settled fun slash next => by
          by_contra even
          exact cut ⟨slash, decide_eq_false even, next⟩
        rw [if_neg bare, Nat.add_zero] at behind
        rw [if_neg cut, if_neg cut, trimRight_cons, trimRight_cons, ih behind]

theorem tidyLine_eq (line : List Char) : tidyLine line = trim (beforeComment none false line) :=
  trim_trimRight _

/-- What is left of a line is not changed by a comment behind it exactly if the line is not left
open. -/
theorem tidyLine_commented_eq_iff (line comment : List Char) :
    tidyLine (line ++ ' ' :: '/' :: '/' :: comment) = tidyLine line ↔ ¬ LeftOpen line := by
  constructor
  · intro same opened
    obtain ⟨last, passes⟩ := OpenBehind.exists_beforeComment opened
    rw [decide_eq_false (by decide)] at passes
    have whole : beforeComment none false line = line := by
      have nothing : beforeComment none false (line ++ []) = line ++ [] := passes [] (by simp)
      rwa [List.append_nil] at nothing
    have commented : beforeComment none false (line ++ ' ' :: '/' :: '/' :: comment) =
        line ++ ' ' :: '/' :: '/' :: beforeComment (some '/') true comment :=
      passes (' ' :: '/' :: '/' :: comment) (by simp)
    rw [tidyLine_eq, tidyLine_eq, whole, commented] at same
    have counts := congrArg (List.count '/') same
    rw [count_trim (by decide), count_trim (by decide), List.count_append] at counts
    simp at counts
  · intro settled
    have stripped := trimRight_beforeComment_commented settled comment
    exact congrArg trim stripped

/-! ## What is read of a text -/

/-- It does not matter to a reader which of two lines with the same left of them a text has. -/
theorem scan_congr_line {before after line line' : List Char} (frame : IsLineFrame before after)
    (unbroken : ∀ c ∈ line, isLineBreak c = false) (unbroken' : ∀ c ∈ line', isLineBreak c = false)
    (same : tidyLine line = tidyLine line') :
    scan (before ++ line ++ after) = scan (before ++ line' ++ after) := by
  let step (s : ReadState) (line : List Char) : ReadState := s.addLine (tidyLine line)
  have skips (s : ReadState) : step s [] = s := ReadState.addLine_nil s
  have read (text : List Char) : scan text = (lines text).foldl step {} := List.foldl_map
  have sameStep (s : ReadState) : step s line = step s line' := congrArg s.addLine same
  rw [read, read, frame.foldl_lines step skips unbroken, frame.foldl_lines step skips unbroken',
    sameStep]

/-! ## Lines whose quotes are closed -/

/-- A line in which all quotes are closed, where a comment begins or at the end. -/
def ClosesQuotes (fits : Char → Prop) (line : List Char) : Prop :=
  Closed fits none line ∨
    ∃ code text, line = code ++ '/' :: '/' :: text ∧ Closed fits none code

/-- A line is not left open if its quotes are closed and none that opens or closes stands behind a
backslash. -/
theorem ClosesQuotes.not_leftOpen {line : List Char} (closes : ClosesQuotes (· ≠ '\\') line) :
    ¬ LeftOpen line := by
  intro opened
  rcases closes with closed | ⟨code, text, whole, closed⟩
  · have odd := opened.atEnd
    rw [Nat.zero_add] at odd
    exact Nat.not_odd_iff_even.mpr closed.even_bareQuotes odd
  · have odd := opened.atSlashes code text whole
    rw [Nat.zero_add] at odd
    exact Nat.not_odd_iff_even.mpr closed.even_bareQuotes odd

/-- A comment behind a line does not matter to what is left of the line exactly if the line is not
left open. Then it does not matter either to what is read of any text with the line in it. That is
so for a line whose quotes are closed, unless one that opens or closes stands behind a backslash. -/
theorem trailing_comment_left_out_iff {line comment : List Char}
    (unbroken : ∀ c ∈ line, isLineBreak c = false)
    (unbroken' : ∀ c ∈ comment, isLineBreak c = false) :
    let commented := line ++ ' ' :: '/' :: '/' :: comment
    (tidyLine commented = tidyLine line ↔ ¬ LeftOpen line) ∧
    (¬ LeftOpen line → ∀ before after, IsLineFrame before after →
      ofText (String.ofList (before ++ commented ++ after)) =
          ofText (String.ofList (before ++ line ++ after)) ∧
        ofTextStrict (String.ofList (before ++ commented ++ after)) =
          ofTextStrict (String.ofList (before ++ line ++ after))) ∧
    (ClosesQuotes (· ≠ '\\') line → ¬ LeftOpen line) := by
  intro commented
  refine ⟨tidyLine_commented_eq_iff line comment, ?_, fun closes => closes.not_leftOpen⟩
  intro settled before after frame
  have unbrokenAll : ∀ c ∈ commented, isLineBreak c = false := by
    intro c member
    rcases List.mem_append.mp member with inLine | inComment
    · exact unbroken c inLine
    · simp only [List.mem_cons] at inComment
      rcases inComment with rfl | rfl | rfl | inComment
      · decide
      · decide
      · decide
      · exact unbroken' c inComment
  have sameLine : tidyLine commented = tidyLine line :=
    (tidyLine_commented_eq_iff line comment).mpr settled
  have sameScan := scan_congr_line frame unbrokenAll unbroken sameLine
  have sameText : ofText (String.ofList (before ++ commented ++ after)) =
      ofText (String.ofList (before ++ line ++ after)) := by
    rw [ofText, ofText, String.toList_ofList, String.toList_ofList, sameScan]
  refine ⟨sameText, ?_⟩
  rw [ofTextStrict, ofTextStrict, sameText, String.toList_ofList, String.toList_ofList, sameScan]

/-- What stands in front of the only line of a model. -/
def modelOpening : List Char := "model A \x7b\n".toList

/-- What stands behind it. -/
def modelClosing : List Char := "\n\x7d\n".toList

theorem isLineFrame_model : IsLineFrame modelOpening modelClosing := by decide

/-- A comment behind a line with an escaped quote and slashes inside its quotes. -/
theorem trailing_comment_left_out_behind_quotes :
    let line := "  url String @default(\"\\\"//\")".toList
    let comment := " @unique".toList
    (∀ c ∈ line, isLineBreak c = false) ∧ (∀ c ∈ comment, isLineBreak c = false) ∧
    ClosesQuotes (· ≠ '\\') line ∧
    ofText (String.ofList
        (modelOpening ++ (line ++ ' ' :: '/' :: '/' :: comment) ++ modelClosing)) =
      ofText (String.ofList (modelOpening ++ line ++ modelClosing)) := by
  intro line comment
  have unbroken : ∀ c ∈ line, isLineBreak c = false := eq_false_of_all (by decide)
  have unbroken' : ∀ c ∈ comment, isLineBreak c = false := eq_false_of_all (by decide)
  have inside : IsQuotation ['\\', '"', '/', '/'] :=
    .escaped _ (.plain (by decide) (by decide) (.plain (by decide) (by decide) .nil))
  have closed : Closed (· ≠ '\\') none
      ("  url String @default(".toList ++ '"' :: (['\\', '"', '/', '/'] ++ '"' :: [')'])) := by
    refine closed_quotation (by decide) (fun c last => ?_) inside (by decide) (by decide)
    obtain rfl : '(' = c := Option.some.inj last
    decide
  obtain ⟨-, same, settled⟩ := trailing_comment_left_out_iff unbroken unbroken'
  exact ⟨unbroken, unbroken', .inl closed,
    (same (settled (.inl closed)) _ _ isLineFrame_model).1⟩

/-- The quote that closes behind an escaped backslash is taken for an escaped one, so that the
comment is read. -/
theorem comment_read_behind_backslash :
    let line := "  dir String @map(\"C:\\\\\")".toList
    let comment := " @unique".toList
    (∀ c ∈ line, isLineBreak c = false) ∧ (∀ c ∈ comment, isLineBreak c = false) ∧
    ClosesQuotes (fun _ => True) line ∧ IsLineFrame modelOpening modelClosing ∧
    ofText (String.ofList
        (modelOpening ++ (line ++ ' ' :: '/' :: '/' :: comment) ++ modelClosing)) ≠
      ofText (String.ofList (modelOpening ++ line ++ modelClosing)) := by
  intro line comment
  have inside : IsQuotation ['C', ':', '\\', '\\'] :=
    .plain (by decide) (by decide) (.plain (by decide) (by decide) (.escaped _ .nil))
  have closed : Closed (fun _ => True) none
      ("  dir String @map(".toList ++ '"' :: (['C', ':', '\\', '\\'] ++ '"' :: [')'])) :=
    closed_quotation (by decide) (fun _ _ => trivial) inside trivial (by decide)
  refine ⟨eq_false_of_all (by decide), eq_false_of_all (by decide), .inl closed,
    isLineFrame_model, ?_⟩
  rw [ofText, ofText, String.toList_ofList, String.toList_ofList]
  decide +kernel

end SiteAtlas.Schema
