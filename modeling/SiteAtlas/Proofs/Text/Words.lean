import SiteAtlas.Text.Basic
import SiteAtlas.Proofs.Text.Pieces
import Mathlib.Data.List.Basic

/-! # Words and blanks

No character is both a word character and a blank, so that words are told apart by the blanks
between them. A text that neither begins nor ends with a blank is left alone by trimming.
-/

namespace SiteAtlas.Text

/-- The code points of the blanks beyond ASCII. -/
def wideBlanks : List Nat :=
  [0x85, 0xA0, 0x1680, 0x2000, 0x2001, 0x2002, 0x2003, 0x2004, 0x2005, 0x2006, 0x2007, 0x2008,
    0x2009, 0x200A, 0x2028, 0x2029, 0x202F, 0x205F, 0x3000]

/-- A text of which all characters are looked at. -/
theorem eq_false_of_all {p : Char → Bool} {text : List Char}
    (all : text.all (fun c => !p c) = true) : ∀ c ∈ text, p c = false := by
  simpa using all

theorem isBlank_iff {c : Char} : isBlank c = true ↔
    9 ≤ c.toNat ∧ c.toNat ≤ 13 ∨ 28 ≤ c.toNat ∧ c.toNat ≤ 32 ∨ c.toNat ∈ wideBlanks := by
  simp only [isBlank, wideBlanks, Bool.or_eq_true, Bool.and_eq_true, decide_eq_true_eq,
    List.mem_cons, List.not_mem_nil, or_false]
  omega

/-- A code point that a search finds lies in one of the ranges. -/
theorem exists_of_search {table : Array (Nat × Nat)} {code low high : Nat}
    (found : inRanges.search table code low high = true) :
    ∃ range ∈ table, range.1 ≤ code ∧ code ≤ range.2 := by
  fun_induction inRanges.search table code low high with
  | case1 => cases found
  | case2 low high _ middle first last inTable below ih => exact ih found
  | case3 low high _ middle first last inTable _ above ih => exact ih found
  | case4 low high _ middle first last inTable notBelow notAbove =>
    exact ⟨(first, last), Array.mem_of_getElem? inTable, by omega, by omega⟩
  | case5 => cases found

/-- Whether no range of a table holds a blank. -/
def hasNoBlank (table : Array (Nat × Nat)) : Bool :=
  table.toList.all fun range =>
    wideBlanks.all fun code => code.blt range.1 || range.2.blt code

theorem hasNoBlank_append (first second : Array (Nat × Nat)) :
    hasNoBlank (first ++ second) = (hasNoBlank first && hasNoBlank second) := by
  rw [hasNoBlank, Array.toList_append, List.all_append]
  rfl

theorem hasNoBlank_wordRanges : hasNoBlank wordRanges = true := by
  rw [wordRanges, hasNoBlank_append, hasNoBlank_append, hasNoBlank_append]
  decide +kernel

theorem isBlank_of_isWord {c : Char} (word : isWord c = true) : isBlank c = false := by
  simp only [isWord, isLetterOrDigit, Bool.or_eq_true, beq_iff_eq] at word
  rcases word with rfl | word
  · decide
  · split at word
    next ascii =>
      have narrow : ∀ code < 128, (Char.ofNat code).isAlphanum = true →
          isBlank (Char.ofNat code) = false := by decide
      simpa only [Char.ofNat_toNat, word, true_imp_iff] using narrow c.toNat ascii
    next wide =>
      refine Bool.eq_false_iff.mpr fun blank => ?_
      obtain ⟨range, member, first, last⟩ := exists_of_search word
      rcases isBlank_iff.mp blank with low | low | code
      · omega
      · omega
      · have apart := List.all_eq_true.mp (List.all_eq_true.mp hasNoBlank_wordRanges range
          (Array.mem_toList_iff.mpr member)) c.toNat code
        simp only [Bool.or_eq_true, Nat.blt_eq] at apart
        omega

theorem isWord_of_isBlank {c : Char} (blank : isBlank c = true) : isWord c = false :=
  Bool.eq_false_iff.mpr fun word => by simp [isBlank_of_isWord word] at blank

theorem isBlank_of_isLineBreak {c : Char} (ends : isLineBreak c = true) : isBlank c = true := by
  simp only [isLineBreak, Bool.or_eq_true, Bool.and_eq_true, decide_eq_true_eq] at ends
  rw [isBlank_iff, wideBlanks]
  simp only [List.mem_cons, List.not_mem_nil, or_false]
  omega

/-! ## Words at the front -/

/-- A text that does not begin with a character of the kind. -/
def Halts (p : Char → Bool) (text : List Char) : Prop := ∀ c ∈ text.head?, p c = false

section Front

variable {p : Char → Bool} {word rest : List Char}

theorem halts_nil : Halts p [] := fun _ first => by cases first

/-- Whether the characters of a class halt can be seen at the first character. -/
theorem halts_of_all (first : rest.head?.all (fun c => !p c) = true) : Halts p rest :=
  fun c isFirst => (Bool.not_eq_true' _).mp ((Option.all_eq_true _ _).mp first c isFirst)

theorem halts_cons {c : Char} : Halts p (c :: rest) ↔ p c = false := by simp [Halts]

theorem Halts.takeWhile_eq (halts : Halts p rest) : rest.takeWhile p = [] := by
  cases rest with
  | nil => rfl
  | cons c rest => rw [List.takeWhile_cons_of_neg (by simp [halts_cons.mp halts])]

theorem Halts.dropWhile_eq (halts : Halts p rest) : rest.dropWhile p = rest := by
  cases rest with
  | nil => rfl
  | cons c rest => rw [List.dropWhile_cons_of_neg (by simp [halts_cons.mp halts])]

theorem Halts.append_of_ne_nil (halts : Halts p word) (filled : word ≠ []) :
    Halts p (word ++ rest) := by
  obtain ⟨c, tail, rfl⟩ := List.exists_cons_of_ne_nil filled
  exact halts_cons.mpr (halts_cons.mp halts)

theorem Halts.append (halts : Halts p word) (halts' : Halts p rest) : Halts p (word ++ rest) := by
  cases word with
  | nil => exact halts'
  | cons c word => exact halts.append_of_ne_nil (List.cons_ne_nil _ _)

variable (word_p : ∀ c ∈ word, p c = true) (halts : Halts p rest)
include word_p halts

theorem takeWhile_append_of_halts : (word ++ rest).takeWhile p = word := by
  rw [List.takeWhile_append_of_pos word_p, halts.takeWhile_eq, List.append_nil]

theorem dropWhile_append_of_halts : (word ++ rest).dropWhile p = rest := by
  rw [List.dropWhile_append_of_pos word_p, halts.dropWhile_eq]

end Front

section Stop

variable {p : Char → Bool} {stop : Char} (isStop : p stop = false) (front behind : List Char)
include isStop

/-- A character that is not of the kind cuts off what follows it. -/
theorem takeWhile_append_stop : (front ++ stop :: behind).takeWhile p = front.takeWhile p := by
  induction front with
  | nil => exact List.takeWhile_cons_of_neg (by simp [isStop])
  | cons c front ih =>
    rw [List.cons_append, List.takeWhile_cons, List.takeWhile_cons, ih]

theorem dropWhile_append_stop :
    (front ++ stop :: behind).dropWhile p = front.dropWhile p ++ stop :: behind := by
  induction front with
  | nil => exact List.dropWhile_cons_of_neg (by simp [isStop])
  | cons c front ih =>
    rw [List.cons_append, List.dropWhile_cons, List.dropWhile_cons, ih]
    split <;> rfl

end Stop

/-! ## Trimming -/

section Trim

variable {text : List Char}

theorem trimLeft_of_halts (halts : Halts isBlank text) : trimLeft text = text := halts.dropWhile_eq

theorem trimLeft_space (text : List Char) : trimLeft (' ' :: text) = trimLeft text :=
  List.dropWhile_cons_of_pos (by decide)

theorem trimRight_of_halts (halts : Halts isBlank text.reverse) : trimRight text = text := by
  rw [trimRight, halts.dropWhile_eq, List.reverse_reverse]

/-- Blanks in front of a text are all that trimming takes off, if it does not end with one. -/
theorem trim_indented {blanks : List Char} (blank : ∀ c ∈ blanks, isBlank c = true)
    (first : Halts isBlank text) (last : Halts isBlank text.reverse) :
    trim (blanks ++ text) = text := by
  rw [trim, trimLeft, dropWhile_append_of_halts blank first, trimRight_of_halts last]

theorem trim_of_halts (first : Halts isBlank text) (last : Halts isBlank text.reverse) :
    trim text = text :=
  @trim_indented text [] (fun _ member => by cases member) first last

theorem trimRight_cons (c : Char) (text : List Char) : trimRight (c :: text) =
    if trimRight text = [] ∧ isBlank c = true then [] else c :: trimRight text := by
  rw [trimRight, trimRight, List.reverse_cons, List.dropWhile_append]
  by_cases blanks : text.reverse.dropWhile isBlank = []
  · cases blank : isBlank c <;> simp [blanks, blank]
  · simp [blanks]

theorem trimRight_trimRight (text : List Char) : trimRight (trimRight text) = trimRight text := by
  induction text with
  | nil => rfl
  | cons c text ih =>
    rw [trimRight_cons]
    split_ifs with blank
    · rfl
    · rw [trimRight_cons, ih, if_neg blank]

/-- It is the same to take off the blanks at the end before or together with those in front. -/
theorem trim_trimRight (text : List Char) : trim (trimRight text) = trim text := by
  induction text with
  | nil => rfl
  | cons c text ih =>
    unfold trim trimLeft at *
    by_cases blank : isBlank c = true
    · rw [List.dropWhile_cons_of_pos blank, ← ih, trimRight_cons]
      split_ifs with blanks
      · rw [blanks.1]
      · rw [List.dropWhile_cons_of_pos blank]
    · rw [List.dropWhile_cons_of_neg blank, trimRight_cons, if_neg (fun both => blank both.2),
        List.dropWhile_cons_of_neg blank, trimRight_cons, trimRight_trimRight,
        if_neg (fun both => blank both.2)]

/-- What stands in front of something that is not blank stays when the end is trimmed. -/
theorem trimRight_append {tail : List Char} (filled : trimRight tail ≠ []) (front : List Char) :
    trimRight (front ++ tail) = front ++ trimRight tail := by
  induction front with
  | nil => rfl
  | cons c front ih =>
    have goesOn : trimRight (front ++ tail) ≠ [] := by
      rw [ih]
      exact List.append_ne_nil_of_right_ne_nil front filled
    rw [List.cons_append, trimRight_cons, if_neg (fun blank => goesOn blank.1), ih]
    rfl

theorem trimRight_cons_of_solid {c : Char} (solid : isBlank c = false) (text : List Char) :
    trimRight (c :: text) = c :: trimRight text := by
  rw [trimRight_cons, if_neg]
  rintro ⟨-, blank⟩
  simp [solid] at blank

theorem trimLeft_append (filled : trimLeft text ≠ []) (tail : List Char) :
    trimLeft (text ++ tail) = trimLeft text ++ tail := by
  unfold trimLeft at *
  rw [List.dropWhile_append, if_neg (mt List.isEmpty_iff.mp filled)]

theorem trimLeft_append_of_eq_nil (blank : trimLeft text = []) (tail : List Char) :
    trimLeft (text ++ tail) = trimLeft tail := by
  unfold trimLeft at *
  rw [List.dropWhile_append, if_pos (List.isEmpty_iff.mpr blank)]

/-- What trimming takes off the end are blanks. -/
theorem exists_trimLeft_eq (text : List Char) :
    ∃ blanks, (∀ c ∈ blanks, isBlank c = true) ∧ trimLeft text = trim text ++ blanks := by
  refine ⟨((trimLeft text).reverse.takeWhile isBlank).reverse, fun c member => ?_, ?_⟩
  · exact List.mem_takeWhile_imp (List.mem_reverse.mp member)
  · rw [trim, trimRight, ← List.reverse_append, List.takeWhile_append_dropWhile,
      List.reverse_reverse]

theorem notMem_of_isBlank {blanks : List Char} (blank : ∀ c ∈ blanks, isBlank c = true) {c : Char}
    (solid : isBlank c = false) : c ∉ blanks := fun member => by
  simp [blank c member] at solid

/-- What trimming takes off are blanks. -/
theorem exists_trim_eq (text : List Char) : ∃ front back, (∀ c ∈ front, isBlank c = true) ∧
    (∀ c ∈ back, isBlank c = true) ∧ text = front ++ (trim text ++ back) := by
  obtain ⟨back, blank, left⟩ := exists_trimLeft_eq text
  refine ⟨text.takeWhile isBlank, back, fun c => List.mem_takeWhile_imp, blank, ?_⟩
  rw [← left, trimLeft, List.takeWhile_append_dropWhile]

/-- Blanks around a text without blanks at its ends are all that trimming takes off. -/
theorem trim_padded {front back : List Char} (blank : ∀ c ∈ front, isBlank c = true)
    (blank' : ∀ c ∈ back, isBlank c = true) (filled : text ≠ []) (first : Halts isBlank text)
    (last : Halts isBlank text.reverse) : trim (front ++ (text ++ back)) = text := by
  have blankBack : ∀ c ∈ back.reverse, isBlank c = true :=
    fun c member => blank' c (List.mem_reverse.mp member)
  rw [trim, trimLeft, dropWhile_append_of_halts blank (first.append_of_ne_nil filled), trimRight,
    List.reverse_append, dropWhile_append_of_halts blankBack last, List.reverse_reverse]

/-- Blanks around a text do not matter to a piece without blanks. -/
theorem infix_trim_iff {piece : List Char} (filled : piece ≠ [])
    (solid : ∀ c ∈ piece, isBlank c = false) : piece <:+: trim text ↔ piece <:+: text := by
  have front {piece : List Char} (filled : piece ≠ []) (solid : ∀ c ∈ piece, isBlank c = false)
      (text : List Char) : piece <:+: text.dropWhile isBlank ↔ piece <:+: text := by
    induction text with
    | nil => rfl
    | cons c rest ih =>
      by_cases blank : isBlank c = true
      · have free : c ∉ piece := fun member => by simp [solid c member] at blank
        rw [List.dropWhile_cons_of_pos blank, ih, infix_cons_iff_of_notMem free filled]
      · rw [List.dropWhile_cons_of_neg blank]
  have solidBack : ∀ c ∈ piece.reverse, isBlank c = false :=
    fun c member => solid c (List.mem_reverse.mp member)
  rw [trim, trimRight, ← List.reverse_infix, List.reverse_reverse,
    front (mt List.reverse_eq_nil_iff.mp filled) solidBack, List.reverse_infix, trimLeft,
    front filled solid]

/-- Trimming takes off nothing but blanks. -/
theorem count_trim {c : Char} (other : isBlank c = false) : (trim text).count c = text.count c := by
  have count_dropWhile (text : List Char) : (text.dropWhile isBlank).count c = text.count c := by
    have none : (text.takeWhile isBlank).count c = 0 := by
      rw [List.count_eq_zero]
      intro member
      rw [List.all_eq_true.mp List.all_takeWhile c member] at other
      cases other
    have whole : text.takeWhile isBlank ++ text.dropWhile isBlank = text :=
      List.takeWhile_append_dropWhile
    have counts := congrArg (List.count c) whole
    rwa [List.count_append, none, Nat.zero_add] at counts
  rw [trim, trimRight, List.count_reverse, count_dropWhile, List.count_reverse, trimLeft,
    count_dropWhile]

end Trim

end SiteAtlas.Text
