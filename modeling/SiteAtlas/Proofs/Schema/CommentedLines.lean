import SiteAtlas.Proofs.Schema.FieldLists
import SiteAtlas.Proofs.Schema.QuotedContents

/-! # Lines with a comment behind them

What is looked for at the front of a line, the header of a block or the parts of a field, is not
found in a comment behind it: a blank and two slashes are in between. What is looked for anywhere,
such as a list of fields, may be.
-/

namespace SiteAtlas.Schema

open Text

/-! ## A line with a comment behind it -/

/-- A line with a comment behind it. -/
def withComment (line comment : List Char) : List Char := line ++ ' ' :: '/' :: '/' :: comment

/-- A comment comes behind what is left of a line, a blank, and any more of them. -/
theorem exists_trim_withComment {line : List Char} (filled : trim line ≠ [])
    (comment : List Char) : ∃ blank rest, isBlank blank = true ∧
      (trimLeft rest).head? = some '/' ∧
      trim (withComment line comment) = trim line ++ blank :: rest := by
  let marked := '/' :: trimRight ('/' :: comment)
  have tail : trimRight (' ' :: '/' :: '/' :: comment) = ' ' :: marked := by
    rw [trimRight_cons, trimRight_cons_of_solid (by decide),
      if_neg (fun blank => List.cons_ne_nil _ _ blank.1)]
  have filledTail : trimRight (' ' :: '/' :: '/' :: comment) ≠ [] := by
    rw [tail]
    exact List.cons_ne_nil _ _
  obtain ⟨blanks, blank, left⟩ := exists_trimLeft_eq line
  have filledLeft : trimLeft line ≠ [] := by
    rw [left]
    exact List.append_ne_nil_of_left_ne_nil filled blanks
  have trimmed : trim (withComment line comment) = trim line ++ (blanks ++ ' ' :: marked) := by
    rw [withComment, trim, trimLeft_append filledLeft, trimRight_append filledTail, tail, left,
      List.append_assoc]
  have slash : (trimLeft marked).head? = some '/' := by
    rw [trimLeft, List.dropWhile_cons_of_neg (by decide), List.head?_cons]
  cases blanks with
  | nil => exact ⟨' ', marked, by decide, slash, trimmed⟩
  | cons c blanks =>
    obtain ⟨first, blank⟩ := List.forall_mem_cons.mp blank
    refine ⟨c, blanks ++ ' ' :: marked, first, ?_, trimmed⟩
    rw [trimLeft, List.dropWhile_append_of_pos blank, ← trimLeft, trimLeft_space, slash]

/-- Whether a name and a brace that opens a block follow a keyword. -/
def opensBlock : List Char → Bool
  | [] => false
  | c :: rest =>
    isBlank c && !((trimLeft rest).takeWhile isWord).isEmpty &&
      (trimLeft ((trimLeft rest).dropWhile isWord)).head? = some '\x7b'

theorem header?_eq_none_iff {line : List Char} : header? line = none ↔
    ∀ p ∈ BlockKind.keywords, (after? p.2.toList line).any opensBlock = false := by
  rw [header?, List.findSome?_eq_none_iff]
  refine forall₂_congr fun p member => ?_
  dsimp only
  cases after? p.2.toList line with
  | none => simp
  | some behind =>
    cases behind with
    | nil => simp [opensBlock]
    | cons c rest =>
      simp only [Option.any_some, opensBlock]
      split
      next opens => simp [opens]
      next closed => simp [Bool.eq_false_iff.mpr closed]

/-- An argument of a type begins with a parenthesis and a quote. -/
theorem typeArgument?_eq_none {text : List Char}
    (noQuote : text.head? = some '(' → text.tail.head? ≠ some '"') :
    typeArgument? text = none := by
  unfold typeArgument?
  split
  next => exact absurd rfl (noQuote rfl)
  next => rfl

section Tail

variable {blank : Char} {rest : List Char} (isBlank_blank : isBlank blank = true)
include isBlank_blank

/-- A brace that opens a block is not found behind a slash. -/
theorem opensBlock_append_blank (slash : (trimLeft rest).head? = some '/') (behind : List Char) :
    opensBlock (behind ++ blank :: rest) = opensBlock behind := by
  obtain ⟨comment, slashed⟩ := List.head?_eq_some_iff.mp slash
  have skips : trimLeft (blank :: rest) = '/' :: comment := by
    rw [trimLeft, List.dropWhile_cons_of_pos isBlank_blank]
    exact slashed
  have noName : ('/' :: comment).takeWhile isWord = [] :=
    List.takeWhile_cons_of_neg (by decide)
  have brace (text : List Char) : (trimLeft (text ++ blank :: rest)).head? = some '\x7b' ↔
      (trimLeft text).head? = some '\x7b' := by
    by_cases none : trimLeft text = []
    · rw [trimLeft_append_of_eq_nil none, skips, none]
      simp
    · rw [trimLeft_append none, List.head?_append_of_ne_nil _ none]
  cases behind with
  | nil => simp [opensBlock, slashed, noName]
  | cons c text =>
    rw [List.cons_append, opensBlock, opensBlock]
    by_cases none : trimLeft text = []
    · rw [trimLeft_append_of_eq_nil none, skips, noName, none]
      simp
    · have noWord := isWord_of_isBlank isBlank_blank
      rw [trimLeft_append none, takeWhile_append_stop noWord, dropWhile_append_stop noWord]
      simp only [brace]

/-- A comment behind a line does not make a header of it. -/
theorem header?_append_blank (slash : (trimLeft rest).head? = some '/') {line : List Char}
    (noHeader : header? line = none) : header? (line ++ blank :: rest) = none := by
  have words : ∀ p ∈ BlockKind.keywords, p.2.toList.all isWord = true := by decide
  rw [header?_eq_none_iff] at noHeader ⊢
  intro p member
  have free : blank ∉ p.2.toList := fun inWord => by
    have word := List.all_eq_true.mp (words p member) blank inWord
    simp [isWord_of_isBlank isBlank_blank] at word
  have closed := noHeader p member
  rw [after?_append_stop free]
  cases found : after? p.2.toList line with
  | none => rfl
  | some behind =>
    rw [found] at closed
    exact (opensBlock_append_blank isBlank_blank slash behind).trans closed

/-- What follows a blank is not read as a part of a field but as its attributes. -/
theorem fieldLine?_append_blank {line : List Char} {parts : FieldLine}
    (read : fieldLine? line = some parts) (free : '"' ∉ line) :
    fieldLine? (line ++ blank :: rest) = some (parts.goingOn (blank :: rest)) := by
  have noWord := isWord_of_isBlank isBlank_blank
  have marks : ∀ c ∈ ['[', ']', '?', '"', '('], isBlank c = false := eq_false_of_all (by decide)
  have other {c : Char} (mark : c ∈ ['[', ']', '?', '"', '(']) : blank ≠ c := by
    rintro rfl
    simp [marks blank mark] at isBlank_blank
  rw [fieldLine?_eq] at read
  split at read
  next => cases read
  next filled =>
    have filledTail : behindName line ≠ [] := by
      intro empty
      rw [lacksWords, empty] at filled
      simp at filled
    have name : behindName (line ++ blank :: rest) = behindName line ++ blank :: rest := by
      rw [behindName, dropWhile_append_stop noWord, trimLeft_append filledTail]
      rfl
    obtain ⟨words, -, whole⟩ := exists_words_eq line
    have freeTail : '"' ∉ behindWords line := fun member =>
      free (whole ▸ List.mem_append_right words member)
    have noArgument : typeArgument? (behindWords line) = none :=
      typeArgument?_eq_none fun _ quote =>
        freeTail (List.mem_of_mem_tail (List.mem_of_head? quote))
    have noArgument' : typeArgument? (behindWords line ++ blank :: rest) = none := by
      refine typeArgument?_eq_none fun opening quote => ?_
      rcases tail : behindWords line with - | ⟨c, - | ⟨d, text⟩⟩
      · rw [tail] at opening
        exact other (by decide) (Option.some.inj opening)
      · rw [tail] at quote
        exact other (by decide) (Option.some.inj quote)
      · rw [tail] at quote freeTail
        obtain rfl : d = '"' := Option.some.inj quote
        simp at freeTail
    have noMark : blank ∉ ['[', ']', '?'] := fun member =>
      other (List.mem_append_left ['"', '('] member) rfl
    rw [fieldLine?_append_stop noWord name, if_neg filled, ← Option.some.inj read, typeAt, typeAt,
      noArgument, noArgument']
    dsimp only
    rw [partsBehind_append_stop _ _ noMark]

end Tail

/-! ## Lists of fields -/

/-- A list of fields is not looked for in a comment where the line has one, and there is none where
no bracket closes. -/
theorem fieldList_withComment {line comment : List Char}
    (closed : ']' ∉ comment ∨ (findMap? bracketed? line).isSome = true) :
    fieldList (withComment line comment) = fieldList line := by
  have kept {inside : List Char} (found : findMap? bracketed? line = some inside) :
      findMap? bracketed? (withComment line comment) = some inside := by
    obtain ⟨free, front, behind, before, rfl⟩ := findMap?_bracketed?_eq_some_iff.mp found
    refine findMap?_bracketed?_eq_some_iff.mpr
      ⟨free, front, behind ++ ' ' :: '/' :: '/' :: comment, before, ?_⟩
    simp [withComment]
  have searched : findMap? bracketed? (withComment line comment) = findMap? bracketed? line := by
    cases found : findMap? bracketed? line with
    | some inside => exact kept found
    | none =>
      have noClosing : ']' ∉ ' ' :: '/' :: '/' :: comment := by
        simpa [found] using closed
      refine Option.eq_none_iff_forall_ne_some.mpr fun inside later => ?_
      obtain ⟨free, front, behind, before, whole⟩ := findMap?_bracketed?_eq_some_iff.mp later
      rw [withComment, ← List.cons_append, ← List.append_assoc] at whole
      -- The bracket that closes stands in the line, so that the line has the list already.
      rcases List.append_eq_append_iff.mp whole with ⟨more, -, tail⟩ | ⟨more, line_eq, tail⟩
      · rw [tail] at noClosing
        simp at noClosing
      · cases more with
        | nil => exact absurd (List.cons.inj tail).1 (by decide)
        | cons c more =>
          obtain ⟨rfl, -⟩ := List.cons.inj tail
          have list : findMap? bracketed? line = some inside :=
            findMap?_bracketed?_eq_some_iff.mpr ⟨free, front, more, before, by simpa using line_eq⟩
          rw [found] at list
          cases list
  rw [fieldList, fieldList, searched]

end SiteAtlas.Schema
