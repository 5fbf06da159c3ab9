import SiteAtlas.Proofs.Schema.CommentedLines
import SiteAtlas.Proofs.Schema.Tallies

/-! # Comments that are counted

The overview of a schema counts a field or an attribute of a block by the marks that stand anywhere
on its line, such as `@unique`, and an index by the list of fields that is found there. Comments are
not left out before. So a comment behind a line changes what is counted exactly if it has a mark
that the line lacks, or completes the list of an index.
-/

namespace SiteAtlas.Schema

open Text

/-! ## Lines that are counted alike -/

/-- The marks that an attribute of a whole block is counted by. -/
def blockMarks : List String := ["@@unique", "@@index", "@@id"]

/-- The marks that a field is counted by. -/
def fieldMarks : List String := ["@id", "@unique", "@relation"]

/-- Whether two lines carry the same marks. -/
def SameMarks (marks : List String) (line line' : List Char) : Prop :=
  ∀ mark ∈ marks, contains mark.toList line = contains mark.toList line'

theorem sameMarks_iff {first second third : String} {line line' : List Char} :
    SameMarks [first, second, third] line line' ↔
      contains first.toList line = contains first.toList line' ∧
        contains second.toList line = contains second.toList line' ∧
          contains third.toList line = contains third.toList line' := by
  simp [SameMarks]

/-- Whether two lines with an attribute of a whole block are counted alike. -/
structure AlikeInBlock (line line' : List Char) : Prop where
  marks : SameMarks blockMarks line line'
  fields : contains "@@index".toList line = true →
    (fieldList line).length = (fieldList line').length

theorem eq_of_counted {n : Nat} {here here' : Bool}
    (same : n + (if here then 1 else 0) = n + (if here' then 1 else 0)) : here = here' := by
  cases here <;> cases here' <;> simp at same ⊢

namespace Tally

variable (t : Tally) {line line' : List Char}

theorem addAttribute_congr (alike : AlikeInBlock line line') :
    t.addAttribute line = t.addAttribute line' := by
  obtain ⟨unique, index, id⟩ := sameMarks_iff.mp alike.marks
  have indexed : (if contains "@@index".toList line' then (fieldList line).length else 0) =
      if contains "@@index".toList line' then (fieldList line').length else 0 := by
    split
    next here => exact alike.fields (index.trans here)
    next => rfl
  simp only [addAttribute, unique, index, id, indexed]

theorem alikeInBlock_of_count
    (same : ∀ c, (t.addAttribute line).count c = (t.addAttribute line').count c) :
    AlikeInBlock line line' := by
  have index : contains "@@index".toList line = contains "@@index".toList line' :=
    eq_of_counted (same .indexes)
  have unique := eq_of_counted (same .uniqueConstraints)
  have id := eq_of_counted (same .primaryKeys)
  refine ⟨sameMarks_iff.mpr ⟨unique, index, id⟩, fun here => ?_⟩
  have indexed := Nat.add_left_cancel (same .indexed)
  rwa [if_pos here, if_pos (index.symm.trans here)] at indexed

variable (block : String) (parts : FieldLine) (more : List Char)

/-- What follows the parts of a field is only looked through for marks. -/
theorem addField_congr (same : SameMarks fieldMarks line line') :
    t.addField block line parts = t.addField block line' (parts.goingOn more) := by
  obtain ⟨id, unique, relation⟩ := sameMarks_iff.mp same
  simp only [addField, id, unique, relation]
  rfl

theorem sameMarks_of_count (same : ∀ c, (t.addField block line parts).count c =
    (t.addField block line' (parts.goingOn more)).count c) : SameMarks fieldMarks line line' := by
  have id := eq_of_counted (same .primaryKeys)
  have unique := eq_of_counted (same .unique)
  have relation : isTagged line = isTagged line' := by
    have counted := same .relations
    simp only [count, relations_addField] at counted
    revert counted
    cases isTagged line <;> cases isTagged line' <;> simp
  exact sameMarks_iff.mpr ⟨id, unique, relation⟩

end Tally

/-! ## What a comment adds -/

section Comment

variable (line comment : List Char)

/-- A mark does not stand across the blank and the slashes in front of a comment. -/
theorem contains_trim_withComment {mark : String} (isMark : mark ∈ blockMarks ++ fieldMarks) :
    contains mark.toList (trim (withComment line comment)) = true ↔
      mark.toList <:+: line ∨ mark.toList <:+: comment := by
  have marks : ∀ mark ∈ blockMarks ++ fieldMarks, mark.toList ≠ [] ∧ '/' ∉ mark.toList ∧
      mark.toList.all (fun c => !isBlank c) = true := by decide
  obtain ⟨filled, noSlash, all⟩ := marks mark isMark
  have solid := eq_false_of_all all
  have noSpace : ' ' ∉ mark.toList := fun member => absurd (solid ' ' member) (by decide)
  rw [contains_iff, infix_trim_iff filled solid, withComment, infix_append_cons_iff noSpace,
    infix_cons_iff_of_notMem noSlash filled, infix_cons_iff_of_notMem noSlash filled]

theorem contains_trim {mark : String} (isMark : mark ∈ blockMarks ++ fieldMarks) :
    contains mark.toList (trim line) = true ↔ mark.toList <:+: line := by
  have marks : ∀ mark ∈ blockMarks ++ fieldMarks, mark.toList ≠ [] ∧
      mark.toList.all (fun c => !isBlank c) = true := by decide
  obtain ⟨filled, all⟩ := marks mark isMark
  rw [contains_iff, infix_trim_iff filled (eq_false_of_all all)]

/-- Whether a comment has none of the given marks that the line in front of it lacks. -/
def AddsNoMark (marks : List String) : Prop :=
  ∀ mark ∈ marks, mark.toList <:+: comment → mark.toList <:+: line

instance (marks : List String) : Decidable (AddsNoMark line comment marks) :=
  inferInstanceAs (Decidable (∀ mark ∈ marks, mark.toList <:+: comment → mark.toList <:+: line))

/-- A comment leaves the marks of a line as they are exactly if it has none that the line lacks. -/
theorem sameMarks_withComment_iff {marks : List String} (sub : marks ⊆ blockMarks ++ fieldMarks) :
    SameMarks marks (trim line) (trim (withComment line comment)) ↔
      AddsNoMark line comment marks := by
  refine forall₂_congr fun mark member => ?_
  rw [Bool.eq_iff_iff, contains_trim line (sub member),
    contains_trim_withComment line comment (sub member)]
  tauto

/-- Whether a line has an attribute of a whole block. -/
def HasBlockAttribute : Prop := ['@', '@'] <+: trim line

instance : Decidable (HasBlockAttribute line) :=
  inferInstanceAs (Decidable (['@', '@'] <+: trim line))

/-- Whether a comment does not matter to how the line in front of it is counted: it has no mark
that the line lacks, and does not complete the list of an index. -/
structure LeavesCounts : Prop where
  ofBlock : HasBlockAttribute line → AddsNoMark line comment blockMarks
  fields : HasBlockAttribute line → "@@index".toList <:+: line →
    (fieldList (withComment line comment)).length = (fieldList line).length
  ofField : ¬ HasBlockAttribute line → AddsNoMark line comment fieldMarks

theorem alikeInBlock_withComment_iff : AlikeInBlock (trim line) (trim (withComment line comment)) ↔
    AddsNoMark line comment blockMarks ∧ ("@@index".toList <:+: line →
      (fieldList (withComment line comment)).length = (fieldList line).length) := by
  have marks := sameMarks_withComment_iff line comment
    (List.subset_append_left blockMarks fieldMarks)
  have index : contains "@@index".toList (trim line) = true ↔ "@@index".toList <:+: line :=
    contains_trim line (by decide)
  constructor
  · rintro ⟨same, fields⟩
    refine ⟨marks.mp same, fun here => ?_⟩
    have counted := fields (index.mpr here)
    rw [fieldList_trim, fieldList_trim] at counted
    exact counted.symm
  · rintro ⟨adds, fields⟩
    refine ⟨marks.mpr adds, fun here => ?_⟩
    rw [fieldList_trim, fieldList_trim]
    exact (fields (index.mp here)).symm

variable {line comment} in
/-- A comment without an at sign does not matter, unless it completes a list. -/
theorem leavesCounts_of_notMem (noMark : '@' ∉ comment)
    (closed : ']' ∉ comment ∨ (findMap? bracketed? line).isSome = true) :
    LeavesCounts line comment := by
  have none {marks : List String} (sub : marks ⊆ blockMarks ++ fieldMarks) :
      AddsNoMark line comment marks := by
    have hasAt : ∀ mark ∈ blockMarks ++ fieldMarks, '@' ∈ mark.toList := by decide
    intro mark member inComment
    exact absurd (inComment.subset (hasAt mark (sub member))) noMark
  exact {
    ofBlock := fun _ => none (List.subset_append_left _ _)
    fields := fun _ _ => congrArg List.length (fieldList_withComment closed)
    ofField := fun _ => none (List.subset_append_right _ _) }

end Comment

/-! ## Lines of a block -/

/-- Whether a line belongs to a block of fields, and is an attribute of the block or a field of
it. -/
structure Tally.IsCounted (t : Tally) (line : List Char) : Prop where
  inside : t.context.any (fun (kind, _) => kind ∈ [.model, .view, .type]) = true
  counted : HasBlockAttribute line ∨
    header? (trim line) = none ∧ (fieldLine? (trim line)).isSome = true

instance (t : Tally) (line : List Char) : Decidable (t.IsCounted line) :=
  decidable_of_iff (t.context.any (fun (kind, _) => kind ∈ [.model, .view, .type]) = true ∧
      (HasBlockAttribute line ∨
        header? (trim line) = none ∧ (fieldLine? (trim line)).isSome = true))
    ⟨fun ⟨inside, counted⟩ => ⟨inside, counted⟩, fun is => ⟨is.inside, is.counted⟩⟩

namespace Tally

variable {t : Tally} {kind : BlockKind} {block : String} {line : List Char}
  (inside : t.context = some (kind, block)) (holds : kind ∈ [.model, .view, .type])
include inside holds

/-- A line of a block of fields is counted as one that is inside of it, if it does not begin like a
comment, is no header, and does not close the block. -/
theorem addLine_inside (counts : isPassedOver line = false) (noHeader : header? line = none)
    (goesOn : line.head? ≠ some '\x7d') : t.addLine line =
      if (after? ['@', '@'] line).isSome then t.addAttribute line
      else match fieldLine? line with
        | some parts => t.addField block line parts
        | none => t := by
  rw [addLine, counts, noHeader, if_neg Bool.false_ne_true]
  dsimp only
  rw [if_neg goesOn, inside]
  simp only [List.mem_cons, List.not_mem_nil, or_false] at holds
  rcases holds with rfl | rfl | rfl <;> rfl

theorem addLine_blockAttribute (starts : ['@', '@'] <+: line) :
    t.addLine line = t.addAttribute line := by
  have found := isSome_after?_iff.mpr starts
  obtain ⟨rest, rfl⟩ := starts
  have noHeader : header? (['@', '@'] ++ rest) = none :=
    header?_eq_none_of_halts (halts_cons.mpr (by decide))
  have goesOn : (['@', '@'] ++ rest).head? ≠ some '\x7d' := by simp
  rw [addLine_inside inside holds rfl noHeader goesOn, if_pos found]

theorem addLine_field {parts : FieldLine} (noHeader : header? line = none)
    (read : fieldLine? line = some parts) : t.addLine line = t.addField block line parts := by
  have word : ¬ Halts isWord line := fun halts => by
    rw [fieldLine?_eq_none_of_halts halts] at read
    cases read
  have counts : isPassedOver line = false :=
    Bool.eq_false_iff.mpr fun passed => word (halts_of_isPassedOver passed)
  have goesOn : line.head? ≠ some '\x7d' := by
    intro closing
    obtain ⟨rest, rfl⟩ := List.head?_eq_some_iff.mp closing
    exact word (halts_cons.mpr (by decide))
  have noBlock : ¬ (after? ['@', '@'] line).isSome = true := by
    intro found
    obtain ⟨rest, rfl⟩ := isSome_after?_iff.mp found
    exact word (halts_cons.mpr (by decide))
  rw [addLine_inside inside holds counts noHeader goesOn, if_neg noBlock, read]

end Tally

section Commented

variable {t : Tally} {line : List Char} (counted : t.IsCounted line) (noQuote : '"' ∉ line)
  (comment : List Char)
include counted noQuote

/-- What is counted of a line is the same with a comment behind it exactly if the comment has no
mark that the line lacks and does not complete the list of an index. -/
theorem Tally.IsCounted.addLine_withComment :
    let plain := t.addLine (trim line)
    let commented := t.addLine (trim (withComment line comment))
    commented.context = plain.context ∧ (LeavesCounts line comment → commented = plain) ∧
      ((∀ c, commented.count c = plain.count c) → LeavesCounts line comment) := by
  intro plain commented
  obtain ⟨⟨kind, block⟩, inside, holds⟩ := (Option.any_eq_true _ _).mp counted.inside
  replace holds : kind ∈ [.model, .view, .type] := of_decide_eq_true holds
  have filled : trim line ≠ [] := by
    intro empty
    rcases counted.counted with ofBlock | ⟨-, read⟩
    · rw [HasBlockAttribute, empty] at ofBlock
      exact absurd ofBlock (by decide)
    · rw [empty] at read
      exact absurd read (by decide)
  obtain ⟨blank, rest, isBlank_blank, slash, trimmed⟩ := exists_trim_withComment filled comment
  by_cases ofBlock : HasBlockAttribute line
  · have starts : ['@', '@'] <+: trim (withComment line comment) := by
      rw [trimmed]
      exact List.IsPrefix.trans ofBlock (List.prefix_append _ _)
    have isPlain : plain = t.addAttribute (trim line) :=
      Tally.addLine_blockAttribute inside holds ofBlock
    have isCommented : commented = t.addAttribute (trim (withComment line comment)) :=
      Tally.addLine_blockAttribute inside holds starts
    have alike := alikeInBlock_withComment_iff line comment
    rw [isPlain, isCommented]
    refine ⟨rfl, fun leaves => ?_, fun same => ?_⟩
    · exact (t.addAttribute_congr (alike.mpr ⟨leaves.ofBlock ofBlock, leaves.fields ofBlock⟩)).symm
    · obtain ⟨adds, fields⟩ := alike.mp (t.alikeInBlock_of_count fun c => (same c).symm)
      exact ⟨fun _ => adds, fun _ => fields, fun other => absurd ofBlock other⟩
  · obtain ⟨noHeader, read⟩ := counted.counted.resolve_left ofBlock
    obtain ⟨parts, read⟩ := Option.isSome_iff_exists.mp read
    have free : '"' ∉ trim line := by
      rw [← List.count_eq_zero, count_trim (by decide), List.count_eq_zero]
      exact noQuote
    have isPlain : plain = t.addField block (trim line) parts :=
      Tally.addLine_field inside holds noHeader read
    have isCommented : commented = t.addField block (trim (withComment line comment))
        (parts.goingOn (blank :: rest)) := by
      refine Tally.addLine_field inside holds ?_ ?_
      · rw [trimmed]
        exact header?_append_blank isBlank_blank slash noHeader
      · rw [trimmed]
        exact fieldLine?_append_blank isBlank_blank read free
    have marks := sameMarks_withComment_iff line comment
      (List.subset_append_right blockMarks fieldMarks)
    rw [isPlain, isCommented]
    refine ⟨rfl, fun leaves => ?_, fun same => ?_⟩
    · exact (t.addField_congr block parts _ (marks.mpr (leaves.ofField ofBlock))).symm
    · have adds := marks.mp (t.sameMarks_of_count block parts _ fun c => (same c).symm)
      exact ⟨fun yes => absurd yes ofBlock, fun yes => absurd yes ofBlock, fun _ => adds⟩

end Commented

/-! ## Comments in a text -/

/-- A comment behind a field or an attribute of a block leaves what is counted of a text as it is
exactly if it has no mark that the line lacks and does not complete the list of an index. -/
theorem comment_uncounted_iff {before after line comment : List Char}
    (frame : IsLineFrame before after) (unbroken : ∀ c ∈ line, isLineBreak c = false)
    (unbroken' : ∀ c ∈ comment, isLineBreak c = false) (noQuote : '"' ∉ line)
    (counted : (tally (String.ofList before)).IsCounted line) :
    ((tally (String.ofList (before ++ withComment line comment ++ after))).payload =
        (tally (String.ofList (before ++ line ++ after))).payload ↔ LeavesCounts line comment) ∧
    ('@' ∉ comment → ']' ∉ comment ∨ (findMap? bracketed? line).isSome = true →
      LeavesCounts line comment) := by
  have unbrokenAll : ∀ c ∈ withComment line comment, isLineBreak c = false := by
    have slashes : ∀ c ∈ [' ', '/', '/'], isLineBreak c = false := eq_false_of_all (by decide)
    have tail : ∀ c ∈ [' ', '/', '/'] ++ comment, isLineBreak c = false :=
      List.forall_mem_append.mpr ⟨slashes, unbroken'⟩
    exact List.forall_mem_append.mpr ⟨unbroken, tail⟩
  obtain ⟨context, leaves, adds⟩ := counted.addLine_withComment noQuote comment
  refine ⟨?_, ?_⟩
  · rw [tally_frame frame unbrokenAll, tally_frame frame unbroken]
    constructor
    · intro same
      apply adds
      intro c
      have counts := Tally.count_eq_of_payload_eq same c
      rw [Tally.count_foldl_addLine, Tally.count_foldl_addLine _ (Tally.addLine _ (trim line)),
        Tally.fresh, Tally.fresh, context] at counts
      omega
    · intro alone
      rw [leaves alone]
  · intro noMark closed
    exact leavesCounts_of_notMem noMark closed

/-- A remark behind a field of a model. -/
theorem comment_uncounted_behind_field :
    let before := "model A \x7b\n".toList
    let line := "  email String @unique".toList
    let comment := " @unique since 2020".toList
    let after := "\n\x7d\n".toList
    IsLineFrame before after ∧ (∀ c ∈ line, isLineBreak c = false) ∧
    (∀ c ∈ comment, isLineBreak c = false) ∧ '"' ∉ line ∧
    (tally (String.ofList before)).IsCounted line ∧
    (tally (String.ofList (before ++ withComment line comment ++ after))).payload =
      (tally (String.ofList (before ++ line ++ after))).payload := by
  intro before line comment after
  have frame : IsLineFrame before after := by decide
  have unbroken : ∀ c ∈ line, isLineBreak c = false := eq_false_of_all (by decide)
  have unbroken' : ∀ c ∈ comment, isLineBreak c = false := eq_false_of_all (by decide)
  have noQuote : '"' ∉ line := by decide
  have counted : (tally (String.ofList before)).IsCounted line := by
    rw [tally, String.toList_ofList]
    decide +kernel
  have noBlock : ¬ HasBlockAttribute line := by decide +kernel
  have leaves : LeavesCounts line comment := {
    ofBlock := fun ofBlock => absurd ofBlock noBlock
    fields := fun ofBlock => absurd ofBlock noBlock
    ofField := fun _ => by decide +kernel }
  exact ⟨frame, unbroken, unbroken', noQuote, counted,
    (comment_uncounted_iff frame unbroken unbroken' noQuote counted).1.mpr leaves⟩

/-- A mark that only the comment has is counted. -/
theorem comment_counted_behind_field :
    let before := "model A \x7b\n".toList
    let line := "  email String".toList
    let comment := " @unique".toList
    let after := "\n\x7d\n".toList
    (tally (String.ofList (before ++ withComment line comment ++ after))).payload ≠
      (tally (String.ofList (before ++ line ++ after))).payload := by
  intro before line comment after same
  have counts := Tally.count_eq_of_payload_eq same .unique
  rw [tally, tally, String.toList_ofList, String.toList_ofList] at counts
  revert counts
  decide +kernel

end SiteAtlas.Schema
