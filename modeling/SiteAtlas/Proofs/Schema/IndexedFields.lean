import SiteAtlas.Proofs.Schema.FieldLists
import SiteAtlas.Schema.Reader

/-! # Fields of keys and indexes

A list of fields stands in the arguments of an attribute of a whole block, as in
`@@index([name(length: 100), author], name: "both")`. The arguments go on up to the parenthesis that
closes them, and the list does not close them: inside of quotes no parenthesis counts, and one that
is opened in front of a quote is still open behind it. The attributes are looked up one kind after
the other, anywhere on the line, and the first that is found is recorded.
-/

namespace SiteAtlas.Schema

open Text

/-! ## Lists between the parentheses of an attribute -/

/-- Whether a parenthesis is open behind a text only where it is inside of quotes, if that was so in
front of it. -/
def IsPassed (text : List Char) : Prop :=
  ∀ before quoted, ∃ last quoted', ∀ rest,
    insideParens before quoted quoted.toNat (text ++ rest) =
      text ++ insideParens last quoted' quoted'.toNat rest

theorem isPassed_nil : IsPassed [] := fun before quoted => ⟨before, quoted, fun _ => rfl⟩

theorem IsPassed.append {first second : List Char} (passed : IsPassed first)
    (passed' : IsPassed second) : IsPassed (first ++ second) := by
  intro before quoted
  obtain ⟨middle, between, passes⟩ := passed before quoted
  obtain ⟨last, quoted', passes'⟩ := passed' middle between
  refine ⟨last, quoted', fun rest => ?_⟩
  rw [List.append_assoc, passes, passes', List.append_assoc]

/-- A text without parentheses opens and closes quotes at most. -/
theorem exists_insideParens_of_free {text : List Char} (free : ∀ c ∈ text, c ∉ ['(', ')'])
    (before : Char) (quoted : Bool) : ∃ last quoted', ∀ depth rest,
      insideParens before quoted depth (text ++ rest) =
        text ++ insideParens last quoted' depth rest := by
  induction text generalizing before quoted with
  | nil => exact ⟨before, quoted, fun _ _ => rfl⟩
  | cons c text ih =>
    obtain ⟨here, behind⟩ := List.forall_mem_cons.mp free
    obtain ⟨noOpening, noClosing⟩ : c ≠ '(' ∧ c ≠ ')' := by simpa using here
    have step (depth : Nat) (rest : List Char) : insideParens before quoted depth (c :: rest) =
        c :: insideParens c (if c = '"' ∧ before ≠ '\\' then !quoted else quoted) depth rest := by
      rw [insideParens_cons, if_neg noOpening, if_neg noClosing]
      split_ifs <;> rfl
    obtain ⟨last, quoted', passes⟩ :=
      ih behind c (if c = '"' ∧ before ≠ '\\' then !quoted else quoted)
    refine ⟨last, quoted', fun depth rest => ?_⟩
    rw [List.cons_append, step, passes]
    rfl

/-- A text without parentheses and quotes is passed. -/
theorem isPassed_of_free {text : List Char} (free : ∀ c ∈ text, c ∉ ['(', ')', '"']) :
    IsPassed text := by
  intro before quoted
  induction text generalizing before with
  | nil => exact ⟨before, quoted, fun _ => rfl⟩
  | cons c text ih =>
    obtain ⟨here, behind⟩ := List.forall_mem_cons.mp free
    obtain ⟨noOpening, noClosing, noQuote⟩ : c ≠ '(' ∧ c ≠ ')' ∧ c ≠ '"' := by simpa using here
    obtain ⟨last, quoted', passes⟩ := ih behind c
    refine ⟨last, quoted', fun rest => ?_⟩
    rw [List.cons_append, insideParens_cons, if_neg (fun quote => noQuote quote.1),
      if_neg noOpening, if_neg noClosing, passes]
    split_ifs <;> rfl

/-- A parenthesis inside of quotes does not count, so that one that was opened outside of them is
still open behind them. -/
theorem isPassed_parens {inside : List Char} (free : ∀ c ∈ inside, c ∉ ['(', ')']) :
    IsPassed ('(' :: (inside ++ [')'])) := by
  intro before quoted
  obtain ⟨last, quoted', passes⟩ := exists_insideParens_of_free free '(' quoted
  refine ⟨')', quoted', fun rest => ?_⟩
  have opening : insideParens before quoted quoted.toNat ('(' :: (inside ++ ')' :: rest)) =
      '(' :: insideParens '(' quoted 1 (inside ++ ')' :: rest) := by
    cases quoted with
    | false => exact insideParens_opening _
    | true => exact insideParens_inQuotes _ (by decide)
  have closing : insideParens last quoted' 1 (')' :: rest) =
      ')' :: insideParens ')' quoted' quoted'.toNat rest := by
    cases quoted' with
    | false => exact insideParens_closing _
    | true => exact insideParens_inQuotes _ (by decide)
  rw [List.cons_append, List.append_assoc, List.singleton_append, opening, passes, closing]
  simp

theorem IsPassed.intercalate {sep : List Char} {pieces : List (List Char)}
    (passedSep : IsPassed sep) (passed : ∀ piece ∈ pieces, IsPassed piece) :
    IsPassed (sep.intercalate pieces) := by
  induction pieces with
  | nil => exact isPassed_nil
  | cons first rest ih =>
    obtain ⟨here, behind⟩ := List.forall_mem_cons.mp passed
    cases rest with
    | nil =>
      rw [List.intercalate_singleton]
      exact here
    | cons second rest =>
      rw [List.intercalate_cons_cons]
      exact (here.append passedSep).append (ih behind)

section List

variable {items : List (List Char)} {references : List FieldReference}
  (written : AreWritten items references)
include written

theorem AreWritten.isPassed : IsPassed ([','].intercalate items) := by
  apply IsPassed.intercalate (isPassed_of_free (by simp))
  intro item member
  obtain ⟨r, -, trimmed⟩ := written.exists_reference member
  obtain ⟨front, back, blank, blank', whole⟩ := exists_trim_eq item
  have blanks {text : List Char} (blank : ∀ c ∈ text, isBlank c = true) : IsPassed text := by
    apply isPassed_of_free
    intro c member mark
    have solid : ∀ c ∈ ['(', ')', '"'], isBlank c = false := eq_false_of_all (by decide)
    exact absurd (blank c member) (by simp [solid c mark])
  have word : IsPassed r.word.chars := by
    apply isPassed_of_free
    intro c member mark
    have marks : ∀ c ∈ ['(', ')', '"'], isWord c = false := eq_false_of_all (by decide)
    exact absurd (r.word.word c member) (by simp [marks c mark])
  have arguments : IsPassed r.argumentChars := by
    rw [FieldReference.argumentChars]
    cases given : r.arguments with
    | none => exact isPassed_nil
    | some inside =>
      apply isPassed_parens
      intro c member paren
      have sub : ['(', ')'] ⊆ ['(', ')', '[', ']'] := by simp
      exact (r.plain inside given c member).1 (sub paren)
  rw [whole, trimmed]
  exact (blanks blank).append ((word.append arguments).append (blanks blank'))

/-- No reference closes the brackets of the list. -/
theorem AreWritten.notMem_closing : ']' ∉ [','].intercalate items := by
  intro closing
  obtain inSep | ⟨item, isItem, member⟩ := mem_of_mem_intercalate closing
  · exact absurd inSep (by decide)
  · obtain ⟨r, -, trimmed⟩ := written.exists_reference isItem
    have inItem : ']' ∈ r.chars := by
      rw [← trimmed, ← List.count_pos_iff, count_trim (by decide)]
      exact List.count_pos_iff.mpr member
    rw [FieldReference.chars, FieldReference.argumentChars, List.mem_append] at inItem
    rcases inItem with inWord | inArguments
    · exact r.word.notMem (by decide) inWord
    · cases given : r.arguments with
      | none => simp [given] at inArguments
      | some inside =>
        have inInside : ']' ∈ inside := by simpa [given] using inArguments
        exact absurd (r.plain inside given ']' inInside).1 (by decide)

end List

/-! ## Keys and indexes -/

/-- The attributes of whole blocks that name fields. -/
inductive IndexKind where
  | id
  | unique
  | index
  deriving DecidableEq

namespace IndexKind

/-- The name of the attribute behind the two at signs. -/
def name : IndexKind → String
  | id => "id"
  | unique => "unique"
  | index => "index"

/-- The name that the attribute is looked up by. -/
def called : IndexKind → String
  | id => "@id"
  | unique => "@unique"
  | index => "@index"

/-- The kinds that are looked up before. -/
def earlier : IndexKind → List IndexKind
  | id => []
  | unique => [id]
  | index => [id, unique]

/-- Whether no kind that is looked up before is found on a line. -/
def IsFirstOn (kind : IndexKind) (line : List Char) : Prop :=
  ∀ earlier ∈ kind.earlier, attributeArgs? earlier.called line = none

theorem called_eq (kind : IndexKind) : kind.called.toList = '@' :: kind.name.toList := by
  cases kind <;> decide

theorem word (kind : IndexKind) : ∀ c ∈ kind.name.toList, isWord c = true := by
  cases kind <;> exact List.all_eq_true.mp (by decide)

theorem name_ne_of_earlier {kind earlier : IndexKind} (before : earlier ∈ kind.earlier) :
    kind.name.toList ≠ earlier.name.toList := by
  revert before
  cases kind <;> cases earlier <;> decide

end IndexKind

/-- A model with one more list of fields. -/
def Model.record (m : Model) (kind : IndexKind) (i : Index) : Model :=
  match kind with
  | .id => { m with primaryKey := some i }
  | .unique => { m with uniqueIndexes := m.uniqueIndexes ++ [i] }
  | .index => { m with indexes := m.indexes ++ [i] }

namespace Model

variable {m : Model} {kind : IndexKind} {line args : List Char}

theorem record_inj {i i' : Index} : m.record kind i = m.record kind i' ↔ i = i' := by
  cases kind <;> simp [record]

/-- What is recorded for an earlier kind is not recorded for a later one. -/
theorem record_ne_of_earlier {earlier : IndexKind} (before : earlier ∈ kind.earlier)
    (i i' : Index) : m.record earlier i ≠ m.record kind i' := by
  intro same
  cases kind with
  | id => cases before
  | unique =>
    obtain rfl := List.mem_singleton.mp before
    simpa [record] using congrArg (·.uniqueIndexes.length) same
  | index =>
    have more := congrArg (·.indexes.length) same
    have either : earlier = .id ∨ earlier = .unique := by
      simpa [IndexKind.earlier] using before
    rcases either with rfl | rfl <;> simp [record] at more

/-- The first kind that is found on a line is recorded. -/
theorem addAttribute_eq_record (found : attributeArgs? kind.called line = some args)
    (first : kind.IsFirstOn line) : m.addAttribute line = m.record kind (index args) := by
  cases kind with
  | id =>
    have id : attributeArgs? "@id" line = some args := found
    simp [addAttribute, record, id]
  | unique =>
    have noId : attributeArgs? "@id" line = none := first .id (by decide)
    have unique : attributeArgs? "@unique" line = some args := found
    simp [addAttribute, record, noId, unique]
  | index =>
    have noId : attributeArgs? "@id" line = none := first .id (by decide)
    have noUnique : attributeArgs? "@unique" line = none := first .unique (by decide)
    have index : attributeArgs? "@index" line = some args := found
    simp [addAttribute, record, noId, noUnique, index]

/-- Where an earlier kind is found on a line, the first of them is recorded. -/
theorem exists_addAttribute_eq_record {earlier : IndexKind} (before : earlier ∈ kind.earlier)
    (found : attributeArgs? earlier.called line ≠ none) :
    ∃ e ∈ kind.earlier, ∃ i, m.addAttribute line = m.record e i := by
  obtain ⟨args, found⟩ := Option.ne_none_iff_exists'.mp found
  cases kind with
  | id => cases before
  | unique =>
    obtain rfl := List.mem_singleton.mp before
    exact ⟨.id, before, index args, addAttribute_eq_record found (fun e none => by cases none)⟩
  | index =>
    cases id : attributeArgs? IndexKind.id.called line with
    | some args' =>
      exact ⟨.id, by decide, index args', addAttribute_eq_record id (fun e none => by cases none)⟩
    | none =>
      have either : earlier = .id ∨ earlier = .unique := by
        simpa [IndexKind.earlier] using before
      rcases either with rfl | rfl
      · rw [id] at found
        cases found
      · refine ⟨.unique, by decide, index args, addAttribute_eq_record found fun e member => ?_⟩
        obtain rfl := List.mem_singleton.mp member
        exact id

/-- Exactly what is found for a kind is recorded for it, if nothing is found for an earlier one. -/
theorem addAttribute_eq_record_iff (found : attributeArgs? kind.called line = some args)
    (i : Index) :
    m.addAttribute line = m.record kind i ↔ index args = i ∧ kind.IsFirstOn line := by
  constructor
  · intro recorded
    have first : kind.IsFirstOn line := by
      intro earlier before
      by_contra other
      obtain ⟨e, before, i', same⟩ := exists_addAttribute_eq_record (m := m) before other
      exact record_ne_of_earlier before i' i (same.symm.trans recorded)
    rw [addAttribute_eq_record found first, record_inj] at recorded
    exact ⟨recorded, first⟩
  · rintro ⟨rfl, first⟩
    exact addAttribute_eq_record found first

end Model

/-- The line of a block attribute with a list of fields in its arguments. -/
def IndexKind.line (kind : IndexKind) (front list tail : List Char) : List Char :=
  '@' :: '@' :: (kind.name.toList ++ '(' :: (front ++ '[' :: (list ++ ']' :: tail)))

namespace IndexKind

variable (kind : IndexKind)

/-- The attribute of a whole block is found at the front of its line. -/
theorem attributeArgs?_line (front list tail : List Char) :
    attributeArgs? kind.called (kind.line front list tail) =
      some (trim (insideParens '(' false 0 (front ++ '[' :: (list ++ ']' :: tail)))) := by
  have named (rest : List Char) : afterName? ('@' :: kind.name.toList)
      ('@' :: (kind.name.toList ++ '(' :: rest)) = some ('(' :: rest) := by
    rw [afterName?, after?_eq_some_iff.mpr (List.cons_append ..).symm]
    rfl
  rw [attributeArgs?_eq, kind.called_eq, line, afterAttribute?_cons, if_pos ⟨rfl, by decide⟩,
    named]
  rfl

/-- Only an at sign behind the name of an attribute can make it a different one. -/
theorem isFirstOn_line {front list tail : List Char} (free : '@' ∉ front ++ list ++ tail) :
    kind.IsFirstOn (kind.line front list tail) := by
  intro earlier before
  let rest := front ++ '[' :: (list ++ ']' :: tail)
  have other : afterName? ('@' :: earlier.name.toList) ('@' :: (kind.name.toList ++ '(' :: rest)) =
      none := by
    have named : afterName? earlier.name.toList (kind.name.toList ++ '(' :: rest) = none := by
      rw [afterName?_word earlier.word kind.word rfl, if_neg (name_ne_of_earlier before)]
    rw [← named]
    exact congrArg (Option.filter _) (if_pos rfl)
  have behind : '@' ∉ kind.name.toList ++ '(' :: rest := by
    have noWord : '@' ∉ kind.name.toList := fun member =>
      absurd (kind.word '@' member) (by decide)
    simp only [List.mem_append, not_or] at free
    simp [rest, noWord, free]
  rw [attributeArgs?_eq, earlier.called_eq, line, afterAttribute?_cons, if_pos ⟨rfl, by decide⟩,
    other, Option.none_or, afterAttribute?_cons, if_neg (fun starts => starts.2 rfl),
    afterAttribute?_eq_none behind]
  rfl

end IndexKind

/-! ## What is recorded -/

/-- The arguments of a block attribute hold the whole list, whatever quotes are in it. -/
theorem AreWritten.exists_attributeArgs {items : List (List Char)}
    {references : List FieldReference} (written : AreWritten items references) {front : List Char}
    (plain : ∀ c ∈ front, c ∉ ['(', ')', '[', '"']) (kind : IndexKind) (tail : List Char) :
    let list := [','].intercalate items
    ∃ args, attributeArgs? kind.called (kind.line front list tail) = some args ∧
      fieldList args = fieldNames list := by
  intro list
  have before : '[' ∉ front := fun member => absurd (plain '[' member) (by decide)
  have passedFront : IsPassed front := by
    refine isPassed_of_free fun c member mark => plain c member ?_
    have sub : ['(', ')', '"'] ⊆ ['(', ')', '[', '"'] := by decide
    exact sub mark
  have opening : IsPassed ['['] := isPassed_of_free (by simp)
  have closing : IsPassed [']'] := isPassed_of_free (by simp)
  have brackets : IsPassed ('[' :: (list ++ [']'])) :=
    opening.append (written.isPassed.append closing)
  obtain ⟨last, quoted, passes⟩ := (passedFront.append brackets) '(' false
  have whole : insideParens '(' false 0 (front ++ '[' :: (list ++ ']' :: tail)) =
      front ++ '[' :: (list ++ ']' :: insideParens last quoted quoted.toNat tail) := by
    simpa using passes tail
  refine ⟨_, kind.attributeArgs?_line front list tail, ?_⟩
  rw [fieldList_trim, whole, fieldList_between before written.notMem_closing]

/-- The names in a list of references are read as they are written exactly if there is no comma
between the parentheses of a reference. Then an attribute of a whole block records exactly these
names, unless an attribute that is looked up before is found on its line, which takes another at
sign. -/
theorem field_references_read_iff {items : List (List Char)} {references : List FieldReference}
    (written : AreWritten items references) :
    let list := [','].intercalate items
    (∀ front tail, '[' ∉ front →
      (fieldList (front ++ '[' :: (list ++ ']' :: tail)) = namesOf references ↔
        ∀ r ∈ references, r.HasNoComma)) ∧
    ∀ (m : Model) (kind : IndexKind) (front tail : List Char),
      (∀ c ∈ front, c ∉ ['(', ')', '[', '"']) →
      let line := kind.line front list tail
      ((∃ name, m.addLine line = m.record kind ⟨namesOf references, name⟩) ↔
        (∀ r ∈ references, r.HasNoComma) ∧ kind.IsFirstOn line) ∧
      ('@' ∉ front ++ list ++ tail → kind.IsFirstOn line) := by
  intro list
  have read : fieldNames list = namesOf references ↔ ∀ r ∈ references, r.HasNoComma :=
    ⟨written.single_of_fieldNames_eq, written.fieldNames_eq⟩
  refine ⟨fun front tail before => ?_, fun m kind front tail plain => ⟨?_, kind.isFirstOn_line⟩⟩
  · rw [fieldList_between before written.notMem_closing, read]
  · obtain ⟨args, found, names⟩ := written.exists_attributeArgs plain kind tail
    have isBlock : m.addLine (kind.line front list tail) =
        m.addAttribute (kind.line front list tail) := if_pos rfl
    rw [← read, ← names, isBlock]
    constructor
    · rintro ⟨name, recorded⟩
      obtain ⟨same, first⟩ := (Model.addAttribute_eq_record_iff found _).mp recorded
      exact ⟨congrArg Index.fields same, first⟩
    · rintro ⟨same, first⟩
      refine ⟨(index args).name, (Model.addAttribute_eq_record_iff found _).mpr ⟨?_, first⟩⟩
      rw [← same]
      rfl

/-- A reference to the field `name`. -/
def nameReference (arguments : Option (List Char)) (plain : arguments.all (fun given =>
    given.all fun c => c ∉ ['(', ')', '[', ']'] && !isLineBreak c) = true) : FieldReference where
  word := ⟨"name".toList, by decide, List.all_eq_true.mp (by decide)⟩
  arguments := arguments
  plain := fun given isGiven => by
    simpa using (Option.all_eq_true _ _).mp plain given isGiven

/-- A length in parentheses, and blanks around a name, in an index with a name of its own. -/
theorem field_references_read_in_index :
    let references := [nameReference (some "length: 100".toList) (by decide),
      nameReference none (by decide)]
    let items := ["name(length: 100)".toList, " name ".toList]
    let line := "@@index([name(length: 100), name ], name: \"both\")".toList
    AreWritten items references ∧ (∀ c ∈ ([] : List Char), c ∉ ['(', ')', '[', '"']) ∧
    ∃ name, ({ name := "A" } : Model).addLine line =
      ({ name := "A" } : Model).record .index ⟨namesOf references, name⟩ := by
  intro references items line
  have written : AreWritten items references := by decide
  have plain : ∀ c ∈ ([] : List Char), c ∉ ['(', ')', '[', '"'] := fun _ none => by cases none
  have single : ∀ r ∈ references, r.HasNoComma := by decide
  obtain ⟨recorded, first⟩ := (field_references_read_iff written).2 { name := "A" } .index []
    ", name: \"both\")".toList plain
  exact ⟨written, plain, recorded.mpr ⟨single, first (by decide)⟩⟩

/-- A comma between the parentheses cuts the reference in two. -/
theorem field_reference_cut_at_comma :
    let reference := nameReference (some "length: 100, sort: Desc".toList) (by decide)
    let list := [','].intercalate [reference.chars]
    let m : Model := { name := "A" }
    AreWritten [reference.chars] [reference] ∧
    fieldList ('[' :: (list ++ [']'])) ≠ namesOf [reference] ∧
    m.addLine (IndexKind.index.line [] list [')']) =
      m.record .index ⟨["name(length: 100", "sort: Desc)"], none⟩ := by
  intro reference list m
  exact ⟨by decide, by decide, by decide⟩

end SiteAtlas.Schema
