import SiteAtlas.Proofs.Schema.ArgumentSearch

/-! # Lists of fields

The fields of an index are listed in brackets, each by its name and with arguments in parentheses
if it has any, as in `[name(length: 100), author]`. The text between the brackets is cut at every
comma, and then the parentheses of each piece are left out. So a list is read as it is written
exactly if there is no comma between parentheses: a piece that ends inside of them keeps its
parenthesis.
-/

namespace SiteAtlas.Schema

open Text

/-! ## Where a list stands -/

theorem upTo?_eq_some_iff {closing : Char} {text inside after : List Char} :
    upTo? closing text = some (inside, after) ↔
      closing ∉ inside ∧ text = inside ++ closing :: after := by
  constructor
  · intro found
    induction text generalizing inside with
    | nil => cases found
    | cons c rest ih =>
      rw [upTo?] at found
      by_cases here : c = closing
      · rw [if_pos here] at found
        cases found
        exact ⟨List.not_mem_nil, by rw [here, List.nil_append]⟩
      · rw [if_neg here, Option.map_eq_some_iff] at found
        obtain ⟨⟨between, behind⟩, later, same⟩ := found
        cases same
        obtain ⟨free, rfl⟩ := ih later
        exact ⟨List.not_mem_cons_of_ne_of_not_mem (Ne.symm here) free, rfl⟩
  · rintro ⟨free, rfl⟩
    exact upTo?_append free after

theorem upTo?_eq_none_iff {closing : Char} {text : List Char} :
    upTo? closing text = none ↔ closing ∉ text := by
  induction text with
  | nil => simp [upTo?]
  | cons c rest ih =>
    rw [upTo?, List.mem_cons, not_or, ← ih]
    by_cases here : c = closing
    · simp [here]
    · simp [here, Ne.symm here]

theorem bracketed?_eq_some_iff {text inside : List Char} : bracketed? text = some inside ↔
    ']' ∉ inside ∧ ∃ behind, text = '[' :: (inside ++ ']' :: behind) := by
  constructor
  · intro found
    unfold bracketed? at found
    split at found
    next rest =>
      obtain ⟨⟨between, behind⟩, closed, same⟩ := Option.map_eq_some_iff.mp found
      obtain ⟨free, rfl⟩ := upTo?_eq_some_iff.mp closed
      obtain rfl : between = inside := same
      exact ⟨free, behind, rfl⟩
    next => cases found
  · rintro ⟨free, behind, rfl⟩
    rw [bracketed?, upTo?_append free]
    rfl

/-- A list stands between the first bracket that opens and the first one behind it that closes. -/
theorem findMap?_bracketed?_eq_some_iff {text inside : List Char} :
    findMap? bracketed? text = some inside ↔ ']' ∉ inside ∧
      ∃ front behind, '[' ∉ front ∧ text = front ++ '[' :: (inside ++ ']' :: behind) := by
  constructor
  · intro found
    induction text with
    | nil => cases found
    | cons c rest ih =>
      rw [findMap?] at found
      split at found
      next here =>
        cases found
        obtain ⟨free, behind, same⟩ := bracketed?_eq_some_iff.mp here
        exact ⟨free, [], behind, List.not_mem_nil, same⟩
      next none =>
        obtain ⟨free, front, behind, before, rfl⟩ := ih found
        have other : c ≠ '[' := by
          rintro rfl
          rw [bracketed?, Option.map_eq_none_iff, upTo?_eq_none_iff] at none
          exact none (by simp)
        exact ⟨free, c :: front, behind,
          List.not_mem_cons_of_ne_of_not_mem (Ne.symm other) before, rfl⟩
  · rintro ⟨free, front, behind, before, rfl⟩
    induction front with
    | nil =>
      have here : bracketed? ('[' :: (inside ++ ']' :: behind)) = some inside :=
        bracketed?_eq_some_iff.mpr ⟨free, behind, rfl⟩
      rw [List.nil_append, findMap?, here]
    | cons c front ih =>
      obtain ⟨other, before⟩ := not_or.mp (mt List.mem_cons.mpr before)
      rw [List.cons_append, findMap?, bracketed?_eq_none (Ne.symm other)]
      exact ih before

theorem fieldList_between {front inside : List Char} (before : '[' ∉ front) (free : ']' ∉ inside)
    (behind : List Char) :
    fieldList (front ++ '[' :: (inside ++ ']' :: behind)) = fieldNames inside := by
  rw [fieldList, findMap?_bracketed?_eq_some_iff.mpr ⟨free, front, behind, before, rfl⟩]

/-- What is between brackets is not trimmed. -/
theorem trim_between (front inside behind : List Char) :
    trim (front ++ '[' :: (inside ++ ']' :: behind)) =
      trimLeft front ++ '[' :: (inside ++ ']' :: trimRight behind) := by
  have closing : trimRight (']' :: behind) = ']' :: trimRight behind :=
    trimRight_cons_of_solid (by decide) behind
  have filled : trimRight (']' :: behind) ≠ [] := by
    rw [closing]
    exact List.cons_ne_nil _ _
  rw [trim, trimLeft, dropWhile_append_stop (by decide), ← trimLeft, ← List.cons_append,
    ← List.append_assoc, trimRight_append filled, closing, List.append_assoc, List.cons_append]

/-- The list of fields is the same whatever blanks are around it. -/
theorem fieldList_trim (text : List Char) : fieldList (trim text) = fieldList text := by
  have searched : findMap? bracketed? (trim text) = findMap? bracketed? text := by
    refine Option.ext fun inside => ?_
    rw [findMap?_bracketed?_eq_some_iff, findMap?_bracketed?_eq_some_iff]
    refine and_congr_right fun free => ?_
    constructor
    · rintro ⟨front, behind, before, same⟩
      obtain ⟨blanks, blanks', blank, -, whole⟩ := exists_trim_eq text
      refine ⟨blanks ++ front, behind ++ blanks', ?_, ?_⟩
      · rw [List.mem_append, not_or]
        exact ⟨notMem_of_isBlank blank (by decide), before⟩
      · refine whole.trans ?_
        rw [same]
        simp
    · rintro ⟨front, behind, before, rfl⟩
      have kept : '[' ∉ trimLeft front := fun member =>
        before ((List.dropWhile_sublist isBlank).subset member)
      exact ⟨trimLeft front, trimRight behind, kept, trim_between _ _ _⟩
  rw [fieldList, fieldList, searched]

/-! ## References to fields -/

/-- A reference to a field as it stands in a list: a name, and arguments in parentheses if it has
any. -/
structure FieldReference where
  /-- The name of the field. -/
  word : Word
  /-- What is between the parentheses. -/
  arguments : Option (List Char) := none
  plain : ∀ given ∈ arguments, ∀ c ∈ given, c ∉ ['(', ')', '[', ']'] ∧ isLineBreak c = false

namespace FieldReference

/-- The arguments with their parentheses. -/
def argumentChars (r : FieldReference) : List Char :=
  match r.arguments with
  | none => []
  | some given => '(' :: (given ++ [')'])

/-- A reference as it is written. -/
def chars (r : FieldReference) : List Char := r.word.chars ++ r.argumentChars

/-- Whether there is no comma between the parentheses. -/
def HasNoComma (r : FieldReference) : Prop := ∀ given ∈ r.arguments, ',' ∉ given

instance (r : FieldReference) : Decidable r.HasNoComma :=
  inferInstanceAs (Decidable (∀ given ∈ r.arguments, ',' ∉ given))

end FieldReference

/-- The names of the fields that are referred to. -/
def namesOf (references : List FieldReference) : List String := references.map (·.word.text)

/-- Whether the items of a list are references, with any blanks around them. -/
def AreWritten (items : List (List Char)) (references : List FieldReference) : Prop :=
  items.map trim = references.map FieldReference.chars

instance (items : List (List Char)) (references : List FieldReference) :
    Decidable (AreWritten items references) :=
  inferInstanceAs (Decidable (items.map trim = references.map FieldReference.chars))

theorem AreWritten.exists_reference {items : List (List Char)} {references : List FieldReference}
    (written : AreWritten items references) {item : List Char} (member : item ∈ items) :
    ∃ r ∈ references, trim item = r.chars := by
  have among : trim item ∈ references.map FieldReference.chars := by
    rw [← written]
    exact List.mem_map_of_mem member
  obtain ⟨r, isReference, same⟩ := List.mem_map.mp among
  exact ⟨r, isReference, same.symm⟩

/-! ### The name of an item -/

/-- From the first parenthesis that opens to the last one that closes an item is left out. -/
theorem dropParens_between {front back : List Char} (before : '(' ∉ front) (behind : ')' ∉ back)
    (inside : List Char) :
    dropParens (front ++ '(' :: (inside ++ ')' :: back)) = front ++ back := by
  have opens : ∀ c ∈ front, (c != '(') = true := fun c member => by
    rw [bne_iff_ne]
    rintro rfl
    exact before member
  have closes : ∀ c ∈ back.reverse, (c != ')') = true := fun c member => by
    rw [bne_iff_ne]
    rintro rfl
    exact behind (List.mem_reverse.mp member)
  have start : (front ++ '(' :: (inside ++ ')' :: back)).takeWhile (· != '(') = front :=
    takeWhile_append_of_halts opens (halts_cons.mpr (by decide))
  have tail : (front ++ '(' :: (inside ++ ')' :: back)).dropWhile (· != '(') =
      '(' :: (inside ++ ')' :: back) :=
    dropWhile_append_of_halts opens (halts_cons.mpr (by decide))
  have reversed : ('(' :: (inside ++ ')' :: back)).reverse =
      back.reverse ++ ')' :: ('(' :: inside).reverse := by simp
  have last : ('(' :: (inside ++ ')' :: back)).reverse.takeWhile (· != ')') = back.reverse := by
    rw [reversed]
    exact takeWhile_append_of_halts closes (halts_cons.mpr (by decide))
  rw [dropParens, start, tail, last, List.reverse_reverse]
  exact if_pos (by simp)

/-- An item whose parenthesis does not close in it keeps its arguments. -/
theorem dropParens_of_notMem_closing {item : List Char} (free : ')' ∉ item) :
    dropParens item = item := by
  have unclosed : ')' ∉ item.dropWhile (· != '(') := fun member =>
    free ((List.dropWhile_sublist _).subset member)
  rw [dropParens]
  exact if_neg (by simpa using unclosed)

/-- An item that is a reference stands for its name, whatever the arguments are. -/
theorem nameIn?_of_trim {item : List Char} {r : FieldReference} (written : trim item = r.chars) :
    nameIn? item = some r.word.text := by
  obtain ⟨front, back, blank, blank', whole⟩ := exists_trim_eq item
  have noOpening : '(' ∉ front ++ r.word.chars := by
    rw [List.mem_append, not_or]
    exact ⟨notMem_of_isBlank blank (by decide), r.word.notMem (by decide)⟩
  have noClosing : ')' ∉ back := notMem_of_isBlank blank' (by decide)
  have dropped : dropParens item = front ++ (r.word.chars ++ back) := by
    rw [whole, written, FieldReference.chars, FieldReference.argumentChars]
    cases r.arguments with
    | none =>
      have noOpeningBehind : '(' ∉ back := notMem_of_isBlank blank' (by decide)
      rw [List.append_nil, ← List.append_assoc, dropParens_of_notMem]
      exact List.not_mem_append noOpening noOpeningBehind
    | some given =>
      have spelled : front ++ (r.word.chars ++ '(' :: (given ++ [')']) ++ back) =
          front ++ r.word.chars ++ '(' :: (given ++ ')' :: back) := by simp
      rw [spelled, dropParens_between noOpening noClosing, List.append_assoc]
  rw [nameIn?, dropped, trim_padded blank blank' r.word.filled r.word.halts r.word.halts_reverse]
  exact if_neg (by simpa using r.word.filled)

theorem AreWritten.filterMap_nameIn? {items : List (List Char)} {references : List FieldReference}
    (written : AreWritten items references) : items.filterMap nameIn? = namesOf references := by
  induction items generalizing references with
  | nil =>
    obtain rfl : references = [] := List.map_eq_nil_iff.mp written.symm
    rfl
  | cons item items ih =>
    obtain ⟨r, rest, rfl, here, behind⟩ := List.map_eq_cons_iff.mp written.symm
    rw [List.filterMap_cons_some (nameIn?_of_trim here.symm), ih behind.symm]
    rfl

/-! ### Cutting a list at its commas -/

/-- What an item is cut into is among what the list is cut into. -/
theorem mem_splitOn_intercalate {items : List (List Char)} {item piece : List Char}
    (isItem : item ∈ items) (isPiece : piece ∈ item.splitOn ',') :
    piece ∈ ([','].intercalate items).splitOn ',' := by
  induction items with
  | nil => cases isItem
  | cons first rest ih =>
    cases rest with
    | nil =>
      obtain rfl := List.mem_singleton.mp isItem
      rwa [List.intercalate_singleton]
    | cons second rest =>
      rw [List.intercalate_cons_cons, List.append_assoc, List.singleton_append,
        List.splitOn_append_cons_self, List.mem_append]
      rcases List.mem_cons.mp isItem with rfl | later
      · exact .inl isPiece
      · exact .inr (ih later)

section Written

variable {items : List (List Char)} {references : List FieldReference}
  (written : AreWritten items references)
include written

theorem AreWritten.notMem_comma (single : ∀ r ∈ references, r.HasNoComma) :
    ∀ item ∈ items, ',' ∉ item := by
  intro item member
  obtain ⟨r, isReference, same⟩ := written.exists_reference member
  have counts : item.count ',' = r.chars.count ',' := by
    rw [← same, count_trim (by decide)]
  rw [← List.count_eq_zero, counts, List.count_eq_zero, FieldReference.chars,
    FieldReference.argumentChars]
  cases arguments : r.arguments with
  | none => 
    rw [List.append_nil]
    exact r.word.notMem (by decide)
  | some given =>
    have free : ',' ∉ given := single r isReference given arguments
    have noWord : ',' ∉ r.word.chars := r.word.notMem (by decide)
    simp [free, noWord]

/-- References without commas in their arguments are read back as their names. -/
theorem AreWritten.fieldNames_eq (single : ∀ r ∈ references, r.HasNoComma) :
    fieldNames ([','].intercalate items) = namesOf references := by
  by_cases empty : items = []
  · have none := written
    rw [empty] at none
    obtain rfl : references = [] := List.map_eq_nil_iff.mp none.symm
    rw [empty]
    decide
  · rw [Schema.fieldNames_eq, List.splitOn_intercalate _ (written.notMem_comma single) empty,
      written.filterMap_nameIn?]

/-- A list that is cut between the parentheses of a reference has a name with a parenthesis. -/
theorem AreWritten.single_of_fieldNames_eq
    (same : fieldNames ([','].intercalate items) = namesOf references) :
    ∀ r ∈ references, r.HasNoComma := by
  intro r isReference given arguments comma
  obtain ⟨item, isItem, trimmed⟩ : ∃ item ∈ items, trim item = r.chars := by
    have among : r.chars ∈ items.map trim := by
      rw [written]
      exact List.mem_map_of_mem isReference
    exact List.mem_map.mp among
  obtain ⟨start, rest, cut, free⟩ := List.eq_append_cons_of_mem comma
  obtain ⟨front, back, blank, blank', whole⟩ := exists_trim_eq item
  -- The piece up to the comma, whose parenthesis is not closed.
  let piece := front ++ (r.word.chars ++ '(' :: start)
  have spelled : item = piece ++ ',' :: (rest ++ ')' :: back) := by
    rw [whole, trimmed, FieldReference.chars, FieldReference.argumentChars, arguments, cut]
    simp [piece]
  have noComma : ',' ∉ piece := by
    have inBlanks : ',' ∉ front := notMem_of_isBlank blank (by decide)
    have inWord : ',' ∉ r.word.chars := r.word.notMem (by decide)
    simp [piece, inBlanks, inWord, free]
  have noClosing : ')' ∉ piece := by
    have inBlanks : ')' ∉ front := notMem_of_isBlank blank (by decide)
    have inWord : ')' ∉ r.word.chars := r.word.notMem (by decide)
    have inStart : ')' ∉ start := fun member => by
      have inGiven : ')' ∈ given := cut ▸ List.mem_append_left _ member
      exact absurd (r.plain given arguments ')' inGiven).1 (by decide)
    simp [piece, inBlanks, inWord, inStart]
  have opening : '(' ∈ trim piece := by
    rw [← List.count_pos_iff, count_trim (by decide), List.count_pos_iff]
    simp [piece]
  have named : nameIn? piece = some (String.ofList (trim piece)) := by
    rw [nameIn?, dropParens_of_notMem_closing noClosing]
    exact if_neg (by simpa using List.ne_nil_of_mem opening)
  have isPiece : piece ∈ item.splitOn ',' := by
    rw [spelled, List.splitOn_append_cons_self_of_not_mem noComma]
    exact List.mem_cons_self
  have isName : String.ofList (trim piece) ∈ namesOf references := by
    rw [← same, Schema.fieldNames_eq]
    exact List.mem_filterMap.mpr ⟨piece, mem_splitOn_intercalate isItem isPiece, named⟩
  obtain ⟨other, -, spells⟩ := List.mem_map.mp isName
  have isWord : trim piece = other.word.chars := String.ofList_injective spells.symm
  rw [isWord] at opening
  exact other.word.notMem (by decide) opening

end Written

end SiteAtlas.Schema
