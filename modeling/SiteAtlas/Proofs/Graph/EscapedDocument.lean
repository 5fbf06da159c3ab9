import SiteAtlas.Proofs.Graph.Markup
import SiteAtlas.Proofs.Json.RoundTrip

/-! # Escaped documents

To escape the line of a document for HTML is to escape each of its texts and keys: what JSON itself
writes, around them and for numbers, holds no character that is escaped. Escaping is injective, so
different keys stay different and the escaped document is again one that JSON can hold.
-/

namespace SiteAtlas

/-! ## Escaped characters -/

namespace Graph

/-- Whether a character is escaped wherever it stands. -/
def isMark (c : Char) : Bool := c == '&' || c == '<' || c == '>'

/-- Whether no character of a text is escaped. -/
def Unmarked (text : String) : Prop := ∀ c ∈ text.toList, isMark c = false

-- named, since the search would go through all characters that there are
instance : DecidablePred Unmarked := fun text => List.decidableBAll _ text.toList

variable {c d : Char} {text first second : List Char}

theorem eq_of_isMark (mark : isMark c = true) : c = '&' ∨ c = '<' ∨ c = '>' := by
  simp only [isMark, Bool.or_eq_true, beq_iff_eq] at mark
  obtain (rfl | rfl) | rfl := mark
  · exact .inl rfl
  · exact .inr (.inl rfl)
  · exact .inr (.inr rfl)

theorem escapeHtmlChar_of_unmarked (unmarked : isMark c = false) :
    escapeHtmlChar false c = [c] := by
  simp only [isMark, Bool.or_eq_false_iff, beq_eq_false_iff_ne] at unmarked
  rw [escapeHtmlChar, if_neg unmarked.1.1, if_neg unmarked.1.2, if_neg unmarked.2]
  rfl

theorem flatMap_of_unmarked (unmarked : ∀ c ∈ text, isMark c = false) :
    text.flatMap (escapeHtmlChar false) = text := by
  rw [List.flatMap_congr fun c member => escapeHtmlChar_of_unmarked (unmarked c member),
    List.flatMap_singleton']

theorem length_escapeHtmlChar (mark : isMark c = true) :
    1 < (escapeHtmlChar false c).length := by
  obtain rfl | rfl | rfl := eq_of_isMark mark
  · decide
  · decide
  · decide

theorem length_le_flatMap (text : List Char) :
    text.length ≤ (text.flatMap (escapeHtmlChar false)).length := by
  induction text with
  | nil => exact Nat.le_refl _
  | cons c rest ih =>
    rw [List.flatMap_cons, List.length_append, List.length_cons]
    cases mark : isMark c with
    | true =>
      have longer := length_escapeHtmlChar mark
      omega
    | false =>
      rw [escapeHtmlChar_of_unmarked mark, List.length_singleton]
      omega

/-- Only a text without marks stays as it is. -/
theorem flatMap_eq_self_iff : text.flatMap (escapeHtmlChar false) = text ↔
    ∀ c ∈ text, isMark c = false := by
  refine ⟨fun same => ?_, flatMap_of_unmarked⟩
  induction text with
  | nil => exact fun _ member => absurd member List.not_mem_nil
  | cons c rest ih =>
    rw [List.flatMap_cons] at same
    cases mark : isMark c with
    | true =>
      have lengths := congrArg List.length same
      rw [List.length_append, List.length_cons] at lengths
      have longer := length_escapeHtmlChar mark
      have others := length_le_flatMap rest
      omega
    | false =>
      rw [escapeHtmlChar_of_unmarked mark] at same
      exact List.forall_mem_cons.mpr ⟨mark, ih (List.cons.inj same).2⟩

theorem escapeHtml_eq_self_iff (text : String) :
    escapeHtml false text = text ↔ Unmarked text := by
  rw [escapeHtml, ← String.toList_inj, String.toList_ofList, flatMap_eq_self_iff]
  rfl

/-- An escaped text tells where the escape of its first character ends. -/
theorem escapeHtmlChar_append (same : escapeHtmlChar false c ++ first =
    escapeHtmlChar false d ++ second) : c = d ∧ first = second := by
  cases markC : isMark c with
  | true =>
    cases markD : isMark d with
    | true =>
      obtain rfl | rfl | rfl := eq_of_isMark markC
      all_goals
        obtain rfl | rfl | rfl := eq_of_isMark markD
        all_goals
          first
          | exact ⟨rfl, List.append_cancel_left same⟩
          | exact absurd (List.cons.inj (List.cons.inj same).2).1 (by decide)
    | false =>
      rw [escapeHtmlChar_of_unmarked markD] at same
      obtain rfl | rfl | rfl := eq_of_isMark markC
      all_goals
        obtain rfl : d = '&' := (List.cons.inj same).1.symm
        exact absurd markD (by decide)
  | false =>
    rw [escapeHtmlChar_of_unmarked markC] at same
    cases markD : isMark d with
    | true =>
      obtain rfl | rfl | rfl := eq_of_isMark markD
      all_goals
        obtain rfl : c = '&' := (List.cons.inj same).1
        exact absurd markC (by decide)
    | false =>
      rw [escapeHtmlChar_of_unmarked markD] at same
      exact List.cons.inj same

theorem flatMap_injective :
    Function.Injective fun text : List Char => text.flatMap (escapeHtmlChar false) := by
  intro first second same
  dsimp only at same
  have filled (c : Char) (rest : List Char) : escapeHtmlChar false c ++ rest ≠ [] := by
    cases mark : isMark c with
    | true =>
      obtain rfl | rfl | rfl := eq_of_isMark mark
      all_goals exact List.cons_ne_nil _ _
    | false => rw [escapeHtmlChar_of_unmarked mark]; exact List.cons_ne_nil _ _
  induction first generalizing second with
  | nil =>
    cases second with
    | nil => rfl
    | cons d second => exact absurd same.symm (filled d _)
  | cons c first ih =>
    cases second with
    | nil => exact absurd same (filled c _)
    | cons d second =>
      rw [List.flatMap_cons, List.flatMap_cons] at same
      obtain ⟨rfl, others⟩ := escapeHtmlChar_append same
      rw [ih others]

/-- Different texts stay different. -/
theorem escapeHtml_injective : Function.Injective (escapeHtml false) := by
  intro first second same
  rw [escapeHtml, escapeHtml, String.ofList_inj] at same
  exact String.toList_inj.mp (flatMap_injective same)

end Graph

/-! ## Escaped documents -/

namespace Value

open SiteAtlas.Graph (escapeHtml escapeHtmlChar Unmarked)

mutual

/-- A document with all of its texts and keys escaped. -/
def escaped : Value → Value
  | .null => .null
  | .bool b => .bool b
  | .number n => .number n
  | .text s => .text (escapeHtml false s)
  | .moment s => .moment (escapeHtml false s)
  | .list items => .list (itemsEscaped items)
  | .table fields => .table (fieldsEscaped fields)

/-- The items of a list, escaped. -/
def itemsEscaped : List Value → List Value
  | [] => []
  | item :: rest => item.escaped :: itemsEscaped rest

/-- The fields of a table, escaped. -/
def fieldsEscaped : List (String × Value) → List (String × Value)
  | [] => []
  | (key, item) :: rest => (escapeHtml false key, item.escaped) :: fieldsEscaped rest

end

mutual

/-- All texts and keys of a document. -/
def words : Value → List String
  | .null => []
  | .bool _ => []
  | .number _ => []
  | .text s => [s]
  | .moment s => [s]
  | .list items => itemWords items
  | .table fields => fieldWords fields

/-- All texts and keys of the items of a list. -/
def itemWords : List Value → List String
  | [] => []
  | item :: rest => item.words ++ itemWords rest

/-- All texts and keys of the fields of a table. -/
def fieldWords : List (String × Value) → List String
  | [] => []
  | (key, item) :: rest => key :: item.words ++ fieldWords rest

end

variable {items : List Value} {fields : Fields} {v : Value}

theorem itemsEscaped_eq (items : List Value) : itemsEscaped items = items.map escaped := by
  induction items with
  | nil => rfl
  | cons item rest ih => rw [itemsEscaped, ih, List.map_cons]

/-- A field with its key and its value escaped. -/
def fieldEscaped (field : String × Value) : String × Value :=
  (escapeHtml false field.1, field.2.escaped)

theorem fieldsEscaped_eq (fields : Fields) : fieldsEscaped fields = fields.map fieldEscaped := by
  induction fields with
  | nil => rfl
  | cons field rest ih =>
    rw [fieldsEscaped, ih]
    rfl

theorem itemWords_eq (items : List Value) : itemWords items = items.flatMap words := by
  induction items with
  | nil => rfl
  | cons item rest ih => rw [itemWords, ih, List.flatMap_cons]

theorem fieldWords_eq (fields : Fields) :
    fieldWords fields = fields.flatMap fun field => field.1 :: field.2.words := by
  induction fields with
  | nil => rfl
  | cons field rest ih =>
    rw [fieldWords, ih]
    rfl

/-- Whether no text and no key of a document holds a character that is escaped. -/
def IsUnmarked (v : Value) : Prop := ∀ word ∈ v.words, Unmarked word

instance : DecidablePred IsUnmarked := fun v =>
  inferInstanceAs (Decidable (∀ word ∈ v.words, Unmarked word))

theorem isUnmarked_list_iff : (list items).IsUnmarked ↔ ∀ v ∈ items, v.IsUnmarked := by
  rw [IsUnmarked, words, itemWords_eq, List.forall_mem_flatMap]
  rfl

theorem isUnmarked_table_iff : (table fields).IsUnmarked ↔
    ∀ f ∈ fields, Unmarked f.1 ∧ f.2.IsUnmarked := by
  rw [IsUnmarked, words, fieldWords_eq, List.forall_mem_flatMap]
  simp only [List.forall_mem_cons]
  rfl

theorem map_eq_self_iff {α : Type} {f : α → α} {l : List α} : l.map f = l ↔ ∀ a ∈ l, f a = a := by
  rw [← List.map_inj_left, List.map_id']

/-- Escaping leaves a document as it is exactly if there is nothing to escape in it. -/
theorem escaped_eq_self_iff (v : Value) : v.escaped = v ↔ v.IsUnmarked := by
  have single (s : String) : escapeHtml false s = s ↔ ∀ word ∈ [s], Unmarked word := by
    rw [Graph.escapeHtml_eq_self_iff, List.forall_mem_singleton]
  induction v using inductionOn with
  | null => simp [escaped, IsUnmarked, words]
  | bool b => simp [escaped, IsUnmarked, words]
  | number n => simp [escaped, IsUnmarked, words]
  | text s => rw [escaped, text.injEq, single, IsUnmarked, words]
  | moment s => rw [escaped, moment.injEq, single, IsUnmarked, words]
  | list items ih =>
    rw [escaped, list.injEq, itemsEscaped_eq, map_eq_self_iff, isUnmarked_list_iff]
    exact forall₂_congr ih
  | table fields ih =>
    rw [escaped, table.injEq, fieldsEscaped_eq, map_eq_self_iff, isUnmarked_table_iff]
    refine forall₂_congr fun field member => ?_
    have value : field.2.escaped = field.2 ↔ field.2.IsUnmarked := ih field member
    rw [← value, ← Graph.escapeHtml_eq_self_iff]
    exact Prod.ext_iff

/-- What JSON can hold it can hold escaped: numbers stay, and different keys stay different. -/
theorem isPlain_escaped (plain : v.isPlain = true) : v.escaped.isPlain = true := by
  induction v using inductionOn with
  | null => rfl
  | bool b => rfl
  | number n => exact plain
  | text s => rfl
  | moment s => exact plain
  | list items ih =>
    have each := isPlain_list_iff.mp plain
    rw [escaped, itemsEscaped_eq, isPlain_list_iff, List.forall_mem_map]
    exact fun v member => ih v member (each v member)
  | table fields ih =>
    obtain ⟨distinct, each⟩ := isPlain_table_iff.mp plain
    rw [escaped, fieldsEscaped_eq, isPlain_table_iff, List.forall_mem_map, List.map_map]
    refine ⟨?_, fun f member => ih f member (each f member)⟩
    have keys : fields.map (Prod.fst ∘ fieldEscaped) =
        (fields.map Prod.fst).map (escapeHtml false) := by
      rw [List.map_map]
      rfl
    rw [keys]
    exact distinct.map Graph.escapeHtml_injective

end Value

/-! ## Escaped lines -/

namespace Json

open SiteAtlas.Graph (escapeHtml escapeHtmlChar isMark)

variable {c d : Char} {v : Value}

theorem isMark_hexDigit (n : Nat) : isMark (hexDigit n) = false := by
  have digits : ∀ n < 16, isMark (Nat.digitChar n) = false := by decide
  exact digits _ (Nat.mod_lt _ (by decide))

theorem isMark_of_mem_escapeUnit {unit : Nat} (member : c ∈ escapeUnit unit) :
    isMark c = false := by
  simp only [escapeUnit, List.mem_cons, List.not_mem_nil, or_false] at member
  obtain rfl | rfl | rfl | rfl | rfl | rfl := member
  · rfl
  · rfl
  all_goals exact isMark_hexDigit _

/-- In quotes, no mark is written for a character that is none. -/
theorem isMark_of_mem_escapeChar (unmarked : isMark c = false) (member : d ∈ escapeChar c) :
    isMark d = false := by
  have escape := isEscape_escapeChar c
  generalize escapeChar c = text at escape member
  cases escape with
  | letter known =>
    have letters : ∀ d ∈ ['"', '\\', 'n', 'r', 't', 'b', 'f'], isMark d = false := by
      simp [isMark]
    obtain rfl | rfl := List.mem_pair.mp member
    · rfl
    · exact letters _ known
  | itself _ => exact List.mem_singleton.mp member ▸ unmarked
  | unit unit => exact isMark_of_mem_escapeUnit member
  | pair high low =>
    exact (List.mem_append.mp member).elim isMark_of_mem_escapeUnit isMark_of_mem_escapeUnit

/-- It makes no difference whether a character is first escaped for HTML or for its quotes. -/
theorem flatMap_escapeChar (c : Char) :
    (escapeChar c).flatMap (escapeHtmlChar false) =
      (escapeHtmlChar false c).flatMap escapeChar := by
  cases mark : isMark c with
  | true =>
    obtain rfl | rfl | rfl := Graph.eq_of_isMark mark
    · decide
    · decide
    · decide
  | false =>
    rw [Graph.flatMap_of_unmarked fun d member => isMark_of_mem_escapeChar mark member,
      Graph.escapeHtmlChar_of_unmarked mark, List.flatMap_singleton]

theorem flatMap_quoted (text : String) :
    (quoted text).flatMap (escapeHtmlChar false) = quoted (escapeHtml false text) := by
  have inner : (text.toList.flatMap escapeChar).flatMap (escapeHtmlChar false) =
      (text.toList.flatMap (escapeHtmlChar false)).flatMap escapeChar := by
    rw [List.flatMap_assoc, List.flatMap_assoc]
    exact List.flatMap_congr fun c _ => flatMap_escapeChar c
  rw [quoted, quoted, escapeHtml, String.toList_ofList, List.flatMap_append, List.flatMap_cons,
    inner]
  rfl

theorem Numeral.isMark_of_mem {l : Numeral} (member : c ∈ l.chars) : isMark c = false := by
  rw [← Bool.not_eq_true]
  intro mark
  have known := l.mem_chars member
  obtain rfl | rfl | rfl := Graph.eq_of_isMark mark
  all_goals exact absurd known (by decide)

theorem flatMap_joined (pieces : List (List Char)) :
    ([',', ' '].intercalate pieces).flatMap (escapeHtmlChar false) =
      [',', ' '].intercalate (pieces.map (List.flatMap (escapeHtmlChar false))) := by
  induction pieces with
  | nil => rfl
  | cons first rest ih =>
    cases rest with
    | nil => simp
    | cons second rest =>
      rw [List.intercalate_cons_cons, List.flatMap_append, List.flatMap_append, ih]
      simp only [List.map_cons, List.intercalate_cons_cons]
      rfl

/-- The escaped line of a document is the line of the escaped document. -/
theorem flatMap_chars (plain : v.isPlain = true) :
    (chars v).flatMap (escapeHtmlChar false) = chars v.escaped := by
  induction v using Value.inductionOn with
  | null => decide
  | bool b =>
    cases b with
    | true => decide
    | false => decide
  | number n =>
    obtain ⟨l, text, -⟩ := exists_numeral plain
    rw [Value.escaped, ← text]
    exact Graph.flatMap_of_unmarked fun c member => l.isMark_of_mem member
  | text s =>
    rw [Value.escaped, chars, chars, render, render, toList_quote, toList_quote, flatMap_quoted]
  | moment s => exact absurd plain Bool.false_ne_true
  | list items ih =>
    have each := Value.isPlain_list_iff.mp plain
    have items : items.map (List.flatMap (escapeHtmlChar false) ∘ chars) =
        items.map (chars ∘ Value.escaped) :=
      List.map_congr_left fun v member => ih v member (each v member)
    rw [Value.escaped, Value.itemsEscaped_eq, chars_list, chars_list, List.flatMap_append,
      List.flatMap_cons, flatMap_joined, List.map_map, items, List.map_map]
    rfl
  | table fields ih =>
    have each := (Value.isPlain_table_iff.mp plain).2
    have fields : fields.map (List.flatMap (escapeHtmlChar false) ∘ fieldChars) =
        fields.map (fieldChars ∘ Value.fieldEscaped) := by
      refine List.map_congr_left fun field member => ?_
      have value := ih field member (each field member)
      rw [Function.comp, fieldChars, List.flatMap_append, List.flatMap_append, flatMap_quoted,
        value]
      rfl
    rw [Value.escaped, Value.fieldsEscaped_eq, chars_table, chars_table, List.flatMap_append,
      List.flatMap_cons, flatMap_joined, List.map_map, fields, List.map_map]
    rfl

theorem escapeHtml_render (plain : v.isPlain = true) :
    escapeHtml false (render v) = render v.escaped := by
  rw [escapeHtml, ← String.toList_inj, String.toList_ofList]
  exact flatMap_chars plain

end Json

end SiteAtlas
