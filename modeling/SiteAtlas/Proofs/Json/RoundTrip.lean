import SiteAtlas.Proofs.Json.Numbers
import SiteAtlas.Proofs.Json.Plain
import SiteAtlas.Proofs.Json.Texts

/-! # JSON reads back

A value without dates, with finite numbers and with distinct keys in every table is read back from
the line it is written on. What a reader may see behind a value is no part of a number, so that it
stops where the value ends.
-/

namespace SiteAtlas

namespace Json

open Text (Halts)

/-! ## Written values as characters -/

/-- A text in quotes. -/
def quoted (text : String) : List Char := '"' :: text.toList.flatMap escapeChar ++ ['"']

/-- A value on one line. -/
def chars (v : Value) : List Char := (render v).toList

/-- A field on one line. -/
def fieldChars (field : String × Value) : List Char := quoted field.1 ++ [':', ' '] ++ chars field.2

theorem toList_quote (text : String) : (quote text).toList = quoted text := by
  rw [quote, String.toList_ofList]
  rfl

theorem renderItems_eq (items : List Value) : renderItems items = items.map render := by
  induction items with
  | nil => rfl
  | cons item rest ih => rw [renderItems, ih, List.map_cons]

theorem renderFields_eq (fields : List (String × Value)) :
    renderFields fields = fields.map fun field => quote field.1 ++ ": " ++ render field.2 := by
  induction fields with
  | nil => rfl
  | cons field rest ih => rw [renderFields, ih, List.map_cons]

theorem chars_list (items : List Value) :
    chars (.list items) = '[' :: [',', ' '].intercalate (items.map chars) ++ [']'] := by
  rw [chars, render, renderItems_eq, String.toList_append, String.toList_append,
    String.toList_intercalate, List.map_map]
  rfl

theorem chars_table (fields : List (String × Value)) :
    chars (.table fields) =
      '\x7b' :: [',', ' '].intercalate (fields.map fieldChars) ++ ['\x7d'] := by
  have each : (fields.map fun field => quote field.1 ++ ": " ++ render field.2).map String.toList =
      fields.map fieldChars := by
    rw [List.map_map]
    apply List.map_congr_left
    intro field _
    simp [fieldChars, chars, toList_quote]
  rw [chars, render, renderFields_eq, String.toList_append, String.toList_append,
    String.toList_intercalate, each]
  rfl

/-! ## What a value begins with -/

/-- Whether a written value may begin with a character. -/
def startsValue (c : Char) : Bool :=
  c.isDigit || ['"', '[', '\x7b', '-', 'n', 't', 'f'].contains c

/-- The blanks of JSON. -/
def isSpace (c : Char) : Bool := c = ' ' || c = '\t' || c = '\n' || c = '\r'

variable {c : Char} {text tail rest : List Char} {v : Value} {fuel : Nat}

theorem skipBlanks_of_halts (halts : Halts isSpace text) : skipBlanks text = text :=
  halts.dropWhile_eq

theorem not_isSpace (starts : startsValue c = true) : isSpace c = false := by
  rw [← Bool.not_eq_true]
  intro space
  simp only [isSpace, Bool.or_eq_true, decide_eq_true_iff] at space
  obtain ((rfl | rfl) | rfl) | rfl := space
  all_goals exact absurd starts (by decide)

theorem skipBlanks_value (starts : startsValue c = true) :
    skipBlanks (c :: tail) = c :: tail :=
  skipBlanks_of_halts (Text.halts_cons.mpr (not_isSpace starts))

theorem skipBlanks_space (starts : startsValue c = true) :
    skipBlanks (' ' :: c :: tail) = c :: tail :=
  skipBlanks_value starts

theorem Numeral.exists_chars (l : Numeral) : ∃ c tail, l.chars = c :: tail ∧
    (c.isDigit = true ∨ c = '-' ∧ ∃ d more, tail = d :: more ∧ d.isDigit = true) := by
  obtain ⟨d, more, first, digit⟩ := l.exists_unsigned
  rw [Numeral.chars]
  split
  · exact ⟨'-', _, rfl, .inr ⟨rfl, d, more, first, digit⟩⟩
  · exact ⟨d, more, first, .inl digit⟩

/-- A number is written as a numeral of its value. -/
theorem exists_numeral {n : Number} (finite : n.isFinite = true) :
    ∃ l : Numeral, l.chars = chars (.number n) ∧ l.value = n := by
  rw [chars, render]
  cases n with
  | whole n => exact exists_numeral_whole n
  | real x =>
    rw [renderNumber, if_neg (by rw [Dyadic.isNaN_eq_false finite]; exact Bool.false_ne_true),
      if_neg (by rw [Dyadic.isInf_eq_false finite]; exact Bool.false_ne_true)]
    exact exists_numeral_real finite

theorem exists_chars (plain : v.isPlain = true) :
    ∃ c tail, chars v = c :: tail ∧ startsValue c = true := by
  cases v with
  | null => exact ⟨_, _, rfl, rfl⟩
  | bool b =>
    cases b with
    | true => exact ⟨_, _, rfl, rfl⟩
    | false => exact ⟨_, _, rfl, rfl⟩
  | number n =>
    obtain ⟨l, text, -⟩ := exists_numeral plain
    obtain ⟨c, tail, first, digit | ⟨rfl, -⟩⟩ := l.exists_chars
    · exact ⟨c, tail, text ▸ first, by rw [startsValue, digit]; rfl⟩
    · exact ⟨_, tail, text ▸ first, rfl⟩
  | text s => exact ⟨'"', _, toList_quote s, rfl⟩
  | moment s => exact absurd plain Bool.false_ne_true
  | list items => exact ⟨'[', _, chars_list items, rfl⟩
  | table fields => exact ⟨'\x7b', _, chars_table fields, rfl⟩

/-! ## Reading words and numbers -/

/-- No word has a digit among its first two letters. -/
theorem readWord_eq_none
    (digit : c.isDigit = true ∨ ∃ d more, tail = d :: more ∧ d.isDigit = true) :
    readWord (c :: tail) = none := by
  have other (a b : Char) (letters : List Char) (first : a.isDigit = false)
      (second : b.isDigit = false) : (a :: b :: letters).isPrefixOf (c :: tail) = false := by
    rw [← Bool.not_eq_true, List.isPrefixOf_iff_prefix]
    rintro ⟨after, same⟩
    obtain ⟨rfl, rfl⟩ := List.cons.inj same
    obtain digit | ⟨d, more, same, digit⟩ := digit
    · exact Bool.false_ne_true (first.symm.trans digit)
    · obtain ⟨rfl, -⟩ := List.cons.inj same
      exact Bool.false_ne_true (second.symm.trans digit)
  simp only [readWord, List.findSome?_cons]
  rw [show "null".toList = ['n', 'u', 'l', 'l'] from rfl,
    show "true".toList = ['t', 'r', 'u', 'e'] from rfl,
    show "false".toList = ['f', 'a', 'l', 's', 'e'] from rfl,
    show "NaN".toList = ['N', 'a', 'N'] from rfl,
    show "Infinity".toList = 'I' :: 'n' :: "finity".toList from rfl,
    show "-Infinity".toList = '-' :: 'I' :: "nfinity".toList from rfl]
  rw [other _ _ _ rfl rfl, other _ _ _ rfl rfl, other _ _ _ rfl rfl, other _ _ _ rfl rfl,
    other _ _ _ rfl rfl, other _ _ _ rfl rfl]
  rfl

theorem readValue_other (noQuote : c ≠ '"') (noList : c ≠ '[') (noTable : c ≠ '\x7b') :
    readValue (fuel + 1) (c :: tail) =
      match readWord (c :: tail) with
      | some found => some found
      | none => (readNumber (c :: tail)).map fun (n, after) => (.number n, after) := by
  rw [readValue.eq_def]
  dsimp only
  split
  next text => exact absurd (List.cons.inj text).1 noQuote
  next text => exact absurd (List.cons.inj text).1 noList
  next text => exact absurd (List.cons.inj text).1 noTable
  · rfl

theorem readValue_number {n : Number} (finite : n.isFinite = true)
    (halts : Halts continuesNumber rest) :
    readValue (fuel + 1) (chars (.number n) ++ rest) = some (.number n, rest) := by
  obtain ⟨l, text, value⟩ := exists_numeral finite
  have read := l.readNumber_chars halts
  obtain ⟨c, tail, first, digit⟩ := l.exists_chars
  have word : readWord (c :: (tail ++ rest)) = none := by
    apply readWord_eq_none
    obtain digit | ⟨-, d, more, rfl, digit⟩ := digit
    · exact .inl digit
    · exact .inr ⟨d, more ++ rest, rfl, digit⟩
  have other (d : Char) (noDigit : d.isDigit = false) (noSign : d ≠ '-') : c ≠ d := by
    rintro rfl
    obtain digit | ⟨sign, -⟩ := digit
    · exact Bool.false_ne_true (noDigit.symm.trans digit)
    · exact noSign sign
  rw [← text]
  rw [first, List.cons_append] at read ⊢
  rw [readValue_other (other _ rfl (by decide)) (other _ rfl (by decide)) (other _ rfl (by decide)),
    word, read, value]
  rfl

/-! ## Reading lists and tables -/

variable {more : List Char} {item : Value} {done : List Value} {before : Fields} {key : String}

theorem readValue_items (starts : startsValue c = true) :
    readValue (fuel + 1) ('[' :: c :: tail) =
      (readItems fuel [] (c :: tail)).map fun (items, after) => (.list items, after) := by
  have other : c ≠ ']' := by
    rintro rfl
    exact absurd starts (by decide)
  rw [readValue, skipBlanks_value starts]
  split
  next text => exact absurd (List.cons.inj text).1 other
  · rfl

theorem readItems_more (read : readValue fuel text = some (item, ',' :: ' ' :: c :: more))
    (starts : startsValue c = true) :
    readItems (fuel + 1) done text = readItems fuel (item :: done) (c :: more) := by
  rw [readItems, read]
  exact congrArg (readItems fuel (item :: done)) (skipBlanks_space starts)

theorem readItems_last (read : readValue fuel text = some (item, ']' :: rest)) :
    readItems (fuel + 1) done text = some ((item :: done).reverse, rest) := by
  rw [readItems, read]
  rfl

theorem readValue_fields (fuel : Nat) (tail : List Char) :
    readValue (fuel + 1) ('\x7b' :: '"' :: tail) =
      (readFields fuel [] ('"' :: tail)).map fun (fields, after) => (.table fields, after) :=
  rfl

theorem quoted_append (key : String) (text : List Char) : quoted key ++ [':', ' '] ++ text =
    '"' :: (key.toList.flatMap escapeChar ++ '"' :: ':' :: ' ' :: text) := by
  simp [quoted]

theorem readQuoted_key (key : String) (rest : List Char) :
    readQuoted [] (key.toList.flatMap escapeChar ++ '"' :: rest) = some (key, rest) := by
  rw [readQuoted_escaped, List.reverse_nil, List.nil_append, String.ofList_toList]

theorem readFields_more (starts : startsValue c = true)
    (read : readValue fuel (c :: tail) = some (item, ',' :: ' ' :: '"' :: more)) :
    readFields (fuel + 1) before (quoted key ++ [':', ' '] ++ c :: tail) =
      readFields fuel (before.set key item) ('"' :: more) := by
  rw [quoted_append, readFields, readQuoted_key]
  conv_lhs => whnf
  rw [skipBlanks_space starts, read]
  rfl

theorem readFields_last (starts : startsValue c = true)
    (read : readValue fuel (c :: tail) = some (item, '\x7d' :: rest)) :
    readFields (fuel + 1) before (quoted key ++ [':', ' '] ++ c :: tail) =
      some (before.set key item, rest) := by
  rw [quoted_append, readFields, readQuoted_key]
  conv_lhs => whnf
  rw [skipBlanks_space starts, read]
  rfl

theorem set_of_new {fields : Fields} {key : String} (new : key ∉ fields.map Prod.fst)
    (v : Value) : fields.set key v = fields ++ [(key, v)] := by
  induction fields with
  | nil => rfl
  | cons field rest ih =>
    obtain ⟨other, others⟩ := List.ne_and_not_mem_of_not_mem_cons new
    rw [Fields.set, if_neg (by simpa using Ne.symm other), ih others]
    rfl

/-- A list of written values, from the first of them on. -/
theorem exists_joined {α : Type} (write : α → List Char) {c : Char} {tail : List Char} (first : α)
    (rest : List α) (starts : write first = c :: tail) :
    ∃ more, [',', ' '].intercalate ((first :: rest).map write) = c :: more := by
  cases rest with
  | nil => exact ⟨tail, by simp [starts]⟩
  | cons second rest =>
    rw [List.map_cons, List.map_cons, List.intercalate_cons_cons, starts]
    exact ⟨_, rfl⟩

/-! ## Every constructor -/

/-- Whether a value is read back to its end, whatever follows it that is no part of a number. -/
def ReadsBack (v : Value) : Prop :=
  ∀ fuel rest, (chars v).length < fuel → Halts continuesNumber rest →
    readValue fuel (chars v ++ rest) = some (v, rest)

theorem exists_succ {n fuel : Nat} (enough : n < fuel) : ∃ more, fuel = more + 1 :=
  ⟨fuel - 1, by omega⟩

theorem readsBack_null : ReadsBack .null := by
  intro fuel rest enough _
  obtain ⟨fuel, rfl⟩ := exists_succ enough
  rfl

theorem readsBack_bool (b : Bool) : ReadsBack (.bool b) := by
  intro fuel rest enough _
  obtain ⟨fuel, rfl⟩ := exists_succ enough
  cases b with
  | true => rfl
  | false => rfl

theorem readsBack_number {n : Number} (finite : n.isFinite = true) : ReadsBack (.number n) := by
  intro fuel rest enough halts
  obtain ⟨fuel, rfl⟩ := exists_succ enough
  exact readValue_number finite halts

theorem readsBack_text (s : String) : ReadsBack (.text s) := by
  intro fuel rest enough _
  obtain ⟨fuel, rfl⟩ := exists_succ enough
  have text : chars (.text s) ++ rest = '"' :: (s.toList.flatMap escapeChar ++ '"' :: rest) := by
    rw [chars, render, toList_quote, quoted]
    simp
  rw [text, readValue, readQuoted_escaped]
  simp

/-- The items of a list are read back to the bracket behind them. -/
theorem readItems_joined {item : Value} {items : List Value}
    (plain : ∀ v ∈ item :: items, v.isPlain = true) (each : ∀ v ∈ item :: items, ReadsBack v)
    (fuel : Nat) (done : List Value) (rest : List Char)
    (enough : ([',', ' '].intercalate ((item :: items).map chars)).length + 1 < fuel) :
    readItems fuel done ([',', ' '].intercalate ((item :: items).map chars) ++ ']' :: rest) =
      some (done.reverse ++ item :: items, rest) := by
  obtain ⟨fuel, rfl⟩ := exists_succ enough
  have itself := each item List.mem_cons_self
  -- one step reads an item, the comma and the blank; the fuel is more than what is left to read
  induction items generalizing item done fuel with
  | nil =>
    rw [List.map_singleton, List.intercalate_singleton] at enough ⊢
    have read := itself fuel (']' :: rest) (by omega) (Text.halts_cons.mpr rfl)
    rw [readItems_last read, List.reverse_cons]
  | cons second items ih =>
    have others := (List.forall_mem_cons.mp plain).2
    obtain ⟨c, tail, first, starts⟩ := exists_chars (others second List.mem_cons_self)
    obtain ⟨more, joined⟩ := exists_joined chars second items first
    rw [List.map_cons, List.map_cons, List.intercalate_cons_cons, ← List.map_cons] at enough ⊢
    rw [List.length_append, List.length_append, List.length_cons] at enough
    obtain ⟨fuel, rfl⟩ := exists_succ (show 0 < fuel by omega)
    have next := ih others (fun v member => each v (List.mem_cons_of_mem _ member)) (item :: done)
      fuel (by omega) (each second (List.mem_cons_of_mem _ List.mem_cons_self))
    have read := itself (fuel + 1) ([',', ' '] ++ c :: (more ++ ']' :: rest)) (by omega)
      (Text.halts_cons.mpr rfl)
    rw [joined, List.cons_append] at next
    have text : chars item ++ [',', ' '] ++ c :: more ++ ']' :: rest =
        chars item ++ ([',', ' '] ++ c :: (more ++ ']' :: rest)) := by simp
    rw [joined, text, readItems_more read starts, next, List.reverse_cons, List.append_assoc]
    rfl

theorem readsBack_list {items : List Value} (plain : ∀ v ∈ items, v.isPlain = true)
    (each : ∀ v ∈ items, ReadsBack v) : ReadsBack (.list items) := by
  intro fuel rest enough _
  obtain ⟨fuel, rfl⟩ := exists_succ enough
  cases items with
  | nil => rfl
  | cons item items =>
    obtain ⟨c, tail, first, starts⟩ := exists_chars (plain item List.mem_cons_self)
    obtain ⟨more, joined⟩ := exists_joined chars item items first
    rw [chars_list, List.length_append, List.length_cons, List.length_singleton] at enough
    have items := readItems_joined plain each fuel [] rest (by omega)
    rw [chars_list, List.append_assoc, List.cons_append, List.singleton_append]
    rw [joined, List.cons_append] at items ⊢
    rw [readValue_items starts, items]
    rfl

theorem length_value_le (key : String) (item : Value) :
    (chars item).length ≤ (fieldChars (key, item)).length := by
  rw [fieldChars, List.length_append]
  exact Nat.le_add_left _ _

theorem new_of_distinct {before fields : Fields} {key : String} {item : Value}
    (distinct : ((before ++ (key, item) :: fields).map Prod.fst).Nodup) :
    key ∉ before.map Prod.fst := by
  rw [List.map_append, List.map_cons] at distinct
  intro member
  exact (List.nodup_append.mp distinct).2.2 key member key List.mem_cons_self rfl

/-- The fields of a table are read back to the brace behind them, if no key occurs twice. -/
theorem readFields_joined {field : String × Value} {fields : Fields}
    (plain : ∀ f ∈ field :: fields, f.2.isPlain = true)
    (each : ∀ f ∈ field :: fields, ReadsBack f.2) (fuel : Nat) (before : Fields)
    (rest : List Char) (distinct : ((before ++ field :: fields).map Prod.fst).Nodup)
    (enough : ([',', ' '].intercalate ((field :: fields).map fieldChars)).length + 1 < fuel) :
    readFields fuel before
        ([',', ' '].intercalate ((field :: fields).map fieldChars) ++ '\x7d' :: rest) =
      some (before ++ field :: fields, rest) := by
  obtain ⟨fuel, rfl⟩ := exists_succ enough
  -- no key read so far is the next one, so that its field is put behind the others
  induction fields generalizing field before fuel with
  | nil =>
    obtain ⟨key, item⟩ := field
    have itself : ReadsBack item := each (key, item) List.mem_cons_self
    obtain ⟨c, tail, first, starts⟩ := exists_chars (plain (key, item) List.mem_cons_self)
    rw [List.map_singleton, List.intercalate_singleton] at enough ⊢
    have length := length_value_le key item
    have read := itself fuel ('\x7d' :: rest) (by omega) (Text.halts_cons.mpr rfl)
    rw [first, List.cons_append] at read
    rw [fieldChars, first, List.append_assoc, List.cons_append, readFields_last starts read,
      set_of_new (new_of_distinct distinct)]
  | cons second fields ih =>
    obtain ⟨key, item⟩ := field
    have itself : ReadsBack item := each (key, item) List.mem_cons_self
    obtain ⟨plain, others⟩ := List.forall_mem_cons.mp plain
    obtain ⟨c, tail, first, starts⟩ := exists_chars plain
    obtain ⟨more, joined⟩ := exists_joined fieldChars second fields
      (show fieldChars second = '"' :: _ from rfl)
    rw [List.map_cons, List.map_cons, List.intercalate_cons_cons, ← List.map_cons] at enough ⊢
    rw [List.length_append, List.length_append, List.length_cons] at enough
    obtain ⟨fuel, rfl⟩ := exists_succ (show 0 < fuel by omega)
    have next := ih others (fun f member => each f (List.mem_cons_of_mem _ member))
      (before ++ [(key, item)]) (by rwa [List.append_assoc]) fuel (by omega)
    rw [joined, List.cons_append, List.append_assoc, List.singleton_append] at next
    have length := length_value_le key item
    have read := itself (fuel + 1) ([',', ' '] ++ '"' :: (more ++ '\x7d' :: rest)) (by omega)
      (Text.halts_cons.mpr rfl)
    rw [first, List.cons_append] at read
    have text : fieldChars (key, item) ++ [',', ' '] ++ '"' :: more ++ '\x7d' :: rest =
        quoted key ++ [':', ' '] ++
          c :: (tail ++ ([',', ' '] ++ '"' :: (more ++ '\x7d' :: rest))) := by
      simp [fieldChars, first]
    rw [joined, text, readFields_more starts read, set_of_new (new_of_distinct distinct), next]

theorem readsBack_table {fields : Fields} (distinct : (fields.map Prod.fst).Nodup)
    (plain : ∀ f ∈ fields, f.2.isPlain = true) (each : ∀ f ∈ fields, ReadsBack f.2) :
    ReadsBack (.table fields) := by
  intro fuel rest enough _
  obtain ⟨fuel, rfl⟩ := exists_succ enough
  cases fields with
  | nil => rfl
  | cons field fields =>
    obtain ⟨more, joined⟩ := exists_joined fieldChars field fields
      (show fieldChars field = '"' :: _ from rfl)
    rw [chars_table, List.length_append, List.length_cons, List.length_singleton] at enough
    have fields := readFields_joined plain each fuel [] rest distinct (by omega)
    rw [chars_table, List.append_assoc, List.cons_append, List.singleton_append]
    rw [joined, List.cons_append] at fields ⊢
    rw [readValue_fields, fields]
    rfl

/-! ## Whole values -/

/-- A value that JSON can hold is read back to its end. -/
theorem readsBack {v : Value} (plain : v.isPlain = true) : ReadsBack v := by
  induction v using Value.inductionOn with
  | null => exact readsBack_null
  | bool b => exact readsBack_bool b
  | number n => exact readsBack_number plain
  | text s => exact readsBack_text s
  | moment s => exact absurd plain Bool.false_ne_true
  | list items ih =>
    have each := Value.isPlain_list_iff.mp plain
    exact readsBack_list each fun v member => ih v member (each v member)
  | table fields ih =>
    obtain ⟨distinct, each⟩ := Value.isPlain_table_iff.mp plain
    exact readsBack_table distinct each fun f member => ih f member (each f member)

/-- A value that JSON can hold is read back from the line it is written on. -/
theorem read?_render {v : Value} (plain : v.isPlain = true) : read? (render v) = some v := by
  obtain ⟨c, tail, first, starts⟩ := exists_chars plain
  have blanks : skipBlanks (render v).toList = chars v := by
    change skipBlanks (chars v) = chars v
    rw [first, skipBlanks_value starts]
  have read := readsBack plain _ [] (Nat.lt_add_one _) Text.halts_nil
  rw [List.append_nil] at read
  simp only [read?]
  rw [blanks, read]
  rfl

end Json

end SiteAtlas
