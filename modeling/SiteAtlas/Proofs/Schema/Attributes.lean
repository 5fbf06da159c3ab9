import SiteAtlas.Schema.Attribute
import SiteAtlas.Proofs.Text.Pieces
import SiteAtlas.Proofs.Text.Words

/-! # Looking up attributes

An attribute is written as its name behind an `@`, with its arguments in parentheses if it has any.
Looking up a name finds the first attribute of that name and none of a longer or shorter one, and
the parentheses give back what was put between them, whatever parentheses and quotes are inside.
-/

namespace SiteAtlas.Schema

open Text

/-! ## Between parentheses -/

/-- A text without backslashes whose quotes and parentheses are closed again. -/
inductive Balanced : List Char → Prop where
  | nil : Balanced []
  | plain {c : Char} {rest : List Char} : c ≠ '"' → c ≠ '(' → c ≠ ')' → c ≠ '\\' →
    Balanced rest → Balanced (c :: rest)
  | quoted {inside rest : List Char} : '"' ∉ inside → '\\' ∉ inside →
    Balanced rest → Balanced ('"' :: (inside ++ '"' :: rest))
  | parens {inside rest : List Char} : Balanced inside → Balanced rest →
    Balanced ('(' :: (inside ++ ')' :: rest))

section Steps

variable {before c : Char} {depth : Nat} (rest : List Char)

theorem insideParens_cons (before : Char) (quoted : Bool) (depth : Nat) (c : Char)
    (rest : List Char) : insideParens before quoted depth (c :: rest) =
      if c = '"' ∧ before ≠ '\\' then c :: insideParens c (!quoted) depth rest
      else if quoted then c :: insideParens c quoted depth rest
      else if c = '(' then c :: insideParens c quoted (depth + 1) rest
      else if c = ')' then
        match depth with
        | 0 => []
        | depth + 1 => c :: insideParens c quoted depth rest
      else c :: insideParens c quoted depth rest := rfl

theorem insideParens_quote (other : before ≠ '\\') (quoted : Bool) :
    insideParens before quoted depth ('"' :: rest) =
      '"' :: insideParens '"' (!quoted) depth rest := by
  rw [insideParens_cons, if_pos ⟨rfl, other⟩]

theorem insideParens_inQuotes (other : c ≠ '"') :
    insideParens before true depth (c :: rest) = c :: insideParens c true depth rest := by
  rw [insideParens_cons, if_neg (fun both => other both.1), if_pos rfl]

theorem insideParens_plain (notQuote : c ≠ '"') (notOpening : c ≠ '(') (notClosing : c ≠ ')') :
    insideParens before false depth (c :: rest) = c :: insideParens c false depth rest := by
  rw [insideParens_cons, if_neg (fun both => notQuote both.1), if_neg Bool.false_ne_true,
    if_neg notOpening, if_neg notClosing]

theorem insideParens_opening : insideParens before false depth ('(' :: rest) =
    '(' :: insideParens '(' false (depth + 1) rest := rfl

theorem insideParens_closing : insideParens before false (depth + 1) (')' :: rest) =
    ')' :: insideParens ')' false depth rest := rfl

theorem insideParens_end : insideParens before false 0 (')' :: rest) = [] := rfl

end Steps

/-- Text in quotes is passed through to the quote that closes it. -/
theorem insideParens_quoted {inside : List Char} (free : '"' ∉ inside) (plain : '\\' ∉ inside)
    {before : Char} (other : before ≠ '\\') (depth : Nat) (tail : List Char) :
    insideParens before true depth (inside ++ '"' :: tail) =
      inside ++ '"' :: insideParens '"' false depth tail := by
  induction inside generalizing before with
  | nil => exact insideParens_quote tail other true
  | cons c inside ih =>
    obtain ⟨notQuote, free⟩ := not_or.mp (mt List.mem_cons.mpr free)
    obtain ⟨notSlash, plain⟩ := not_or.mp (mt List.mem_cons.mpr plain)
    rw [List.cons_append, insideParens_inQuotes _ (Ne.symm notQuote),
      ih free plain (Ne.symm notSlash), List.cons_append]

/-- A balanced text is passed through at any depth. -/
theorem Balanced.exists_insideParens {body : List Char} (balanced : Balanced body) :
    ∀ before ≠ '\\', ∃ last ≠ '\\', ∀ depth tail, insideParens before false depth (body ++ tail) =
      body ++ insideParens last false depth tail := by
  induction balanced with
  | nil => exact fun before other => ⟨before, other, fun _ _ => rfl⟩
  | @plain c rest notQuote notOpening notClosing notSlash _ ih =>
    intro before other
    obtain ⟨last, isLast, passes⟩ := ih c notSlash
    refine ⟨last, isLast, fun depth tail => ?_⟩
    rw [List.cons_append, insideParens_plain _ notQuote notOpening notClosing, passes,
      List.cons_append]
  | @quoted inside rest free plain _ ih =>
    intro before other
    obtain ⟨last, isLast, passes⟩ := ih '"' (by decide)
    refine ⟨last, isLast, fun depth tail => ?_⟩
    rw [List.cons_append, List.append_assoc, List.cons_append, insideParens_quote _ other,
      Bool.not_false, insideParens_quoted free plain (by decide), passes, List.cons_append,
      List.append_assoc, List.cons_append]
  | @parens inside rest _ _ ih ih' =>
    intro before other
    obtain ⟨middle, isMiddle, passes⟩ := ih '(' (by decide)
    obtain ⟨last, isLast, passes'⟩ := ih' ')' (by decide)
    refine ⟨last, isLast, fun depth tail => ?_⟩
    rw [List.cons_append, List.append_assoc, List.cons_append, insideParens_opening, passes,
      insideParens_closing, passes', List.cons_append, List.append_assoc, List.cons_append]

/-- The parentheses give back what was put between them. -/
theorem Balanced.insideParens_eq {body : List Char} (balanced : Balanced body)
    (tail : List Char) : insideParens '(' false 0 (body ++ ')' :: tail) = body := by
  obtain ⟨last, -, passes⟩ := balanced.exists_insideParens '(' (by decide)
  rw [passes, insideParens_end, List.append_nil]

theorem Balanced.append {first second : List Char} (balanced : Balanced first)
    (balanced' : Balanced second) : Balanced (first ++ second) := by
  induction balanced with
  | nil => exact balanced'
  | plain notQuote notOpening notClosing notSlash _ ih =>
    exact .plain notQuote notOpening notClosing notSlash ih
  | quoted free plain _ ih =>
    rw [List.cons_append, List.append_assoc, List.cons_append]
    exact .quoted free plain ih
  | parens inside _ _ ih =>
    rw [List.cons_append, List.append_assoc, List.cons_append]
    exact .parens inside ih

/-! ## Names -/

/-- What follows a name at the very front, unless the name goes on there. -/
def afterName? (name text : List Char) : Option (List Char) :=
  (after? name text).filter (!goesOn ·)

/-- A name is told from every other one by what follows it. -/
theorem afterName?_word {name other tail : List Char} (word : ∀ c ∈ name, isWord c = true)
    (word' : ∀ c ∈ other, isWord c = true) (ends : goesOn tail = false) :
    afterName? name (other ++ tail) = if other = name then some tail else none := by
  induction name generalizing other with
  | nil =>
    cases other with
    | nil => simp [afterName?, after?, ends]
    | cons c other => simp [afterName?, after?, goesOn, word' c List.mem_cons_self]
  | cons s name ih =>
    cases other with
    | nil =>
      cases tail with
      | nil => simp [afterName?, after?]
      | cons c tail =>
        have differ : s ≠ c := by
          rintro rfl
          simp [goesOn, word s List.mem_cons_self] at ends
        simp [afterName?, after?, differ]
    | cons c other =>
      by_cases same : s = c
      · subst same
        have rest := ih (fun d member => word d (List.mem_cons_of_mem _ member))
          (fun d member => word' d (List.mem_cons_of_mem _ member))
        simpa [afterName?, after?] using rest
      · simp [afterName?, after?, same, Ne.symm same]

section Lookup

variable {name : List Char}

theorem afterAttribute?_cons (before : Option Char) (c : Char) (rest : List Char) :
    afterAttribute? name before (c :: rest) =
      if c = '@' ∧ before ≠ some '@' then
        (afterName? name rest).or (afterAttribute? name (some c) rest)
      else afterAttribute? name (some c) rest := by
  rw [afterAttribute?, afterName?]
  by_cases starts : c = '@' ∧ before ≠ some '@'
  · rw [if_pos starts, if_pos starts]
    cases after? name rest with
    | none => rfl
    | some tail => cases longer : goesOn tail <;> simp [Option.filter, longer]
  · rw [if_neg starts, if_neg starts]

theorem afterAttribute?_skip {c : Char} (other : c ≠ '@') (before : Option Char)
    (rest : List Char) : afterAttribute? name before (c :: rest) =
      afterAttribute? name (some c) rest := by
  rw [afterAttribute?_cons, if_neg (fun starts => other starts.1)]

/-- A text without `@` is passed over up to its last character. -/
theorem afterAttribute?_append {piece : List Char} (free : '@' ∉ piece) (before : Option Char)
    (rest : List Char) : afterAttribute? name before (piece ++ rest) =
      afterAttribute? name (piece.getLast?.or before) rest := by
  induction piece generalizing before with
  | nil => rfl
  | cons c piece ih =>
    obtain ⟨other, free⟩ := not_or.mp (mt List.mem_cons.mpr free)
    rw [List.cons_append, afterAttribute?_skip (Ne.symm other), ih free, List.getLast?_cons]
    cases piece.getLast? <;> rfl

theorem exists_afterAttribute?_append {piece : List Char} (free : '@' ∉ piece)
    (before : Option Char) : ∃ last, ∀ rest, afterAttribute? name before (piece ++ rest) =
      afterAttribute? name last rest :=
  ⟨_, afterAttribute?_append free before⟩

theorem afterAttribute?_eq_none {text : List Char} (free : '@' ∉ text) (before : Option Char) :
    afterAttribute? name before text = none := by
  obtain ⟨last, passes⟩ := exists_afterAttribute?_append free before
  have whole := passes []
  rwa [List.append_nil] at whole

/-- An attribute is found if it has the name that is looked up, and otherwise passed over. -/
theorem afterAttribute?_at {other tail : List Char} (word : ∀ c ∈ name, isWord c = true)
    (word' : ∀ c ∈ other, isWord c = true) (ends : goesOn tail = false) {before : Option Char}
    (alone : before ≠ some '@') : afterAttribute? name before ('@' :: (other ++ tail)) =
      if other = name then some tail else afterAttribute? name (some '@') (other ++ tail) := by
  rw [afterAttribute?_cons, if_pos ⟨rfl, alone⟩, afterName?_word word word' ends]
  split_ifs <;> rfl

end Lookup

/-! ## Written attributes -/

/-- The arguments of an attribute as they are written: in parentheses, if there are any. -/
def inParens (arguments : List Char) : List Char :=
  if arguments = [] then [] else '(' :: (arguments ++ [')'])

/-- An attribute as it is written, without its `@`. -/
def writtenAttribute (name arguments : List Char) : List Char := name ++ inParens arguments

/-- What can be written as the arguments of an attribute without being mistaken for anything
else. -/
structure IsArguments (arguments : List Char) : Prop where
  balanced : Balanced arguments
  free : '@' ∉ arguments
  first : Halts isBlank arguments
  last : Halts isBlank arguments.reverse

/-- What can follow an attribute: nothing, or a blank. -/
def Ends (tail : List Char) : Prop := ∀ c ∈ tail.head?, isBlank c = true

theorem Ends.goesOn_eq {tail : List Char} (ends : Ends tail) : goesOn tail = false := by
  cases tail with
  | nil => rfl
  | cons c tail =>
    have blank : isBlank c = true := ends c rfl
    have noWord : isWord c = false := isWord_of_isBlank blank
    have noDot : c ≠ '.' := by
      rintro rfl
      exact absurd blank (by decide)
    simp [goesOn, noWord, noDot]

/-- The arguments that stand at the front of what follows the name of an attribute. -/
def argumentsAt (tail : List Char) : List Char :=
  match tail with
  | '(' :: rest => trim (insideParens '(' false 0 rest)
  | _ => []

theorem attributeArgs?_eq (name : String) (text : List Char) :
    attributeArgs? name text = (afterAttribute? name.toList none text).map argumentsAt := rfl

section Written

variable {name other arguments tail : List Char}

theorem goesOn_inParens (ends : Ends tail) : goesOn (inParens arguments ++ tail) = false := by
  unfold inParens
  split_ifs
  · exact ends.goesOn_eq
  · rfl

theorem argumentsAt_inParens (isArguments : IsArguments arguments) (ends : Ends tail) :
    argumentsAt (inParens arguments ++ tail) = arguments := by
  unfold inParens
  by_cases bare : arguments = []
  · rw [if_pos bare, List.nil_append, bare, argumentsAt]
    rintro rest rfl
    exact absurd (ends '(' rfl) (by decide)
  · rw [if_neg bare, List.cons_append, List.append_assoc, List.singleton_append, argumentsAt,
      isArguments.balanced.insideParens_eq, trim_of_halts isArguments.first isArguments.last]

theorem notMem_written (word : ∀ c ∈ name, isWord c = true) (isArguments : IsArguments arguments) :
    '@' ∉ writtenAttribute name arguments := by
  have inName : '@' ∉ name := fun member => absurd (word '@' member) (by decide)
  unfold writtenAttribute inParens
  split_ifs <;> simp [inName, isArguments.free]

/-- A written attribute is found by its name, and passed over for every other one. -/
theorem afterAttribute?_written (word : ∀ c ∈ name, isWord c = true)
    (word' : ∀ c ∈ other, isWord c = true) (isArguments : IsArguments arguments)
    (ends : Ends tail) {before : Option Char} (alone : before ≠ some '@') :
    ∃ last, (afterAttribute? name before ('@' :: (writtenAttribute other arguments ++ tail))).map
      argumentsAt = if other = name then some arguments else
        (afterAttribute? name last tail).map argumentsAt := by
  obtain ⟨last, passes⟩ := @exists_afterAttribute?_append name _
    (notMem_written word' isArguments) (some '@')
  refine ⟨last, ?_⟩
  rw [← passes, writtenAttribute, List.append_assoc,
    afterAttribute?_at word word' (goesOn_inParens ends) alone]
  split_ifs
  · rw [Option.map_some, argumentsAt_inParens isArguments ends]
  · rfl

end Written

/-- The attributes of a line as they are written, each behind a space. -/
def writtenAttributes (attributes : List (List Char × List Char)) : List Char :=
  attributes.flatMap fun (name, arguments) => ' ' :: '@' :: writtenAttribute name arguments

theorem ends_writtenAttributes (attributes : List (List Char × List Char)) :
    Ends (writtenAttributes attributes) := by
  intro c first
  cases attributes with
  | nil => cases first
  | cons a rest =>
    obtain rfl : ' ' = c := Option.some.inj first
    decide

/-- In a line of attributes the first one of a name is looked up, whatever the others are. -/
theorem attributeArgs?_writtenAttributes {attributes : List (List Char × List Char)}
    (names : ∀ a ∈ attributes, ∀ c ∈ a.1, isWord c = true)
    (arguments : ∀ a ∈ attributes, IsArguments a.2) {name : String}
    (word : ∀ c ∈ name.toList, isWord c = true) :
    attributeArgs? name (writtenAttributes attributes) =
      (attributes.find? (·.1 = name.toList)).map (·.2) := by
  have from_any (before : Option Char) :
      (afterAttribute? name.toList before (writtenAttributes attributes)).map argumentsAt =
        (attributes.find? (·.1 = name.toList)).map (·.2) := by
    induction attributes generalizing before with
    | nil => rfl
    | cons a rest ih =>
      obtain ⟨hereName, names⟩ := List.forall_mem_cons.mp names
      obtain ⟨hereArguments, arguments⟩ := List.forall_mem_cons.mp arguments
      have space : some ' ' ≠ some '@' := by decide
      obtain ⟨last, found⟩ := afterAttribute?_written word hereName hereArguments
        (ends_writtenAttributes rest) space
      have line : writtenAttributes (a :: rest) =
          ' ' :: '@' :: (writtenAttribute a.1 a.2 ++ writtenAttributes rest) := rfl
      rw [line, afterAttribute?_skip (by decide), found, ih names arguments]
      by_cases same : a.1 = name.toList
      · rw [if_pos same, List.find?_cons_of_pos (by simpa using same), Option.map_some]
      · rw [if_neg same, List.find?_cons_of_neg (by simpa using same)]
  exact from_any none

/-- An attribute of a whole block is looked up by its name with the second `@` in front. -/
theorem attributeArgs?_block {name other arguments : List Char} {called : String}
    (isName : called.toList = '@' :: name) (word : ∀ c ∈ name, isWord c = true)
    (word' : ∀ c ∈ other, isWord c = true) (isArguments : IsArguments arguments) :
    attributeArgs? called ('@' :: '@' :: writtenAttribute other arguments) =
      if other = name then some arguments else none := by
  have ends : Ends [] := fun _ first => by cases first
  have front : afterName? ('@' :: name) ('@' :: writtenAttribute other arguments) =
      afterName? name (other ++ (inParens arguments ++ [])) := by
    rw [List.append_nil]
    exact congrArg (Option.filter _) (if_pos rfl)
  have behind : afterAttribute? ('@' :: name) (some '@')
      ('@' :: writtenAttribute other arguments) = none := by
    rw [afterAttribute?_cons, if_neg (fun starts => starts.2 rfl),
      afterAttribute?_eq_none (notMem_written word' isArguments)]
  rw [attributeArgs?_eq, isName, afterAttribute?_cons, if_pos ⟨rfl, by decide⟩, front, behind,
    afterName?_word word word' (goesOn_inParens ends), Option.or_none]
  split_ifs
  · rw [Option.map_some, argumentsAt_inParens isArguments ends]
  · rfl

end SiteAtlas.Schema
