import SiteAtlas.Proofs.Schema.ArgumentSearch
import SiteAtlas.Proofs.Schema.Attributes
import SiteAtlas.Proofs.Schema.Quotations
import SiteAtlas.Proofs.Text.Words
import SiteAtlas.Schema.Reader

/-! # What is inside quotes

The parts of a field's line are told apart in front of the first quote, but for the text in quotes
that a type such as `Unsupported("point")` has for an argument, which is a part of the type. So
other contents of a text in quotes leave the name and the marks of the field alone, and the type as
well, unless they are in it. An attribute is looked up in front of a text in quotes, inside it and
behind it alike: other contents leave alone what is known of an attribute that they do not mention.
-/

namespace SiteAtlas.Schema

open Text

/-! ## Looking for something without quotes -/

section Search

variable {name : List Char} (free : '"' ∉ name)
include free

theorem afterName?_append_quote (front behind : List Char) :
    afterName? name (front ++ '"' :: behind) =
      (afterName? name front).map (· ++ '"' :: behind) := by
  have goesOn_eq (text : List Char) : goesOn (text ++ '"' :: behind) = goesOn text := by
    cases text with
    | nil =>
      change (isWord '"' || '"' == '.') = false
      decide
    | cons c text => rfl
  rw [afterName?, afterName?, after?_append_stop free]
  cases after? name front with
  | none => rfl
  | some tail => cases longer : goesOn tail <;> simp [Option.filter, goesOn_eq, longer]

/-- An attribute is found in front of a quote or behind it. -/
theorem isSome_afterAttribute?_append_quote (before : Option Char) (front behind : List Char) :
    (afterAttribute? name before (front ++ '"' :: behind)).isSome =
      ((afterAttribute? name before front).isSome ||
        (afterAttribute? name (some '"') behind).isSome) := by
  induction front generalizing before with
  | nil =>
    rw [List.nil_append, afterAttribute?_skip (by decide)]
    rfl
  | cons c front ih =>
    rw [List.cons_append, afterAttribute?_cons, afterAttribute?_cons]
    by_cases starts : c = '@' ∧ before ≠ some '@'
    · rw [if_pos starts, if_pos starts, Option.isSome_or, Option.isSome_or, ih,
        afterName?_append_quote free, Option.isSome_map, Bool.or_assoc]
    · rw [if_neg starts, if_neg starts, ih]

end Search

/-- Whether the contents of a text in quotes have something in them that is taken for an attribute
of the field. -/
def mentions (called : String) (inside : List Char) : Bool :=
  (afterAttribute? called.toList (some '"') inside).isSome

/-- An attribute is taken from in front of a text in quotes, from inside it or from behind it. -/
theorem isSome_attributeArgs?_quotation {called : String} (free : '"' ∉ called.toList)
    (front inside behind : List Char) :
    (attributeArgs? called (front ++ '"' :: (inside ++ '"' :: behind))).isSome =
      ((attributeArgs? called front).isSome ||
        (mentions called inside || mentions called behind)) := by
  rw [attributeArgs?_eq, attributeArgs?_eq, Option.isSome_map, Option.isSome_map,
    isSome_afterAttribute?_append_quote free, isSome_afterAttribute?_append_quote free]
  rfl

/-! ## The words that a line begins with -/

/-- What follows the first word of a line and the blanks behind it. -/
def behindName (line : List Char) : List Char := trimLeft (line.dropWhile isWord)

/-- What follows the two words that the line of a field begins with. -/
def behindWords (line : List Char) : List Char := (behindName line).dropWhile isWord

/-- Whether a line does not begin with two words. -/
def lacksWords (line : List Char) : Bool :=
  (line.takeWhile isWord).isEmpty ||
    (behindName line).length = (line.dropWhile isWord).length ||
      ((behindName line).takeWhile isWord).isEmpty

/-- In front of what follows the words there is no quote. -/
theorem exists_words_eq (line : List Char) :
    ∃ words, '"' ∉ words ∧ line = words ++ behindWords line := by
  have noQuote {p : Char → Bool} (stops : p '"' = false) (text : List Char) :
      '"' ∉ text.takeWhile p := by
    intro member
    rw [List.mem_takeWhile_imp member] at stops
    cases stops
  refine ⟨line.takeWhile isWord ++ ((line.dropWhile isWord).takeWhile isBlank ++
    (behindName line).takeWhile isWord), ?_, ?_⟩
  · rw [List.mem_append, List.mem_append, not_or, not_or]
    exact ⟨noQuote (by decide) _, noQuote (by decide) _, noQuote (by decide) _⟩
  · rw [List.append_assoc, List.append_assoc, behindWords, List.takeWhile_append_dropWhile,
      behindName, trimLeft, List.takeWhile_append_dropWhile, List.takeWhile_append_dropWhile]

section Words

variable {front behind : List Char}

section Stop

variable {stop : Char} (noWord : isWord stop = false)
  (name : behindName (front ++ stop :: behind) = behindName front ++ stop :: behind)
include noWord name

/-- What follows the name goes on behind the words in front of it. -/
theorem behindWords_append_stop :
    behindWords (front ++ stop :: behind) = behindWords front ++ stop :: behind := by
  rw [behindWords, name, dropWhile_append_stop noWord]
  rfl

theorem lacksWords_append_stop : lacksWords (front ++ stop :: behind) = lacksWords front := by
  rw [lacksWords, name, takeWhile_append_stop noWord, takeWhile_append_stop noWord,
    dropWhile_append_stop noWord, List.length_append, List.length_append, lacksWords]
  simp only [Nat.add_right_cancel_iff]

end Stop

theorem behindName_append_quote :
    behindName (front ++ '"' :: behind) = behindName front ++ '"' :: behind := by
  rw [behindName, dropWhile_append_stop (by decide), trimLeft, dropWhile_append_stop (by decide)]
  rfl

end Words

/-! ## The marks behind the type -/

/-- The parts of a line in which `behind` follows the type. -/
def partsBehind (name type behind : List Char) : FieldLine :=
  let list := takeMark ['[', ']'] behind
  let optional := takeMark ['?'] list.2
  ⟨name, type, list.1, optional.1, optional.2⟩

/-- The parts of a line that goes on after its end. -/
def FieldLine.goingOn (parts : FieldLine) (more : List Char) : FieldLine :=
  { parts with rest := parts.rest ++ more }

section Marks

variable {stop : Char} (front behind : List Char)

theorem takeMark_append_stop {mark : List Char} (free : stop ∉ mark) :
    takeMark mark (front ++ stop :: behind) =
      ((takeMark mark front).1, (takeMark mark front).2 ++ stop :: behind) := by
  rw [takeMark, takeMark, after?_append_stop free]
  cases after? mark front <;> rfl

/-- The marks of a line are read in front of what is none of them. -/
theorem partsBehind_append_stop (noMark : stop ∉ ['[', ']', '?']) (name type : List Char) :
    partsBehind name type (front ++ stop :: behind) =
      (partsBehind name type front).goingOn (stop :: behind) := by
  have noBracket : stop ∉ ['[', ']'] := fun member => noMark (List.mem_append_left ['?'] member)
  have noQuestion : stop ∉ ['?'] := fun member =>
    noMark (List.mem_append_right ['[', ']'] member)
  rw [partsBehind, takeMark_append_stop front behind noBracket,
    takeMark_append_stop _ behind noQuestion]
  rfl

end Marks

/-! ## The type and its argument -/

/-- The type that begins with `word`, with the argument in quotes that it may have, and what
follows. -/
def typeAt (word behind : List Char) : List Char × List Char :=
  match typeArgument? behind with
  | some (argument, after) => (word ++ argument, after)
  | none => (word, behind)

theorem fieldLine?_eq (line : List Char) : fieldLine? line =
    if lacksWords line then none
    else
      let typed := typeAt ((behindName line).takeWhile isWord) (behindWords line)
      some (partsBehind (line.takeWhile isWord) typed.1 typed.2) := rfl

/-- The words of a line are read in front of what does not go on with one. -/
theorem fieldLine?_append_stop {stop : Char} {front behind : List Char}
    (noWord : isWord stop = false)
    (name : behindName (front ++ stop :: behind) = behindName front ++ stop :: behind) :
    fieldLine? (front ++ stop :: behind) =
      if lacksWords front then none
      else
        let typed := typeAt ((behindName front).takeWhile isWord)
          (behindWords front ++ stop :: behind)
        some (partsBehind (front.takeWhile isWord) typed.1 typed.2) := by
  rw [fieldLine?_eq, lacksWords_append_stop noWord name, takeWhile_append_stop noWord, name,
    takeWhile_append_stop noWord, behindWords_append_stop noWord name]

/-- Whether a quote behind a text begins what could be the argument of the type: all that follows
the words is the parenthesis that opens. -/
def OpensArgument (front : List Char) : Prop := behindWords front = ['(']

/-- A quote that follows something else than the parenthesis alone does not belong to the argument
of the type, where all quotes in front of it are closed. -/
theorem typeArgument?_append_quote {front : List Char} (behind : List Char)
    (other : front ≠ ['(']) (closes : ∀ inside, front = '(' :: '"' :: inside → '"' ∈ inside) :
    typeArgument? (front ++ '"' :: behind) =
      (typeArgument? front).map fun (argument, after) => (argument, after ++ '"' :: behind) := by
  fun_cases typeArgument? front with
  | case1 inside quoted after found =>
    have whole := upTo?_append_of_mem (closes inside rfl) ('"' :: behind)
    rw [List.cons_append, List.cons_append, typeArgument?, whole, found]
    rfl
  | case2 inside noParenthesis =>
    have whole := upTo?_append_of_mem (closes inside rfl) ('"' :: behind)
    rw [List.cons_append, List.cons_append, typeArgument?, whole]
    cases found : upTo? '"' inside with
    | none => rfl
    | some parts =>
      obtain ⟨quoted, after⟩ := parts
      cases after with
      | nil => rfl
      | cons d after =>
        have notClosing : d ≠ ')' := by
          rintro rfl
          exact noParenthesis quoted after found
        simp [notClosing]
  | case3 _ noQuote =>
    unfold typeArgument?
    split
    next inside same =>
      rcases front with - | ⟨c, - | ⟨d, rest⟩⟩
      · cases same
      · obtain ⟨rfl, -⟩ := List.cons.inj same
        exact absurd rfl other
      · simp only [List.cons_append, List.cons.injEq] at same
        obtain ⟨rfl, rfl, -⟩ := same
        exact absurd rfl (noQuote rest)
    next => rfl

theorem typeAt_append_quote {front : List Char} (word behind : List Char)
    (other : front ≠ ['(']) (closes : ∀ inside, front = '(' :: '"' :: inside → '"' ∈ inside) :
    typeAt word (front ++ '"' :: behind) =
      ((typeAt word front).1, (typeAt word front).2 ++ '"' :: behind) := by
  rw [typeAt, typeAt, typeArgument?_append_quote behind other closes]
  cases typeArgument? front <;> rfl

theorem typeArgument?_quotation {inside : List Char} (free : '"' ∉ inside) (behind : List Char) :
    typeArgument? ('(' :: '"' :: (inside ++ '"' :: behind)) =
      (after? [')'] behind).map fun after => ('(' :: '"' :: inside ++ ['"', ')'], after) := by
  rw [typeArgument?, upTo?_append free]
  cases behind with
  | nil => rfl
  | cons d behind =>
    rw [after?]
    by_cases closing : d = ')'
    · rw [closing]
      rfl
    · rw [if_neg (Ne.symm closing)]
      simp [closing]

/-! ## The parts of a line with a text in quotes -/

/-- A quote behind the argument that closed quotes begin closes it. -/
theorem quote_mem_of_closed {front inside : List Char} (closed : Closed (fun _ => True) none front)
    (argument : behindWords front = '(' :: '"' :: inside) : '"' ∈ inside := by
  obtain ⟨words, free, whole⟩ := exists_words_eq front
  rw [whole, argument, ← List.singleton_append, ← List.append_assoc] at closed
  exact closed.quote_mem (by simpa using free)

/-- Whether a text in quotes between `front` and `behind` is the argument of the type. -/
def IsTypeArgument (front behind : List Char) : Prop :=
  OpensArgument front ∧ behind.head? = some ')'

/-- A text in quotes follows all the parts of a line that are told apart, unless it is the argument
of the type. -/
theorem fieldLine?_quotation {front inside behind : List Char}
    (closed : Closed (fun _ => True) none front) (fits : OpensArgument front → '"' ∉ inside)
    (other : ¬ IsTypeArgument front behind) :
    fieldLine? (front ++ '"' :: (inside ++ '"' :: behind)) =
      (fieldLine? front).map (·.goingOn ('"' :: (inside ++ '"' :: behind))) := by
  have typed (word : List Char) :
      typeAt word (behindWords front ++ '"' :: (inside ++ '"' :: behind)) =
        ((typeAt word (behindWords front)).1,
          (typeAt word (behindWords front)).2 ++ '"' :: (inside ++ '"' :: behind)) := by
    by_cases opens : OpensArgument front
    · have noEnd : after? [')'] behind = none := by
        cases behind with
        | nil => rfl
        | cons d behind => exact if_neg fun closing => other ⟨opens, congrArg some closing.symm⟩
      rw [opens, typeAt, List.singleton_append, typeArgument?_quotation (fits opens), noEnd]
      rfl
    · exact typeAt_append_quote word _ opens fun _ => quote_mem_of_closed closed
  rw [fieldLine?_append_stop (by decide) behindName_append_quote, fieldLine?_eq]
  by_cases lacks : lacksWords front = true
  · rw [if_pos lacks, if_pos lacks]
    rfl
  · rw [if_neg lacks, if_neg lacks, typed]
    dsimp only
    rw [partsBehind_append_stop _ _ (by decide)]
    rfl

theorem fieldLine?_typeArgument {front inside behind : List Char} (free : '"' ∉ inside)
    (argument : IsTypeArgument front behind) :
    fieldLine? (front ++ '"' :: (inside ++ '"' :: behind)) =
      if lacksWords front then none
      else some (partsBehind (front.takeWhile isWord)
        ((behindName front).takeWhile isWord ++ ('(' :: '"' :: inside ++ ['"', ')']))
        behind.tail) := by
  obtain ⟨opens, closes⟩ := argument
  obtain ⟨after, rfl⟩ := List.head?_eq_some_iff.mp closes
  rw [fieldLine?_append_stop (by decide) behindName_append_quote, opens, typeAt,
    List.singleton_append, typeArgument?_quotation free]
  rfl

/-! ## Other contents -/

/-- Whether an attribute is found on the line of a field. -/
def showsAttribute (called : String) (line : List Char) : Bool :=
  (fieldLine? line).any fun parts => (attributeArgs? called parts.rest).isSome

/-- A line with a text in quotes between `front` and `behind`. -/
def quoting (front behind inside : List Char) : List Char :=
  front ++ '"' :: (inside ++ '"' :: behind)

/-- Behind the type, an attribute is found from outside a text in quotes and from inside alike. -/
theorem showsAttribute_quoting {front inside behind : List Char} {parts : FieldLine}
    {called : String} (free : '"' ∉ called.toList) (closed : Closed (fun _ => True) none front)
    (fits : OpensArgument front → '"' ∉ inside) (other : ¬ IsTypeArgument front behind)
    (line : fieldLine? front = some parts) :
    showsAttribute called (quoting front behind inside) =
      ((attributeArgs? called parts.rest).isSome ||
        (mentions called inside || mentions called behind)) := by
  rw [showsAttribute, quoting, fieldLine?_quotation closed fits other, line, Option.map_some,
    Option.any_some]
  exact isSome_attributeArgs?_quotation free _ _ _

section Replaced

variable (front behind old new : List Char)

/-- Whether other contents of a text in quotes do not matter to an attribute: they are not looked
through, the line shows the attribute with nothing in the quotes, or both contents mention it or
both do not. -/
def LeavesAttribute (called : String) : Prop :=
  IsTypeArgument front behind ∨ showsAttribute called (quoting front behind []) = true ∨
    mentions called old = mentions called new

/-- What the parts of two lines have in common that are the same but for the contents of one text in
quotes. -/
structure SameOutside (parts parts' : FieldLine) : Prop where
  name : parts'.name = parts.name
  isList : parts'.isList = parts.isList
  isOptional : parts'.isOptional = parts.isOptional
  type : ¬ IsTypeArgument front behind → parts'.type = parts.type
  argument : IsTypeArgument front behind → ∃ word,
    parts.type = word ++ ('(' :: '"' :: old ++ ['"', ')']) ∧
      parts'.type = word ++ ('(' :: '"' :: new ++ ['"', ')'])
  shows : ∀ {called : String}, '"' ∉ called.toList →
    ((attributeArgs? called parts'.rest).isSome = (attributeArgs? called parts.rest).isSome ↔
      LeavesAttribute front behind old new called)

variable {front behind old new}

theorem fieldLine?_replaced (closed : Closed (fun _ => True) none front)
    (fits : OpensArgument front → '"' ∉ old) (plain : '"' ∉ new) :
    Option.Rel (SameOutside front behind old new) (fieldLine? (quoting front behind old))
      (fieldLine? (quoting front behind new)) := by
  by_cases argument : IsTypeArgument front behind
  · rw [quoting, fieldLine?_typeArgument (fits argument.1) argument, quoting,
      fieldLine?_typeArgument plain argument]
    by_cases lacks : lacksWords front = true
    · rw [if_pos lacks, if_pos lacks]
      exact .none
    · rw [if_neg lacks, if_neg lacks]
      exact .some ⟨rfl, rfl, rfl, fun other => absurd argument other, fun _ => ⟨_, rfl, rfl⟩,
        fun _ => iff_of_true rfl (.inl argument)⟩
  · rw [quoting, fieldLine?_quotation closed fits argument, quoting,
      fieldLine?_quotation closed (fun _ => plain) argument]
    cases line : fieldLine? front with
    | none => exact .none
    | some parts =>
      refine .some ⟨rfl, rfl, rfl, fun _ => rfl, fun own => absurd own argument, ?_⟩
      intro called free
      change (attributeArgs? called (parts.rest ++ '"' :: (new ++ '"' :: behind))).isSome =
        (attributeArgs? called (parts.rest ++ '"' :: (old ++ '"' :: behind))).isSome ↔ _
      rw [isSome_attributeArgs?_quotation free, isSome_attributeArgs?_quotation free,
        LeavesAttribute, showsAttribute_quoting free closed (fun _ => List.not_mem_nil) argument
          line]
      -- Nothing is mentioned by empty quotes.
      change _ ↔ _ ∨ (_ || (false || _)) = true ∨ _
      generalize (attributeArgs? called parts.rest).isSome = inFront
      generalize mentions called behind = further
      cases inFront <;> cases further <;> simp [argument, eq_comm]

/-- What two fields agree on whose lines are the same but for the contents of one text in quotes. -/
structure AgreeOutside (front behind old new : List Char) (f f' : Field) : Prop where
  name : f'.name = f.name
  isList : f'.isList = f.isList
  isRequired : f'.isRequired = f.isRequired
  type : ¬ IsTypeArgument front behind → f'.type = f.type
  argument : IsTypeArgument front behind → ∃ word,
    f.type = String.ofList (word ++ ('(' :: '"' :: old ++ ['"', ')'])) ∧
      f'.type = String.ofList (word ++ ('(' :: '"' :: new ++ ['"', ')']))
  isId : f'.isId = f.isId ↔ LeavesAttribute front behind old new "id"
  isUnique : f'.isUnique = f.isUnique ↔ LeavesAttribute front behind old new "unique"
  isUpdatedAt : f'.isUpdatedAt = f.isUpdatedAt ↔ LeavesAttribute front behind old new "updatedAt"
  hasDefault : f'.default.isSome = f.default.isSome ↔
    LeavesAttribute front behind old new "default"

/-- Other contents of a text in quotes change neither the name of a field nor its marks. They change
its type only if they are the argument of the type. Each attribute is found as before exactly if the
contents leave it alone: one that nothing else on the line shows comes or goes with contents that
mention it. -/
theorem quoted_contents_replaced (closed : Closed (fun _ => True) none front)
    (fits : OpensArgument front → '"' ∉ old) (plain : '"' ∉ new) :
    Option.Rel (AgreeOutside front behind old new) (field? (quoting front behind old))
        (field? (quoting front behind new)) ∧
      (showsAttribute "relation" (quoting front behind new) =
          showsAttribute "relation" (quoting front behind old) ↔
        field? (quoting front behind old) = none ∨
          LeavesAttribute front behind old new "relation") := by
  have replaced : Option.Rel (SameOutside front behind old new) _ _ :=
    fieldLine?_replaced closed fits plain
  rw [field?, field?, showsAttribute, showsAttribute]
  generalize fieldLine? (quoting front behind old) = parts at replaced ⊢
  generalize fieldLine? (quoting front behind new) = parts' at replaced ⊢
  cases replaced with
  | none => exact ⟨.none, iff_of_true rfl (.inl rfl)⟩
  | some same =>
    refine ⟨.some ?_, (same.shows (by decide)).trans (by simp)⟩
    exact {
      name := congrArg String.ofList same.name
      isList := same.isList
      isRequired := congrArg (!·) same.isOptional
      type := fun other => congrArg String.ofList (same.type other)
      argument := fun own => by
        obtain ⟨word, was, is⟩ := same.argument own
        exact ⟨word, congrArg String.ofList was, congrArg String.ofList is⟩
      isId := same.shows (by decide)
      isUnique := same.shows (by decide)
      isUpdatedAt := same.shows (by decide)
      hasDefault := by
        have shown : _ ↔ LeavesAttribute front behind old new "default" := same.shows (by decide)
        simpa only [Option.isSome_map] using shown }

end Replaced

/-- The argument of a type is a part of the type, and other contents are another type. -/
example :
    let argument := quoting "a Unsupported(".toList ")?".toList
    (field? (argument "b".toList)).map (·.type) = some "Unsupported(\"b\")" ∧
      (field? (argument "c".toList)).map (·.type) = some "Unsupported(\"c\")" := by
  decide +kernel

/-- Addresses with an at sign in them for a default. -/
theorem quoted_contents_replaced_in_default :
    let front := "email String @default(".toList
    let behind := ") @map(\"mail\")".toList
    let old := "ann@lan".toList
    let new := "bob@idle.net".toList
    Closed (fun _ => True) none front ∧ (OpensArgument front → '"' ∉ old) ∧ '"' ∉ new ∧
    LeavesAttribute front behind old new "id" ∧
    (field? (quoting front behind old)).map (·.isId) = some false ∧
    Option.Rel (AgreeOutside front behind old new) (field? (quoting front behind old))
      (field? (quoting front behind new)) ∧
    showsAttribute "relation" (quoting front behind new) =
      showsAttribute "relation" (quoting front behind old) := by
  intro front behind old new
  have closed : Closed (fun _ => True) none front := closed_of_notMem (by decide)
  have fits : OpensArgument front → '"' ∉ old := fun _ => by decide
  have plain : '"' ∉ new := by decide
  have replaced : Option.Rel (AgreeOutside front behind old new) _ _ ∧ _ :=
    quoted_contents_replaced closed fits plain
  obtain ⟨agree, relation⟩ := replaced
  exact ⟨closed, fits, plain, .inr (.inr (by decide)), by decide +kernel, agree,
    relation.mpr (.inr (.inr (.inr (by decide))))⟩

/-- A default that reads like an attribute makes an id of a field, where another one does not. -/
theorem quoted_id_is_taken :
    let line := quoting "b String @default(".toList ")".toList
    (field? (line "x".toList)).map (·.isId) = some false ∧
      (field? (line "@id".toList)).map (·.isId) = some true := by
  decide +kernel

end SiteAtlas.Schema
