import SiteAtlas.Proofs.Schema.Arguments

/-! # Looking up arguments

A search for a key runs over the text of all arguments. It finds the first one behind that key, and
never starts inside another one: no key ends with another key, and nothing but a key stands before a
colon.
-/

namespace SiteAtlas.Schema

open Text

/-! ## Reading what stands at the front -/

/-- Whether a mark stands at the very front, and what follows it. -/
def takeMark (mark text : List Char) : Bool × List Char :=
  match after? mark text with
  | some after => (true, after)
  | none => (false, text)

theorem upTo?_append {closing : Char} {inside : List Char} (free : closing ∉ inside)
    (rest : List Char) : upTo? closing (inside ++ closing :: rest) = some (inside, rest) := by
  induction inside with
  | nil => exact if_pos rfl
  | cons c inside ih =>
    obtain ⟨other, free⟩ := not_or.mp (mt List.mem_cons.mpr free)
    rw [List.cons_append, upTo?, if_neg (Ne.symm other), ih free]
    rfl

theorem upTo?_append_of_mem {closing : Char} {inside : List Char} (closes : closing ∈ inside)
    (rest : List Char) : upTo? closing (inside ++ rest) =
      (upTo? closing inside).map fun (found, after) => (found, after ++ rest) := by
  induction inside with
  | nil => cases closes
  | cons c inside ih =>
    rw [List.cons_append, upTo?, upTo?]
    by_cases here : c = closing
    · rw [if_pos here, if_pos here]
      rfl
    · rw [if_neg here, if_neg here, ih ((List.mem_cons.mp closes).resolve_left (Ne.symm here)),
        Option.map_map, Option.map_map]
      rfl

theorem quoted?_append (w : Word) (rest : List Char) :
    quoted? ((ArgumentValue.quoted w).chars ++ rest) = some w.chars := by
  rw [ArgumentValue.chars, List.cons_append, List.append_assoc, quoted?, List.singleton_append,
    upTo?_append (w.notMem (by decide))]
  rfl

theorem bracketed?_append (ws : List Word) (rest : List Char) :
    bracketed? ((ArgumentValue.names ws).chars ++ rest) = some (joined (ws.map Word.chars)) := by
  have free : ']' ∉ joined (ws.map Word.chars) :=
    (onlyMarks_names ws).notMem (by decide) (by decide)
  rw [ArgumentValue.chars, List.cons_append, List.append_assoc, bracketed?, List.singleton_append,
    upTo?_append free]
  rfl

theorem quoted?_eq_none {c : Char} (other : c ≠ '"') (rest : List Char) :
    quoted? (c :: rest) = none := by
  unfold quoted?
  split
  next inside same => exact absurd (List.cons.inj same).1 other
  next => rfl

theorem bracketed?_eq_none {c : Char} (other : c ≠ '[') (rest : List Char) :
    bracketed? (c :: rest) = none := by
  unfold bracketed?
  split
  next inside same => exact absurd (List.cons.inj same).1 other
  next => rfl

/-- Between commas every name but the first is behind a space. -/
theorem joined_cons (first : List Char) (rest : List (List Char)) :
    joined (first :: rest) = [','].intercalate (first :: rest.map (' ' :: ·)) := by
  induction rest generalizing first with
  | nil => rfl
  | cons second rest ih =>
    rw [joined, List.intercalate_cons_cons, ← joined, ih, List.map_cons,
      List.intercalate_cons_cons, List.intercalate_cons_cons_left, List.append_assoc,
      List.append_assoc]
    rfl

theorem dropParens_of_notMem {item : List Char} (free : '(' ∉ item) : dropParens item = item := by
  have none : item.dropWhile (· != '(') = [] := by
    refine List.dropWhile_eq_nil_iff.mpr fun c member => ?_
    have other : c ≠ '(' := fun same => free (same ▸ member)
    simpa using other
  rw [dropParens, none]
  rfl

/-- The name that an item of a list of names stands for. -/
def nameIn? (item : List Char) : Option String :=
  let name := trim (dropParens item)
  if name.isEmpty then none else some (String.ofList name)

theorem fieldNames_eq (inside : List Char) :
    fieldNames inside = (inside.splitOn ',').filterMap nameIn? := List.filterMap_map

theorem nameIn?_word (w : Word) : nameIn? w.chars = some w.text := by
  rw [nameIn?, dropParens_of_notMem (w.notMem (by decide)), w.trim_chars]
  exact if_neg (by simpa using w.filled)

theorem nameIn?_space (w : Word) : nameIn? (' ' :: w.chars) = some w.text := by
  have free : '(' ∉ ' ' :: w.chars := by simpa using w.notMem (by decide)
  rw [← nameIn?_word, nameIn?, nameIn?, dropParens_of_notMem free, trim, trimLeft_space, ← trim,
    dropParens_of_notMem (w.notMem (by decide))]

/-- A list of names is read back name by name. -/
theorem fieldNames_joined (ws : List Word) :
    fieldNames (joined (ws.map Word.chars)) = ws.map Word.text := by
  cases ws with
  | nil => decide
  | cons first rest =>
    have free : ∀ piece ∈ first.chars :: (rest.map Word.chars).map (' ' :: ·), ',' ∉ piece := by
      refine List.forall_mem_cons.mpr ⟨first.notMem (by decide), fun piece member => ?_⟩
      obtain ⟨w, -, rfl⟩ : ∃ w ∈ rest, ' ' :: w.chars = piece := by simpa using member
      simpa using w.notMem (by decide)
    rw [fieldNames_eq, List.map_cons, joined_cons,
      List.splitOn_intercalate _ free (List.cons_ne_nil _ _),
      List.filterMap_cons_some (nameIn?_word first), List.filterMap_map, List.filterMap_map,
      show (nameIn? ∘ (' ' :: ·)) ∘ Word.chars = some ∘ Word.text from funext nameIn?_space,
      List.filterMap_eq_map, List.map_cons]

/-! ## Searching for a key -/

/-- The characters that can stand between the start of a key and its colon. -/
def isWordOrBlank (c : Char) : Bool := isWord c || isBlank c

/-- Whether a colon comes next behind words and blanks, as it does at a key. -/
def colonAhead (text : List Char) : Bool := (text.dropWhile isWordOrBlank).head? == some ':'

theorem colonAhead_append {piece rest : List Char} (free : ':' ∉ piece)
    (closed : colonAhead rest = false) : colonAhead (piece ++ rest) = false := by
  induction piece with
  | nil => exact closed
  | cons c piece ih =>
    obtain ⟨other, free⟩ := not_or.mp (mt List.mem_cons.mpr free)
    by_cases passed : isWordOrBlank c = true
    · rw [colonAhead, List.cons_append, List.dropWhile_cons_of_pos passed]
      exact ih free
    · rw [colonAhead, List.cons_append, List.dropWhile_cons_of_neg passed, List.head?_cons]
      simpa using Ne.symm other

section AfterKey

variable {key : Key}

theorem colonAhead_of_afterKey? {text value : List Char}
    (found : afterKey? key.text text = some value) : colonAhead text = true := by
  unfold afterKey? at found
  split at found
  · cases found
  next rest behind =>
    split at found
    next value' colon =>
      have blanks : ∀ c ∈ rest.takeWhile isBlank, isWordOrBlank c = true :=
        fun c member => by simp [isWordOrBlank, List.mem_takeWhile_imp member]
      have words : ∀ c ∈ key.text.toList, isWordOrBlank c = true :=
        fun c member => by simp [isWordOrBlank, key.word c member]
      have cut : rest = rest.takeWhile isBlank ++ ':' :: value' := by
        rw [← colon, trimLeft, List.takeWhile_append_dropWhile]
      rw [after?_eq_some_iff.mp behind, cut, colonAhead, List.dropWhile_append_of_pos words,
        List.dropWhile_append_of_pos blanks, List.dropWhile_cons_of_neg (by decide)]
      rfl
    next => cases found

theorem afterKey?_eq_none {text : List Char} (closed : colonAhead text = false) :
    afterKey? key.text text = none := by
  cases found : afterKey? key.text text with
  | none => rfl
  | some value =>
    rw [colonAhead_of_afterKey? found] at closed
    cases closed

/-- A key is told from every other word before a colon. -/
theorem afterKey?_colon {word : List Char} (isWords : ∀ c ∈ word, isWord c = true)
    (tail : List Char) : afterKey? key.text (word ++ ':' :: tail) =
      if word = key.text.toList then some (trimLeft tail) else none := by
  have noColon : ':' ∉ key.text.toList := fun member => absurd (key.word _ member) (by decide)
  split_ifs with same
  · subst same
    rw [afterKey?, after?_eq_some_iff.mpr rfl]
    rfl
  · cases behind : after? key.text.toList (word ++ ':' :: tail) with
    | none => rw [afterKey?, behind]
    | some rest =>
      -- The key stands at the front of a longer word, so that no colon follows it.
      obtain ⟨c, more, rfl, rfl⟩ : ∃ c more,
          word = key.text.toList ++ c :: more ∧ rest = c :: (more ++ ':' :: tail) := by
        rcases List.append_eq_append_iff.mp (after?_eq_some_iff.mp behind) with
          ⟨more, isKey, colon⟩ | ⟨more, isWord, isRest⟩
        · cases more with
          | nil => exact absurd (isKey.trans (List.append_nil _)).symm same
          | cons c more =>
            obtain rfl : ':' = c := (List.cons.inj colon).1
            exact absurd (isKey ▸ List.mem_append_right _ List.mem_cons_self) noColon
        · cases more with
          | nil => exact absurd (isWord.trans (List.append_nil _)) same
          | cons c more => exact ⟨c, more, isWord, isRest⟩
      have isWordC : isWord c = true :=
        isWords c (List.mem_append_right _ List.mem_cons_self)
      have differ : c ≠ ':' := by
        rintro rfl
        exact absurd isWordC (by decide)
      rw [afterKey?, behind]
      dsimp only
      rw [trimLeft_of_halts (halts_cons.mpr (isBlank_of_isWord isWordC))]
      split
      next same => exact absurd (List.cons.inj same).1 differ
      next => rfl

end AfterKey

section Search

variable {β : Type} (key : Key) (read : List Char → Option β)

/-- What is read behind a key, at the first place where something is. -/
def keyed? (text : List Char) : Option β :=
  findMap? (fun text => (afterKey? key.text text).bind read) text

theorem keyed?_cons {c : Char} {rest : List Char}
    (closed : afterKey? key.text (c :: rest) = none) :
    keyed? key read (c :: rest) = keyed? key read rest := by
  rw [keyed?, findMap?, closed]
  rfl

/-- A text without colons is passed over. -/
theorem keyed?_append {piece rest : List Char} (free : ':' ∉ piece)
    (closed : colonAhead rest = false) :
    keyed? key read (piece ++ rest) = keyed? key read rest := by
  induction piece with
  | nil => rfl
  | cons c piece ih =>
    have here : afterKey? key.text (c :: (piece ++ rest)) = none :=
      afterKey?_eq_none (@colonAhead_append (c :: piece) rest free closed)
    rw [List.cons_append, keyed?_cons key read here]
    exact ih (not_or.mp (mt List.mem_cons.mpr free)).2

/-- A word that does not end with the key is passed over. -/
theorem keyed?_word {word : List Char} (isWords : ∀ c ∈ word, isWord c = true)
    (other : ¬ key.text.toList <:+ word) (tail : List Char) :
    keyed? key read (word ++ ':' :: tail) = keyed? key read tail := by
  have here (word : List Char) (isWords : ∀ c ∈ word, isWord c = true)
      (other : ¬ key.text.toList <:+ word) : afterKey? key.text (word ++ ':' :: tail) = none := by
    rw [afterKey?_colon isWords, if_neg]
    rintro rfl
    exact other (List.suffix_refl _)
  induction word with
  | nil => exact keyed?_cons key read (here [] isWords other)
  | cons c word ih =>
    have first : afterKey? key.text (c :: (word ++ ':' :: tail)) = none :=
      here (c :: word) isWords other
    rw [List.cons_append, keyed?_cons key read first]
    exact ih (fun d member => isWords d (List.mem_cons_of_mem _ member))
      (fun ends => other (ends.trans (List.suffix_cons _ _)))

/-- Behind the key the value is read, and where that fails the search goes on. -/
theorem keyed?_key (tail : List Char) : keyed? key read (key.text.toList ++ ':' :: tail) =
    (read (trimLeft tail)).or (keyed? key read tail) := by
  have here : afterKey? key.text (key.text.toList ++ ':' :: tail) = some (trimLeft tail) := by
    rw [afterKey?_colon key.word, if_pos rfl]
  obtain ⟨c, word, isKey⟩ := List.exists_cons_of_ne_nil key.filled
  have shorter : ¬ key.text.toList <:+ word := fun ends => by
    have lengths := ends.length_le
    rw [isKey, List.length_cons] at lengths
    omega
  have behind := keyed?_word key read
    (fun d member => key.word d (isKey ▸ List.mem_cons_of_mem c member)) shorter tail
  rw [isKey, List.cons_append] at here
  rw [isKey, List.cons_append, ← behind, keyed?, findMap?, here, Option.bind_some]
  cases read (trimLeft tail) <;> rfl

theorem keyed?_mark {c : Char} (mark : isWord c = false) (rest : List Char) :
    keyed? key read (c :: rest) = keyed? key read rest := by
  obtain ⟨first, word, isKey⟩ := List.exists_cons_of_ne_nil key.filled
  have differ : first ≠ c := by
    rintro rfl
    exact absurd (key.word first (isKey ▸ List.mem_cons_self)) (by simp [mark])
  refine keyed?_cons key read ?_
  rw [afterKey?, isKey, after?, if_neg differ]

/-- What can stand behind an argument: nothing, or a comma. -/
def EndsArgument (rest : List Char) : Prop := ∀ c ∈ rest.head?, c = ','

theorem EndsArgument.colonAhead_eq {rest : List Char} (ends : EndsArgument rest) :
    colonAhead rest = false := by
  cases rest with
  | nil => rfl
  | cons c rest =>
    obtain rfl := ends c rfl
    rw [colonAhead, List.dropWhile_cons_of_neg (by decide)]
    rfl

/-- One argument is read if it stands behind the key, and otherwise passed over. -/
theorem keyed?_argument (a : Argument) {rest : List Char} (ends : EndsArgument rest) :
    keyed? key read (a.chars ++ rest) =
      (if a.key = some key then read (a.value.chars ++ rest) else none).or
        (keyed? key read rest) := by
  have free : ':' ∉ a.value.chars := a.value.onlyMarks.notMem (by decide) (by decide)
  have value : keyed? key read (' ' :: (a.value.chars ++ rest)) = keyed? key read rest := by
    rw [keyed?_mark key read (by decide), keyed?_append key read free ends.colonAhead_eq]
  obtain ⟨givenKey, given⟩ := a
  cases givenKey with
  | none => exact keyed?_append key read free ends.colonAhead_eq
  | some other =>
    have start : Halts isBlank (given.chars ++ rest) := by
      obtain ⟨c, chars, same⟩ := List.exists_cons_of_ne_nil given.filled
      have halts : Halts isBlank given.chars := (Argument.mk none given).halts
      rw [same] at halts ⊢
      exact halts_cons.mpr (halts_cons.mp halts)
    have line : Argument.chars ⟨some other, given⟩ ++ rest =
        other.text.toList ++ ':' :: ' ' :: (given.chars ++ rest) := List.append_assoc _ _ _
    rw [line]
    by_cases same : other = key
    · subst same
      rw [keyed?_key, trimLeft_space, trimLeft_of_halts start, value, if_pos rfl]
    · have apart : ¬ key.text.toList <:+ other.text.toList :=
        fun ends => same (Key.eq_of_isSuffix ends).symm
      rw [keyed?_word key read other.word apart, value, if_neg (by simpa using same),
        Option.none_or]

/-- What the first argument behind a key gives, if it gives anything. -/
def argument? {γ : Type} (get : ArgumentValue → Option γ) (arguments : List Argument) : Option γ :=
  arguments.findSome? fun a => if a.key = some key then get a.value else none

/-- The search over the text of all arguments finds what the arguments themselves give. -/
theorem map_keyed?_argumentsText {γ : Type} {f : β → γ} {get : ArgumentValue → Option γ}
    (reads : ∀ value rest, EndsArgument rest → (read (value.chars ++ rest)).map f = get value)
    (arguments : List Argument) :
    (keyed? key read (argumentsText arguments)).map f = argument? key get arguments := by
  have done : keyed? key read [] = none := by
    rw [keyed?, findMap?, afterKey?_eq_none rfl]
    rfl
  have first (a : Argument) {rest : List Char} (ends : EndsArgument rest) :
      (keyed? key read (a.chars ++ rest)).map f =
        (if a.key = some key then get a.value else none).or ((keyed? key read rest).map f) := by
    rw [keyed?_argument key read a ends, Option.map_or, apply_ite (Option.map f),
      reads a.value rest ends, Option.map_none]
  induction arguments with
  | nil =>
    rw [argumentsText, List.map_nil, joined, List.intercalate_nil, done]
    rfl
  | cons a arguments ih =>
    have found : argument? key get (a :: arguments) =
        (if a.key = some key then get a.value else none).or (argument? key get arguments) := by
      rw [argument?, List.findSome?_cons]
      cases if a.key = some key then get a.value else none <;> rfl
    rw [found]
    cases arguments with
    | nil =>
      have only := @first a [] (fun _ member => by cases member)
      rw [List.append_nil, done] at only
      rw [argumentsText, List.map_singleton, joined, List.intercalate_singleton, only]
      rfl
    | cons b arguments =>
      have line : argumentsText (a :: b :: arguments) =
          a.chars ++ ',' :: ' ' :: argumentsText (b :: arguments) := by
        rw [argumentsText, List.map_cons, List.map_cons, joined, List.intercalate_cons_cons,
          List.append_assoc]
        rfl
      have ends : EndsArgument (',' :: ' ' :: argumentsText (b :: arguments)) :=
        fun c member => (Option.some.inj member).symm
      rw [line, first a ends, keyed?_mark key read (by decide), keyed?_mark key read (by decide),
        ih]

end Search

/-! ## The arguments that are looked up -/

/-- The names of a list. -/
def ArgumentValue.names? : ArgumentValue → Option (List String)
  | .names ws => some (ws.map Word.text)
  | _ => none

/-- The word in quotes. -/
def ArgumentValue.quoted? : ArgumentValue → Option String
  | .quoted w => some w.text
  | _ => none

/-- The word that a value begins with. -/
def ArgumentValue.word? : ArgumentValue → Option String
  | .word w | .call w => some w.text
  | _ => none

section Looked

variable (key : Key) (arguments : List Argument)

theorem map_bracketed?_append (value : ArgumentValue) (rest : List Char) :
    (bracketed? (value.chars ++ rest)).map fieldNames = value.names? := by
  cases value with
  | names ws => rw [bracketed?_append, Option.map_some, fieldNames_joined, ArgumentValue.names?]
  | quoted w => rfl
  | word w | call w =>
    obtain ⟨c, chars, same, word⟩ := w.exists_cons
    have other : c ≠ '[' := by
      rintro rfl
      exact absurd word (by decide)
    simp [ArgumentValue.chars, same, bracketed?_eq_none other, ArgumentValue.names?]

theorem map_quoted?_append (value : ArgumentValue) (rest : List Char) :
    (quoted? (value.chars ++ rest)).map String.ofList = value.quoted? := by
  cases value with
  | quoted w => rw [quoted?_append, Option.map_some, ArgumentValue.quoted?, Word.text]
  | names ws => rfl
  | word w | call w =>
    obtain ⟨c, chars, same, word⟩ := w.exists_cons
    have other : c ≠ '"' := by
      rintro rfl
      exact absurd word (by decide)
    simp [ArgumentValue.chars, same, quoted?_eq_none other, ArgumentValue.quoted?]

/-- A word at the very front. -/
def word? (text : List Char) : Option (List Char) :=
  let word := text.takeWhile isWord
  if word.isEmpty then none else some word

theorem word?_append (w : Word) {rest : List Char} (halts : Halts isWord rest) :
    word? (w.chars ++ rest) = some w.chars := by
  rw [word?, takeWhile_append_of_halts w.word halts]
  exact if_neg (by simpa using w.filled)

theorem word?_eq_none {text : List Char} (halts : Halts isWord text) : word? text = none := by
  rw [word?, halts.takeWhile_eq]
  rfl

theorem map_word?_append (value : ArgumentValue) {rest : List Char} (ends : EndsArgument rest) :
    (word? (value.chars ++ rest)).map String.ofList = value.word? := by
  cases value with
  | word w =>
    have halts : Halts isWord rest := fun c first => ends c first ▸ by decide
    rw [ArgumentValue.chars, word?_append w halts, Option.map_some, ArgumentValue.word?, Word.text]
  | call w =>
    have halts : Halts isWord (['(', ')'] ++ rest) := (halts_cons (c := '(')).mpr (by decide)
    rw [ArgumentValue.chars, List.append_assoc, word?_append w halts, Option.map_some,
      ArgumentValue.word?, Word.text]
  | quoted w => exact congrArg _ (word?_eq_none ((halts_cons (c := '"')).mpr (by decide)))
  | names ws => exact congrArg _ (word?_eq_none ((halts_cons (c := '[')).mpr (by decide)))

theorem keyedFieldList_argumentsText : keyedFieldList key.text (argumentsText arguments) =
    (argument? key ArgumentValue.names? arguments).getD [] := by
  rw [← map_keyed?_argumentsText key bracketed? (f := fieldNames)
    (fun value rest _ => map_bracketed?_append value rest), keyedFieldList, ← keyed?]
  cases keyed? key bracketed? (argumentsText arguments) <;> rfl

theorem quotedArg?_argumentsText : quotedArg? key.text (argumentsText arguments) =
    argument? key ArgumentValue.quoted? arguments :=
  map_keyed?_argumentsText key quoted? (fun value rest _ => map_quoted?_append value rest) arguments

theorem wordArg?_argumentsText : wordArg? key.text (argumentsText arguments) =
    argument? key ArgumentValue.word? arguments :=
  map_keyed?_argumentsText key word? (fun value _ ends => map_word?_append value ends) arguments

theorem exists_argumentsText_cons (a : Argument) (rest : List Argument) :
    ∃ tail, argumentsText (a :: rest) = a.chars ++ tail := by
  cases rest with
  | nil =>
    refine ⟨[], ?_⟩
    rw [argumentsText, List.map_singleton, joined, List.intercalate_singleton, List.append_nil]
  | cons b rest => exact ⟨_, List.intercalate_cons_cons.trans (List.append_assoc _ _ _)⟩

/-- The arguments begin with a text in quotes if the first of them is one and has no key. -/
theorem leadingQuoted?_argumentsText : leadingQuoted? (argumentsText arguments) =
    match arguments with
    | ⟨none, value⟩ :: _ => value.quoted?
    | _ => none := by
  rw [leadingQuoted?, trimLeft_of_halts (isArguments_argumentsText arguments).first]
  split
  next value rest =>
    obtain ⟨tail, same⟩ := exists_argumentsText_cons ⟨none, value⟩ rest
    rw [same, ← map_quoted?_append value tail]
    rfl
  next keyed =>
    cases arguments with
    | nil => rfl
    | cons a rest =>
      obtain ⟨_ | key, value⟩ := a
      · exact absurd rfl (keyed value rest)
      · obtain ⟨tail, same⟩ := exists_argumentsText_cons ⟨some key, value⟩ rest
        rw [same]
        cases key <;> rfl

end Looked

/-- The names that the arguments begin with are read without a key. -/
theorem fieldList_argumentsText (ws : List Word) (rest : List Argument) :
    fieldList (argumentsText (⟨none, .names ws⟩ :: rest)) = ws.map Word.text := by
  obtain ⟨tail, same⟩ := exists_argumentsText_cons ⟨none, .names ws⟩ rest
  have front : bracketed? (Argument.chars ⟨none, .names ws⟩ ++ tail) =
      some (joined (ws.map Word.chars)) := bracketed?_append ws tail
  have found : findMap? bracketed? (Argument.chars ⟨none, .names ws⟩ ++ tail) =
      some (joined (ws.map Word.chars)) := by
    rw [Argument.chars, ArgumentValue.chars, List.cons_append] at front ⊢
    rw [findMap?, front]
  rw [fieldList, same, found]
  exact fieldNames_joined ws

end SiteAtlas.Schema
