import SiteAtlas.Proofs.Schema.Attributes

/-! # The arguments of attributes

An argument is a word, a call, a text in quotes or a list of names, behind a key if it has one, and
the arguments of an attribute are written one behind the other. What they are written with keeps
them apart from everything around them: they hold no `@`, and each parenthesis is closed.
-/

namespace SiteAtlas.Schema

open Text

/-! ## Words -/

/-- One or more word characters. -/
structure Word where
  /-- The characters. -/
  chars : List Char
  filled : chars ≠ []
  word : ∀ c ∈ chars, isWord c = true
  deriving DecidableEq

namespace Word

/-- The word as a text. -/
def text (w : Word) : String := String.ofList w.chars

theorem exists_cons (w : Word) : ∃ c rest, w.chars = c :: rest ∧ isWord c = true := by
  obtain ⟨c, rest, same⟩ := List.exists_cons_of_ne_nil w.filled
  exact ⟨c, rest, same, w.word c (same ▸ List.mem_cons_self)⟩

theorem notMem (w : Word) {mark : Char} (other : isWord mark = false) : mark ∉ w.chars :=
  fun member => absurd (w.word mark member) (by simp [other])

theorem head?_append_ne (w : Word) {mark : Char} (other : isWord mark = false)
    (rest : List Char) : (w.chars ++ rest).head? ≠ some mark := by
  obtain ⟨c, chars, same, word⟩ := w.exists_cons
  rw [same, List.cons_append, List.head?_cons]
  rintro isMark
  rw [Option.some.inj isMark, other] at word
  cases word

/-- A word has no blanks at its ends. -/
theorem halts (w : Word) : Halts isBlank w.chars := fun c first =>
  isBlank_of_isWord (w.word c (List.mem_of_mem_head? first))

theorem halts_reverse (w : Word) : Halts isBlank w.chars.reverse := fun c first =>
  isBlank_of_isWord (w.word c (List.mem_reverse.mp (List.mem_of_mem_head? first)))

theorem trim_chars (w : Word) : trim w.chars = w.chars := trim_of_halts w.halts w.halts_reverse

end Word

/-- A text of word characters and the given marks. -/
def OnlyMarks (marks text : List Char) : Prop := ∀ c ∈ text, isWord c = true ∨ c ∈ marks

section Marks

variable {marks : List Char}

theorem Word.onlyMarks (w : Word) : OnlyMarks marks w.chars :=
  fun c member => .inl (w.word c member)

theorem onlyMarks_nil : OnlyMarks marks [] := fun _ member => absurd member List.not_mem_nil

theorem onlyMarks_cons {c : Char} {text : List Char} :
    OnlyMarks marks (c :: text) ↔ (isWord c = true ∨ c ∈ marks) ∧ OnlyMarks marks text :=
  List.forall_mem_cons

theorem onlyMarks_append {first second : List Char} :
    OnlyMarks marks (first ++ second) ↔ OnlyMarks marks first ∧ OnlyMarks marks second :=
  List.forall_mem_append

theorem onlyMarks_intercalate {sep : List Char} {pieces : List (List Char)}
    (onlySep : OnlyMarks marks sep) (only : ∀ piece ∈ pieces, OnlyMarks marks piece) :
    OnlyMarks marks (sep.intercalate pieces) := by
  intro c member
  obtain inSep | ⟨piece, isPiece, member⟩ := mem_of_mem_intercalate member
  · exact onlySep c inSep
  · exact only piece isPiece c member

theorem OnlyMarks.mono {text more : List Char} (only : OnlyMarks marks text)
    (sub : marks ⊆ more) : OnlyMarks more text := fun c member =>
  (only c member).imp_right fun isMark => sub isMark

theorem OnlyMarks.notMem {text : List Char} (only : OnlyMarks marks text) {c : Char}
    (noWord : isWord c = false) (noMark : c ∉ marks) : c ∉ text := fun member =>
  (only c member).elim (fun word => absurd word (by simp [noWord])) noMark

end Marks

/-! ## Arguments as they are written -/

/-- Pieces behind one another, with a comma between them. -/
def joined (pieces : List (List Char)) : List Char := [',', ' '].intercalate pieces

/-- What can be written as an argument. -/
inductive ArgumentValue where
  /-- A word. -/
  | word (w : Word)
  /-- A call without arguments. -/
  | call (w : Word)
  /-- A word in quotes. -/
  | quoted (w : Word)
  /-- Names in brackets. -/
  | names (ws : List Word)

/-- The text of an argument without its key. -/
def ArgumentValue.chars : ArgumentValue → List Char
  | .word w => w.chars
  | .call w => w.chars ++ ['(', ')']
  | .quoted w => '"' :: (w.chars ++ ['"'])
  | .names ws => '[' :: (joined (ws.map Word.chars) ++ [']'])

/-- The keys that arguments are looked up by. -/
inductive Key where
  | fields
  | references
  | onDelete
  | onUpdate
  | name
  deriving DecidableEq

/-- The word that a key is written as. -/
def Key.text : Key → String
  | .fields => "fields"
  | .references => "references"
  | .onDelete => "onDelete"
  | .onUpdate => "onUpdate"
  | .name => "name"

/-- An argument of an attribute. -/
structure Argument where
  /-- Its key, if it has one. -/
  key : Option Key := none
  /-- What stands behind the key. -/
  value : ArgumentValue

/-- The text of an argument. -/
def Argument.chars (a : Argument) : List Char :=
  match a.key with
  | none => a.value.chars
  | some key => key.text.toList ++ ':' :: ' ' :: a.value.chars

/-- The text of the arguments of an attribute. -/
def argumentsText (arguments : List Argument) : List Char := joined (arguments.map Argument.chars)

theorem Key.word (key : Key) : ∀ c ∈ key.text.toList, isWord c = true := by
  cases key <;> exact List.all_eq_true.mp (by decide)

theorem Key.filled (key : Key) : key.text.toList ≠ [] := by cases key <;> decide

/-- No key ends with another one. -/
theorem Key.eq_of_isSuffix {key other : Key} (ends : key.text.toList <:+ other.text.toList) :
    key = other := by
  revert ends
  cases key <;> cases other <;> decide

/-! ### What the text is made of -/

theorem onlyMarks_joined {marks : List Char} (seps : [',', ' '] ⊆ marks)
    {pieces : List (List Char)} (only : ∀ piece ∈ pieces, OnlyMarks marks piece) :
    OnlyMarks marks (joined pieces) :=
  onlyMarks_intercalate (fun _ member => .inr (seps member)) only

theorem onlyMarks_names (ws : List Word) :
    OnlyMarks [',', ' '] (joined (ws.map Word.chars)) := by
  refine onlyMarks_joined (fun _ member => member) fun piece member => ?_
  obtain ⟨w, -, rfl⟩ := List.mem_map.mp member
  exact w.onlyMarks

/-- The marks that arguments are written with, the colon apart. -/
def valueMarks : List Char := [',', ' ', '(', ')', '[', ']', '"']

theorem ArgumentValue.onlyMarks (value : ArgumentValue) : OnlyMarks valueMarks value.chars := by
  have mark {c : Char} (member : c ∈ valueMarks) : OnlyMarks valueMarks [c] :=
    fun d isMark => .inr (List.mem_singleton.mp isMark ▸ member)
  cases value with
  | word w => exact w.onlyMarks
  | call w =>
    exact onlyMarks_append.mpr
      ⟨w.onlyMarks, onlyMarks_cons.mpr ⟨.inr (by decide), mark (by decide)⟩⟩
  | quoted w =>
    exact onlyMarks_cons.mpr
      ⟨.inr (by decide), onlyMarks_append.mpr ⟨w.onlyMarks, mark (by decide)⟩⟩
  | names ws =>
    exact onlyMarks_cons.mpr ⟨.inr (by decide), onlyMarks_append.mpr
      ⟨(onlyMarks_names ws).mono (by decide), mark (by decide)⟩⟩

theorem Argument.onlyMarks (a : Argument) : OnlyMarks (':' :: valueMarks) a.chars := by
  have value : OnlyMarks (':' :: valueMarks) a.value.chars :=
    a.value.onlyMarks.mono (List.subset_cons_self _ _)
  unfold chars
  split
  · exact value
  next key _ =>
    exact onlyMarks_append.mpr ⟨fun c member => .inl (key.word c member), onlyMarks_cons.mpr
      ⟨.inr (by decide), onlyMarks_cons.mpr ⟨.inr (by decide), value⟩⟩⟩

theorem onlyMarks_argumentsText (arguments : List Argument) :
    OnlyMarks (':' :: valueMarks) (argumentsText arguments) := by
  refine onlyMarks_joined (by decide) fun piece member => ?_
  obtain ⟨a, -, rfl⟩ := List.mem_map.mp member
  exact a.onlyMarks

/-! ### Arguments in parentheses -/

theorem balanced_of_onlyMarks {text : List Char} (only : OnlyMarks [',', ' ', ':', '[', ']'] text) :
    Balanced text := by
  induction text with
  | nil => exact .nil
  | cons c text ih =>
    obtain ⟨here, behind⟩ := onlyMarks_cons.mp only
    have other {mark : Char} (noWord : isWord mark = false)
        (noMark : mark ∉ [',', ' ', ':', '[', ']']) : c ≠ mark := by
      rintro rfl
      exact here.elim (fun word => absurd word (by simp [noWord])) noMark
    exact .plain (other (by decide) (by decide)) (other (by decide) (by decide))
      (other (by decide) (by decide)) (other (by decide) (by decide)) (ih behind)

theorem ArgumentValue.balanced (value : ArgumentValue) : Balanced value.chars := by
  cases value with
  | word w => exact balanced_of_onlyMarks w.onlyMarks
  | call w => exact (balanced_of_onlyMarks w.onlyMarks).append (.parens .nil .nil)
  | quoted w => exact .quoted (w.notMem (by decide)) (w.notMem (by decide)) .nil
  | names ws =>
    have close : OnlyMarks [',', ' ', ':', '[', ']'] [']'] :=
      onlyMarks_cons.mpr ⟨.inr (by decide), onlyMarks_nil⟩
    exact balanced_of_onlyMarks (onlyMarks_cons.mpr ⟨.inr (by decide), onlyMarks_append.mpr
      ⟨(onlyMarks_names ws).mono (by decide), close⟩⟩)

theorem Argument.balanced (a : Argument) : Balanced a.chars := by
  unfold chars
  split
  · exact a.value.balanced
  next key _ =>
    have word : OnlyMarks [',', ' ', ':', '[', ']'] key.text.toList :=
      fun c member => .inl (key.word c member)
    exact (balanced_of_onlyMarks word).append (.plain (by decide) (by decide) (by decide)
      (by decide) (.plain (by decide) (by decide) (by decide) (by decide) a.value.balanced))

theorem balanced_joined {pieces : List (List Char)} (balanced : ∀ piece ∈ pieces, Balanced piece) :
    Balanced (joined pieces) := by
  have sep : Balanced [',', ' '] := balanced_of_onlyMarks
    fun _ member => .inr ((show [',', ' '] ⊆ [',', ' ', ':', '[', ']'] by decide) member)
  induction pieces with
  | nil => exact .nil
  | cons first rest ih =>
    obtain ⟨here, behind⟩ := List.forall_mem_cons.mp balanced
    cases rest with
    | nil =>
      rw [joined, List.intercalate_singleton]
      exact here
    | cons second rest =>
      rw [joined, List.intercalate_cons_cons]
      exact (here.append sep).append (ih behind)

theorem ArgumentValue.filled (value : ArgumentValue) : value.chars ≠ [] := by
  cases value with
  | word w => exact w.filled
  | call w => exact List.append_ne_nil_of_left_ne_nil w.filled _
  | quoted w => exact List.cons_ne_nil _ _
  | names ws => exact List.cons_ne_nil _ _

theorem Argument.filled (a : Argument) : a.chars ≠ [] := by
  unfold chars
  split
  · exact a.value.filled
  next key _ => exact List.append_ne_nil_of_left_ne_nil key.filled _

/-- No blank stands at the front of an argument. -/
theorem Argument.halts (a : Argument) : Halts isBlank a.chars := by
  unfold chars
  split
  next =>
    cases a.value with
    | word w => exact w.halts
    | call w =>
      obtain ⟨c, rest, same, word⟩ := w.exists_cons
      rw [ArgumentValue.chars, same]
      exact halts_cons.mpr (isBlank_of_isWord word)
    | quoted w => exact halts_cons.mpr (by decide)
    | names ws => exact halts_cons.mpr (by decide)
  next key _ =>
    cases key <;> exact halts_cons.mpr (by decide)

/-- No blank stands at the end of an argument. -/
theorem Argument.halts_reverse (a : Argument) : Halts isBlank a.chars.reverse := by
  have value : Halts isBlank a.value.chars.reverse := by
    cases a.value with
    | word w => exact w.halts_reverse
    | call w => simp [ArgumentValue.chars, halts_cons, isBlank]
    | quoted w => simp [ArgumentValue.chars, halts_cons, isBlank]
    | names ws => simp [ArgumentValue.chars, halts_cons, isBlank]
  unfold chars
  split
  · exact value
  · obtain ⟨c, rest, same⟩ :=
      List.exists_cons_of_ne_nil (mt List.reverse_eq_nil_iff.mp a.value.filled)
    rw [same] at value
    rw [List.reverse_append, List.reverse_cons, List.reverse_cons, same]
    exact halts_cons.mpr (halts_cons.mp value)

/-- The text of arguments can be put between the parentheses of an attribute. -/
theorem isArguments_argumentsText (arguments : List Argument) :
    IsArguments (argumentsText arguments) where
  balanced := balanced_joined fun piece member => by
    obtain ⟨a, -, rfl⟩ := List.mem_map.mp member
    exact a.balanced
  free := (onlyMarks_argumentsText arguments).notMem (by decide) (by decide)
  first := by
    cases arguments with
    | nil => exact halts_nil
    | cons a rest =>
      rw [Halts, argumentsText, List.map_cons, joined, head?_intercalate_cons a.filled]
      exact a.halts
  last := by
    cases given : (arguments.map Argument.chars).getLast? with
    | none =>
      rw [argumentsText, List.getLast?_eq_none_iff.mp given]
      exact halts_nil
    | some last =>
      obtain ⟨a, -, rfl⟩ := List.mem_map.mp (List.mem_of_getLast? given)
      rw [Halts, List.head?_reverse, argumentsText, joined, getLast?_intercalate given a.filled,
        ← List.head?_reverse]
      exact a.halts_reverse

theorem argumentsText_ne_nil {arguments : List Argument} (given : arguments ≠ []) :
    argumentsText arguments ≠ [] := by
  obtain ⟨a, rest, rfl⟩ := List.exists_cons_of_ne_nil given
  obtain ⟨c, chars, same⟩ := List.exists_cons_of_ne_nil a.filled
  rw [argumentsText, List.map_cons, joined, same, List.intercalate_cons_cons_left]
  exact List.cons_ne_nil _ _

end SiteAtlas.Schema
