import SiteAtlas.Proofs.Schema.Arguments
import Mathlib.Algebra.Group.Nat.Even
import Mathlib.Tactic.MkIffOfInductiveProp

/-! # Arguments with nested parentheses

The parentheses of an attribute give back what was put between them exactly if it is closed: no
quotes are left open, and outside of quotes no parenthesis is closed that was not opened, and none
is left open. This is said by counting, so that it does not depend on how the text is read, and it
holds of a text without backslashes exactly if the text is balanced.
-/

namespace SiteAtlas.Schema

open Text

/-! ## Nested parentheses -/

/-- Where the text may close `depth` parentheses that were opened before it, it closes no more than
that and those it opens itself, and in the end all of these. -/
@[mk_iff] structure Nested (depth : Nat) (text : List Char) : Prop where
  below : ∀ front, front <+: text → front.count ')' ≤ depth + front.count '('
  closed : text.count ')' = depth + text.count '('

section Nested

variable {depth depth' : Nat} {text : List Char}

theorem nested_nil : Nested depth [] ↔ depth = 0 := by
  constructor
  · intro nested
    have closed := nested.closed
    simp at closed
    exact closed.symm
  · rintro rfl
    constructor
    · intro front isFront
      rw [List.prefix_nil.mp isFront]
      simp
    · simp

/-- One character more in front changes the number of parentheses that are open behind it. -/
theorem nested_cons {c : Char}
    (shift : depth + [c].count '(' = depth' + [c].count ')') :
    Nested depth (c :: text) ↔ Nested depth' text := by
  have opened (rest : List Char) : (c :: rest).count '(' = [c].count '(' + rest.count '(' := by
    rw [← List.singleton_append, List.count_append]
  have closed (rest : List Char) : (c :: rest).count ')' = [c].count ')' + rest.count ')' := by
    rw [← List.singleton_append, List.count_append]
  constructor
  · intro nested
    constructor
    · intro front isFront
      have below := nested.below (c :: front) (List.cons_prefix_cons.mpr ⟨rfl, isFront⟩)
      rw [opened, closed] at below
      omega
    · have total := nested.closed
      rw [opened, closed] at total
      omega
  · intro nested
    constructor
    · intro front isFront
      rcases List.prefix_cons_iff.mp isFront with rfl | ⟨front, rfl, behind⟩
      · simp
      · have below := nested.below front behind
        rw [opened, closed]
        omega
    · have total := nested.closed
      rw [opened, closed]
      omega

theorem not_nested_closing : ¬Nested 0 (')' :: text) := by
  intro nested
  have below := nested.below [')'] (List.prefix_append [')'] text)
  exact absurd below (by decide)

end Nested

/-! ## Closed texts -/

/-- The characters of a text that stand outside quotes, the quotes left out. `quoted` says whether
the text begins inside of some. -/
def outsideQuotes (quoted : Bool) : List Char → List Char
  | [] => []
  | c :: rest =>
    if c = '"' then outsideQuotes (!quoted) rest
    else if quoted then outsideQuotes quoted rest
    else c :: outsideQuotes quoted rest

/-- A text that begins inside quotes or outside of them, and `depth` deep in parentheses, closes all
of them, and all that it opens itself. -/
@[mk_iff] structure IsClosed (quoted : Bool) (depth : Nat) (text : List Char) : Prop where
  quotes : Even (quoted.toNat + text.count '"')
  parens : Nested depth (outsideQuotes quoted text)

theorem isClosed_nil {quoted : Bool} {depth : Nat} :
    IsClosed quoted depth [] ↔ quoted = false ∧ depth = 0 := by
  rw [isClosed_iff, outsideQuotes, nested_nil]
  refine and_congr_left fun _ => ?_
  cases quoted <;> decide

theorem not_isClosed_end {rest : List Char} : ¬IsClosed false 0 (')' :: rest) := fun closed =>
  not_nested_closing closed.parens

/-! ## One character -/

/-- What a character does to the state of a text that is being read: whether it is inside quotes,
and how many parentheses are open. There is no step for a parenthesis that closes too much. -/
inductive ScanStep : Bool → Nat → Char → Bool → Nat → Prop where
  | quote {quoted : Bool} {depth : Nat} : ScanStep quoted depth '"' (!quoted) depth
  | inQuotes {depth : Nat} {c : Char} : c ≠ '"' → ScanStep true depth c true depth
  | opening {depth : Nat} : ScanStep false depth '(' false (depth + 1)
  | closing {depth : Nat} : ScanStep false (depth + 1) ')' false depth
  | plain {depth : Nat} {c : Char} : c ≠ '"' → c ≠ '(' → c ≠ ')' →
    ScanStep false depth c false depth

section Step

variable {quoted quoted' : Bool} {depth depth' : Nat} {c : Char} {rest : List Char}

theorem exists_scanStep (quoted : Bool) (depth : Nat) (c : Char) :
    (∃ quoted' depth', ScanStep quoted depth c quoted' depth') ∨
      quoted = false ∧ depth = 0 ∧ c = ')' := by
  by_cases quote : c = '"'
  · subst quote
    exact .inl ⟨_, _, .quote⟩
  cases quoted with
  | true => exact .inl ⟨_, _, .inQuotes quote⟩
  | false =>
    by_cases opening : c = '('
    · subst opening
      exact .inl ⟨_, _, .opening⟩
    by_cases closing : c = ')'
    · subst closing
      cases depth with
      | zero => exact .inr ⟨rfl, rfl, rfl⟩
      | succ depth => exact .inl ⟨_, _, .closing⟩
    exact .inl ⟨_, _, .plain quote opening closing⟩

/-- A character that makes a step is passed through. -/
theorem ScanStep.insideParens_eq (step : ScanStep quoted depth c quoted' depth') {before : Char}
    (other : before ≠ '\\') (rest : List Char) :
    insideParens before quoted depth (c :: rest) = c :: insideParens c quoted' depth' rest := by
  cases step with
  | quote => exact insideParens_quote rest other quoted
  | inQuotes notQuote => exact insideParens_inQuotes rest notQuote
  | opening => exact insideParens_opening rest
  | closing => exact insideParens_closing rest
  | plain notQuote notOpening notClosing =>
    exact insideParens_plain rest notQuote notOpening notClosing

/-- Outside quotes it is the number of open parentheses that counts. -/
theorem isClosed_outside (other : c ≠ '"')
    (shift : depth + [c].count '(' = depth' + [c].count ')') :
    IsClosed false depth (c :: rest) ↔ IsClosed false depth' rest := by
  rw [isClosed_iff, isClosed_iff, outsideQuotes, if_neg other, if_neg Bool.false_ne_true,
    List.count_cons_of_ne other, nested_cons shift]

/-- What a text has to close is what is left to be closed behind its first character. -/
theorem ScanStep.isClosed_cons (step : ScanStep quoted depth c quoted' depth') :
    IsClosed quoted depth (c :: rest) ↔ IsClosed quoted' depth' rest := by
  cases step with
  | quote =>
    rw [isClosed_iff, isClosed_iff, outsideQuotes, if_pos rfl, List.count_cons_self,
      Nat.even_iff, Nat.even_iff]
    refine and_congr_left fun _ => ?_
    cases quoted <;> simp <;> omega
  | inQuotes notQuote =>
    rw [isClosed_iff, isClosed_iff, outsideQuotes, if_neg notQuote, if_pos rfl,
      List.count_cons_of_ne notQuote]
  | opening => exact isClosed_outside (by decide) rfl
  | closing => exact isClosed_outside (by decide) rfl
  | plain notQuote notOpening notClosing =>
    exact isClosed_outside notQuote (by simp [notOpening, notClosing])

end Step

/-! ## Between parentheses -/

section Scan

variable {quoted : Bool} {depth : Nat} {before : Char} {args : List Char}

/-- The parenthesis behind a text is taken for the one that closes it exactly if the text closes
everything else. -/
theorem insideParens_eq_iff (plain : '\\' ∉ args) (other : before ≠ '\\') (after : List Char) :
    insideParens before quoted depth (args ++ ')' :: after) = args ↔
      IsClosed quoted depth args := by
  induction args generalizing before quoted depth with
  | nil =>
    rw [List.nil_append, isClosed_nil]
    cases quoted with
    | true => simp [insideParens_inQuotes]
    | false =>
      cases depth with
      | zero => simp [insideParens_end]
      | succ depth => simp [insideParens_closing]
  | cons c args ih =>
    obtain ⟨notSlash, plain⟩ := not_or.mp (mt List.mem_cons.mpr plain)
    rw [List.cons_append]
    rcases exists_scanStep quoted depth c with ⟨quoted', depth', step⟩ | ⟨rfl, rfl, rfl⟩
    · rw [step.insideParens_eq other, step.isClosed_cons, List.cons_inj_right]
      exact ih plain (Ne.symm notSlash)
    · rw [insideParens_end]
      exact iff_of_false (List.cons_ne_nil _ _).symm not_isClosed_end

/-- What is inside parentheses stands at the front, and a closing parenthesis or nothing follows. -/
theorem exists_insideParens_append (before : Char) (quoted : Bool) (depth : Nat)
    (text : List Char) : ∃ tail, text = insideParens before quoted depth text ++ tail ∧
      ∀ c ∈ tail.head?, c = ')' := by
  induction text generalizing before quoted depth with
  | nil => exact ⟨[], rfl, by simp⟩
  | cons c text ih =>
    have step (quoted : Bool) (depth : Nat) : ∃ tail,
        c :: text = c :: insideParens c quoted depth text ++ tail ∧ ∀ c ∈ tail.head?, c = ')' := by
      obtain ⟨tail, split, first⟩ := ih c quoted depth
      exact ⟨tail, congrArg (c :: ·) split, first⟩
    rw [insideParens_cons]
    split_ifs with quote inQuotes opening closing
    · exact step _ _
    · exact step _ _
    · exact step _ _
    · cases depth with
      | zero => exact ⟨c :: text, rfl, by simpa using closing⟩
      | succ depth => exact step _ _
    · exact step _ _

/-- Blanks at the ends make no difference, as the closing parentheses are counted. -/
theorem trim_insideParens_eq_iff (plain : '\\' ∉ args) (other : before ≠ '\\')
    (after : List Char) :
    trim (insideParens before quoted depth (args ++ ')' :: after)) = trim args ↔
      IsClosed quoted depth args := by
  rw [← insideParens_eq_iff plain other after]
  refine ⟨fun same => ?_, fun same => by rw [same]⟩
  obtain ⟨tail, split, first⟩ :=
    exists_insideParens_append before quoted depth (args ++ ')' :: after)
  generalize insideParens before quoted depth (args ++ ')' :: after) = inside at same split ⊢
  have counts := congrArg (List.count ')') same
  rw [count_trim (by decide), count_trim (by decide)] at counts
  rcases List.append_eq_append_iff.mp split with ⟨more, isInside, isTail⟩ | ⟨more, isArgs, isTail⟩
  · cases more with
    | nil => rw [isInside, List.append_nil]
    | cons c more =>
      obtain rfl : ')' = c := (List.cons.inj isTail).1
      rw [isInside, List.count_append, List.count_cons_self] at counts
      omega
  · cases more with
    | nil => rw [isArgs, List.append_nil]
    | cons c more =>
      obtain rfl : c = ')' := first c (by rw [isTail]; rfl)
      rw [isArgs, List.count_append, List.count_cons_self] at counts
      omega

end Scan

/-! ## Balanced texts -/

section Balanced

variable {quoted : Bool} {depth : Nat} {text : List Char}

theorem Balanced.plain_notMem (balanced : Balanced text) : '\\' ∉ text := by
  induction balanced with
  | nil => exact List.not_mem_nil
  | plain _ _ _ notSlash _ ih => simp [Ne.symm notSlash, ih]
  | quoted _ plain _ ih => simp [plain, ih]
  | parens _ _ ih ih' => simp [ih, ih']

/-- Quotes that are open are closed by the first quote. -/
theorem isClosed_quoted {inside rest : List Char} (free : '"' ∉ inside) :
    IsClosed true depth (inside ++ '"' :: rest) ↔ IsClosed false depth rest := by
  induction inside with
  | nil => exact ScanStep.quote.isClosed_cons
  | cons c inside ih =>
    obtain ⟨other, free⟩ := not_or.mp (mt List.mem_cons.mpr free)
    rw [List.cons_append, (ScanStep.inQuotes (Ne.symm other)).isClosed_cons]
    exact ih free

/-- The outermost of the open parentheses is closed somewhere, outside of quotes, and what stands in
front of that place closes all others. -/
theorem IsClosed.exists_split (closed : IsClosed quoted (depth + 1) text) :
    ∃ inside rest, text = inside ++ ')' :: rest ∧ IsClosed quoted depth inside ∧
      IsClosed false 0 rest := by
  induction text generalizing quoted depth with
  | nil => exact absurd (isClosed_nil.mp closed).2 (Nat.succ_ne_zero depth)
  | cons c text ih =>
    -- With one parenthesis fewer, the first character makes the same step.
    have behind {quoted' : Bool} {depth' : Nat} (step : ScanStep quoted depth c quoted' depth')
        (closed : IsClosed quoted' (depth' + 1) text) :
        ∃ inside rest, c :: text = inside ++ ')' :: rest ∧ IsClosed quoted depth inside ∧
          IsClosed false 0 rest := by
      obtain ⟨inside, rest, split, isInside, isRest⟩ := ih closed
      exact ⟨c :: inside, rest, congrArg (c :: ·) split, step.isClosed_cons.mpr isInside, isRest⟩
    rcases exists_scanStep quoted (depth + 1) c with ⟨quoted', depth', step⟩ | ⟨-, none, -⟩
    · have later := step.isClosed_cons.mp closed
      cases step with
      | quote => exact behind .quote later
      | inQuotes notQuote => exact behind (.inQuotes notQuote) later
      | opening => exact behind .opening later
      | plain notQuote notOpening notClosing =>
        exact behind (.plain notQuote notOpening notClosing) later
      | closing =>
        cases depth with
        | zero => exact ⟨[], text, rfl, isClosed_nil.mpr ⟨rfl, rfl⟩, later⟩
        | succ depth => exact behind .closing later
    · exact absurd none (Nat.succ_ne_zero depth)

/-- Without backslashes, texts that close all that they open are balanced. -/
theorem IsClosed.balanced (closed : IsClosed false 0 text) (plain : '\\' ∉ text) :
    Balanced text := by
  -- What stands between quotes or parentheses and what stands behind them is shorter.
  induction size : text.length using Nat.strong_induction_on generalizing text with
  | _ n ih =>
    subst size
    cases text with
    | nil => exact .nil
    | cons c text =>
      obtain ⟨notSlash, plainText⟩ := not_or.mp (mt List.mem_cons.mpr plain)
      rcases exists_scanStep false 0 c with ⟨quoted', depth', step⟩ | ⟨-, -, rfl⟩
      · have later := step.isClosed_cons.mp closed
        cases step with
        | quote =>
          have again : '"' ∈ text := by
            by_contra absent
            have odd := later.quotes
            rw [List.count_eq_zero.mpr absent] at odd
            exact absurd odd (by decide)
          obtain ⟨inside, rest, split, free⟩ := List.eq_append_cons_of_mem again
          rw [split] at plainText later ⊢
          obtain ⟨plainInside, plainRest⟩ := not_or.mp (mt List.mem_append.mpr plainText)
          have shorter : rest.length < ('"' :: text).length := by
            rw [split, List.length_cons, List.length_append, List.length_cons]
            omega
          exact .quoted free plainInside (ih _ shorter ((isClosed_quoted free).mp later)
            (mt (List.mem_cons_of_mem _) plainRest) rfl)
        | opening =>
          obtain ⟨inside, rest, split, isInside, isRest⟩ := later.exists_split
          rw [split] at plainText ⊢
          obtain ⟨plainInside, plainRest⟩ := not_or.mp (mt List.mem_append.mpr plainText)
          have lengths : ('(' :: text).length = inside.length + rest.length + 2 := by
            rw [split, List.length_cons, List.length_append, List.length_cons]
            omega
          exact .parens (ih _ (by omega) isInside plainInside rfl)
            (ih _ (by omega) isRest (mt (List.mem_cons_of_mem _) plainRest) rfl)
        | plain notQuote notOpening notClosing =>
          exact .plain notQuote notOpening notClosing (Ne.symm notSlash)
            (ih _ (Nat.lt_succ_self _) later plainText rfl)
      · exact absurd closed not_isClosed_end

/-- Balanced texts are those without backslashes that close all that they open. -/
theorem balanced_iff : Balanced text ↔ '\\' ∉ text ∧ IsClosed false 0 text := by
  constructor
  · intro balanced
    have inside := balanced.insideParens_eq []
    exact ⟨balanced.plain_notMem,
      (insideParens_eq_iff balanced.plain_notMem (by decide) []).mp inside⟩
  · rintro ⟨plain, closed⟩
    exact closed.balanced plain

end Balanced

/-! ## Looking up -/

/-- An attribute behind a text without `@` is found by its name. -/
theorem attributeArgs?_at (w : Word) {before : List Char} (free : '@' ∉ before)
    (inside : List Char) : attributeArgs? w.text (before ++ '@' :: (w.chars ++ '(' :: inside)) =
      some (trim (insideParens '(' false 0 inside)) := by
  have name : w.text.toList = w.chars := String.toList_ofList
  have alone : before.getLast?.or none ≠ some '@' := by
    rw [Option.or_none]
    intro last
    exact free (List.mem_of_getLast? last)
  rw [attributeArgs?_eq, name, afterAttribute?_append free,
    afterAttribute?_at w.word w.word rfl alone, if_pos rfl]
  rfl

/-- An attribute behind a text without `@` is looked up by its name. The arguments that were put
between its parentheses are found, blanks at their ends apart, exactly if they close all quotes that
they open and, outside of quotes, close as many parentheses as they open and nowhere more; and these
arguments are the balanced ones. What follows the attribute does not matter. -/
theorem attributeArgs?_eq_trim_iff (w : Word) {before args : List Char} (free : '@' ∉ before)
    (plain : '\\' ∉ args) (after : List Char) :
    let text := before ++ '@' :: (w.chars ++ '(' :: (args ++ ')' :: after))
    let outside := outsideQuotes false args
    (attributeArgs? w.text text = some (trim args) ↔
      Even (args.count '"') ∧ (∀ front, front <+: outside → front.count ')' ≤ front.count '(') ∧
        outside.count ')' = outside.count '(') ∧
      (attributeArgs? w.text text = some (trim args) ↔ Balanced args) := by
  intro text outside
  have found : attributeArgs? w.text text =
      some (trim (insideParens '(' false 0 (args ++ ')' :: after))) :=
    attributeArgs?_at w free _
  have closed : IsClosed false 0 args ↔ Even (args.count '"') ∧
      (∀ front, front <+: outside → front.count ')' ≤ front.count '(') ∧
      outside.count ')' = outside.count '(' := by
    rw [isClosed_iff, nested_iff]
    simp only [Bool.toNat_false, Nat.zero_add]
    rfl
  rw [found, Option.some_inj, trim_insideParens_eq_iff plain (by decide) after, balanced_iff,
    and_iff_right plain]
  exact ⟨closed, Iff.rfl⟩

/-- The name of the attribute for defaults. -/
def defaultWord : Word where
  chars := "default".toList
  filled := by decide
  word := List.all_eq_true.mp (by decide)

/-- Calls inside a call are found as they are, although one of their arguments is a parenthesis in
quotes and the next attribute has one as well. -/
theorem attributeArgs?_of_nestedCalls :
    let args := " call(pick(\"(\", now()), 1) ".toList
    '@' ∉ "id Int ".toList ∧ '\\' ∉ args ∧ Balanced args ∧
      attributeArgs? "default"
          "id Int @default( call(pick(\"(\", now()), 1) ) @map(\"x)\")".toList =
        some "call(pick(\"(\", now()), 1)".toList := by
  have free : '@' ∉ "id Int ".toList := by decide
  have plain : '\\' ∉ " call(pick(\"(\", now()), 1) ".toList := by decide
  have isFound := attributeArgs?_eq_trim_iff defaultWord free plain " @map(\"x)\")".toList
  have found : attributeArgs? "default"
      "id Int @default( call(pick(\"(\", now()), 1) ) @map(\"x)\")".toList =
        some "call(pick(\"(\", now()), 1)".toList := by decide +kernel
  exact ⟨free, plain, isFound.2.mp found, found⟩

end SiteAtlas.Schema
