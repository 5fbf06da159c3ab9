import SiteAtlas.Json.Printer
import SiteAtlas.Json.Reader
import Mathlib.Data.List.Basic
import Mathlib.Tactic.SplitIfs

/-! # Texts read back

Every character is written so that it is read back on its own, whatever follows in the quotes:
quotes and backslashes behind a backslash, other ASCII characters as they are, and the rest by one
UTF-16 unit or by a pair of them. A reader that sees two units in a row must not take them for a
pair unless they are one.
-/

namespace SiteAtlas.Json

variable {done rest : List Char} {c : Char} {unit : Nat}

theorem hexValue?_hexDigit (n : Nat) : hexValue? (hexDigit n) = some (n % 16) := by
  have digits : ∀ k < 16, hexValue? (Nat.digitChar k) = some k := by decide
  exact digits (n % 16) (Nat.mod_lt _ (by decide))

theorem unit?_hexDigits (small : unit < 0x10000) :
    unit? (hexDigit (unit / 4096)) (hexDigit (unit / 256)) (hexDigit (unit / 16)) (hexDigit unit) =
      some unit := by
  simp only [unit?, hexValue?_hexDigit, Option.bind_eq_bind, Option.bind_some, Option.pure_def,
    Option.some.injEq]
  omega

/-- Whether every unit that a text begins with has its four digits. -/
def HasWholeUnit (text : List Char) : Prop :=
  ∀ e f g h tail, text = '\\' :: 'u' :: e :: f :: g :: h :: tail → ∃ unit, unit? e f g h = some unit

/-- A unit that does not begin a pair is read on its own. -/
theorem readQuoted_escapeUnit (small : unit < 0x10000) (single : unit < 0xD800 ∨ 0xDC00 ≤ unit)
    (whole : HasWholeUnit rest) :
    readQuoted done (escapeUnit unit ++ rest) = readQuoted (charOfUnit unit :: done) rest := by
  have digits := unit?_hexDigits small
  rw [escapeUnit]
  simp only [List.cons_append, List.nil_append]
  rw [readQuoted.eq_def]
  split
  next text => exact absurd text (by simp)
  next text => exact absurd text (by simp)
  next a b c d e f g h tail text =>
    simp only [List.cons.injEq, true_and] at text
    obtain ⟨rfl, rfl, rfl, rfl, rfl⟩ := text
    obtain ⟨low, isLow⟩ := whole e f g h tail rfl
    rw [digits, isLow]
    dsimp only
    rw [if_neg (by omega)]
  next a b c d tail _ text =>
    simp only [List.cons.injEq, true_and] at text
    obtain ⟨rfl, rfl, rfl, rfl, rfl⟩ := text
    rw [digits]
  next mark tail _ other text =>
    simp only [List.cons.injEq, true_and] at text
    obtain ⟨rfl, rfl⟩ := text
    exact absurd rfl (other _ _ _ _ _ rfl)
  next other text =>
    simp only [List.cons.injEq] at text
    obtain ⟨rfl, rfl⟩ := text
    exact (other _ _ rfl rfl).elim


theorem readQuoted_units (done : List Char) (a b c d e f g h : Char) (rest : List Char) :
    readQuoted done ('\\' :: 'u' :: a :: b :: c :: d :: '\\' :: 'u' :: e :: f :: g :: h :: rest) =
      match unit? a b c d, unit? e f g h with
      | some high, some low =>
        if 0xD800 ≤ high ∧ high < 0xDC00 ∧ 0xDC00 ≤ low ∧ low < 0xE000 then
          readQuoted (Char.ofNat (0x10000 + (high - 0xD800) * 1024 + (low - 0xDC00)) :: done) rest
        else readQuoted (charOfUnit high :: done) ('\\' :: 'u' :: e :: f :: g :: h :: rest)
      | _, _ => none :=
  rfl

/-- The two units of a pair are read as one character. -/
theorem readQuoted_pair {high low : Nat} (isHigh : 0xD800 ≤ high ∧ high < 0xDC00)
    (isLow : 0xDC00 ≤ low ∧ low < 0xE000) :
    readQuoted done (escapeUnit high ++ escapeUnit low ++ rest) =
      readQuoted (Char.ofNat (0x10000 + (high - 0xD800) * 1024 + (low - 0xDC00)) :: done) rest := by
  have highDigits := unit?_hexDigits (show high < 0x10000 by omega)
  have lowDigits := unit?_hexDigits (show low < 0x10000 by omega)
  rw [escapeUnit, escapeUnit]
  simp only [List.cons_append, List.nil_append]
  rw [readQuoted_units, highDigits, lowDigits]
  dsimp only
  rw [if_pos ⟨isHigh.1, isHigh.2, isLow.1, isLow.2⟩]

theorem readQuoted_plain (noQuote : c ≠ '"') (noBackslash : c ≠ '\\') (printable : 32 ≤ c.toNat) :
    readQuoted done (c :: rest) = readQuoted (c :: done) rest := by
  rw [readQuoted.eq_def]
  split
  next text => exact absurd text (by simp)
  next text => exact absurd (List.cons.inj text).1 noQuote
  next text => exact absurd (List.cons.inj text).1 noBackslash
  next text => exact absurd (List.cons.inj text).1 noBackslash
  next text => exact absurd (List.cons.inj text).1 noBackslash
  next text =>
    obtain ⟨rfl, rfl⟩ := List.cons.inj text
    rw [if_neg (by omega)]

theorem toNat_valid (c : Char) : c.toNat < 0xD800 ∨ 0xDFFF < c.toNat ∧ c.toNat < 0x110000 :=
  c.valid

theorem charOfUnit_toNat (c : Char) : charOfUnit c.toNat = c := by
  have valid := toNat_valid c
  rw [charOfUnit, if_neg (by omega), Char.ofNat_toNat]

theorem eq_ofNat {n : Nat} (code : c.toNat = n) : c = Char.ofNat n := by
  rw [← code, Char.ofNat_toNat]

/-- A character is read back from what is written for it. -/
theorem readQuoted_escapeChar (done : List Char) (c : Char) (whole : HasWholeUnit rest) :
    readQuoted done (escapeChar c ++ rest) = readQuoted (c :: done) rest := by
  have valid := toNat_valid c
  rw [escapeChar]
  by_cases quote : c = '"'
  · rw [if_pos quote, quote]
    rfl
  rw [if_neg quote]
  by_cases backslash : c = '\\'
  · rw [if_pos backslash, backslash]
    rfl
  rw [if_neg backslash]
  by_cases lineFeed : c = '\n'
  · rw [if_pos lineFeed, lineFeed]
    rfl
  rw [if_neg lineFeed]
  by_cases return' : c = '\r'
  · rw [if_pos return', return']
    rfl
  rw [if_neg return']
  by_cases tab : c = '\t'
  · rw [if_pos tab, tab]
    rfl
  rw [if_neg tab]
  by_cases backspace : c.toNat = 8
  · rw [if_pos backspace, eq_ofNat backspace]
    rfl
  rw [if_neg backspace]
  by_cases formFeed : c.toNat = 12
  · rw [if_pos formFeed, eq_ofNat formFeed]
    rfl
  rw [if_neg formFeed]
  by_cases ascii : 32 ≤ c.toNat ∧ c.toNat < 127
  · rw [if_pos ascii]
    exact readQuoted_plain quote backslash ascii.1
  rw [if_neg ascii]
  by_cases delete : c.toNat = 127
  · rw [if_pos delete]
    exact readQuoted_plain quote backslash (by omega)
  rw [if_neg delete]
  by_cases small : c.toNat < 0x10000
  · rw [if_pos small, readQuoted_escapeUnit small (by omega) whole, charOfUnit_toNat]
  · have code : 0x10000 + (0xD800 + (c.toNat - 0x10000) / 1024 - 0xD800) * 1024 +
        (0xDC00 + (c.toNat - 0x10000) % 1024 - 0xDC00) = c.toNat := by
      omega
    rw [if_neg small]
    dsimp only
    rw [readQuoted_pair (by omega) (by omega), code, Char.ofNat_toNat]

theorem hasWholeUnit_cons (rest : List Char) (noBackslash : c ≠ '\\') :
    HasWholeUnit (c :: rest) := by
  intro e f g h tail text
  exact absurd (List.cons.inj text).1 noBackslash

theorem hasWholeUnit_mark {mark : Char} (rest : List Char) (noUnit : mark ≠ 'u') :
    HasWholeUnit ('\\' :: mark :: rest) := by
  intro e f g h tail text
  exact absurd (List.cons.inj (List.cons.inj text).2).1 noUnit

theorem hasWholeUnit_escapeUnit (unit : Nat) (rest : List Char) :
    HasWholeUnit (escapeUnit unit ++ rest) := by
  intro e f g h tail text
  simp only [escapeUnit, List.cons_append, List.cons.injEq, true_and] at text
  obtain ⟨rfl, rfl, rfl, rfl, -⟩ := text
  exact ⟨_, by simp only [unit?, hexValue?_hexDigit, Option.bind_eq_bind, Option.bind_some,
    Option.pure_def]; rfl⟩

/-- What may be written for a character: a backslash and a letter, the character itself, or the
escapes of one unit or of two. -/
inductive IsEscape (c : Char) : List Char → Prop where
  | letter {letter : Char} (known : letter ∈ ['"', '\\', 'n', 'r', 't', 'b', 'f']) :
    IsEscape c ['\\', letter]
  | itself (backslash : c ≠ '\\') : IsEscape c [c]
  | unit (unit : Nat) : IsEscape c (escapeUnit unit)
  | pair (high low : Nat) : IsEscape c (escapeUnit high ++ escapeUnit low)

theorem isEscape_escapeChar (c : Char) : IsEscape c (escapeChar c) := by
  rw [escapeChar]
  refine iteInduction (fun _ => .letter (by decide)) fun _ => ?_
  refine iteInduction (fun _ => .letter (by decide)) fun backslash => ?_
  refine iteInduction (fun _ => .letter (by decide)) fun _ => ?_
  refine iteInduction (fun _ => .letter (by decide)) fun _ => ?_
  refine iteInduction (fun _ => .letter (by decide)) fun _ => ?_
  refine iteInduction (fun _ => .letter (by decide)) fun _ => ?_
  refine iteInduction (fun _ => .letter (by decide)) fun _ => ?_
  refine iteInduction (fun _ => .itself backslash) fun _ => ?_
  refine iteInduction (fun _ => .itself backslash) fun _ => ?_
  exact iteInduction (fun _ => .unit _) fun _ => .pair _ _

theorem hasWholeUnit_escapeChar (c : Char) (rest : List Char) :
    HasWholeUnit (escapeChar c ++ rest) := by
  have escape := isEscape_escapeChar c
  generalize escapeChar c = text at escape
  cases escape with
  | letter known =>
    refine hasWholeUnit_mark _ ?_
    rintro rfl
    exact absurd known (by decide)
  | itself backslash => exact hasWholeUnit_cons _ backslash
  | unit unit => exact hasWholeUnit_escapeUnit _ _
  | pair high low =>
    rw [List.append_assoc]
    exact hasWholeUnit_escapeUnit _ _

/-- A text is read back up to the quote behind it. -/
theorem readQuoted_escaped (text done rest : List Char) :
    readQuoted done (text.flatMap escapeChar ++ '"' :: rest) =
      some (String.ofList (done.reverse ++ text), rest) := by
  induction text generalizing done with
  | nil =>
    rw [List.append_nil]
    rfl
  | cons c text ih =>
    have whole : HasWholeUnit (text.flatMap escapeChar ++ '"' :: rest) := by
      cases text with
      | nil => exact hasWholeUnit_cons rest (by decide)
      | cons c text =>
        rw [List.flatMap_cons, List.append_assoc]
        exact hasWholeUnit_escapeChar c _
    rw [List.flatMap_cons, List.append_assoc, readQuoted_escapeChar done c whole, ih]
    simp

end SiteAtlas.Json
