import Mathlib.Algebra.Group.Nat.Even
import Mathlib.Data.List.Basic

/-! # Texts in quotes

Inside quotes a backslash takes the next character with it, so that a quote behind an escaped
backslash closes. A reader that looks back by one character takes every quote behind a backslash for
an escaped one: it counts the bare quotes alone. Where no quote that opens or closes stands behind a
backslash, these are all of them, and they come in pairs.
-/

namespace SiteAtlas.Schema

/-- What can stand between two quotes. -/
inductive IsQuotation : List Char → Prop where
  | nil : IsQuotation []
  | plain {c : Char} {rest : List Char} : c ≠ '"' → c ≠ '\\' → IsQuotation rest →
    IsQuotation (c :: rest)
  | escaped (c : Char) {rest : List Char} : IsQuotation rest → IsQuotation ('\\' :: c :: rest)

/-- A text behind the character `before` in which all quotes are closed, and in which `fits` holds
of each character that stands in front of a quote that opens or closes. -/
inductive Closed (fits : Char → Prop) : Option Char → List Char → Prop where
  | nil (before : Option Char) : Closed fits before []
  | plain {before : Option Char} {c : Char} {rest : List Char} : c ≠ '"' →
    Closed fits (some c) rest → Closed fits before (c :: rest)
  | quoted {before : Option Char} {inside rest : List Char} : (∀ c ∈ before, fits c) →
    IsQuotation inside → fits (inside.getLastD '"') → Closed fits (some '"') rest →
      Closed fits before ('"' :: (inside ++ '"' :: rest))

section Build

variable {fits : Char → Prop} {front rest : List Char} {before : Option Char}

theorem Closed.plain_append (free : '"' ∉ front)
    (closed : Closed fits (front.getLast?.or before) rest) :
    Closed fits before (front ++ rest) := by
  induction front generalizing before with
  | nil => exact closed
  | cons c front ih =>
    obtain ⟨notQuote, free⟩ := not_or.mp (mt List.mem_cons.mpr free)
    have last : (c :: front).getLast?.or before = front.getLast?.or (some c) := by
      rw [List.getLast?_cons]
      cases front.getLast? <;> rfl
    rw [last] at closed
    exact .plain (Ne.symm notQuote) (ih free closed)

theorem closed_of_notMem (free : '"' ∉ front) : Closed fits before front := by
  rw [← List.append_nil front]
  exact .plain_append free (.nil _)

/-- A text is closed in which one text in quotes stands between others without quotes. -/
theorem closed_quotation {inside : List Char} (free : '"' ∉ front)
    (opens : ∀ c ∈ front.getLast?, fits c) (quotation : IsQuotation inside)
    (closes : fits (inside.getLastD '"')) (free' : '"' ∉ rest) :
    Closed fits none (front ++ '"' :: (inside ++ '"' :: rest)) := by
  refine .plain_append free (.quoted ?_ quotation closes (closed_of_notMem free'))
  rwa [Option.or_none]

end Build

/-- A quote that opens is followed by the one that closes. -/
theorem Closed.quote_mem {fits : Char → Prop} {before : Option Char} {front rest : List Char}
    (closed : Closed fits before (front ++ '"' :: rest)) (free : '"' ∉ front) : '"' ∈ rest := by
  induction front generalizing before with
  | nil =>
    cases closed with
    | plain other _ => exact absurd rfl other
    | quoted _ _ _ _ => exact List.mem_append_right _ List.mem_cons_self
  | cons c front ih =>
    obtain ⟨notQuote, free⟩ := not_or.mp (mt List.mem_cons.mpr free)
    rw [List.cons_append] at closed
    generalize whole : front ++ '"' :: rest = tail at closed
    cases closed with
    | plain _ closed => exact ih (whole ▸ closed) free
    | quoted _ _ _ _ => exact absurd rfl notQuote

/-- How many quotes of a text behind the character `before` do not stand behind a backslash. -/
def bareQuotes (before : Option Char) : List Char → Nat
  | [] => 0
  | c :: rest => (if c = '"' ∧ before ≠ some '\\' then 1 else 0) + bareQuotes (some c) rest

section Count

variable {before : Option Char} {c : Char} (rest : List Char)

theorem bareQuotes_plain (other : c ≠ '"') :
    bareQuotes before (c :: rest) = bareQuotes (some c) rest := by
  rw [bareQuotes, if_neg (fun both => other both.1), Nat.zero_add]

theorem bareQuotes_quote (bare : before ≠ some '\\') :
    bareQuotes before ('"' :: rest) = bareQuotes (some '"') rest + 1 := by
  rw [bareQuotes, if_pos ⟨rfl, bare⟩, Nat.add_comm]

theorem bareQuotes_escaped :
    bareQuotes (some '\\') (c :: rest) = bareQuotes (some c) rest := by
  rw [bareQuotes, if_neg (fun both => both.2 rfl), Nat.zero_add]

end Count

/-- If the last character inside is no backslash, the quote that closes is the only bare one. -/
theorem IsQuotation.bareQuotes_eq {inside : List Char} (quotation : IsQuotation inside) {b : Char}
    (bare : inside.getLastD b ≠ '\\') (rest : List Char) :
    bareQuotes (some b) (inside ++ '"' :: rest) = bareQuotes (some '"') rest + 1 := by
  induction quotation generalizing b with
  | nil => exact bareQuotes_quote rest (by simpa using bare)
  | plain notQuote _ _ ih =>
    rw [List.getLastD_cons] at bare
    rw [List.cons_append, bareQuotes_plain _ notQuote]
    exact ih bare
  | escaped c _ ih =>
    rw [List.getLastD_cons, List.getLastD_cons] at bare
    rw [List.cons_append, List.cons_append, bareQuotes_plain _ (by decide), bareQuotes_escaped]
    exact ih bare

/-- Where no quote that opens or closes stands behind a backslash, bare quotes come in pairs. -/
theorem Closed.even_bareQuotes {before : Option Char} {text : List Char}
    (closed : Closed (· ≠ '\\') before text) : Even (bareQuotes before text) := by
  induction closed with
  | nil => exact Even.zero
  | plain other _ ih =>
    rw [bareQuotes_plain _ other]
    exact ih
  | @quoted before inside rest opens quotation bare _ ih =>
    have opening : before ≠ some '\\' := fun slash => opens '\\' slash rfl
    rw [bareQuotes_quote _ opening, quotation.bareQuotes_eq bare, Nat.add_assoc]
    exact ih.add (by decide)

end SiteAtlas.Schema
