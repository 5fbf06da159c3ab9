import SiteAtlas.Json.Printer
import SiteAtlas.Json.Reader
import SiteAtlas.Proofs.Decimal.ShortestDigits
import SiteAtlas.Proofs.Text.Words

/-! # Numbers read back

A written number is taken apart into the parts that a reader tells from each other: the digits in
front of the point, those behind it, and a power of ten. Whole numbers come back as they were by
their digits; the others since the decimal they are written as lies in the interval of values that
are rounded to them.
-/

namespace SiteAtlas.Json

open Text (Halts)

/-! ## Digits -/

section Digits

variable {digits rest : List Char} {c : Char} {n : Nat}

theorem digitsValue_eq (digits : List Char) :
    digitsValue digits = Nat.ofDigitChars 10 digits 0 := by
  rw [digitsValue, Nat.ofDigitChars_eq_foldl]
  congr 1
  funext n c
  rw [Nat.mul_comm]
  rfl

theorem digitsValue_append (front back : List Char) :
    digitsValue (front ++ back) = digitsValue front * 10 ^ back.length + digitsValue back := by
  rw [digitsValue_eq, digitsValue_eq, digitsValue_eq, Nat.ofDigitChars_append,
    Nat.ofDigitChars_eq_ofDigitChars_zero, Nat.mul_comm]

theorem digitsValue_toDigits (n : Nat) : digitsValue (Nat.toDigits 10 n) = n := by
  rw [digitsValue_eq, Nat.ofDigitChars_ten_toDigits]

theorem digitsValue_zeros (count : Nat) : digitsValue (List.replicate count '0') = 0 := by
  rw [digitsValue_eq, Nat.ofDigitChars_replicate_zero, Nat.mul_zero]

theorem isDigit_of_mem_toDigits (member : c ∈ Nat.toDigits 10 n) : c.isDigit = true :=
  Nat.isDigit_of_mem_toDigits (by decide) (by decide) member

theorem isDigit_of_mem_zeros {count : Nat} (member : c ∈ List.replicate count '0') :
    c.isDigit = true := by
  obtain rfl := List.eq_of_mem_replicate member
  rfl

/-- Only the number zero is written with a zero in front. -/
theorem head?_toDigits (positive : 0 < n) : (Nat.toDigits 10 n).head? ≠ some '0' := by
  induction n using Nat.strong_induction_on with
  | _ n ih =>
    rw [Nat.toDigits_eq_if (by decide)]
    split
    next small =>
      have digits : ∀ n < 10, 0 < n → [Nat.digitChar n].head? ≠ some '0' := by decide
      exact digits n small positive
    next large =>
      rw [List.head?_append_of_ne_nil _ Nat.toDigits_ne_nil]
      exact ih (n / 10) (by omega) (by omega)

theorem digitsValue_leftpad (k n : Nat) :
    digitsValue ((Nat.toDigits 10 n).leftpad k '0') = n := by
  rw [List.leftpad, digitsValue_append, digitsValue_zeros, Nat.zero_mul, Nat.zero_add,
    digitsValue_toDigits]

theorem isDigit_of_mem_leftpad {k : Nat} (member : c ∈ (Nat.toDigits 10 n).leftpad k '0') :
    c.isDigit = true :=
  (List.mem_append.mp member).elim isDigit_of_mem_zeros isDigit_of_mem_toDigits

theorem canonical_toDigits (n : Nat) :
    Nat.toDigits 10 n = ['0'] ∨ (Nat.toDigits 10 n).head? ≠ some '0' := by
  by_cases zero : n = 0
  · exact .inl (zero ▸ rfl)
  · exact .inr (head?_toDigits (Nat.pos_of_ne_zero zero))

theorem length_leftpad (k : Nat) (digits : List Char) :
    (digits.leftpad k '0').length = max k digits.length := by
  rw [List.leftpad, List.length_append, List.length_replicate]
  omega

theorem spanDigits_append (isDigits : ∀ c ∈ digits, c.isDigit = true)
    (halts : Halts Char.isDigit rest) : spanDigits (digits ++ rest) = (digits, rest) := by
  rw [spanDigits, Text.takeWhile_append_of_halts isDigits halts,
    Text.dropWhile_append_of_halts isDigits halts]

end Digits

/-! ## Numerals -/

/-- Whether a number may go on with a character. -/
def continuesNumber (c : Char) : Bool := c.isDigit || c == '.' || c == 'e' || c == 'E'

/-- The parts of a written number. -/
structure Numeral where
  /-- Whether a sign stands in front. -/
  negative : Bool
  /-- The digits in front of the point. -/
  whole : List Char
  /-- The digits behind the point; no point is written if there are none. -/
  fraction : List Char
  /-- The power of ten, if one is written: whether it is negative, and its digits. -/
  power : Option (Bool × List Char)
  filled : whole ≠ []
  canonical : whole = ['0'] ∨ whole.head? ≠ some '0'
  wholeDigits : ∀ c ∈ whole, c.isDigit = true
  fractionDigits : ∀ c ∈ fraction, c.isDigit = true
  powerDigits : ∀ p ∈ power, p.2 ≠ [] ∧ ∀ c ∈ p.2, c.isDigit = true

namespace Numeral

variable (l : Numeral) {rest : List Char}

/-- The point and the digits behind it. -/
def fractionChars : List Char := if l.fraction.isEmpty then [] else '.' :: l.fraction

/-- The mark of a power of ten and its digits. -/
def powerChars : List Char :=
  match l.power with
  | none => []
  | some (negative, digits) => 'e' :: (if negative then '-' else '+') :: digits

/-- The text without a sign. -/
def unsigned : List Char := l.whole ++ l.fractionChars ++ l.powerChars

/-- The text. -/
def chars : List Char := if l.negative then '-' :: l.unsigned else l.unsigned

/-- The power of ten. -/
def powerValue : Option Int :=
  l.power.map fun p => if p.1 then -(digitsValue p.2 : Int) else digitsValue p.2

/-- The power of ten of the last digit. -/
def exponent : Int := l.powerValue.getD 0 - l.fraction.length

/-- The number. -/
def value : Number :=
  if l.fraction.isEmpty && l.power.isNone then
    .whole (if l.negative then -(digitsValue l.whole : Int) else digitsValue l.whole)
  else .real (Binary64.ofDecimal l.negative (digitsValue (l.whole ++ l.fraction)) l.exponent)

theorem mem_fractionChars {c : Char} (member : c ∈ l.fractionChars) :
    c.isDigit = true ∨ c = '.' := by
  rw [fractionChars] at member
  split at member
  · exact absurd member List.not_mem_nil
  · obtain rfl | member := List.mem_cons.mp member
    · exact .inr rfl
    · exact .inl (l.fractionDigits c member)

theorem mem_powerChars {c : Char} (member : c ∈ l.powerChars) :
    c.isDigit = true ∨ c ∈ ['e', '-', '+'] := by
  have digits := l.powerDigits
  rw [powerChars] at member
  cases power : l.power with
  | none =>
    rw [power] at member
    exact absurd member List.not_mem_nil
  | some p =>
    rw [power] at member digits
    obtain rfl | member := List.mem_cons.mp member
    · exact .inr (by decide)
    · obtain rfl | member := List.mem_cons.mp member
      · right
        split
        · decide
        · decide
      · exact .inl ((digits p rfl).2 c member)

/-- A numeral is made of digits, signs, the point and the mark of powers. -/
theorem mem_chars {c : Char} (member : c ∈ l.chars) :
    c.isDigit = true ∨ c ∈ ['-', '+', '.', 'e'] := by
  have unsigned (member : c ∈ l.unsigned) : c.isDigit = true ∨ c ∈ ['-', '+', '.', 'e'] := by
    rw [Numeral.unsigned, List.mem_append, List.mem_append] at member
    obtain (whole | fraction) | power := member
    · exact .inl (l.wholeDigits c whole)
    · exact (l.mem_fractionChars fraction).imp_right (by rintro rfl; decide)
    · refine (l.mem_powerChars power).imp_right fun mark => ?_
      simp only [List.mem_cons] at mark ⊢
      tauto
  rw [chars] at member
  split at member
  · obtain rfl | member := List.mem_cons.mp member
    · exact .inr (by decide)
    · exact unsigned member
  · exact unsigned member

theorem halts_rest (halts : Halts continuesNumber rest) : Halts Char.isDigit rest := by
  intro c first
  have := halts c first
  simp only [continuesNumber, Bool.or_eq_false_iff] at this
  exact this.1.1.1

theorem readExponent_of_halts (halts : Halts continuesNumber rest) :
    readExponent rest = (none, rest) := by
  rw [readExponent.eq_def]
  split
  next c tail =>
    have other := halts c rfl
    simp only [continuesNumber, Bool.or_eq_false_iff, beq_eq_false_iff_ne] at other
    rw [if_neg (not_or.mpr ⟨other.1.2, other.2⟩)]
  · rfl

theorem readExponent_power {negative : Bool} {digits : List Char} (filled : digits ≠ [])
    (isDigits : ∀ c ∈ digits, c.isDigit = true) (halts : Halts Char.isDigit rest) :
    readExponent ('e' :: (if negative then '-' else '+') :: (digits ++ rest)) =
      (some (if negative then -(digitsValue digits : Int) else digitsValue digits), rest) := by
  have span := spanDigits_append isDigits halts
  cases negative with
  | true => simp [readExponent, span, filled]
  | false => simp [readExponent, span, filled]

theorem readExponent_powerChars (halts : Halts continuesNumber rest) :
    readExponent (l.powerChars ++ rest) = (l.powerValue, rest) := by
  have digits := l.powerDigits
  rw [powerChars, powerValue]
  cases power : l.power with
  | none => exact readExponent_of_halts halts
  | some p =>
    obtain ⟨negative, exponent⟩ := p
    obtain ⟨filled, isDigits⟩ := digits _ power
    exact readExponent_power filled isDigits (halts_rest halts)

theorem halts_powerChars (halts : Halts continuesNumber rest) :
    Halts (fun c => c.isDigit || c == '.') (l.powerChars ++ rest) := by
  rw [powerChars]
  cases l.power with
  | none =>
    intro c first
    have other := halts c first
    simp only [continuesNumber, Bool.or_eq_false_iff] at other ⊢
    exact other.1.1
  | some p => exact Text.halts_cons.mpr (by decide)

theorem readFraction_fractionChars (halts : Halts continuesNumber rest) :
    readFraction (l.fractionChars ++ (l.powerChars ++ rest)) =
      (l.fraction, l.powerChars ++ rest) := by
  have after := l.halts_powerChars halts
  have halts' : Halts Char.isDigit (l.powerChars ++ rest) := by
    intro c first
    exact (Bool.or_eq_false_iff.mp (after c first)).1
  have span := spanDigits_append l.fractionDigits halts'
  rw [fractionChars]
  by_cases none : l.fraction = []
  · rw [none, List.isEmpty_nil, if_pos rfl, List.nil_append, readFraction.eq_def]
    split
    next tail text =>
      rw [text] at after
      exact absurd (after '.' rfl) (by decide)
    · rfl
  · rw [if_neg (by simpa using none), List.cons_append, readFraction, span]
    rw [if_neg (by simpa using none)]

/-- The digits in front of the point, a zero only on its own, and the rest. -/
def leading? (unsigned : List Char) : Option (List Char × List Char) :=
  match unsigned with
  | '0' :: rest => some (['0'], rest)
  | _ => if (spanDigits unsigned).1.isEmpty then none else some (spanDigits unsigned)

/-- Whether a sign stands in front, and what follows it. -/
def signed (text : List Char) : Bool × List Char :=
  match text with
  | '-' :: unsigned => (true, unsigned)
  | unsigned => (false, unsigned)

theorem readNumber_def (text : List Char) : readNumber text =
    match leading? (signed text).2 with
    | none => none
    | some (digits, afterDigits) =>
      let (fraction, afterFraction) := readFraction afterDigits
      let (power, rest) := readExponent afterFraction
      if fraction.isEmpty && power.isNone then
        some (.whole (if (signed text).1 then -(digitsValue digits : Int) else digitsValue digits),
          rest)
      else
        let exponent := power.getD 0 - fraction.length
        some (.real (Binary64.ofDecimal (signed text).1 (digitsValue (digits ++ fraction))
          exponent), rest) :=
  rfl

theorem leading?_whole {tail : List Char} (halts : Halts Char.isDigit tail) :
    leading? (l.whole ++ tail) = some (l.whole, tail) := by
  have span := spanDigits_append l.wholeDigits halts
  obtain zero | other := l.canonical
  · rw [zero]
    rfl
  · rw [leading?.eq_def]
    split
    next rest text =>
      rw [← List.head?_append_of_ne_nil _ l.filled, text] at other
      exact absurd rfl other
    · rw [span, if_neg (by simpa using l.filled)]

theorem exists_unsigned : ∃ c tail, l.unsigned = c :: tail ∧ c.isDigit = true := by
  cases whole : l.whole with
  | nil => exact absurd whole l.filled
  | cons c tail =>
    refine ⟨c, tail ++ l.fractionChars ++ l.powerChars, ?_, ?_⟩
    · rw [unsigned, whole]
      rfl
    · exact l.wholeDigits c (whole ▸ List.mem_cons_self)

theorem signed_chars : signed (l.chars ++ rest) = (l.negative, l.unsigned ++ rest) := by
  rw [chars]
  cases l.negative with
  | true => rfl
  | false =>
    rw [if_neg Bool.false_ne_true, signed.eq_def]
    split
    next tail text =>
      obtain ⟨c, after, first, digit⟩ := l.exists_unsigned
      rw [first] at text
      obtain rfl := (List.cons.inj text).1
      exact absurd digit (by decide)
    · rfl

/-- A numeral is read to its end, and as the number that it stands for. -/
theorem readNumber_chars (halts : Halts continuesNumber rest) :
    readNumber (l.chars ++ rest) = some (l.value, rest) := by
  have afterWhole : Halts Char.isDigit (l.fractionChars ++ (l.powerChars ++ rest)) := by
    rw [fractionChars]
    split
    · exact fun c first => (Bool.or_eq_false_iff.mp (l.halts_powerChars halts c first)).1
    · exact Text.halts_cons.mpr (by decide)
  rw [readNumber_def, signed_chars]
  dsimp only
  rw [unsigned, List.append_assoc, List.append_assoc, leading?_whole l afterWhole]
  dsimp only
  rw [readFraction_fractionChars l halts]
  dsimp only
  rw [readExponent_powerChars l halts, value, exponent]
  have same : l.powerValue.isNone = l.power.isNone := Option.isNone_map
  dsimp only
  rw [same]
  split
  · rfl
  · rfl

end Numeral

/-! ## Written numbers -/

section Written

open Decimal

variable {n k : Nat}

/-- A whole number is written as a numeral of the same value. -/
theorem exists_numeral_whole (n : Int) :
    ∃ l : Numeral, l.chars = (toString n).toList ∧ l.value = .whole n := by
  refine ⟨{
    negative := n < 0
    whole := Nat.toDigits 10 n.natAbs
    fraction := []
    power := none
    filled := Nat.toDigits_ne_nil
    canonical := canonical_toDigits _
    wholeDigits := fun c => isDigit_of_mem_toDigits
    fractionDigits := fun c member => absurd member List.not_mem_nil
    powerDigits := fun p member => absurd member (by simp) }, ?_, ?_⟩
  · rw [Int.toString_eq_repr, Int.repr_eq_if]
    simp only [Numeral.chars, Numeral.unsigned, Numeral.fractionChars, Numeral.powerChars,
      List.isEmpty_nil, if_true, List.append_nil, decide_eq_true_iff]
    by_cases negative : n < 0
    · rw [if_pos negative, if_neg (by omega), show (-n).toNat = n.natAbs by omega]
      simp [Nat.repr]
    · rw [if_neg negative, if_pos (by omega), Nat.repr, String.toList_ofList,
        show n.toNat = n.natAbs by omega]
  · simp only [Numeral.value, List.isEmpty_nil, Option.isNone_none, Bool.and_true, if_true,
      digitsValue_toDigits, decide_eq_true_iff]
    congr 1
    split
    · omega
    · omega

/-- Whether a text is a numeral without a sign that is not whole and has a value. -/
def IsDecimal (text : List Char) (v : ℚ) : Prop :=
  ∀ negative, ∃ l : Numeral, l.negative = negative ∧ l.unsigned = text ∧
    (l.fraction.isEmpty && l.power.isNone) = false ∧
    (digitsValue (l.whole ++ l.fraction) : ℚ) * 10 ^ l.exponent = v

theorem isDecimal_pointZero (positive : 0 < n) (k : Nat) :
    IsDecimal (Nat.toDigits 10 n ++ List.replicate k '0' ++ ['.', '0']) (n * 10 ^ (k : Int)) := by
  intro negative
  refine ⟨{
    negative := negative
    whole := Nat.toDigits 10 n ++ List.replicate k '0'
    fraction := ['0']
    power := none
    filled := List.append_ne_nil_of_left_ne_nil Nat.toDigits_ne_nil _
    canonical := .inr (by
      rw [List.head?_append_of_ne_nil _ Nat.toDigits_ne_nil]
      exact head?_toDigits positive)
    wholeDigits := fun c member =>
      (List.mem_append.mp member).elim isDigit_of_mem_toDigits isDigit_of_mem_zeros
    fractionDigits := fun c member => List.mem_singleton.mp member ▸ rfl
    powerDigits := fun p member => absurd member (by simp) }, rfl, ?_, rfl, ?_⟩
  · simp [Numeral.unsigned, Numeral.fractionChars, Numeral.powerChars]
  · rw [digitsValue_append, digitsValue_append, digitsValue_toDigits, digitsValue_zeros,
      List.length_replicate, Numeral.exponent, Numeral.powerValue]
    simp [digitsValue]

theorem isDecimal_positional (n : Nat) (filled : k ≠ 0) :
    IsDecimal (positional k n).toList (n * 10 ^ (-k : Int)) := by
  intro negative
  have short : (Nat.toDigits 10 (n % tenTo k)).length ≤ k :=
    (Nat.length_toDigits_le_iff (by decide) (Nat.pos_of_ne_zero filled)).mpr
      (Nat.mod_lt _ (Nat.pow_pos (by decide)))
  have length : ((Nat.toDigits 10 (n % tenTo k)).leftpad k '0').length = k := by
    rw [length_leftpad]
    omega
  have some : (Nat.toDigits 10 (n % tenTo k)).leftpad k '0' ≠ [] :=
    List.ne_nil_of_length_pos (by omega)
  refine ⟨{
    negative := negative
    whole := Nat.toDigits 10 (n / tenTo k)
    fraction := (Nat.toDigits 10 (n % tenTo k)).leftpad k '0'
    power := none
    filled := Nat.toDigits_ne_nil
    canonical := canonical_toDigits _
    wholeDigits := fun c => isDigit_of_mem_toDigits
    fractionDigits := fun c => isDigit_of_mem_leftpad
    powerDigits := fun p member => absurd member (by simp) }, rfl, ?_, ?_, ?_⟩
  · rw [positional, if_neg filled]
    simp [Numeral.unsigned, Numeral.fractionChars, Numeral.powerChars, digits]
  · rw [List.isEmpty_eq_false_iff.mpr some, Bool.false_and]
  · have parts : n / tenTo k * 10 ^ k + n % tenTo k = n := Nat.div_add_mod' n (10 ^ k)
    rw [digitsValue_append, digitsValue_toDigits, digitsValue_leftpad, length, parts,
      Numeral.exponent, Numeral.powerValue, length]
    simp

theorem isDecimal_scientific (positive : 0 < n) (lead : Int) {d : Char} {more : List Char}
    (figures : Nat.toDigits 10 n = d :: more) :
    IsDecimal ((d :: if more = [] then [] else '.' :: more) ++
      'e' :: (if lead < 0 then '-' else '+') :: (Nat.toDigits 10 lead.natAbs).leftpad 2 '0')
      (n * 10 ^ (lead - more.length)) := by
  intro negative
  have isDigits : ∀ c ∈ d :: more, c.isDigit = true := fun c member =>
    isDigit_of_mem_toDigits (figures ▸ member)
  refine ⟨{
    negative := negative
    whole := [d]
    fraction := more
    power := some (lead < 0, (Nat.toDigits 10 lead.natAbs).leftpad 2 '0')
    filled := List.cons_ne_nil _ _
    canonical := .inr (by
      have other := head?_toDigits positive
      rwa [figures] at other)
    wholeDigits := fun c member =>
      isDigits c (List.mem_singleton.mp member ▸ List.mem_cons_self)
    fractionDigits := fun c member => isDigits c (List.mem_cons_of_mem _ member)
    powerDigits := ?_ }, rfl, ?_, ?_, ?_⟩
  · rintro p isPower
    obtain rfl := Option.some.inj isPower
    refine ⟨List.ne_nil_of_length_pos ?_, fun c => isDigit_of_mem_leftpad⟩
    rw [length_leftpad]
    omega
  · simp [Numeral.unsigned, Numeral.fractionChars, Numeral.powerChars]
  · simp
  · have value : digitsValue ([d] ++ more) = n := by
      rw [List.singleton_append, ← figures, digitsValue_toDigits]
    have sign : (if lead < 0 then -(lead.natAbs : Int) else lead.natAbs) = lead := by
      split
      · omega
      · omega
    rw [value, Numeral.exponent, Numeral.powerValue]
    simp only [Option.map_some, Option.getD_some, decide_eq_true_iff, digitsValue_leftpad, sign]

theorem toList_powerMark (p : Prop) [Decidable p] :
    (if p then "e-" else "e+").toList = ['e', if p then '-' else '+'] := by
  split
  · rfl
  · rfl

/-- A positive decimal is spread out as a numeral of its value. -/
theorem isDecimal_render {s : Scientific} (positive : 0 < s.digits) :
    IsDecimal (Spread.standard.render s).toList s.value := by
  rw [Spread.render, Scientific.value]
  dsimp only
  split
  · split
    next natural =>
      have decimal := isDecimal_pointZero positive s.exponent.toNat
      rw [Int.toNat_of_nonneg natural] at decimal
      simpa using decimal
    next small =>
      have decimal := isDecimal_positional s.digits (k := s.exponent.natAbs) (by omega)
      rwa [show -(s.exponent.natAbs : Int) = s.exponent by omega] at decimal
  · obtain ⟨d, more, figures⟩ := List.exists_cons_of_ne_nil (Nat.toDigits_ne_nil (n := s.digits))
    have decimal := isDecimal_scientific positive (s.exponent + more.length) figures
    rw [show s.exponent + more.length - more.length = s.exponent by omega] at decimal
    rw [figures, List.length_cons, show s.exponent + (more.length + 1 : Nat) - 1 =
      s.exponent + more.length by omega]
    cases more with
    | nil => simpa [toList_powerMark] using decimal
    | cons second more => simpa [toList_powerMark] using decimal

/-- The numeral of zero. -/
def Numeral.zero (negative : Bool) : Numeral where
  negative := negative
  whole := ['0']
  fraction := ['0']
  power := none
  filled := List.cons_ne_nil _ _
  canonical := .inl rfl
  wholeDigits := fun _ member => List.mem_singleton.mp member ▸ rfl
  fractionDigits := fun _ member => List.mem_singleton.mp member ▸ rfl
  powerDigits := fun _ member => absurd member (by simp)

theorem size_of_mantissa_eq_zero {d : Dyadic} (regular : d.IsRegular) (zero : d.mantissa = 0) :
    d.size = Float.ofBits 0 := by
  have least : d.exponent = -1074 := by
    have := regular.normal
    omega
  rw [Dyadic.size, zero, least]
  rfl

/-- A finite number is written as a numeral that is read as the number. -/
theorem exists_numeral_real {x : Float} (finite : x.isFinite = true) :
    ∃ l : Numeral, l.chars = (shortest x).toList ∧ l.value = .real x := by
  obtain ⟨d, isValue⟩ := Dyadic.exists_ofFloat finite
  have regular := Dyadic.isRegular_of_ofFloat isValue
  have same := Dyadic.toFloat_of_ofFloat isValue
  rw [shortest, isValue]
  by_cases zero : d.mantissa = 0
  · refine ⟨.zero d.negative, ?_, ?_⟩
    · dsimp only [Numeral.zero, Numeral.chars, Numeral.unsigned, Numeral.fractionChars,
        Numeral.powerChars]
      rw [if_pos zero]
      cases d.negative with
      | true => rfl
      | false => rfl
    · have number : Binary64.ofDecimal d.negative 0 (0 - 1) = x := by
        rw [Binary64.ofDecimal_zero, ← size_of_mantissa_eq_zero regular zero]
        exact same
      exact congrArg Number.real number
  · obtain ⟨digits, covers⟩ := trim_shortestOf_spec regular (Nat.pos_of_ne_zero zero) 20
    obtain ⟨l, sign, text, isReal, value⟩ := isDecimal_render digits d.negative
    refine ⟨l, ?_, ?_⟩
    · rw [Numeral.chars, sign, text]
      dsimp only
      rw [if_neg zero]
      cases d.negative with
      | true => simp
      | false => simp
    · rw [Numeral.value, isReal, if_neg Bool.false_ne_true, sign,
        Binary64.ofDecimal_eq regular (Nat.pos_of_ne_zero zero) _ (value ▸ covers)]
      exact congrArg Number.real same

end Written

end SiteAtlas.Json
