import Mathlib
import SiteAtlas.Decimal.Binary64

/-! # Binary64 numbers and their values

A finite number is its sign and the number that `assemble` makes of its mantissa and its power of
two. So two ways of computing a number agree as soon as they agree on mantissa, power and sign.
-/

namespace SiteAtlas

open Float.Model Float.Model.UnpackedFloat

namespace Binary64

variable {sign : Sign} {exponent : BitVec 11} {mantissa : BitVec 52} {bits flipped : UInt64}

/-- The three parts of the bits, as one number. -/
theorem toNat_packComponents (sign : Sign) (exponent : BitVec 11) (mantissa : BitVec 52) :
    (packComponents .binary64 sign exponent mantissa).toNat =
      sign.toBitVec.toNat * 2 ^ 63 + exponent.toNat * 2 ^ 52 + mantissa.toNat := by
  rw [packComponents, BitVec.toNat_append, BitVec.toNat_append,
    ← Nat.shiftLeft_add_eq_or_of_lt exponent.isLt, ← Nat.shiftLeft_add_eq_or_of_lt mantissa.isLt,
    Nat.shiftLeft_eq, Nat.shiftLeft_eq]
  omega

/-- The negative of what bits stand for is what the same bits with the other sign stand for. -/
theorem neg_unpack (finite : exponent ≠ -1#11) :
    (UnpackedFloat.unpack .binary64 (packComponents .binary64 sign exponent mantissa)).neg =
      UnpackedFloat.unpack .binary64 (packComponents .binary64 (-sign) exponent mantissa) := by
  unfold UnpackedFloat.unpack
  simp only [unpackExponent_packComponents, unpackMantissa_packComponents,
    unpackSign_packComponents, Sign.ofBitVec_toBitVec]
  rw [if_neg finite, if_neg finite]
  split
  · split
    · rfl
    · rfl
  · rfl

theorem unpack_ofBits (number : @isNaNBits .binary64 bits.toBitVec = false) :
    (Float.ofBits bits).toModel.unpack = UnpackedFloat.unpack .binary64 bits.toBitVec := by
  have kept : UnpackedFloat.pack .binary64 (UnpackedFloat.unpack .binary64 bits.toBitVec) =
      bits.toBitVec := by
    rw [@pack_unpack .binary64 bits.toBitVec (by decide), number]
    rfl
  exact congrArg (UnpackedFloat.unpack .binary64) kept

theorem neg_ofBits (finite : exponent ≠ -1#11)
    (parts : bits.toBitVec = packComponents .binary64 sign exponent mantissa)
    (others : flipped.toBitVec = packComponents .binary64 (-sign) exponent mantissa) :
    -Float.ofBits bits = Float.ofBits flipped := by
  have number : @isNaNBits .binary64 bits.toBitVec = false := by
    rw [parts, isNaNBits, unpackExponent_packComponents]
    exact decide_eq_false fun nan => finite nan.1
  have model : (-Float.ofBits bits).toModel = (Float.ofBits flipped).toModel := by
    change Float.Model.pack ((Float.ofBits bits).toModel.unpack.neg) = Float.Model.ofBits flipped
    rw [unpack_ofBits number, parts, neg_unpack finite, ← others]
    rfl
  exact congrArg Float.ofModel model

end Binary64

namespace Dyadic

variable {x : Float} {d : Dyadic}

/-- Whether a value is one that finite bits stand for: its mantissa has at most 53 digits, and
exactly as many unless it is among the smallest. -/
structure IsRegular (d : Dyadic) : Prop where
  mantissa_lt : d.mantissa < 2 ^ 53
  exponent_ge : -1074 ≤ d.exponent
  exponent_le : d.exponent ≤ 971
  normal : d.exponent = -1074 ∨ 2 ^ 52 ≤ d.mantissa

/-- The number without a sign that has the value's size. -/
def size (d : Dyadic) : Float := Binary64.assemble d.mantissa (d.exponent + 1074).toNat

/-- The number that has the value. -/
def toFloat (d : Dyadic) : Float := if d.negative then -d.size else d.size

/-- The eleven bits of the power of two. -/
def biased (x : Float) : Nat := x.toBits.toNat / 2 ^ 52 % 2 ^ 11

/-- The fifty-two bits behind the point. -/
def fraction (x : Float) : Nat := x.toBits.toNat % 2 ^ 52

theorem biased_lt (x : Float) : biased x < 2 ^ 11 := Nat.mod_lt _ (by decide)

theorem fraction_lt (x : Float) : fraction x < 2 ^ 52 := Nat.mod_lt _ (by decide)

theorem toNat_toBits (x : Float) :
    x.toBits.toNat = x.toBits.toNat / 2 ^ 63 * 2 ^ 63 + biased x * 2 ^ 52 + fraction x := by
  have bound := x.toBits.toNat_lt
  rw [biased, fraction]
  omega

theorem toNat_unpackExponent (x : Float) :
    (@unpackExponent .binary64 x.toBits.toBitVec).toNat = biased x := by
  rw [unpackExponent_def, BitVec.extractLsb'_toNat, Nat.shiftRight_eq_div_pow]
  rfl

theorem toNat_unpackMantissa (x : Float) :
    (@unpackMantissa .binary64 x.toBits.toBitVec).toNat = fraction x := by
  rw [unpackMantissa_def, BitVec.extractLsb'_toNat]
  rfl

theorem ofFloat_def (x : Float) : ofFloat x =
    if biased x = 2047 then none
    else if biased x = 0 then some ⟨x.toBits.toNat / 2 ^ 63 == 1, fraction x, -1074⟩
    else some ⟨x.toBits.toNat / 2 ^ 63 == 1, 2 ^ 52 + fraction x, biased x - 1075⟩ :=
  rfl

/-- What `ofFloat` reads off the bits. -/
theorem parts_of_ofFloat (value : ofFloat x = some d) :
    biased x ≠ 2047 ∧ d.negative = (x.toBits.toNat / 2 ^ 63 == 1) ∧
      (biased x = 0 ∧ d.mantissa = fraction x ∧ d.exponent = -1074 ∨
        biased x ≠ 0 ∧ d.mantissa = 2 ^ 52 + fraction x ∧ d.exponent = biased x - 1075) := by
  rw [ofFloat_def] at value
  split at value
  · exact absurd value (by simp)
  next finite =>
    split at value
    next least =>
      obtain rfl := Option.some.inj value
      exact ⟨finite, rfl, .inl ⟨least, rfl, rfl⟩⟩
    next more =>
      obtain rfl := Option.some.inj value
      exact ⟨finite, rfl, .inr ⟨more, rfl, rfl⟩⟩

theorem isRegular_of_ofFloat (value : ofFloat x = some d) : d.IsRegular := by
  obtain ⟨finite, -, parts⟩ := parts_of_ofFloat value
  have small := fraction_lt x
  have range := biased_lt x
  constructor
  · omega
  · omega
  · omega
  · omega

/-- The bits of a finite number, without the sign. -/
def unsigned (x : Float) : UInt64 := UInt64.ofNat (biased x * 2 ^ 52 + fraction x)

theorem toNat_unsigned (x : Float) : (unsigned x).toNat = biased x * 2 ^ 52 + fraction x := by
  have small := fraction_lt x
  have range := biased_lt x
  exact UInt64.toNat_ofNat_of_lt' (by rw [UInt64.size]; omega)

theorem size_of_ofFloat (value : ofFloat x = some d) : d.size = Float.ofBits (unsigned x) := by
  obtain ⟨finite, -, parts⟩ := parts_of_ofFloat value
  have small := fraction_lt x
  have range := biased_lt x
  have step : (d.exponent + 1074).toNat * 2 ^ 52 + d.mantissa = biased x * 2 ^ 52 + fraction x := by
    omega
  simp only [size, Binary64.assemble, twoTo, Nat.pow_eq]
  rw [step, Nat.min_eq_left (by omega)]
  rfl

theorem unsigned_eq (positive : x.toBits.toNat / 2 ^ 63 ≠ 1) : unsigned x = x.toBits := by
  have bits := toNat_toBits x
  have bound := x.toBits.toNat_lt
  apply UInt64.toNat_inj.mp
  rw [toNat_unsigned]
  omega

theorem neg_unsigned (finite : biased x ≠ 2047) (negative : x.toBits.toNat / 2 ^ 63 = 1) :
    -Float.ofBits (unsigned x) = Float.ofBits x.toBits := by
  have exponent : @unpackExponent .binary64 x.toBits.toBitVec ≠ -1#11 := by
    intro all
    apply finite
    rw [← toNat_unpackExponent, all]
    rfl
  have parts : (unsigned x).toBitVec =
      packComponents .binary64 .positive (unpackExponent x.toBits.toBitVec)
        (unpackMantissa x.toBits.toBitVec) := by
    apply BitVec.eq_of_toNat_eq
    rw [Binary64.toNat_packComponents, toNat_unpackExponent, toNat_unpackMantissa,
      show Sign.positive.toBitVec.toNat = 0 from rfl, Nat.zero_mul, Nat.zero_add]
    exact toNat_unsigned x
  have others : x.toBits.toBitVec =
      packComponents .binary64 (-.positive) (unpackExponent x.toBits.toBitVec)
        (unpackMantissa x.toBits.toBitVec) := by
    apply BitVec.eq_of_toNat_eq
    rw [Binary64.toNat_packComponents, toNat_unpackExponent, toNat_unpackMantissa,
      show (-Sign.positive).toBitVec.toNat = 1 from rfl, ← negative]
    exact toNat_toBits x
  exact Binary64.neg_ofBits exponent parts others

/-- A finite number is the one that its value stands for. -/
theorem toFloat_of_ofFloat (value : ofFloat x = some d) : d.toFloat = x := by
  have same := size_of_ofFloat value
  obtain ⟨finite, sign, -⟩ := parts_of_ofFloat value
  rw [toFloat, sign, same]
  by_cases negative : x.toBits.toNat / 2 ^ 63 = 1
  · rw [if_pos (by simpa using negative), neg_unsigned finite negative, Float.ofBits_toBits]
  · rw [if_neg (by simpa using negative), unsigned_eq negative, Float.ofBits_toBits]

theorem exists_ofFloat (finite : x.isFinite = true) : ∃ d, ofFloat x = some d := by
  have range : biased x ≠ 2047 := by
    intro all
    have exponent : @unpackExponent .binary64 x.toBits.toBitVec = -1#11 := by
      apply BitVec.eq_of_toNat_eq
      rw [toNat_unpackExponent, all]
      rfl
    change (UnpackedFloat.unpack .binary64 x.toBits.toBitVec).isFinite = true at finite
    unfold UnpackedFloat.unpack at finite
    rw [if_pos exponent] at finite
    split at finite
    · exact absurd finite Bool.false_ne_true
    · exact absurd finite Bool.false_ne_true
  rw [ofFloat_def, if_neg range]
  split
  · exact ⟨_, rfl⟩
  · exact ⟨_, rfl⟩

theorem isNaN_eq_false (finite : x.isFinite = true) : x.isNaN = false := by
  change x.toModel.unpack.isFinite = true at finite
  change x.toModel.unpack.isNaN = false
  cases unpacked : x.toModel.unpack <;> rw [unpacked] at finite
  · rfl
  · exact absurd finite Bool.false_ne_true
  · rfl
  · rfl

theorem isInf_eq_false (finite : x.isFinite = true) : x.isInf = false := by
  change x.toModel.unpack.isFinite = true at finite
  change x.toModel.unpack.isInf = false
  cases unpacked : x.toModel.unpack <;> rw [unpacked] at finite
  · exact absurd finite Bool.false_ne_true
  · rfl
  · rfl
  · rfl

/-- A number whose bits have a value is finite. -/
theorem isFinite_of_ofFloat (value : ofFloat x = some d) : x.isFinite = true := by
  obtain ⟨range, -⟩ := parts_of_ofFloat value
  have exponent : @unpackExponent .binary64 x.toBits.toBitVec ≠ -1#11 := by
    intro all
    apply range
    rw [← toNat_unpackExponent, all]
    rfl
  change (UnpackedFloat.unpack .binary64 x.toBits.toBitVec).isFinite = true
  unfold UnpackedFloat.unpack
  rw [if_neg exponent]
  split
  · split
    · rfl
    · rfl
  · rfl

/-- The infinite numbers are those that have no value and yet are numbers. -/
theorem isInf_iff : x.isInf = true ↔ ofFloat x = none ∧ x.isNaN = false := by
  cases value : ofFloat x with
  | some d => simp [isInf_eq_false (isFinite_of_ofFloat value)]
  | none =>
    have noValue : x.isFinite = false := by
      rw [← Bool.not_eq_true]
      intro finite
      obtain ⟨d, found⟩ := exists_ofFloat finite
      cases value.symm.trans found
    change x.toModel.unpack.isFinite = false at noValue
    change x.toModel.unpack.isInf = true ↔ _ ∧ x.toModel.unpack.isNaN = false
    cases unpacked : x.toModel.unpack <;> rw [unpacked] at noValue
    · simp [UnpackedFloat.isInf, UnpackedFloat.isNaN]
    · simp [UnpackedFloat.isInf, UnpackedFloat.isNaN]
    · cases noValue
    · cases noValue

end Dyadic

end SiteAtlas
