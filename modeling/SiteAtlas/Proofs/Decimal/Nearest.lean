import SiteAtlas.Proofs.Decimal.Binary64

/-! # Rounding to the nearest number

Around every finite number lies an interval of values that are nearer to it than to any other
number; an end, half way to the next one, belongs to it if its mantissa is even. Whichever value of
the interval is rounded, and however it is written as a quotient, the number comes out.
-/

namespace SiteAtlas

namespace Dyadic

/-- The size of the value. -/
def value (d : Dyadic) : ℚ := d.mantissa * 2 ^ d.exponent

theorem ratio_eq_value (d : Dyadic) : (d.ratio.1 : ℚ) / d.ratio.2 = d.value := by
  rw [ratio, value]
  split
  next negative =>
    obtain ⟨n, shift⟩ := Int.eq_negSucc_of_lt_zero negative
    rw [shift]
    simp [twoTo, zpow_negSucc, div_eq_mul_inv]
  next natural =>
    obtain ⟨n, shift⟩ := Int.eq_ofNat_of_zero_le (Int.not_lt.mp natural)
    rw [shift]
    simp [twoTo]

/-- The whole part of a value is the quotient without its remainder. -/
theorem floor_value (d : Dyadic) : ⌊d.value⌋ = (d.ratio.1 / d.ratio.2 : Nat) := by
  rw [← ratio_eq_value, Rat.floor_natCast_div_natCast]
  rfl

/-- How far the interval reaches below the value, in units of the last digit: half a unit, and half
of that where the next number below lies half a unit away. -/
def reachBelow (d : Dyadic) : ℚ := if d.mantissa = 2 ^ 52 ∧ -1074 < d.exponent then 1 / 4 else 1 / 2

theorem reachBelow_le (d : Dyadic) : d.reachBelow ≤ 1 / 2 := by
  rw [reachBelow]
  split
  · norm_num
  · norm_num

/-- The lower end of the interval. -/
def low (d : Dyadic) : ℚ := (d.mantissa - d.reachBelow) * 2 ^ d.exponent

/-- The upper end of the interval. -/
def high (d : Dyadic) : ℚ := (d.mantissa + 1 / 2) * 2 ^ d.exponent

/-- Whether a size belongs to the interval. -/
def Covers (d : Dyadic) (v : ℚ) : Prop :=
  if d.mantissa % 2 = 0 then d.low ≤ v ∧ v ≤ d.high else d.low < v ∧ v < d.high

variable {d : Dyadic} {v : ℚ}

theorem Covers.low_le (covers : d.Covers v) : d.low ≤ v := by
  rw [Covers] at covers
  split at covers
  · exact covers.1
  · exact covers.1.le

theorem Covers.le_high (covers : d.Covers v) : v ≤ d.high := by
  rw [Covers] at covers
  split at covers
  · exact covers.2
  · exact covers.2.le

theorem Covers.strict (covers : d.Covers v) (odd : d.mantissa % 2 = 1) :
    d.low < v ∧ v < d.high := by
  rwa [Covers, if_neg (by omega)] at covers

theorem le_low (regular : d.IsRegular) (positive : 0 < d.mantissa) :
    (2 : ℚ) ^ (-1075 : Int) ≤ d.low := by
  have whole : (1 : ℚ) ≤ d.mantissa := by exact_mod_cast positive
  have reach := d.reachBelow_le
  have unit : (2 : ℚ) ^ (-1074 : Int) ≤ 2 ^ d.exponent :=
    zpow_le_zpow_right₀ (by norm_num) regular.exponent_ge
  calc (2 : ℚ) ^ (-1075 : Int) = 1 / 2 * 2 ^ (-1074 : Int) := by
        rw [show (-1075 : Int) = -1 + -1074 by decide, zpow_add₀ (by norm_num)]
        norm_num
    _ ≤ 1 / 2 * 2 ^ d.exponent := mul_le_mul_of_nonneg_left unit (by norm_num)
    _ ≤ d.low := mul_le_mul_of_nonneg_right (by linarith) (zpow_nonneg (by norm_num) _)

theorem high_lt (regular : d.IsRegular) : d.high < 2 ^ (1024 : Int) := by
  have wide : (d.mantissa : ℚ) + 1 ≤ 2 ^ 53 := by exact_mod_cast regular.mantissa_lt
  have unit : (2 : ℚ) ^ d.exponent ≤ 2 ^ (971 : Int) :=
    zpow_le_zpow_right₀ (by norm_num) regular.exponent_le
  calc d.high < 2 ^ 53 * 2 ^ d.exponent :=
        mul_lt_mul_of_pos_right (by linarith) (zpow_pos (by norm_num) _)
    _ ≤ 2 ^ 53 * 2 ^ (971 : Int) := mul_le_mul_of_nonneg_left unit (by norm_num)
    _ = 2 ^ (1024 : Int) := by
        rw [← zpow_natCast, ← zpow_add₀ (by norm_num)]
        norm_num

end Dyadic

namespace Binary64

variable {num den k : Nat} {d : Dyadic}

/-- Twice the quotient is compared with odd numbers, all of it times the denominator. -/
theorem roundHalfEven_eq_of_le (positive : 0 < den) (low : 2 * (k * den) ≤ 2 * num + den)
    (high : 2 * num ≤ 2 * (k * den) + den)
    (strict : k % 2 = 1 → 2 * (k * den) < 2 * num + den ∧ 2 * num < 2 * (k * den) + den) :
    roundHalfEven num den = k := by
  have parts := Nat.div_add_mod num den
  have rest := Nat.mod_lt num positive
  rw [Nat.mul_comm] at parts
  have atMost : k ≤ num / den + 1 := by
    by_contra more
    have := Nat.mul_le_mul_right den (show num / den + 2 ≤ k by omega)
    rw [Nat.add_mul] at this
    omega
  have atLeast : num / den ≤ k := by
    by_contra less
    have := Nat.mul_le_mul_right den (show k + 1 ≤ num / den by omega)
    rw [Nat.add_mul] at this
    omega
  rw [roundHalfEven]
  obtain rfl | rfl : k = num / den ∨ k = num / den + 1 := by omega
  · split
    · rfl
    · split
      · omega
      · omega
  · rw [Nat.add_mul] at low high strict
    split
    · omega
    · split
      · rfl
      · omega

/-- A quotient is rounded to the whole number it is at most a half away from, an odd one only if it
is nearer than that. -/
theorem roundHalfEven_eq (positive : 0 < den) (low : (k : ℚ) - 1 / 2 ≤ num / den)
    (high : (num : ℚ) / den ≤ k + 1 / 2)
    (strict : k % 2 = 1 → (k : ℚ) - 1 / 2 < num / den ∧ (num : ℚ) / den < k + 1 / 2) :
    roundHalfEven num den = k := by
  have bottom : (0 : ℚ) < den := by exact_mod_cast positive
  apply roundHalfEven_eq_of_le positive
  · rw [le_div_iff₀ bottom] at low
    have : (2 * (k * den) : ℚ) ≤ 2 * num + den := by linarith
    exact_mod_cast this
  · rw [div_le_iff₀ bottom] at high
    have : (2 * num : ℚ) ≤ 2 * (k * den) + den := by linarith
    exact_mod_cast this
  · intro odd
    obtain ⟨lower, upper⟩ := strict odd
    rw [lt_div_iff₀ bottom] at lower
    rw [div_lt_iff₀ bottom] at upper
    have lower : (2 * (k * den) : ℚ) < 2 * num + den := by linarith
    have upper : (2 * num : ℚ) < 2 * (k * den) + den := by linarith
    exact ⟨by exact_mod_cast lower, by exact_mod_cast upper⟩

/-! ## The power of two in front of a quotient -/

/-- `num / den` times a power of two, as a quotient. -/
def scaled (num den : Nat) (shift : Int) : Nat × Nat :=
  if shift < 0 then (num, den * twoTo shift.natAbs) else (num * twoTo shift.toNat, den)

theorem scaled_ratio (num den : Nat) (shift : Int) :
    ((scaled num den shift).1 : ℚ) / (scaled num den shift).2 = num / den * 2 ^ shift := by
  rw [scaled]
  split
  next negative =>
    obtain ⟨n, rfl⟩ := Int.eq_negSucc_of_lt_zero negative
    simp [twoTo, zpow_negSucc, div_eq_mul_inv, mul_assoc, mul_comm]
  next natural =>
    obtain ⟨n, rfl⟩ := Int.eq_ofNat_of_zero_le (Int.not_lt.mp natural)
    simp [twoTo]
    ring

theorem scaled_pos (positive : 0 < den) (shift : Int) : 0 < (scaled num den shift).2 := by
  rw [scaled]
  split
  · exact Nat.mul_pos positive (Nat.two_pow_pos _)
  · exact positive

/-- The power of two of the first binary digit. -/
def leading (num den : Nat) : Int :=
  let estimate : Int := (num.log2 : Int) - den.log2
  let (top, bottom) := scaled num den (52 - estimate)
  if twoTo 52 * bottom ≤ top then estimate else estimate - 1

theorem two_zpow_le_of_log2 (n : Nat) (some : n ≠ 0) :
    (2 : ℚ) ^ (n.log2 : Int) ≤ n ∧ (n : ℚ) < 2 ^ ((n.log2 : Int) + 1) := by
  constructor
  · exact_mod_cast Nat.log2_self_le some
  · exact_mod_cast Nat.lt_log2_self

/-- The binary digits of numerator and denominator give the first digit of the quotient to within
one. -/
theorem ratio_between (top : num ≠ 0) (bottom : den ≠ 0) :
    (2 : ℚ) ^ ((num.log2 : Int) - den.log2 - 1) ≤ num / den ∧
      (num : ℚ) / den < 2 ^ ((num.log2 : Int) - den.log2 + 1) := by
  have positive : (0 : ℚ) < den := by exact_mod_cast Nat.pos_of_ne_zero bottom
  have two (k : Int) : (0 : ℚ) < 2 ^ k := zpow_pos (by norm_num) k
  obtain ⟨topLow, topHigh⟩ := two_zpow_le_of_log2 num top
  obtain ⟨bottomLow, bottomHigh⟩ := two_zpow_le_of_log2 den bottom
  constructor
  · rw [le_div_iff₀ positive]
    calc (2 : ℚ) ^ ((num.log2 : Int) - den.log2 - 1) * den ≤
          2 ^ ((num.log2 : Int) - den.log2 - 1) * 2 ^ ((den.log2 : Int) + 1) :=
        mul_le_mul_of_nonneg_left bottomHigh.le (two _).le
      _ = 2 ^ (num.log2 : Int) := by
        rw [← zpow_add₀ (by norm_num)]
        congr 1
        omega
      _ ≤ num := topLow
  · rw [div_lt_iff₀ positive]
    calc (num : ℚ) < 2 ^ ((num.log2 : Int) + 1) := topHigh
      _ = 2 ^ ((num.log2 : Int) - den.log2 + 1) * 2 ^ (den.log2 : Int) := by
        rw [← zpow_add₀ (by norm_num)]
        congr 1
        omega
      _ ≤ _ := mul_le_mul_of_nonneg_left bottomLow (two _).le

theorem leading_spec (top : num ≠ 0) (bottom : den ≠ 0) :
    (2 : ℚ) ^ leading num den ≤ num / den ∧ (num : ℚ) / den < 2 ^ (leading num den + 1) := by
  obtain ⟨below, above⟩ := ratio_between top bottom
  have reaches (k : Int) : twoTo 52 * (scaled num den (52 - k)).2 ≤ (scaled num den (52 - k)).1 ↔
      (2 : ℚ) ^ k ≤ num / den := by
    have rest : (0 : ℚ) < (scaled num den (52 - k)).2 := by
      exact_mod_cast scaled_pos (Nat.pos_of_ne_zero bottom) _
    have unit : (0 : ℚ) < 2 ^ (52 - k) := zpow_pos (by norm_num) _
    rw [← mul_le_mul_iff_of_pos_right unit, ← scaled_ratio, le_div_iff₀ rest,
      ← zpow_add₀ (by norm_num), show k + (52 - k) = ((52 : Nat) : Int) by omega, zpow_natCast]
    exact_mod_cast Iff.rfl
  simp only [leading]
  split
  next yes => exact ⟨(reaches _).mp yes, above⟩
  next no =>
    rw [Int.sub_add_cancel]
    exact ⟨below, not_le.mp (mt (reaches _).mpr no)⟩

theorem nearest_def (top : num ≠ 0) (bottom : den ≠ 0) : nearest num den =
    if leading num den > 1024 then assemble 0 2047
    else
      let shift : Int := min (52 - leading num den) 1074
      assemble (roundHalfEven (scaled num den shift).1 (scaled num den shift).2)
        (1074 - shift).toNat := by
  rw [nearest, if_neg (by simp [top, bottom])]
  simp [leading, scaled]

theorem le_leading {a : Int} (top : num ≠ 0) (bottom : den ≠ 0)
    (reached : (2 : ℚ) ^ a ≤ num / den) : a ≤ leading num den := by
  have between := reached.trans_lt (leading_spec top bottom).2
  exact Int.lt_add_one_iff.mp ((zpow_lt_zpow_iff_right₀ (by norm_num)).mp between)

theorem leading_lt {b : Int} (top : num ≠ 0) (bottom : den ≠ 0)
    (missed : (num : ℚ) / den < 2 ^ b) : leading num den < b :=
  (zpow_lt_zpow_iff_right₀ (by norm_num)).mp ((leading_spec top bottom).1.trans_lt missed)

/-! ## Values in the interval -/

/-- In units of the last digit, a value of the interval is at most a half away from the mantissa. -/
theorem near_mantissa {v : ℚ} (covers : d.Covers v) :
    (d.mantissa : ℚ) - d.reachBelow ≤ v * 2 ^ (-d.exponent) ∧
      v * 2 ^ (-d.exponent) ≤ d.mantissa + 1 / 2 := by
  have unit : (0 : ℚ) < 2 ^ d.exponent := zpow_pos (by norm_num) _
  have low := covers.low_le
  have high := covers.le_high
  rw [Dyadic.low] at low
  rw [Dyadic.high] at high
  rw [zpow_neg, ← div_eq_mul_inv, le_div_iff₀ unit, div_le_iff₀ unit]
  exact ⟨low, high⟩

theorem near_mantissa_of_odd {v : ℚ} (covers : d.Covers v) (odd : d.mantissa % 2 = 1) :
    (d.mantissa : ℚ) - 1 / 2 < v * 2 ^ (-d.exponent) ∧
      v * 2 ^ (-d.exponent) < d.mantissa + 1 / 2 := by
  have unit : (0 : ℚ) < 2 ^ d.exponent := zpow_pos (by norm_num) _
  have reach : d.reachBelow = 1 / 2 := by
    rw [Dyadic.reachBelow, if_neg]
    rintro ⟨even, -⟩
    omega
  obtain ⟨low, high⟩ := covers.strict odd
  rw [Dyadic.low, reach] at low
  rw [Dyadic.high] at high
  rw [zpow_neg, ← div_eq_mul_inv, lt_div_iff₀ unit, div_lt_iff₀ unit]
  exact ⟨low, high⟩

theorem nearest_eq_assemble {shift : Int} (top : num ≠ 0) (bottom : den ≠ 0)
    (small : leading num den ≤ 1024) (aligned : min (52 - leading num den) 1074 = shift)
    (low : (k : ℚ) - 1 / 2 ≤ num / den * 2 ^ shift)
    (high : (num : ℚ) / den * 2 ^ shift ≤ k + 1 / 2)
    (strict : k % 2 = 1 →
      (k : ℚ) - 1 / 2 < num / den * 2 ^ shift ∧ (num : ℚ) / den * 2 ^ shift < k + 1 / 2) :
    nearest num den = assemble k (1074 - shift).toNat := by
  rw [nearest_def top bottom, if_neg (not_lt.mpr small)]
  simp only [aligned]
  rw [← scaled_ratio] at low high strict
  rw [roundHalfEven_eq (scaled_pos (Nat.pos_of_ne_zero bottom) shift) low high strict]

/-- A mantissa of fifty-four digits carries into the power of two. -/
theorem assemble_carry (step : Nat) : assemble (2 ^ 53) step = assemble (2 ^ 52) (step + 1) := by
  have bits : step * 2 ^ 52 + 2 ^ 53 = (step + 1) * 2 ^ 52 + 2 ^ 52 := by omega
  simp only [assemble, twoTo, Nat.pow_eq]
  rw [bits]

/-- A quotient in units of the last digit of a number. -/
def units (num den : Nat) (d : Dyadic) : ℚ := num / den * 2 ^ (-d.exponent)

theorem scale_units (num den : Nat) (d : Dyadic) (k : Int) :
    (num : ℚ) / den * 2 ^ (k - d.exponent) = 2 ^ k * units num den d := by
  rw [units, sub_eq_add_neg, zpow_add₀ (by norm_num)]
  ring

theorem reaches_iff (num den : Nat) (d : Dyadic) (k : Int) :
    (2 : ℚ) ^ (k + d.exponent) ≤ num / den ↔ 2 ^ k ≤ units num den d := by
  have unit : (0 : ℚ) < 2 ^ d.exponent := zpow_pos (by norm_num) _
  rw [zpow_add₀ (by norm_num), units, zpow_neg, ← div_eq_mul_inv, le_div_iff₀ unit]

theorem num_ne_zero_of_covers (positive : 0 < d.mantissa) (covers : d.Covers ((num : ℚ) / den)) :
    num ≠ 0 := by
  rintro rfl
  have whole : (1 : ℚ) ≤ d.mantissa := by exact_mod_cast positive
  have reach := d.reachBelow_le
  have atLeast := (near_mantissa covers).1
  simp only [Nat.cast_zero, zero_div, zero_mul] at atLeast
  linarith

theorem leading_lt_of_covers (regular : d.IsRegular) (top : num ≠ 0) (bottom : den ≠ 0)
    (covers : d.Covers ((num : ℚ) / den)) : leading num den < 53 + d.exponent := by
  have wide : (d.mantissa : ℚ) + 1 ≤ 2 ^ 53 := by exact_mod_cast regular.mantissa_lt
  have atMost : units num den d ≤ d.mantissa + 1 / 2 := (near_mantissa covers).2
  apply leading_lt top bottom
  rw [← not_le, reaches_iff, not_le]
  norm_num
  linarith

/-- A quotient that has as many digits in front of the last unit as a mantissa has is rounded in
these units. -/
theorem nearest_eq_of_aligned (regular : d.IsRegular) (top : num ≠ 0) (bottom : den ≠ 0)
    (covers : d.Covers ((num : ℚ) / den))
    (aligned : d.exponent = -1074 ∨ 2 ^ 52 ≤ units num den d) : nearest num den = d.size := by
  have least := regular.exponent_ge
  have greatest := regular.exponent_le
  have reach := d.reachBelow_le
  have notBeyond := leading_lt_of_covers regular top bottom covers
  have shift : min (52 - leading num den) 1074 = 0 - d.exponent := by
    obtain last | reached := aligned
    · omega
    · have := le_leading top bottom ((reaches_iff num den d 52).mpr reached)
      omega
  obtain ⟨atLeast, atMost⟩ : _ ∧ units num den d ≤ _ := near_mantissa covers
  rw [nearest_eq_assemble (k := d.mantissa) top bottom (by omega) shift, Dyadic.size]
  · congr 1
    omega
  all_goals rw [scale_units, zpow_zero, one_mul]
  · rw [units]
    linarith
  · exact atMost
  · exact near_mantissa_of_odd covers

/-- A quotient with one digit less is rounded in half units and carries; the number is the least of
its power of two, so its interval reaches less far down. -/
theorem nearest_eq_of_below (regular : d.IsRegular) (top : num ≠ 0) (bottom : den ≠ 0)
    (covers : d.Covers ((num : ℚ) / den)) (notLast : d.exponent ≠ -1074)
    (below : units num den d < 2 ^ 52) : nearest num den = d.size := by
  have least := regular.exponent_ge
  have greatest := regular.exponent_le
  obtain ⟨atLeast, -⟩ : _ ≤ units num den d ∧ _ := near_mantissa covers
  have even : d.mantissa = 2 ^ 52 := by
    have reach := d.reachBelow_le
    have narrow : d.mantissa < 2 ^ 52 + 1 := by
      have : (d.mantissa : ℚ) < 2 ^ 52 + 1 := by linarith
      exact_mod_cast this
    have := regular.normal
    omega
  have quarter : d.reachBelow = 1 / 4 := by
    rw [Dyadic.reachBelow, if_pos ⟨even, by omega⟩]
  rw [even, quarter] at atLeast
  norm_num at atLeast below
  have shift : min (52 - leading num den) 1074 = 1 - d.exponent := by
    have reached : (2 : ℚ) ^ (51 + d.exponent) ≤ num / den := by
      rw [reaches_iff]
      norm_num
      linarith
    have missed : (num : ℚ) / den < 2 ^ (52 + d.exponent) := by
      rw [← not_le, reaches_iff, not_le]
      norm_num
      exact below
    have := le_leading top bottom reached
    have := leading_lt top bottom missed
    omega
  rw [nearest_eq_assemble (k := 2 ^ 53) top bottom (by omega) shift, Dyadic.size, even,
    assemble_carry]
  · congr 1
    omega
  all_goals rw [scale_units, zpow_one]
  · norm_num
    linarith
  · norm_num
    linarith
  · intro odd
    omega

/-- Every quotient in the interval of a number is rounded to that number. -/
theorem nearest_eq (regular : d.IsRegular) (positive : 0 < d.mantissa) (bottom : den ≠ 0)
    (covers : d.Covers ((num : ℚ) / den)) : nearest num den = d.size := by
  have top := num_ne_zero_of_covers positive covers
  by_cases aligned : d.exponent = -1074 ∨ 2 ^ 52 ≤ units num den d
  · exact nearest_eq_of_aligned regular top bottom covers aligned
  · obtain ⟨notLast, below⟩ := not_or.mp aligned
    exact nearest_eq_of_below regular top bottom covers notLast (not_le.mp below)

/-! ## Decimals -/

variable {digits : Nat} {exponent : Int}

theorem two_zpow_le {k : Int} (natural : 0 ≤ k) : (2 : ℚ) ^ (3 * k) ≤ 10 ^ k := by
  rw [zpow_mul]
  exact zpow_le_zpow_left₀ natural (by norm_num) (by norm_num)

/-- A decimal whose exponent is cut for being too small is less than every number. -/
theorem decimal_lt (small : exponent < -(400 + digits.log2 : Int)) :
    (digits : ℚ) * 10 ^ exponent < 2 ^ (-1075 : Int) := by
  have least : (10 : ℚ) ^ (-400 : Int) < 2 ^ (-1075 : Int) := by
    rw [zpow_neg, zpow_neg]
    apply inv_strictAnti₀ (zpow_pos (by norm_num) _)
    exact (zpow_lt_zpow_right₀ (by norm_num) (by decide)).trans_le
      (two_zpow_le (k := 400) (by decide))
  have size : (digits : ℚ) ≤ 10 ^ ((digits.log2 : Int) + 1) := by
    have : digits ≤ 10 ^ (digits.log2 + 1) :=
      (Nat.lt_log2_self).le.trans (Nat.pow_le_pow_left (by decide) _)
    exact_mod_cast this
  have power : (10 : ℚ) ^ exponent ≤ 10 ^ (-(401 + digits.log2 : Int)) :=
    zpow_le_zpow_right₀ (by norm_num) (by omega)
  calc (digits : ℚ) * 10 ^ exponent ≤
        10 ^ ((digits.log2 : Int) + 1) * 10 ^ (-(401 + digits.log2 : Int)) :=
      mul_le_mul size power (zpow_nonneg (by norm_num) _) (zpow_nonneg (by norm_num) _)
    _ = 10 ^ (-400 : Int) := by
      rw [← zpow_add₀ (by norm_num),
        show (digits.log2 : Int) + 1 + -(401 + digits.log2 : Int) = -400 by omega]
    _ < 2 ^ (-1075 : Int) := least

/-- A decimal whose exponent is cut for being too large is greater than every number. -/
theorem le_decimal (some : digits ≠ 0) (large : 400 < exponent) :
    (2 : ℚ) ^ (1024 : Int) ≤ digits * 10 ^ exponent := by
  have whole : (1 : ℚ) ≤ digits := by exact_mod_cast Nat.pos_of_ne_zero some
  calc (2 : ℚ) ^ (1024 : Int) ≤ 2 ^ (3 * 401 : Int) :=
        zpow_le_zpow_right₀ (by norm_num) (by decide)
    _ ≤ 10 ^ (401 : Int) := two_zpow_le (by decide)
    _ ≤ 10 ^ exponent := zpow_le_zpow_right₀ (by norm_num) (by omega)
    _ ≤ digits * 10 ^ exponent := le_mul_of_one_le_left (zpow_nonneg (by norm_num) _) whole

/-- A decimal that lies in the interval of a number has an exponent that is not cut. -/
theorem exponent_bounds (regular : d.IsRegular) (positive : 0 < d.mantissa) (some : digits ≠ 0)
    (covers : d.Covers (digits * 10 ^ exponent)) :
    -(400 + digits.log2 : Int) ≤ exponent ∧ exponent ≤ 400 := by
  have low := (Dyadic.le_low regular positive).trans covers.low_le
  have high := covers.le_high.trans_lt (Dyadic.high_lt regular)
  constructor
  · by_contra small
    exact absurd low (not_le.mpr (decimal_lt (not_le.mp small)))
  · by_contra large
    exact absurd high (not_lt.mpr (le_decimal some (not_le.mp large)))

/-- Every decimal in the interval of a number is read as that number. -/
theorem ofDecimal_eq (regular : d.IsRegular) (positive : 0 < d.mantissa) (negative : Bool)
    (covers : d.Covers (digits * 10 ^ exponent)) :
    ofDecimal negative digits exponent = if negative then -d.size else d.size := by
  have some : digits ≠ 0 := by
    rintro rfl
    have low := (Dyadic.le_low regular positive).trans covers.low_le
    have : (0 : ℚ) < 2 ^ (-1075 : Int) := zpow_pos (by norm_num) _
    simp only [Nat.cast_zero, zero_mul] at low
    linarith
  obtain ⟨notSmall, notLarge⟩ := exponent_bounds regular positive some covers
  simp only [ofDecimal, if_neg some, if_neg (show ¬exponent > 400 by omega),
    if_neg (show ¬exponent < -(400 + digits.log2 : Int) by omega)]
  have nearest : (if exponent < 0 then nearest digits (tenTo exponent.natAbs)
      else nearest (digits * tenTo exponent.toNat) 1) = d.size := by
    split
    next below =>
      obtain ⟨n, rfl⟩ := Int.eq_negSucc_of_lt_zero below
      apply nearest_eq regular positive (Nat.pow_pos (by decide)).ne'
      simpa [tenTo, zpow_negSucc, div_eq_mul_inv] using covers
    next natural =>
      obtain ⟨n, rfl⟩ := Int.eq_ofNat_of_zero_le (Int.not_lt.mp natural)
      apply nearest_eq regular positive one_ne_zero
      simpa [tenTo] using covers
  rw [nearest]

theorem ofDecimal_zero (negative : Bool) (exponent : Int) :
    ofDecimal negative 0 exponent = if negative then -Float.ofBits 0 else Float.ofBits 0 := by
  simp [ofDecimal]

end Binary64

end SiteAtlas
