import SiteAtlas.Decimal.Shortest
import SiteAtlas.Proofs.Decimal.Nearest

/-! # The fewest digits lie in the interval

The search tries finer and finer decimal grids around a value. On the grid of seventeen digits the
nearest point is always inside the interval of values that read back, so the search ends there at
the latest, with a point of the interval.
-/

namespace SiteAtlas.Decimal

/-- The value of a decimal. -/
def Scientific.value (s : Scientific) : ℚ := s.digits * 10 ^ s.exponent

/-! ## Grids -/

section Grid

variable {low middle high bottom k n fuel count : Nat} {closed : Bool} {unit power : Int}

/-- A numerator over the common denominator of a grid. -/
def lift (unit : Int) (n : Nat) : Nat := if unit < 0 then n * tenTo unit.natAbs else n

/-- The numerator of one step of a grid. -/
def step (unit : Int) (bottom : Nat) : Nat :=
  if unit < 0 then bottom else bottom * tenTo unit.toNat

/-- Whether a point of a grid lies in the interval. -/
def inside (interval : Nat × Nat × Nat) (bottom : Nat) (closed : Bool) (unit : Int) (k : Nat) :
    Bool :=
  if closed then lift unit interval.1 ≤ k * step unit bottom &&
    k * step unit bottom ≤ lift unit interval.2.2
  else lift unit interval.1 < k * step unit bottom && k * step unit bottom < lift unit interval.2.2

/-- The last point of a grid that is not above the value. -/
def below (interval : Nat × Nat × Nat) (bottom : Nat) (unit : Int) : Nat :=
  lift unit interval.2.1 / step unit bottom

/-- Whether a value lies in an interval, whose ends belong to it or not. -/
def IsBetween (closed : Bool) (low high v : ℚ) : Prop :=
  if closed then low ≤ v ∧ v ≤ high else low < v ∧ v < high

theorem step_pos (positive : 0 < bottom) (unit : Int) : 0 < step unit bottom := by
  rw [step]
  split
  · exact positive
  · exact Nat.mul_pos positive (Nat.pow_pos (by decide))

theorem lift_div_step (positive : 0 < bottom) (unit : Int) (n : Nat) :
    (lift unit n : ℚ) / step unit bottom * 10 ^ unit = n / bottom := by
  have bottom : (bottom : ℚ) ≠ 0 := by exact_mod_cast positive.ne'
  rw [lift, step]
  split
  next negative =>
    obtain ⟨k, rfl⟩ := Int.eq_negSucc_of_lt_zero negative
    simp [tenTo, zpow_negSucc]
    field_simp
  next natural =>
    obtain ⟨k, rfl⟩ := Int.eq_ofNat_of_zero_le (Int.not_lt.mp natural)
    simp [tenTo]
    field_simp

theorem lift_le_iff (positive : 0 < bottom) :
    lift unit n ≤ k * step unit bottom ↔ (n : ℚ) / bottom ≤ k * 10 ^ unit := by
  have one : (0 : ℚ) < step unit bottom := by exact_mod_cast step_pos positive unit
  rw [← lift_div_step positive unit, mul_le_mul_iff_of_pos_right (zpow_pos (by norm_num) _),
    div_le_iff₀ one]
  exact_mod_cast Iff.rfl

theorem le_lift_iff (positive : 0 < bottom) :
    k * step unit bottom ≤ lift unit n ↔ k * 10 ^ unit ≤ (n : ℚ) / bottom := by
  have one : (0 : ℚ) < step unit bottom := by exact_mod_cast step_pos positive unit
  rw [← lift_div_step positive unit, mul_le_mul_iff_of_pos_right (zpow_pos (by norm_num) _),
    le_div_iff₀ one]
  exact_mod_cast Iff.rfl

theorem inside_iff (positive : 0 < bottom) :
    inside (low, middle, high) bottom closed unit k = true ↔
      IsBetween closed ((low : ℚ) / bottom) (high / bottom) (k * 10 ^ unit) := by
  rw [inside, IsBetween]
  split
  · rw [Bool.and_eq_true, decide_eq_true_iff, decide_eq_true_iff, lift_le_iff positive,
      le_lift_iff positive]
  · rw [Bool.and_eq_true, decide_eq_true_iff, decide_eq_true_iff, ← not_le, ← not_le,
      lift_le_iff positive, le_lift_iff positive, not_le, not_le]

/-- The point below the value is at most one step away from it. -/
theorem below_spec (low middle high : Nat) (unit : Int) (positive : 0 < bottom) :
    (below (low, middle, high) bottom unit : ℚ) * 10 ^ unit ≤ middle / bottom ∧
      (middle : ℚ) / bottom < (below (low, middle, high) bottom unit + 1) * 10 ^ unit := by
  have one := step_pos positive unit
  constructor
  · rw [← le_lift_iff positive]
    exact Nat.div_mul_le_self _ _
  · rw [← not_le, ← Nat.cast_add_one, ← le_lift_iff positive, not_le]
    exact Nat.lt_mul_of_div_lt (Nat.lt_add_one _) one

/-- Whether a grid has a point in the interval next to the value. -/
def Hits (interval : Nat × Nat × Nat) (bottom : Nat) (closed : Bool) (unit : Int) : Prop :=
  below interval bottom unit ≠ 0 ∧ inside interval bottom closed unit (below interval bottom unit) ∨
    inside interval bottom closed unit (below interval bottom unit + 1)

/-- The point of a grid next to the value that is nearer to it, an even one if both are as near. -/
def nearer (interval : Nat × Nat × Nat) (bottom : Nat) (unit : Int) : Nat :=
  let k := below interval bottom unit
  let toBelow := lift unit interval.2.1 - k * step unit bottom
  let toAbove := (k + 1) * step unit bottom - lift unit interval.2.1
  if toBelow < toAbove then k else if toAbove < toBelow then k + 1
  else if k % 2 = 0 then k else k + 1

theorem searchGrid_def (interval : Nat × Nat × Nat) (bottom : Nat) (closed : Bool) (power : Int)
    (fuel count : Nat) :
    searchGrid interval bottom closed power (fuel + 1) count =
      let unit := power - count + 1
      let k := below interval bottom unit
      match k != 0 && inside interval bottom closed unit k,
        inside interval bottom closed unit (k + 1) with
      | true, true => ⟨nearer interval bottom unit, unit⟩
      | true, false => ⟨k, unit⟩
      | false, true => ⟨k + 1, unit⟩
      | false, false => searchGrid interval bottom closed power fuel (count + 1) :=
  rfl

theorem nearer_eq (interval : Nat × Nat × Nat) (bottom : Nat) (unit : Int) :
    nearer interval bottom unit = below interval bottom unit ∨
      nearer interval bottom unit = below interval bottom unit + 1 := by
  simp only [nearer]
  split
  · exact .inl rfl
  · split
    · exact .inr rfl
    · split
      · exact .inl rfl
      · exact .inr rfl

theorem searchGrid_step (interval : Nat × Nat × Nat) (bottom : Nat) (closed : Bool) (power : Int)
    (fuel count : Nat) :
    (∃ k, 0 < k ∧ inside interval bottom closed (power - count + 1) k = true ∧
      searchGrid interval bottom closed power (fuel + 1) count = ⟨k, power - count + 1⟩) ∨
    ¬Hits interval bottom closed (power - count + 1) ∧
      searchGrid interval bottom closed power (fuel + 1) count =
        searchGrid interval bottom closed power fuel (count + 1) := by
  rw [searchGrid_def, Hits]
  dsimp only
  generalize power - (count : Int) + 1 = unit
  have both := nearer_eq interval bottom unit
  generalize nearer interval bottom unit = pick at both ⊢
  generalize below interval bottom unit = k at both ⊢
  split
  next low high =>
    obtain ⟨some, low⟩ := Bool.and_eq_true_iff.mp low
    rw [bne_iff_ne] at some
    obtain rfl | rfl := both
    · exact .inl ⟨_, Nat.pos_of_ne_zero some, low, rfl⟩
    · exact .inl ⟨_, Nat.succ_pos _, high, rfl⟩
  next low high =>
    obtain ⟨some, low⟩ := Bool.and_eq_true_iff.mp low
    rw [bne_iff_ne] at some
    exact .inl ⟨_, Nat.pos_of_ne_zero some, low, rfl⟩
  next low high => exact .inl ⟨_, Nat.succ_pos _, high, rfl⟩
  next low high =>
    refine .inr ⟨?_, rfl⟩
    rintro (⟨some, found⟩ | found)
    · rw [found, Bool.and_true, bne_eq_false_iff_eq] at low
      exact some low
    · exact absurd found (by rw [high]; exact Bool.false_ne_true)

/-- If the last grid that is tried has a point next to the value, the search finds a point of some
grid in the interval. -/
theorem searchGrid_inside {interval : Nat × Nat × Nat} (fuel count : Nat)
    (last : Hits interval bottom closed (power - (count + fuel : Nat) + 1)) :
    ∃ k, ∃ unit : Int, 0 < k ∧ inside interval bottom closed unit k = true ∧
      searchGrid interval bottom closed power (fuel + 1) count = ⟨k, unit⟩ := by
  induction fuel generalizing count with
  | zero =>
    obtain ⟨k, positive, found, result⟩ | ⟨missed, -⟩ :=
      searchGrid_step interval bottom closed power 0 count
    · exact ⟨k, _, positive, found, result⟩
    · exact absurd last missed
  | succ fuel ih =>
    obtain ⟨k, positive, found, result⟩ | ⟨-, next⟩ :=
      searchGrid_step interval bottom closed power (fuel + 1) count
    · exact ⟨k, _, positive, found, result⟩
    · rw [next]
      apply ih (count + 1)
      rwa [show count + 1 + fuel = count + (fuel + 1) by omega]

end Grid

/-! ## The power of ten of the first digit -/

section Leading

variable {top bottom : Nat} {length : Int}

/-- Whether a quotient is at least a power of ten. -/
def reaches (top bottom : Nat) (k : Int) : Bool :=
  if k < 0 then bottom ≤ top * tenTo k.natAbs else bottom * tenTo k.toNat ≤ top

/-- The power of ten that a number of binary digits amounts to. -/
def estimate (length : Int) : Int := (length * 30103).fdiv 100000

theorem leadingPower_def (top bottom : Nat) : leadingPower top bottom =
    let guess := estimate (top.log2 - bottom.log2)
    if reaches top bottom (guess + 1) then guess + 1
    else if reaches top bottom guess then guess
    else if reaches top bottom (guess - 1) then guess - 1
    else guess - 2 :=
  rfl

theorem le_of_reaches {k : Int} (positive : 0 < bottom) (reached : reaches top bottom k = true) :
    (10 : ℚ) ^ k ≤ top / bottom := by
  have positive : (0 : ℚ) < bottom := by exact_mod_cast positive
  rw [le_div_iff₀ positive]
  rw [reaches] at reached
  split at reached
  next negative =>
    obtain ⟨n, rfl⟩ := Int.eq_negSucc_of_lt_zero negative
    rw [decide_eq_true_iff] at reached
    rw [zpow_negSucc, inv_mul_le_iff₀ (by positivity), mul_comm]
    exact_mod_cast reached
  next natural =>
    obtain ⟨n, rfl⟩ := Int.eq_ofNat_of_zero_le (Int.not_lt.mp natural)
    rw [decide_eq_true_iff] at reached
    rw [zpow_natCast, mul_comm]
    exact_mod_cast reached

theorem zpow_le_of_pow {ten two : Int} {n : Nat} (some : n ≠ 0)
    (powers : ((10 : ℚ) ^ n) ^ ten ≤ (2 ^ n) ^ two) : (10 : ℚ) ^ ten ≤ 2 ^ two := by
  rw [← zpow_natCast, ← zpow_natCast, zpow_comm, zpow_comm 2, zpow_natCast, zpow_natCast] at powers
  exact (pow_le_pow_iff_left₀ (zpow_nonneg (by norm_num) _) (zpow_nonneg (by norm_num) _) some).mp
    powers

/-- Two less than the estimate is low enough for all lengths that binary64 numbers have, since
three digits are less than ten binary ones, and twenty-eight more than ninety-three. -/
theorem estimate_le (low : -1100 ≤ length) (high : length ≤ 1100) :
    (10 : ℚ) ^ (estimate length - 2) ≤ 2 ^ (length - 1) := by
  have guess : estimate length * 100000 ≤ length * 30103 := by
    rw [estimate, Int.fdiv_eq_ediv_of_nonneg _ (by decide)]
    omega
  obtain ⟨ten, isTen⟩ : ∃ ten, ten = estimate length - 2 := ⟨_, rfl⟩
  rw [← isTen]
  by_cases natural : 0 ≤ ten
  · apply zpow_le_of_pow (n := 3) (by decide)
    calc ((10 : ℚ) ^ 3) ^ ten ≤ (2 ^ (10 : Int)) ^ ten :=
          zpow_le_zpow_left₀ natural (by norm_num) (by norm_num)
      _ = 2 ^ (10 * ten) := (zpow_mul _ _ _).symm
      _ ≤ 2 ^ (3 * (length - 1)) := zpow_le_zpow_right₀ (by norm_num) (by omega)
      _ = _ := zpow_mul _ _ _
  · obtain ⟨n, rfl⟩ : ∃ n : Nat, ten = -n := ⟨ten.natAbs, by omega⟩
    apply zpow_le_of_pow (n := 28) (by decide)
    calc ((10 : ℚ) ^ 28) ^ (-n : Int) ≤ (2 ^ (93 : Int)) ^ (-n : Int) := by
          rw [zpow_neg, zpow_neg]
          apply inv_anti₀ (zpow_pos (by norm_num) _)
          exact zpow_le_zpow_left₀ (Int.natCast_nonneg n) (by norm_num) (by norm_num)
      _ = 2 ^ (93 * (-n : Int)) := (zpow_mul _ _ _).symm
      _ ≤ 2 ^ (28 * (length - 1)) := zpow_le_zpow_right₀ (by norm_num) (by omega)
      _ = _ := zpow_mul _ _ _

theorem leadingPower_le (some : top ≠ 0) (positive : 0 < bottom)
    (low : -1100 ≤ (top.log2 : Int) - bottom.log2) (high : (top.log2 : Int) - bottom.log2 ≤ 1100) :
    (10 : ℚ) ^ leadingPower top bottom ≤ top / bottom := by
  rw [leadingPower_def]
  dsimp only
  split
  next reached => exact le_of_reaches positive reached
  · split
    next reached => exact le_of_reaches positive reached
    · split
      next reached => exact le_of_reaches positive reached
      · exact (estimate_le low high).trans (Binary64.ratio_between some positive.ne').1

end Leading

/-! ## The interval of a number -/

section Interval

variable {d : Dyadic} {low high v : ℚ} {closed : Bool}

theorem isBetween_of_lt (above : low < v) (below : v < high) : IsBetween closed low high v := by
  rw [IsBetween]
  split
  · exact ⟨above.le, below.le⟩
  · exact ⟨above, below⟩

theorem covers_iff : d.Covers v ↔ IsBetween (d.mantissa % 2 = 0) d.low d.high v := by
  rw [Dyadic.Covers, IsBetween]
  simp only [decide_eq_true_iff]

theorem scale_ratio (exponent : Int) (n : Nat) :
    ((if exponent - 2 < 0 then n else n * twoTo (exponent - 2).toNat : Nat) : ℚ) /
      (if exponent - 2 < 0 then twoTo (exponent - 2).natAbs else 1 : Nat) =
        n / 4 * 2 ^ exponent := by
  have ratio := Binary64.scaled_ratio n 1 (exponent - 2)
  have quarter : (2 : ℚ) ^ (exponent - 2) = 2 ^ exponent / 4 := by
    rw [zpow_sub₀ (by norm_num)]
    norm_num
  rw [quarter, Binary64.scaled] at ratio
  split at ratio
  next negative =>
    rw [if_pos negative, if_pos negative]
    rw [Nat.one_mul] at ratio
    rw [ratio]
    push_cast
    ring
  next natural =>
    rw [if_neg natural, if_neg natural, ratio]
    push_cast
    ring

theorem readBackInterval_spec (positive : 0 < d.mantissa) :
    ∃ low middle high bottom : Nat,
      readBackInterval d = ((low, middle, high), bottom, decide (d.mantissa % 2 = 0)) ∧
      0 < bottom ∧ (low : ℚ) / bottom = d.low ∧ (middle : ℚ) / bottom = d.value ∧
      (high : ℚ) / bottom = d.high := by
  refine ⟨_, _, _, _, rfl, ?_, ?_, ?_, ?_⟩
  · split
    · exact Nat.two_pow_pos _
    · exact Nat.one_pos
  · rw [scale_ratio, Dyadic.low, Dyadic.reachBelow]
    congr 1
    have narrow : (decide (d.mantissa = twoTo 52) && decide (d.exponent > -1074)) = true ↔
        d.mantissa = 2 ^ 52 ∧ -1074 < d.exponent := by
      rw [Bool.and_eq_true, decide_eq_true_iff, decide_eq_true_iff]
      exact Iff.rfl
    split
    next isNarrow =>
      rw [if_pos (narrow.mp isNarrow), Nat.cast_sub (by omega)]
      push_cast
      ring
    next notNarrow =>
      rw [if_neg (mt narrow.mpr notNarrow), Nat.cast_sub (by omega)]
      push_cast
      ring
  · rw [scale_ratio, Dyadic.value]
    push_cast
    ring
  · rw [scale_ratio, Dyadic.high]
    push_cast
    ring

theorem value_sub_low (d : Dyadic) : d.value - d.low = d.reachBelow * 2 ^ d.exponent := by
  rw [Dyadic.value, Dyadic.low]
  ring

theorem high_sub_value (d : Dyadic) : d.high - d.value = 1 / 2 * 2 ^ d.exponent := by
  rw [Dyadic.value, Dyadic.high]
  ring

/-- With seventeen digits, half a step is less than what the interval reaches on either side. -/
theorem half_step_lt {unit : Int} (regular : d.IsRegular)
    (fine : (10 : ℚ) ^ unit * 10 ^ 16 ≤ d.value) :
    1 / 2 * (10 : ℚ) ^ unit < d.reachBelow * 2 ^ d.exponent := by
  have unitPos : (0 : ℚ) < 2 ^ d.exponent := zpow_pos (by norm_num) _
  have wide : (d.mantissa : ℚ) + 1 ≤ 2 ^ 53 := by exact_mod_cast regular.mantissa_lt
  rw [Dyadic.value] at fine
  rw [Dyadic.reachBelow]
  split
  next narrow =>
    rw [narrow.1] at fine
    norm_num at fine
    linarith
  next wideInterval =>
    have := mul_le_mul_of_nonneg_right wide unitPos.le
    norm_num at fine this
    linarith

/-- Seventeen digits are enough: a grid that fine has a point next to the value that is nearer to
it than an end of the interval. -/
theorem hits_of_fine {low middle high bottom : Nat} {unit : Int} (regular : d.IsRegular)
    (positive : 0 < bottom) (isLow : (low : ℚ) / bottom = d.low)
    (isValue : (middle : ℚ) / bottom = d.value) (isHigh : (high : ℚ) / bottom = d.high)
    (fine : (10 : ℚ) ^ (unit + 16) ≤ d.value) :
    Hits (low, middle, high) bottom (decide (d.mantissa % 2 = 0)) unit := by
  obtain ⟨atMost, less⟩ := below_spec low middle high unit positive
  rw [isValue] at atMost less
  rw [Hits, inside_iff positive, inside_iff positive, isLow, isHigh]
  generalize below (low, middle, high) bottom unit = k at atMost less ⊢
  have onePos : (0 : ℚ) < 10 ^ unit := zpow_pos (by norm_num) _
  have fine : (10 : ℚ) ^ unit * 10 ^ 16 ≤ d.value := by
    rw [zpow_add₀ (by norm_num)] at fine
    exact_mod_cast fine
  have half := half_step_lt regular fine
  have reachBelow : d.reachBelow * 2 ^ d.exponent ≤ 1 / 2 * 2 ^ d.exponent :=
    mul_le_mul_of_nonneg_right d.reachBelow_le (zpow_nonneg (by norm_num) _)
  have lowEnd := value_sub_low d
  have highEnd := high_sub_value d
  rw [Nat.cast_add_one]
  obtain nearer | nearer := le_total (d.value - k * 10 ^ unit) ((k + 1) * 10 ^ unit - d.value)
  · refine .inl ⟨?_, isBetween_of_lt ?_ ?_⟩
    · rintro rfl
      norm_num at fine less
      linarith
    · linarith
    · linarith
  · refine .inr (isBetween_of_lt ?_ ?_)
    · linarith
    · linarith

theorem leadingPower_le_value {top bottom : Nat} (regular : d.IsRegular) (some : 0 < d.mantissa)
    (positive : 0 < bottom) (isValue : (top : ℚ) / bottom = d.value) :
    (10 : ℚ) ^ leadingPower top bottom ≤ d.value := by
  have whole : (1 : ℚ) ≤ d.mantissa := by exact_mod_cast some
  have unit : (0 : ℚ) < 2 ^ d.exponent := zpow_pos (by norm_num) _
  have least : (2 : ℚ) ^ (-1074 : Int) ≤ d.value :=
    (zpow_le_zpow_right₀ (by norm_num) regular.exponent_ge).trans
      (le_mul_of_one_le_left unit.le whole)
  have greatest : d.value < 2 ^ (1024 : Int) :=
    (mul_lt_mul_of_pos_right (by linarith) unit).trans (Dyadic.high_lt regular)
  have top : top ≠ 0 := by
    rintro rfl
    rw [Nat.cast_zero, zero_div] at isValue
    have : (0 : ℚ) < 2 ^ (-1074 : Int) := zpow_pos (by norm_num) _
    linarith
  obtain ⟨atLeast, less⟩ := Binary64.ratio_between top positive.ne'
  rw [isValue] at atLeast less
  have low := (zpow_lt_zpow_iff_right₀ (by norm_num)).mp (least.trans_lt less)
  have high := (zpow_lt_zpow_iff_right₀ (by norm_num)).mp (atLeast.trans_lt greatest)
  rw [← isValue]
  exact leadingPower_le top positive (by omega) (by omega)

/-- The digits that the search ends with lie in the interval. -/
theorem shortestOf_spec (regular : d.IsRegular) (some : 0 < d.mantissa) :
    0 < (shortestOf d).digits ∧ d.Covers (shortestOf d).value := by
  obtain ⟨low, middle, high, bottom, interval, positive, isLow, isValue, isHigh⟩ :=
    readBackInterval_spec some
  have power := leadingPower_le_value regular some positive isValue
  have last : Hits (low, middle, high) bottom (decide (d.mantissa % 2 = 0))
      (leadingPower middle bottom - (1 + 16 : Nat) + 1) := by
    apply hits_of_fine regular positive isLow isValue isHigh
    rwa [show leadingPower middle bottom - (1 + 16 : Nat) + 1 + 16 = leadingPower middle bottom by
      omega]
  obtain ⟨k, unit, digits, found, result⟩ := searchGrid_inside 16 1 last
  rw [shortestOf, interval]
  dsimp only
  rw [result, covers_iff, ← isLow, ← isHigh]
  exact ⟨digits, (inside_iff positive).mp found⟩

end Interval

/-! ## Zeros at the end -/

theorem Scientific.trim_spec (fuel : Nat) (s : Scientific) (positive : 0 < s.digits) :
    0 < (s.trim fuel).digits ∧ (s.trim fuel).value = s.value := by
  induction fuel generalizing s with
  | zero => exact ⟨positive, rfl⟩
  | succ fuel ih =>
    rw [Scientific.trim]
    split
    next zero =>
      obtain ⟨-, zero⟩ := Bool.and_eq_true_iff.mp zero
      have zero : s.digits % 10 = 0 := of_decide_eq_true zero
      have ten : s.digits = s.digits / 10 * 10 := by omega
      obtain ⟨positive, same⟩ := ih ⟨s.digits / 10, s.exponent + 1⟩ (by dsimp only; omega)
      refine ⟨positive, same.trans ?_⟩
      rw [value, value, zpow_add₀ (by norm_num), zpow_one, mul_comm (_ ^ _), ← mul_assoc]
      congr 1
      exact_mod_cast ten.symm
    · exact ⟨positive, rfl⟩

/-- The digits that a number is written with lie in its interval. -/
theorem trim_shortestOf_spec {d : Dyadic} (regular : d.IsRegular) (some : 0 < d.mantissa)
    (fuel : Nat) : 0 < ((shortestOf d).trim fuel).digits ∧
      d.Covers ((shortestOf d).trim fuel).value := by
  obtain ⟨digits, covers⟩ := shortestOf_spec regular some
  obtain ⟨positive, same⟩ := Scientific.trim_spec fuel _ digits
  exact ⟨positive, same ▸ covers⟩

end SiteAtlas.Decimal
