import SiteAtlas.Settings.Sections
import SiteAtlas.Proofs.Success

/-! # Settings that can be converted

A value of another kind than its setting is passed over, so only two values stop a reading: a whole
number with no finite binary64 number next to it where a measure is asked for, and an infinite
number where a whole one is. Each of the two conditions is shown for one setting and collected over
a section.
-/

namespace SiteAtlas

namespace Settings

/-- A measure can be read: a whole number given for it has a finite binary64 number next to it. -/
def FitsReal (value? : Option Value) : Prop :=
  ∀ n, value? = some (.number (.whole n)) → (Binary64.ofInt n).isInf = false

/-- A whole setting can be read: a binary64 number given for it has a finite value or is none. -/
def FitsWhole (value? : Option Value) : Prop :=
  ∀ x, value? = some (.number (.real x)) → Dyadic.ofFloat x = none → x.isNaN = true

/-- The setting under a key can be read, `wholeKeys` being the keys of the whole settings. -/
def Fits (wholeKeys : List String) (fields : Fields) (key : String) : Prop :=
  if key ∈ wholeKeys then FitsWhole (fields.get? key) else FitsReal (fields.get? key)

variable {fields : Fields} {key : String}

theorem exists_realOfWhole_iff {n : Int} :
    (∃ x?, realOfWhole n = .ok x?) ↔ (Binary64.ofInt n).isInf = false := by
  unfold realOfWhole
  cases infinite : (Binary64.ofInt n).isInf with
  | true => simp [infinite]
  | false => simp [infinite]

theorem exists_wholeOfReal_iff {x : Float} :
    (∃ n?, wholeOfReal x = .ok n?) ↔ (Dyadic.ofFloat x = none → x.isNaN = true) := by
  unfold wholeOfReal
  cases Dyadic.ofFloat x with
  | some d => simp
  | none => cases x.isNaN <;> simp

theorem exists_toReal_iff {value : Value} :
    (∃ x?, toReal value = .ok x?) ↔ FitsReal (some value) := by
  cases value with
  | number n =>
    cases n with
    | whole n => simp [toReal, FitsReal, exists_realOfWhole_iff]
    | real x => simp [toReal, FitsReal]
  | _ => simp [toReal, FitsReal]

theorem exists_toWhole_iff {value : Value} :
    (∃ n?, toWhole value = .ok n?) ↔ FitsWhole (some value) := by
  cases value with
  | number n =>
    cases n with
    | whole n => simp [toWhole, FitsWhole]
    | real x => simp [toWhole, FitsWhole, exists_wholeOfReal_iff]
  | _ => simp [toWhole, FitsWhole]

theorem exists_number_iff {default : Number} :
    (∃ x, number fields key default = .ok x) ↔ FitsReal (fields.get? key) := by
  unfold number
  cases fields.get? key with
  | none => simp [FitsReal]
  | some value => exact exists_map_eq_ok_iff.trans exists_toReal_iff

theorem exists_whole_iff {default : Int} :
    (∃ n, whole fields key default = .ok n) ↔ FitsWhole (fields.get? key) := by
  unfold whole
  cases fields.get? key with
  | none => simp [FitsWhole]
  | some value => exact exists_map_eq_ok_iff.trans exists_toWhole_iff

end Settings

open Settings

variable {fields : Fields}

/-- The keys of the measures of the tree layout. -/
def TreeSpacing.keys : List String := (TreeSpacing.toFields .standard).map (·.1)

/-- The keys of those measures of the tree layout that are whole. -/
def TreeSpacing.wholeKeys : List String := ["collision_max_attempts"]

/-- The keys of the measures of the force layout. -/
def ForceSettings.keys : List String := (ForceSettings.toFields .standard).map (·.1)

/-- The keys of those measures of the force layout that are whole. -/
def ForceSettings.wholeKeys : List String :=
  ["collision_iterations", "ticks", "alpha_decay_ticks", "seed"]

/-- The measures of the tree layout can be read from a section exactly if each of them can. -/
theorem TreeSpacing.exists_ofFields_iff :
    (∃ spacing, TreeSpacing.ofFields fields = .ok spacing) ↔
      ∀ key ∈ TreeSpacing.keys, Fits TreeSpacing.wholeKeys fields key := by
  simp only [TreeSpacing.ofFields, exists_bind_eq_ok_iff, exists_pure_eq_ok, and_true,
    exists_and_right, exists_number_iff, exists_whole_iff]
  -- Both sides are now the conditions on the single keys, in one order.
  simp [TreeSpacing.keys, TreeSpacing.toFields, TreeSpacing.wholeKeys, Fits]

/-- The measures of the force layout can be read from a section exactly if each of them can. -/
theorem ForceSettings.exists_ofFields_iff :
    (∃ settings, ForceSettings.ofFields fields = .ok settings) ↔
      ∀ key ∈ ForceSettings.keys, Fits ForceSettings.wholeKeys fields key := by
  simp only [ForceSettings.ofFields, exists_bind_eq_ok_iff, exists_pure_eq_ok, and_true,
    exists_and_right, exists_number_iff, exists_whole_iff]
  simp [ForceSettings.keys, ForceSettings.toFields, ForceSettings.wholeKeys, Fits]

end SiteAtlas
