import HtmlTemplate.Proofs.Binary.ReadBack
import Mathlib.Algebra.Order.Field.Power
import Mathlib.Algebra.Order.Field.Rat
import Mathlib.Tactic.FieldSimp
import Mathlib.Tactic.Linarith
import Mathlib.Tactic.Positivity
import Mathlib.Tactic.Ring

/-!
# `HtmlTemplate.Proofs.Binary.Nearest`: rounding, seen on the rational line

The functions that round work on natural numbers. Here they are compared
with what rounding means: `Nearest F q index` says of rational numbers
that no magnitude is nearer to `q` than the one at `index`, and that the
index is even if another one is equally near.

* `Nearest.unique`: there is at most one such index, and
  `nearest_ofRatio` says that rounding finds it. The comparisons of natural
  numbers on the way are comparisons of rational numbers on a larger scale
  (`compare_scaled`).
* `ofDecimal_eq_iff`: reading a decimal number gives an index of a finite
  magnitude exactly if this magnitude is the nearest. The shortcuts for
  numbers far out of range are right as well.
* `Nearest.of_between`: what lies between a magnitude and a number that
  rounds to it rounds to it too.
-/

set_option autoImplicit false

namespace HtmlTemplate

namespace BinaryFormat

variable (F : BinaryFormat)

/-! ### The magnitudes in order -/

/-- The magnitude at an index. -/
def value (index : Nat) : ℚ := F.units index / 2 ^ F.unitShift

/-- Magnitudes grow with their index. -/
theorem value_strictMono : StrictMono F.value := by
  refine strictMono_nat_of_lt_succ fun index => ?_
  have hunits : (F.units index : ℚ) < F.units (index + 1) := by
    exact_mod_cast F.units_lt_units_succ index
  exact div_lt_div_of_pos_right hunits (by positivity)

/-- The first magnitude is zero. -/
theorem value_zero : F.value 0 = 0 := by
  rw [value, F.units_of_lt (Nat.two_pow_pos _), Nat.cast_zero, zero_div]

/-- `index` is that of the magnitude nearest to `q`, and even if there is
another one as near. The indices from infinity's on count as magnitudes
with larger exponents, so what rounds to them is too large for the
format. -/
structure Nearest (q : ℚ) (index : Nat) : Prop where
  le : ∀ j, |q - F.value index| ≤ |q - F.value j|
  even : ∀ j, j ≠ index → |q - F.value j| = |q - F.value index| → index % 2 = 0

variable {F} {q r : ℚ} {i j : Nat}

/-- A magnitude up to `q` is not above the nearest one. -/
theorem Nearest.le_of_value_le (h : F.Nearest q i) (hj : F.value j ≤ q) : j ≤ i := by
  by_contra hlt
  have hvalue := F.value_strictMono (not_le.mp hlt)
  have hle := h.le j
  rw [abs_of_nonneg (by linarith), abs_of_nonneg (by linarith)] at hle
  linarith

/-- A magnitude from `q` on is not below the nearest one. -/
theorem Nearest.le_of_le_value (h : F.Nearest q i) (hj : q ≤ F.value j) : i ≤ j := by
  by_contra hlt
  have hvalue := F.value_strictMono (not_le.mp hlt)
  have hle := h.le j
  rw [abs_of_nonpos (by linarith), abs_of_nonpos (by linarith)] at hle
  linarith

/-- A number is not above the middle between its magnitude and the next
one. -/
theorem Nearest.two_mul_le (h : F.Nearest q i) : 2 * q ≤ F.value i + F.value (i + 1) := by
  have hvalue := F.value_strictMono (Nat.lt_add_one i)
  by_contra hlt
  have hle := h.le (i + 1)
  rw [abs_of_nonneg (by linarith)] at hle
  rcases abs_cases (q - F.value (i + 1)) with ⟨heq, -⟩ | ⟨heq, -⟩
  · linarith
  · linarith

/-- A number is not below the middle between its magnitude and the one
before. -/
theorem Nearest.le_two_mul (h : F.Nearest q (i + 1)) : F.value i + F.value (i + 1) ≤ 2 * q := by
  have hvalue := F.value_strictMono (Nat.lt_add_one i)
  by_contra hlt
  have hle := h.le i
  rw [abs_of_nonpos (by linarith)] at hle
  rcases abs_cases (q - F.value i) with ⟨heq, -⟩ | ⟨heq, -⟩
  · linarith
  · linarith

/-- There is one nearest magnitude. -/
theorem Nearest.unique (hi : F.Nearest q i) (hj : F.Nearest q j) : i = j := by
  wlog hlt : i < j generalizing i j
  · rcases Nat.lt_trichotomy i j with h | h | h
    · exact absurd h hlt
    · exact h
    · exact (this hj hi h).symm
  -- Both are equally near, so both are even, and there is one in between.
  have heq : |q - F.value i| = |q - F.value j| := le_antisymm (hi.le j) (hj.le i)
  have hieven := hi.even j (Nat.ne_of_gt hlt) heq.symm
  have hjeven := hj.even i (Nat.ne_of_lt hlt) heq
  have hhigh := hi.two_mul_le
  obtain ⟨k, rfl⟩ : ∃ k, j = k + 1 := ⟨j - 1, by omega⟩
  have hlow := hj.le_two_mul
  have hnext : F.value (i + 1) ≤ F.value k := F.value_strictMono.monotone (by omega)
  have hstep := F.value_strictMono (show i < k by omega)
  have hstep' := F.value_strictMono (show i + 1 < k + 1 by omega)
  linarith

/-- What lies between a magnitude and a number that rounds to it rounds to
it as well. -/
theorem Nearest.of_between (h : F.Nearest q i)
    (hr : q ≤ r ∧ r ≤ F.value i ∨ F.value i ≤ r ∧ r ≤ q) : F.Nearest r i := by
  -- From `q` to the magnitude the way leads over `r`.
  have hway : |q - F.value i| = |q - r| + |r - F.value i| := by
    rcases hr with ⟨hqr, hri⟩ | ⟨hir, hrq⟩
    · rw [abs_of_nonpos (by linarith), abs_of_nonpos (by linarith), abs_of_nonpos (by linarith)]
      ring
    · rw [abs_of_nonneg (by linarith), abs_of_nonneg (by linarith), abs_of_nonneg (by linarith)]
      ring
  refine ⟨fun j => ?_, fun j hj heq => ?_⟩
  · have hle := h.le j
    have htriangle := abs_sub_le q r (F.value j)
    linarith
  · refine h.even j hj (le_antisymm ?_ (h.le j))
    have htriangle := abs_sub_le q r (F.value j)
    linarith

/-! ### The nearest magnitude exists -/

variable (F)

/-- Of the magnitudes up to `q`, the last one is the nearest. -/
theorem le_abs_sub_of_le (hi : F.value i ≤ q) (hj : j ≤ i) :
    q - F.value i ≤ |q - F.value j| ∧ (|q - F.value j| = q - F.value i → j = i) := by
  have hvalue : F.value j ≤ F.value i := F.value_strictMono.monotone hj
  rw [abs_of_nonneg (by linarith)]
  exact ⟨by linarith, fun heq => F.value_strictMono.injective (by linarith)⟩

/-- Of the magnitudes from `q` on, the first one is the nearest. -/
theorem le_abs_sub_of_ge (hi : q ≤ F.value i) (hj : i ≤ j) :
    F.value i - q ≤ |q - F.value j| ∧ (|q - F.value j| = F.value i - q → j = i) := by
  have hvalue : F.value i ≤ F.value j := F.value_strictMono.monotone hj
  rw [abs_of_nonpos (by linarith)]
  exact ⟨by linarith, fun heq => F.value_strictMono.injective (by linarith)⟩

/-- The lower end of an interval is nearest up to the middle. -/
theorem nearest_of_le_middle (hlow : F.value i ≤ q) (hhigh : 2 * q ≤ F.value i + F.value (i + 1))
    (heven : 2 * q = F.value i + F.value (i + 1) → i % 2 = 0) : F.Nearest q i := by
  have hstep := F.value_strictMono (Nat.lt_add_one i)
  -- Below there is nothing nearer, and above the next magnitude is the nearest.
  have hnear : |q - F.value i| = q - F.value i := abs_of_nonneg (by linarith)
  have habove : ∀ j, i < j → F.value (i + 1) - q ≤ |q - F.value j| := fun j hj =>
    (F.le_abs_sub_of_ge (by linarith) hj).1
  refine ⟨fun j => ?_, fun j hj heq => ?_⟩
  · rw [hnear]
    rcases Nat.lt_or_ge i j with h | h
    · have hfar := habove j h
      linarith
    · exact (F.le_abs_sub_of_le hlow h).1
  · rw [hnear] at heq
    rcases Nat.lt_or_ge i j with h | h
    · have hfar := habove j h
      exact heven (by linarith)
    · exact absurd ((F.le_abs_sub_of_le hlow h).2 heq) hj

/-- The upper end of an interval is nearest from the middle on. -/
theorem nearest_of_middle_le (hhigh : q ≤ F.value (i + 1))
    (hlow : F.value i + F.value (i + 1) ≤ 2 * q)
    (heven : 2 * q = F.value i + F.value (i + 1) → (i + 1) % 2 = 0) : F.Nearest q (i + 1) := by
  have hstep := F.value_strictMono (Nat.lt_add_one i)
  have hnear : |q - F.value (i + 1)| = F.value (i + 1) - q := by
    rw [abs_of_nonpos (by linarith), neg_sub]
  have hbelow : ∀ j, j ≤ i → q - F.value i ≤ |q - F.value j| := fun j hj =>
    (F.le_abs_sub_of_le (by linarith) hj).1
  refine ⟨fun j => ?_, fun j hj heq => ?_⟩
  · rw [hnear]
    rcases Nat.lt_or_ge i j with h | h
    · exact (F.le_abs_sub_of_ge hhigh h).1
    · have hfar := hbelow j h
      linarith
  · rw [hnear] at heq
    rcases Nat.lt_or_ge i j with h | h
    · exact absurd ((F.le_abs_sub_of_ge hhigh h).2 heq) hj
    · have hfar := hbelow j h
      exact heven (by linarith)

/-- After exponent `e + 1` comes one more step of `2 ^ e`, also into the
next exponent. -/
theorem units_succ_of_exponent (e : Nat) {m : Nat} (hm : m < 2 ^ F.fractionBits) :
    F.units ((e + 1) * 2 ^ F.fractionBits + m + 1) = (2 ^ F.fractionBits + m + 1) * 2 ^ e := by
  rcases Nat.lt_or_ge (m + 1) (2 ^ F.fractionBits) with hnext | hnext
  · rw [Nat.add_assoc, F.units_of_exponent e hnext, Nat.add_assoc]
  · -- The fraction is full, so the next magnitude is the first one with the next exponent.
    have hone : (e + 1) * 2 ^ F.fractionBits + m + 1 = (e + 1 + 1) * 2 ^ F.fractionBits + 0 := by
      rw [Nat.succ_mul (e + 1)]
      omega
    have hm' : 2 ^ F.fractionBits + m + 1 = 2 ^ F.fractionBits * 2 := by omega
    rw [hone, F.units_of_exponent (e + 1) (Nat.two_pow_pos _), hm', Nat.add_zero, Nat.pow_succ',
      Nat.mul_assoc]

/-- The index of the largest magnitude up to a whole number of units. -/
theorem floorIndex_spec (n : Nat) :
    F.units (F.floorIndex n) ≤ n ∧ n < F.units (F.floorIndex n + 1) := by
  rcases Nat.lt_or_ge n (2 ^ F.fractionBits) with hlt | hge
  · have hindex : F.floorIndex n = n := by
      conv_lhs => rw [← F.units_of_lt hlt]
      exact F.floorIndex_units n
    have hstep := F.units_lt_units_succ n
    rw [hindex]
    rw [F.units_of_lt hlt] at hstep ⊢
    exact ⟨le_rfl, hstep⟩
  · -- The leading bit of `n` gives the exponent, and the bits after it the rest.
    have hn : n ≠ 0 := by
      have hpos : 0 < 2 ^ F.fractionBits := Nat.two_pow_pos _
      omega
    have hbits : F.fractionBits ≤ n.log2 := (Nat.le_log2 hn).mpr hge
    obtain ⟨e, he⟩ := Nat.exists_eq_add_of_le hbits
    obtain ⟨hlow, hhigh⟩ := (Nat.log2_eq_iff hn).mp he
    have hspace : 0 < 2 ^ e := Nat.two_pow_pos e
    have hfirst : 2 ^ F.fractionBits ≤ n / 2 ^ e := by
      rw [Nat.le_div_iff_mul_le hspace, ← Nat.pow_add]
      exact hlow
    have hrest : n / 2 ^ e < 2 ^ F.fractionBits + 2 ^ F.fractionBits := by
      rw [Nat.div_lt_iff_lt_mul hspace, ← Nat.mul_two, ← Nat.pow_succ, ← Nat.pow_add]
      rwa [Nat.add_right_comm] at hhigh
    obtain ⟨m, hm⟩ := Nat.exists_eq_add_of_le hfirst
    have hindex : F.floorIndex n = (e + 1) * 2 ^ F.fractionBits + m := by
      have hshift : n.log2 - F.fractionBits = e := by omega
      unfold floorIndex
      simp only [hshift]
      show e * 2 ^ F.fractionBits + n / 2 ^ e = _
      rw [hm, Nat.succ_mul, Nat.add_assoc]
    rw [hindex, F.units_succ_of_exponent e (by omega), F.units_of_exponent e (by omega), ← hm]
    exact ⟨Nat.div_mul_le_self n _, Nat.lt_mul_of_div_lt (Nat.lt_succ_self _) hspace⟩

/-- Rational numbers compare like the natural numbers that they are on some
scale. -/
theorem compare_scaled {x y scale : ℚ} {a b : Nat} (hscale : 0 < scale) (hx : x * scale = a)
    (hy : y * scale = b) : compare a b = compare x y := by
  rcases lt_trichotomy x y with h | rfl | h
  · have hlt : (a : ℚ) < b := by
      rw [← hx, ← hy]
      exact mul_lt_mul_of_pos_right h hscale
    rw [compare_lt_iff_lt.mpr h, compare_lt_iff_lt.mpr (by exact_mod_cast hlt)]
  · have heq : (a : ℚ) = b := hx.symm.trans hy
    rw [compare_eq_iff_eq.mpr rfl, compare_eq_iff_eq.mpr (by exact_mod_cast heq)]
  · have hgt : (b : ℚ) < a := by
      rw [← hx, ← hy]
      exact mul_lt_mul_of_pos_right h hscale
    rw [compare_gt_iff_gt.mpr h, compare_gt_iff_gt.mpr (by exact_mod_cast hgt)]

section
variable (a : Nat) {b : Nat} (hb : 0 < b)
include hb

/-- A magnitude on the scale that makes the quotient a natural number. -/
theorem value_mul_scale (i : Nat) :
    F.value i * (2 ^ F.unitShift * b) = (F.units i * b : Nat) := by
  have hb' : (b : ℚ) ≠ 0 := by exact_mod_cast hb.ne'
  rw [value, Nat.cast_mul]
  field_simp

/-- The quotient on this scale. -/
theorem quotient_mul_scale :
    (a : ℚ) / b * (2 ^ F.unitShift * b) = (a * 2 ^ F.unitShift : Nat) := by
  have hb' : (b : ℚ) ≠ 0 := by exact_mod_cast hb.ne'
  rw [Nat.cast_mul, Nat.cast_pow, Nat.cast_ofNat]
  field_simp

/-- The quotient lies between two neighbours. -/
theorem value_floorIndex_le :
    F.value (F.floorIndex (a * 2 ^ F.unitShift / b)) ≤ a / b ∧
      (a / b : ℚ) ≤ F.value (F.floorIndex (a * 2 ^ F.unitShift / b) + 1) := by
  obtain ⟨hfloor, hceil⟩ := F.floorIndex_spec (a * 2 ^ F.unitShift / b)
  have hlow := Nat.mul_le_of_le_div _ _ _ hfloor
  have hhigh := Nat.lt_mul_of_div_lt hceil hb
  have hscale : (0 : ℚ) < 2 ^ F.unitShift * b := by positivity
  constructor
  · refine le_of_mul_le_mul_right ?_ hscale
    rw [F.value_mul_scale hb, F.quotient_mul_scale a hb]
    exact_mod_cast hlow
  · refine le_of_mul_le_mul_right ?_ hscale
    rw [F.value_mul_scale hb, F.quotient_mul_scale a hb]
    exact_mod_cast hhigh.le

/-- The quotient is compared with the middle between two magnitudes. -/
theorem compare_middle (i : Nat) :
    compare (2 * (a * 2 ^ F.unitShift)) ((F.units i + F.units (i + 1)) * b)
      = compare (2 * (a / b : ℚ)) (F.value i + F.value (i + 1)) := by
  have hscale : (0 : ℚ) < 2 ^ F.unitShift * b := by positivity
  refine compare_scaled hscale ?_ ?_
  · rw [mul_assoc, F.quotient_mul_scale a hb]
    push_cast
    ring
  · rw [add_mul, F.value_mul_scale hb, F.value_mul_scale hb, ← Nat.cast_add, ← Nat.add_mul]

/-- Rounding a quotient finds the nearest magnitude. -/
theorem nearest_ofRatio : F.Nearest ((a : ℚ) / b) (F.ofRatio a b) := by
  obtain ⟨hbelow, habove⟩ := F.value_floorIndex_le a hb
  have hmiddle := F.compare_middle a hb (F.floorIndex (a * 2 ^ F.unitShift / b))
  unfold ofRatio
  simp only [Nat.pow_eq]
  generalize F.floorIndex (a * 2 ^ F.unitShift / b) = i at *
  cases hcompare : compare (2 * (a / b : ℚ)) (F.value i + F.value (i + 1)) with
  | lt =>
    have hlt := compare_lt_iff_lt.mp hcompare
    rw [hmiddle, hcompare]
    exact F.nearest_of_le_middle hbelow hlt.le fun heq => absurd heq hlt.ne
  | gt =>
    have hgt := compare_gt_iff_gt.mp hcompare
    rw [hmiddle, hcompare]
    exact F.nearest_of_middle_le habove hgt.le fun heq => absurd heq hgt.ne'
  | eq =>
    -- In the middle, the even index is taken.
    have heq := compare_eq_iff_eq.mp hcompare
    rw [hmiddle, hcompare]
    show F.Nearest _ (if i % 2 = 0 then i else i + 1)
    by_cases heven : i % 2 = 0
    · rw [if_pos heven]
      exact F.nearest_of_le_middle hbelow heq.le fun _ => heven
    · rw [if_neg heven]
      exact F.nearest_of_middle_le habove heq.ge fun _ => by omega

end

end BinaryFormat

/-! ### Decimal numbers -/

/-- A number has at most `k` digits if it is below the power of ten with one
more. -/
theorem length_digits_le_iff {n k : Nat} (hk : 0 < k) : (digits n).length ≤ k ↔ n < 10 ^ k :=
  Nat.length_toDigits_le_iff (by decide) hk

/-- A positive number lies between two powers of ten, the lower of which
has as many digits. -/
theorem exists_length_digits {n : Nat} (hn : n ≠ 0) :
    ∃ k, (digits n).length = k + 1 ∧ 10 ^ k ≤ n ∧ n < 10 ^ (k + 1) := by
  have hpos : 0 < (digits n).length := List.length_pos_iff.mpr Nat.toDigits_ne_nil
  obtain ⟨k, hk⟩ : ∃ k, (digits n).length = k + 1 := ⟨_, (Nat.sub_add_cancel hpos).symm⟩
  refine ⟨k, hk, ?_, (length_digits_le_iff k.succ_pos).mp hk.le⟩
  rcases Nat.eq_zero_or_pos k with rfl | hk0
  · exact Nat.pos_of_ne_zero hn
  · rw [← not_lt, ← length_digits_le_iff hk0]
    omega

namespace Decimal

/-- The number that a decimal stands for. -/
def toRat (d : Decimal) : ℚ := d.coefficient * 10 ^ d.exponent

/-- The numerator and the denominator that rounding works with. -/
theorem toRat_eq_div (d : Decimal) : d.toRat = (d.numerator : ℚ) / d.denominator := by
  unfold toRat numerator denominator
  simp only [Nat.pow_eq, Nat.cast_mul, Nat.cast_pow, Nat.cast_ofNat]
  rw [mul_div_assoc, ← zpow_natCast, ← zpow_natCast, ← zpow_sub₀ (by norm_num)]
  congr 2
  omega

/-- A positive decimal number is at least the power of ten at its first
digit. -/
theorem zpow_place_le {d : Decimal} (hd : d.coefficient ≠ 0) : 10 ^ (d.place - 1) ≤ d.toRat := by
  obtain ⟨k, hk, hlow, -⟩ := exists_length_digits hd
  have hplace : d.place - 1 = (k : Int) + d.exponent := by
    unfold place
    omega
  rw [hplace, zpow_add₀ (by norm_num), zpow_natCast, toRat]
  gcongr
  exact_mod_cast hlow

/-- It is below the next power of ten. -/
theorem toRat_lt_zpow_place {d : Decimal} (hd : d.coefficient ≠ 0) : d.toRat < 10 ^ d.place := by
  obtain ⟨k, hk, -, hhigh⟩ := exists_length_digits hd
  unfold place toRat
  rw [hk, zpow_add₀ (by norm_num), zpow_natCast]
  gcongr
  exact_mod_cast hhigh

end Decimal

namespace BinaryFormat

variable (F : BinaryFormat)

/-- A magnitude is nearest to itself. -/
theorem nearest_value (index : Nat) : F.Nearest (F.value index) index := by
  have hstep := F.value_strictMono (Nat.lt_add_one index)
  exact F.nearest_of_le_middle le_rfl (by linarith) fun heq => by linarith

/-- The first magnitude with an exponent is a power of two. -/
theorem value_of_exponent (e : Nat) :
    F.value ((e + 1) * 2 ^ F.fractionBits) = 2 ^ ((e : Int) + F.fractionBits - F.unitShift) := by
  have hunits := F.units_of_exponent e (Nat.two_pow_pos F.fractionBits)
  simp only [Nat.add_zero] at hunits
  rw [value, hunits, zpow_sub₀ two_ne_zero, zpow_add₀ two_ne_zero, Nat.cast_mul, Nat.cast_pow,
    Nat.cast_pow, zpow_natCast, zpow_natCast, zpow_natCast, Nat.cast_ofNat, mul_comm]

/-- The index of infinity stands where the next power of two would be. -/
theorem value_infinity (hexp : 2 ≤ F.exponentBits) :
    F.value F.infinity = 2 ^ 2 ^ (F.exponentBits - 1) := by
  have hhalf : 2 ^ F.exponentBits = 2 * 2 ^ (F.exponentBits - 1) := by
    rw [← Nat.pow_succ']
    congr 1
    omega
  have hbias : 2 ≤ 2 ^ (F.exponentBits - 1) := by
    have hpow : 2 ^ 1 ≤ 2 ^ (F.exponentBits - 1) := Nat.pow_le_pow_right (by decide) (by omega)
    omega
  obtain ⟨e, he⟩ := Nat.exists_eq_add_of_le hbias
  have hindex : F.infinity = (e + e + 2 + 1) * 2 ^ F.fractionBits := by
    have hinf : F.infinity = (2 ^ F.exponentBits - 1) * 2 ^ F.fractionBits := rfl
    have hcount : 2 ^ F.exponentBits - 1 = e + e + 2 + 1 := by omega
    rw [hinf, hcount]
  have hshift : F.unitShift = e + F.fractionBits := by
    have hdef : F.unitShift = 2 ^ (F.exponentBits - 1) - 2 + F.fractionBits := rfl
    omega
  rw [hindex, value_of_exponent, ← zpow_natCast, hshift, he]
  congr 1
  omega

/-- Numbers far below the least positive magnitude are nearest to zero. -/
theorem nearest_zero_of_place {d : Decimal} (hd : d.coefficient ≠ 0)
    (h : d.place < -(F.unitShift : Int)) : F.Nearest d.toRat 0 := by
  have hone : (1 : ℚ) / 2 ^ F.unitShift ≤ F.value 1 := by
    unfold value
    gcongr
    exact_mod_cast F.le_units 1
  have hsmall : 2 * d.toRat < 1 / 2 ^ F.unitShift := by
    have hplace : (10 : ℚ) ^ d.place ≤ 10 ^ (-(F.unitShift : Int) - 1) :=
      zpow_le_zpow_right₀ (by norm_num) (by omega)
    have hpow : (2 : ℚ) ^ F.unitShift ≤ 10 ^ F.unitShift := by gcongr; norm_num
    have hinv : (1 : ℚ) / 10 ^ F.unitShift ≤ 1 / 2 ^ F.unitShift := by gcongr
    have hpos : (0 : ℚ) < 1 / 10 ^ F.unitShift := by positivity
    have hlt := Decimal.toRat_lt_zpow_place hd
    rw [zpow_sub₀ (by norm_num), zpow_neg, zpow_natCast, zpow_one, ← one_div] at hplace
    linarith
  have hnonneg : 0 ≤ d.toRat := by
    unfold Decimal.toRat
    positivity
  refine F.nearest_of_le_middle ?_ ?_ fun _ => rfl
  · rw [value_zero]
    exact hnonneg
  · rw [value_zero, zero_add]
    linarith

/-- Reading a decimal number gives an index of a finite magnitude exactly if
this magnitude is the nearest one. -/
theorem ofDecimal_eq_iff (hexp : 2 ≤ F.exponentBits) {index : Nat} (h : index < F.infinity)
    (d : Decimal) : F.ofDecimal d = index ↔ F.Nearest d.toRat index := by
  -- In each branch it is enough that the result is nearest, because only one index is.
  have hiff : ∀ i, F.Nearest d.toRat i → (i = index ↔ F.Nearest d.toRat index) :=
    fun i hi => ⟨fun heq => heq ▸ hi, hi.unique⟩
  unfold ofDecimal
  by_cases hzero : d.coefficient = 0
  · rw [if_pos hzero]
    apply hiff
    have hd : d.toRat = F.value 0 := by
      rw [Decimal.toRat, hzero, Nat.cast_zero, zero_mul, value_zero]
    rw [hd]
    exact F.nearest_value 0
  rw [if_neg hzero]
  by_cases hlarge : (Nat.pow 2 (F.exponentBits - 1) : Int) < d.place
  · -- The number is at least as large as the magnitude at infinity's index.
    rw [if_pos hlarge]
    have hvalue : F.value F.infinity ≤ d.toRat := by
      rw [F.value_infinity hexp]
      calc (2 : ℚ) ^ 2 ^ (F.exponentBits - 1)
          ≤ 10 ^ 2 ^ (F.exponentBits - 1) := by gcongr; norm_num
        _ = 10 ^ ((2 ^ (F.exponentBits - 1) : Nat) : Int) := (zpow_natCast _ _).symm
        _ ≤ 10 ^ (d.place - 1) := zpow_le_zpow_right₀ (by norm_num) (Int.le_sub_one_of_lt hlarge)
        _ ≤ d.toRat := Decimal.zpow_place_le hzero
    constructor
    · intro heq
      omega
    · intro hnear
      have hle := hnear.le_of_value_le hvalue
      omega
  rw [if_neg hlarge]
  by_cases hsmall : d.place < -(F.unitShift : Int)
  · rw [if_pos hsmall]
    exact hiff 0 (F.nearest_zero_of_place hzero hsmall)
  · rw [if_neg hsmall]
    have hratio := F.nearest_ofRatio d.numerator (b := d.denominator) (Nat.pow_pos (by decide))
    rw [← Decimal.toRat_eq_div] at hratio
    rw [← hiff _ hratio]
    omega

end BinaryFormat

end HtmlTemplate
