import HtmlTemplate.Proofs.Binary.Nearest
import Mathlib.Data.Nat.Cast.Order.Field

/-!
# `HtmlTemplate.Proofs.Binary.FewestDigits`: the shortest decimal is the shortest

`BinaryFormat.shortest` looks at two decimals on each of a few grids. This
is enough: `isShortest_shortest` says that no decimal with fewer digits
reads back, and that none with as many digits is nearer to the magnitude.

* `exists_onGrid`: whatever reads back with `n + 1` digits, there is a
  point that reads back on the grid where the magnitude itself has `n + 1`
  digits, and it is not farther away. So a grid without such a point rules
  out a number of digits.
* `closest_of_onGrid?`: the search takes the nearest point of its grid.
* `nearest_gridAbove`: the grids become fine enough. A step of the grid has to
  be at most half of the spacing of magnitudes, and with one digit more
  than the fraction has bits it certainly is. For single precision nine
  digits will do (`length_digits_le_of_isShortest`).
-/

set_option autoImplicit false

namespace HtmlTemplate

/-! ### Decimals on grids -/

namespace Decimal

/-- A decimal number with more zeros at the end. -/
theorem toRat_mul_pow (c k : Nat) (e : Int) : toRat ⟨c * 10 ^ k, e - k⟩ = toRat ⟨c, e⟩ := by
  unfold toRat
  rw [zpow_sub₀ (by norm_num), zpow_natCast]
  push_cast
  field_simp

/-- A decimal number lies on all finer grids. -/
theorem exists_toRat_eq {d : Decimal} {place : Int} (h : place ≤ d.exponent) :
    ∃ k : Nat, d.exponent = place + k ∧ d.toRat = toRat ⟨d.coefficient * 10 ^ k, place⟩ := by
  obtain ⟨k, hk⟩ := Int.le.dest h
  refine ⟨k, hk.symm, ?_⟩
  have hplace : place = d.exponent - k := by omega
  rw [hplace, toRat_mul_pow]

/-- Zeros at the end do not change the number. -/
theorem toRat_normalized (d : Decimal) : d.normalized.toRat = d.toRat := by
  induction d using Decimal.normalized.induct with
  | case1 d hzero ih =>
    have hc : d.coefficient = d.coefficient / 10 * 10 ^ 1 := by
      have hmod : d.coefficient % 10 = 0 := hzero.2
      omega
    have hd : d = ⟨d.coefficient / 10 * 10 ^ 1, d.exponent + 1 - (1 : Nat)⟩ := by
      rw [← hc, Nat.cast_one, add_sub_cancel_right]
    rw [normalized, if_pos hzero, ih, ← toRat_mul_pow _ 1, ← hd]
  | case2 d hzero => rw [normalized, if_neg hzero]

/-- Cutting zeros off does not make the coefficient larger. -/
theorem coefficient_normalized_le (d : Decimal) : d.normalized.coefficient ≤ d.coefficient := by
  induction d using Decimal.normalized.induct with
  | case1 d hzero ih =>
    rw [normalized, if_pos hzero]
    exact ih.trans (Nat.div_le_self _ _)
  | case2 d hzero => rw [normalized, if_neg hzero]

/-- A power of ten loses its zeros. -/
theorem coefficient_normalized_lt {d : Decimal} {n : Nat} (h : d.coefficient ≤ 10 ^ (n + 1)) :
    d.normalized.coefficient < 10 ^ (n + 1) := by
  rcases h.lt_or_eq with hlt | heq
  · exact d.coefficient_normalized_le.trans_lt hlt
  · have hpos : 0 < 10 ^ n := Nat.pow_pos (by decide)
    rw [Nat.pow_succ] at heq ⊢
    have hzero : d.coefficient ≠ 0 ∧ d.coefficient % 10 = 0 := by omega
    rw [normalized, if_pos hzero]
    have hle := coefficient_normalized_le ⟨d.coefficient / 10, d.exponent + 1⟩
    simp only at hle
    omega

end Decimal

/-- The first digit of a quotient stands at its leading place. -/
theorem leadingPlace_spec {a b : Nat} (ha : 0 < a) (hb : 0 < b) :
    10 ^ leadingPlace a b ≤ (a : ℚ) / b ∧ (a : ℚ) / b < 10 ^ (leadingPlace a b + 1) := by
  have hb' : (0 : ℚ) < b := by exact_mod_cast hb
  unfold leadingPlace
  by_cases hle : b ≤ a
  · -- The whole part of the quotient has the digit.
    obtain ⟨k, hk, hlow, hhigh⟩ := exists_length_digits (Nat.div_pos hle hb).ne'
    have hplace : ((digits (a / b)).length : Int) - 1 = k := by omega
    rw [if_pos hle, hplace, zpow_natCast, ← Nat.cast_succ, zpow_natCast, le_div_iff₀ hb',
      div_lt_iff₀ hb']
    exact ⟨by exact_mod_cast Nat.mul_le_of_le_div _ _ _ hlow,
      by exact_mod_cast Nat.lt_mul_of_div_lt hhigh hb⟩
  · -- Multiplied by this power of ten, the first digit comes in front of the point.
    obtain ⟨k, hk, hlow, hhigh⟩ := exists_length_digits
      (Nat.div_pos (Nat.le_sub_one_of_lt (not_le.mp hle)) ha).ne'
    have hplace : -((digits ((b - 1) / a)).length : Int) + 1 = -(k : Int) := by omega
    have hlow' := Nat.mul_le_of_le_div _ _ _ hlow
    have hhigh' := Nat.lt_mul_of_div_lt hhigh ha
    rw [if_neg hle, hplace, hk, zpow_neg, zpow_neg, zpow_natCast, zpow_natCast, le_div_iff₀ hb',
      div_lt_iff₀ hb', inv_mul_le_iff₀ (by positivity), lt_inv_mul_iff₀ (by positivity)]
    constructor
    · exact_mod_cast (show b ≤ 10 ^ (k + 1) * a by omega)
    · exact_mod_cast (show 10 ^ k * a < b by omega)

namespace BinaryFormat

variable (F : BinaryFormat)

/-! ### The spacing of magnitudes -/

/-- The units from the magnitude at an index to the next one. -/
def spacing (index : Nat) : Nat := 2 ^ (index / 2 ^ F.fractionBits - 1)

/-- Without an exponent, magnitudes are one unit apart. -/
theorem spacing_of_lt {index : Nat} (h : index < 2 ^ F.fractionBits) : F.spacing index = 1 := by
  rw [spacing, Nat.div_eq_of_lt h]
  rfl

/-- Each exponent doubles the spacing. -/
theorem spacing_of_exponent (e : Nat) {m : Nat} (hm : m < 2 ^ F.fractionBits) :
    F.spacing ((e + 1) * 2 ^ F.fractionBits + m) = 2 ^ e := by
  have hpos : 0 < 2 ^ F.fractionBits := Nat.two_pow_pos _
  rw [spacing, Nat.mul_comm, Nat.mul_add_div hpos, Nat.div_eq_of_lt hm]
  rfl

/-- The spacing leads from one magnitude to the next. -/
theorem units_succ (index : Nat) : F.units (index + 1) = F.units index + F.spacing index := by
  rcases F.index_cases index with hlt | ⟨e, m, hm, rfl⟩
  · rw [F.spacing_of_lt hlt, F.units_of_lt hlt]
    rcases Nat.lt_or_ge (index + 1) (2 ^ F.fractionBits) with hnext | hnext
    · rw [F.units_of_lt hnext]
    · -- The next index is the first one with an exponent.
      have hone : index + 1 = (0 + 1) * 2 ^ F.fractionBits + 0 := by omega
      rw [hone, F.units_of_exponent 0 (Nat.two_pow_pos _)]
      omega
  · rw [F.spacing_of_exponent e hm, F.units_succ_of_exponent e hm, F.units_of_exponent e hm,
      Nat.succ_mul]

/-- Greater magnitudes are not closer together. -/
theorem spacing_le_succ (index : Nat) : F.spacing index ≤ F.spacing (index + 1) := by
  have hdiv := Nat.div_le_div_right (c := 2 ^ F.fractionBits) (Nat.le_add_right index 1)
  exact Nat.pow_le_pow_right (by decide) (by omega)

/-- The spacing is not small against the magnitude. -/
theorem units_lt_spacing (index : Nat) :
    F.units index < 2 ^ (F.fractionBits + 1) * F.spacing index := by
  rcases F.index_cases index with hlt | ⟨e, m, hm, rfl⟩
  · rw [F.spacing_of_lt hlt, F.units_of_lt hlt, Nat.pow_succ]
    omega
  · rw [F.spacing_of_exponent e hm, F.units_of_exponent e hm, Nat.pow_succ]
    exact Nat.mul_lt_mul_of_pos_right (by omega) (Nat.two_pow_pos e)

/-- With an exponent, it is not large against the magnitude either. -/
theorem spacing_le_units {index : Nat} (h : 2 ^ F.fractionBits ≤ index) :
    2 ^ F.fractionBits * F.spacing index ≤ F.units index := by
  rcases F.index_cases index with hlt | ⟨e, m, hm, rfl⟩
  · exact absurd hlt (not_lt.mpr h)
  · rw [F.spacing_of_exponent e hm, F.units_of_exponent e hm]
    exact Nat.mul_le_mul_right _ (Nat.le_add_right _ m)

/-- The same on the rational line. -/
theorem value_succ (index : Nat) :
    F.value (index + 1) = F.value index + F.spacing index / 2 ^ F.unitShift := by
  rw [value, value, units_succ, Nat.cast_add, add_div]

/-! ### The grids of the search -/

/-- The place of the first digit of a magnitude. -/
def firstPlace (index : Nat) : Int := leadingPlace (F.units index) (Nat.pow 2 F.unitShift)

/-- A magnitude lies between two powers of ten, the lower one at its first
digit. -/
theorem firstPlace_spec {index : Nat} (h : 0 < index) :
    10 ^ F.firstPlace index ≤ F.value index ∧
      F.value index < 10 ^ (F.firstPlace index + 1) := by
  have hunits : 0 < F.units index := h.trans_le (F.le_units index)
  have hspec := leadingPlace_spec hunits (Nat.two_pow_pos F.unitShift)
  rw [Nat.cast_pow, Nat.cast_ofNat] at hspec
  exact hspec

/-- How many whole steps of a grid there are up to a magnitude. -/
def gridFloor (index : Nat) (place : Int) : Nat :=
  F.units index * Nat.pow 10 (-place).toNat / (Nat.pow 2 F.unitShift * Nat.pow 10 place.toNat)

/-- The last point of a grid up to a magnitude. -/
def gridBelow (index : Nat) (place : Int) : Decimal := ⟨F.gridFloor index place, place⟩

/-- The first point of a grid above a magnitude. -/
def gridAbove (index : Nat) (place : Int) : Decimal := ⟨F.gridFloor index place + 1, place⟩

/-- A magnitude in steps of a grid. -/
theorem value_eq_mul_zpow (index : Nat) (place : Int) :
    F.value index = (F.units index * 10 ^ (-place).toNat : Nat)
      / (2 ^ F.unitShift * 10 ^ place.toNat : Nat) * 10 ^ place := by
  have hplace : (10 : ℚ) ^ place * 10 ^ (-place).toNat = 10 ^ place.toNat := by
    rw [← zpow_natCast, ← zpow_natCast, ← zpow_add₀ (by norm_num)]
    congr 1
    omega
  unfold value
  push_cast
  rw [← hplace]
  field_simp

/-- The point below is not above the magnitude. -/
theorem gridBelow_le (index : Nat) (place : Int) :
    (F.gridBelow index place).toRat ≤ F.value index := by
  rw [F.value_eq_mul_zpow index place, gridBelow, Decimal.toRat]
  gcongr
  exact Nat.cast_div_le

/-- The point above is. -/
theorem lt_gridAbove (index : Nat) (place : Int) :
    F.value index < (F.gridAbove index place).toRat := by
  have hpos : 0 < 2 ^ F.unitShift * 10 ^ place.toNat :=
    Nat.mul_pos (Nat.two_pow_pos _) (Nat.pow_pos (by decide))
  rw [F.value_eq_mul_zpow index place, gridAbove, Decimal.toRat]
  gcongr
  rw [div_lt_iff₀ (by exact_mod_cast hpos)]
  exact_mod_cast Nat.lt_mul_of_div_lt (Nat.lt_succ_self _) hpos

/-- The search compares the magnitude with the middle between the two
points around it. -/
theorem compare_grid (index : Nat) (place : Int) :
    compare (2 * (F.units index * Nat.pow 10 (-place).toNat))
      ((2 * F.gridFloor index place + 1) * (Nat.pow 2 F.unitShift * Nat.pow 10 place.toNat))
      = compare (2 * F.value index)
        ((F.gridBelow index place).toRat + (F.gridAbove index place).toRat) := by
  have hb : 0 < 2 ^ F.unitShift * 10 ^ place.toNat :=
    Nat.mul_pos (Nat.two_pow_pos _) (Nat.pow_pos (by decide))
  have hb' : (0 : ℚ) < (2 ^ F.unitShift * 10 ^ place.toNat : Nat) := by exact_mod_cast hb
  have hstep : (0 : ℚ) < 10 ^ place := by positivity
  rw [F.value_eq_mul_zpow index place, gridBelow, gridAbove, Decimal.toRat, Decimal.toRat]
  simp only [Nat.pow_eq]
  generalize 2 ^ F.unitShift * 10 ^ place.toNat = b at *
  generalize F.units index * 10 ^ (-place).toNat = a at *
  -- In steps of the grid, both sides are quotients with this denominator.
  refine compare_scaled (div_pos hb' hstep) ?_ ?_
  · push_cast
    field_simp
  · push_cast
    field_simp
    ring

/-- What the search takes from a grid: a neighbour of the magnitude that
reads back, and the nearer one if both do. -/
theorem onGrid?_cases {tie : Tie} {index : Nat} {place : Int} {d : Decimal}
    (h : F.onGrid? tie index place = some d) :
    (d = F.gridBelow index place ∧ (F.ofDecimal (F.gridAbove index place) = index →
      2 * F.value index ≤ d.toRat + (F.gridAbove index place).toRat)) ∨
    (d = F.gridAbove index place ∧ (F.ofDecimal (F.gridBelow index place) = index →
      (F.gridBelow index place).toRat + d.toRat ≤ 2 * F.value index)) := by
  have hcompare := (F.compare_grid index place).symm
  unfold onGrid? at h
  simp only at h
  -- Whether the point below reads back, then the point above, then which is nearer.
  split at h
  case isTrue hbelow =>
    split at h
    case isTrue habove =>
      split at h
      case h_1 hlt =>
        cases h
        exact Or.inl ⟨rfl, fun _ => (compare_lt_iff_lt.mp (hcompare.trans hlt)).le⟩
      case h_2 hgt =>
        cases h
        exact Or.inr ⟨rfl, fun _ => (compare_gt_iff_gt.mp (hcompare.trans hgt)).le⟩
      case h_3 heq =>
        have hmiddle := compare_eq_iff_eq.mp (hcompare.trans heq)
        split at h
        · cases h
          exact Or.inr ⟨rfl, fun _ => hmiddle.ge⟩
        · split at h
          · cases h
            exact Or.inl ⟨rfl, fun _ => hmiddle.le⟩
          · cases h
            exact Or.inr ⟨rfl, fun _ => hmiddle.ge⟩
    case isFalse habove =>
      cases h
      exact Or.inl ⟨rfl, fun hback => absurd hback habove⟩
  case isFalse hbelow =>
    split at h
    case isTrue habove =>
      cases h
      exact Or.inr ⟨rfl, fun hback => absurd hback hbelow⟩
    case isFalse habove => cases h

/-- The search leaves a grid only if neither neighbour reads back. -/
theorem onGrid?_eq_none {tie : Tie} {index : Nat} {place : Int}
    (h : F.onGrid? tie index place = none) :
    F.ofDecimal (F.gridBelow index place) ≠ index ∧
      F.ofDecimal (F.gridAbove index place) ≠ index := by
  unfold onGrid? at h
  simp only at h
  split at h
  case isTrue hbelow =>
    split at h
    case isTrue habove =>
      split at h
      · cases h
      · cases h
      · split at h
        · cases h
        · split at h
          · cases h
          · cases h
    case isFalse habove => cases h
  case isFalse hbelow =>
    split at h
    case isTrue habove => cases h
    case isFalse habove => exact ⟨hbelow, habove⟩

/-! ### The best point of a grid -/

variable {F}

/-- The points of a grid are in the order of their coefficients. -/
theorem toRat_le_toRat {c c' : Nat} (h : c ≤ c') (place : Int) :
    Decimal.toRat ⟨c, place⟩ ≤ Decimal.toRat ⟨c', place⟩ := by
  unfold Decimal.toRat
  gcongr

/-- If a point of a grid reads back, then so does the neighbour of the
magnitude on the same side, which is not farther away. -/
theorem gridBelow_or_gridAbove {index : Nat} {place : Int} {c : Nat}
    (hc : F.Nearest (Decimal.toRat ⟨c, place⟩) index) :
    (F.Nearest (F.gridBelow index place).toRat index ∧
      F.value index - (F.gridBelow index place).toRat
        ≤ |Decimal.toRat ⟨c, place⟩ - F.value index|) ∨
    (F.Nearest (F.gridAbove index place).toRat index ∧
      (F.gridAbove index place).toRat - F.value index
        ≤ |Decimal.toRat ⟨c, place⟩ - F.value index|) := by
  have hbelow := F.gridBelow_le index place
  have habove := F.lt_gridAbove index place
  -- On its side of the magnitude, `c` is not nearer than the neighbour.
  rcases Nat.lt_or_ge (F.gridFloor index place) c with hlt | hge
  · have hpoint : (F.gridAbove index place).toRat ≤ Decimal.toRat ⟨c, place⟩ :=
      toRat_le_toRat hlt place
    refine Or.inr ⟨hc.of_between (Or.inr ⟨habove.le, hpoint⟩), ?_⟩
    rw [abs_of_nonneg (by linarith)]
    linarith
  · have hpoint : Decimal.toRat ⟨c, place⟩ ≤ (F.gridBelow index place).toRat :=
      toRat_le_toRat hge place
    refine Or.inl ⟨hc.of_between (Or.inl ⟨hpoint, hbelow⟩), ?_⟩
    rw [abs_of_nonpos (by linarith)]
    linarith

section Search

variable (hexp : 2 ≤ F.exponentBits) {tie : Tie} {index : Nat} (hindex : index < F.infinity)
  {place : Int} {c : Nat} (hc : F.Nearest (Decimal.toRat ⟨c, place⟩) index)

include hexp hindex hc

/-- A point of a grid that reads back keeps the search on this grid. -/
theorem onGrid?_ne_none : F.onGrid? tie index place ≠ none := by
  intro hnone
  obtain ⟨hbelow, habove⟩ := F.onGrid?_eq_none hnone
  rcases gridBelow_or_gridAbove hc with ⟨hback, -⟩ | ⟨hback, -⟩
  · exact hbelow ((F.ofDecimal_eq_iff hexp hindex _).mpr hback)
  · exact habove ((F.ofDecimal_eq_iff hexp hindex _).mpr hback)

/-- The search takes the nearest point of a grid that reads back. -/
theorem closest_of_onGrid? {d : Decimal} (h : F.onGrid? tie index place = some d) :
    |d.toRat - F.value index| ≤ |Decimal.toRat ⟨c, place⟩ - F.value index| := by
  have hbelow := F.gridBelow_le index place
  have habove := F.lt_gridAbove index place
  rcases F.onGrid?_cases h with ⟨rfl, hother⟩ | ⟨rfl, hother⟩
  · rw [abs_of_nonpos (by linarith)]
    rcases gridBelow_or_gridAbove hc with ⟨-, hle⟩ | ⟨hback, hle⟩
    · linarith
    · have hnear := hother ((F.ofDecimal_eq_iff hexp hindex _).mpr hback)
      linarith
  · rw [abs_of_nonneg (by linarith)]
    rcases gridBelow_or_gridAbove hc with ⟨hback, hle⟩ | ⟨-, hle⟩
    · have hnear := hother ((F.ofDecimal_eq_iff hexp hindex _).mpr hback)
      linarith
    · linarith

end Search

/-! ### Grids and numbers of digits -/

/-- What reads back with `n + 1` digits can be replaced by a point that
reads back on the grid where the magnitude itself has `n + 1` digits. -/
theorem exists_onGrid {index n : Nat} (hpos : 0 < index) {d : Decimal}
    (hd : d.coefficient < 10 ^ (n + 1)) (h : F.Nearest d.toRat index) :
    ∃ c, F.Nearest (Decimal.toRat ⟨c, F.firstPlace index - n⟩) index ∧
      |Decimal.toRat ⟨c, F.firstPlace index - n⟩ - F.value index|
        ≤ |d.toRat - F.value index| := by
  obtain ⟨hfirst, -⟩ := F.firstPlace_spec hpos
  rcases le_or_gt (10 ^ F.firstPlace index) d.toRat with hle | hlt
  · -- With so few digits, the decimal lies on the grid.
    have hplace : F.firstPlace index - n ≤ d.exponent := by
      have hcoefficient : (d.coefficient : ℚ) < 10 ^ (n + 1) := by exact_mod_cast hd
      have hd' : d.toRat < 10 ^ ((n + 1 : Nat) + d.exponent) := by
        rw [zpow_add₀ (by norm_num), zpow_natCast, Decimal.toRat]
        gcongr
      have hexponent := (zpow_lt_zpow_iff_right₀ (by norm_num : (1 : ℚ) < 10)).mp (hle.trans_lt hd')
      omega
    obtain ⟨k, -, hk⟩ := Decimal.exists_toRat_eq hplace
    rw [hk] at h ⊢
    exact ⟨_, h, le_rfl⟩
  · -- The power of ten at the first digit lies in between, and on all grids.
    have hpower : Decimal.toRat ⟨10 ^ n, F.firstPlace index - n⟩ = 10 ^ F.firstPlace index := by
      have hmul := Decimal.toRat_mul_pow 1 n (F.firstPlace index)
      rw [Nat.one_mul] at hmul
      rw [hmul, Decimal.toRat, Nat.cast_one, one_mul]
    refine ⟨10 ^ n, ?_, ?_⟩
    · rw [hpower]
      exact h.of_between (Or.inl ⟨hlt.le, hfirst⟩)
    · rw [hpower, abs_of_nonpos (by linarith), abs_of_nonpos (by linarith)]
      linarith

/-- On this grid, the neighbours of the magnitude have no more digits. -/
theorem gridFloor_lt {index : Nat} (hpos : 0 < index) (n : Nat) :
    F.gridFloor index (F.firstPlace index - n) < 10 ^ (n + 1) := by
  obtain ⟨-, hfirst⟩ := F.firstPlace_spec hpos
  have hbelow := F.gridBelow_le index (F.firstPlace index - n)
  have hpower : (10 : ℚ) ^ (F.firstPlace index + 1)
      = 10 ^ (n + 1) * 10 ^ (F.firstPlace index - n) := by
    rw [← zpow_natCast, ← zpow_add₀ (by norm_num)]
    congr 1
    push_cast
    ring
  have hlt := hbelow.trans_lt hfirst
  rw [hpower, gridBelow, Decimal.toRat] at hlt
  exact_mod_cast lt_of_mul_lt_mul_right hlt (by positivity)

/-- A magnitude is less than `2 ^ (fractionBits + 1)` steps from zero. -/
theorem value_lt_spacing (index : Nat) :
    F.value index < 2 ^ (F.fractionBits + 1) * (F.spacing index / 2 ^ F.unitShift) := by
  rw [value, ← mul_div_assoc]
  gcongr
  exact_mod_cast F.units_lt_spacing index

/-- If a step of the grid is not more than half of the spacing of
magnitudes, the next point above the magnitude reads back. -/
theorem nearest_gridAbove {index n : Nat} (hpos : 0 < index)
    (hn : 2 ^ (F.fractionBits + 2) ≤ 10 ^ n) :
    F.Nearest (F.gridAbove index (F.firstPlace index - n)).toRat index := by
  obtain ⟨hfirst, -⟩ := F.firstPlace_spec hpos
  have hbelow := F.gridBelow_le index (F.firstPlace index - n)
  have habove := F.lt_gridAbove index (F.firstPlace index - n)
  have hvalue := value_lt_spacing (F := F) index
  have hnext := F.value_succ index
  have hstep : (F.gridAbove index (F.firstPlace index - n)).toRat
      = (F.gridBelow index (F.firstPlace index - n)).toRat + 10 ^ (F.firstPlace index - n) := by
    rw [gridAbove, gridBelow, Decimal.toRat, Decimal.toRat, Nat.cast_succ, add_one_mul]
  have hfine : (10 : ℚ) ^ (F.firstPlace index - n) * 2 ^ (F.fractionBits + 2)
      ≤ 10 ^ F.firstPlace index := by
    have hn' : (2 : ℚ) ^ (F.fractionBits + 2) ≤ 10 ^ n := by exact_mod_cast hn
    calc (10 : ℚ) ^ (F.firstPlace index - n) * 2 ^ (F.fractionBits + 2)
        ≤ 10 ^ (F.firstPlace index - n) * 10 ^ n := by gcongr
      _ = 10 ^ F.firstPlace index := by
          rw [← zpow_natCast, ← zpow_add₀ (by norm_num), sub_add_cancel]
  -- The magnitude has its first digit `n` places above the grid, and the spacing is not small.
  have hhalf : 2 * (10 : ℚ) ^ (F.firstPlace index - n) < F.spacing index / 2 ^ F.unitShift := by
    refine lt_of_mul_lt_mul_left ?_ (show (0 : ℚ) ≤ 2 ^ (F.fractionBits + 1) by positivity)
    have hpow : (2 : ℚ) ^ (F.fractionBits + 2) = 2 ^ (F.fractionBits + 1) * 2 := pow_succ _ _
    rw [hpow] at hfine
    linarith
  refine F.nearest_of_le_middle habove.le ?_ fun heq => ?_
  · linarith
  · linarith

/-! ### The search as a whole -/

variable (F)

/-- The decimal `d` is written for the magnitude at `index`: it reads back,
no decimal with fewer digits does, and none with as many digits that does
is nearer to the magnitude. -/
structure IsShortest (index : Nat) (d : Decimal) : Prop where
  reads : F.Nearest d.toRat index
  fewest : ∀ d' : Decimal, F.Nearest d'.toRat index →
    (digits d.coefficient).length ≤ (digits d'.coefficient).length
  closest : ∀ d' : Decimal, F.Nearest d'.toRat index →
    (digits d'.coefficient).length = (digits d.coefficient).length →
    |d.toRat - F.value index| ≤ |d'.toRat - F.value index|

end BinaryFormat

/-- A search through the numbers from zero on finds the first one. -/
theorem exists_first_of_findSome?_range {α : Type} {f : Nat → Option α} {n : Nat} {a : α}
    (h : (List.range n).findSome? f = some a) :
    ∃ k < n, f k = some a ∧ ∀ j < k, f j = none := by
  induction n with
  | zero => cases h
  | succ n ih =>
    rw [List.range_succ, List.findSome?_append] at h
    cases hfront : (List.range n).findSome? f with
    | some b =>
      rw [hfront, Option.some_or] at h
      obtain ⟨k, hk, hfound, hfirst⟩ := ih (hfront.trans h)
      exact ⟨k, hk.trans (Nat.lt_succ_self n), hfound, hfirst⟩
    | none =>
      rw [hfront, Option.none_or] at h
      refine ⟨n, Nat.lt_succ_self n, ?_, fun j hj => ?_⟩
      · simpa using h
      · exact List.findSome?_eq_none_iff.mp hfront j (List.mem_range.mpr hj)

namespace BinaryFormat

variable {F : BinaryFormat}

/-- The search ends on a grid, and it has been on all coarser grids before. -/
theorem exists_shortest_eq (hexp : 2 ≤ F.exponentBits) (tie : Tie) {index : Nat}
    (hindex : index < F.infinity) (hpos : 0 < index) :
    ∃ (k : Nat) (d : Decimal), F.shortest tie index = d.normalized ∧
      F.onGrid? tie index (F.firstPlace index - k) = some d ∧
      ∀ j : Nat, j < k → F.onGrid? tie index (F.firstPlace index - j) = none := by
  have hfine : 2 ^ (F.fractionBits + 2) ≤ 10 ^ (F.fractionBits + 1) := by
    have hpow : 2 ^ F.fractionBits ≤ 10 ^ F.fractionBits := Nat.pow_le_pow_left (by decide) _
    rw [Nat.pow_add, Nat.pow_add]
    omega
  unfold shortest
  simp only
  cases hfound : (List.range (F.fractionBits + 2)).findSome? fun k : Nat =>
      F.onGrid? tie index (leadingPlace (F.units index) (Nat.pow 2 F.unitShift) - k) with
  | none =>
    -- The last grid is fine enough, so the search cannot leave it.
    have hlast := List.findSome?_eq_none_iff.mp hfound (F.fractionBits + 1)
      (List.mem_range.mpr (Nat.lt_succ_self _))
    exact absurd hlast (onGrid?_ne_none hexp hindex (nearest_gridAbove hpos hfine))
  | some d =>
    obtain ⟨k, -, hgrid, hcoarser⟩ := exists_first_of_findSome?_range hfound
    exact ⟨k, d, rfl, hgrid, hcoarser⟩

/-- The shortest decimal of a magnitude is what its name says. -/
theorem isShortest_shortest (hexp : 2 ≤ F.exponentBits) (tie : Tie) {index : Nat}
    (hindex : index < F.infinity) (hpos : 0 < index) :
    F.IsShortest index (F.shortest tie index) := by
  obtain ⟨k, d, heq, hgrid, hcoarser⟩ := exists_shortest_eq hexp tie hindex hpos
  have hfloor := gridFloor_lt hpos (F := F) k
  have hdigits : d.coefficient ≤ 10 ^ (k + 1) := by
    rcases F.onGrid?_cases hgrid with ⟨rfl, -⟩ | ⟨rfl, -⟩
    · exact hfloor.le
    · exact hfloor
  have hlength : (digits (F.shortest tie index).coefficient).length ≤ k + 1 := by
    rw [length_digits_le_iff k.succ_pos, heq]
    exact Decimal.coefficient_normalized_lt hdigits
  refine ⟨(F.ofDecimal_eq_iff hexp hindex _).mp (F.ofDecimal_shortest hexp tie hindex), ?_, ?_⟩
  · -- With fewer digits, the search would have ended on a coarser grid.
    intro d' hd'
    by_contra hshorter
    have hpos' : 0 < (digits d'.coefficient).length :=
      List.length_pos_iff.mpr Nat.toDigits_ne_nil
    obtain ⟨j, hj⟩ := Nat.exists_eq_succ_of_ne_zero hpos'.ne'
    obtain ⟨c, hc, -⟩ := exists_onGrid hpos ((length_digits_le_iff j.succ_pos).mp hj.le) hd'
    exact onGrid?_ne_none hexp hindex hc (hcoarser j (by omega))
  · -- With as many digits, there is a point of this grid that is not farther away.
    intro d' hd' hsame
    obtain ⟨c, hc, hle⟩ := exists_onGrid hpos
      ((length_digits_le_iff k.succ_pos).mp (hsame.trans_le hlength)) hd'
    rw [heq, Decimal.toRat_normalized]
    exact (closest_of_onGrid? hexp hindex hc hgrid).trans hle

/-- So many digits are enough. -/
theorem length_digits_le_of_isShortest {index n : Nat} (hpos : 0 < index) {d : Decimal}
    (hn : 2 ^ (F.fractionBits + 2) ≤ 10 ^ n) (hd : F.IsShortest index d) :
    (digits d.coefficient).length ≤ n + 1 := by
  have hback := nearest_gridAbove hpos hn
  rw [← Decimal.toRat_normalized] at hback
  refine (hd.fewest _ hback).trans ?_
  rw [length_digits_le_iff n.succ_pos]
  exact Decimal.coefficient_normalized_lt (gridFloor_lt hpos n)

end BinaryFormat

end HtmlTemplate
