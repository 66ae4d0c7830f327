import HtmlTemplate.Binary.Format
import Mathlib.Algebra.Group.Nat.Defs

/-!
# `HtmlTemplate.Proofs.Binary.Rounding`: rounding to the nearest magnitude

Rounding takes a quotient to the index of the nearest magnitude. Three
facts about it are all that reading and writing need.

* `ofRatio_of_units`: a quotient that is a magnitude rounds to its index.
  The magnitudes grow with their index (`units_lt_units_succ`), and the
  largest one up to a magnitude is the magnitude itself
  (`floorIndex_units`).
* `ofRatio_mul`: it does not matter how the quotient is written.
* `ofDecimal_mul_pow`: nor does it matter with how many zeros a decimal
  number is written. The shortcut for numbers far out of range looks at
  the place of the first digit only, and zeros at the end do not move it.
-/

set_option autoImplicit false

namespace HtmlTemplate.BinaryFormat

/-! ### Magnitudes and their indices -/

variable (F : BinaryFormat)

/-- Below the first power of two, a magnitude is its own index. -/
theorem units_of_lt {index : Nat} (h : index < 2 ^ F.fractionBits) : F.units index = index := by
  have hexp : index / Nat.pow 2 F.fractionBits = 0 := Nat.div_eq_of_lt h
  rw [units]
  simp only [hexp, if_pos]

/-- With exponent `e + 1`, the spacing is `2 ^ e`. -/
theorem units_of_exponent (e : Nat) {m : Nat} (hm : m < 2 ^ F.fractionBits) :
    F.units ((e + 1) * 2 ^ F.fractionBits + m) = (2 ^ F.fractionBits + m) * 2 ^ e := by
  have hpos : 0 < 2 ^ F.fractionBits := Nat.two_pow_pos _
  have hexp : ((e + 1) * 2 ^ F.fractionBits + m) / Nat.pow 2 F.fractionBits = e + 1 := by
    show ((e + 1) * 2 ^ F.fractionBits + m) / 2 ^ F.fractionBits = e + 1
    rw [Nat.mul_comm, Nat.mul_add_div hpos, Nat.div_eq_of_lt hm, Nat.add_zero]
  have hfrac : ((e + 1) * 2 ^ F.fractionBits + m) % Nat.pow 2 F.fractionBits = m := by
    show ((e + 1) * 2 ^ F.fractionBits + m) % 2 ^ F.fractionBits = m
    rw [Nat.mul_comm, Nat.mul_add_mod, Nat.mod_eq_of_lt hm]
  rw [units]
  simp only [hexp, hfrac]
  rfl

/-- An index without an exponent, or with exponent `e + 1`. -/
theorem index_cases (index : Nat) :
    index < 2 ^ F.fractionBits ∨
      ∃ e m, m < 2 ^ F.fractionBits ∧ index = (e + 1) * 2 ^ F.fractionBits + m := by
  rcases Nat.lt_or_ge index (2 ^ F.fractionBits) with hlt | hge
  · exact Or.inl hlt
  · right
    have hpos : 0 < 2 ^ F.fractionBits := Nat.two_pow_pos _
    have hexp : 0 < index / 2 ^ F.fractionBits := Nat.div_pos hge hpos
    refine ⟨index / 2 ^ F.fractionBits - 1, index % 2 ^ F.fractionBits, Nat.mod_lt _ hpos, ?_⟩
    rw [Nat.sub_add_cancel hexp, Nat.mul_comm]
    exact (Nat.div_add_mod _ _).symm

/-- A greater index is a greater magnitude. -/
theorem units_lt_units_succ (index : Nat) : F.units index < F.units (index + 1) := by
  have hpos : 0 < 2 ^ F.fractionBits := Nat.two_pow_pos _
  rcases F.index_cases index with hlt | ⟨e, m, hm, rfl⟩
  · rw [F.units_of_lt hlt]
    rcases Nat.lt_or_ge (index + 1) (2 ^ F.fractionBits) with hnext | hnext
    · rw [F.units_of_lt hnext]
      exact Nat.lt_succ_self index
    · -- The next index is the first one with an exponent.
      have hone : index + 1 = (0 + 1) * 2 ^ F.fractionBits + 0 := by omega
      rw [hone, F.units_of_exponent 0 hpos]
      omega
  · rw [F.units_of_exponent e hm]
    have hspace : 0 < 2 ^ e := Nat.two_pow_pos e
    rcases Nat.lt_or_ge (m + 1) (2 ^ F.fractionBits) with hnext | hnext
    · rw [Nat.add_assoc, F.units_of_exponent e hnext]
      exact Nat.mul_lt_mul_of_pos_right (by omega) hspace
    · -- The next index is the first one with the next exponent.
      have hone : (e + 1) * 2 ^ F.fractionBits + m + 1
          = (e + 1 + 1) * 2 ^ F.fractionBits + 0 := by
        rw [Nat.succ_mul (e + 1)]
        omega
      rw [hone, F.units_of_exponent (e + 1) hpos, Nat.add_zero, Nat.pow_succ, Nat.mul_comm _ 2,
        ← Nat.mul_assoc]
      exact Nat.mul_lt_mul_of_pos_right (by omega) hspace

/-- The index of the largest magnitude up to a magnitude is its own. -/
theorem floorIndex_units (index : Nat) : F.floorIndex (F.units index) = index := by
  have hpos : 0 < 2 ^ F.fractionBits := Nat.two_pow_pos _
  rcases F.index_cases index with hlt | ⟨e, m, hm, rfl⟩
  · have hshift : index.log2 - F.fractionBits = 0 := by
      rcases Nat.eq_zero_or_pos index with rfl | hindex
      · simp
      · have hlog := (Nat.log2_lt (Nat.ne_of_gt hindex)).mpr hlt
        omega
    rw [F.units_of_lt hlt, floorIndex]
    simp only [hshift, Nat.zero_mul, Nat.zero_add]
    exact Nat.div_one index
  · -- The leading bit of the magnitude tells the exponent.
    have hbits : (2 ^ F.fractionBits + m) * 2 ^ e ≠ 0 :=
      Nat.ne_of_gt (Nat.mul_pos (by omega) (Nat.two_pow_pos e))
    have hlog : ((2 ^ F.fractionBits + m) * 2 ^ e).log2 = F.fractionBits + e := by
      rw [Nat.log2_eq_iff hbits, Nat.add_right_comm, Nat.pow_add, Nat.pow_add, Nat.pow_succ]
      constructor
      · exact Nat.mul_le_mul_right _ (by omega)
      · exact Nat.mul_lt_mul_of_pos_right (by omega) (Nat.two_pow_pos e)
    have hshift : ((2 ^ F.fractionBits + m) * 2 ^ e).log2 - F.fractionBits = e := by omega
    rw [F.units_of_exponent e hm, floorIndex]
    simp only [hshift]
    show e * 2 ^ F.fractionBits + (2 ^ F.fractionBits + m) * 2 ^ e / 2 ^ e = _
    rw [Nat.mul_div_cancel _ (Nat.two_pow_pos e), Nat.succ_mul]
    omega

/-! ### Quotients -/

/-- A quotient that is a magnitude rounds to the index of this magnitude. -/
theorem ofRatio_of_units {a b index : Nat} (hb : 0 < b)
    (h : a * 2 ^ F.unitShift = F.units index * b) : F.ofRatio a b = index := by
  have hscaled : a * Nat.pow 2 F.unitShift = F.units index * b := h
  have hfloor : F.floorIndex (F.units index * b / b) = index := by
    rw [Nat.mul_div_cancel _ hb, floorIndex_units]
  -- The magnitude lies below the middle between itself and the next one.
  have hbelow : 2 * (F.units index * b) < (F.units index + F.units (index + 1)) * b := by
    rw [← Nat.mul_assoc]
    have hnext := F.units_lt_units_succ index
    exact Nat.mul_lt_mul_of_pos_right (by omega) hb
  rw [ofRatio]
  simp only [hscaled, hfloor, Nat.compare_eq_lt.mpr hbelow]

/-- Rounding does not depend on how the quotient is written. -/
theorem ofRatio_mul {k : Nat} (hk : 0 < k) (a b : Nat) :
    F.ofRatio (a * k) (b * k) = F.ofRatio a b := by
  have hscaled : a * k * Nat.pow 2 F.unitShift = a * Nat.pow 2 F.unitShift * k :=
    Nat.mul_right_comm _ _ _
  rw [ofRatio, ofRatio]
  simp only [hscaled, Nat.mul_div_mul_right _ _ hk, ← Nat.mul_assoc]
  -- Both sides of the comparison have the factor as well.
  have hcompare : ∀ x y : Nat, compare (x * k) (y * k) = compare x y := by
    intro x y
    simp only [Nat.compare_eq_ite_lt, Nat.mul_lt_mul_right hk]
  rw [hcompare]

end BinaryFormat

/-! ### Decimal numbers -/

/-- A zero at the end is one more digit. -/
theorem length_digits_mul_ten {n : Nat} (hn : n ≠ 0) :
    (digits (n * 10)).length = (digits n).length + 1 := by
  have hpos : 0 < n := Nat.pos_of_ne_zero hn
  have hsplit := Nat.toDigits_append_toDigits (by decide : 1 < 10) hpos (by decide : 0 < 10)
  unfold digits
  rw [Nat.mul_comm, ← Nat.add_zero (10 * n), ← hsplit, List.length_append]
  rfl

namespace BinaryFormat

variable (F : BinaryFormat)

/-- A zero at the end of the coefficient can go to the exponent. -/
theorem ofDecimal_mul_ten (c : Nat) (e : Int) :
    F.ofDecimal ⟨c * 10, e⟩ = F.ofDecimal ⟨c, e + 1⟩ := by
  rcases Nat.eq_zero_or_pos c with rfl | hc
  · rfl
  · have hc0 : c ≠ 0 := Nat.ne_of_gt hc
    have hc10 : c * 10 ≠ 0 := by omega
    have hplace : Decimal.place ⟨c * 10, e⟩ = Decimal.place ⟨c, e + 1⟩ := by
      show ((digits (c * 10)).length : Int) + e = (digits c).length + (e + 1)
      rw [length_digits_mul_ten hc0]
      omega
    have hratio : F.ofRatio (Decimal.numerator ⟨c * 10, e⟩) (Decimal.denominator ⟨c * 10, e⟩)
        = F.ofRatio (Decimal.numerator ⟨c, e + 1⟩) (Decimal.denominator ⟨c, e + 1⟩) := by
      show F.ofRatio (c * 10 * 10 ^ e.toNat) (10 ^ (-e).toNat)
        = F.ofRatio (c * 10 ^ (e + 1).toNat) (10 ^ (-(e + 1)).toNat)
      rcases Int.lt_or_le e 0 with hneg | hnonneg
      · -- The zero cancels one of the denominator.
        have hup : e.toNat = 0 ∧ (e + 1).toNat = 0 := by omega
        have hdown : (-e).toNat = (-(e + 1)).toNat + 1 := by omega
        rw [hup.1, hup.2, hdown, Nat.pow_succ, Nat.pow_zero, Nat.mul_one, Nat.mul_one]
        exact F.ofRatio_mul (by decide) _ _
      · -- The zero is one of the numerator on both sides.
        have hup : (e + 1).toNat = e.toNat + 1 := by omega
        have hdown : (-e).toNat = 0 ∧ (-(e + 1)).toNat = 0 := by omega
        rw [hup, hdown.1, hdown.2, Nat.pow_succ, Nat.mul_assoc, Nat.mul_comm 10]
    rw [ofDecimal, ofDecimal, hplace, hratio]
    simp only [if_neg hc0, if_neg hc10]

/-- A decimal number can be written with any number of zeros at the end. -/
theorem ofDecimal_mul_pow (c k : Nat) (e : Int) :
    F.ofDecimal ⟨c * 10 ^ k, e - k⟩ = F.ofDecimal ⟨c, e⟩ := by
  induction k with
  | zero => simp
  | succ k ih =>
    have hexp : e - (k + 1 : Nat) + 1 = e - k := by omega
    rw [Nat.pow_succ, ← Nat.mul_assoc, ofDecimal_mul_ten, hexp, ih]

/-- So the normalized form of a decimal number rounds the way the number
does. -/
theorem ofDecimal_normalized (d : Decimal) : F.ofDecimal d.normalized = F.ofDecimal d := by
  induction d using Decimal.normalized.induct with
  | case1 d hzero ih =>
    obtain ⟨c, e⟩ := d
    have hc : c = c / 10 * 10 := by
      have hmod : c % 10 = 0 := hzero.2
      omega
    rw [Decimal.normalized, if_pos hzero, ih]
    show F.ofDecimal ⟨c / 10, e + 1⟩ = F.ofDecimal ⟨c, e⟩
    rw [← ofDecimal_mul_ten, ← hc]
  | case2 d hzero => rw [Decimal.normalized, if_neg hzero]

end BinaryFormat

end HtmlTemplate
