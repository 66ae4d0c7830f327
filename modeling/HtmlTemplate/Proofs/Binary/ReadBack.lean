import HtmlTemplate.Binary.Basic
import HtmlTemplate.Proofs.Binary.Rounding

/-!
# `HtmlTemplate.Proofs.Binary.ReadBack`: the shortest decimal reads back

`BinaryFormat.shortest` promises a decimal that rounds to the magnitude it
was made for. Whatever a grid offers passes this very test
(`ofDecimal_of_onGrid?`). If no grid offers anything, all digits are
taken, and these are the magnitude itself (`ofDecimal_exactDecimal`).

`Binary.ofDecimal?_shortest` puts the sign back: a finite number is read
from its sign and its shortest decimal, bit for bit, both zeros included.
-/

set_option autoImplicit false

namespace HtmlTemplate

namespace BinaryFormat

variable (F : BinaryFormat)

/-- Only a decimal that reads back is taken from a grid. -/
theorem ofDecimal_of_onGrid? {tie : Tie} {index : Nat} {place : Int} {d : Decimal}
    (h : F.onGrid? tie index place = some d) : F.ofDecimal d = index := by
  unfold onGrid? at h
  simp only at h
  split at h
  case isTrue hbelow =>
    split at h
    case isTrue habove =>
      -- Both neighbours read back, so the choice between them does not matter.
      split at h
      · cases h
        exact hbelow
      · cases h
        exact habove
      · split at h
        · cases h
          exact habove
        · split at h
          · cases h
            exact hbelow
          · cases h
            exact habove
    case isFalse habove =>
      cases h
      exact hbelow
  case isFalse hbelow =>
    split at h
    case isTrue habove =>
      cases h
      exact habove
    case isFalse habove => cases h

/-! ### All digits -/

/-- Each magnitude is at least one unit above the one before. -/
theorem le_units (index : Nat) : index ≤ F.units index := by
  induction index with
  | zero => exact Nat.zero_le _
  | succ index ih =>
    have hnext := F.units_lt_units_succ index
    omega

/-- A finite magnitude is below `2 ^ 2 ^ (exponentBits - 1)`. -/
theorem units_lt_two_pow (hexp : 2 ≤ F.exponentBits) {index : Nat} (h : index < F.infinity) :
    F.units index < 2 ^ (F.unitShift + 2 ^ (F.exponentBits - 1)) := by
  have hhalf : 2 ^ F.exponentBits = 2 * 2 ^ (F.exponentBits - 1) := by
    rw [← Nat.pow_succ']
    congr 1
    omega
  have hbias : 2 ≤ 2 ^ (F.exponentBits - 1) := by
    have hpow : 2 ^ 1 ≤ 2 ^ (F.exponentBits - 1) := Nat.pow_le_pow_right (by decide) (by omega)
    omega
  have hinf : F.infinity = (2 ^ F.exponentBits - 1) * 2 ^ F.fractionBits := rfl
  have hshift : F.unitShift = 2 ^ (F.exponentBits - 1) - 2 + F.fractionBits := rfl
  rw [hinf, hhalf] at h
  rw [hshift]
  generalize 2 ^ (F.exponentBits - 1) = bias at h hbias
  rcases F.index_cases index with hlt | ⟨e, m, hm, rfl⟩
  · rw [F.units_of_lt hlt]
    exact Nat.lt_of_lt_of_le hlt (Nat.pow_le_pow_right (by decide) (by omega))
  · -- The exponent is not the one of infinity.
    have he : e + 1 < 2 * bias - 1 := Nat.lt_of_mul_lt_mul_right (Nat.lt_of_le_of_lt
      (Nat.le_add_right _ m) h)
    rw [F.units_of_exponent e hm]
    calc (2 ^ F.fractionBits + m) * 2 ^ e
        < (2 ^ F.fractionBits * 2) * 2 ^ e :=
          Nat.mul_lt_mul_of_pos_right (by omega) (Nat.two_pow_pos e)
      _ = 2 ^ (F.fractionBits + 1 + e) := by rw [← Nat.pow_succ, ← Nat.pow_add]
      _ ≤ 2 ^ (bias - 2 + F.fractionBits + bias) := Nat.pow_le_pow_right (by decide) (by omega)

/-- The first digit of a finite magnitude is not far out of range. -/
theorem place_exactDecimal (hexp : 2 ≤ F.exponentBits) {index : Nat} (h : index < F.infinity) :
    -(F.unitShift : Int) ≤ (F.exactDecimal index).place ∧
      (F.exactDecimal index).place ≤ (2 ^ (F.exponentBits - 1) : Nat) := by
  have hplace : (F.exactDecimal index).place
      = (digits (F.units index * 5 ^ F.unitShift)).length + -(F.unitShift : Int) := rfl
  have hlength : (digits (F.units index * 5 ^ F.unitShift)).length
      ≤ F.unitShift + 2 ^ (F.exponentBits - 1) := by
    have hpos : 0 < F.unitShift + 2 ^ (F.exponentBits - 1) :=
      Nat.add_pos_right _ (Nat.two_pow_pos _)
    rw [digits, Nat.length_toDigits_le_iff (by decide) hpos]
    calc F.units index * 5 ^ F.unitShift
        < 2 ^ (F.unitShift + 2 ^ (F.exponentBits - 1)) * 5 ^ F.unitShift :=
          Nat.mul_lt_mul_of_pos_right (F.units_lt_two_pow hexp h) (Nat.pow_pos (by decide))
      _ = 10 ^ F.unitShift * 2 ^ 2 ^ (F.exponentBits - 1) := by
          rw [Nat.pow_add, Nat.mul_right_comm, ← Nat.mul_pow]
      _ ≤ 10 ^ F.unitShift * 10 ^ 2 ^ (F.exponentBits - 1) :=
          Nat.mul_le_mul_left _ (Nat.pow_le_pow_left (by decide) _)
      _ = 10 ^ (F.unitShift + 2 ^ (F.exponentBits - 1)) := (Nat.pow_add _ _ _).symm
  rw [hplace]
  omega

/-- All digits of a finite magnitude read back. -/
theorem ofDecimal_exactDecimal (hexp : 2 ≤ F.exponentBits) {index : Nat}
    (h : index < F.infinity) : F.ofDecimal (F.exactDecimal index) = index := by
  have hcoefficient : (F.exactDecimal index).coefficient = F.units index * 5 ^ F.unitShift := rfl
  rw [ofDecimal, hcoefficient]
  rcases Nat.eq_zero_or_pos index with rfl | hindex
  · -- Zero has a branch of its own.
    rw [F.units_of_lt (Nat.two_pow_pos _), Nat.zero_mul, if_pos rfl]
  · have hunits : 0 < F.units index := Nat.lt_of_lt_of_le hindex (F.le_units index)
    have hne : F.units index * 5 ^ F.unitShift ≠ 0 :=
      Nat.ne_of_gt (Nat.mul_pos hunits (Nat.pow_pos (by decide)))
    obtain ⟨hlow, hhigh⟩ := F.place_exactDecimal hexp h
    have hhigh' : ¬ (Nat.pow 2 (F.exponentBits - 1) : Int) < (F.exactDecimal index).place :=
      Int.not_lt.mpr hhigh
    rw [if_neg hne, if_neg hhigh', if_neg (Int.not_lt.mpr hlow)]
    -- The quotient is the magnitude, in units of the least positive one.
    have hratio : F.ofRatio (F.exactDecimal index).numerator (F.exactDecimal index).denominator
        = index := by
      have hdown : (-(F.unitShift : Int)).toNat = 0 := by omega
      have hup : (-(-(F.unitShift : Int))).toNat = F.unitShift := by omega
      show F.ofRatio (F.units index * 5 ^ F.unitShift * 10 ^ (-(F.unitShift : Int)).toNat)
        (10 ^ (-(-(F.unitShift : Int))).toNat) = index
      rw [hdown, hup, Nat.pow_zero, Nat.mul_one]
      refine F.ofRatio_of_units (Nat.pow_pos (by decide)) ?_
      rw [Nat.mul_assoc, ← Nat.mul_pow]
    rw [hratio, Nat.min_eq_left (Nat.le_of_lt h)]

/-! ### The shortest digits -/

/-- The shortest decimal of a finite magnitude reads back. -/
theorem ofDecimal_shortest (hexp : 2 ≤ F.exponentBits) (tie : Tie) {index : Nat}
    (h : index < F.infinity) : F.ofDecimal (F.shortest tie index) = index := by
  unfold shortest
  simp only [ofDecimal_normalized]
  cases hfound : (List.range (F.fractionBits + 2)).findSome? fun k : Nat =>
      F.onGrid? tie index (leadingPlace (F.units index) (Nat.pow 2 F.unitShift) - k) with
  | none => exact F.ofDecimal_exactDecimal hexp h
  | some d =>
    obtain ⟨k, -, hgrid⟩ := List.exists_of_findSome?_eq_some hfound
    exact F.ofDecimal_of_onGrid? hgrid

/-- The shortest decimal of a positive magnitude is not zero, since zero
reads back as zero. -/
theorem coefficient_shortest (hexp : 2 ≤ F.exponentBits) (tie : Tie) {index : Nat}
    (h : index < F.infinity) (hpos : 0 < index) : (F.shortest tie index).coefficient ≠ 0 := by
  intro hzero
  have hback := F.ofDecimal_shortest hexp tie h
  rw [ofDecimal, if_pos hzero] at hback
  omega

end BinaryFormat

/-! ### Signed numbers -/

namespace Binary

variable {F : BinaryFormat}

/-- The bits are the sign and the magnitude. -/
theorem ofMagnitude_isNegative_magnitude (x : Binary F) :
    ofMagnitude x.isNegative x.magnitude = x := by
  obtain ⟨bits⟩ := x
  unfold ofMagnitude isNegative magnitude
  congr 1
  apply BitVec.eq_of_toNat_eq
  have hpos : 0 < 2 ^ (F.width - 1) := Nat.two_pow_pos _
  have hwidth : 2 ^ F.width = 2 * 2 ^ (F.width - 1) := by
    rw [← Nat.pow_succ']
    rfl
  have hlt : bits.toNat < 2 * 2 ^ (F.width - 1) := by
    rw [← hwidth]
    exact bits.isLt
  rw [BitVec.toNat_ofNat, BitVec.msb_eq_decide]
  show ((if decide (2 ^ (F.width - 1) ≤ bits.toNat) then 2 ^ (F.width - 1) else 0)
    + bits.toNat % 2 ^ (F.width - 1)) % 2 ^ F.width = bits.toNat
  rw [hwidth]
  -- A set sign bit adds the weight that the magnitude leaves out.
  by_cases hsign : 2 ^ (F.width - 1) ≤ bits.toNat
  · have hmod : bits.toNat % 2 ^ (F.width - 1) = bits.toNat - 2 ^ (F.width - 1) := by
      rw [Nat.mod_eq_sub_mod hsign, Nat.mod_eq_of_lt (by omega)]
    rw [if_pos (decide_eq_true hsign), hmod, Nat.add_sub_cancel' hsign, Nat.mod_eq_of_lt hlt]
  · have hmod : bits.toNat % 2 ^ (F.width - 1) = bits.toNat := Nat.mod_eq_of_lt (by omega)
    rw [if_neg (by simpa using hsign), hmod, Nat.zero_add, Nat.mod_eq_of_lt hlt]

/-- A finite number comes before the infinities. -/
theorem magnitude_lt_of_isFinite {x : Binary F} (h : x.isFinite = true) :
    x.magnitude < F.infinity := of_decide_eq_true h

/-- A finite number is read from its sign and a decimal that rounds to its
magnitude. -/
theorem ofDecimal?_of_ofDecimal {x : Binary F} (hx : x.isFinite = true) {d : Decimal}
    (h : F.ofDecimal d = x.magnitude) : ofDecimal? x.isNegative d = some x := by
  rw [ofDecimal?]
  simp only [h, if_pos (magnitude_lt_of_isFinite hx)]
  rw [ofMagnitude_isNegative_magnitude]

/-- A finite number is read from its sign and its shortest decimal. -/
theorem ofDecimal?_shortest (hexp : 2 ≤ F.exponentBits) (tie : Tie) {x : Binary F}
    (hx : x.isFinite = true) : ofDecimal? x.isNegative (F.shortest tie x.magnitude) = some x :=
  ofDecimal?_of_ofDecimal hx (F.ofDecimal_shortest hexp tie (magnitude_lt_of_isFinite hx))

end Binary

end HtmlTemplate
