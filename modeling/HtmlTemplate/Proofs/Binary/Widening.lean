import HtmlTemplate.Proofs.Binary.FewestDigits
import HtmlTemplate.Proofs.PlainNotation
import HtmlTemplate.ToValue

/-!
# `HtmlTemplate.Proofs.Binary.Widening`: a single precision number keeps its text

A single precision number that fills a hole is stored in double precision,
and printed from there. Plain widening would keep the number and print many
more digits. `Binary.widen` keeps the shortest decimal instead. The main
theorem, `canonical_toValue_single`, says that the text is the one that the
number has in single precision, and what this text is.

* `Nearest.eq_of_few_digits`: two decimals with few digits do not round to
  the same double precision number, since they are far apart
  (`Decimal.toRat_lt_of_lt`) and the number has more bits than that.
* The shortest decimals have few digits. In single precision nine are
  always enough, and the one in double precision is no longer than the one
  that was widened. Hence they are the same
  (`BinaryFormat.IsShortest.eq_of_widened`).
* `double_of_single`: in double precision the number has an exponent and is
  finite, also where the single precision number is subnormal or the largest
  one. So its bits are never too few for the first step.

Nothing in this depends on how a choice between two shortest decimals is
made, one below and one above the number.
-/

set_option autoImplicit false

namespace HtmlTemplate

/-! ### Decimals with few digits -/

namespace Decimal

/-- A number has one decimal without a zero at the end. -/
theorem eq_of_toRat_eq {d d' : Decimal} (h : d.toRat = d'.toRat) (hd : d.coefficient % 10 ≠ 0)
    (hd' : d'.coefficient % 10 ≠ 0) : d = d' := by
  wlog hle : d.exponent ≤ d'.exponent generalizing d d'
  · exact (this h.symm hd' hd (not_le.mp hle).le).symm
  obtain ⟨k, hk, hgrid⟩ := exists_toRat_eq hle
  have hstep : (10 : ℚ) ^ d.exponent ≠ 0 := by positivity
  have hc : d.coefficient = d'.coefficient * 10 ^ k := by
    rw [hgrid, toRat, toRat] at h
    exact_mod_cast mul_right_cancel₀ hstep h
  cases k with
  | zero =>
    -- The exponents are the same, and then so are the coefficients.
    obtain ⟨c, e⟩ := d
    obtain ⟨c', e'⟩ := d'
    simp only at hk hc
    rw [hc, hk, Nat.pow_zero, Nat.mul_one, Nat.cast_zero, Int.add_zero]
  | succ k =>
    -- The decimal on the finer grid would end in a zero.
    rw [hc, Nat.pow_succ, ← Nat.mul_assoc, Nat.mul_mod_left] at hd
    exact absurd rfl hd

/-- Two decimals with at most `n` digits are the same or far apart. -/
theorem toRat_lt_of_lt {d d' : Decimal} {n : Nat} (hd : d.coefficient < 10 ^ n)
    (hd' : d'.coefficient < 10 ^ n) (h : d.toRat < d'.toRat) :
    d.toRat < 10 ^ n * (d'.toRat - d.toRat) := by
  -- They are points of one grid, and differ by a step of it.
  obtain ⟨c, c', place, hc, hc', hfew⟩ : ∃ (c c' : Nat) (place : Int),
      d.toRat = toRat ⟨c, place⟩ ∧ d'.toRat = toRat ⟨c', place⟩ ∧
        (c < 10 ^ n ∨ c' < 10 ^ n) := by
    rcases le_total d.exponent d'.exponent with hle | hle
    · obtain ⟨k, -, hgrid⟩ := exists_toRat_eq hle
      exact ⟨_, _, _, rfl, hgrid, Or.inl hd⟩
    · obtain ⟨k, -, hgrid⟩ := exists_toRat_eq hle
      exact ⟨_, _, _, hgrid, rfl, Or.inr hd'⟩
  rw [hc, hc', toRat, toRat] at h ⊢
  have hstep : (0 : ℚ) < 10 ^ place := by positivity
  have hlt : c < c' := by exact_mod_cast lt_of_mul_lt_mul_right h hstep.le
  have hfew' : (c : ℚ) < 10 ^ n := by exact_mod_cast (show c < 10 ^ n by omega)
  have hnext : (c : ℚ) + 1 ≤ c' := by exact_mod_cast hlt
  have hapart := mul_le_mul_of_nonneg_right hnext hstep.le
  calc (c : ℚ) * 10 ^ place < 10 ^ n * 10 ^ place := by gcongr
    _ ≤ 10 ^ n * (c' * 10 ^ place - c * 10 ^ place) := by
        gcongr
        linarith

end Decimal

namespace BinaryFormat

variable {F : BinaryFormat}

/-- Two decimals with few digits that round to the same magnitude are the
same, if the magnitude has an exponent. -/
theorem Nearest.eq_of_few_digits {n index : Nat} (hn : 10 ^ n < 2 ^ F.fractionBits)
    (hindex : 2 ^ F.fractionBits ≤ index) {d d' : Decimal} (hd : d.coefficient < 10 ^ n)
    (hd' : d'.coefficient < 10 ^ n) (h : F.Nearest d.toRat index)
    (h' : F.Nearest d'.toRat index) : d.toRat = d'.toRat := by
  by_contra hne
  wlog hlt : d.toRat < d'.toRat generalizing d d'
  · exact this hd' hd h' h (Ne.symm hne) (lt_of_le_of_ne (not_lt.mp hlt) (Ne.symm hne))
  have hgap := Decimal.toRat_lt_of_lt hd hd' hlt
  obtain ⟨j, rfl⟩ : ∃ j, index = j + 1 := by
    have hpos : 0 < 2 ^ F.fractionBits := Nat.two_pow_pos _
    exact ⟨index - 1, by omega⟩
  -- Both lie within half a step of the magnitude, which is many steps large.
  have hhigh := h'.two_mul_le
  have hlow := h.le_two_mul
  have hnext := F.value_succ (j + 1)
  have hlast := F.value_succ j
  have hunit : (0 : ℚ) < 2 ^ F.unitShift := by positivity
  have hshrink : (F.spacing j : ℚ) / 2 ^ F.unitShift ≤ F.spacing (j + 1) / 2 ^ F.unitShift := by
    gcongr
    exact_mod_cast F.spacing_le_succ j
  have hlarge : 2 ^ F.fractionBits * (F.spacing (j + 1) / 2 ^ F.unitShift : ℚ)
      ≤ F.value (j + 1) := by
    rw [value, ← mul_div_assoc]
    gcongr
    exact_mod_cast F.spacing_le_units hindex
  have hspace : (0 : ℚ) < F.spacing (j + 1) / 2 ^ F.unitShift := by
    have hpos : 0 < F.spacing (j + 1) := Nat.two_pow_pos _
    positivity
  generalize (F.spacing (j + 1) / 2 ^ F.unitShift : ℚ) = step at *
  have hn' : (10 : ℚ) ^ n + 1 ≤ 2 ^ F.fractionBits := by exact_mod_cast hn
  have hdistance : (10 : ℚ) ^ n * (d'.toRat - d.toRat) ≤ 10 ^ n * step := by
    gcongr
    linarith
  have hsteps := mul_le_mul_of_nonneg_right hn' hspace.le
  linarith

namespace IsShortest

variable {index : Nat} {d : Decimal} (hpos : 0 < index) (hd : F.IsShortest index d)

include hpos hd

/-- A positive magnitude is not read back from a zero. -/
theorem coefficient_ne_zero : d.coefficient ≠ 0 := by
  intro hzero
  have hvalue : d.toRat = F.value 0 := by
    rw [Decimal.toRat, hzero, Nat.cast_zero, zero_mul, value_zero]
  have hback := hd.reads
  rw [hvalue] at hback
  exact hpos.ne ((F.nearest_value 0).unique hback)

/-- The shortest decimal has no zero at the end. -/
theorem coefficient_mod_ten : d.coefficient % 10 ≠ 0 := by
  intro hzero
  have hne := hd.coefficient_ne_zero hpos
  obtain ⟨c, hc⟩ : ∃ c, d.coefficient = c * 10 := ⟨d.coefficient / 10, by omega⟩
  have hvalue : Decimal.toRat ⟨c, d.exponent + 1⟩ = d.toRat := by
    rw [← Decimal.toRat_mul_pow _ 1, Nat.pow_one, ← hc, Nat.cast_one, add_sub_cancel_right]
  have hback := hd.reads
  rw [← hvalue] at hback
  have hshorter := hd.fewest _ hback
  rw [hc, length_digits_mul_ten (by omega)] at hshorter
  exact absurd hshorter (Nat.not_succ_le_self _)

end IsShortest

/-! ### From single to double precision -/

/-- Half of the least positive single precision number is a double precision
number with an exponent. -/
theorem value_double_half : double.value (873 * 2 ^ 52) = single.value 1 / 2 := by
  have hunits : single.units 1 = 1 := single.units_of_lt (by decide)
  have hleast : single.value 1 = 1 / 2 ^ 149 := by
    rw [value, hunits, Nat.cast_one]
    rfl
  have hpow : double.value ((872 + 1) * 2 ^ 52) = 2 ^ ((872 : Int) + 52 - 1074) :=
    double.value_of_exponent 872
  rw [hleast]
  refine hpow.trans ?_
  norm_num

/-- What is too large for single precision is a double precision number. -/
theorem value_double_large : double.value (1151 * 2 ^ 52) = single.value single.infinity := by
  have hpow : double.value ((1150 + 1) * 2 ^ 52) = 2 ^ ((1150 : Int) + 52 - 1074) :=
    double.value_of_exponent 1150
  have hinf : single.value single.infinity = 2 ^ 128 := single.value_infinity (by decide)
  rw [hinf]
  refine hpow.trans ?_
  norm_num

/-- All that rounds to a positive single precision number is within the
range in which double precision has its full number of bits. -/
theorem double_of_single {q : ℚ} {i j : Nat} (hpos : 0 < i) (hi : i < single.infinity)
    (h : single.Nearest q i) (h' : double.Nearest q j) :
    2 ^ double.fractionBits ≤ j ∧ j < double.infinity := by
  constructor
  · -- The number is at least half of the least positive one.
    obtain ⟨k, rfl⟩ : ∃ k, i = k + 1 := ⟨i - 1, by omega⟩
    have hlow := h.le_two_mul
    have hzero : 0 ≤ single.value k := by
      unfold value
      positivity
    have hone : single.value 1 ≤ single.value (k + 1) := single.value_strictMono.monotone (by omega)
    have hhalf : double.value (873 * 2 ^ 52) ≤ q := by
      rw [value_double_half]
      linarith
    have hle := h'.le_of_value_le hhalf
    show 2 ^ 52 ≤ j
    omega
  · -- And it is at most halfway from the largest one to the next power of two.
    have hhigh := h.two_mul_le
    have htop : single.value (i + 1) ≤ single.value single.infinity :=
      single.value_strictMono.monotone hi
    have hself : single.value i ≤ single.value single.infinity :=
      single.value_strictMono.monotone hi.le
    have hmost : q ≤ double.value (1151 * 2 ^ 52) := by
      rw [value_double_large]
      linarith
    have hle := h'.le_of_le_value hmost
    show j < (2 ^ 11 - 1) * 2 ^ 52
    omega

/-- The shortest decimal of a single precision number is that of the double
precision number nearest to it. -/
theorem IsShortest.eq_of_widened {i j : Nat} {d d' : Decimal} (hpos : 0 < i)
    (hi : i < single.infinity) (hd : single.IsShortest i d) (hj : double.Nearest d.toRat j)
    (hd' : double.IsShortest j d') : d' = d := by
  obtain ⟨hnormal, -⟩ := double_of_single hpos hi hd.reads hj
  have hjpos : 0 < j := (Nat.two_pow_pos _).trans_le hnormal
  have hlength : (digits d.coefficient).length ≤ 8 + 1 :=
    length_digits_le_of_isShortest hpos (by decide) hd
  have hlength' : (digits d'.coefficient).length ≤ 8 + 1 := (hd'.fewest d hj).trans hlength
  rw [length_digits_le_iff (Nat.succ_pos 8)] at hlength hlength'
  have hvalue := Nearest.eq_of_few_digits (by decide) hnormal hlength' hlength hd'.reads hj
  exact Decimal.eq_of_toRat_eq hvalue (hd'.coefficient_mod_ten hjpos)
    (hd.coefficient_mod_ten hpos)

/-- Reading a decimal number in double precision does not fail where it
succeeds in single precision. -/
theorem nearest_ofDecimal_of_single {i : Nat} {d : Decimal} (hpos : 0 < i)
    (hi : i < single.infinity) (h : single.Nearest d.toRat i) :
    double.Nearest d.toRat (double.ofDecimal d) := by
  have hratio := double.nearest_ofRatio d.numerator (b := d.denominator) (Nat.pow_pos (by decide))
  rw [← Decimal.toRat_eq_div] at hratio
  obtain ⟨-, hfinite⟩ := double_of_single hpos hi h hratio
  rw [(double.ofDecimal_eq_iff (by decide) hfinite d).mpr hratio]
  exact hratio

end BinaryFormat

namespace Binary

variable {F : BinaryFormat}

/-- The index of infinity fits the bits without the sign. -/
theorem infinity_lt (F : BinaryFormat) : F.infinity < 2 ^ (F.width - 1) := by
  have hinf : F.infinity = (2 ^ F.exponentBits - 1) * 2 ^ F.fractionBits := rfl
  have hwidth : F.width - 1 = F.exponentBits + F.fractionBits := Nat.add_comm _ _
  have hpos : 0 < 2 ^ F.exponentBits := Nat.two_pow_pos _
  rw [hinf, hwidth, Nat.pow_add]
  exact Nat.mul_lt_mul_of_pos_right (by omega) (Nat.two_pow_pos _)

/-- The two parts of a number are the ones it was made of. -/
theorem parts_ofMagnitude (negative : Bool) {index : Nat} (h : index ≤ F.infinity) :
    (ofMagnitude negative index : Binary F).magnitude = index ∧
      (ofMagnitude negative index : Binary F).isNegative = negative := by
  have hlt := h.trans_lt (infinity_lt F)
  have hpos : 0 < 2 ^ (F.width - 1) := Nat.two_pow_pos _
  have hwidth : 2 ^ F.width = 2 * 2 ^ (F.width - 1) := by
    rw [← Nat.pow_succ']
    rfl
  unfold ofMagnitude isNegative magnitude
  rw [BitVec.msb_eq_decide, BitVec.toNat_ofNat]
  show ((if negative then 2 ^ (F.width - 1) else 0) + index) % 2 ^ F.width % 2 ^ (F.width - 1)
      = index ∧ decide (2 ^ (F.width - 1)
      ≤ ((if negative then 2 ^ (F.width - 1) else 0) + index) % 2 ^ F.width) = negative
  rw [hwidth, Nat.mod_eq_of_lt (a := _ + index) (by split <;> omega)]
  cases negative with
  | true =>
    rw [if_pos rfl, Nat.add_mod_left, Nat.mod_eq_of_lt hlt]
    exact ⟨rfl, decide_eq_true (Nat.le_add_right _ _)⟩
  | false =>
    rw [if_neg Bool.false_ne_true, Nat.zero_add, Nat.mod_eq_of_lt hlt]
    exact ⟨rfl, decide_eq_false (Nat.not_le.mpr hlt)⟩

/-! ### The text of a number, case by case -/

/-- What is not a number has one text. -/
theorem canonical_of_isNaN {x : Binary F} (h : x.isNaN = true) : x.canonical = "NaN" := by
  rw [canonical, if_pos h]

/-- So have the zeros. -/
theorem canonical_of_isZero {x : Binary F} (h : x.isZero = true) : x.canonical = "0" := by
  have hmagnitude : x.magnitude = 0 := of_decide_eq_true h
  have hnan : ¬ x.isNaN = true := by simp [isNaN, hmagnitude]
  rw [canonical, if_neg hnan, if_pos h]

/-- The infinities differ in their sign. -/
theorem canonical_of_isInfinite {x : Binary F} (hF : 0 < F.infinity) (h : x.isInfinite = true) :
    x.canonical = (if x.isNegative then "-" else "") ++ "Infinity" := by
  have hmagnitude : x.magnitude = F.infinity := of_decide_eq_true h
  have hnan : ¬ x.isNaN = true := by simp [isNaN, hmagnitude]
  have hzero : ¬ x.isZero = true := by simp [isZero, hmagnitude, hF.ne']
  rw [canonical, if_neg hnan, if_neg hzero, if_pos h]

/-- All other numbers have their sign and their shortest decimal, without an
exponent. -/
theorem canonical_of_isFinite {x : Binary F} (h : x.isFinite = true) (hx : x.isZero = false) :
    x.canonical
      = (if x.isNegative then "-" else "") ++ (F.shortest .up x.magnitude).plain := by
  have hlt := magnitude_lt_of_isFinite h
  have hnan : ¬ x.isNaN = true := by simp [isNaN, hlt.le]
  have hinf : ¬ x.isInfinite = true := by simp [isInfinite, hlt.ne]
  rw [canonical, if_neg hnan, if_neg (by simp [hx]), if_neg hinf]

end Binary

/-! ### The main theorem -/

namespace Binary

open BinaryFormat (single double isShortest_shortest double_of_single nearest_ofDecimal_of_single)

/-- Widening keeps the sign, and goes to the double precision number nearest
to the shortest decimal. -/
theorem widen_spec {x : Binary32} (hx : x.isFinite = true) (hzero : x.isZero = false) :
    x.widen.isFinite = true ∧ x.widen.isZero = false ∧ x.widen.isNegative = x.isNegative ∧
      double.Nearest (single.shortest .up x.magnitude).toRat x.widen.magnitude := by
  have hlt := magnitude_lt_of_isFinite hx
  have hpos : 0 < x.magnitude := Nat.pos_of_ne_zero (of_decide_eq_false hzero)
  have hback := (isShortest_shortest (by decide) .up hlt hpos).reads
  have hnear := nearest_ofDecimal_of_single hpos hlt hback
  obtain ⟨hnormal, hfinite⟩ := double_of_single hpos hlt hback hnear
  have hindex : 0 < double.ofDecimal (single.shortest .up x.magnitude) :=
    (Nat.two_pow_pos _).trans_le hnormal
  obtain ⟨hmagnitude, hnegative⟩ :=
    parts_ofMagnitude (F := .double) x.isNegative hfinite.le
  have hwiden : x.widen = ofMagnitude x.isNegative
      (double.ofDecimal (single.shortest .up x.magnitude)) := by
    have hnan : ¬ x.isNaN = true := by simp [isNaN, hlt.le]
    have hinf : ¬ x.isInfinite = true := by simp [isInfinite, hlt.ne]
    rw [widen, if_neg hnan, if_neg hinf, if_neg (by simp [hzero])]
  rw [isFinite, isZero, hwiden, hmagnitude]
  exact ⟨decide_eq_true hfinite, decide_eq_false hindex.ne', hnegative, hnear⟩

/-- Both numbers have the same shortest decimal. -/
theorem isShortest_widen {x : Binary32} (hx : x.isFinite = true) (hzero : x.isZero = false) :
    single.IsShortest x.magnitude (single.shortest .up x.magnitude) ∧
      double.IsShortest x.widen.magnitude (single.shortest .up x.magnitude) ∧
      double.shortest .up x.widen.magnitude = single.shortest .up x.magnitude := by
  obtain ⟨hwide, hnonzero, -, hnear⟩ := widen_spec hx hzero
  have hlt := magnitude_lt_of_isFinite hx
  have hpos : 0 < x.magnitude := Nat.pos_of_ne_zero (of_decide_eq_false hzero)
  have hd := isShortest_shortest (by decide) .up hlt hpos
  have hd' := isShortest_shortest (by decide) .up (magnitude_lt_of_isFinite hwide)
    (Nat.pos_of_ne_zero (of_decide_eq_false hnonzero))
  have heq := BinaryFormat.IsShortest.eq_of_widened hpos hlt hd hnear hd'
  rw [heq] at hd'
  exact ⟨hd, hd', heq⟩

/-- Widening keeps the text of a number. -/
theorem canonical_widen (x : Binary32) : x.widen.canonical = x.canonical := by
  by_cases hnan : x.isNaN = true
  · rw [canonical_of_isNaN hnan, widen, if_pos hnan]
    exact canonical_of_isNaN (by decide)
  by_cases hinf : x.isInfinite = true
  · -- An infinity keeps its sign.
    obtain ⟨hmagnitude, hnegative⟩ :=
      parts_ofMagnitude (F := .double) x.isNegative (le_refl double.infinity)
    have hwide : (ofMagnitude x.isNegative double.infinity : Binary64).isInfinite = true :=
      decide_eq_true hmagnitude
    rw [canonical_of_isInfinite (by decide) hinf, widen, if_neg hnan, if_pos hinf,
      canonical_of_isInfinite (by decide) hwide, hnegative]
  by_cases hzero : x.isZero = true
  · obtain ⟨hmagnitude, -⟩ := parts_ofMagnitude (F := .double) x.isNegative (Nat.zero_le _)
    rw [canonical_of_isZero hzero, widen, if_neg hnan, if_neg hinf, if_pos hzero]
    exact canonical_of_isZero (decide_eq_true hmagnitude)
  · -- What is left has a shortest decimal, and keeps it.
    have hx : x.isFinite = true := by
      simp only [isNaN, isInfinite, decide_eq_true_eq] at hnan hinf
      exact decide_eq_true (by omega)
    have hzero' : x.isZero = false := by simpa using hzero
    obtain ⟨hwide, hnonzero, hnegative, -⟩ := widen_spec hx hzero'
    obtain ⟨-, -, hshortest⟩ := isShortest_widen hx hzero'
    rw [canonical_of_isFinite hx hzero', canonical_of_isFinite hwide hnonzero, hnegative,
      hshortest]

end Binary

/-- A single precision number is stored in double precision, and is written
with the text that it has in single precision. This text has the fewest
digits that read back as the number in single precision, and of those the
nearest ones.

It does not matter for this how a choice between equally near decimals is
made: whatever shortest decimal is taken in single precision, the double
precision number nearest to it has this shortest decimal and no other. -/
theorem canonical_toValue_single (x : Binary32) :
    ∃ y : Binary64, toValue x = .scalar (.float y) ∧ (Scalar.float y).canonical = x.canonical ∧
      (x.isNaN = true → x.canonical = "NaN") ∧
      (x.isInfinite = true →
        x.canonical = if x.isNegative then "-Infinity" else "Infinity") ∧
      (x.isZero = true → x.canonical = "0") ∧
      (x.isFinite = true → x.isZero = false →
        (∃ d : Decimal, BinaryFormat.single.IsShortest x.magnitude d ∧
          Binary.ofDecimal? x.isNegative d = some x ∧
          x.canonical = (if x.isNegative then "-" else "") ++ d.plain ∧
          IsPlainNumeral x.canonical x.isNegative d.toRat ∧
          y.isFinite = true ∧ y.isNegative = x.isNegative ∧
          BinaryFormat.double.Nearest d.toRat y.magnitude ∧
          BinaryFormat.double.IsShortest y.magnitude d) ∧
        ∀ (d d' : Decimal) (index : Nat), BinaryFormat.single.IsShortest x.magnitude d →
          BinaryFormat.double.Nearest d.toRat index → BinaryFormat.double.IsShortest index d' →
          d' = d) := by
  refine ⟨x.widen, rfl, x.canonical_widen, Binary.canonical_of_isNaN, ?_,
    Binary.canonical_of_isZero, ?_⟩
  · intro hinf
    rw [Binary.canonical_of_isInfinite (by decide) hinf]
    cases x.isNegative with
    | true => rfl
    | false => rfl
  · intro hx hzero
    have hlt := Binary.magnitude_lt_of_isFinite hx
    have hpos : 0 < x.magnitude := Nat.pos_of_ne_zero (of_decide_eq_false hzero)
    constructor
    · obtain ⟨hwide, -, hnegative, hnear⟩ := Binary.widen_spec hx hzero
      obtain ⟨hd, hd', -⟩ := Binary.isShortest_widen hx hzero
      have htext := Binary.canonical_of_isFinite hx hzero
      refine ⟨_, hd, Binary.ofDecimal?_shortest (by decide) .up hx, htext, ?_, hwide, hnegative,
        hnear, hd'⟩
      rw [htext]
      exact Decimal.isPlainNumeral_plain _ (hd.coefficient_ne_zero hpos)
    · intro d d' index hd hindex hd'
      exact BinaryFormat.IsShortest.eq_of_widened hpos hlt hd hindex hd'

/-- The number 2097152.25 lies in the middle between its two shortest
decimals. The upper one is taken. -/
theorem canonical_toValue_single_middle :
    ∃ (y : Binary64) (d : Decimal),
      toValue (⟨0x4a000001#32⟩ : Binary32) = .scalar (.float y) ∧
      (Scalar.float y).canonical = "2097152.3" ∧ IsPlainNumeral "2097152.3" false d.toRat ∧
      BinaryFormat.single.IsShortest 0x4a000001 d ∧
      BinaryFormat.double.Nearest d.toRat y.magnitude := by
  obtain ⟨y, hy, htext, -, -, -, hnonzero⟩ := canonical_toValue_single ⟨0x4a000001#32⟩
  obtain ⟨⟨d, hd, -, -, hplain, -, -, hnear, -⟩, -⟩ := hnonzero (by decide) (by decide)
  have hcanonical : (⟨0x4a000001#32⟩ : Binary32).canonical = "2097152.3" := by decide +kernel
  rw [hcanonical] at htext hplain
  exact ⟨y, d, hy, htext, hplain, hd, hnear⟩

end HtmlTemplate
