import HtmlTemplate.Json.Number
import HtmlTemplate.Proofs.Binary.ReadBack

/-!
# `HtmlTemplate.Proofs.Json.Numbers`: numbers come back from their literals

A number of JSON data is written as a literal, and the literal is read as
the same number.

* `NumberLiteral.ofChars?_chars`: the notation is read as the literal that
  was written, if digits stand where digits can stand (`IsWritten`).
* `Number.isWritten_literal`: they do in the literal of a number.
* `Number.number?_literal`: this literal stands for the number. For a
  floating-point number, that is all its bits. The literal may have moved
  the point and added zeros to the shortest decimal (`Writes`), and
  rounding does not see either.
-/

set_option autoImplicit false

namespace HtmlTemplate

/-! ### Digits -/

/-- The digits in front count with the places behind them. -/
theorem ofDigits_append (cs ds : List Char) :
    ofDigits (cs ++ ds) = ofDigits cs * 10 ^ ds.length + ofDigits ds := by
  show Nat.ofDigitChars 10 (cs ++ ds) 0 = _
  rw [Nat.ofDigitChars_append, Nat.ofDigitChars_eq_ofDigitChars_zero, Nat.mul_comm]
  rfl

/-- The digits of a number stand for the number. -/
@[simp] theorem ofDigits_digits (n : Nat) : ofDigits (digits n) = n :=
  Nat.ofDigitChars_ten_toDigits

/-- Zeros alone stand for zero. -/
theorem ofDigits_zeros (k : Nat) : ofDigits (List.replicate k '0') = 0 :=
  Nat.ofDigitChars_replicate_zero

/-- A number is written in digits. -/
theorem isDigit_of_mem_digits {n : Nat} {c : Char} (h : c ∈ digits n) : c.isDigit = true :=
  Nat.isDigit_of_mem_toDigits (by decide) (by decide) h

/-- A zero is a digit. -/
theorem isDigit_of_mem_zeros {k : Nat} {c : Char} (h : c ∈ List.replicate k '0') :
    c.isDigit = true := by
  rw [List.eq_of_mem_replicate h]
  rfl

/-- Even zero has a digit. -/
theorem digits_ne_nil (n : Nat) : digits n ≠ [] := Nat.toDigits_ne_nil

/-- A positive number has no zero in front. -/
theorem exists_digits_eq_cons {n : Nat} (hn : n ≠ 0) :
    ∃ c cs, digits n = c :: cs ∧ c ≠ '0' := by
  induction n using Nat.strongRecOn with
  | ind n ih =>
    unfold digits at ih ⊢
    rcases Nat.lt_or_ge n 10 with hlt | hge
    · refine ⟨Nat.digitChar n, [], Nat.toDigits_of_lt_base hlt, ?_⟩
      intro hzero
      exact hn (Nat.digitChar_eq_zero.mp hzero)
    · -- The front digits are those of `n / 10`.
      obtain ⟨c, cs, hcs, hc⟩ := ih (n / 10) (by omega) (by omega)
      refine ⟨c, cs ++ [Nat.digitChar (n % 10)], ?_, hc⟩
      rw [Nat.toDigits_of_base_le (by decide) hge, hcs, List.cons_append]

namespace Json

namespace NumberLiteral

/-! ### Reading the notation -/

/-- Digits stand where digits can stand. -/
structure IsWritten (l : NumberLiteral) : Prop where
  isWhole : isWhole l.whole = true
  whole : ∀ c ∈ l.whole, c.isDigit = true
  fraction : ∀ c ∈ l.fraction, c.isDigit = true
  exponent : ∀ negative ds, l.exponent = some (negative, ds) →
    ds ≠ [] ∧ ∀ c ∈ ds, c.isDigit = true

/-- The condition for a literal without an exponent. -/
theorem IsWritten.of_plain {negative : Bool} {ws fs : List Char}
    (hwhole : NumberLiteral.isWhole ws = true) (hws : ∀ c ∈ ws, c.isDigit = true)
    (hfs : ∀ c ∈ fs, c.isDigit = true) : IsWritten ⟨negative, ws, fs, none⟩ := by
  refine ⟨hwhole, hws, hfs, ?_⟩
  intro _ _ hnone
  cases hnone

/-- Whole digits may begin with anything but a zero. -/
theorem isWhole_cons {c : Char} (hc : c ≠ '0') (cs : List Char) :
    NumberLiteral.isWhole (c :: cs) = true := by
  unfold NumberLiteral.isWhole
  split
  · contradiction
  · rfl
  · rename_i h
    cases h
    exact decide_eq_true hc

/-- The digits of a number can stand in front of the point. -/
theorem isWhole_digits (n : Nat) : NumberLiteral.isWhole (digits n) = true := by
  rcases Nat.eq_zero_or_pos n with rfl | hn
  · rfl
  · obtain ⟨c, cs, hcs, hc⟩ := exists_digits_eq_cons (Nat.ne_of_gt hn)
    rw [hcs]
    exact isWhole_cons hc cs

/-- The reader takes digits up to the first character that is none. -/
theorem takeWhile_isDigit_append {ds rest : List Char} (hds : ∀ c ∈ ds, c.isDigit = true)
    (hrest : rest.takeWhile Char.isDigit = []) :
    (ds ++ rest).takeWhile Char.isDigit = ds := by
  rw [List.takeWhile_append_of_pos hds, hrest, List.append_nil]

/-- That character and all others behind it are left. -/
theorem dropWhile_isDigit_append {ds rest : List Char} (hds : ∀ c ∈ ds, c.isDigit = true)
    (hrest : rest.takeWhile Char.isDigit = []) :
    (ds ++ rest).dropWhile Char.isDigit = rest := by
  have hsplit := List.takeWhile_append_dropWhile (p := Char.isDigit) (l := rest)
  rw [hrest, List.nil_append] at hsplit
  rw [List.dropWhile_append_of_pos hds, hsplit]

/-- No digit is in front of an exponent. -/
theorem takeWhile_exponentChars (e : Option (Bool × List Char)) :
    (exponentChars e).takeWhile Char.isDigit = [] := by
  cases e with
  | none => rfl
  | some p => rfl

/-- The exponent is all that is left after the decimals. -/
theorem exponentOf?_exponentChars {e : Option (Bool × List Char)}
    (h : ∀ negative ds, e = some (negative, ds) → ds ≠ [] ∧ ∀ c ∈ ds, c.isDigit = true) :
    exponentOf? (exponentChars e) = some e := by
  cases e with
  | none => rfl
  | some p =>
    obtain ⟨negative, ds⟩ := p
    obtain ⟨hne, hds⟩ := h negative ds rfl
    have hall : ds.all Char.isDigit = true := List.all_eq_true.mpr hds
    cases negative with
    | true => simp [exponentChars, exponentOf?, exponentSign, hne, hall]
    | false => simp [exponentChars, exponentOf?, exponentSign, hne, hall]

/-- What is written after the whole digits. -/
def tail (l : NumberLiteral) : List Char :=
  (if l.fraction = [] then [] else '.' :: l.fraction) ++ exponentChars l.exponent

/-- Nor is one in front of what follows the whole digits. -/
theorem takeWhile_tail (l : NumberLiteral) : l.tail.takeWhile Char.isDigit = [] := by
  unfold tail
  by_cases hfraction : l.fraction = []
  · rw [if_pos hfraction, List.nil_append, takeWhile_exponentChars]
  · rw [if_neg hfraction]
    rfl

/-- The decimals, if there are any, end at the exponent. -/
theorem fractionOf?_tail {l : NumberLiteral} (h : l.IsWritten) :
    fractionOf? l.tail = some (l.fraction, exponentChars l.exponent) := by
  unfold tail
  by_cases hfraction : l.fraction = []
  · rw [if_pos hfraction, hfraction, List.nil_append]
    cases l.exponent with
    | none => rfl
    | some p => rfl
  · have htake := takeWhile_isDigit_append h.fraction (takeWhile_exponentChars l.exponent)
    have hdrop := dropWhile_isDigit_append h.fraction (takeWhile_exponentChars l.exponent)
    rw [if_neg hfraction, List.cons_append]
    simp only [fractionOf?, htake, hdrop, if_neg hfraction]

/-- The three parts behind the sign are told apart: whole digits, decimals
and exponent. -/
theorem ofUnsigned?_whole_append_tail {l : NumberLiteral} (h : l.IsWritten) :
    ofUnsigned? l.negative (l.whole ++ l.tail) = some l := by
  unfold ofUnsigned?
  rw [takeWhile_isDigit_append h.whole l.takeWhile_tail,
    dropWhile_isDigit_append h.whole l.takeWhile_tail, fractionOf?_tail h]
  show (if isWhole l.whole then some () else none).bind _ = some l
  rw [if_pos h.isWhole]
  show (exponentOf? (exponentChars l.exponent)).bind _ = some l
  rw [exponentOf?_exponentChars h.exponent]
  rfl

/-- A literal is written as its sign and these parts. -/
theorem chars_eq_append (l : NumberLiteral) :
    l.chars = (if l.negative then ['-'] else []) ++ (l.whole ++ l.tail) := by
  simp only [chars, tail, List.append_assoc]

/-- There is a digit in front of the point. -/
theorem exists_whole_eq_cons {l : NumberLiteral} (h : l.IsWritten) :
    ∃ c cs, l.whole = c :: cs ∧ c.isDigit = true := by
  have hwhole := h.isWhole
  have hdigits := h.whole
  cases hcs : l.whole with
  | nil =>
    rw [hcs] at hwhole
    cases hwhole
  | cons c cs =>
    rw [hcs] at hdigits
    exact ⟨c, cs, rfl, hdigits c List.mem_cons_self⟩

/-- The notation is read as the literal that was written. -/
theorem ofChars?_chars {l : NumberLiteral} (h : l.IsWritten) : ofChars? l.chars = some l := by
  have hunsigned := ofUnsigned?_whole_append_tail h
  rw [chars_eq_append]
  cases hnegative : l.negative with
  | true =>
    rw [hnegative] at hunsigned
    exact hunsigned
  | false =>
    -- The first character is a digit, so it is not taken for a sign.
    obtain ⟨c, cs, hcs, hdigit⟩ := exists_whole_eq_cons h
    rw [hnegative, hcs] at hunsigned
    rw [hcs]
    show ofChars? (c :: cs ++ l.tail) = some l
    unfold ofChars?
    split
    case h_1 heq =>
      cases heq
      cases hdigit
    case h_2 => exact hunsigned

/-! ### The literal of a decimal number -/

/-- A literal writes the number with a sign and an absolute value, and
shows that it is not meant as an integer. It may have zeros at the end. -/
structure Writes (l : NumberLiteral) (negative : Bool) (d : Decimal) : Prop where
  isWritten : l.IsWritten
  negative : l.negative = negative
  notInteger : l.fraction ≠ [] ∨ l.exponent ≠ none
  decimal : ∃ k : Nat, l.decimal = ⟨d.coefficient * 10 ^ k, d.exponent - k⟩

/-- Decimals only: the point stands in front of the first digit, or
further to the left. -/
theorem writes_below_one (negative : Bool) (d : Decimal) (h : d.place ≤ 0) :
    Writes ⟨negative, ['0'], List.replicate (-d.place).toNat '0' ++ digits d.coefficient, none⟩
      negative d := by
  refine ⟨.of_plain rfl (fun c hc => isDigit_of_mem_zeros (k := 1) hc) ?_, rfl, Or.inl ?_, 0, ?_⟩
  · intro c hc
    rcases List.mem_append.mp hc with hc | hc
    · exact isDigit_of_mem_zeros hc
    · exact isDigit_of_mem_digits hc
  · exact List.append_ne_nil_of_right_ne_nil _ (digits_ne_nil _)
  · -- The zeros in front do not count, and the point is as far from the end as before.
    have hplace : d.place = (digits d.coefficient).length + d.exponent := rfl
    have hvalue : ofDigits (['0'] ++ (List.replicate (-d.place).toNat '0' ++ digits d.coefficient))
        = d.coefficient := by
      rw [ofDigits_append, ofDigits_append, ofDigits_digits, ofDigits_zeros]
      show 0 * _ + _ = _
      omega
    have hlength : (List.replicate (-d.place).toNat '0' ++ digits d.coefficient).length
        = (-d.place).toNat + (digits d.coefficient).length := by
      rw [List.length_append, List.length_replicate]
    simp only [NumberLiteral.decimal, exponentValue, hvalue, hlength]
    rw [Nat.pow_zero, Nat.mul_one]
    congr 1
    omega

/-- An integer: zeros fill the places up to the point, and one more
follows it. -/
theorem writes_integer (negative : Bool) {d : Decimal} (hd : d.coefficient ≠ 0)
    (h : (digits d.coefficient).length ≤ d.place) :
    Writes ⟨negative, digits d.coefficient
      ++ List.replicate (d.place - (digits d.coefficient).length).toNat '0', ['0'], none⟩
      negative d := by
  refine ⟨.of_plain ?_ ?_ fun c hc => isDigit_of_mem_zeros (k := 1) hc, rfl,
    Or.inl (List.cons_ne_nil _ _), d.exponent.toNat + 1, ?_⟩
  · obtain ⟨c, cs, hcs, hc⟩ := exists_digits_eq_cons hd
    rw [hcs]
    exact isWhole_cons hc _
  · intro c hc
    rcases List.mem_append.mp hc with hc | hc
    · exact isDigit_of_mem_digits hc
    · exact isDigit_of_mem_zeros hc
  · -- Each zero at the end is a factor of ten. The last one is the decimal.
    have hplace : d.place = (digits d.coefficient).length + d.exponent := rfl
    have hzeros : (d.place - (digits d.coefficient).length).toNat = d.exponent.toNat := by omega
    have hvalue : ofDigits (digits d.coefficient ++ List.replicate d.exponent.toNat '0' ++ ['0'])
        = d.coefficient * 10 ^ (d.exponent.toNat + 1) := by
      rw [ofDigits_append, ofDigits_append, ofDigits_digits, ofDigits_zeros, List.length_replicate,
        Nat.pow_succ, ← Nat.mul_assoc]
      rfl
    simp only [NumberLiteral.decimal, exponentValue, hzeros, hvalue]
    congr 1
    show (0 : Int) - (1 : Nat) = d.exponent - (d.exponent.toNat + 1 : Nat)
    omega

/-- The point stands between two digits. -/
theorem writes_split (negative : Bool) {d : Decimal} (hd : d.coefficient ≠ 0) {p : Nat}
    (hp : 0 < p) (hplace : (p : Int) = d.place) (h : p < (digits d.coefficient).length) :
    Writes ⟨negative, (digits d.coefficient).take p, (digits d.coefficient).drop p, none⟩
      negative d := by
  refine ⟨.of_plain ?_ ?_ ?_, rfl, Or.inl ?_, 0, ?_⟩
  · obtain ⟨c, cs, hcs, hc⟩ := exists_digits_eq_cons hd
    obtain ⟨q, rfl⟩ := Nat.exists_eq_succ_of_ne_zero (Nat.ne_of_gt hp)
    rw [hcs]
    exact isWhole_cons hc _
  · intro c hc
    exact isDigit_of_mem_digits (List.mem_of_mem_take hc)
  · intro c hc
    exact isDigit_of_mem_digits (List.mem_of_mem_drop hc)
  · -- There are digits left for the decimals.
    intro hnil
    have hlength := congrArg List.length hnil
    rw [List.length_drop, List.length_nil] at hlength
    omega
  · have hd' : d.place = (digits d.coefficient).length + d.exponent := rfl
    simp only [NumberLiteral.decimal, exponentValue, List.take_append_drop, ofDigits_digits,
      List.length_drop]
    rw [Nat.pow_zero, Nat.mul_one]
    congr 1
    omega

/-- One digit, the others after the point, and an exponent. -/
theorem writes_scientific (negative : Bool) {d : Decimal} (hd : d.coefficient ≠ 0) :
    Writes ⟨negative, (digits d.coefficient).take 1, (digits d.coefficient).drop 1,
      some (d.place - 1 < 0, digits (d.place - 1).natAbs)⟩ negative d := by
  refine ⟨⟨?_, ?_, ?_, ?_⟩, rfl, Or.inr (by simp), 0, ?_⟩
  · obtain ⟨c, cs, hcs, hc⟩ := exists_digits_eq_cons hd
    rw [hcs]
    exact isWhole_cons hc _
  · intro c hc
    exact isDigit_of_mem_digits (List.mem_of_mem_take hc)
  · intro c hc
    exact isDigit_of_mem_digits (List.mem_of_mem_drop hc)
  · intro negative' ds hsome
    cases hsome
    exact ⟨digits_ne_nil _, fun c hc => isDigit_of_mem_digits hc⟩
  · have hd' : d.place = (digits d.coefficient).length + d.exponent := rfl
    have hpos : 0 < (digits d.coefficient).length := List.length_pos_iff.mpr (digits_ne_nil _)
    simp only [NumberLiteral.decimal, exponentValue, List.take_append_drop, ofDigits_digits,
      List.length_drop]
    rw [Nat.pow_zero, Nat.mul_one]
    congr 1
    -- The sign and the digits of the exponent make up the exponent.
    by_cases hneg : d.place - 1 < 0
    · rw [if_pos (decide_eq_true hneg)]
      omega
    · rw [if_neg (by simpa using hneg)]
      omega

/-- The literal of a decimal number writes this number, in one of the four
layouts. -/
theorem writes_ofDecimal (negative : Bool) {d : Decimal} (hd : d.coefficient ≠ 0) :
    Writes (ofDecimal negative d) negative d := by
  unfold ofDecimal
  simp only
  split
  case isTrue hplain =>
    split
    case isTrue hbelow => exact writes_below_one negative d hbelow
    case isFalse habove =>
      split
      case isTrue hinteger => exact writes_integer negative hd hinteger
      case isFalse hsplit => exact writes_split negative hd (by omega) (by omega) (by omega)
  case isFalse hscientific => exact writes_scientific negative hd

/-- A literal that writes a decimal number stands for each floating-point
number with this sign whose magnitude the decimal number rounds to. -/
theorem number?_of_writes {l : NumberLiteral} {d : Decimal} {x : Binary64}
    (hx : x.isFinite = true) (hl : l.Writes x.isNegative d)
    (hd : BinaryFormat.double.ofDecimal d = x.magnitude) : l.number? = some (.float x hx) := by
  obtain ⟨k, hk⟩ := hl.decimal
  -- Decimals or an exponent say that no integer is meant.
  have hinteger : l.integer? = none := by
    unfold integer?
    simp only
    rcases hl.notInteger with hfraction | hexponent
    · rw [if_pos (Or.inl hfraction)]
    · rw [if_pos (Or.inr (Or.inl hexponent))]
  -- Zeros at the end do not change what the number is rounded to.
  have hvalue : BinaryFormat.double.ofDecimal l.decimal = x.magnitude := by
    rw [hk, BinaryFormat.ofDecimal_mul_pow]
    exact hd
  unfold number?
  rw [hinteger, hl.negative, Binary.ofDecimal?_of_ofDecimal hx hvalue]
  show Number.ofBinary? x = _
  rw [Number.ofBinary?, dif_pos hx]

end NumberLiteral

/-! ### The literal of a number -/

namespace Number

/-- The literal of a floating-point number writes a decimal number that
rounds to its magnitude. -/
theorem exists_writes_literal (x : Binary64) (hx : x.isFinite = true) :
    ∃ d, (Number.float x hx).literal.Writes x.isNegative d ∧
      BinaryFormat.double.ofDecimal d = x.magnitude := by
  have hexp : 2 ≤ BinaryFormat.double.exponentBits := by decide
  have hfinite := Binary.magnitude_lt_of_isFinite hx
  unfold literal
  by_cases hzero : x.isZero = true
  · -- Zero has a literal of its own.
    have hmagnitude : x.magnitude = 0 := of_decide_eq_true hzero
    simp only [if_pos hzero]
    have hdigits : ∀ c ∈ ['0'], c.isDigit = true := fun c hc => isDigit_of_mem_zeros (k := 1) hc
    refine ⟨⟨0, 0⟩, ⟨.of_plain rfl hdigits hdigits, rfl, Or.inl (List.cons_ne_nil _ _), 1, rfl⟩, ?_⟩
    rw [hmagnitude]
    rfl
  · have hmagnitude : 0 < x.magnitude := by
      have hne : x.magnitude ≠ 0 := fun h => hzero (decide_eq_true h)
      omega
    simp only [if_neg hzero]
    exact ⟨_, NumberLiteral.writes_ofDecimal _
        (BinaryFormat.double.coefficient_shortest hexp .even hfinite hmagnitude),
      BinaryFormat.double.ofDecimal_shortest hexp .even hfinite⟩

/-- The literal of a number has digits where digits can stand. -/
theorem isWritten_literal (n : Number) : n.literal.IsWritten := by
  cases n with
  | integer i least most =>
    exact .of_plain (NumberLiteral.isWhole_digits _) (fun c hc => isDigit_of_mem_digits hc)
      fun c hc => nomatch hc
  | float x hx =>
    obtain ⟨d, hwrites, -⟩ := exists_writes_literal x hx
    exact hwrites.isWritten

/-- The literal of a number stands for this number. -/
theorem number?_literal (n : Number) : n.literal.number? = some n := by
  cases n with
  | integer i least most =>
    have hinteger : NumberLiteral.integer? ⟨i < 0, digits i.natAbs, [], none⟩ = some i := by
      unfold NumberLiteral.integer?
      simp only [ofDigits_digits]
      rw [if_neg (by simp; omega)]
      congr 1
      by_cases hneg : i < 0
      · rw [if_pos (decide_eq_true hneg)]
        omega
      · rw [if_neg (by simpa using hneg)]
        omega
    unfold literal NumberLiteral.number?
    simp only [hinteger, Option.bind_some, ofInt?, dif_pos (And.intro least most)]
  | float x hx =>
    obtain ⟨d, hwrites, hvalue⟩ := exists_writes_literal x hx
    exact NumberLiteral.number?_of_writes hx hwrites hvalue

end Number

end Json

end HtmlTemplate
