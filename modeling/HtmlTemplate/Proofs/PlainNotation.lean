import HtmlTemplate.Proofs.Binary.FewestDigits
import HtmlTemplate.Proofs.Json.Numbers

/-!
# `HtmlTemplate.Proofs.PlainNotation`: plain notation is a numeral

`Decimal.plain` writes a decimal number with all its digits. The reader for
number literals serves to say that it does: `IsPlainNumeral` has the
numerals without an exponent, with the rational number that each one stands
for. `Decimal.isPlainNumeral_plain` is the result.

The layouts of plain notation are those of the literals in JSON data
(`NumberLiteral.Writes`), except that an integer gets no point.
-/

set_option autoImplicit false

namespace HtmlTemplate

/-- The text is a numeral without an exponent, and this is its number,
given by the sign and the absolute value. -/
def IsPlainNumeral (text : String) (negative : Bool) (q : ℚ) : Prop :=
  ∃ l : Json.NumberLiteral, Json.NumberLiteral.ofChars? text.toList = some l ∧
    l.negative = negative ∧ l.exponent = none ∧ l.decimal.toRat = q

namespace Decimal

open Json (NumberLiteral)

/-- Whatever writes a decimal number stands for it. -/
theorem toRat_decimal_of_writes {l : NumberLiteral} {negative : Bool} {d : Decimal}
    (h : l.Writes negative d) : l.decimal.toRat = d.toRat := by
  obtain ⟨k, hk⟩ := h.decimal
  rw [hk, toRat_mul_pow]

/-- An integer without a point: zeros fill the places up to its end. -/
theorem literal_integer (negative : Bool) {d : Decimal} (hd : d.coefficient ≠ 0)
    (h : 0 ≤ d.exponent) {l : NumberLiteral}
    (hl : l = ⟨negative, digits d.coefficient ++ List.replicate d.exponent.toNat '0', [], none⟩) :
    l.IsWritten ∧ l.decimal.toRat = d.toRat := by
  subst hl
  constructor
  · refine .of_plain ?_ ?_ fun c hc => nomatch hc
    · obtain ⟨c, cs, hcs, hc⟩ := exists_digits_eq_cons hd
      rw [hcs]
      exact NumberLiteral.isWhole_cons hc _
    · intro c hc
      exact (List.mem_append.mp hc).elim isDigit_of_mem_digits isDigit_of_mem_zeros
  · have hvalue : ofDigits (digits d.coefficient ++ List.replicate d.exponent.toNat '0' ++ [])
        = d.coefficient * 10 ^ d.exponent.toNat := by
      rw [List.append_nil, ofDigits_append, ofDigits_digits, ofDigits_zeros,
        List.length_replicate, Nat.add_zero]
    have hexponent : (0 : Int) - ([] : List Char).length = d.exponent - d.exponent.toNat := by
      rw [List.length_nil]
      omega
    simp only [NumberLiteral.decimal, NumberLiteral.exponentValue, hvalue, hexponent]
    exact toRat_mul_pow _ _ _

/-- The three layouts of plain notation are an integer, a point between two
digits, and decimals only. -/
theorem exists_literal_plain (negative : Bool) {d : Decimal} (hd : d.coefficient ≠ 0) :
    ∃ ws fs, d.plain.toList = ws ++ (if fs = [] then [] else '.' :: fs) ∧
      NumberLiteral.IsWritten ⟨negative, ws, fs, none⟩ ∧
      (NumberLiteral.decimal ⟨negative, ws, fs, none⟩).toRat = d.toRat := by
  have hplace : d.place = (digits d.coefficient).length + d.exponent := rfl
  unfold plain
  simp only [String.toList_ofList]
  by_cases hinteger : (-d.exponent).toNat = 0
  · refine ⟨_, _, ?_, literal_integer negative hd (by omega) rfl⟩
    rw [if_pos hinteger, if_pos rfl, List.append_nil]
  rw [if_neg hinteger]
  by_cases hsplit : (-d.exponent).toNat < (digits d.coefficient).length
  · have hwrites := NumberLiteral.writes_split negative hd
      (p := (digits d.coefficient).length - (-d.exponent).toNat) (by omega) (by omega) (by omega)
    have hfs := hwrites.notInteger.resolve_right fun h => h rfl
    exact ⟨_, _, by rw [if_pos hsplit, if_neg hfs], hwrites.isWritten,
      toRat_decimal_of_writes hwrites⟩
  · have hwrites := NumberLiteral.writes_below_one negative d (by omega)
    have hfs := hwrites.notInteger.resolve_right fun h => h rfl
    have hzeros : (-d.place).toNat = (-d.exponent).toNat - (digits d.coefficient).length := by
      omega
    refine ⟨_, _, ?_, hwrites.isWritten, toRat_decimal_of_writes hwrites⟩
    rw [if_neg hsplit, if_neg hfs, hzeros]
    rfl

/-- Plain notation is a numeral for the decimal number. -/
theorem isPlainNumeral_plain (negative : Bool) {d : Decimal} (hd : d.coefficient ≠ 0) :
    IsPlainNumeral ((if negative then "-" else "") ++ d.plain) negative d.toRat := by
  obtain ⟨ws, fs, hchars, hwritten, hvalue⟩ := exists_literal_plain negative hd
  refine ⟨⟨negative, ws, fs, none⟩, ?_, rfl, rfl, hvalue⟩
  rw [← NumberLiteral.ofChars?_chars hwritten, String.toList_append, hchars]
  cases negative with
  | true => simp [NumberLiteral.chars, NumberLiteral.exponentChars]
  | false => simp [NumberLiteral.chars, NumberLiteral.exponentChars]

end Decimal

end HtmlTemplate
