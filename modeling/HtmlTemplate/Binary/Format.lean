import HtmlTemplate.Decimal

/-!
# `HtmlTemplate.Binary.Format`: magnitudes of binary floating point

A binary interchange format orders its magnitudes: read without the sign, the bit pattern of a
number is its index in the list of all magnitudes from zero upwards (`BinaryFormat.units` gives
the magnitude at an index). The index after the largest finite one is infinity's, and the indices
above it are not numbers.

All magnitudes of a format are whole multiples of its least positive one, `2 ^ -unitShift`, so
the arithmetic here is on natural numbers and exact.

- `units n` is the magnitude at index `n`, counted in least positive ones.
- `ofRatio` rounds a quotient to the nearest magnitude, and a quotient halfway between two of them
  to the one with the even index.
- `ofDecimal` does the same for a decimal number. A number far out of range is told by the place
  of its first digit, so that its power of ten is never computed.
-/

set_option autoImplicit false

namespace HtmlTemplate

/-- The widths of the two fields of a binary interchange format besides the sign bit. -/
structure BinaryFormat where
  fractionBits : Nat
  exponentBits : Nat

namespace BinaryFormat

/-- Single precision. -/
def single : BinaryFormat := ⟨23, 8⟩

/-- Double precision. -/
def double : BinaryFormat := ⟨52, 11⟩

/-- All bits of a number: the two fields and the sign. -/
def width (F : BinaryFormat) : Nat := F.fractionBits + F.exponentBits + 1

/-- The index of infinity. The finite magnitudes have the indices below it. -/
def infinity (F : BinaryFormat) : Nat := (Nat.pow 2 F.exponentBits - 1) * Nat.pow 2 F.fractionBits

/-- The least positive magnitude is `2 ^ -unitShift`. -/
def unitShift (F : BinaryFormat) : Nat := Nat.pow 2 (F.exponentBits - 1) - 2 + F.fractionBits

/-- The magnitude at an index, in units of the least positive one. An index whose exponent field
is zero is its own magnitude. Each further exponent doubles the spacing. -/
def units (F : BinaryFormat) (index : Nat) : Nat :=
  let exponent := index / Nat.pow 2 F.fractionBits
  if exponent = 0 then index
  else (Nat.pow 2 F.fractionBits + index % Nat.pow 2 F.fractionBits) * Nat.pow 2 (exponent - 1)

/-- The index of the largest magnitude that is at most `q` units. -/
def floorIndex (F : BinaryFormat) (q : Nat) : Nat :=
  let shift := q.log2 - F.fractionBits
  shift * Nat.pow 2 F.fractionBits + q / Nat.pow 2 shift

/-- The index of the magnitude nearest to `a / b`. Halfway between two, the even index wins. -/
def ofRatio (F : BinaryFormat) (a b : Nat) : Nat :=
  let scaled := a * Nat.pow 2 F.unitShift
  let index := F.floorIndex (scaled / b)
  let middle := (F.units index + F.units (index + 1)) * b
  match compare (2 * scaled) middle with
  | .lt => index
  | .gt => index + 1
  | .eq => if index % 2 = 0 then index else index + 1

/-- The index of the magnitude nearest to a decimal number, or `infinity` if the number is too
large. Above `10 ^ 2 ^ (exponentBits - 1)` all numbers are, and below `10 ^ -(unitShift + 1)` all
are nearest to zero. -/
def ofDecimal (F : BinaryFormat) (d : Decimal) : Nat :=
  if d.coefficient = 0 then 0
  else if (Nat.pow 2 (F.exponentBits - 1) : Int) < d.place then F.infinity
  else if d.place < -(F.unitShift : Int) then 0
  else min (F.ofRatio d.numerator d.denominator) F.infinity

end BinaryFormat

end HtmlTemplate
