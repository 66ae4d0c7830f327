import HtmlTemplate.Binary.Shortest

/-!
# `HtmlTemplate.Binary.Basic`: floating-point numbers as bit patterns

A `Binary F` holds the bits of a number of format `F`: the sign first, then the index of its
magnitude (`HtmlTemplate.Binary.Format`). The library stores, compares, reads and writes these
numbers and never calculates with them, so bits are all it needs.

- `same` is equality of numbers: both zeros are one number, and what is not a number differs from
  everything.
- `canonical` is the text of a number in HTML: shortest digits, plain notation, `0` for both zeros.
- `ofDecimal?` reads a decimal number, correctly rounded, and refuses one that is too large.
- `widen` takes a single precision number to double precision by way of its shortest decimal, so
  that the text of the number stays the same.
-/

set_option autoImplicit false

namespace HtmlTemplate

/-- A floating-point number of format `F`, as its bits. -/
structure Binary (F : BinaryFormat) where
  bits : BitVec F.width
  deriving DecidableEq

/-- A double precision number. -/
abbrev Binary64 := Binary .double

/-- A single precision number. -/
abbrev Binary32 := Binary .single

namespace Binary

variable {F : BinaryFormat}

/-- Whether the sign bit is set. -/
def isNegative (x : Binary F) : Bool := x.bits.msb

/-- The bits without the sign, which are the index of the magnitude. -/
def magnitude (x : Binary F) : Nat := x.bits.toNat % Nat.pow 2 (F.width - 1)

/-- The number with a given sign and index of its magnitude. -/
def ofMagnitude (negative : Bool) (index : Nat) : Binary F :=
  ⟨BitVec.ofNat F.width ((if negative then Nat.pow 2 (F.width - 1) else 0) + index)⟩

/-- A bit pattern that stands for no number. -/
def nan : Binary F := ofMagnitude false (F.infinity + Nat.pow 2 (F.fractionBits - 1))

/-- Whether the bits stand for no number. -/
def isNaN (x : Binary F) : Bool := F.infinity < x.magnitude

/-- Whether the number is one of the two infinities. -/
def isInfinite (x : Binary F) : Bool := x.magnitude = F.infinity

/-- Whether the bits stand for a finite number. -/
def isFinite (x : Binary F) : Bool := x.magnitude < F.infinity

/-- Whether the number is one of the two zeros. -/
def isZero (x : Binary F) : Bool := x.magnitude = 0

/-- Equality of numbers. -/
def same (x y : Binary F) : Bool :=
  !x.isNaN && !y.isNaN && (x.bits == y.bits || x.isZero && y.isZero)

/-- The text of a number in HTML. -/
def canonical (x : Binary F) : String :=
  if x.isNaN then "NaN"
  else if x.isZero then "0"
  else
    (if x.isNegative then "-" else "") ++
      if x.isInfinite then "Infinity" else (F.shortest .up x.magnitude).plain

/-- The number nearest to a decimal number, unless that is too large for the format. -/
def ofDecimal? (negative : Bool) (d : Decimal) : Option (Binary F) :=
  let index := F.ofDecimal d
  if index < F.infinity then some (ofMagnitude negative index) else none

/-- The double precision number whose shortest decimal is that of `x`. -/
def widen (x : Binary32) : Binary64 :=
  if x.isNaN then nan
  else if x.isInfinite then ofMagnitude x.isNegative BinaryFormat.double.infinity
  else if x.isZero then ofMagnitude x.isNegative 0
  else ofMagnitude x.isNegative
    (BinaryFormat.double.ofDecimal (BinaryFormat.single.shortest .up x.magnitude))

end Binary

end HtmlTemplate
