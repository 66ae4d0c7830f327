/-!
# `HtmlTemplate.Decimal`: decimal numbers and their plain notation

A `Decimal` is a coefficient times a power of ten, so `1.5` is `⟨15, -1⟩` and also
`⟨150, -2⟩`. `normalized` picks the form without trailing zeros. `plain` writes all digits and
never an exponent: `⟨15, -1⟩` gives `1.5` and `⟨1, 21⟩` a one and 21 zeros.

`leadingPlace` is the place of the first digit of a quotient: `10 ^ p ≤ a / b < 10 ^ (p + 1)`
for `p = leadingPlace a b`.
-/

set_option autoImplicit false

namespace HtmlTemplate

/-- The decimal digits of `n`, most significant first. Zero has one digit. -/
def digits (n : Nat) : List Char := Nat.toDigits 10 n

/-- Decimal notation of an integer: a minus sign if it is negative, and its digits. -/
def integerText (i : Int) : String :=
  (if i < 0 then "-" else "") ++ String.ofList (digits i.natAbs)

/-- The number that a list of decimal digits stands for. -/
def ofDigits (cs : List Char) : Nat := cs.foldl (fun n c => 10 * n + (c.toNat - '0'.toNat)) 0

/-- The number `coefficient · 10 ^ exponent`. -/
structure Decimal where
  coefficient : Nat
  exponent : Int
  deriving DecidableEq, Repr

namespace Decimal

/-- The numerator of the number as a quotient of natural numbers. -/
def numerator (d : Decimal) : Nat := d.coefficient * Nat.pow 10 d.exponent.toNat

/-- The denominator that goes with `numerator`. -/
def denominator (d : Decimal) : Nat := Nat.pow 10 (-d.exponent).toNat

/-- The same number without trailing zeros in the coefficient. -/
def normalized (d : Decimal) : Decimal :=
  if d.coefficient ≠ 0 ∧ d.coefficient % 10 = 0 then
    normalized ⟨d.coefficient / 10, d.exponent + 1⟩
  else d
termination_by d.coefficient
decreasing_by omega

/-- The place just above the first digit: a nonzero `d` lies between `10 ^ (place d - 1)` and
`10 ^ place d`, the upper end excluded. -/
def place (d : Decimal) : Int := (digits d.coefficient).length + d.exponent

/-- Plain notation: digits, a point only in front of decimals, no exponent. -/
def plain (d : Decimal) : String :=
  let ds := digits d.coefficient
  let zeros (n : Nat) : List Char := List.replicate n '0'
  let decimals := (-d.exponent).toNat
  String.ofList <|
    if decimals = 0 then ds ++ zeros d.exponent.toNat
    else if decimals < ds.length then
      ds.take (ds.length - decimals) ++ '.' :: ds.drop (ds.length - decimals)
    else '0' :: '.' :: zeros (decimals - ds.length) ++ ds

end Decimal

/-- The place of the first digit of `a / b`, for positive `a` and `b`. -/
def leadingPlace (a b : Nat) : Int :=
  if b ≤ a then (digits (a / b)).length - 1 else -(digits ((b - 1) / a)).length

end HtmlTemplate
