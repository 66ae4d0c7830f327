import HtmlTemplate.Binary.Format

/-!
# `HtmlTemplate.Binary.Shortest`: the fewest digits that read back

A magnitude is written with the fewest decimal digits that still round to it. With one digit more,
the decimals form a grid ten times as fine, and only the two neighbours of the magnitude on a grid
can be the best of that grid. So the search tries the grids from the coarsest on and stops at the
first one with a neighbour that reads back. Where both neighbours do, the nearer one is taken, and
a `Tie` says which one is taken when the magnitude lies exactly between them.
-/

set_option autoImplicit false

namespace HtmlTemplate

/-- The choice between two decimals that are equally near: the upper one, or the one whose last
digit is even. -/
inductive Tie where
  | up
  | even
  deriving DecidableEq, Repr

namespace BinaryFormat

/-- The decimal on the grid of `10 ^ place` that reads back as the magnitude at `index` and is
nearest to it, if a neighbour of the magnitude on this grid reads back at all. -/
def onGrid? (F : BinaryFormat) (tie : Tie) (index : Nat) (place : Int) : Option Decimal :=
  let a := F.units index * Nat.pow 10 (-place).toNat
  let b := Nat.pow 2 F.unitShift * Nat.pow 10 place.toNat
  let below : Decimal := ⟨a / b, place⟩
  let above : Decimal := ⟨a / b + 1, place⟩
  if F.ofDecimal below = index then
    if F.ofDecimal above = index then
      match compare (2 * a) ((2 * (a / b) + 1) * b) with
      | .lt => some below
      | .gt => some above
      | .eq => match tie with
        | .up => some above
        | .even => if a / b % 2 = 0 then some below else some above
    else some below
  else if F.ofDecimal above = index then some above
  else none

/-- All digits of the magnitude at `index`. -/
def exactDecimal (F : BinaryFormat) (index : Nat) : Decimal :=
  ⟨F.units index * Nat.pow 5 F.unitShift, -F.unitShift⟩

/-- The shortest decimal that reads back as the magnitude at `index`. A format with `p` fraction
bits never needs more than `p + 2` digits. -/
def shortest (F : BinaryFormat) (tie : Tie) (index : Nat) : Decimal :=
  let first := leadingPlace (F.units index) (Nat.pow 2 F.unitShift)
  let found := (List.range (F.fractionBits + 2)).findSome? fun k : Nat =>
    F.onGrid? tie index (first - k)
  (found.getD (F.exactDecimal index)).normalized

end BinaryFormat

end HtmlTemplate
