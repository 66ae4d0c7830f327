import HtmlTemplate.Binary.Basic

/-!
# `HtmlTemplate.Json.Number`: numbers in JSON

JSON writes numbers in one notation (`NumberLiteral`), and this library holds them in two ways
(`Number`): an integer that fits 64 bits, signed or not, and a finite double precision number.

- `NumberLiteral.ofChars?` reads the notation and refuses everything that deviates from it, such
  as a leading zero or a point without decimals. `NumberLiteral.chars` writes it.
- `NumberLiteral.number?` takes a literal to the number it stands for. A plain integer in range
  is an integer. A fraction, an exponent, a larger integer and `-0` make a floating-point number,
  correctly rounded. A literal too large for that has no number.
- `Number.literal` is the literal that is written for a number. A floating-point number has the
  shortest digits that read back, and always shows that it is not an integer: by decimals if
  `10 ^ -5 ≤ |x| < 10 ^ 16` or it is zero, by an exponent with a sign otherwise.
-/

set_option autoImplicit false

namespace HtmlTemplate.Json

/-- A number as it is written: a sign, digits, perhaps decimals, perhaps an exponent. -/
structure NumberLiteral where
  negative : Bool
  whole : List Char
  /-- The decimals. Without any there is no point either. -/
  fraction : List Char
  /-- Whether the exponent is negative, and its digits. -/
  exponent : Option (Bool × List Char)
  deriving DecidableEq, Repr

/-- A number that JSON data can hold. -/
inductive Number where
  | integer (i : Int) (least : -0x8000000000000000 ≤ i) (most : i < 0x10000000000000000)
  | float (x : Binary64) (finite : x.isFinite = true)
  deriving DecidableEq

namespace NumberLiteral

/-- Digits without a needless zero in front. -/
def isWhole : List Char → Bool
  | [] => false
  | ['0'] => true
  | c :: _ => c ≠ '0'

/-- The decimals at the start of `cs`, and what follows them. A point needs decimals. -/
def fractionOf? : List Char → Option (List Char × List Char)
  | '.' :: cs =>
    let ds := cs.takeWhile Char.isDigit
    if ds = [] then none else some (ds, cs.dropWhile Char.isDigit)
  | cs => some ([], cs)

/-- The sign of an exponent, and what follows it. -/
def exponentSign : List Char → Bool × List Char
  | '-' :: cs => (true, cs)
  | '+' :: cs => (false, cs)
  | cs => (false, cs)

/-- All of `cs` as an exponent, or as the absence of one if `cs` is empty. -/
def exponentOf? : List Char → Option (Option (Bool × List Char))
  | [] => some none
  | c :: cs =>
    let (negative, ds) := exponentSign cs
    if (c = 'e' ∨ c = 'E') ∧ ds ≠ [] ∧ ds.all Char.isDigit then some (some (negative, ds))
    else none

/-- Reads the digits of a literal whose sign is known. -/
def ofUnsigned? (negative : Bool) (cs : List Char) : Option NumberLiteral := do
  let whole := cs.takeWhile Char.isDigit
  guard (isWhole whole)
  let (fraction, rest) ← fractionOf? (cs.dropWhile Char.isDigit)
  let exponent ← exponentOf? rest
  return ⟨negative, whole, fraction, exponent⟩

/-- Reads all of `cs` as a literal. -/
def ofChars? : List Char → Option NumberLiteral
  | '-' :: cs => ofUnsigned? true cs
  | cs => ofUnsigned? false cs

/-- The exponent as it is written. -/
def exponentChars : Option (Bool × List Char) → List Char
  | none => []
  | some (negative, ds) => 'e' :: (if negative then '-' else '+') :: ds

/-- The literal as it is written. -/
def chars (l : NumberLiteral) : List Char :=
  (if l.negative then ['-'] else []) ++ l.whole
    ++ (if l.fraction = [] then [] else '.' :: l.fraction) ++ exponentChars l.exponent

/-- The value of the exponent. -/
def exponentValue (l : NumberLiteral) : Int :=
  match l.exponent with
  | none => 0
  | some (negative, ds) => if negative then -(ofDigits ds : Int) else ofDigits ds

/-- The decimal number that the literal stands for, apart from its sign. -/
def decimal (l : NumberLiteral) : Decimal :=
  ⟨ofDigits (l.whole ++ l.fraction), l.exponentValue - l.fraction.length⟩

/-- The literal of a decimal number with a sign. The first digit stands at place `p - 1` when the
number is below `10 ^ p`. -/
def ofDecimal (negative : Bool) (d : Decimal) : NumberLiteral :=
  let ds := digits d.coefficient
  let p := d.place
  let zeros (n : Int) : List Char := List.replicate n.toNat '0'
  if -5 < p ∧ p ≤ 16 then
    if p ≤ 0 then ⟨negative, ['0'], zeros (-p) ++ ds, none⟩
    else if ds.length ≤ p then ⟨negative, ds ++ zeros (p - ds.length), ['0'], none⟩
    else ⟨negative, ds.take p.toNat, ds.drop p.toNat, none⟩
  else ⟨negative, ds.take 1, ds.drop 1, some (p - 1 < 0, digits (p - 1).natAbs)⟩

end NumberLiteral

namespace Number

/-- A floating-point number, if it is finite. -/
def ofBinary? (x : Binary64) : Option Number :=
  if h : x.isFinite = true then some (.float x h) else none

/-- An integer, if it fits 64 bits. -/
def ofInt? (i : Int) : Option Number :=
  if h : -0x8000000000000000 ≤ i ∧ i < 0x10000000000000000 then some (.integer i h.1 h.2) else none

/-- The literal that is written for a number. -/
def literal : Number → NumberLiteral
  | .integer i _ _ => ⟨i < 0, digits i.natAbs, [], none⟩
  | .float x _ =>
    if x.isZero then ⟨x.isNegative, ['0'], ['0'], none⟩
    else .ofDecimal x.isNegative (BinaryFormat.double.shortest .even x.magnitude)

end Number

/-- The integer that a literal without decimals and exponent stands for, except for `-0`. -/
def NumberLiteral.integer? (l : NumberLiteral) : Option Int :=
  let n := ofDigits l.whole
  if l.fraction ≠ [] ∨ l.exponent ≠ none ∨ l.negative ∧ n = 0 then none
  else some (if l.negative then -n else n)

/-- The number that a literal stands for. -/
def NumberLiteral.number? (l : NumberLiteral) : Option Number :=
  match l.integer?.bind Number.ofInt? with
  | some n => some n
  | none => (Binary.ofDecimal? l.negative l.decimal).bind Number.ofBinary?

end HtmlTemplate.Json
