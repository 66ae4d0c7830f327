/-!
# `HtmlTemplate.Text.Blank`: white space in Unicode

`isBlank` is the Unicode property `White_Space`, which has 25 characters. `trimBlank` removes
them from both ends of a text.
-/

set_option autoImplicit false

namespace HtmlTemplate

/-- The first and the last code point of each range of white space. -/
def blankRanges : List (Nat × Nat) := [
  (0x9, 0xd), (0x20, 0x20), (0x85, 0x85), (0xa0, 0xa0), (0x1680, 0x1680), (0x2000, 0x200a),
  (0x2028, 0x2029), (0x202f, 0x202f), (0x205f, 0x205f), (0x3000, 0x3000)]

/-- Whether a character is white space. -/
def isBlank (c : Char) : Bool :=
  blankRanges.any fun range => range.1 ≤ c.toNat && c.toNat ≤ range.2

/-- The characters without white space at either end. -/
def trimBlank (cs : List Char) : List Char :=
  ((cs.dropWhile isBlank).reverse.dropWhile isBlank).reverse

end HtmlTemplate
