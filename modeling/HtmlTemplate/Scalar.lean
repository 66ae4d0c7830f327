import HtmlTemplate.Binary.Basic

/-!
# `HtmlTemplate.Scalar`: plain data in a template

A `Scalar` is a value that is neither a template nor a sequence nor absent. It reaches the HTML
through its canonical text, which is escaped afterwards. `canonical` uses one rule for each kind:
text and characters as they are, integers in decimal, truth values as `true` and `false`, and
floating-point numbers as in `Binary.canonical`.

`same` compares scalars of one kind by value. Scalars of different kinds always differ, so the
integer `1` is not the number `1.0`, and the character `a` is not the text `a`.
-/

set_option autoImplicit false

namespace HtmlTemplate

/-- Plain data. Integers have 64 bits and keep whether they are signed. -/
inductive Scalar where
  | str (text : String)
  | char (c : Char)
  | int (i : Int64)
  | uint (n : UInt64)
  | float (x : Binary64)
  | bool (b : Bool)
  deriving DecidableEq

namespace Scalar

/-- The text of a scalar before it is escaped. -/
def canonical : Scalar → String
  | .str text => text
  | .char c => String.singleton c
  | .int i => integerText i.toInt
  | .uint n => integerText n.toNat
  | .float x => x.canonical
  | .bool b => if b then "true" else "false"

/-- Equality by value within a kind. It differs from `=` on floating-point numbers only. -/
def same : Scalar → Scalar → Bool
  | .float x, .float y => x.same y
  | s, t => s = t

end Scalar

end HtmlTemplate
