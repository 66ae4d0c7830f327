import HtmlTemplate.Scalar

/-!
# `HtmlTemplate.Template`: static text with values in its holes

A template alternates static fragments and dynamic values, and starts and ends with a fragment.
The type says so: a `Template` is a last fragment, or a fragment followed by a value and the rest
of the template. There is no template with another shape.

A `Value` fills a hole. It is a scalar, another template, a sequence of values, or nothing.

- `Template.fragments` and `Template.values` are the two lists that a template interleaves.
- `Template.literal` builds a template whose text is written in the program.
- `Template.ofParts` builds a template from lists that arrive at run time, and refuses lists
  whose lengths do not fit with a `ShapeError`.
- `checkCounts` is the check on its own, for counts of 64 bits.
- `Value.same` and `Template.same` compare by value. A value with a floating-point NaN in it
  differs from itself.
-/

set_option autoImplicit false

namespace HtmlTemplate

mutual

/-- What a hole of a template can hold. -/
inductive Value where
  /-- The absence of a value. -/
  | empty
  | nested (template : Template)
  /-- Values one after the other, with nothing in between. -/
  | sequence (items : List Value)
  | scalar (s : Scalar)

/-- Static fragments with a value between each two of them. -/
inductive Template where
  | last (fragment : String)
  | hole (fragment : String) (value : Value) (rest : Template)

end

/-- The counts of two lists that cannot be interleaved to a template. -/
structure ShapeError where
  fragments : Nat
  values : Nat
  deriving DecidableEq, Repr

namespace ShapeError

/-- The message for counts that do not fit. Without fragments no values are needed. -/
def message (e : ShapeError) : String :=
  "template shape: " ++ integerText e.fragments ++ " fragments need "
    ++ integerText (e.fragments - 1 : Nat) ++ " values, got " ++ integerText e.values

end ShapeError

/-- Why a pair of counts is refused. -/
inductive CountError where
  | shape (e : ShapeError)
  /-- There are so many values that the number of fragments is not a 64-bit count. -/
  | overflow
  deriving DecidableEq, Repr

/-- Accepts the counts of fragments and values of a template. -/
def checkCounts (fragments values : UInt64) : Except CountError Unit :=
  if values = 0xffffffffffffffff then .error .overflow
  else if fragments = values + 1 then .ok ()
  else .error (.shape ⟨fragments.toNat, values.toNat⟩)

namespace Template

/-- The fragments in order. -/
def fragments : Template → List String
  | .last f => [f]
  | .hole f _ rest => f :: rest.fragments

/-- The values in order, one fewer than the fragments. -/
def values : Template → List Value
  | .last _ => []
  | .hole _ v rest => v :: rest.values

/-- A template has one more fragment than values. -/
theorem length_fragments (t : Template) : t.fragments.length = t.values.length + 1 := by
  cases t with
  | last f => rfl
  | hole f v rest =>
    have hrest := length_fragments rest
    rw [fragments, values, List.length_cons, List.length_cons, hrest]

/-- A first fragment, and pairs of a value and the fragment after it. -/
def literal (first : String) : List (Value × String) → Template
  | [] => .last first
  | (v, f) :: rest => .hole first v (literal f rest)

/-- Interleaves two lists, if there is exactly one more fragment than values. -/
def interleave? : List String → List Value → Option Template
  | [f], [] => some (.last f)
  | f :: fs, v :: vs => (interleave? fs vs).map (.hole f v)
  | _, _ => none

/-- The template with these fragments and values. -/
def ofParts (fragments : List String) (values : List Value) : Except ShapeError Template :=
  match interleave? fragments values with
  | some t => .ok t
  | none => .error ⟨fragments.length, values.length⟩

end Template

namespace Value

/-- The template that a value is, if it is one. -/
def template? : Value → Option Template
  | .nested t => some t
  | _ => none

/-- Whether a value is a template. -/
def isTemplate (v : Value) : Bool := v.template?.isSome

/-- Whether a value is the absence of one. -/
def isEmpty : Value → Bool
  | .empty => true
  | _ => false

/-- A value that prints as the given text. -/
def text (s : String) : Value := .scalar (.str s)

end Value

mutual

/-- Equality by value. -/
def Value.same : Value → Value → Bool
  | .empty, .empty => true
  | .nested s, .nested t => s.same t
  | .sequence vs, .sequence ws => Value.sameAll vs ws
  | .scalar s, .scalar t => s.same t
  | _, _ => false

/-- Equality by value: the same fragments, and values that are the same one by one. -/
def Template.same : Template → Template → Bool
  | .last f, .last g => f = g
  | .hole f v s, .hole g w t => f = g && v.same w && s.same t
  | _, _ => false

/-- Lists of one length whose elements are the same one by one. -/
def Value.sameAll : List Value → List Value → Bool
  | [], [] => true
  | v :: vs, w :: ws => v.same w && Value.sameAll vs ws
  | _, _ => false

end

end HtmlTemplate
