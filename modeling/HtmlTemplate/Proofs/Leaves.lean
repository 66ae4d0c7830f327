import HtmlTemplate.Proofs.Escaping
import HtmlTemplate.Serialize

/-!
# `HtmlTemplate.Proofs.Leaves`: a value as the list of its leaves

The leaves of a value are its fragments and scalars in document order.
Nesting is gone in this list: a nested template gives the leaves of its
fragments and values in turn, a sequence those of its elements, and the
absence of a value gives none.

* `Value.stringify_eq_htmlOf` and `Template.serialize_eq_htmlOf`: the
  HTML is the HTML of the leaves, one after the other. A fragment is its
  own HTML, a scalar is its canonical text, escaped.
* `Value.stringifyInto_eq_htmlOf`, `Template.serializeInto_eq_htmlOf`:
  the same in front of a buffer, which keeps what it holds already.

The functions that serialize thread one buffer through three mutually
recursive walks. The equations at the end (`Template.serialize_hole`,
`Value.stringify_sequence_cons` and so on) have no buffer any more, and
the rest of the theory uses these.
-/

set_option autoImplicit false

namespace HtmlTemplate

/-- A part of a template that has no parts of its own. -/
inductive Leaf where
  /-- Static text. -/
  | fragment (text : String)
  | scalar (s : Scalar)

namespace Leaf

/-- The HTML of a leaf. -/
def html : Leaf → String
  | .fragment text => text
  | .scalar s => escape s.canonical

/-- The text of a leaf, if it is static. -/
def fragment? : Leaf → Option String
  | .fragment text => some text
  | .scalar _ => none

end Leaf

/-- The HTML of leaves that stand one after the other. -/
def htmlOf (ls : List Leaf) : String := String.join (ls.map Leaf.html)

/-- No leaves have no HTML. -/
@[simp] theorem htmlOf_nil : htmlOf [] = "" := rfl

/-- The first leaf comes first. -/
@[simp] theorem htmlOf_cons (l : Leaf) (ls : List Leaf) :
    htmlOf (l :: ls) = l.html ++ htmlOf ls := by
  simp [htmlOf]

/-- The HTML of leaves can be cut between any two of them. -/
@[simp] theorem htmlOf_append (ls ms : List Leaf) : htmlOf (ls ++ ms) = htmlOf ls ++ htmlOf ms := by
  simp [htmlOf]

/-- The fragments among some leaves, in order. -/
def staticOf (ls : List Leaf) : List String := ls.filterMap Leaf.fragment?

/-- There are no fragments among no leaves. -/
@[simp] theorem staticOf_nil : staticOf [] = [] := rfl

/-- A fragment in front is the first one. -/
@[simp] theorem staticOf_fragment (text : String) (ls : List Leaf) :
    staticOf (.fragment text :: ls) = text :: staticOf ls := rfl

/-- A scalar in front adds none. -/
@[simp] theorem staticOf_scalar (s : Scalar) (ls : List Leaf) :
    staticOf (.scalar s :: ls) = staticOf ls := rfl

/-- The fragments of some leaves come before those of the leaves behind
them. -/
@[simp] theorem staticOf_append (ls ms : List Leaf) :
    staticOf (ls ++ ms) = staticOf ls ++ staticOf ms := List.filterMap_append

mutual

/-- The leaves of a value in document order. -/
def Value.leaves : Value → List Leaf
  | .empty => []
  | .nested t => t.leaves
  | .sequence vs => Value.leavesAll vs
  | .scalar s => [.scalar s]

/-- The leaves of a template: its fragments, with the leaves of the values
in between. -/
def Template.leaves : Template → List Leaf
  | .last f => [.fragment f]
  | .hole f v rest => .fragment f :: (v.leaves ++ rest.leaves)

/-- The leaves of values in a row. -/
def Value.leavesAll : List Value → List Leaf
  | [] => []
  | v :: vs => v.leaves ++ Value.leavesAll vs

end

/-! ### The HTML of a value is the HTML of its leaves

The three statements follow the three walks that serialize, so they are
proved together, by the recursion of the walks. The buffer is free in
each of them. -/

mutual

/-- Serializing a value appends the HTML of its leaves to the buffer. -/
theorem Value.stringifyInto_eq_htmlOf (out : String) :
    (v : Value) → v.stringifyInto out = out ++ htmlOf v.leaves
  | .empty => by simp [Value.stringifyInto, Value.leaves]
  | .nested t => by
      rw [Value.stringifyInto, Value.leaves, Template.serializeInto_eq_htmlOf out t]
  | .sequence vs => by
      rw [Value.stringifyInto, Value.leaves, Value.stringifyAllInto_eq_htmlOf out vs]
  | .scalar s => by
      -- The escaper appends, and does not look at the buffer.
      rw [Value.stringifyInto, escapeInto_eq_append]
      simp [Value.leaves, Leaf.html]

/-- The same for the fragments and values of a template. -/
theorem Template.serializeInto_eq_htmlOf (out : String) :
    (t : Template) → t.serializeInto out = out ++ htmlOf t.leaves
  | .last f => by simp [Template.serializeInto, Template.leaves, Leaf.html]
  | .hole f v rest => by
      -- The buffer that `rest` gets holds `f` and the HTML of `v` already.
      rw [Template.serializeInto, Template.leaves, Template.serializeInto_eq_htmlOf _ rest,
        Value.stringifyInto_eq_htmlOf _ v]
      simp [Leaf.html, String.append_assoc]

/-- The same for values in a row. -/
theorem Value.stringifyAllInto_eq_htmlOf (out : String) :
    (vs : List Value) → Value.stringifyAllInto out vs = out ++ htmlOf (Value.leavesAll vs)
  | [] => by simp [Value.stringifyAllInto, Value.leavesAll]
  | v :: vs => by
      rw [Value.stringifyAllInto, Value.leavesAll, Value.stringifyAllInto_eq_htmlOf _ vs,
        Value.stringifyInto_eq_htmlOf _ v, htmlOf_append, String.append_assoc]

end

/-- From an empty buffer, what is left is the HTML of the leaves. -/
theorem Value.stringify_eq_htmlOf (v : Value) : v.stringify = htmlOf v.leaves := by
  rw [Value.stringify, Value.stringifyInto_eq_htmlOf, String.empty_append]

/-- The same for a template. -/
theorem Template.serialize_eq_htmlOf (t : Template) : t.serialize = htmlOf t.leaves := by
  rw [Template.serialize, Template.serializeInto_eq_htmlOf, String.empty_append]

/-! ### The HTML without a buffer -/

/-- The absence of a value prints nothing. -/
@[simp] theorem Value.stringify_empty : Value.empty.stringify = "" := rfl

/-- A template in a hole prints what it prints on its own. -/
@[simp] theorem Value.stringify_nested (t : Template) : (Value.nested t).stringify = t.serialize :=
  rfl

/-- A scalar prints its canonical text, escaped. -/
@[simp] theorem Value.stringify_scalar (s : Scalar) :
    (Value.scalar s).stringify = escape s.canonical := by
  simp [Value.stringify_eq_htmlOf, Value.leaves, Leaf.html]

/-- A sequence without elements prints nothing. -/
@[simp] theorem Value.stringify_sequence_nil : (Value.sequence []).stringify = "" := rfl

/-- A sequence is printed element by element, with nothing in between. -/
@[simp] theorem Value.stringify_sequence_cons (v : Value) (vs : List Value) :
    (Value.sequence (v :: vs)).stringify = v.stringify ++ (Value.sequence vs).stringify := by
  simp [Value.stringify_eq_htmlOf, Value.leaves, Value.leavesAll]

/-- A template without holes is its own HTML. -/
@[simp] theorem Template.serialize_last (f : String) : (Template.last f).serialize = f := by
  simp [Template.serialize_eq_htmlOf, Template.leaves, Leaf.html]

/-- A hole is printed as the fragment before it, its value, and the rest
of the template. -/
@[simp] theorem Template.serialize_hole (f : String) (v : Value) (rest : Template) :
    (Template.hole f v rest).serialize = f ++ (v.stringify ++ rest.serialize) := by
  simp [Template.serialize_eq_htmlOf, Value.stringify_eq_htmlOf, Template.leaves, Leaf.html]

end HtmlTemplate
