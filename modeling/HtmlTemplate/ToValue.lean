import HtmlTemplate.Template

/-!
# `HtmlTemplate.ToValue`: what can fill a hole

`ToValue α` turns elements of `α` into values, so that a template can be written with the data at
hand. Text and numbers become scalars, a template nests, an absent option becomes nothing, and a
list or an array becomes a sequence.
-/

set_option autoImplicit false

namespace HtmlTemplate

/-- Types whose elements can fill a hole of a template. -/
class ToValue (α : Type) where
  toValue : α → Value

export ToValue (toValue)

/-! Values, and what they are made of. -/

instance : ToValue Value := ⟨id⟩

instance : ToValue Scalar := ⟨.scalar⟩

instance : ToValue Template := ⟨.nested⟩

/-- There is nothing to show. -/
instance : ToValue Unit := ⟨fun _ => .empty⟩

/-! Text, and the truth values. -/

instance : ToValue String := ⟨Value.text⟩

instance : ToValue Char := ⟨fun c => .scalar (.char c)⟩

instance : ToValue Bool := ⟨fun b => .scalar (.bool b)⟩

/-! Integers of all widths are stored with 64 bits, with a sign or without one as before. -/

instance : ToValue Int8 := ⟨fun i => .scalar (.int i.toInt64)⟩

instance : ToValue Int16 := ⟨fun i => .scalar (.int i.toInt64)⟩

instance : ToValue Int32 := ⟨fun i => .scalar (.int i.toInt64)⟩

instance : ToValue Int64 := ⟨fun i => .scalar (.int i)⟩

instance : ToValue UInt8 := ⟨fun n => .scalar (.uint n.toUInt64)⟩

instance : ToValue UInt16 := ⟨fun n => .scalar (.uint n.toUInt64)⟩

instance : ToValue UInt32 := ⟨fun n => .scalar (.uint n.toUInt64)⟩

instance : ToValue UInt64 := ⟨fun n => .scalar (.uint n)⟩

/-! Floating-point numbers are stored in double precision. -/

instance : ToValue Binary64 := ⟨fun x => .scalar (.float x)⟩

/-- A single precision number is widened so that it keeps its text. -/
instance : ToValue Binary32 := ⟨fun x => .scalar (.float x.widen)⟩

/-- An option that is absent is the absence of a value. -/
instance {α : Type} [ToValue α] : ToValue (Option α) := ⟨fun o => o.elim .empty toValue⟩

/-- A list is a sequence, element by element. -/
instance {α : Type} [ToValue α] : ToValue (List α) := ⟨fun xs => .sequence (xs.map toValue)⟩

/-- An array is the sequence of its elements. -/
instance {α : Type} [ToValue α] : ToValue (Array α) := ⟨fun xs => toValue xs.toList⟩

end HtmlTemplate
