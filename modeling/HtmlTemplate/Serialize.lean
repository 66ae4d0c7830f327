import HtmlTemplate.Escape
import HtmlTemplate.Template

/-!
# `HtmlTemplate.Serialize`: the HTML of a template

Fragments go into the HTML as they are. A scalar goes in as its escaped canonical text, a nested
template or a sequence by the same rules at its own place, and the absence of a value leaves
nothing. So only static text can put markup into the HTML.

`serializeInto` and `stringifyInto` append to a buffer, and `serialize` and `stringify` start from
an empty one. A template is shown as its HTML, so `toString t` is `t.serialize`.
-/

set_option autoImplicit false

namespace HtmlTemplate

mutual

/-- Appends the HTML of a template to `out`. -/
def Template.serializeInto (out : String) : Template → String
  | .last f => out ++ f
  | .hole f v rest => rest.serializeInto (v.stringifyInto (out ++ f))

/-- Appends the HTML of a value to `out`. -/
def Value.stringifyInto (out : String) : Value → String
  | .empty => out
  | .nested t => t.serializeInto out
  | .sequence vs => Value.stringifyAllInto out vs
  | .scalar s => escapeInto out s.canonical

/-- Appends the HTML of all values of a list to `out`. -/
def Value.stringifyAllInto (out : String) : List Value → String
  | [] => out
  | v :: vs => Value.stringifyAllInto (v.stringifyInto out) vs

end

/-- The HTML of a template. -/
def Template.serialize (t : Template) : String := t.serializeInto ""

/-- The HTML of a value. -/
def Value.stringify (v : Value) : String := v.stringifyInto ""

/-- A template reads as its HTML. -/
instance : ToString Template := ⟨Template.serialize⟩

end HtmlTemplate
