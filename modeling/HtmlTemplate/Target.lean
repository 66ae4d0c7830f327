import HtmlTemplate.Serialize

/-!
# `HtmlTemplate.Target`: where rendered HTML goes

A render target holds the HTML that was put into it last. It is a document body, a plain string,
or a renderable layer around another target. A layer adds nothing of its own: it reads and writes
what is inside.

`Target.render` replaces what a target holds with the HTML of a template, and
`Template.renderToString` is this HTML on its own.
-/

set_option autoImplicit false

namespace HtmlTemplate

/-- What a template puts into a target. -/
def Template.renderToString (t : Template) : String := t.serialize

/-- Something that holds HTML. -/
inductive Target where
  /-- The body of a document that exists on the server only. -/
  | body (html : String)
  /-- A string in the role of a target. -/
  | text (html : String)
  | renderable (inner : Target)
  deriving DecidableEq, Repr

namespace Target

/-- The HTML that a target holds. -/
def innerHtml : Target → String
  | .body html => html
  | .text html => html
  | .renderable inner => inner.innerHtml

/-- Replaces what a target holds. -/
def setInnerHtml (html : String) : Target → Target
  | .body _ => .body html
  | .text _ => .text html
  | .renderable inner => .renderable (inner.setInnerHtml html)

/-- Replaces what a target holds with the HTML of a template. -/
def render (t : Template) (target : Target) : Target := target.setInnerHtml t.renderToString

/-- The target inside a layer. -/
def inner? : Target → Option Target
  | .renderable inner => some inner
  | _ => none

/-- Renders into the target inside a layer. -/
def renderInner? (t : Template) : Target → Option Target
  | .renderable inner => some (.renderable (inner.render t))
  | _ => none

/-- How many layers there are around the innermost target. -/
def layers : Target → Nat
  | .renderable inner => inner.layers + 1
  | _ => 0

/-- What is put into a target is what it holds afterwards. -/
@[simp] theorem innerHtml_setInnerHtml (html : String) (target : Target) :
    (target.setInnerHtml html).innerHtml = html := by
  induction target with
  | body old => rfl
  | text old => rfl
  | renderable inner ih => exact ih

/-- An empty document body in one layer. -/
def emptyBody : Target := .renderable (.body "")

end Target

end HtmlTemplate
