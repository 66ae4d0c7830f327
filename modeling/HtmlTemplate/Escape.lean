import HtmlTemplate.Escape.Total

/-!
# `HtmlTemplate.Escape`: escaping dynamic text

Text that comes from a value is escaped before it joins the HTML. The rule does not look at the
place of the text: it is the same between tags, in an attribute and inside a tag. Text is read
once from left to right (`HtmlTemplate.Escape.Scan`), so the `&` of an entity that was just
written is not escaped again.

- `escapeInto` appends the escaped form of a text to a buffer.
- `escape?` is `none` when there is nothing to replace, and `escape` is the text itself then.

The scans always give a result (`scanInto?_eq_some`, `scan?_eq_some`), and the functions here are
that result.
-/

set_option autoImplicit false

namespace HtmlTemplate

/-- Appending to a buffer gives a result for every text. -/
theorem isSome_scanInto? (out text : String) : (scanInto? out text).isSome := by
  rw [scanInto?_eq_some]
  rfl

/-- So does escaping a text on its own. -/
theorem isSome_scan? (text : String) : (scan? text).isSome := by
  rw [scan?_eq_some]
  rfl

/-- Appends the escaped form of `text` to `out`. -/
def escapeInto (out text : String) : String := (scanInto? out text).get (isSome_scanInto? out text)

/-- The escaped form of `text`, or `none` if `text` needs no change. -/
def escape? (text : String) : Option String := (scan? text).get (isSome_scan? text)

/-- The escaped form of `text`, which is `text` itself if nothing in it is special. -/
def escape (text : String) : String := (escape? text).getD text

end HtmlTemplate
