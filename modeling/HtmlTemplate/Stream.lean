import HtmlTemplate.Escape
import HtmlTemplate.Sink
import HtmlTemplate.Template

/-!
# `HtmlTemplate.Stream`: writing HTML to a sink

The HTML of a template can go to a sink piece by piece, so that it is never in memory as a whole.
The bytes are those of the UTF-8 text that `Template.serialize` gives, and only a failure of the
sink cuts them short.

`writeEscaped` escapes any bytes, also bytes that are no UTF-8 text. It writes the bytes between
two special ones in one piece, which can be empty.
-/

set_option autoImplicit false

namespace HtmlTemplate

/-- Writes the escaped form of `plain`, which is reversed and holds no special byte, and of the
bytes after it. -/
def writeEscapedAfter (plain : List UInt8) : List UInt8 → Writer Unit
  | [] => Sink.writeAll plain.reverse
  | b :: bs =>
    match byteEntity? b with
    | none => writeEscapedAfter (b :: plain) bs
    | some entity => do
      Sink.writeAll plain.reverse
      Sink.writeAll (utf8 entity)
      writeEscapedAfter [] bs

/-- Writes the escaped form of some bytes. -/
def writeEscaped (bytes : List UInt8) : Writer Unit := writeEscapedAfter [] bytes

mutual

/-- Writes the HTML of a template. -/
def Template.writeHtml : Template → Writer Unit
  | .last f => Sink.writeAll (utf8 f)
  | .hole f v rest => do
    Sink.writeAll (utf8 f)
    v.writeHtml
    rest.writeHtml

/-- Writes the HTML of a value. -/
def Value.writeHtml : Value → Writer Unit
  | .empty => pure ()
  | .nested t => t.writeHtml
  | .sequence vs => Value.writeAllHtml vs
  | .scalar s => writeEscaped (utf8 s.canonical)

/-- Writes the HTML of all values of a list. -/
def Value.writeAllHtml : List Value → Writer Unit
  | [] => pure ()
  | v :: vs => do
    v.writeHtml
    Value.writeAllHtml vs

end

end HtmlTemplate
