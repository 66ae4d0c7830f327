/-!
# `HtmlTemplate.Escape.Scan`: one scan over the bytes of a text

Five characters have an entity (`entity?`), all others stay as they are. All five are ASCII, so
the scan looks at the bytes of the text in UTF-8 (`byteEntity?`). It remembers from where on the
text is not in the output yet. At a special byte it copies the text up to there, then the entity,
and at the end it copies what is left.

A part of a text is cut out by its first byte and the byte after its last one (`slice?`), and
there is no such part if one of the two is in the middle of a character. The functions here are
`none` in that case. It never occurs, and `HtmlTemplate.Escape` has the functions without it.
-/

set_option autoImplicit false

namespace HtmlTemplate

/-- The bytes of a text in UTF-8. -/
def utf8 (text : String) : List UInt8 := text.toByteArray.data.toList

/-- The part of a text from the byte `first` up to the byte `last`, if both are at the start of a
character or at the end of the text. -/
def slice? (text : String) (first last : Nat) : Option String :=
  if h : String.Pos.Raw.IsValid text ⟨first⟩ ∧ String.Pos.Raw.IsValid text ⟨last⟩ ∧
      first ≤ last then
    some (text.extract (text.pos ⟨first⟩ h.1) (text.pos ⟨last⟩ h.2.1))
  else none

/-- The entity that stands for a special character. -/
def entity? : Char → Option String
  | '&' => some "&amp;"
  | '<' => some "&lt;"
  | '>' => some "&gt;"
  | '"' => some "&quot;"
  | '\'' => some "&#39;"
  | _ => none

/-- The entity for a byte of UTF-8 text. A byte from `0x80` on has none. -/
def byteEntity? (b : UInt8) : Option String := entity? (Char.ofNat b.toNat)

/-- The scan over the rest of `text`, from the byte `i` on. The text before `done` is in the output
already, and the bytes from `done` up to `i` are not special. -/
def scanFrom? (text out : String) (done i : Nat) : List UInt8 → Option String
  | [] => do
    let plain ← slice? text done text.utf8ByteSize
    return out ++ plain
  | b :: bs =>
    match byteEntity? b with
    | none => scanFrom? text out done (i + 1) bs
    | some entity => do
      let plain ← slice? text done i
      scanFrom? text (out ++ plain ++ entity) (i + 1) (i + 1) bs

/-- Appends the escaped form of `text` to `out`. -/
def scanInto? (out text : String) : Option String := scanFrom? text out 0 0 (utf8 text)

/-- The escaped form of `text`, or the inner `none` if nothing in `text` is special. The text
before the first special byte is copied, and the scan begins there. -/
def scan? (text : String) : Option (Option String) :=
  match (utf8 text).findIdx? fun b => (byteEntity? b).isSome with
  | none => some none
  | some first => do
    let plain ← slice? text 0 first
    let rest ← slice? text first text.utf8ByteSize
    return some (← scanInto? plain rest)

end HtmlTemplate
