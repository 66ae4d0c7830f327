import HtmlTemplate.Proofs.Escaping
import HtmlTemplate.Stream

/-!
# `HtmlTemplate.Proofs.EscapedBytes`: escaping bytes and escaping text

`escapeBytes` replaces each byte of a special character by its entity,
whether or not the bytes are UTF-8 text. `utf8_escape` says that on
UTF-8 text this is escaping: the bytes of an escaped text are the
escaped bytes of the text.

The reason is that the special characters are ASCII. A special character
is one byte with the same entity (`utf8EncodeChar_of_entity`), and no byte
of another character has an entity (`byteEntity?_of_mem`).
-/

set_option autoImplicit false

namespace HtmlTemplate

/-- The bytes that stand for the byte `b` in an escaped text. -/
def escapeByte (b : UInt8) : List UInt8 := (byteEntity? b).elim [b] utf8

/-- The escaped form of some bytes. -/
def escapeBytes (bytes : List UInt8) : List UInt8 := bytes.flatMap escapeByte

/-- Bytes without an entity stay as they are. -/
theorem escapeBytes_of_plain {bytes : List UInt8} (h : ∀ b ∈ bytes, byteEntity? b = none) :
    escapeBytes bytes = bytes := by
  induction bytes with
  | nil => rfl
  | cons b bytes ih =>
    have hbytes : escapeBytes bytes = bytes := ih fun b hb => h b (List.mem_cons_of_mem _ hb)
    unfold escapeBytes at hbytes ⊢
    rw [List.flatMap_cons, hbytes, escapeByte, h b List.mem_cons_self]
    rfl

/-- Escaping the bytes of a character gives the bytes of what stands for
the character. -/
theorem escapeBytes_utf8EncodeChar (c : Char) :
    escapeBytes (String.utf8EncodeChar c) = (escapeChar c).flatMap String.utf8EncodeChar := by
  cases hc : entity? c with
  | none =>
    rw [escapeBytes_of_plain fun b hb => byteEntity?_of_mem hc hb]
    simp [escapeChar, hc]
  | some entity =>
    -- One byte, with the entity of the character.
    obtain ⟨b, hb, hentity⟩ := utf8EncodeChar_of_entity hc
    rw [hb, escapeBytes, List.flatMap_singleton, escapeByte, hentity, escapeChar, hc]
    exact utf8_eq_flatMap entity

/-! ### A whole text -/

/-- The bytes of an escaped text are the escaped bytes of the text. -/
theorem utf8_escape (text : String) : utf8 (escape text) = escapeBytes (utf8 text) := by
  rw [utf8_eq_flatMap, utf8_eq_flatMap, toList_escape]
  induction text.toList with
  | nil => rfl
  | cons c cs ih =>
    rw [List.flatMap_cons, List.flatMap_append, ih, ← escapeBytes_utf8EncodeChar]
    simp [escapeBytes]

end HtmlTemplate
