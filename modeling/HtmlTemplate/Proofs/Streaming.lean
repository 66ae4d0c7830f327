import HtmlTemplate.Proofs.Delivery
import HtmlTemplate.Proofs.EscapedBytes
import HtmlTemplate.Proofs.Leaves

/-!
# `HtmlTemplate.Proofs.Streaming`: streamed HTML is a prefix of the HTML

Streaming writes many small pieces: each fragment, each entity, and each
run of bytes between two entities, also when it is empty. The main
theorem, `writeHtml_delivers`, says that the pieces do not show. A sink
with room for `limit` bytes ends up with the first `limit` bytes of the
HTML in UTF-8, and the writer succeeds exactly if that is all of them.
It makes no difference how the sink refuses, how much it takes in one
call, or whether the limit falls between two pieces, inside an entity or
inside a character.

The proof shows that each writer is one `Sink.deliver` of all its bytes
(`Proofs/Delivery.lean`). The loops then need no account of errors.
-/

set_option autoImplicit false

namespace HtmlTemplate

open Sink

/-! ### Every writer is one delivery -/

/-- Writing escaped bytes delivers what was held back and the escaped
form of the others. -/
theorem writeEscapedAfter_eq_deliver (plain bytes : List UInt8) :
    writeEscapedAfter plain bytes = deliver (plain.reverse ++ escapeBytes bytes) := by
  induction bytes generalizing plain with
  | nil =>
    rw [writeEscapedAfter, writeAll_eq_deliver]
    simp [escapeBytes]
  | cons b bytes ih =>
    have hsplit : escapeBytes (b :: bytes) = escapeByte b ++ escapeBytes bytes :=
      List.flatMap_cons
    unfold writeEscapedAfter
    rw [hsplit, escapeByte]
    cases byteEntity? b with
    | none =>
      -- `b` is held back as well.
      show writeEscapedAfter (b :: plain) bytes = _
      rw [ih, List.reverse_cons, List.append_assoc]
      rfl
    | some entity =>
      -- Three writes, and a failure in one of them skips the others.
      show (do writeAll plain.reverse; writeAll (utf8 entity); writeEscapedAfter [] bytes) = _
      rw [writeAll_eq_deliver, writeAll_eq_deliver, ih, deliver_bind, deliver_bind]
      rfl

/-- At the start, nothing is held back. -/
theorem writeEscaped_eq_deliver (bytes : List UInt8) :
    writeEscaped bytes = deliver (escapeBytes bytes) :=
  writeEscapedAfter_eq_deliver [] bytes

-- Each of the three writers delivers the bytes of the HTML. Every equation
-- ends in one delivery, because `deliver_bind` joins those of the parts.
mutual

/-- Streaming a value delivers its HTML. -/
theorem Value.writeHtml_eq_deliver : (v : Value) → v.writeHtml = deliver (utf8 v.stringify)
  | .empty => by
      rw [Value.writeHtml, Value.stringify_empty, utf8_empty, deliver_nil]
  | .nested t => by
      rw [Value.writeHtml, Value.stringify_nested, Template.writeHtml_eq_deliver t]
  | .sequence vs => by
      rw [Value.writeHtml, Value.writeAllHtml_eq_deliver vs]
  | .scalar s => by
      rw [Value.writeHtml, Value.stringify_scalar, writeEscaped_eq_deliver, utf8_escape]

/-- Streaming a template delivers its HTML. -/
theorem Template.writeHtml_eq_deliver :
    (t : Template) → t.writeHtml = deliver (utf8 t.serialize)
  | .last f => by
      rw [Template.writeHtml, Template.serialize_last, writeAll_eq_deliver]
  | .hole f v rest => by
      rw [Template.writeHtml, Template.serialize_hole, writeAll_eq_deliver,
        Value.writeHtml_eq_deliver v, Template.writeHtml_eq_deliver rest, deliver_bind,
        deliver_bind, utf8_append, utf8_append]

/-- Streaming the elements of a sequence delivers that of the sequence. -/
theorem Value.writeAllHtml_eq_deliver :
    (vs : List Value) → Value.writeAllHtml vs = deliver (utf8 (Value.sequence vs).stringify)
  | [] => by
      rw [Value.writeAllHtml, Value.stringify_sequence_nil, utf8_empty, deliver_nil]
  | v :: vs => by
      rw [Value.writeAllHtml, Value.stringify_sequence_cons, Value.writeHtml_eq_deliver v,
        Value.writeAllHtml_eq_deliver vs, deliver_bind, utf8_append]

end

/-! ### What a delivery leaves in a sink -/

/-- The bytes in the sink after a writer, and the error that stopped it,
if there was one. -/
def observed (w : Writer Unit) (s : Sink) : List UInt8 × Option WriteError :=
  match w s with
  | .ok _ after => (after.written.toList, none)
  | .error e after => (after.written.toList, some e)

/-- A writer leaves in every sink as many of `bytes` as there is room
for, counted from the front. It succeeds exactly if that is all of them,
and fails the way the sink refuses otherwise. The sink may take any
portion of what it is offered in one call. -/
def Delivers (w : Writer Unit) (bytes : List UInt8) : Prop :=
  ∀ (refusal : Refusal) (portion : Nat → Nat → Nat),
    observed w ⟨#[], none, refusal, portion⟩ = (bytes, none) ∧
    ∀ limit : Nat,
      observed w ⟨#[], some limit, refusal, portion⟩ =
        (bytes.take (min limit bytes.length),
          if bytes.length ≤ limit then none else some refusal.failure)

/-- A delivery starts from an empty sink and stops at the limit. -/
theorem delivers_deliver (bytes : List UInt8) : Delivers (deliver bytes) bytes := by
  intro refusal portion
  constructor
  · simp [observed, deliver, capacity, push]
  · intro limit
    have hcap : capacity ⟨#[], some limit, refusal, portion⟩ bytes.length
        = min bytes.length limit := rfl
    unfold observed deliver
    rw [hcap, Nat.min_comm limit]
    by_cases h : bytes.length ≤ limit
    · simp only [if_pos h, if_pos (Nat.min_eq_left h)]
      simp [push]
    · have hover : min bytes.length limit ≠ bytes.length := by omega
      simp only [if_neg h, if_neg hover]
      simp [push]

/-! ### The main theorem -/

/-- Streaming a value or a template delivers its HTML in UTF-8, and
streaming the escaped form of any bytes delivers that form. -/
theorem writeHtml_delivers :
    (∀ v : Value, Delivers v.writeHtml (utf8 v.stringify)) ∧
    (∀ t : Template, Delivers t.writeHtml (utf8 t.serialize)) ∧
    ∀ bytes : List UInt8, Delivers (writeEscaped bytes) (escapeBytes bytes) := by
  refine ⟨?_, ?_, ?_⟩
  · intro v
    rw [v.writeHtml_eq_deliver]
    exact delivers_deliver _
  · intro t
    rw [t.writeHtml_eq_deliver]
    exact delivers_deliver _
  · intro bytes
    rw [writeEscaped_eq_deliver]
    exact delivers_deliver _

end HtmlTemplate
