/-!
# `HtmlTemplate.Sink`: a place for bytes that can fill up

A `Sink` takes bytes until it has no room left. One call of `write` may take only the front part
of what is offered. A full sink refuses every write that is not empty, either by an error or by
taking nothing, and `Refusal` says which.

`writeAll` repeats `write` until everything is written. It stops at the first error, and a call
that takes nothing of a nonempty rest is an error too. The bytes taken before it stay written.
-/

set_option autoImplicit false

namespace HtmlTemplate

/-- How a full sink refuses a write: it reports an error, or it takes no bytes. -/
inductive Refusal where
  | error
  | nothing
  deriving DecidableEq, Repr

/-- Why bytes could not be written. -/
inductive WriteError where
  /-- The sink reported that it is full. -/
  | full
  /-- The sink took nothing. -/
  | stalled
  deriving DecidableEq, Repr

/-- The message for a failed write. -/
def WriteError.message : WriteError → String
  | .full => "writer full"
  | .stalled => "failed to write whole buffer"

/-- The bytes written so far, and how the next ones are taken. -/
structure Sink where
  written : Array UInt8
  /-- How many bytes still fit, `none` if there is no limit. -/
  room : Option Nat
  refusal : Refusal
  /-- How many bytes of an offer one call takes while there is room, at least one. It depends on
  how many bytes are written already, so a sink need not treat two offers of one size alike. -/
  portion : Nat → Nat → Nat

/-- An action that writes to a sink and can fail. -/
abbrev Writer := EStateM WriteError Sink

namespace Sink

/-- An empty sink without a limit. -/
def unlimited : Sink := ⟨#[], none, .error, fun _ offered => offered⟩

/-- An empty sink with room for some bytes. It takes as much of an offer as fits. -/
def limited (room : Nat) (refusal : Refusal) : Sink :=
  ⟨#[], some room, refusal, fun _ offered => offered⟩

/-- How many of `offered` bytes one call takes. -/
def accepts (s : Sink) (offered : Nat) : Nat :=
  let wanted := min offered (max 1 (s.portion s.written.size offered))
  match s.room with
  | none => wanted
  | some room => min wanted room

/-- The sink after it took all of `bytes`. -/
def push (s : Sink) (bytes : List UInt8) : Sink :=
  { s with written := s.written ++ bytes, room := s.room.map (· - bytes.length) }

/-- Offers bytes once and returns how many of them were taken. -/
def write (bytes : List UInt8) : Writer Nat := fun s =>
  let n := s.accepts bytes.length
  if n = 0 ∧ bytes ≠ [] ∧ s.refusal = .error then .error .full s
  else .ok n (s.push (bytes.take n))

/-- Writes all bytes, or fails at the first call that does not take any. -/
def writeAll (bytes : List UInt8) : Writer Unit :=
  if _ : bytes = [] then pure ()
  else do
    let n ← write bytes
    if _ : n = 0 then throw .stalled
    else writeAll (bytes.drop n)
termination_by bytes.length
decreasing_by
  have := List.length_pos_iff.mpr ‹bytes ≠ []›
  rw [List.length_drop]
  omega

end Sink

end HtmlTemplate
