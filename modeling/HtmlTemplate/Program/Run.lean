import HtmlTemplate.Environment
import HtmlTemplate.Stream
import HtmlTemplate.Target

/-!
# `HtmlTemplate.Program.Run`: what a program does

A program computes with templates and leaves a series of events: it writes output, it warns, and
it serializes templates. A `Run` is a result together with these events in order.

The events do not depend on the environment. `Outcome.ofRun` looks at the environment afterwards
to say what the log holds: a serialization shows up in it if tracing is switched on by the
variable `traceVariable`. The variable is read at the first serialization. If it cannot be read,
the log has one warning about it, and tracing stays off.
-/

set_option autoImplicit false

namespace HtmlTemplate

/-- Something a program does. -/
inductive Event where
  | output (bytes : List UInt8)
  | warning (text : String)
  /-- A template with this many fragments is serialized. -/
  | serialized (fragments : Nat)
  deriving DecidableEq, Repr

/-- A result and the events on the way to it. -/
structure Run (α : Type) where
  value : α
  events : List Event

namespace Run

/-- Steps one after the other leave their events in this order. -/
instance : Monad Run where
  pure a := ⟨a, []⟩
  bind r next := ⟨(next r.value).value, r.events ++ (next r.value).events⟩

/-- Leaves an event. -/
def emit (event : Event) : Run Unit := ⟨(), [event]⟩

/-- Writes a text to the output. -/
def print (text : String) : Run Unit := emit (.output (utf8 text))

/-- Writes a text and a line end to the output. -/
def printLine (text : String) : Run Unit := print (text ++ "\n")

/-- Logs a warning. -/
def warn (text : String) : Run Unit := emit (.warning text)

mutual

/-- Appends the HTML of a template to `out`. -/
def serializeInto (out : String) : Template → Run String
  | .last f => return out ++ f
  | .hole f v rest => do serializeInto (← stringifyInto (out ++ f) v) rest

/-- Appends the HTML of a value to `out`. A nested template goes on with `serializeInto`, and not
from the start. -/
def stringifyInto (out : String) : Value → Run String
  | .empty => return out
  | .nested t => serializeInto out t
  | .sequence vs => stringifyAllInto out vs
  | .scalar s => return escapeInto out s.canonical

/-- Appends the HTML of all values of a list to `out`. -/
def stringifyAllInto (out : String) : List Value → Run String
  | [] => return out
  | v :: vs => do stringifyAllInto (← stringifyInto out v) vs

end

/-- Serializes a template. The event is left at the start, before the HTML. -/
def serialize (t : Template) : Run String := do
  emit (.serialized t.fragments.length)
  serializeInto "" t

/-- Serializes a template and puts its HTML into a target. -/
def render (t : Template) (target : Target) : Run Target := do
  return target.setInnerHtml (← serialize t)

/-- Lets a writer write to the output, and returns the error that stopped it. -/
def stream (w : Writer Unit) : Run (Option WriteError) :=
  match w Sink.unlimited with
  | .ok _ sink => ⟨none, [.output sink.written.toList]⟩
  | .error e sink => ⟨some e, [.output sink.written.toList]⟩

end Run

/-- How a program ends. -/
inductive Ending where
  | success
  /-- The program stops with a message. -/
  | failure (message : String)
  /-- The program is aborted. -/
  | abort
  deriving DecidableEq, Repr

/-- The exit code that goes with an ending. -/
def Ending.exitCode : Ending → UInt32
  | .success => 0
  | .failure _ => 1
  | .abort => 101

/-- The message of a failure. -/
def Ending.message? : Ending → Option String
  | .failure message => some message
  | _ => none

/-- The variable that switches tracing on. -/
def traceVariable : String := "THTML_TRACE"

/-- Whether serializations are traced. -/
inductive Tracing where
  | off
  | on
  /-- The variable cannot be read, and nobody was told so far. -/
  | broken (e : EnvironmentError)
  deriving DecidableEq, Repr

/-- What the environment says about tracing. -/
def Tracing.ofEnvironment (env : Environment) : Tracing :=
  match env.flag traceVariable with
  | .ok true => .on
  | .ok false => .off
  | .error e => .broken e

/-- The lines that a series of events leaves in the log. -/
def logLines (tracing : Tracing) : List Event → List String
  | [] => []
  | .output _ :: events => logLines tracing events
  | .warning text :: events => ("W: " ++ text) :: logLines tracing events
  | .serialized n :: events =>
    match tracing with
    | .off => logLines .off events
    | .on => ("T: serialize: " ++ integerText n ++ " fragments") :: logLines .on events
    | .broken e => ("W: " ++ e.message ++ ", tracing stays off") :: logLines .off events

/-- The bytes that a series of events leaves in the output. -/
def outputBytes (events : List Event) : List UInt8 :=
  events.flatMap fun
    | .output bytes => bytes
    | _ => []

/-- What can be seen of a program from outside. -/
structure Outcome where
  ending : Ending
  output : List UInt8
  log : List String
  deriving DecidableEq

/-- What can be seen of a run in an environment. -/
def Outcome.ofRun (env : Environment) (r : Run Ending) : Outcome :=
  ⟨r.value, outputBytes r.events, logLines (.ofEnvironment env) r.events⟩

end HtmlTemplate
