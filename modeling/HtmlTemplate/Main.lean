import HtmlTemplate.Program.Benchmark
import HtmlTemplate.Program.Example

/-!
# `HtmlTemplate.Main`: the command line

The first argument names the program, `example` or `benchmark`, and the others are its own. Output
goes to the standard output, the log and the message of a failure to the standard error. What a
program does is decided by its `outcome?`, and this module makes it happen.
-/

set_option autoImplicit false

namespace HtmlTemplate.CommandLine

/-- The exit code for a command line that is refused. -/
def usageCode : UInt32 := 2

/-- The outcome for a command line, or `none` if the command line is refused. -/
def outcome? (env : Environment) : List String → Option Outcome
  | "example" :: args => Example.outcome? env args
  | "benchmark" :: args => Benchmark.outcome? env args
  | _ => none

/-- The variables that the programs read. -/
def readEnvironment : IO Environment := do
  let entries ← [traceVariable, Benchmark.threadsVariable].filterMapM fun name => do
    return (← IO.getEnv name).map fun text => (name, text.toUTF8)
  return ⟨entries⟩

/-- Makes an outcome happen, and returns the exit code. -/
def report (outcome : Outcome) : IO UInt32 := do
  let stdout ← IO.getStdout
  stdout.write ⟨outcome.output.toArray⟩
  stdout.flush
  for line in outcome.log do
    IO.eprintln line
  if let some message := outcome.ending.message? then
    IO.eprintln ("Error: " ++ message)
  return outcome.ending.exitCode

end HtmlTemplate.CommandLine

open HtmlTemplate in
/-- Runs the program that the command line names. -/
def main (args : List String) : IO UInt32 := do
  match CommandLine.outcome? (← CommandLine.readEnvironment) args with
  | some outcome => CommandLine.report outcome
  | none =>
    IO.eprintln "usage: example | benchmark, followed by options"
    return CommandLine.usageCode
