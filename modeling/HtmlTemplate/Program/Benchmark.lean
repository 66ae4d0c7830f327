import HtmlTemplate.Program.Options
import HtmlTemplate.Program.Run
import HtmlTemplate.ToValue

/-!
# `HtmlTemplate.Program.Benchmark`: one big table, many times

The program builds a template with a table of many rows, serializes it once, and then as often as
it is told on a pool of workers that share the template. Each job reports the length of its HTML,
and all lengths have to agree with the first one.

`table` is the template, `job` is what a worker does, and `verdict` looks at the lengths that
arrived. A job uses nothing but the template, so `run` may perform the jobs one after the other.
-/

set_option autoImplicit false

namespace HtmlTemplate.Benchmark

/-- The command line of the program. -/
structure Options where
  rows : UInt64
  iterations : UInt64
  threads : Option UInt64
  deriving DecidableEq, Repr

/-- Reads a number option, with a default for its absence. -/
def countOption? (options : List (String × String)) (name : String) (default : UInt64) :
    Option UInt64 :=
  match options.lookup name with
  | some text => (count? text.toList).toOption
  | none => some default

/-- Reads the command line. -/
def Options.ofArgs? (args : List String) : Option Options := do
  let options ← parseOptions [⟨"rows", true⟩, ⟨"iterations", true⟩, ⟨"threads", true⟩] args
  let rows ← countOption? options "rows" 25000
  let iterations ← countOption? options "iterations" 40
  match options.lookup "threads" with
  | none => return ⟨rows, iterations, none⟩
  | some text => return ⟨rows, iterations, some (← (count? text.toList).toOption)⟩

/-- A word that changes from row to row in no simple pattern. -/
def state (i : UInt64) : String := if 0.432 < (i.toFloat * 0.1).sin then "on" else "off"

/-- A row of the table. -/
def row (i : UInt64) : Template :=
  .literal "<tr><td>" [(toValue i, "abc</td><td>"),
    (toValue (integerText i.toNat ++ " - " ++ state i), "</td></tr>")]

/-- The number of the first row. -/
def firstRow : Nat := 100

/-- A document with a table of so many rows. -/
def table (rows : UInt64) : Template :=
  let body := (List.range rows.toNat).map fun k => row (UInt64.ofNat (firstRow + k))
  .literal
    "<html><head><title>Test page</title></head><body><p>Hello world!</p><p>Rows: "
    [(toValue rows, "</p><table>"), (toValue body, "</table></body></html>")]

/-- A job: one serialization, and the number of bytes it gives. -/
def job (t : Template) : Run Nat := do
  return (← Run.serialize t).utf8ByteSize

/-- A list of numbers between brackets. -/
def listText (ns : List Nat) : String :=
  "[" ++ String.intercalate ", " (ns.map fun n : Nat => integerText n) ++ "]"

/-- Compares the lengths that the jobs reported with the expected one. -/
def verdict (iterations expected : Nat) (lengths : List Nat) : Run Ending := do
  if lengths.length ≠ iterations ∨ lengths.any (· ≠ expected) then
    return .failure ("outputs differ: expected " ++ integerText iterations ++ " times "
      ++ integerText expected ++ " bytes, got " ++ listText lengths)
  else
    Run.printLine (integerText lengths.length ++ " serializations of "
      ++ integerText expected ++ " bytes each")
    return .success

/-- The variable with the number of workers. -/
def threadsVariable : String := "THTML_BENCH_THREADS"

/-- The number of workers: from the command line, from the environment, or four. -/
def threads (env : Environment) (o : Options) : Except EnvironmentError UInt64 :=
  match o.threads with
  | some n => .ok n
  | none => env.count threadsVariable 4

/-- Serializes the table once and then in all jobs. -/
def measure (rows : UInt64) (iterations : Nat) : Run Ending := do
  let t := table rows
  let expected ← job t
  let lengths ← (List.replicate iterations t).mapM job
  verdict iterations expected lengths

/-- The program. It needs a worker, and row numbers have to fit 64 bits. -/
def run (env : Environment) (o : Options) : Run Ending :=
  match threads env o with
  | .error e => return .failure e.message
  | .ok n =>
    if n = 0 then return .failure "need at least 1 thread"
    else if 0x10000000000000000 ≤ firstRow + o.rows.toNat then return .abort
    else measure o.rows o.iterations.toNat

/-- The outcome for a command line, or `none` if the command line is refused. -/
def outcome? (env : Environment) (args : List String) : Option Outcome :=
  (Options.ofArgs? args).map fun o => .ofRun env (run env o)

end HtmlTemplate.Benchmark
