/-!
# `HtmlTemplate.Program.Options`: long options on a command line

A command line holds long options only, each at most once: `--name=value` or `--name value` if the
option takes a value, and `--name` alone if it takes none. A value in an argument of its own must
not look like an option, so it starts with no dash, or is a single dash. The argument `--` ends
the options, and nothing may follow it.

`parseOptions` gives the options of a command line that keeps these rules, by name.
-/

set_option autoImplicit false

namespace HtmlTemplate

/-- An option that a program knows. -/
structure OptionSpec where
  name : String
  takesValue : Bool
  deriving DecidableEq, Repr

/-- The name in an argument that looks like an option, and the value after the equals sign. -/
def optionParts? (arg : String) : Option (String × Option String) :=
  match arg.toList with
  | '-' :: '-' :: cs =>
    let name := String.ofList (cs.takeWhile (· ≠ '='))
    match cs.dropWhile (· ≠ '=') with
    | [] => some (name, none)
    | _ :: value => some (name, some (String.ofList value))
  | _ => none

/-- Whether an argument can be the value of the option before it. -/
def isSeparateValue (arg : String) : Bool :=
  match arg.toList with
  | ['-'] => true
  | '-' :: _ => false
  | _ => true

/-- Reads the arguments from left to right. An option without a value gives an empty text. -/
def readOptions? (specs : List OptionSpec) : List String → Option (List (String × String))
  | [] => some []
  | arg :: rest =>
    if arg = "--" then (if rest = [] then some [] else none)
    else
      match optionParts? arg with
      | none => none
      | some (name, inline) =>
        match specs.find? (fun spec => spec.name = name), inline, rest with
        | some ⟨_, true⟩, some value, rest =>
          (readOptions? specs rest).map ((name, value) :: ·)
        | some ⟨_, true⟩, none, value :: rest =>
          if isSeparateValue value then (readOptions? specs rest).map ((name, value) :: ·)
          else none
        | some ⟨_, false⟩, none, rest => (readOptions? specs rest).map ((name, "") :: ·)
        | _, _, _ => none

/-- The options of a command line, unless it breaks a rule. -/
def parseOptions (specs : List OptionSpec) (args : List String) :
    Option (List (String × String)) := do
  let options ← readOptions? specs args
  guard (options.map Prod.fst).Nodup
  return options

end HtmlTemplate
