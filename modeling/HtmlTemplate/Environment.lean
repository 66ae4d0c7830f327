import HtmlTemplate.Decimal
import HtmlTemplate.Text.Blank
import HtmlTemplate.Text.Quoted

/-!
# `HtmlTemplate.Environment`: settings from environment variables

A variable holds bytes, and the settings read here are text, so a variable whose bytes are no
UTF-8 text is an error. An unset variable is none: it counts as false, or as the fallback of a
number.

- `isTruthy` says which texts switch something on: all but five.
- `count?` reads a number of 64 bits: decimal digits, perhaps after one plus sign. It stops at
  the first character that is no digit or makes the number too large.
- `Environment.text`, `Environment.flag` and `Environment.count` read a variable as a text, a
  switch or a number. A number may have white space around it.
-/

set_option autoImplicit false

namespace HtmlTemplate

/-- Why a text is not a number. -/
inductive CountFault where
  | empty
  | invalidDigit
  | tooLarge
  deriving DecidableEq, Repr

/-- The reason in a message. -/
def CountFault.message : CountFault → String
  | .empty => "cannot parse integer from empty string"
  | .invalidDigit => "invalid digit found in string"
  | .tooLarge => "number too large to fit in target type"

/-- Appends decimal digits to a number as long as it stays below `2 ^ 64`. -/
def appendDigits (n : Nat) : List Char → Except CountFault Nat
  | [] => .ok n
  | c :: cs =>
    if c.isDigit then
      let n := 10 * n + (c.toNat - '0'.toNat)
      if n < 0x10000000000000000 then appendDigits n cs else .error .tooLarge
    else .error .invalidDigit

/-- Reads a number: digits, with at most one plus sign in front. -/
def count? : List Char → Except CountFault UInt64
  | [] => .error .empty
  | ['+'] => .error .invalidDigit
  | '+' :: cs => (appendDigits 0 cs).map UInt64.ofNat
  | cs => (appendDigits 0 cs).map UInt64.ofNat

/-- Whether the text of a switch means yes. -/
def isTruthy (text : String) : Bool := text ∉ ["0", "", "off", "false", "no"]

/-- Why a variable cannot be read. -/
inductive EnvironmentError where
  | notUnicode (name : String)
  | notCount (name text : String) (fault : CountFault)
  deriving DecidableEq, Repr

/-- The message for a variable that cannot be read. -/
def EnvironmentError.message : EnvironmentError → String
  | .notUnicode name => quoted name ++ " env var is not unicode"
  | .notCount name text fault =>
    quoted name ++ " env var: can't parse " ++ quoted text ++ " as number: " ++ fault.message

/-- The variables that are set, with their bytes. -/
structure Environment where
  entries : List (String × ByteArray)

namespace Environment

/-- No variable is set. -/
def empty : Environment := ⟨[]⟩

/-- A name that a variable can have. -/
def isName (name : String) : Bool :=
  name ≠ "" && name.toList.all fun c => c ≠ '=' && c ≠ '\x00'

/-- The bytes of a variable, if it is set. -/
def bytes? (env : Environment) (name : String) : Option ByteArray :=
  if isName name then env.entries.lookup name else none

/-- The text of a variable, if it is set. -/
def text (env : Environment) (name : String) : Except EnvironmentError (Option String) :=
  match env.bytes? name with
  | none => .ok none
  | some bytes =>
    match String.fromUTF8? bytes with
    | some text => .ok (some text)
    | none => .error (.notUnicode name)

/-- Whether a switch is on. -/
def flag (env : Environment) (name : String) : Except EnvironmentError Bool := do
  match ← env.text name with
  | some text => return isTruthy text
  | none => return false

/-- The number that a variable gives, or the fallback if it is not set. -/
def count (env : Environment) (name : String) (fallback : UInt64) :
    Except EnvironmentError UInt64 := do
  match ← env.text name with
  | some text => (count? (trimBlank text.toList)).mapError (.notCount name text)
  | none => return fallback

end Environment

end HtmlTemplate
