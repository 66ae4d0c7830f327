import HtmlTemplate.Json.Number
import HtmlTemplate.Json.Text

/-!
# `HtmlTemplate.Json.Token`: the words of JSON

A JSON text is a list of tokens with white space between them. `Token.text` writes a token, and
the compact form of a list of tokens (`compact`) puts them one after the other without space.

`tokens?` splits a text. It is a machine that reads one character at a time: `Lexer.Mode` says
what it is in the middle of, and `Lexer.step` is its move. A number ends at the first character
that cannot be part of a number, so `1-2` is one bad literal and no pair of numbers.
-/

set_option autoImplicit false

namespace HtmlTemplate.Json

/-- A word of JSON. Strings and numbers are kept as they are written. -/
inductive Token where
  | openArray
  | closeArray
  | openObject
  | closeObject
  | comma
  | colon
  | null
  | bool (b : Bool)
  | string (ps : List Piece)
  | number (l : NumberLiteral)
  deriving DecidableEq, Repr

/-- The token as it is written. -/
def Token.chars : Token → List Char
  | .openArray => ['[']
  | .closeArray => [']']
  | .openObject => ['{']
  | .closeObject => ['}']
  | .comma => [',']
  | .colon => [':']
  | .null => ['n', 'u', 'l', 'l']
  | .bool true => ['t', 'r', 'u', 'e']
  | .bool false => ['f', 'a', 'l', 's', 'e']
  | .string ps => '"' :: (ps.flatMap Piece.chars ++ ['"'])
  | .number l => l.chars

/-- The text of a list of tokens without space between them. -/
def compactText (ts : List Token) : String :=
  ts.foldl (fun out t => t.chars.foldl String.push out) ""

namespace Lexer

/-- What the lexer is in the middle of. Lists of what was read so far are reversed. -/
inductive Mode where
  /-- Between two tokens. -/
  | between
  /-- In a fixed word, of which `rest` is still to come. -/
  | word (rest : List Char) (token : Token)
  /-- In a string. -/
  | string (ps : List Piece)
  /-- In a string, after a backslash. -/
  | escape (ps : List Piece)
  /-- In a string, in the digits of a code unit: how many are still to come, and their value. -/
  | unit (ps : List Piece) (missing : Nat) (code : Nat)
  /-- In a number. -/
  | number (cs : List Char)
  deriving DecidableEq, Repr

/-- The tokens read so far, the last one first, and the mode. -/
structure State where
  tokens : List Token
  mode : Mode
  deriving DecidableEq, Repr

/-- White space between tokens. -/
def isSpace (c : Char) : Bool := c = ' ' || c = '\t' || c = '\n' || c = '\r'

/-- A character that a number can hold. -/
def isNumberChar (c : Char) : Bool :=
  c.isDigit || c = '-' || c = '+' || c = '.' || c = 'e' || c = 'E'

/-- Reads the first character of a token, or white space. -/
def start? (ts : List Token) (c : Char) : Option State :=
  if isSpace c then some ⟨ts, .between⟩
  else if c.isDigit || c = '-' then some ⟨ts, .number [c]⟩
  else match c with
    | '[' => some ⟨.openArray :: ts, .between⟩
    | ']' => some ⟨.closeArray :: ts, .between⟩
    | '{' => some ⟨.openObject :: ts, .between⟩
    | '}' => some ⟨.closeObject :: ts, .between⟩
    | ',' => some ⟨.comma :: ts, .between⟩
    | ':' => some ⟨.colon :: ts, .between⟩
    | '"' => some ⟨ts, .string []⟩
    | 'n' => some ⟨ts, .word ['u', 'l', 'l'] .null⟩
    | 't' => some ⟨ts, .word ['r', 'u', 'e'] (.bool true)⟩
    | 'f' => some ⟨ts, .word ['a', 'l', 's', 'e'] (.bool false)⟩
    | _ => none

/-- Reads a character inside a string. -/
def inString? (ts : List Token) (ps : List Piece) (c : Char) : Option State :=
  if c = '"' then some ⟨.string ps.reverse :: ts, .between⟩
  else if c = '\\' then some ⟨ts, .escape ps⟩
  else if isControl c then none
  else some ⟨ts, .string (.char c :: ps)⟩

/-- Reads one character. -/
def step? (s : State) (c : Char) : Option State :=
  match s.mode with
  | .between => start? s.tokens c
  | .word rest token =>
    match rest with
    | [d] => if c = d then some ⟨token :: s.tokens, .between⟩ else none
    | d :: ds => if c = d then some ⟨s.tokens, .word ds token⟩ else none
    | [] => none
  | .string ps => inString? s.tokens ps c
  | .escape ps =>
    if c = 'u' then some ⟨s.tokens, .unit ps 4 0⟩
    else (escaped? c).map fun d => ⟨s.tokens, .string (.char d :: ps)⟩
  | .unit ps missing code => do
    let digit ← hexValue? c
    if missing = 1 then some ⟨s.tokens, .string (.unit (16 * code + digit) :: ps)⟩
    else some ⟨s.tokens, .unit ps (missing - 1) (16 * code + digit)⟩
  | .number cs =>
    if isNumberChar c then some ⟨s.tokens, .number (c :: cs)⟩
    else do
      let l ← NumberLiteral.ofChars? cs.reverse
      start? (.number l :: s.tokens) c

/-- The tokens of a text that ends in state `s`. -/
def finish? (s : State) : Option (List Token) :=
  match s.mode with
  | .between => some s.tokens.reverse
  | .number cs => do
    let l ← NumberLiteral.ofChars? cs.reverse
    return (Token.number l :: s.tokens).reverse
  | _ => none

end Lexer

/-- The tokens of a text. -/
def tokens? (cs : List Char) : Option (List Token) :=
  (cs.foldlM Lexer.step? ⟨[], .between⟩).bind Lexer.finish?

end HtmlTemplate.Json
