/-!
# `HtmlTemplate.Json.Text`: strings in JSON

Between its quotes, a JSON string is a list of pieces: characters, some of which are written with
a backslash, and UTF-16 code units that are written as `\u` and four hexadecimal digits.

- `Piece.chars` writes a piece, and `pieces` are those that are written for a text: only the
  quote, the backslash and the characters below U+0020 need an escape.
- `decode?` takes pieces to the text that they stand for. Two units that form a surrogate pair are
  one character, and a surrogate on its own stands for nothing.
-/

set_option autoImplicit false

namespace HtmlTemplate.Json

/-- A piece of a string: a character, or a code unit given by its number. -/
inductive Piece where
  | char (c : Char)
  | unit (code : Nat)
  deriving DecidableEq, Repr

/-- The letter after the backslash in the short escape of a character. -/
def shortEscape? : Char → Option Char
  | '"' => some '"'
  | '\\' => some '\\'
  | '\x08' => some 'b'
  | '\x0c' => some 'f'
  | '\n' => some 'n'
  | '\r' => some 'r'
  | '\t' => some 't'
  | _ => none

/-- The character that a letter after a backslash stands for. -/
def escaped? : Char → Option Char
  | '"' => some '"'
  | '\\' => some '\\'
  | '/' => some '/'
  | 'b' => some '\x08'
  | 'f' => some '\x0c'
  | 'n' => some '\n'
  | 'r' => some '\r'
  | 't' => some '\t'
  | _ => none

/-- The value of a hexadecimal digit of either case. -/
def hexValue? (c : Char) : Option Nat :=
  if '0' ≤ c ∧ c ≤ '9' then some (c.toNat - '0'.toNat)
  else if 'a' ≤ c ∧ c ≤ 'f' then some (c.toNat - 'a'.toNat + 10)
  else if 'A' ≤ c ∧ c ≤ 'F' then some (c.toNat - 'A'.toNat + 10)
  else none

/-- Four lowercase hexadecimal digits. -/
def hex4 (n : Nat) : List Char :=
  [n / 4096 % 16, n / 256 % 16, n / 16 % 16, n % 16].map Nat.digitChar

/-- A character that may not stand in a string without an escape. -/
def isControl (c : Char) : Bool := c.toNat < 0x20

namespace Piece

/-- The piece as it is written. -/
def chars : Piece → List Char
  | .char c =>
    match shortEscape? c with
    | some letter => ['\\', letter]
    | none => [c]
  | .unit code => '\\' :: 'u' :: hex4 code

/-- The piece that is written for a character of a text. -/
def ofChar (c : Char) : Piece :=
  if isControl c && (shortEscape? c).isNone then .unit c.toNat else .char c

end Piece

/-- The pieces that are written for a text. -/
def pieces (text : String) : List Piece := text.toList.map Piece.ofChar

/-- The first half of a surrogate pair. -/
def isHighSurrogate (code : Nat) : Bool := 0xD800 ≤ code && code < 0xDC00

/-- The second half of a surrogate pair. -/
def isLowSurrogate (code : Nat) : Bool := 0xDC00 ≤ code && code < 0xE000

/-- The character of a surrogate pair. -/
def ofSurrogates (high low : Nat) : Char :=
  Char.ofNat (0x10000 + (high - 0xD800) * 0x400 + (low - 0xDC00))

/-- The characters that pieces stand for, unless there is a surrogate without its other half. -/
def decodeChars? : List Piece → Option (List Char)
  | [] => some []
  | .char c :: ps => (decodeChars? ps).map (c :: ·)
  | .unit high :: .unit low :: ps =>
    if isHighSurrogate high then
      if isLowSurrogate low then (decodeChars? ps).map (ofSurrogates high low :: ·) else none
    else if isLowSurrogate high then none
    else (decodeChars? (.unit low :: ps)).map (Char.ofNat high :: ·)
  | .unit code :: ps =>
    if isHighSurrogate code || isLowSurrogate code then none
    else (decodeChars? ps).map (Char.ofNat code :: ·)

/-- The text that pieces stand for. -/
def decode? (ps : List Piece) : Option String := (decodeChars? ps).map String.ofList

end HtmlTemplate.Json
