import HtmlTemplate.Text.Hidden

/-!
# `HtmlTemplate.Text.Quoted`: text in messages

A message shows a text between double quotes. The quote and the backslash get a backslash, four
control characters have a short escape, and any other hidden character is given by its number in
braces. All else stands for itself, the apostrophe too.
-/

set_option autoImplicit false

namespace HtmlTemplate

/-- A character of a quoted text as it is shown. -/
def quotedChar : Char → List Char
  | '"' => ['\\', '"']
  | '\\' => ['\\', '\\']
  | '\x00' => ['\\', '0']
  | '\t' => ['\\', 't']
  | '\n' => ['\\', 'n']
  | '\r' => ['\\', 'r']
  | c =>
    if isHidden c then ['\\', 'u', '{'] ++ Nat.toDigits 16 c.toNat ++ ['}'] else [c]

/-- The text between quotes. -/
def quoted (text : String) : String :=
  String.ofList ('"' :: (text.toList.flatMap quotedChar ++ ['"']))

end HtmlTemplate
