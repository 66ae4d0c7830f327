import HtmlTemplate.Json.Tree

/-!
# `HtmlTemplate.Program.Card`: cards as JSON

A card has a title and a content. In JSON it is an object with these two strings, or an array of
exactly these two. An object may have other members, which are skipped without a look at what
their numbers and strings stand for. A title or content that is missing, given twice or no string
makes the object no card.

`cards?` reads a JSON array of cards.
-/

set_option autoImplicit false

namespace HtmlTemplate

/-- A title and a content. -/
structure Card where
  title : String
  content : String
  deriving DecidableEq, Repr

namespace Card

open Json (Tree Piece)

/-- The text of a string. -/
def text? : Tree → Option String
  | .string ps => Json.decode? ps
  | _ => none

/-- Reads the members of a card, given the title and the content that came before them. -/
def ofMembers? : Option String → Option String → List (List Piece × Tree) → Option Card
  | some title, some content, [] => some ⟨title, content⟩
  | _, _, [] => none
  | title?, content?, (ps, tree) :: ms =>
    match Json.decode? ps with
    | none => none
    | some key =>
      if key = "title" then
        match title?, text? tree with
        | none, some title => ofMembers? (some title) content? ms
        | _, _ => none
      else if key = "content" then
        match content?, text? tree with
        | none, some content => ofMembers? title? (some content) ms
        | _, _ => none
      else ofMembers? title? content? ms

/-- Reads a card. -/
def ofTree? : Tree → Option Card
  | .array [title, content] => do return ⟨← text? title, ← text? content⟩
  | .object members => ofMembers? none none members
  | _ => none

end Card

/-- Reads a JSON text that is an array of cards. -/
def cards? (text : String) : Option (List Card) := do
  match ← Json.Tree.parse? text with
  | .array items => items.mapM Card.ofTree?
  | _ => none

end HtmlTemplate
