import HtmlTemplate.Json.Tree

/-!
# `HtmlTemplate.Json.Basic`: JSON data

`Json` is what a JSON text means. Its numbers are in range, its strings are text, and an object
read from a text has each key once, in the order of the keys' characters.

- `Json.tokens` are the words of a value, and `Json.compact` is its text without space.
- `Json.parse?` reads a text. Besides the grammar, it refuses a text that nests more than 127
  arrays and objects, numbers that are too large, and strings with half a surrogate pair. Of
  members with one key, the last one counts.
-/

set_option autoImplicit false

namespace HtmlTemplate

/-- JSON data. -/
inductive Json where
  | null
  | bool (b : Bool)
  | number (n : Json.Number)
  | string (s : String)
  | array (items : List Json)
  | object (members : List (String × Json))

namespace Json

/-- The value of the first member with this key. -/
def member? (key : String) : List (String × Json) → Option Json
  | [] => none
  | (k, v) :: ms => if k = key then some v else member? key ms

/-- Puts a member into its place among members that are sorted by key, in place of one with the
same key. -/
def insertMember (key : String) (value : Json) : List (String × Json) → List (String × Json)
  | [] => [(key, value)]
  | (k, v) :: ms =>
    if key = k then (key, value) :: ms
    else if key < k then (key, value) :: (k, v) :: ms
    else (k, v) :: insertMember key value ms

/-- The members of an object that is written with these members: sorted, the last one of each
key. -/
def sortMembers (ms : List (String × Json)) : List (String × Json) :=
  ms.foldl (fun sorted m => insertMember m.1 m.2 sorted) []

mutual

/-- The tokens of a value in front of other tokens. -/
def tokensOnto : Json → List Token → List Token
  | .null, rest => .null :: rest
  | .bool b, rest => .bool b :: rest
  | .number n, rest => .number n.literal :: rest
  | .string s, rest => .string (pieces s) :: rest
  | .array items, rest => .openArray :: itemsOnto items (.closeArray :: rest)
  | .object members, rest => .openObject :: membersOnto members (.closeObject :: rest)

/-- The tokens of the items of an array, with a comma between each two. -/
def itemsOnto : List Json → List Token → List Token
  | [], rest => rest
  | j :: js, rest => j.tokensOnto (moreItemsOnto js rest)

/-- The tokens of further items, each after a comma. -/
def moreItemsOnto : List Json → List Token → List Token
  | [], rest => rest
  | j :: js, rest => .comma :: j.tokensOnto (moreItemsOnto js rest)

/-- The tokens of the members of an object, with a comma between each two. -/
def membersOnto : List (String × Json) → List Token → List Token
  | [], rest => rest
  | (k, j) :: ms, rest =>
    .string (pieces k) :: .colon :: j.tokensOnto (moreMembersOnto ms rest)

/-- The tokens of further members, each after a comma. -/
def moreMembersOnto : List (String × Json) → List Token → List Token
  | [], rest => rest
  | (k, j) :: ms, rest =>
    .comma :: .string (pieces k) :: .colon :: j.tokensOnto (moreMembersOnto ms rest)

end

/-- The tokens of a value. -/
def tokens (j : Json) : List Token := j.tokensOnto []

/-- The text of a value without space. -/
def compact (j : Json) : String := compactText j.tokens

/-- The deepest nesting that is read. -/
def maxDepth : Nat := 127

mutual

/-- The data that a tree stands for. -/
def ofTree? : Tree → Option Json
  | .null => some .null
  | .bool b => some (.bool b)
  | .number l => l.number?.map .number
  | .string ps => (decode? ps).map .string
  | .array items => (ofTrees? items).map .array
  | .object members => (ofMembers? members).map fun ms => .object (sortMembers ms)

/-- The data that all trees of a list stand for. -/
def ofTrees? : List Tree → Option (List Json)
  | [] => some []
  | t :: ts => do
    let j ← ofTree? t
    let js ← ofTrees? ts
    return j :: js

/-- The data that members stand for, in the order in which they are written. -/
def ofMembers? : List (List Piece × Tree) → Option (List (String × Json))
  | [] => some []
  | (ps, t) :: ms => do
    let key ← decode? ps
    let j ← ofTree? t
    let rest ← ofMembers? ms
    return (key, j) :: rest

end

/-- The data that a JSON text stands for. -/
def parse? (text : String) : Option Json := do
  let tree ← Tree.parse? text
  guard (tree.depth ≤ maxDepth)
  ofTree? tree

end Json

end HtmlTemplate
