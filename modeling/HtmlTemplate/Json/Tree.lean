import HtmlTemplate.Json.Token

/-!
# `HtmlTemplate.Json.Tree`: what a JSON text says, word for word

A `Tree` is a JSON text after its grammar is understood and before its words are. Strings and
numbers are still as they are written, and the members of an object are all there in order, also
those with one key. Reading a tree needs no limit on the nesting.

`Tree.ofTokens?` is a machine that reads one token at a time. Its state (`Reader`) holds a frame
for each array and object that is still open, the innermost first.
-/

set_option autoImplicit false

namespace HtmlTemplate.Json

/-- A JSON text as a tree of tokens. -/
inductive Tree where
  | null
  | bool (b : Bool)
  | number (l : NumberLiteral)
  | string (ps : List Piece)
  | array (items : List Tree)
  | object (members : List (List Piece × Tree))

/-- An array or object that is still open, with what it holds so far in reverse. In an object, a
key waits for its value. -/
inductive Frame where
  | array (items : List Tree)
  | object (members : List (List Piece × Tree)) (key : List Piece)

/-- What can come next. -/
inductive Reader where
  /-- A value. -/
  | value (stack : List Frame)
  /-- The first value of an array, or its end. -/
  | first (stack : List Frame)
  /-- A key, or the end of an object that has no members yet. -/
  | key (members : List (List Piece × Tree)) (stack : List Frame)
  /-- The colon after a key. -/
  | colon (members : List (List Piece × Tree)) (key : List Piece) (stack : List Frame)
  /-- After a value: a comma, the end of the innermost frame, or the end of the text if there is
  no frame. -/
  | after (value : Tree) (stack : List Frame)

namespace Reader

/-- Reads the first token of a value. -/
def startValue? (stack : List Frame) : Token → Option Reader
  | .null => some (.after .null stack)
  | .bool b => some (.after (.bool b) stack)
  | .number l => some (.after (.number l) stack)
  | .string ps => some (.after (.string ps) stack)
  | .openArray => some (.first stack)
  | .openObject => some (.key [] stack)
  | _ => none

/-- Reads one token. -/
def step? : Reader → Token → Option Reader
  | .value stack, t => startValue? stack t
  | .first stack, .closeArray => some (.after (.array []) stack)
  | .first stack, t => startValue? (.array [] :: stack) t
  | .key members stack, .string k => some (.colon members k stack)
  | .key [] stack, .closeObject => some (.after (.object []) stack)
  | .colon members k stack, .colon => some (.value (.object members k :: stack))
  | .after v (.array items :: stack), .comma => some (.value (.array (v :: items) :: stack))
  | .after v (.array items :: stack), .closeArray =>
    some (.after (.array (v :: items).reverse) stack)
  | .after v (.object members k :: stack), .comma => some (.key ((k, v) :: members) stack)
  | .after v (.object members k :: stack), .closeObject =>
    some (.after (.object ((k, v) :: members).reverse) stack)
  | _, _ => none

/-- The value of a text that ends in this state. -/
def finish? : Reader → Option Tree
  | .after v [] => some v
  | _ => none

end Reader

namespace Tree

/-- The tree of a list of tokens. -/
def ofTokens? (ts : List Token) : Option Tree :=
  (ts.foldlM Reader.step? (.value [])).bind Reader.finish?

/-- The tree of a text. -/
def parse? (text : String) : Option Tree := (tokens? text.toList).bind ofTokens?

mutual

/-- How many arrays and objects are open at once at the deepest point. -/
def depth : Tree → Nat
  | .array items => depthAll items + 1
  | .object members => depthMembers members + 1
  | _ => 0

/-- The greatest depth in a list. -/
def depthAll : List Tree → Nat
  | [] => 0
  | t :: ts => max t.depth (depthAll ts)

/-- The greatest depth among the values of members. -/
def depthMembers : List (List Piece × Tree) → Nat
  | [] => 0
  | (_, t) :: ms => max t.depth (depthMembers ms)

end

end Tree

end HtmlTemplate.Json
