import HtmlTemplate.Program.Card
import HtmlTemplate.Program.Options
import HtmlTemplate.Program.Run
import HtmlTemplate.ToValue

/-!
# `HtmlTemplate.Program.Example`: a tour of templates

The program renders a few templates into document bodies and prints them. The title and the body
of the first page and the cards of a list come from the command line. With `--doctype` it prints
the first page as a complete document instead, straight to the output, and looks at nothing else.

All cards are read before the first output, so a command line with bad cards leaves no output.
-/

set_option autoImplicit false

namespace HtmlTemplate.Example

/-- The command line of the program. -/
structure Options where
  title : String
  body : String
  cardsJson : Option String
  doctype : Bool
  deriving DecidableEq, Repr

/-- Reads the command line. -/
def Options.ofArgs? (args : List String) : Option Options := do
  let options ← parseOptions
    [⟨"title", true⟩, ⟨"body", true⟩, ⟨"cards-json", true⟩, ⟨"doctype", false⟩] args
  return ⟨(options.lookup "title").getD "Hello Templates", (options.lookup "body").getD "abc",
    options.lookup "cards-json", (options.lookup "doctype").isSome⟩

/-- A page with a heading and a paragraph. -/
def page (title body : String) : Template :=
  .literal "\n  <h1>" [(toValue title, "</h1>\n  <p>"), (toValue body, "</p>\n")]

/-- A page as a whole document, apart from the document type. -/
def document (content : Template) : Template :=
  .literal "<html><body>" [(toValue content, "</body></html>\n")]

/-- The first line of a document. -/
def doctypeLine : String := "<!DOCTYPE html>\n"

/-- The HTML of a card. -/
def card (c : Card) : Template :=
  .literal "\n  <div class=\"card\">\n    <h2>"
    [(toValue c.title, "</h2>\n    <div class=\"content\">"),
      (toValue c.content, "</div>\n  </div>\n")]

/-- A page with all cards. -/
def pageWithCards (cards : List Card) : Template :=
  .literal "\n  <div class=\"container\">\n    "
    [(toValue (cards.map card), "\n  </div>\n")]

/-- A page that shows text from a user. -/
def userPage (input : String) : Template :=
  .literal "\n  <div>User input: " [(toValue input, "</div>\n")]

/-- The cards that are shown if none are given. -/
def defaultCards : List Card :=
  [1, 2, 3].map fun i =>
    ⟨"Card " ++ integerText i, "Content for card " ++ integerText i⟩

/-- The cards to show, unless their text is no list of cards. -/
def Options.cards? (o : Options) : Option (List Card) :=
  match o.cardsJson with
  | some text => HtmlTemplate.cards? text
  | none => some defaultCards

/-- Prints a heading, some HTML, and an empty line. -/
def printSection (heading html : String) : Run Unit := do
  Run.printLine heading
  Run.printLine html
  Run.printLine ""

/-- Prints all examples. -/
def tour (title body : String) (cards : List Card) : Run Unit := do
  if cards = [] then Run.warn "no cards given"
  Run.printLine "=== SSR HTML Template Example ===\n"
  let target ← Run.render (page title body) .emptyBody
  printSection "First render:" target.innerHtml
  let target ← Run.render (page "Hello Updates" "def") target
  printSection "Second render:" target.innerHtml
  Run.printLine "=== Additional Examples ===\n"
  let target ← Run.render (pageWithCards cards) .emptyBody
  printSection "Nested templates with array:" target.innerHtml
  let target ← Run.render (userPage "<script>alert(\"XSS\")</script>") .emptyBody
  printSection "HTML escaping (preventing XSS):" target.innerHtml
  let html ← Run.serialize (page "Direct Render" "No body object needed")
  printSection "Direct string rendering:" html
  Run.printLine "=== Functional Programming Example ===\n"
  let target ← Run.render (page "Curried Render" "Using functional composition") .emptyBody
  Run.printLine "Curried renderer:"
  Run.printLine target.innerHtml

/-- Prints the first page as a document. -/
def printDocument (title body : String) : Run Ending := do
  let writer : Writer Unit := do
    Sink.writeAll (utf8 doctypeLine)
    (document (page title body)).writeHtml
  match ← Run.stream writer with
  | none => return .success
  | some e => return .failure e.message

/-- The program. -/
def run (o : Options) : Run Ending := do
  if o.doctype then printDocument o.title o.body
  else
    match o.cards? with
    | some cards => do
      tour o.title o.body cards
      return .success
    | none => return .failure ("parsing --cards-json " ++ quoted (o.cardsJson.getD ""))

/-- The outcome for a command line, or `none` if the command line is refused. -/
def outcome? (env : Environment) (args : List String) : Option Outcome :=
  (Options.ofArgs? args).map fun o => .ofRun env (run o)

end HtmlTemplate.Example
