import HtmlTemplate.Program.Example
import HtmlTemplate.Proofs.Streaming

/-!
# `HtmlTemplate.Proofs.Output`: the text that a program writes

A run is a series of events, and its output is the bytes of those events
that write. The lemmas on `Run` below let `simp` compute them along the
steps of a program: they say what one step writes, and that steps write one
after the other.

`Example.outputText` is what the tour of templates writes, as one text.
`Example.output_run` says that it does, for both modes. The two modes
write in different ways, one line by line and one through a stream, and
the difference is gone after this.
-/

set_option autoImplicit false

namespace HtmlTemplate

/-! ### What a step writes -/

/-- What is written first comes first in the output. -/
@[simp] theorem outputBytes_append (es fs : List Event) :
    outputBytes (es ++ fs) = outputBytes es ++ outputBytes fs := List.flatMap_append

/-- A serialization by itself writes nothing. -/
@[simp] theorem outputBytes_serialization (n : Nat) : outputBytes [.serialized n] = [] := rfl

namespace Run

/-- Doing nothing leaves no event, and it does not matter how steps are grouped. -/
instance : LawfulMonad Run := LawfulMonad.mk' Run
  (fun r => congrArg (Run.mk r.value) (List.append_nil r.events))
  (fun _ _ => rfl)
  (fun _ _ _ => congrArg (Run.mk _) (List.append_assoc _ _ _))

/-- The events of two runs one after the other. -/
@[simp] theorem events_bind {α β : Type} (r : Run α) (next : α → Run β) :
    (r >>= next).events = r.events ++ (next r.value).events := rfl

/-- A line is written with its end. -/
@[simp] theorem output_printLine (text : String) :
    outputBytes (printLine text).events = utf8 (text ++ "\n") := List.append_nil _

/-- A warning is not written to the output. -/
@[simp] theorem output_warn (text : String) : outputBytes (warn text).events = [] := rfl

mutual

/-- The recursion through a template leaves no event, whatever templates it
meets inside. -/
theorem serializeInto_eq_pure (out : String) (t : Template) :
    serializeInto out t = pure (t.serializeInto out) := by
  cases t with
  | last f => rfl
  | hole f v rest =>
    -- The value adds to the buffer, and the rest goes on from there.
    rw [serializeInto, stringifyInto_eq_pure (out ++ f) v, pure_bind,
      serializeInto_eq_pure _ rest]
    rfl

/-- Neither does the recursion through a value. -/
theorem stringifyInto_eq_pure (out : String) (v : Value) :
    stringifyInto out v = pure (v.stringifyInto out) := by
  cases v with
  | empty => rfl
  | nested t => exact serializeInto_eq_pure out t
  | sequence vs => exact stringifyAllInto_eq_pure out vs
  | scalar s => rfl

/-- Nor the one through a list of values. -/
theorem stringifyAllInto_eq_pure (out : String) (vs : List Value) :
    stringifyAllInto out vs = pure (Value.stringifyAllInto out vs) := by
  cases vs with
  | nil => rfl
  | cons v vs =>
    rw [stringifyAllInto, stringifyInto_eq_pure out v, pure_bind, stringifyAllInto_eq_pure _ vs]
    rfl

end

/-- A serialization leaves one event, at its start, and gives the HTML of
the template. -/
theorem serialize_eq (t : Template) :
    serialize t = ⟨t.serialize, [.serialized t.fragments.length]⟩ := by
  unfold serialize
  rw [serializeInto_eq_pure]
  rfl

/-- A target gets the HTML of the template that is rendered into it. -/
theorem render_eq (t : Template) (target : Target) :
    render t target = ⟨target.setInnerHtml t.serialize, [.serialized t.fragments.length]⟩ := by
  unfold render
  rw [serialize_eq]
  rfl

/-- The output has no limit, so it takes all bytes of a delivery. -/
theorem stream_deliver (bytes : List UInt8) :
    stream (Sink.deliver bytes) = ⟨none, [.output bytes]⟩ := by
  simp [stream, Sink.deliver, Sink.capacity, Sink.unlimited, Sink.push]

end Run

/-! ### The tour of templates -/

namespace Example

/-- A heading, some HTML, and an empty line. -/
def sectionText (heading html : String) : String := heading ++ "\n" ++ (html ++ "\n" ++ "\n")

/-- What is printed before the cards. -/
def textBeforeCards (title body : String) : String :=
  "=== SSR HTML Template Example ===\n" ++ "\n"
    ++ (sectionText "First render:" (page title body).serialize
    ++ (sectionText "Second render:" (page "Hello Updates" "def").serialize
    ++ ("=== Additional Examples ===\n" ++ "\n")))

/-- What is printed after the cards. -/
def textAfterCards : String :=
  sectionText "HTML escaping (preventing XSS):"
      (userPage "<script>alert(\"XSS\")</script>").serialize
    ++ (sectionText "Direct string rendering:"
      (page "Direct Render" "No body object needed").serialize
    ++ ("=== Functional Programming Example ===\n" ++ "\n"
    ++ ("Curried renderer:" ++ "\n"
    ++ ((page "Curried Render" "Using functional composition").serialize ++ "\n"))))

/-- What the tour prints. -/
def tourText (title body : String) (cards : List Card) : String :=
  textBeforeCards title body
    ++ (sectionText "Nested templates with array:" (pageWithCards cards).serialize
    ++ textAfterCards)

/-- The first page as a whole document. -/
def documentText (title body : String) : String :=
  doctypeLine ++ (document (page title body)).serialize

/-- What the program writes. Bad cards leave no output. -/
def outputText (o : Options) : String :=
  if o.doctype then documentText o.title o.body
  else o.cards?.elim "" (tourText o.title o.body)

/-- A section is written as its text. -/
theorem output_printSection (heading html : String) :
    outputBytes (printSection heading html).events = utf8 (sectionText heading html) := by
  simp only [printSection, sectionText, Run.events_bind, outputBytes_append, Run.output_printLine,
    utf8_append, String.empty_append]

/-- The tour writes its text, line by line. -/
theorem output_tour (title body : String) (cards : List Card) :
    outputBytes (tour title body cards).events = utf8 (tourText title body cards) := by
  unfold tour tourText textBeforeCards textAfterCards
  -- A warning about missing cards goes to the log.
  by_cases hcards : cards = []
  all_goals
    simp only [hcards, if_true, if_false, Run.events_bind, outputBytes_append, Run.output_warn,
      Run.output_printLine, Run.render_eq, Run.serialize_eq, outputBytes_serialization,
      output_printSection, Target.innerHtml_setInnerHtml, utf8_append,
      List.nil_append, List.append_assoc]

/-- The stream writes the same bytes as the whole text at once. -/
theorem printDocument_eq (title body : String) :
    printDocument title body = ⟨.success, [.output (utf8 (documentText title body))]⟩ := by
  have hwriter : (do Sink.writeAll (utf8 doctypeLine); (document (page title body)).writeHtml)
      = Sink.deliver (utf8 (documentText title body)) := by
    rw [writeAll_eq_deliver, Template.writeHtml_eq_deliver, deliver_bind, documentText, utf8_append]
  show Run.stream (do Sink.writeAll (utf8 doctypeLine); (document (page title body)).writeHtml)
    >>= _ = _
  rw [hwriter, Run.stream_deliver]
  rfl

/-- The output is the text that the options ask for. -/
theorem output_run (o : Options) : outputBytes (run o).events = utf8 (outputText o) := by
  unfold run outputText
  by_cases hdoctype : o.doctype = true
  · rw [if_pos hdoctype, if_pos hdoctype, printDocument_eq]
    exact List.append_nil _
  · rw [if_neg hdoctype, if_neg hdoctype]
    cases o.cards? with
    | none => exact utf8_empty.symm
    | some cards =>
      show outputBytes ((tour o.title o.body cards).events ++ []) = _
      rw [List.append_nil]
      exact output_tour o.title o.body cards

end Example

end HtmlTemplate
