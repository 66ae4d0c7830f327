import HtmlTemplate.Proofs.Output

/-!
# `HtmlTemplate.Proofs.UserText`: the user's text makes no markup

The tour of templates shows text from its command line: a title, a body,
and the titles and contents of cards. The main theorem, `markup_output`,
follows this text through the whole program.

* The markup characters of the output are the same for all runs in the
  same mode with the same number of cards, whatever the texts are.
* Every `&` of the output begins an entity.
* The cards come in order between two texts that know nothing of them.

The program has two ways to write, and `Proofs/Output.lean` has brought
both to one text. In this text the user's text occurs inside `escape`
only, and the equations `serialize_page`, `serialize_card` and so on say
where.
-/

set_option autoImplicit false

namespace HtmlTemplate

/-! ### The HTML of a template that is written in the program -/

namespace Template

/-- A template without values is its text. -/
@[simp] theorem serialize_literal_nil (first : String) : (literal first []).serialize = first :=
  serialize_last first

/-- The first value stands between the first fragment and the rest. -/
@[simp] theorem serialize_literal_cons (first f : String) (v : Value)
    (rest : List (Value × String)) :
    (literal first ((v, f) :: rest)).serialize
      = first ++ (v.stringify ++ (literal f rest).serialize) :=
  serialize_hole first v (literal f rest)

end Template

/-- A text in a hole is escaped. -/
@[simp] theorem stringify_toValue_string (text : String) :
    (toValue text).stringify = escape text := Value.stringify_scalar (.str text)

/-- A template in a hole is printed as it is. -/
@[simp] theorem stringify_toValue_template (t : Template) :
    (toValue t).stringify = t.serialize := Value.stringify_nested t

/-- The templates of a list are printed one after the other. -/
@[simp] theorem stringify_toValue_templates (ts : List Template) :
    (toValue ts).stringify = String.join (ts.map Template.serialize) := by
  induction ts with
  | nil => rfl
  | cons t ts ih =>
    rw [List.map_cons, String.join_cons, ← ih]
    exact Value.stringify_sequence_cons (.nested t) (ts.map toValue)

namespace Example

/-! ### Where the user's text goes -/

/-- The title and the body of a page are escaped, and nothing else of it is.
-/
theorem serialize_page (title body : String) :
    (page title body).serialize
      = "\n  <h1>" ++ (escape title ++ ("</h1>\n  <p>" ++ (escape body ++ "</p>\n"))) := by
  simp [page]

/-- So is the input on the page for the user's text. -/
theorem serialize_userPage (input : String) :
    (userPage input).serialize = "\n  <div>User input: " ++ (escape input ++ "</div>\n") := by
  simp [userPage]

/-- A document adds static text around a page. -/
theorem serialize_document (content : Template) :
    (document content).serialize
      = "<html><body>" ++ (content.serialize ++ "</body></html>\n") := by
  simp [document]

/-- How a card is shown. -/
def cardText (c : Card) : String :=
  "\n  <div class=\"card\">\n    <h2>" ++ (escape c.title
    ++ ("</h2>\n    <div class=\"content\">" ++ (escape c.content ++ "</div>\n  </div>\n")))

/-- The title and the content of a card are escaped. -/
theorem serialize_card (c : Card) : (card c).serialize = cardText c := by
  -- Rewriting with `cardText` would evaluate its literals.
  unfold card cardText
  simp

/-- The cards stand in one hole, one after the other. -/
theorem serialize_pageWithCards (cards : List Card) :
    (pageWithCards cards).serialize
      = "\n  <div class=\"container\">\n    "
        ++ (String.join (cards.map cardText) ++ "\n  </div>\n") := by
  have hcards : (cards.map card).map Template.serialize = cards.map cardText := by
    simp [Function.comp_def, serialize_card]
  simp [pageWithCards, hcards]

/-- What is printed before the HTML of the first card. -/
def beforeCards (title body : String) : String :=
  textBeforeCards title body
    ++ ("Nested templates with array:" ++ "\n" ++ "\n  <div class=\"container\">\n    ")

/-- What is printed after the HTML of the last card. -/
def afterCards : String := "\n  </div>\n" ++ ("\n" ++ ("\n" ++ textAfterCards))

/-- The tour prints each card once, in order. -/
theorem tourText_eq (title body : String) (cards : List Card) :
    tourText title body cards
      = beforeCards title body ++ (String.join (cards.map cardText) ++ afterCards) := by
  unfold tourText sectionText beforeCards afterCards
  rw [serialize_pageWithCards]
  simp only [String.append_assoc]

/-! ### The markup of the output -/

/-- The markup of a page does not depend on its title and body. -/
theorem markup_page (title body title' body' : String) :
    markup (page title body).serialize = markup (page title' body').serialize := by
  rw [serialize_page, serialize_page]
  simp only [markup_append, markup_escape]

/-- All cards have the same markup. -/
theorem markup_cardText (c d : Card) : markup (cardText c) = markup (cardText d) := by
  unfold cardText
  simp only [markup_append, markup_escape]

/-- The markup of cards depends on their number only. -/
theorem markup_cards {cs ds : List Card} (h : cs.length = ds.length) :
    markup (String.join (cs.map cardText)) = markup (String.join (ds.map cardText)) := by
  induction cs generalizing ds with
  | nil =>
    cases List.length_eq_zero_iff.mp h.symm
    rfl
  | cons c cs ih =>
    cases ds with
    | nil => cases h
    | cons d ds =>
      have hlength : cs.length = ds.length := Nat.succ.inj h
      rw [List.map_cons, List.map_cons, String.join_cons, String.join_cons, markup_append,
        markup_append, markup_cardText c d, ih hlength]

/-- The markup of the tour depends on the number of cards only. -/
theorem markup_tourText (title body title' body' : String) {cs ds : List Card}
    (h : cs.length = ds.length) :
    markup (tourText title body cs) = markup (tourText title' body' ds) := by
  -- Only the first page of this part has the title and the body.
  have hbefore : markup (beforeCards title body) = markup (beforeCards title' body') := by
    unfold beforeCards textBeforeCards sectionText
    simp only [markup_append, markup_page title body title' body']
  rw [tourText_eq, tourText_eq, markup_append, markup_append, markup_append, markup_append,
    markup_cards h, hbefore]

/-- The markup of the document does not depend on its title and body. -/
theorem markup_documentText (title body title' body' : String) :
    markup (documentText title body) = markup (documentText title' body') := by
  unfold documentText
  simp only [serialize_document, markup_append, markup_page title body title' body']

/-! ### The entities of the output -/

/-- The fragments of a page have no `&`, so each one comes from the escaper.
-/
theorem entitiesOnly_page (title body : String) : EntitiesOnly (page title body).serialize := by
  rw [serialize_page]
  exact .hole (by decide) (.hole (by decide) (.of_plain (by decide)))

/-- The same for the page for the user's text. -/
theorem entitiesOnly_userPage (input : String) : EntitiesOnly (userPage input).serialize := by
  rw [serialize_userPage]
  exact .hole (by decide) (.of_plain (by decide))

/-- The same for a card. -/
theorem entitiesOnly_cardText (c : Card) : EntitiesOnly (cardText c) := by
  unfold cardText
  exact .hole (by decide) (.hole (by decide) (.of_plain (by decide)))

/-- A section adds a heading and line ends, which have none. -/
theorem entitiesOnly_sectionText {heading html : String} (hheading : '&' ∉ heading.toList)
    (hhtml : EntitiesOnly html) : EntitiesOnly (sectionText heading html) :=
  ((EntitiesOnly.of_plain hheading).append (.of_plain (by decide))).append
    ((hhtml.append (.of_plain (by decide))).append (.of_plain (by decide)))

/-- Each `&` of the tour begins an entity. -/
theorem entitiesOnly_tourText (title body : String) (cards : List Card) :
    EntitiesOnly (tourText title body cards) := by
  -- Part by part, each of them static text with pages in between.
  have hbefore : EntitiesOnly (textBeforeCards title body) :=
    .append (.of_plain (by decide))
      (.append (entitiesOnly_sectionText (by decide) (entitiesOnly_page title body))
        (.append (entitiesOnly_sectionText (by decide) (entitiesOnly_page "Hello Updates" "def"))
          (.of_plain (by decide))))
  have hcards : EntitiesOnly (pageWithCards cards).serialize := by
    rw [serialize_pageWithCards]
    refine .append (.of_plain (by decide)) (.append (.join ?_) (.of_plain (by decide)))
    simp [entitiesOnly_cardText]
  have hafter : EntitiesOnly textAfterCards :=
    .append (entitiesOnly_sectionText (by decide) (entitiesOnly_userPage _))
      (.append (entitiesOnly_sectionText (by decide) (entitiesOnly_page _ _))
        (.append (.of_plain (by decide))
          (.append (.of_plain (by decide))
            (.append (entitiesOnly_page _ _) (.of_plain (by decide))))))
  exact hbefore.append ((entitiesOnly_sectionText (by decide) hcards).append hafter)

/-- So does each `&` of the document. -/
theorem entitiesOnly_documentText (title body : String) :
    EntitiesOnly (documentText title body) := by
  unfold documentText doctypeLine
  rw [serialize_document]
  exact .append (.of_plain (by decide))
    (.append (.of_plain (by decide))
      ((entitiesOnly_page title body).append (.of_plain (by decide))))

/-- So does each `&` that the program writes, in any mode. -/
theorem entitiesOnly_outputText (o : Options) : EntitiesOnly (outputText o) := by
  unfold outputText
  by_cases hdoctype : o.doctype = true
  · rw [if_pos hdoctype]
    exact entitiesOnly_documentText o.title o.body
  · rw [if_neg hdoctype]
    cases o.cards? with
    | none =>
      have hempty : EntitiesOnly "" := .of_plain (by decide)
      exact hempty
    | some cards => exact entitiesOnly_tourText o.title o.body cards

/-! ### The main theorem -/

/-- Runs in the same mode, with as many cards if these are shown, write the
same markup. -/
theorem markup_outputText_congr {o o' : Options} (hmode : o'.doctype = o.doctype)
    (hcards : o.doctype = false → o'.cards?.map List.length = o.cards?.map List.length) :
    markup (outputText o') = markup (outputText o) := by
  unfold outputText
  rw [hmode]
  by_cases hdoctype : o.doctype = true
  · rw [if_pos hdoctype, if_pos hdoctype]
    exact markup_documentText o'.title o'.body o.title o.body
  · rw [if_neg hdoctype, if_neg hdoctype]
    have hlength := hcards (Bool.eq_false_iff.mpr hdoctype)
    cases hold : o.cards? with
    | none =>
      rw [hold, Option.map_none, Option.map_eq_none_iff] at hlength
      rw [hlength]
      rfl
    | some cs =>
      -- Both runs have cards, and as many of them.
      rw [hold, Option.map_some, Option.map_eq_some_iff] at hlength
      obtain ⟨ds, hnew, hlength⟩ := hlength
      rw [hnew]
      exact markup_tourText o'.title o'.body o.title o.body hlength

/-- A run of the program writes a text. Each `&` in it begins an entity.
Any other run in the same mode, and without `--doctype` with as many
cards, writes a text with the same markup characters, whatever the title,
the body and the cards say. Without `--doctype` the cards come in order,
each once, between two texts that do not depend on them. -/
theorem markup_output (env : Environment) {args : List String} {o : Options}
    (h : Options.ofArgs? args = some o) :
    ∃ outcome text, outcome? env args = some outcome ∧ outcome.output = utf8 text ∧
      EntitiesOnly text ∧
      (∀ env' args' o', Options.ofArgs? args' = some o' → o'.doctype = o.doctype →
        (o.doctype = false → o'.cards?.map List.length = o.cards?.map List.length) →
        ∃ outcome' text', outcome? env' args' = some outcome' ∧ outcome'.output = utf8 text' ∧
          markup text' = markup text) ∧
      ∀ cards, o.doctype = false → o.cards? = some cards →
        text = beforeCards o.title o.body ++ (String.join (cards.map cardText) ++ afterCards) := by
  -- A command line that is not refused has an outcome, here and for the other run.
  have houtcome : ∀ env args o, Options.ofArgs? args = some o →
      outcome? env args = some (.ofRun env (run o)) := by
    intro env args o hargs
    rw [outcome?, hargs, Option.map_some]
  refine ⟨_, outputText o, houtcome env args o h, output_run o, entitiesOnly_outputText o, ?_, ?_⟩
  · intro env' args' o' hargs hmode hcards
    exact ⟨_, outputText o', houtcome env' args' o' hargs, output_run o',
      markup_outputText_congr hmode hcards⟩
  · intro cards hmode hcards
    rw [outputText, if_neg (by simp [hmode]), hcards]
    exact tourText_eq o.title o.body cards

/-- Three cards full of special characters make the same markup as the
three cards that are shown if none are given. -/
theorem markup_output_hostile :
    ∃ outcome text outcome' text',
      outcome? .empty ["--title", "<script>", "--body='&\"", "--cards-json",
        "[[\"</h2>\",\"&lt;\"],[\"<!--\",\"\"],[\"'\",\"-->\"]]"] = some outcome ∧
      outcome.output = utf8 text ∧ EntitiesOnly text ∧
      text = beforeCards "<script>" "'&\"" ++ (String.join
        ([⟨"</h2>", "&lt;"⟩, ⟨"<!--", ""⟩, ⟨"'", "-->"⟩].map cardText) ++ afterCards) ∧
      outcome? .empty [] = some outcome' ∧ outcome'.output = utf8 text' ∧
      markup text' = markup text := by
  have hargs : Options.ofArgs? ["--title", "<script>", "--body='&\"", "--cards-json",
      "[[\"</h2>\",\"&lt;\"],[\"<!--\",\"\"],[\"'\",\"-->\"]]"]
      = some ⟨"<script>", "'&\"",
        some "[[\"</h2>\",\"&lt;\"],[\"<!--\",\"\"],[\"'\",\"-->\"]]", false⟩ := by
    decide +kernel
  have hnone : Options.ofArgs? [] = some ⟨"Hello Templates", "abc", none, false⟩ := by
    decide +kernel
  obtain ⟨outcome, text, hrun, houtput, hentities, hmarkup, htext⟩ :=
    markup_output .empty hargs
  obtain ⟨outcome', text', hrun', houtput', hsame⟩ :=
    hmarkup .empty [] _ hnone rfl (fun _ => by decide +kernel)
  exact ⟨outcome, text, outcome', text', hrun, houtput, hentities,
    htext _ rfl (by decide +kernel), hrun', houtput', hsame⟩

end Example

end HtmlTemplate
