import HtmlTemplate.Proofs.Tracing
import Mathlib.Data.List.TakeWhile

/-!
# `HtmlTemplate.Proofs.AllOrNothing`: the tour prints everything or nothing

The tour of templates has two modes, and bad cards stop one of them. The
main theorem, `Example.outcome_all_or_nothing`, has the whole outcome for
every command line and every environment.

* With `--doctype`, the output is the doctype line and the HTML of the
  document. The cards do not matter, not even if they are no JSON.
* Without it, cards that cannot be read leave no output and no line in the
  log.
* All other cards are shown between two parts that do not depend on them.
  Only the first part depends on the title and the body, in its first
  section. The second page goes into the same body as the first one, and
  nothing of the first one is left.

`Options.Gives` says which cards are meant without following the reader:
the defaults, or one card for each item of a JSON array. How an item gives
a card is up to `Card.ofTree?`.

`ofArgs?_commandLine` says that each title, body and text with cards can be
asked for on a command line, in both modes.
-/

set_option autoImplicit false

namespace HtmlTemplate

/-! ### Options on a command line -/

/-- The argument for an option with a value. -/
def valueArgument (name value : String) : String := "--" ++ name ++ "=" ++ value

/-- The argument for an option without one. -/
def switchArgument (name : String) : String := "--" ++ name

/-- The characters of an argument with a value. -/
theorem toList_valueArgument (name value : String) :
    (valueArgument name value).toList = '-' :: '-' :: (name.toList ++ '=' :: value.toList) := by
  unfold valueArgument
  rw [String.toList_append, String.toList_append, String.toList_append, List.append_assoc,
    List.append_assoc]
  rfl

/-- The characters of an argument without one. -/
theorem toList_switchArgument (name : String) :
    (switchArgument name).toList = '-' :: '-' :: name.toList := by
  unfold switchArgument
  rw [String.toList_append]
  rfl

section
variable {name : String} (hname : name.toList.all (· ≠ '=') = true)
include hname

/-- The value begins after the first equals sign, and may have more. -/
theorem optionParts?_valueArgument (value : String) :
    optionParts? (valueArgument name value) = some (name, some value) := by
  rw [List.all_eq_true] at hname
  unfold optionParts?
  rw [toList_valueArgument]
  -- The name has no equals sign, so the first one is right behind it.
  simp only [List.takeWhile_append_of_pos hname, List.dropWhile_append_of_pos hname]
  rw [List.takeWhile_cons_of_neg (by decide), List.append_nil, String.ofList_toList]
  rw [List.dropWhile_cons_of_neg (by decide)]
  simp only [String.ofList_toList]

/-- A switch has a name and no value. -/
theorem optionParts?_switchArgument :
    optionParts? (switchArgument name) = some (name, none) := by
  rw [List.all_eq_true] at hname
  unfold optionParts?
  rw [toList_switchArgument]
  have htake := List.takeWhile_eq_self_iff.mpr hname
  have hdrop := List.dropWhile_eq_nil_iff.mpr hname
  simp only [htake, hdrop, String.ofList_toList]

/-- An argument with a value is an option of its own, if its name asks for a
value. -/
theorem readOptions?_valueArgument {specs : List OptionSpec}
    (hspec : specs.find? (fun spec => spec.name = name) = some ⟨name, true⟩) (value : String)
    (rest : List String) :
    readOptions? specs (valueArgument name value :: rest)
      = (readOptions? specs rest).map ((name, value) :: ·) := by
  -- The argument goes on after the dashes, so it does not end the options.
  have hdashes : valueArgument name value ≠ "--" := by
    intro heq
    have hchars := congrArg String.toList heq
    rw [toList_valueArgument] at hchars
    exact List.append_ne_nil_of_right_ne_nil _ (List.cons_ne_nil _ _)
      (List.cons.inj (List.cons.inj hchars).2).2
  rw [readOptions?, if_neg hdashes, optionParts?_valueArgument hname]
  simp only [hspec]

/-- So is a switch, if its name asks for none. -/
theorem readOptions?_switchArgument {specs : List OptionSpec} (hne : name ≠ "")
    (hspec : specs.find? (fun spec => spec.name = name) = some ⟨name, false⟩)
    (rest : List String) :
    readOptions? specs (switchArgument name :: rest)
      = (readOptions? specs rest).map ((name, "") :: ·) := by
  have hdashes : switchArgument name ≠ "--" := by
    intro heq
    have hchars := congrArg String.toList heq
    rw [toList_switchArgument] at hchars
    exact hne (String.toList_inj.mp (List.cons.inj (List.cons.inj hchars).2).2)
  rw [readOptions?, if_neg hdashes, optionParts?_switchArgument hname]
  simp only [hspec]

end

namespace Example

/-- A command line that asks for a title, a body, cards and a mode. -/
def Options.commandLine (o : Options) : List String :=
  valueArgument "title" o.title :: valueArgument "body" o.body ::
    (o.cardsJson.toList.map (valueArgument "cards-json")
      ++ if o.doctype then [switchArgument "doctype"] else [])

/-- The command line asks for these options. -/
theorem ofArgs?_commandLine (o : Options) : Options.ofArgs? o.commandLine = some o := by
  obtain ⟨title, body, cardsJson, doctype⟩ := o
  have hread : readOptions?
      [⟨"title", true⟩, ⟨"body", true⟩, ⟨"cards-json", true⟩, ⟨"doctype", false⟩]
      (Options.commandLine ⟨title, body, cardsJson, doctype⟩)
      = some (("title", title) :: ("body", body) :: (cardsJson.toList.map ("cards-json", ·)
        ++ if doctype then [("doctype", "")] else [])) := by
    unfold Options.commandLine
    -- With and without cards, in both modes.
    cases cardsJson <;> cases doctype <;>
      simp (disch := decide) only [Option.toList_none, Option.toList_some, List.map_nil,
        List.map_cons, List.nil_append, List.cons_append, if_true, Bool.false_eq_true, if_false,
        readOptions?_valueArgument, readOptions?_switchArgument, readOptions?, Option.map_some]
  unfold Options.ofArgs? parseOptions
  rw [hread]
  cases cardsJson <;> cases doctype <;> rfl

/-! ### The cards that are meant -/

/-- The cards that the options stand for: three cards with numbers if no
text with cards is given, and else a card for each item of the array that
the text is. -/
inductive Options.Gives (o : Options) : List Card → Prop where
  | default (htext : o.cardsJson = none) :
      Gives o [⟨"Card 1", "Content for card 1"⟩, ⟨"Card 2", "Content for card 2"⟩,
        ⟨"Card 3", "Content for card 3"⟩]
  | read {text : String} {items : List Json.Tree} {cards : List Card}
      (htext : o.cardsJson = some text) (hparse : Json.Tree.parse? text = some (.array items))
      (hcards : items.map Card.ofTree? = cards.map some) : Gives o cards

/-- All items give a result, or the list gives none. -/
theorem mapM_eq_some_iff {α β : Type} {f : α → Option β} {as : List α} {bs : List β} :
    as.mapM f = some bs ↔ as.map f = bs.map some := by
  induction as generalizing bs with
  | nil =>
    cases bs with
    | nil => exact iff_of_true rfl rfl
    | cons b bs => exact iff_of_false nofun nofun
  | cons a as ih =>
    rw [List.mapM_cons, List.map_cons]
    constructor
    · intro h
      -- The first item gives a result, and then all others do.
      obtain ⟨b, hb, hrest⟩ := Option.bind_eq_some_iff.mp h
      obtain ⟨cs, hcs, hbs⟩ := Option.bind_eq_some_iff.mp hrest
      cases hbs
      rw [hb, ih.mp hcs, List.map_cons]
    · intro h
      cases bs with
      | nil => cases h
      | cons b bs =>
        obtain ⟨hb, hbs⟩ := List.cons.inj h
        rw [hb, ih.mpr hbs]
        rfl

/-- The cards that are shown if none are given. -/
theorem defaultCards_eq :
    defaultCards = [⟨"Card 1", "Content for card 1"⟩, ⟨"Card 2", "Content for card 2"⟩,
      ⟨"Card 3", "Content for card 3"⟩] := by
  decide +kernel

/-- The program reads the cards that are meant. -/
theorem cards?_eq_some_iff {o : Options} {cards : List Card} :
    o.cards? = some cards ↔ o.Gives cards := by
  unfold Options.cards?
  constructor
  · intro h
    split at h
    case h_1 text htext =>
      obtain ⟨tree, hparse, htree⟩ := Option.bind_eq_some_iff.mp h
      cases tree with
      | array items => exact .read htext hparse (mapM_eq_some_iff.mp htree)
      | _ =>
        -- Only an array is a list of cards.
        cases htree
    case h_2 htext =>
      cases h
      rw [defaultCards_eq]
      exact .default htext
  · intro h
    cases h with
    | default htext =>
      rw [htext]
      exact congrArg some defaultCards_eq
    | read htext hparse hcards =>
      rw [htext]
      show (Json.Tree.parse? _).bind _ = _
      rw [hparse]
      exact mapM_eq_some_iff.mpr hcards

/-- Only a text can be no cards. -/
theorem exists_text_of_cards?_eq_none {o : Options} (h : o.cards? = none) :
    ∃ text, o.cardsJson = some text := by
  unfold Options.cards? at h
  split at h
  case h_1 text htext => exact ⟨text, htext⟩
  case h_2 => cases h

/-! ### The outcome -/

/-- The lines about tracing are not the warning. -/
theorem warning_notMem_tracedLines (env : Environment) (calls : List Nat) :
    "W: no cards given" ∉ env.tracedLines calls := by
  unfold Environment.tracedLines
  split
  · exact List.not_mem_nil
  · split
    · intro hmem
      obtain ⟨n, -, hline⟩ := List.mem_map.mp hmem
      unfold traceLine at hline
      -- A trace begins with another letter.
      have hchars := congrArg (fun line : String => line.toList.head?) hline
      simp only [String.toList_append] at hchars
      cases hchars
    · exact List.not_mem_nil
  · split
    · exact List.not_mem_nil
    · unfold unreadableLine
      decide

/-- The warning is logged exactly for an empty list. -/
theorem warning_mem_log_iff (env : Environment) (title body : String) (cards : List Card) :
    "W: no cards given" ∈ logLines (.ofEnvironment env) (tour title body cards).events ↔
      cards = [] := by
  rw [log_tour, List.mem_append, or_iff_left (warning_notMem_tracedLines env tourCalls)]
  unfold warnedLines
  split
  case isTrue hcards => exact iff_of_true List.mem_cons_self hcards
  case isFalse hcards => exact iff_of_false List.not_mem_nil hcards

/-- With `--doctype`, the document is all there is. -/
theorem ofRun_doctype (env : Environment) {o : Options} (hmode : o.doctype = true) :
    Outcome.ofRun env (run o) = ⟨.success, utf8 (documentText o.title o.body), []⟩ := by
  have hrun : run o = ⟨.success, [.output (utf8 (documentText o.title o.body))]⟩ := by
    unfold run
    rw [if_pos hmode, printDocument_eq]
  rw [hrun]
  exact congrArg (Outcome.mk _ · _) (List.append_nil _)

/-- Without it, cards that cannot be read end the program before it writes
anything. -/
theorem ofRun_bad_cards (env : Environment) {o : Options} {text : String}
    (hmode : o.doctype = false) (htext : o.cardsJson = some text) (hcards : o.cards? = none) :
    Outcome.ofRun env (run o) = ⟨.failure ("parsing --cards-json " ++ quoted text), [], []⟩ := by
  unfold run
  rw [if_neg (Bool.eq_false_iff.mp hmode), hcards, htext]
  rfl

/-- Cards that can be read are shown, and the log is that of the tour. -/
theorem ofRun_cards (env : Environment) {o : Options} {cards : List Card}
    (hmode : o.doctype = false) (hcards : o.cards? = some cards) :
    Outcome.ofRun env (run o) = ⟨.success, utf8 (tourText o.title o.body cards),
      logLines (.ofEnvironment env) (tour o.title o.body cards).events⟩ := by
  have hvalue : (run o).value = .success := by
    unfold run
    rw [if_neg (Bool.eq_false_iff.mp hmode), hcards]
    rfl
  unfold Outcome.ofRun
  rw [hvalue, events_run_of_cards hmode hcards, output_tour]

/-- The outcome of the program.

- Each choice of options can be made on a command line.
- With `--doctype`, the output is the first page as a document. The program
  succeeds and logs nothing, whatever the cards are.
- Without it, if the options stand for no cards, the program fails, writes
  nothing and logs nothing.
- Otherwise it succeeds and writes the whole tour, with the cards that the
  options stand for. It warns exactly if there are none. -/
theorem outcome_all_or_nothing (env : Environment) (o : Options) :
    Options.ofArgs? o.commandLine = some o ∧
    ∀ args, Options.ofArgs? args = some o → ∃ outcome, outcome? env args = some outcome ∧
      (o.doctype = true →
        outcome.ending.exitCode = 0 ∧ outcome.log = [] ∧
        outcome.output = utf8 (doctypeLine ++ (document (page o.title o.body)).serialize)) ∧
      (o.doctype = false → (∀ cards, ¬ o.Gives cards) →
        outcome.ending.exitCode = 1 ∧ outcome.log = [] ∧ outcome.output = [] ∧
        ∃ text, o.cardsJson = some text ∧
          outcome.ending = .failure ("parsing --cards-json " ++ quoted text)) ∧
      ∀ cards, o.doctype = false → o.Gives cards →
        outcome.ending.exitCode = 0 ∧
        ("W: no cards given" ∈ outcome.log ↔ cards = []) ∧
        outcome.output = utf8 ("=== SSR HTML Template Example ===\n" ++ "\n"
          ++ (sectionText "First render:" (page o.title o.body).serialize
          ++ (sectionText "Second render:" (page "Hello Updates" "def").serialize
          ++ ("=== Additional Examples ===\n" ++ "\n"
          ++ (sectionText "Nested templates with array:" (pageWithCards cards).serialize
          ++ textAfterCards))))) := by
  refine ⟨ofArgs?_commandLine o, fun args hargs => ?_⟩
  refine ⟨.ofRun env (run o), by rw [outcome?, hargs, Option.map_some], ?_, ?_, ?_⟩
  · intro hmode
    rw [ofRun_doctype env hmode]
    exact ⟨rfl, rfl, rfl⟩
  · intro hmode hnone
    -- What the options do not stand for is not read either.
    have hcards : o.cards? = none :=
      Option.eq_none_iff_forall_ne_some.mpr fun cards h => hnone cards (cards?_eq_some_iff.mp h)
    obtain ⟨text, htext⟩ := exists_text_of_cards?_eq_none hcards
    rw [ofRun_bad_cards env hmode htext hcards]
    exact ⟨rfl, rfl, rfl, text, htext, rfl⟩
  · intro cards hmode hgives
    rw [ofRun_cards env hmode (cards?_eq_some_iff.mpr hgives)]
    refine ⟨rfl, warning_mem_log_iff env o.title o.body cards, ?_⟩
    -- The text before the cards and the text after them make one text.
    show utf8 (tourText o.title o.body cards) = _
    unfold tourText textBeforeCards
    simp only [String.append_assoc]

/-- Cards that are no JSON do not matter with `--doctype`, and are all that
matters without it. An empty list of cards is shown, and the log says so. -/
theorem outcome_all_or_nothing_modes :
    (∃ outcome, outcome? .empty ["--doctype", "--cards-json=?"] = some outcome ∧
      outcome.ending.exitCode = 0 ∧ outcome.log = []) ∧
    (∃ outcome, outcome? .empty ["--cards-json=?"] = some outcome ∧
      outcome.ending.exitCode = 1 ∧ outcome.output = []) ∧
    ∃ outcome, outcome? .empty ["--cards-json=[]"] = some outcome ∧
      outcome.ending.exitCode = 0 ∧ "W: no cards given" ∈ outcome.log := by
  refine ⟨?_, ?_, ?_⟩
  · let o : Options := ⟨"Hello Templates", "abc", some "?", true⟩
    obtain ⟨-, hargs⟩ := outcome_all_or_nothing .empty o
    obtain ⟨outcome, hrun, hdocument, -⟩ :=
      hargs ["--doctype", "--cards-json=?"] (by decide +kernel)
    obtain ⟨hcode, hlog, -⟩ := hdocument rfl
    exact ⟨outcome, hrun, hcode, hlog⟩
  · let o : Options := ⟨"Hello Templates", "abc", some "?", false⟩
    have hbad : o.cards? = none := by decide +kernel
    have hnone : ∀ cards, ¬ o.Gives cards := by
      intro cards hgives
      cases hbad.symm.trans (cards?_eq_some_iff.mpr hgives)
    obtain ⟨-, hargs⟩ := outcome_all_or_nothing .empty o
    obtain ⟨outcome, hrun, -, hfails, -⟩ := hargs ["--cards-json=?"] (by decide +kernel)
    obtain ⟨hcode, -, houtput, -⟩ := hfails rfl hnone
    exact ⟨outcome, hrun, hcode, houtput⟩
  · let o : Options := ⟨"Hello Templates", "abc", some "[]", false⟩
    have hgives : o.Gives [] := cards?_eq_some_iff.mp (by decide +kernel)
    obtain ⟨-, hargs⟩ := outcome_all_or_nothing .empty o
    obtain ⟨outcome, hrun, -, -, htour⟩ := hargs ["--cards-json=[]"] (by decide +kernel)
    obtain ⟨hcode, hwarning, -⟩ := htour [] rfl hgives
    exact ⟨outcome, hrun, hcode, hwarning.mpr rfl⟩

end Example

end HtmlTemplate
