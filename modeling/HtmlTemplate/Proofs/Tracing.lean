import HtmlTemplate.Proofs.Agreement

/-!
# `HtmlTemplate.Proofs.Tracing`: tracing shows in the log only

The variable `traceVariable` decides whether a serialization leaves a line
in the log. The main theorem, `log_eq_tracedLines`, follows it through
both programs, for every state of the variable.

* Output and ending are those of the program when the variable is not
  set.
* The log is the warnings of the program and then `tracedLines`: one line
  for each serialization if the variable is text that means yes, and one
  line about the variable itself if it is no text. A program that does not
  serialize does not even look at the variable.
* The tour of templates serializes six times, whatever its cards are. The
  benchmark serializes once more than it has jobs, in any order in which
  its threads go on.

A series of events is enough to know the log. `logLines_of_warnings_eq_nil`
says what serializations leave in it, by induction on the events.
-/

set_option autoImplicit false

namespace HtmlTemplate

/-! ### A variable that is not set -/

/-- The environment without a variable. -/
def Environment.unset (env : Environment) (name : String) : Environment :=
  ⟨env.entries.filter fun entry => entry.1 ≠ name⟩

namespace Environment

/-- Only the variable itself is gone. -/
theorem lookup_unset (env : Environment) (name other : String) :
    (env.unset name).entries.lookup other
      = if other = name then none else env.entries.lookup other := by
  obtain ⟨entries⟩ := env
  unfold unset
  induction entries with
  | nil => grind
  | cons entry entries ih =>
    obtain ⟨key, bytes⟩ := entry
    by_cases hkey : key = name <;> grind

/-- The variable that is taken away is not set any more. -/
theorem text_unset_self (env : Environment) (name : String) :
    (env.unset name).text name = .ok none := by
  simp [text, bytes?, lookup_unset]

/-- All other variables read as before. -/
theorem text_unset_of_ne (env : Environment) {name other : String} (h : other ≠ name) :
    (env.unset name).text other = env.text other := by
  simp [text, bytes?, lookup_unset, h]

/-- A variable cannot be read only if it is no text. -/
theorem text_eq_error {env : Environment} {name : String} {e : EnvironmentError}
    (h : env.text name = .error e) : e = .notUnicode name := by
  unfold text at h
  split at h
  · cases h
  · split at h
    · cases h
    · cases h
      rfl

/-- A variable that is text is a flag, and one that is not set means no. -/
theorem flag_of_ok {env : Environment} {name : String} {value : Option String}
    (h : env.text name = .ok value) : env.flag name = .ok (value.any isTruthy) := by
  unfold flag
  rw [h]
  cases value with
  | none => rfl
  | some text => rfl

end Environment

/-! ### The lines that serializations leave -/

/-- The number of fragments, if the event is a serialization. -/
def Event.serialized? : Event → Option Nat
  | .serialized n => some n
  | _ => none

/-- The text, if the event is a warning. -/
def Event.warning? : Event → Option String
  | .warning text => some text
  | _ => none

/-- The serializations among some events. Each one is given by the number
of fragments of its template. -/
def serializations (es : List Event) : List Nat := es.filterMap Event.serialized?

/-- The warnings of the program among some events. -/
def warnings (es : List Event) : List String := es.filterMap Event.warning?

/-- Serializations of one series of events after another. -/
@[simp] theorem serializations_append (es fs : List Event) :
    serializations (es ++ fs) = serializations es ++ serializations fs := List.filterMap_append

/-- Warnings of one series of events after another. -/
@[simp] theorem warnings_append (es fs : List Event) :
    warnings (es ++ fs) = warnings es ++ warnings fs := List.filterMap_append

/-- The line about the serialization of a template with `n` fragments. -/
def traceLine (n : Nat) : String := "T: serialize: " ++ integerText n ++ " fragments"

/-- The line about a variable that is no text. -/
def unreadableLine : String := "W: \"THTML_TRACE\" env var is not unicode, tracing stays off"

/-- What serializations leave in the log, given by the numbers of fragments
of the templates. -/
def Environment.tracedLines (env : Environment) (calls : List Nat) : List String :=
  match env.text traceVariable with
  | .ok none => []
  | .ok (some text) => if isTruthy text then calls.map traceLine else []
  | .error _ => if calls = [] then [] else [unreadableLine]

/-- Warnings that come before all serializations are the front of the log. -/
theorem logLines_append_of_serializations_eq_nil (tracing : Tracing) {es : List Event}
    (h : serializations es = []) (fs : List Event) :
    logLines tracing (es ++ fs) = (warnings es).map ("W: " ++ ·) ++ logLines tracing fs := by
  induction es with
  | nil => rfl
  | cons e es ih =>
    cases e with
    | output bytes => exact ih h
    | warning text => exact congrArg (("W: " ++ text) :: ·) (ih h)
    | serialized n => cases h

/-- Without tracing, events that do not warn leave nothing. -/
theorem logLines_off {es : List Event} (h : warnings es = []) : logLines .off es = [] := by
  induction es with
  | nil => rfl
  | cons e es ih =>
    cases e with
    | output bytes => exact ih h
    | warning text =>
      -- There is no warning among the events.
      cases h
    | serialized n => exact ih h

/-- With tracing, they leave a line for each serialization. -/
theorem logLines_on {es : List Event} (h : warnings es = []) :
    logLines .on es = (serializations es).map traceLine := by
  induction es with
  | nil => rfl
  | cons e es ih =>
    cases e with
    | output bytes => exact ih h
    | warning text => cases h
    | serialized n => exact congrArg (traceLine n :: ·) (ih h)

/-- If tracing is broken, the first serialization says so, and there is no
tracing afterwards. -/
theorem logLines_broken (e : EnvironmentError) {es : List Event} (h : warnings es = []) :
    logLines (.broken e) es =
      if serializations es = [] then [] else ["W: " ++ e.message ++ ", tracing stays off"] := by
  induction es with
  | nil => rfl
  | cons event es ih =>
    cases event with
    | output bytes => exact ih h
    | warning text => cases h
    | serialized n =>
      -- From here on it is off.
      exact congrArg (("W: " ++ e.message ++ ", tracing stays off") :: ·) (logLines_off h)

/-- The line in the log names the variable, and is the same each time. -/
theorem unreadableLine_eq :
    "W: " ++ (EnvironmentError.notUnicode traceVariable).message ++ ", tracing stays off"
      = unreadableLine := by
  decide +kernel

/-- A variable that cannot be read breaks tracing. -/
theorem Tracing.ofEnvironment_of_error {env : Environment} {e : EnvironmentError}
    (h : env.text traceVariable = .error e) : ofEnvironment env = .broken e := by
  rw [ofEnvironment, Environment.flag, h]
  rfl

/-- A variable that can be read switches tracing on if it means yes. -/
theorem Tracing.ofEnvironment_of_ok {env : Environment} {value : Option String}
    (h : env.text traceVariable = .ok value) :
    ofEnvironment env = if value.any isTruthy then .on else .off := by
  rw [ofEnvironment, Environment.flag_of_ok h]
  cases value.any isTruthy with
  | true => rfl
  | false => rfl

/-- Events that do not warn leave the traced lines of their serializations. -/
theorem logLines_of_warnings_eq_nil (env : Environment) {es : List Event}
    (h : warnings es = []) :
    logLines (.ofEnvironment env) es = env.tracedLines (serializations es) := by
  unfold Environment.tracedLines
  cases htext : env.text traceVariable with
  | error e =>
    rw [Tracing.ofEnvironment_of_error htext, logLines_broken e h,
      Environment.text_eq_error htext, unreadableLine_eq]
  | ok value =>
    rw [Tracing.ofEnvironment_of_ok htext]
    cases value with
    | none => exact logLines_off h
    | some text =>
      show logLines (if isTruthy text then .on else .off) es
        = if isTruthy text then (serializations es).map traceLine else []
      by_cases hyes : isTruthy text = true
      · rw [if_pos hyes, if_pos hyes, logLines_on h]
      · rw [if_neg hyes, if_neg hyes, logLines_off h]

/-! ### What the programs serialize -/

/-- The entry point serializes once. The templates inside go through the
recursion, which leaves no event. -/
theorem serializations_serialize (t : Template) :
    serializations (Run.serialize t).events = [t.fragments.length] := by
  rw [Run.serialize_eq]
  rfl

/-- Streaming does not serialize. -/
theorem serializations_stream (w : Writer Unit) : serializations (Run.stream w).events = [] := by
  unfold Run.stream
  cases w Sink.unlimited with
  | ok _ sink => rfl
  | error e sink => rfl

namespace Example

/-- The numbers of fragments of the six templates that the tour shows. -/
def tourCalls : List Nat := [3, 3, 2, 2, 3, 3]

/-- The tour warns first, if there are no cards. Then it serializes six
templates. The templates of the cards are inside of one of them. -/
theorem exists_events_tour (title body : String) (cards : List Card) :
    ∃ rest, (tour title body cards).events
        = (if cards = [] then [.warning "no cards given"] else []) ++ rest ∧
      warnings rest = [] ∧ serializations rest = tourCalls := by
  unfold tour
  -- Each rendering becomes its one event, and the rest computes.
  by_cases hcards : cards = []
  · simp only [if_pos hcards, Run.render_eq, Run.serialize_eq]
    exact ⟨_, rfl, rfl, rfl⟩
  · simp only [if_neg hcards, Run.render_eq, Run.serialize_eq]
    exact ⟨_, rfl, rfl, rfl⟩

/-- The warning that the tour logs. -/
def warnedLines (cards : List Card) : List String :=
  if cards = [] then ["W: no cards given"] else []

/-- The log of the tour: its own warning, and what its six serializations
leave. -/
theorem log_tour (env : Environment) (title body : String) (cards : List Card) :
    logLines (.ofEnvironment env) (tour title body cards).events
      = warnedLines cards ++ env.tracedLines tourCalls := by
  obtain ⟨rest, hevents, hwarnings, hcalls⟩ := exists_events_tour title body cards
  -- The warning comes before the variable is read, so it is there in any case.
  have hfirst : serializations (if cards = [] then [.warning "no cards given"] else []) = [] := by
    split
    · rfl
    · rfl
  rw [hevents, logLines_append_of_serializations_eq_nil _ hfirst,
    logLines_of_warnings_eq_nil env hwarnings, hcalls, warnedLines]
  split
  · rfl
  · rfl

/-- The tour serializes the same number of times for all cards. -/
theorem serializations_tour (title body : String) (cards : List Card) :
    serializations (tour title body cards).events = tourCalls := by
  obtain ⟨rest, hevents, -, hcalls⟩ := exists_events_tour title body cards
  rw [hevents, serializations_append, hcalls]
  split
  · rfl
  · rfl

/-- With cards and without `--doctype`, the events are those of the tour. -/
theorem events_run_of_cards {o : Options} {cards : List Card} (hmode : o.doctype = false)
    (hcards : o.cards? = some cards) :
    (run o).events = (tour o.title o.body cards).events := by
  unfold run
  rw [if_neg (Bool.eq_false_iff.mp hmode), hcards]
  exact List.append_nil _

/-- Without a tour, the events leave nothing in the log. -/
theorem log_run_of_no_tour (env : Environment) {o : Options}
    (h : o.doctype = true ∨ o.cards? = none) :
    logLines (.ofEnvironment env) (run o).events = [] ∧ serializations (run o).events = [] := by
  unfold run
  by_cases hmode : o.doctype = true
  · rw [if_pos hmode, printDocument_eq]
    exact ⟨rfl, rfl⟩
  · rw [if_neg hmode, h.resolve_left hmode]
    exact ⟨rfl, rfl⟩

end Example

namespace Benchmark

/-- The program gets as far as to build its table: there is a worker, and
the row numbers fit 64 bits. -/
def Starts (env : Environment) (o : Options) : Prop :=
  (∃ n, threads env o = .ok n ∧ n ≠ 0) ∧ firstRow + o.rows.toNat < 0x10000000000000000

/-- The numbers of fragments of the templates that the benchmark
serializes: the table, once and then in each job. -/
def calls (o : Options) : List Nat := List.replicate (1 + o.iterations.toNat) 3

/-- The number of workers comes from another variable. -/
theorem threads_unset (env : Environment) (o : Options) :
    threads (env.unset traceVariable) o = threads env o := by
  have hname : threadsVariable ≠ traceVariable := by decide
  unfold threads Environment.count
  rw [env.text_unset_of_ne hname]

/-- The benchmark takes its steps without a look at the variable for
tracing. -/
theorem run_unset (env : Environment) (o : Options) :
    run (env.unset traceVariable) o = run env o := by
  unfold run
  rw [threads_unset]

/-- A benchmark that gets as far as its table measures it. -/
theorem run_of_starts {env : Environment} {o : Options} (h : Starts env o) :
    run env o = measure o.rows o.iterations.toNat := by
  obtain ⟨⟨n, hthreads, hn⟩, hrows⟩ := h
  unfold run
  rw [hthreads]
  show (if n = 0 then _ else if _ then _ else _) = _
  rw [if_neg hn, if_neg (Nat.not_le.mpr hrows)]

/-- A run that ends before the table leaves no events. -/
theorem events_run_of_not_starts {env : Environment} {o : Options} (h : ¬ Starts env o) :
    (run env o).events = [] := by
  unfold run
  cases hthreads : threads env o with
  | error e => rfl
  | ok n =>
    show Run.events (if n = 0 then _ else if _ then _ else _) = _
    by_cases hn : n = 0
    · rw [if_pos hn]
      rfl
    · have hrows : 0x10000000000000000 ≤ firstRow + o.rows.toNat :=
        Nat.le_of_not_lt fun hlt => h ⟨⟨n, hthreads, hn⟩, hlt⟩
      rw [if_neg hn, if_pos hrows]
      rfl

/-- The table has three fragments, and it is serialized once before the
jobs. -/
theorem serializations_measure (rows : UInt64) (jobs : Nat) :
    serializations (measure rows jobs).events = List.replicate (1 + jobs) 3 := by
  rw [measure_eq, serializations_append]
  simp [serializations, List.filterMap_replicate, Event.serialized?, table, Template.literal,
    Template.fragments]

/-- The benchmark logs no warning. -/
theorem warnings_measure (rows : UInt64) (jobs : Nat) :
    warnings (measure rows jobs).events = [] := by
  rw [measure_eq, warnings_append]
  simp [warnings, List.filterMap_replicate, Event.warning?]

/-- The same for the benchmark as a whole. -/
theorem serializations_run {env : Environment} {o : Options} (h : Starts env o) :
    serializations (run env o).events = calls o := by
  rw [run_of_starts h, serializations_measure, calls]

/-- All lines in the log of the benchmark are about its serializations. -/
theorem log_run (env : Environment) (o : Options) :
    (Outcome.ofRun env (run env o)).log
      = env.tracedLines (serializations (run env o).events) := by
  refine logLines_of_warnings_eq_nil env ?_
  by_cases h : Starts env o
  · rw [run_of_starts h, warnings_measure]
  · rw [events_run_of_not_starts h]
    rfl

/-- A benchmark that starts has a worker. -/
theorem workers_ne_zero {env : Environment} {o : Options} {n : UInt64} (h : Starts env o)
    (hthreads : threads env o = .ok n) : n.toNat ≠ 0 := by
  obtain ⟨⟨m, hm, hne⟩, -⟩ := h
  cases hthreads.symm.trans hm
  exact fun hzero => hne (UInt64.toNat_inj.mp hzero)

/-- When the threads cannot go on, the run as a whole is the one without
threads. -/
theorem result?_of_stuck {policy : Policy} {rows : UInt64} {jobs workers steps : Nat} {s : State}
    (hlive : policy.Live) (hworkers : workers ≠ 0)
    (h : Schedule policy (table rows) jobs workers steps s)
    (hstuck : ∀ s', ¬ Step policy (table rows) jobs s s') :
    s.result? (table rows) jobs = some (measure rows jobs) := by
  have inv := h.invariant
  -- By the invariant, only the end of the main thread stops everything.
  have hfinished : ∃ lengths, s.phase = .finished lengths := by
    by_contra hunfinished
    obtain ⟨s', hstep⟩ := (inv.step_iff hlive hworkers).mpr (not_exists.mp hunfinished)
    exact hstuck s' hstep
  obtain ⟨lengths, hphase⟩ := hfinished
  rw [measure_eq, State.result?, hphase, inv.events_of_finished hphase,
    inv.lengths_of_finished hphase, job_eq]
  simp only [verdict_replicate]

end Benchmark

/-! ### The main theorem -/

/-- What can be seen of a program apart from its log. -/
def Outcome.result (o : Outcome) : Ending × List UInt8 := (o.ending, o.output)

/-- In every environment, both programs end and write as if the variable
for tracing were not set. Their logs are their warnings and the traced
lines of their serializations.

* A template inside another one is no serialization of its own, and
  streaming is none.
* The tour of templates serializes the same six templates for all cards.
  With `--doctype`, or with bad cards, the log is empty.
* The benchmark serializes once more than it has jobs, under any schedule.
  If it does not get as far, the log is empty. -/
theorem log_eq_tracedLines (env : Environment) :
    (env.unset traceVariable).text traceVariable = .ok none ∧
    (∀ args, (Example.outcome? env args).map Outcome.result
      = (Example.outcome? (env.unset traceVariable) args).map Outcome.result) ∧
    (∀ args, (Benchmark.outcome? env args).map Outcome.result
      = (Benchmark.outcome? (env.unset traceVariable) args).map Outcome.result) ∧
    (∀ t : Template, serializations (Run.serialize t).events = [t.fragments.length]) ∧
    (∀ w : Writer Unit, serializations (Run.stream w).events = []) ∧
    (∀ args o, Example.Options.ofArgs? args = some o →
      ∃ outcome, Example.outcome? env args = some outcome ∧
        (o.doctype = true ∨ o.cards? = none →
          serializations (Example.run o).events = [] ∧ outcome.log = []) ∧
        ∀ cards, o.doctype = false → o.cards? = some cards →
          serializations (Example.run o).events = Example.tourCalls ∧
          outcome.log = Example.warnedLines cards ++ env.tracedLines Example.tourCalls) ∧
    (∀ args o, Benchmark.Options.ofArgs? args = some o →
      ∃ outcome, Benchmark.outcome? env args = some outcome ∧
        (Benchmark.Starts env o →
          serializations (Benchmark.run env o).events = Benchmark.calls o ∧
          outcome.log = env.tracedLines (Benchmark.calls o)) ∧
        (¬ Benchmark.Starts env o →
          serializations (Benchmark.run env o).events = [] ∧ outcome.log = [])) ∧
    ∀ (o : Benchmark.Options) (n : UInt64) (policy : Benchmark.Policy) (steps : Nat)
      (s : Benchmark.State), Benchmark.Starts env o → Benchmark.threads env o = .ok n →
      policy.Live →
      Benchmark.Schedule policy (Benchmark.table o.rows) o.iterations.toNat n.toNat steps s →
      (∀ s', ¬ Benchmark.Step policy (Benchmark.table o.rows) o.iterations.toNat s s') →
      ∃ r, s.result? (Benchmark.table o.rows) o.iterations.toNat = some r ∧
        serializations r.events = Benchmark.calls o ∧
        (Outcome.ofRun env r).log = env.tracedLines (Benchmark.calls o) ∧
        (Outcome.ofRun env r).result = (Outcome.ofRun (env.unset traceVariable)
          (Benchmark.run (env.unset traceVariable) o)).result := by
  refine ⟨env.text_unset_self traceVariable, ?_, ?_, serializations_serialize,
    serializations_stream, ?_, ?_, ?_⟩
  · -- The tour does not even know the environment.
    intro args
    rw [Example.outcome?, Example.outcome?, Option.map_map, Option.map_map]
    rfl
  · -- The benchmark does, but for another variable.
    intro args
    rw [Benchmark.outcome?, Benchmark.outcome?, Option.map_map, Option.map_map]
    simp only [Benchmark.run_unset]
    rfl
  · intro args o hargs
    rw [Example.outcome?, hargs, Option.map_some]
    refine ⟨_, rfl, ?_, ?_⟩
    · intro h
      obtain ⟨hlog, hcalls⟩ := Example.log_run_of_no_tour env h
      exact ⟨hcalls, hlog⟩
    · intro cards hmode hcards
      have hevents := Example.events_run_of_cards hmode hcards
      constructor
      · rw [hevents, Example.serializations_tour]
      · show logLines (.ofEnvironment env) (Example.run o).events = _
        rw [hevents, Example.log_tour]
  · intro args o hargs
    rw [Benchmark.outcome?, hargs, Option.map_some]
    refine ⟨_, rfl, ?_, ?_⟩
    · intro h
      rw [Benchmark.log_run, Benchmark.serializations_run h]
      exact ⟨rfl, rfl⟩
    · intro h
      have hevents := Benchmark.events_run_of_not_starts h
      constructor
      · rw [hevents]
        rfl
      · show logLines (.ofEnvironment env) (Benchmark.run env o).events = []
        rw [hevents]
        rfl
  · -- Any schedule ends in the run without threads.
    intro o n policy steps s hstarts hthreads hlive hschedule hstuck
    refine ⟨Benchmark.run env o, ?_, Benchmark.serializations_run hstarts, ?_, ?_⟩
    · rw [Benchmark.run_of_starts hstarts]
      exact Benchmark.result?_of_stuck hlive (Benchmark.workers_ne_zero hstarts hthreads) hschedule
        hstuck
    · rw [Benchmark.log_run, Benchmark.serializations_run hstarts]
    · rw [Benchmark.run_unset]
      rfl

/-- An environment in which the variable for tracing is a byte that is no
text. -/
def unreadableTrace : Environment := ⟨[(traceVariable, ⟨#[0xff]⟩)]⟩

/-- The variable is no text. The tour without cards has its own warning and
then one about the variable, and a benchmark with a single job has one. A
document that is streamed has none, and neither has a benchmark without
workers. -/
theorem log_eq_tracedLines_unreadable :
    (∃ outcome, Example.outcome? unreadableTrace ["--cards-json=[]"] = some outcome ∧
      outcome.log = ["W: no cards given", unreadableLine]) ∧
    (∃ outcome, Example.outcome? unreadableTrace ["--doctype"] = some outcome ∧
      outcome.log = []) ∧
    (∃ outcome, Benchmark.outcome? unreadableTrace ["--rows=3", "--iterations=1", "--threads=1"]
      = some outcome ∧ outcome.log = [unreadableLine]) ∧
    (∃ outcome, Benchmark.outcome? unreadableTrace ["--threads=0"] = some outcome ∧
      outcome.log = []) ∧
    ∃ s r, Benchmark.Schedule .firstCome (Benchmark.table 3) 1 1 10 s ∧
      s.result? (Benchmark.table 3) 1 = some r ∧
      (Outcome.ofRun unreadableTrace r).log = [unreadableLine] := by
  obtain ⟨-, -, -, -, -, hexample, hbenchmark, hschedule⟩ := log_eq_tracedLines unreadableTrace
  have hlines : ∀ n ns, unreadableTrace.tracedLines (n :: ns) = [unreadableLine] := fun _ _ => rfl
  have hnoCards : Example.Options.ofArgs? ["--cards-json=[]"]
      = some ⟨"Hello Templates", "abc", some "[]", false⟩ := by decide +kernel
  have hdoctype : Example.Options.ofArgs? ["--doctype"]
      = some ⟨"Hello Templates", "abc", none, true⟩ := by decide +kernel
  have hjob : Benchmark.Options.ofArgs? ["--rows=3", "--iterations=1", "--threads=1"]
      = some ⟨3, 1, some 1⟩ := by decide +kernel
  have hidle : Benchmark.Options.ofArgs? ["--threads=0"] = some ⟨25000, 40, some 0⟩ := by
    decide +kernel
  have hstarts : Benchmark.Starts unreadableTrace ⟨3, 1, some 1⟩ :=
    ⟨⟨1, rfl, by decide⟩, by decide⟩
  have hnever : ¬ Benchmark.Starts unreadableTrace ⟨25000, 40, some 0⟩ := by
    rintro ⟨⟨n, hn, hne⟩, -⟩
    cases hn
    exact hne rfl
  refine ⟨?_, ?_, ?_, ?_, ?_⟩
  · obtain ⟨outcome, houtcome, -, htour⟩ := hexample _ _ hnoCards
    obtain ⟨-, hlog⟩ := htour [] rfl (by decide +kernel)
    exact ⟨outcome, houtcome, hlog.trans (congrArg (_ ++ ·) (hlines 3 [3, 2, 2, 3, 3]))⟩
  · obtain ⟨outcome, houtcome, hquiet, -⟩ := hexample _ _ hdoctype
    exact ⟨outcome, houtcome, (hquiet (Or.inl rfl)).2⟩
  · obtain ⟨outcome, houtcome, hjobs, -⟩ := hbenchmark _ _ hjob
    exact ⟨outcome, houtcome, (hjobs hstarts).2.trans (hlines 3 [3])⟩
  · obtain ⟨outcome, houtcome, -, hquiet⟩ := hbenchmark _ _ hidle
    exact ⟨outcome, houtcome, (hquiet hnever).2⟩
  · have begin : Benchmark.Schedule .firstCome (Benchmark.table 3) 1 1 0 _ := .start
    have taken := ((begin.step (.submit rfl (by decide))).step (.wait rfl (by decide))).step
      (@Benchmark.Step.take _ _ _ _ [] [] [] [] 0 rfl rfl rfl)
    have done := ((taken.step (@Benchmark.Step.serialize _ _ _ _ [] [] 0 rfl)).step
      (@Benchmark.Step.send _ _ _ _ [] [] 0 _ rfl rfl)).step
      (@Benchmark.Step.finish _ _ _ _ [] [] 0 rfl)
    have finished := (((done.step (.join rfl rfl (by decide))).step (.drop rfl)).step
      (.receive rfl rfl)).step (.hangUp rfl rfl rfl)
    have hended := finished.invariant.step_iff Benchmark.Policy.firstCome_live Nat.one_ne_zero
    obtain ⟨r, hresult, -, hlog, -⟩ := hschedule ⟨3, 1, some 1⟩ 1 .firstCome 10 _ hstarts rfl
      Benchmark.Policy.firstCome_live finished fun s' hstep => hended.mp ⟨s', hstep⟩ _ rfl
    exact ⟨_, r, finished, hresult, hlog.trans (hlines 3 [3])⟩

end HtmlTemplate
