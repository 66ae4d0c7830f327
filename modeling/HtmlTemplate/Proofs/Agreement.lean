import Mathlib.Data.List.Perm.Basic
import HtmlTemplate.Program.Pool
import HtmlTemplate.Proofs.Output

/-!
# `HtmlTemplate.Proofs.Agreement`: the benchmark under any schedule

`Program/Pool.lean` leaves open which thread goes next, and which job a
worker takes. The main theorem, `outcome_of_schedule`, says that this does
not matter: every schedule comes to an end, and then the run is the same
as that of `Benchmark.run`, which has no threads.

* Every step leaves less `State.work`, so no schedule goes on for ever.
* Every step preserves the `Invariant`. It counts jobs, senders, lengths
  and serializations: what is missing in one place is in another.
* By the invariant a state in which nothing can happen is one in which the
  main thread has received all lengths (`Invariant.step_iff`). In
  particular the last sender is gone when the last length has arrived.
-/

set_option autoImplicit false

namespace HtmlTemplate.Benchmark

/-- A job gives the length of the HTML, and leaves one event. -/
theorem job_eq (t : Template) :
    job t = ⟨t.serialize.utf8ByteSize, [.serialized t.fragments.length]⟩ := by
  unfold job
  rw [Run.serialize_eq]
  rfl

/-- The event of a job. -/
theorem events_job (t : Template) : (job t).events = [.serialized t.fragments.length] := by
  rw [job_eq]

/-! ### What the threads hold -/

namespace Worker

/-- How many serializations a worker has before it. -/
def unserialized : Worker → Nat
  | .serializing _ => 1
  | _ => 0

/-- How many lengths a worker has to send. -/
def unsent : Worker → Nat
  | .serializing _ => 1
  | .sending _ _ => 1
  | _ => 0

/-- A worker that reports something else than the expected length, or
nothing at all. -/
def Deviates (expected : Nat) : Worker → Prop
  | .sending _ length => length ≠ expected
  | .panicked _ => True
  | _ => False

/-- How many steps the job of a worker still takes, the one of its message
included. -/
def work : Worker → Nat
  | .idle => 0
  | .serializing _ => 4
  | .sending _ _ => 3
  | .sent _ => 1
  | .panicked _ => 0

end Worker

namespace Phase

/-- How many of the jobs have been handed out. -/
def submitted (jobs : Nat) : Phase → Nat
  | .submitting k => k
  | _ => jobs

/-- Whether all jobs have been waited for. -/
def isJoined : Phase → Bool
  | .submitting _ => false
  | .joining => false
  | _ => true

/-- How many senders the main thread has. -/
def senders : Phase → Nat
  | .receiving _ => 0
  | .finished _ => 0
  | _ => 1

/-- The lengths that have been received. -/
def lengths : Phase → List Nat
  | .receiving lengths => lengths
  | .finished lengths => lengths
  | _ => []

/-- How many steps the main thread still takes, apart from the jobs. -/
def work : Phase → Nat
  | .submitting _ => 4
  | .joining => 3
  | .joined => 2
  | .receiving _ => 1
  | .finished _ => 0

end Phase

/-- The jobs that some workers hold. -/
def heldBy (ws : List Worker) : List Nat := ws.flatMap fun w => w.job?.toList

/-- A number of each worker, summed up. -/
def total (f : Worker → Nat) : List Worker → Nat
  | [] => 0
  | w :: ws => f w + total f ws

/-- The jobs before a worker, its own, and those behind it. The steps below
name the worker that goes on, so this is how they find its job. -/
theorem heldBy_split (ws us : List Worker) (w : Worker) :
    heldBy (ws ++ w :: us) = heldBy ws ++ (w.job?.toList ++ heldBy us) := by
  simp [heldBy]

/-- The same for a sum over all workers. -/
theorem total_split (f : Worker → Nat) (ws us : List Worker) (w : Worker) :
    total f (ws ++ w :: us) = total f ws + (f w + total f us) := by
  induction ws with
  | nil => simp [total]
  | cons v ws ih => simp [total, ih, Nat.add_assoc]

/-- Idle workers hold nothing. -/
theorem heldBy_idle {ws : List Worker} (hidle : ∀ w ∈ ws, w = .idle) : heldBy ws = [] := by
  refine List.flatMap_eq_nil_iff.mpr fun w hw => ?_
  rw [hidle w hw]
  rfl

/-- Idle workers add up to nothing. -/
theorem total_idle {f : Worker → Nat} (hf : f .idle = 0) {ws : List Worker}
    (hidle : ∀ w ∈ ws, w = .idle) : total f ws = 0 := by
  induction ws with
  | nil => rfl
  | cons w ws ih =>
    obtain ⟨rfl, hrest⟩ := List.forall_mem_cons.mp hidle
    rw [total, hf, ih hrest]

/-- How many steps are left. A job that has not been handed out takes six,
and one fewer with each step from there. -/
def State.work (jobs : Nat) (s : State) : Nat :=
  6 * (jobs - s.phase.submitted jobs) + 5 * s.waiting.length + total Worker.work s.workers
    + s.channel.length + s.phase.work

/-! ### Every schedule ends -/

section

variable {policy : Policy} {t : Template} {jobs workers : Nat} {s s' : State}

/-- Every step leaves less work. Each case looks up what the step moves: a
job that goes on loses one of its steps, and a step of the main thread one
of its own. -/
theorem Step.work_lt (h : Step policy t jobs s s') : s'.work jobs < s.work jobs := by
  unfold State.work
  cases h with
  | submit hphase _ =>
    -- Six steps of a job that is to come become the five of one that waits.
    simp only [hphase, Phase.submitted, Phase.work, List.length_append, List.length_cons,
      List.length_nil]
    omega
  | wait hphase _ | join hphase _ _ | drop hphase | hangUp hphase _ _ =>
    simp only [hphase, Phase.submitted, Phase.work]
    omega
  | take hwaiting hworkers _ =>
    simp only [hwaiting, hworkers, total_split, Worker.work, List.length_append, List.length_cons]
    omega
  | serialize hworkers | panic hworkers _ | finish hworkers =>
    simp only [hworkers, total_split, Worker.work]
    omega
  | send hworkers _ =>
    -- The worker has two steps fewer, and the message in the channel is one.
    simp only [hworkers, total_split, Worker.work, List.length_append, List.length_cons,
      List.length_nil]
    omega
  | receive hphase hchannel =>
    simp only [hphase, hchannel, Phase.submitted, Phase.work, List.length_cons]
    omega

/-- The steps of a schedule and the work that is left are at most the work
of the start. The induction is on the schedule. -/
theorem Schedule.steps_le {steps : Nat} (h : Schedule policy t jobs workers steps s) :
    steps + s.work jobs ≤ 6 * jobs + 4 := by
  induction h with
  | start =>
    have hidle : total Worker.work (List.replicate workers .idle) = 0 :=
      total_idle rfl fun w hw => List.eq_of_mem_replicate hw
    simp only [State.work, State.start, hidle, Phase.submitted, Phase.work, List.length_nil]
    omega
  | step _ hstep ih =>
    have hless := hstep.work_lt
    omega

/-! ### Idle workers can take a job -/

/-- An element of a list, and what stands before and after it. -/
theorem eq_take_append_cons {α : Type} {xs : List α} {i : Nat} (h : i < xs.length) :
    xs = xs.take i ++ xs[i] :: xs.drop (i + 1) := by
  rw [List.getElem_cons_drop, List.take_append_drop]

/-- A live policy lets a job start when no worker has any. -/
theorem Step.exists_take (hlive : policy.Live) (hwaiting : s.waiting ≠ [])
    (hworkers : s.workers ≠ []) (hidle : ∀ w ∈ s.workers, w = .idle) :
    ∃ s', Step policy t jobs s s' := by
  obtain ⟨i, j, hi, hj, hpolicy⟩ := hlive s hwaiting hworkers hidle
  have hsplit := eq_take_append_cons hi
  rw [hidle _ (List.getElem_mem hi)] at hsplit
  refine ⟨_, .take (eq_take_append_cons hj) hsplit ?_⟩
  rwa [List.length_take_of_le (Nat.le_of_lt hi), List.length_take_of_le (Nat.le_of_lt hj)]

/-! ### What holds in every schedule -/

/-- What holds of all workers still holds after one of them goes on. -/
theorem forall_mem_replace {p : Worker → Prop} {ws us : List Worker} {w w' : Worker}
    (h : ∀ x ∈ ws ++ w :: us, p x) (hp : p w') : ∀ x ∈ ws ++ w' :: us, p x := by
  simp only [List.forall_mem_append, List.forall_mem_cons] at h ⊢
  exact ⟨h.1, hp, h.2.2⟩

/-- What one step preserves. -/
structure Invariant (t : Template) (jobs workers : Nat) (s : State) : Prop where
  submitted_le : s.phase.submitted jobs ≤ jobs
  workers_length : s.workers.length = workers
  /-- Each job that was handed out waits, is held by a worker, or is done. -/
  each_once : (s.done ++ heldBy s.workers ++ s.waiting).Perm (List.range (s.phase.submitted jobs))
  /-- Each job comes with a sender, until it is done. -/
  senders_eq : s.senders = s.phase.senders + (heldBy s.workers).length + s.waiting.length
  /-- Each job sends one length. -/
  lengths_eq : s.phase.lengths.length + s.channel.length + total Worker.unsent s.workers
    + s.waiting.length = s.phase.submitted jobs
  lengths_agree : ∀ length ∈ s.phase.lengths ++ s.channel, length = (job t).value
  workers_agree : ∀ w ∈ s.workers, ¬ w.Deviates (job t).value
  /-- Each job serializes once, and so does the main thread before. -/
  events_eq : s.events.length + total Worker.unserialized s.workers + s.waiting.length
    = 1 + s.phase.submitted jobs
  events_agree : ∀ e ∈ s.events, e = .serialized t.fragments.length
  /-- The main thread goes on when nothing is left to do for the workers. -/
  joined_idle : s.phase.isJoined = true → s.waiting = [] ∧ ∀ w ∈ s.workers, w = .idle
  /-- The main thread stops receiving when no message is left. -/
  received_all : s.phase.hasReceiver = false → s.channel = []

/-- The invariant holds at the start: nothing is handed out, and only the
serialization of the main thread has happened. -/
theorem Invariant.start : Invariant t jobs workers (.start t workers) := by
  have hidle : ∀ w ∈ List.replicate workers Worker.idle, w = .idle :=
    fun w hw => List.eq_of_mem_replicate hw
  have hheld := heldBy_idle hidle
  have hunsent : total Worker.unsent (List.replicate workers .idle) = 0 := total_idle rfl hidle
  have hunserialized : total Worker.unserialized (List.replicate workers .idle) = 0 :=
    total_idle rfl hidle
  exact {
    submitted_le := Nat.zero_le jobs
    workers_length := List.length_replicate
    each_once := by simp [State.start, hheld, Phase.submitted]
    senders_eq := by simp [State.start, hheld, Phase.senders]
    lengths_eq := by simp [State.start, hunsent, Phase.lengths, Phase.submitted]
    lengths_agree := by simp [State.start, Phase.lengths]
    workers_agree := by simp [State.start, Worker.Deviates]
    events_eq := by simp [State.start, hunserialized, events_job, Phase.submitted]
    events_agree := by simp [State.start, events_job]
    joined_idle := nofun
    received_all := nofun }

namespace Invariant

variable (inv : Invariant t jobs workers s)

include inv

/-- A worker with a job keeps the main thread waiting. -/
theorem isJoined_eq_false {ws us : List Worker} {w : Worker} (h : s.workers = ws ++ w :: us)
    (hw : w ≠ .idle) : s.phase.isJoined = false := by
  by_contra hjoined
  have hidle := (inv.joined_idle (by simpa using hjoined)).2
  exact hw (hidle w (by simp [h]))

/-- A worker with a job has somebody to send to. -/
theorem hasReceiver {ws us : List Worker} {w : Worker} (h : s.workers = ws ++ w :: us)
    (hw : w ≠ .idle) : s.phase.hasReceiver = true := by
  have hjoined := inv.isJoined_eq_false h hw
  cases hphase : s.phase with
  | finished lengths => simp [hphase, Phase.isJoined] at hjoined
  | submitting | joining | joined | receiving => rfl

/-- Only `submit` counts up, and it does so below the number of jobs. -/
theorem preserve_submitted_le (h : Step policy t jobs s s') :
    s'.phase.submitted jobs ≤ jobs := by
  cases h with
  | submit _ hmore => exact hmore
  | wait | join | drop | receive | hangUp => exact Nat.le_refl jobs
  | take | serialize | send | panic | finish => exact inv.submitted_le

/-- No step starts or loses a worker. -/
theorem preserve_workers_length (h : Step policy t jobs s s') : s'.workers.length = workers := by
  have hold := inv.workers_length
  cases h with
  | submit | wait | join | drop | receive | hangUp => exact hold
  | take _ hworkers _ | serialize hworkers | send hworkers _ | panic hworkers _
  | finish hworkers => simpa [hworkers] using hold

/-- A job goes from the queue to a worker and from there to the jobs that
are done. It is somewhere at all times, and only once. -/
theorem preserve_each_once (h : Step policy t jobs s s') :
    (s'.done ++ heldBy s'.workers ++ s'.waiting).Perm (List.range (s'.phase.submitted jobs)) := by
  have hold := inv.each_once
  have hle := inv.submitted_le
  cases h with
  | @submit k hphase _ =>
    -- The new job waits behind all others.
    rw [hphase] at hold
    simpa [Phase.submitted, List.range_succ] using hold.append_right [k]
  | wait hphase hall =>
    rw [hphase] at hold hle
    simpa [Phase.submitted, Nat.le_antisymm hall hle] using hold
  | take hwaiting hworkers _ =>
    -- The job goes over from the queue to the worker.
    refine List.Perm.trans (List.perm_iff_count.mpr fun a => ?_) hold
    simp only [hwaiting, hworkers, heldBy_split, Worker.job?, Option.toList, List.count_append,
      List.count_cons, List.count_nil]
    omega
  | serialize hworkers | send hworkers _ | panic hworkers _ =>
    rw [hworkers, heldBy_split] at hold
    rwa [heldBy_split]
  | finish hworkers =>
    -- And from the worker to the jobs that are done.
    refine List.Perm.trans (List.perm_iff_count.mpr fun a => ?_) hold
    simp only [hworkers, heldBy_split, Worker.job?, Option.toList, List.count_append,
      List.count_cons, List.count_nil]
    omega
  | join hphase _ _ | drop hphase | receive hphase _ | hangUp hphase _ _ => rwa [hphase] at hold

/-- A job brings its sender along and drops it at its end. The main thread
drops its own when all jobs are done. -/
theorem preserve_senders_eq (h : Step policy t jobs s s') :
    s'.senders = s'.phase.senders + (heldBy s'.workers).length + s'.waiting.length := by
  have hold := inv.senders_eq
  cases h with
  | submit hphase _ =>
    -- The sender of the new job is one of those that wait.
    simp only [hphase, Phase.senders, List.length_append, List.length_cons, List.length_nil]
      at hold ⊢
    omega
  | wait hphase _ | join hphase _ _ | receive hphase _ | hangUp hphase _ _ => rwa [hphase] at hold
  | take hwaiting hworkers _ =>
    simp only [hwaiting, hworkers, heldBy_split, Worker.job?, Option.toList, List.length_append,
      List.length_cons, List.length_nil] at hold ⊢
    omega
  | serialize hworkers | send hworkers _ | panic hworkers _ =>
    rw [hworkers, heldBy_split] at hold
    rwa [heldBy_split]
  | finish hworkers =>
    simp only [hworkers, heldBy_split, Worker.job?, Option.toList, List.length_append,
      List.length_cons, List.length_nil] at hold ⊢
    omega
  | drop hphase =>
    simp only [hphase, Phase.senders] at hold ⊢
    omega

/-- A length is owed from the time a job is handed out. It is then with the
worker, in the channel, and with the main thread, in this order. -/
theorem preserve_lengths_eq (h : Step policy t jobs s s') :
    s'.phase.lengths.length + s'.channel.length + total Worker.unsent s'.workers
      + s'.waiting.length = s'.phase.submitted jobs := by
  have hold := inv.lengths_eq
  have hle := inv.submitted_le
  cases h with
  | submit hphase _ | wait hphase _ =>
    simp only [hphase, Phase.lengths, Phase.submitted, List.length_append, List.length_cons,
      List.length_nil] at hold hle ⊢
    omega
  | take hwaiting hworkers _ =>
    simp only [hwaiting, hworkers, total_split, Worker.unsent, List.length_append,
      List.length_cons] at hold ⊢
    omega
  | serialize hworkers | finish hworkers =>
    rw [hworkers, total_split] at hold
    rwa [total_split]
  | send hworkers _ =>
    simp only [hworkers, total_split, Worker.unsent, List.length_append, List.length_cons,
      List.length_nil] at hold ⊢
    omega
  | panic hworkers hreceiver =>
    -- The worker has a job, so there is a receiver.
    rw [inv.hasReceiver hworkers (by simp)] at hreceiver
    cases hreceiver
  | join hphase _ _ | drop hphase | hangUp hphase _ _ => rwa [hphase] at hold
  | receive hphase hchannel =>
    simp only [hphase, hchannel, Phase.lengths, Phase.submitted, List.length_append,
      List.length_cons, List.length_nil] at hold ⊢
    omega

/-- A length that arrives in the channel comes from a worker, and no worker
deviates. -/
theorem preserve_lengths_agree (h : Step policy t jobs s s') :
    ∀ length ∈ s'.phase.lengths ++ s'.channel, length = (job t).value := by
  have hold := inv.lengths_agree
  have hworker := inv.workers_agree
  cases h with
  | submit hphase _ | wait hphase _ | join hphase _ _ | drop hphase | hangUp hphase _ _ =>
    simpa [Phase.lengths, hphase] using hold
  | take | serialize | panic | finish => exact hold
  | @send _ _ k sentLength hworkers _ =>
    -- The worker had the expected length.
    have hsent : sentLength = (job t).value := by
      simpa [Worker.Deviates] using hworker (.sending k sentLength) (by simp [hworkers])
    simpa [or_imp, forall_and, hsent] using hold
  | receive hphase hchannel => simpa [Phase.lengths, hphase, hchannel] using hold

/-- A worker takes its length from a serialization of the shared template.
It finds the receiver there, because the main thread waits for its job. -/
theorem preserve_workers_agree (h : Step policy t jobs s s') :
    ∀ w ∈ s'.workers, ¬ w.Deviates (job t).value := by
  have hold := inv.workers_agree
  cases h with
  | submit | wait | join | drop | receive | hangUp => exact hold
  | take _ hworkers _ | serialize hworkers | send hworkers _ | finish hworkers =>
    rw [hworkers] at hold
    exact forall_mem_replace hold (by simp [Worker.Deviates])
  | panic hworkers hreceiver =>
    simp [inv.hasReceiver hworkers (by simp)] at hreceiver

/-- A serialization is owed from the time a job is handed out, and it is the
worker that does it. -/
theorem preserve_events_eq (h : Step policy t jobs s s') :
    s'.events.length + total Worker.unserialized s'.workers + s'.waiting.length
      = 1 + s'.phase.submitted jobs := by
  have hold := inv.events_eq
  have hle := inv.submitted_le
  cases h with
  | submit hphase _ | wait hphase _ =>
    simp only [hphase, Phase.submitted, List.length_append, List.length_cons, List.length_nil]
      at hold hle ⊢
    omega
  | take hwaiting hworkers _ =>
    simp only [hwaiting, hworkers, total_split, Worker.unserialized, List.length_append,
      List.length_cons] at hold ⊢
    omega
  | serialize hworkers =>
    simp only [hworkers, total_split, Worker.unserialized, events_job, List.length_append,
      List.length_cons, List.length_nil] at hold ⊢
    omega
  | send hworkers _ | panic hworkers _ | finish hworkers =>
    rw [hworkers, total_split] at hold
    rwa [total_split]
  | join hphase _ _ | drop hphase | receive hphase _ | hangUp hphase _ _ => rwa [hphase] at hold

/-- The only step that leaves an event is a serialization. -/
theorem preserve_events_agree (h : Step policy t jobs s s') :
    ∀ e ∈ s'.events, e = .serialized t.fragments.length := by
  have hold := inv.events_agree
  cases h with
  | serialize =>
    intro e he
    rcases List.mem_append.mp he with he | he
    · exact hold e he
    · simpa [events_job] using he
  | submit | wait | take | send | panic | finish | join | drop | receive | hangUp => exact hold

/-- Once the jobs have been waited for, no worker has one that could go on.
-/
theorem preserve_joined_idle (h : Step policy t jobs s s') (hjoined : s'.phase.isJoined = true) :
    s'.waiting = [] ∧ ∀ w ∈ s'.workers, w = .idle := by
  have hold := inv.joined_idle
  cases h with
  | submit | wait => cases hjoined
  | take hwaiting _ _ =>
    -- No job waits any more.
    have hempty := (hold hjoined).1
    simp [hwaiting] at hempty
  | serialize hworkers | send hworkers _ | panic hworkers _ | finish hworkers =>
    have hbusy := inv.isJoined_eq_false hworkers (by simp)
    simp [hbusy] at hjoined
  | join _ hwaiting hworkers => exact ⟨hwaiting, hworkers⟩
  | drop hphase | receive hphase _ | hangUp hphase _ _ =>
    exact hold (by simp [hphase, Phase.isJoined])

/-- Nobody sends once the receiver is gone, so the channel stays empty. -/
theorem preserve_received_all (h : Step policy t jobs s s')
    (hreceiver : s'.phase.hasReceiver = false) : s'.channel = [] := by
  have hold := inv.received_all
  cases h with
  | submit | wait | join | drop | receive => cases hreceiver
  | take | serialize | panic | finish => exact hold hreceiver
  | send _ hsome =>
    rw [hsome] at hreceiver
    cases hreceiver
  | hangUp _ hchannel _ => exact hchannel

/-- Every step preserves the invariant, field by field. -/
theorem preserve (h : Step policy t jobs s s') : Invariant t jobs workers s' where
  submitted_le := inv.preserve_submitted_le h
  workers_length := inv.preserve_workers_length h
  each_once := inv.preserve_each_once h
  senders_eq := inv.preserve_senders_eq h
  lengths_eq := inv.preserve_lengths_eq h
  lengths_agree := inv.preserve_lengths_agree h
  workers_agree := inv.preserve_workers_agree h
  events_eq := inv.preserve_events_eq h
  events_agree := inv.preserve_events_agree h
  joined_idle := inv.preserve_joined_idle h
  received_all := inv.preserve_received_all h

/-! ### Progress, and the end -/

/-- As long as the main thread has not received all lengths, something can
happen. -/
theorem progress (hlive : policy.Live) (hworkers : workers ≠ 0)
    (hreceiver : s.phase.hasReceiver = true) : ∃ s', Step policy t jobs s s' := by
  cases hphase : s.phase with
  | submitting k =>
    by_cases hmore : k < jobs
    · exact ⟨_, .submit hphase hmore⟩
    · exact ⟨_, .wait hphase (Nat.le_of_not_lt hmore)⟩
  | joining =>
    by_cases hidle : ∀ w ∈ s.workers, w = .idle
    · by_cases hwaiting : s.waiting = []
      · exact ⟨_, .join hphase hwaiting hidle⟩
      · -- The policy lets some worker take some job.
        have hsome : s.workers ≠ [] := by
          rw [← List.length_pos_iff_ne_nil, inv.workers_length]
          exact Nat.pos_of_ne_zero hworkers
        exact Step.exists_take hlive hwaiting hsome hidle
    · -- A worker with a job can always go on.
      push Not at hidle
      obtain ⟨w, hw, hbusy⟩ := hidle
      obtain ⟨ws, us, hsplit⟩ := List.append_of_mem hw
      cases w with
      | idle => exact absurd rfl hbusy
      | serializing k => exact ⟨_, .serialize hsplit⟩
      | sending k length => exact ⟨_, .send hsplit hreceiver⟩
      | sent k => exact ⟨_, .finish hsplit⟩
      | panicked k => exact absurd trivial (inv.workers_agree _ hw)
  | joined => exact ⟨_, .drop hphase⟩
  | receiving lengths =>
    cases hchannel : s.channel with
    | cons length rest => exact ⟨_, .receive hphase hchannel⟩
    | nil =>
      -- Nobody has a sender any more, because nobody has a job.
      have hjoined : s.phase.isJoined = true := by rw [hphase]; rfl
      obtain ⟨hwaiting, hidle⟩ := inv.joined_idle hjoined
      have hsenders : s.senders = 0 := by
        rw [inv.senders_eq, heldBy_idle hidle, hwaiting, hphase]
        rfl
      exact ⟨_, .hangUp hphase hchannel hsenders⟩
  | finished lengths => simp [hphase, Phase.hasReceiver] at hreceiver

/-- At the end, nothing is left over. -/
theorem of_finished {lengths : List Nat} (hphase : s.phase = .finished lengths) :
    s.waiting = [] ∧ s.channel = [] ∧ ∀ w ∈ s.workers, w = .idle := by
  obtain ⟨hwaiting, hidle⟩ := inv.joined_idle (by rw [hphase]; rfl)
  exact ⟨hwaiting, inv.received_all (by rw [hphase]; rfl), hidle⟩

/-- Nothing is left to do at the end, so the schedule cannot go on. -/
theorem work_of_finished {lengths : List Nat} (hphase : s.phase = .finished lengths) :
    s.work jobs = 0 := by
  obtain ⟨hwaiting, hchannel, hidle⟩ := inv.of_finished hphase
  have hwork : total Worker.work s.workers = 0 := total_idle rfl hidle
  simp [State.work, Phase.submitted, Phase.work, hphase, hwaiting, hchannel, hwork]

/-- Something can happen until the main thread has received all lengths. -/
theorem step_iff (hlive : policy.Live) (hworkers : workers ≠ 0) :
    (∃ s', Step policy t jobs s s') ↔ ∀ lengths, s.phase ≠ .finished lengths := by
  constructor
  · -- A step would leave less than nothing to do.
    rintro ⟨s', hstep⟩ lengths hphase
    have hless := hstep.work_lt
    rw [inv.work_of_finished hphase] at hless
    exact Nat.not_lt_zero _ hless
  · intro hphase
    refine inv.progress hlive hworkers ?_
    cases hcase : s.phase with
    | finished lengths => exact absurd hcase (hphase lengths)
    | submitting | joining | joined | receiving => rfl

/-- What the main thread has at the end. -/
theorem lengths_of_finished {lengths : List Nat} (hphase : s.phase = .finished lengths) :
    lengths = List.replicate jobs (job t).value := by
  obtain ⟨hwaiting, hchannel, hidle⟩ := inv.of_finished hphase
  have hunsent : total Worker.unsent s.workers = 0 := total_idle rfl hidle
  refine List.eq_replicate_iff.mpr ⟨?_, fun length hlength => ?_⟩
  · simpa [hphase, hchannel, hwaiting, hunsent, Phase.lengths, Phase.submitted]
      using inv.lengths_eq
  · exact inv.lengths_agree length (by simp [hphase, Phase.lengths, hlength])

/-- The events of the end: one serialization for each job, and one before
them. -/
theorem events_of_finished {lengths : List Nat} (hphase : s.phase = .finished lengths) :
    s.events = List.replicate (1 + jobs) (.serialized t.fragments.length) := by
  obtain ⟨hwaiting, -, hidle⟩ := inv.of_finished hphase
  have hunserialized : total Worker.unserialized s.workers = 0 := total_idle rfl hidle
  refine List.eq_replicate_iff.mpr ⟨?_, inv.events_agree⟩
  simpa [hphase, hwaiting, hunserialized, Phase.submitted] using inv.events_eq

/-- At the end all jobs are done, in some order. -/
theorem done_of_finished {lengths : List Nat} (hphase : s.phase = .finished lengths) :
    s.done.Perm (List.range jobs) := by
  obtain ⟨hwaiting, -, hidle⟩ := inv.of_finished hphase
  simpa [hphase, hwaiting, heldBy_idle hidle, Phase.submitted] using inv.each_once

end Invariant

/-- The invariant holds in every schedule, by induction on its steps. -/
theorem Schedule.invariant {steps : Nat} (h : Schedule policy t jobs workers steps s) :
    Invariant t jobs workers s := by
  induction h with
  | start => exact Invariant.start
  | step _ hstep ih => exact ih.preserve hstep

end

/-! ### The same without threads -/

/-- What the benchmark prints. -/
def reportText (jobs expected : Nat) : String :=
  integerText jobs ++ " serializations of " ++ integerText expected ++ " bytes each" ++ "\n"

/-- Lengths that agree, as many as there should be, are no failure. -/
theorem verdict_replicate (jobs expected : Nat) :
    verdict jobs expected (List.replicate jobs expected)
      = ⟨.success, [.output (utf8 (reportText jobs expected))]⟩ := by
  have hagree : ¬ ((List.replicate jobs expected).length ≠ jobs ∨
      (List.replicate jobs expected).any (· ≠ expected) = true) := by simp
  rw [verdict, if_neg hagree, List.length_replicate]
  rfl

/-- Jobs that are performed one after the other. -/
theorem mapM_job (t : Template) (jobs : Nat) :
    (List.replicate jobs t).mapM job
      = ⟨List.replicate jobs t.serialize.utf8ByteSize,
        List.replicate jobs (.serialized t.fragments.length)⟩ := by
  induction jobs with
  | zero => rfl
  | succ jobs ih =>
    rw [List.replicate_succ, List.mapM_cons, ih, job_eq]
    -- The first job has one event, and the list of results adds none.
    show (⟨_, [_] ++ (_ ++ [])⟩ : Run (List Nat)) = _
    rw [List.append_nil]
    rfl

/-- The main thread alone serializes as often as all threads together. -/
theorem measure_eq (rows : UInt64) (jobs : Nat) :
    measure rows jobs
      = ⟨.success, List.replicate (1 + jobs) (.serialized (table rows).fragments.length)
          ++ [.output (utf8 (reportText jobs (table rows).serialize.utf8ByteSize))]⟩ := by
  have hrun : measure rows jobs = (job (table rows) >>= fun expected =>
      (List.replicate jobs (table rows)).mapM job >>= verdict jobs expected) := rfl
  have hjudged := verdict_replicate jobs (table rows).serialize.utf8ByteSize
  calc measure rows jobs
      = ⟨(verdict jobs _ _).value, [.serialized (table rows).fragments.length]
          ++ (List.replicate jobs (.serialized (table rows).fragments.length)
            ++ (verdict jobs _ _).events)⟩ := by rw [hrun, mapM_job, job_eq]; rfl
    _ = _ := by rw [hjudged, List.replicate_add, List.append_assoc]; rfl

/-- Serializations leave no output. -/
theorem outputBytes_serialized (n count : Nat) :
    outputBytes (List.replicate n (.serialized count)) = [] := by
  simp [outputBytes, List.flatMap_eq_nil_iff, List.mem_replicate]

/-! ### The main theorem -/

/-- With at least one worker and row numbers that fit 64 bits, the order
in which the threads go on does not matter.

* A schedule has at most six steps for each job and four more.
* No worker finds the receiver gone.
* Something can happen until the main thread has received all lengths,
  and nothing afterwards.
* Then each job was done once, all lengths are that of the single
  serialization, and the run as a whole is the one without threads. So
  the exit code is zero, and the output says how many lengths there are. -/
theorem outcome_of_schedule (env : Environment) (o : Options) {n : UInt64} {policy : Policy}
    (hthreads : threads env o = .ok n) (hn : n ≠ 0)
    (hrows : firstRow + o.rows.toNat < 0x10000000000000000) (hlive : policy.Live) {steps : Nat}
    {s : State}
    (h : Schedule policy (table o.rows) o.iterations.toNat n.toNat steps s) :
    steps ≤ 6 * o.iterations.toNat + 4 ∧
    (∀ k, .panicked k ∉ s.workers) ∧
    ((∃ s', Step policy (table o.rows) o.iterations.toNat s s') ↔
      ∀ lengths, s.phase ≠ .finished lengths) ∧
    ∀ lengths, s.phase = .finished lengths →
      s.done.Perm (List.range o.iterations.toNat) ∧
      lengths = List.replicate o.iterations.toNat (table o.rows).serialize.utf8ByteSize ∧
      s.result? (table o.rows) o.iterations.toNat = some (run env o) ∧
      ∀ args, Options.ofArgs? args = some o →
        ∃ outcome, outcome? env args = some outcome ∧ outcome.ending.exitCode = 0 ∧
          outcome.output
            = utf8 (reportText o.iterations.toNat (table o.rows).serialize.utf8ByteSize) := by
  have inv := h.invariant
  -- None of the early ends of the program comes up.
  have hrun : run env o = measure o.rows o.iterations.toNat := by
    unfold run
    rw [hthreads]
    show (if n = 0 then _ else if _ then _ else _) = _
    rw [if_neg hn, if_neg (Nat.not_le.mpr hrows)]
  refine ⟨?_, ?_, ?_, ?_⟩
  · have hsteps := h.steps_le
    omega
  · intro k hk
    exact inv.workers_agree _ hk trivial
  · exact inv.step_iff hlive (fun hzero => hn (UInt64.toNat_inj.mp hzero))
  · intro lengths hphase
    have hlengths := inv.lengths_of_finished hphase
    rw [job_eq] at hlengths
    refine ⟨inv.done_of_finished hphase, hlengths, ?_, ?_⟩
    · rw [hrun, measure_eq, State.result?, hphase, inv.events_of_finished hphase, hlengths, job_eq]
      simp only [verdict_replicate]
    · intro args hargs
      rw [outcome?, hargs, Option.map_some, hrun, measure_eq]
      refine ⟨_, rfl, rfl, ?_⟩
      show outputBytes (_ ++ [_]) = _
      rw [outputBytes_append, outputBytes_serialized]
      exact List.append_nil _

/-- Whoever is idle may take the oldest job, so some worker always may. -/
theorem Policy.firstCome_live : firstCome.Live := by
  intro s hwaiting hworkers _
  exact ⟨0, 0, List.length_pos_iff_ne_nil.mpr hworkers, List.length_pos_iff_ne_nil.mpr hwaiting,
    rfl⟩

/-- Two workers with a job each. The second job is done first. -/
theorem outcome_of_schedule_overtaking :
    ∃ s outcome, Schedule .firstCome (table 3) 2 2 16 s ∧ s.done = [1, 0] ∧
      s.result? (table 3) 2 = some (run .empty ⟨3, 2, some 2⟩) ∧
      outcome? .empty ["--rows=3", "--iterations=2", "--threads=2"] = some outcome ∧
      outcome.ending.exitCode = 0 ∧
      outcome.output = utf8 (reportText 2 (table 3).serialize.utf8ByteSize) := by
  have begin : Schedule .firstCome (table 3) 2 2 0 _ := .start
  have submitted := ((begin.step (.submit rfl (by decide))).step
    (.submit rfl (by decide))).step (.wait rfl (by decide))
  have taken := (submitted.step (@Step.take _ _ _ _ [] [1] [] [.idle] 0 rfl rfl rfl)).step
    (@Step.take _ _ _ _ [] [] [.serializing 0] [] 1 rfl rfl rfl)
  have second := ((taken.step (@Step.serialize _ _ _ _ [.serializing 0] [] 1 rfl)).step
    (@Step.send _ _ _ _ [.serializing 0] [] 1 _ rfl rfl)).step
    (@Step.finish _ _ _ _ [.serializing 0] [] 1 rfl)
  have first := ((second.step (@Step.serialize _ _ _ _ [] [.idle] 0 rfl)).step
    (@Step.send _ _ _ _ [] [.idle] 0 _ rfl rfl)).step
    (@Step.finish _ _ _ _ [] [.idle] 0 rfl)
  have joined := (first.step (.join rfl rfl (by decide))).step (.drop rfl)
  have finished := ((joined.step (.receive rfl rfl)).step (.receive rfl rfl)).step
    (.hangUp rfl rfl rfl)
  have hargs : Options.ofArgs? ["--rows=3", "--iterations=2", "--threads=2"]
      = some ⟨3, 2, some 2⟩ := by decide +kernel
  obtain ⟨-, -, -, hend⟩ := outcome_of_schedule .empty ⟨3, 2, some 2⟩ rfl (by decide) (by decide)
    Policy.firstCome_live finished
  obtain ⟨-, -, hresult, houtcome⟩ := hend _ rfl
  obtain ⟨outcome, houtcome, hcode, houtput⟩ := houtcome _ hargs
  exact ⟨_, outcome, finished, rfl, hresult, houtcome, hcode, houtput⟩

end HtmlTemplate.Benchmark
