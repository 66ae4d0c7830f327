import HtmlTemplate.Program.Benchmark

/-!
# `HtmlTemplate.Program.Pool`: the benchmark with its workers

`Benchmark.run` performs the jobs one after the other. This module has the main thread and the
workers of the pool side by side, step by step, and leaves open who goes next.

* The main thread hands out the jobs, each with a sender of its own for the channel. It waits until
  all jobs are done, drops its own sender, and receives lengths until no sender is left.
* A worker takes a job, serializes the template, sends the length, and drops the sender of the job.
  All workers share the template, and nobody changes it, so a serialization counts as one step.

Which of the waiting jobs goes to which idle worker is up to a `Policy` of the pool. Messages
arrive in the order in which they are sent. Sending fails once there is no receiver any more.
-/

set_option autoImplicit false

namespace HtmlTemplate.Benchmark

/-- What a worker of the pool does. -/
inductive Worker where
  | idle
  /-- Has taken a job. -/
  | serializing (job : Nat)
  /-- Has a length to send. -/
  | sending (job length : Nat)
  /-- Has sent the length. The sender is still there. -/
  | sent (job : Nat)
  /-- Had nobody to send to. -/
  | panicked (job : Nat)
  deriving DecidableEq, Repr

/-- The job that a worker holds. -/
def Worker.job? : Worker → Option Nat
  | .idle => none
  | .serializing k => some k
  | .sending k _ => some k
  | .sent k => some k
  | .panicked k => some k

/-- How far the main thread is. -/
inductive Phase where
  /-- Hands out jobs. So many have been handed out. -/
  | submitting (jobs : Nat)
  /-- Waits for the jobs. -/
  | joining
  /-- All jobs are done. The sender of the main thread is still there. -/
  | joined
  /-- Receives. These lengths have arrived so far. -/
  | receiving (lengths : List Nat)
  /-- Has received all there was, and gives the receiver up. -/
  | finished (lengths : List Nat)
  deriving DecidableEq, Repr

/-- Whether somebody would receive a message. -/
def Phase.hasReceiver : Phase → Bool
  | .finished _ => false
  | _ => true

/-- The main thread, the workers, and what lies between them. -/
structure State where
  phase : Phase
  /-- The jobs that were handed out and that no worker has taken. -/
  waiting : List Nat
  workers : List Worker
  /-- The jobs that are done, in the order in which they ended. -/
  done : List Nat
  /-- The number of senders. -/
  senders : Nat
  /-- The messages on their way, the oldest first. -/
  channel : List Nat
  /-- What can be seen from outside so far. -/
  events : List Event

/-- Says of a state whether the worker with a number may take the waiting job at a place. -/
abbrev Policy := State → Nat → Nat → Prop

/-- While jobs wait and all workers are idle, some worker may take some job. -/
def Policy.Live (policy : Policy) : Prop :=
  ∀ s : State, s.waiting ≠ [] → s.workers ≠ [] → (∀ w ∈ s.workers, w = .idle) →
    ∃ worker place, worker < s.workers.length ∧ place < s.waiting.length ∧ policy s worker place

/-- Any idle worker may take the job that has waited longest. -/
def Policy.firstCome : Policy := fun _ _ place => place = 0

/-- What can happen next. The template, the number of jobs and the policy stay the same. -/
inductive Step (policy : Policy) (t : Template) (jobs : Nat) : State → State → Prop
  /-- The main thread hands out a job, with a sender for it. -/
  | submit {s : State} {k : Nat} (hphase : s.phase = .submitting k) (hmore : k < jobs) :
      Step policy t jobs s
        { s with phase := .submitting (k + 1), waiting := s.waiting ++ [k],
                 senders := s.senders + 1 }
  /-- The main thread has handed out all jobs, and waits for them. -/
  | wait {s : State} {k : Nat} (hphase : s.phase = .submitting k) (hall : jobs ≤ k) :
      Step policy t jobs s { s with phase := .joining }
  /-- An idle worker takes a waiting job that the policy lets it have. -/
  | take {s : State} {before after : List Nat} {ws us : List Worker} {k : Nat}
      (hwaiting : s.waiting = before ++ k :: after) (hworkers : s.workers = ws ++ .idle :: us)
      (hpolicy : policy s ws.length before.length) :
      Step policy t jobs s
        { s with waiting := before ++ after, workers := ws ++ .serializing k :: us }
  /-- A worker serializes the template. -/
  | serialize {s : State} {ws us : List Worker} {k : Nat}
      (hworkers : s.workers = ws ++ .serializing k :: us) :
      Step policy t jobs s
        { s with workers := ws ++ .sending k (job t).value :: us,
                 events := s.events ++ (job t).events }
  /-- A worker sends the length that it has. -/
  | send {s : State} {ws us : List Worker} {k length : Nat}
      (hworkers : s.workers = ws ++ .sending k length :: us) (hreceiver : s.phase.hasReceiver) :
      Step policy t jobs s
        { s with workers := ws ++ .sent k :: us, channel := s.channel ++ [length] }
  /-- A worker wants to send its length, and finds nobody who would receive it. -/
  | panic {s : State} {ws us : List Worker} {k length : Nat}
      (hworkers : s.workers = ws ++ .sending k length :: us)
      (hreceiver : s.phase.hasReceiver = false) :
      Step policy t jobs s { s with workers := ws ++ .panicked k :: us }
  /-- A worker drops the sender of its job, which is then done. -/
  | finish {s : State} {ws us : List Worker} {k : Nat}
      (hworkers : s.workers = ws ++ .sent k :: us) :
      Step policy t jobs s
        { s with workers := ws ++ .idle :: us, done := s.done ++ [k], senders := s.senders - 1 }
  /-- The main thread finds all jobs done. -/
  | join {s : State} (hphase : s.phase = .joining) (hwaiting : s.waiting = [])
      (hworkers : ∀ w ∈ s.workers, w = .idle) :
      Step policy t jobs s { s with phase := .joined }
  /-- The main thread drops its own sender, and starts to receive. -/
  | drop {s : State} (hphase : s.phase = .joined) :
      Step policy t jobs s { s with phase := .receiving [], senders := s.senders - 1 }
  /-- The oldest message arrives at the main thread. -/
  | receive {s : State} {lengths rest : List Nat} {length : Nat}
      (hphase : s.phase = .receiving lengths) (hchannel : s.channel = length :: rest) :
      Step policy t jobs s
        { s with phase := .receiving (lengths ++ [length]), channel := rest }
  /-- The channel is empty, and no sender is left. -/
  | hangUp {s : State} {lengths : List Nat} (hphase : s.phase = .receiving lengths)
      (hchannel : s.channel = []) (hsenders : s.senders = 0) :
      Step policy t jobs s { s with phase := .finished lengths }

/-- The state after the single serialization, when the pool and the channel are new. -/
def State.start (t : Template) (workers : Nat) : State where
  phase := .submitting 0
  waiting := []
  workers := List.replicate workers .idle
  done := []
  senders := 1
  channel := []
  events := (job t).events

/-- A schedule of so many steps from the start leads to a state. -/
inductive Schedule (policy : Policy) (t : Template) (jobs workers : Nat) : Nat → State → Prop
  | start : Schedule policy t jobs workers 0 (.start t workers)
  | step {steps : Nat} {s s' : State} (hs : Schedule policy t jobs workers steps s)
      (hstep : Step policy t jobs s s') : Schedule policy t jobs workers (steps + 1) s'

/-- The whole run, once the main thread has received all lengths and looks at them. -/
def State.result? (t : Template) (jobs : Nat) (s : State) : Option (Run Ending) :=
  match s.phase with
  | .finished lengths =>
    let judged := verdict jobs (job t).value lengths
    some ⟨judged.value, s.events ++ judged.events⟩
  | _ => none

end HtmlTemplate.Benchmark
