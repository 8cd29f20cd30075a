import FleetHealth.Pool.Schedule

/- The pool without a clock: who may do what next. A producer puts jobs into a queue that holds at
   most so many, workers take the first job of the queue, and a collector waits for the answers in
   the order of the jobs. Jobs are named by their place in the list. Any enabled move may come
   next, so a property of all runs is a property of all orders in which things can happen. -/
namespace FleetHealth.Pool

inductive Worker where
  | idle
  | busy (job : Nat)
  | exited
  | dead
  deriving DecidableEq, Repr

/-- A worker that no longer takes jobs. -/
def Worker.gone : Worker → Bool
  | .exited | .dead => true
  | _ => false

/-- What the collector can see of a job. -/
inductive Answered where
  | waiting
  | outcome (o : Outcome)
  | dropped
  deriving DecidableEq, Repr

/-- `unsent` are the jobs that the producer still holds, `collected` counts the answers that the
collector has. -/
structure State where
  unsent : List Nat
  closed : Bool
  queue : List Nat
  workers : List Worker
  answers : List Answered
  collected : Nat
  deriving DecidableEq, Repr

namespace State

def start (concurrency : Nat) (jobs : List Job) : State where
  unsent := List.range jobs.length
  closed := false
  queue := []
  workers := List.replicate (workerCount concurrency jobs.length) .idle
  answers := List.replicate jobs.length .waiting
  collected := 0

def allGone (s : State) : Bool := s.workers.all Worker.gone

def setWorker (s : State) (w : Nat) (v : Worker) : State := { s with workers := s.workers.set w v }

def answer (s : State) (job : Nat) (a : Answered) : State :=
  { s with answers := s.answers.set job a }

/-- Nothing is left to happen: the queue is closed, everything is collected, no worker works. -/
def final (s : State) : Prop :=
  s.closed = true ∧ s.collected = s.answers.length ∧ s.allGone = true

end State

/-- What a move does. Jobs and workers are named by their places in the lists. -/
inductive Event where
  | sent (job : Nat)
  | refused (job : Nat)
  | closed
  | taken (worker job : Nat)
  | finished (worker job : Nat)
  | crashed (worker job : Nat)
  | left (worker : Nat)
  | discarded (job : Nat)
  | collected
  deriving DecidableEq, Repr

def Event.taken? : Event → Option Nat
  | .taken _ job => some job
  | _ => none

def Event.crashed? : Event → Option Nat
  | .crashed _ job => some job
  | _ => none

/-- The jobs whose checks were begun, in the order in which that happened. -/
def begun (events : List Event) : List Nat := events.filterMap Event.taken?

/-- The jobs whose checks crashed. -/
def casualties (events : List Event) : List Nat := events.filterMap Event.crashed?

inductive Move (jobs : List Job) : State → Event → State → Prop where
  /-- The producer waits while the queue is full. -/
  | send {s : State} {j : Nat} {rest : List Nat} (held : s.unsent = j :: rest)
      (room : s.queue.length < queueCapacity) (alive : s.allGone = false) :
      Move jobs s (.sent j) { s with unsent := rest, queue := s.queue ++ [j] }
  /-- Without a worker the queue takes no more jobs, full or not. -/
  | refuse {s : State} {j : Nat} {rest : List Nat} (held : s.unsent = j :: rest)
      (gone : s.allGone = true) :
      Move jobs s (.refused j) ({ s with unsent := rest }.answer j .dropped)
  | close {s : State} (sent : s.unsent = []) (still : s.closed = false) :
      Move jobs s .closed { s with closed := true }
  | take {s : State} {w j : Nat} {rest : List Nat} (free : s.workers[w]? = some .idle)
      (first : s.queue = j :: rest) :
      Move jobs s (.taken w j) ({ s with queue := rest }.setWorker w (.busy j))
  | finish {s : State} {w j : Nat} {job : Job} {o : Outcome}
      (works : s.workers[w]? = some (.busy j)) (known : jobs[j]? = some job)
      (ends : job.check.outcome = some o) :
      Move jobs s (.finished w j) ((s.setWorker w .idle).answer j (.outcome o))
  /-- A crash takes the worker with it. -/
  | crash {s : State} {w j : Nat} {job : Job}
      (works : s.workers[w]? = some (.busy j)) (known : jobs[j]? = some job)
      (crashes : job.check.outcome = none) :
      Move jobs s (.crashed w j) ((s.setWorker w .dead).answer j .dropped)
  | leave {s : State} {w : Nat} (free : s.workers[w]? = some .idle) (empty : s.queue = [])
      (ended : s.closed = true) :
      Move jobs s (.left w) (s.setWorker w .exited)
  /-- A closed queue that nobody reads gives up the jobs in it. -/
  | discard {s : State} {j : Nat} {rest : List Nat} (first : s.queue = j :: rest)
      (ended : s.closed = true) (gone : s.allGone = true) :
      Move jobs s (.discarded j) ({ s with queue := rest }.answer j .dropped)
  | collect {s : State} {a : Answered} (ended : s.closed = true)
      (next : s.answers[s.collected]? = some a) (there : a ≠ .waiting) :
      Move jobs s .collected { s with collected := s.collected + 1 }

/-- The orders in which things can happen from the start on, and the states that they lead to. -/
inductive History (concurrency : Nat) (jobs : List Job) : List Event → State → Prop where
  | start : History concurrency jobs [] (.start concurrency jobs)
  | move {events : List Event} {s t : State} {e : Event} (before : History concurrency jobs events s)
      (m : Move jobs s e t) : History concurrency jobs (events ++ [e]) t

def Reachable (concurrency : Nat) (jobs : List Job) (s : State) : Prop :=
  ∃ events, History concurrency jobs events s

/-- The queries of the checks that were begun; a check that is not begun makes none. -/
def queriesMade (jobs : List Job) (events : List Event) : List (ServiceName × List Stage) :=
  (begun events).filterMap fun j => (jobs[j]?).map fun job => (job.name, job.check.queries)

/-- What the collector makes of an answer. -/
def Answered.outcomeOf (name : ServiceName) : Answered → Outcome
  | .outcome o => o
  | _ => .aborted name

def State.outcomes (s : State) (jobs : List Job) : List Outcome :=
  (jobs.zip s.answers).map fun (job, a) => a.outcomeOf job.name

end FleetHealth.Pool
