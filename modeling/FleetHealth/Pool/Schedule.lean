import FleetHealth.Check

/- The pool of workers on a clock. Jobs are taken in order, each by the worker that is free
   first; a crash takes the worker with it, and without workers the jobs left are never taken. -/
namespace FleetHealth.Pool

/-- How many jobs may wait for a worker. -/
def queueCapacity : Nat := 64

def workerCount (concurrency jobs : Nat) : Nat := min (max concurrency 1) (max jobs 1)

/-- A service to check, and how its check goes. -/
structure Job where
  name : ServiceName
  check : Check
  own : ∀ o ∈ check.outcome, Check.Own name o
  deriving DecidableEq, Repr

/-- A job and when it was taken, if ever. -/
structure Placement where
  job : Job
  start : Option Nat
  deriving DecidableEq, Repr

namespace Placement

def finish? (p : Placement) : Option Nat := p.start.map (· + p.job.check.duration)

def outcome (p : Placement) : Outcome :=
  match p.start with
  | none => .aborted p.job.name
  | some _ => p.job.check.report p.job.name

end Placement

def earliest (t : Nat) (rest : List Nat) : Nat := rest.foldl min t

/-- The placements of the jobs, where `free` holds the time at which each living worker is free. -/
def place (free : List Nat) : List Job → List Placement
  | [] => []
  | job :: jobs =>
    match free with
    | [] => ⟨job, none⟩ :: place [] jobs
    | t :: ts =>
      let now := earliest t ts
      let others := (t :: ts).erase now
      ⟨job, some now⟩ ::
        place (if job.check.crashed then others else (now + job.check.duration) :: others) jobs

/-- All jobs, placed with every worker free at time zero. -/
def schedule (concurrency : Nat) (jobs : List Job) : List Placement :=
  place (List.replicate (workerCount concurrency jobs.length) 0) jobs

def makespan (placements : List Placement) : Nat :=
  (placements.filterMap Placement.finish?).foldl max 0

end FleetHealth.Pool
