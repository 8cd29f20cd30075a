import FleetHealth.Pool.Schedule

/- A run over a fleet: the backend must answer first, then every service is checked by the pool,
   and the outcomes come back in the order of the registry. -/
namespace FleetHealth

/-- `limit` bounds the first question and, each on its own, the checks. -/
structure Verifier where
  scan : Text → List LineMatch
  limit : Nat
  concurrency : Nat

/-- How a run ends. One in which the first question crashes returns nothing. -/
inductive Run where
  | unavailable (reason : Text) (elapsed : Nat)
  | crashed (elapsed : Nat)
  | completed (placements : List Pool.Placement) (elapsed : Nat)
  deriving Repr

namespace Verifier

def check (v : Verifier) (fleet : Fleet) (name : ServiceName) : Check :=
  Check.run v.scan (some v.limit) name (fleet name)

def job (v : Verifier) (fleet : Fleet) (name : ServiceName) : Pool.Job :=
  ⟨name, v.check fleet name, Check.run_own v.scan (some v.limit) name (fleet name)⟩

def jobs (v : Verifier) (fleet : Fleet) (r : Registry) : List Pool.Job :=
  r.names.map (v.job fleet)

def run (v : Verifier) (ping : Step Unit) (fleet : Fleet) (r : Registry) : Run :=
  if v.limit < ping.delay then
    .unavailable (BackendError.timeout (.ofMillis v.limit)).message v.limit
  else
    match ping.answer with
    | .failure e => .unavailable e.message ping.delay
    | .crash => .crashed ping.delay
    | .value _ =>
      let placed := Pool.schedule v.concurrency (v.jobs fleet r)
      .completed placed (ping.delay + Pool.makespan placed)

end Verifier

namespace Run

def outcomes : Run → List Outcome
  | .unavailable _ _ | .crashed _ => []
  | .completed placed _ => placed.map Pool.Placement.outcome

/-- Without an answer to the first question a run comes to no verdict. -/
def verdict? : Run → Option Verdict
  | .unavailable _ _ | .crashed _ => none
  | .completed placed _ => some (.ofOutcomes (placed.map Pool.Placement.outcome))

def elapsed : Run → Nat
  | .unavailable _ t | .crashed t => t
  | .completed _ t => t

/-- The queries begun for each service that was taken, in the order of the registry. -/
def queries : Run → List (ServiceName × List Stage)
  | .unavailable _ _ | .crashed _ => []
  | .completed placed _ =>
    (placed.filter fun p => p.start.isSome).map fun p => (p.job.name, p.job.check.queries)

end Run
end FleetHealth
