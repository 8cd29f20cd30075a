import FleetHealth.Verifier
import FleetHealth.Proofs.Pool.Placements
import Mathlib.Data.List.Nodup

/- A run that is not refused places one job for each registered service, in the order of the
   registry, and reports its own outcome for every service whose check was begun. -/
namespace FleetHealth

namespace Pool.Placement

theorem outcome_name (p : Placement) : p.outcome.name = p.job.name := by
  unfold outcome Check.report
  cases p.start with
  | none => rfl
  | some t =>
    cases ends : p.job.check.outcome with
    | none => rfl
    | some o => exact (p.job.own o ends).1

end Pool.Placement

namespace Run

def placements : Run → List Pool.Placement
  | .unavailable _ _ | .crashed _ => []
  | .completed placed _ => placed

/-- How many workers died during a run. -/
def losses (run : Run) : Nat := run.placements.countP Pool.Placement.lost

section
variable {run : Run} (closed : run.verdict? = none)
include closed

/-- A run without a verdict never came to a service. -/
theorem outcomes_of_closed : run.outcomes = [] := by
  cases run with
  | unavailable reason elapsed => rfl
  | crashed elapsed => rfl
  | completed placed elapsed => simp [verdict?] at closed

theorem queries_of_closed : run.queries = [] := by
  cases run with
  | unavailable reason elapsed => rfl
  | crashed elapsed => rfl
  | completed placed elapsed => simp [verdict?] at closed

end

end Run

namespace Verifier

variable (v : Verifier) (ping : Step Unit) (fleet : Fleet) (r : Registry)

/-- What a run comes to when the backend answered in time. -/
def placed : List Pool.Placement := Pool.schedule v.concurrency (v.jobs fleet r)

def workers : Nat := min (max v.concurrency 1) r.names.length

theorem jobs_length : (v.jobs fleet r).length = r.names.length := by simp [jobs]

/-- There is a service to check, so the pool has no worker without one. -/
theorem workers_eq :
    Pool.workerCount v.concurrency (v.jobs fleet r).length = v.workers r := by
  have some_ := List.length_pos_of_ne_nil r.names_ne_nil
  rw [jobs_length, Pool.workerCount, workers, Nat.max_eq_left some_]

theorem workers_pos : 0 < v.workers r := by
  have some_ := List.length_pos_of_ne_nil r.names_ne_nil
  simp only [workers]
  omega

theorem run_answered (answered : ping.answer = .value ()) (inTime : ping.delay ≤ v.limit) :
    v.run ping fleet r =
      .completed (v.placed fleet r) (ping.delay + Pool.makespan (v.placed fleet r)) := by
  unfold run
  rw [if_neg (by omega), answered]
  rfl

theorem run_refused {e : BackendError} (refused : ping.answer = .failure e)
    (inTime : ping.delay ≤ v.limit) : v.run ping fleet r = .unavailable e.message ping.delay := by
  unfold run
  rw [if_neg (by omega), refused]

theorem run_crashed (crashed : ping.answer = .crash) (inTime : ping.delay ≤ v.limit) :
    v.run ping fleet r = .crashed ping.delay := by
  unfold run
  rw [if_neg (by omega), crashed]

theorem run_late (late : v.limit < ping.delay) :
    v.run ping fleet r =
      .unavailable (BackendError.timeout (.ofMillis v.limit)).message v.limit := by
  unfold run
  rw [if_pos late]

theorem placed_jobs : (v.placed fleet r).map Pool.Placement.job = v.jobs fleet r :=
  Pool.schedule_jobs v.concurrency (v.jobs fleet r)

theorem placed_names :
    (v.placed fleet r).map (fun p => p.job.name) = r.names := by
  have names := congrArg (List.map Pool.Job.name) (v.placed_jobs fleet r)
  simpa [jobs, job, Function.comp_def] using names

theorem placed_of_name {name : ServiceName} (registered : name ∈ r.names) :
    ∃ p ∈ v.placed fleet r, p.job = v.job fleet name := by
  have known : v.job fleet name ∈ v.jobs fleet r := List.mem_map_of_mem registered
  rw [← v.placed_jobs fleet r] at known
  exact List.mem_map.mp known

variable {v fleet r}

theorem job_of_placed {p : Pool.Placement} (mem : p ∈ v.placed fleet r) :
    p.job.name ∈ r.names ∧ p.job = v.job fleet p.job.name := by
  have known : p.job ∈ v.jobs fleet r := v.placed_jobs fleet r ▸ List.mem_map_of_mem mem
  obtain ⟨name, registered, same⟩ := List.mem_map.mp known
  rw [← same]
  exact ⟨registered, rfl⟩

theorem placed_unique {p q : Pool.Placement} (memP : p ∈ v.placed fleet r)
    (memQ : q ∈ v.placed fleet r) (same : p.job.name = q.job.name) : p = q := by
  have distinct : ((v.placed fleet r).map fun p => p.job.name).Nodup :=
    v.placed_names fleet r ▸ r.names_nodup
  exact List.inj_on_of_nodup_map distinct memP memQ same

/-- A job is left out only when every worker died on the jobs before it. -/
theorem losses_of_unstarted {p : Pool.Placement} (mem : p ∈ v.placed fleet r)
    (never : p.start = none) :
    (v.placed fleet r).countP Pool.Placement.lost = v.workers r := by
  obtain ⟨i, here⟩ := List.mem_iff_getElem?.mp mem
  have started := Pool.schedule_started_iff here
  have before := Pool.crashCount_take_le_all (v.jobs fleet r) i
  rw [placed, Pool.schedule_losses]
  simp only [never, Option.isSome_none, Bool.false_eq_true, false_iff, workers_eq] at started ⊢
  omega

theorem unstarted_of_not_asked {p : Pool.Placement} (mem : p ∈ v.placed fleet r)
    (never : p.start = none) (elapsed : Nat) :
    p.job.name ∉ (Run.completed (v.placed fleet r) elapsed).queries.map Prod.fst := by
  intro asked
  simp only [Run.queries, List.map_map, List.mem_map, List.mem_filter, Function.comp_apply]
    at asked
  obtain ⟨q, ⟨memQ, started⟩, same⟩ := asked
  rw [placed_unique memQ mem same, never] at started
  simp at started

end Verifier
end FleetHealth
